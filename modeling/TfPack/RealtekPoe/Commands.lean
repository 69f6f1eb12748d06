import Mathlib.Data.List.Basic
import TfPack.RealtekPoe.Config

set_option autoImplicit false

/-! # The PoE MCU daemon: the commands it queues

The bytes that the setup at the start, the two-second poll and the ubus requests hand to
`poe_cmd_queue`, in order. Which commands these are depends on the configuration alone, never on
the queue, and the results of `poe_cmd_queue` are not looked at. How many they are is the second
half of the module: with the port table as `config_load` leaves it, a number that depends only on
the number of ports.
-/

namespace RealtekPoe

/-- The bytes of one command. -/
abbrev Bytes := List UInt8

/-! ## Single commands -/

/-- The two bytes `write16_be` stores. -/
def write16Be (v : UInt16) : Bytes := [(v >>> 8).toUInt8, (v &&& 0xff).toUInt8]

/-- The bytes of `port_ids` and its companions: what is not used of the four is `0xff`. -/
def padded (l : Bytes) : Bytes := l ++ List.replicate (4 - l.length) 0xff

/-- `poet_cmd_4_port`. -/
def poetCmd4Port (cmd_id : UInt8) (port data : Bytes) : Bytes :=
  cmd_id :: 0x00 :: (List.zipWith (fun p d => [p, d]) (padded port) (padded data)).flatten

def poeCmdPortEnable (port : UInt8) (enable : Bool) : Bytes :=
  [0x01, 0x00, port, if enable then 1 else 0]

def poeCmdPortMappingEnable (enable : Bool) : Bytes := [0x02, 0x00, if enable then 1 else 0]

def poeCmdPortDetectionType (port type : UInt8) : Bytes := [0x09, 0x00, port, type]

def poeCmdPortClassification (port enable : Bytes) : Bytes := poetCmd4Port 0x11 port enable

def poeCmdPortDisconnectType (port type : UInt8) : Bytes := [0x0F, 0x00, port, type]

def poeCmdPortPowerLimitType (port limit : Bytes) : Bytes := poetCmd4Port 0x12 port limit

def poeCmdPortPowerBudget (port budget : UInt8) : Bytes := [0x13, 0x00, port, budget]

def poeCmdPowerMgmtMode (mode : UInt8) : Bytes := [0x10, 0x00, mode]

def poeCmdGlobalPowerBudget (pse : UInt8) (budget guard : Float32) : Bytes :=
  [0x18, 0x00, pse] ++ write16Be (budget * 10).toUInt16 ++ write16Be (guard * 10).toUInt16

def poeSetPortPriority (port priority : Bytes) : Bytes := poetCmd4Port 0x15 port priority

def poeCmdStatus : Bytes := [0x40]

def poeCmdPowerStats : Bytes := [0x41]

def poeCmdPortConfig (port : UInt8) : Bytes := [0x48, 0x00, port]

def poeCmdPortExtConfig (port : UInt8) : Bytes := [0x49, 0x00, port]

def poeCmd4PortStatus (group : UInt8) : Bytes := [0x43, 0x00, group]

def poeCmdPortPowerStats (port : UInt8) : Bytes := [0x44, 0x00, port]

/-! ## Setup -/

/-- The inner loop of `poet_setup`, from port `i` on with `left` ports to go: the enabled ports up
to the `room`-th one, and the index at which the loop stops, by `break` or at the end. -/
def fillGroup (ports : Nat → PortConfig) : Nat → Nat → Nat → List Nat × Nat
  | _, 0, i => ([], i)
  | room, left + 1, i =>
      if !(ports i).enable then fillGroup ports room left (i + 1)
      else if room = 1 then ([i], i)
      else
        let r := fillGroup ports (room - 1) left (i + 1)
        (i :: r.1, r.2)

/-- The three commands `poet_setup` queues for a group of ports. Only the last group has fewer
than four, so that the ones in `enable_all` that a group overwrites are not needed again. -/
def groupSetup (ports : Nat → PortConfig) (group : List Nat) : List Bytes :=
  let port_ids := group.map UInt8.ofNat
  let priorities := group.map (fun i => (ports i).priority)
  let limit_type := group.map (fun i => if (ports i).power_budget ≠ 0 then 2 else 1)
  let enable_all := group.map (fun _ => 1)
  [poeSetPortPriority port_ids priorities, poeCmdPortClassification port_ids enable_all,
    poeCmdPortPowerLimitType port_ids limit_type]

/-- The loop stops no earlier than it starts. -/
theorem le_fillGroup (ports : Nat → PortConfig) (room left i : Nat) :
    i ≤ (fillGroup ports room left i).2 := by
  induction left generalizing room i with
  | zero => exact Nat.le_refl _
  | succ left ih =>
      rw [fillGroup]
      split
      · have := ih room (i + 1)
        omega
      · split
        · exact Nat.le_refl _
        · have := ih (room - 1) (i + 1)
          dsimp only
          omega

/-- `poet_setup`, from port `i` on: a group is set up before the number of ports is looked at. -/
def poetSetup (ports : Nat → PortConfig) (num_ports i : Nat) : List Bytes :=
  let r := fillGroup ports 4 (num_ports - i) i
  groupSetup ports r.1 ++
    if h : r.2 + 1 < num_ports then poetSetup ports num_ports (r.2 + 1) else []
termination_by num_ports - i
decreasing_by
  have hge : i ≤ r.2 := le_fillGroup ports 4 (num_ports - i) i
  show num_ports - (r.2 + 1) < num_ports - i
  omega

/-- What `poe_port_setup` queues for a port with a power budget of its own. -/
def portBudgetSetup (c : Config) (i : Nat) : List Bytes :=
  if !(c.ports i).enable || (c.ports i).power_budget == 0 then []
  else
    [poeCmdPortDisconnectType (UInt8.ofNat i) 2, poeCmdPortDetectionType (UInt8.ofNat i) 3,
      poeCmdPortPowerBudget (UInt8.ofNat i) (c.ports i).power_budget]

/-- `poe_port_setup`. -/
def poePortSetup (c : Config) : List Bytes :=
  (List.range c.port_count).flatMap (portBudgetSetup c) ++
    poetSetup c.ports c.port_count 0 ++
    (List.range c.port_count).map (fun i => poeCmdPortEnable (UInt8.ofNat i) (c.ports i).enable)

/-- `poe_set_power_budget`. -/
def poeSetPowerBudget (c : Config) : List Bytes :=
  ((List.range 8).filter (fun pse => c.pse_id_set_budget_mask.toNat.testBit pse)).map
    (fun pse => poeCmdGlobalPowerBudget (UInt8.ofNat pse) c.budget c.budget_guard)

/-- `poe_initial_setup`. -/
def poeInitialSetup (c : Config) : List Bytes :=
  [poeCmdStatus, poeCmdPowerMgmtMode 2, poeCmdPortMappingEnable false] ++ poeSetPowerBudget c ++
    poePortSetup c

/-! ## The poll -/

/-- What `state_timeout_cb` asks of each port. -/
def portPoll (i : Nat) : List Bytes :=
  [poeCmdPortConfig (UInt8.ofNat i), poeCmdPortExtConfig (UInt8.ofNat i),
    poeCmdPortPowerStats (UInt8.ofNat i)]

/-- `state_timeout_cb`: the power, the ports by groups of four, and every port. -/
def stateTimeoutCb (c : Config) : List Bytes :=
  poeCmdPowerStats ::
    (List.range ((c.port_count + 3) / 4)).map (fun g => poeCmd4PortStatus (UInt8.ofNat g)) ++
    (List.range c.port_count).flatMap portPoll

/-! ## ubus requests -/

/-- The loop of `ubus_poe_sendframe_cb`, with room for `room` more bytes; `none` is
`UBUS_STATUS_INVALID_ARGUMENT`. -/
def frameBytes : Nat → List Char → Option Bytes
  | 0, _ => some []
  | _, [] => some []
  | room + 1, c :: cs =>
      let r := strtoul (c :: cs) 16
      if r.2.1 || r.2.2 == c :: cs || decide (0xff < r.1) then none
      else (frameBytes room r.2.2).map (UInt8.ofNat r.1 :: ·)

/-- `ubus_poe_sendframe_cb`. -/
def ubusPoeSendframeCb (frame : Option (List Char)) : List Bytes :=
  ((frame.bind (frameBytes 9)).map (fun bytes => [bytes])).getD []

/-- `!strcmp(port_name, port->name)`. A name of sixteen characters fills its array: the
comparison reads on into the fields after it, which for a valid port are not zero. -/
def PortConfig.isNamed (p : PortConfig) (port_name : List Char) : Bool :=
  decide (p.name.length < 16) && p.name == port_name

/-- `ubus_poe_manage_cb`: the first enabled port of that name. -/
def ubusPoeManageCb (c : Config) (port : Option (List Char)) (enable : Option Bool) :
    List Bytes :=
  match port, enable with
  | some port_name, some enable =>
      match (List.range c.port_count).find?
          (fun i => (c.ports i).enable && (c.ports i).isNamed port_name) with
      | some i => [poeCmdPortEnable (UInt8.ofNat i) enable]
      | none => []
  | _, _ => []

/-! ## How many commands -/

/-- The most commands `poe_port_setup` queues for `n` ports. -/
def portSetupCmds (n : Nat) : Nat := 3 * (n / 4 + 1) + n

/-- The most commands queued at the start for `n` ports. -/
def setupCmds (n : Nat) : Nat := 11 + portSetupCmds n

/-- The number of commands a poll queues for `n` ports. -/
def pollCmds (n : Nat) : Nat := 1 + (n + 3) / 4 + 3 * n

/-- A group ends the loop over the ports, or takes four of them. -/
theorem fillGroup_full (ports : Nat → PortConfig) (room left i : Nat) (hroom : 0 < room) :
    (fillGroup ports room left i).2 = i + left ∨
      i + room ≤ (fillGroup ports room left i).2 + 1 := by
  induction left generalizing room i with
  | zero => exact .inl rfl
  | succ left ih =>
      rw [fillGroup]
      split
      · rcases ih room (i + 1) hroom with h | h <;> omega
      · split
        · exact .inr (by dsimp only; omega)
        · rcases ih (room - 1) (i + 1) (by omega) with h | h
          · exact .inl (by dsimp only; omega)
          · exact .inr (by dsimp only; omega)

theorem length_groupSetup (ports : Nat → PortConfig) (group : List Nat) :
    (groupSetup ports group).length = 3 := rfl

/-- Three commands for every group of four, and for the first group in any case. -/
theorem length_poetSetup (ports : Nat → PortConfig) (num_ports i : Nat) :
    (poetSetup ports num_ports i).length ≤ 3 * ((num_ports - i) / 4 + 1) := by
  induction i using poetSetup.induct ports num_ports with
  | case1 i r ih =>
      rw [poetSetup]
      show (groupSetup ports r.1 ++ if h : r.2 + 1 < num_ports then
        poetSetup ports num_ports (r.2 + 1) else []).length ≤ _
      by_cases hnext : r.2 + 1 < num_ports
      · -- another group follows, so the loop stopped by `break`, four ports further on
        have hfour : i + 4 ≤ r.2 + 1 := by
          rcases fillGroup_full ports 4 (num_ports - i) i (by decide) with h | h
          · have hend : r.2 = i + (num_ports - i) := h
            omega
          · exact h
        have hrest := ih hnext
        rw [dif_pos hnext, List.length_append, length_groupSetup]
        have hquot : (num_ports - (r.2 + 1)) / 4 + 1 ≤ (num_ports - i) / 4 := by omega
        omega
      · rw [dif_neg hnext, List.append_nil, length_groupSetup]
        omega

theorem length_poePortSetup {c : Config} {n : Nat} (h : c.Loaded n) :
    (poePortSetup c).length ≤ portSetupCmds c.port_count := by
  have hbudget : (List.range c.port_count).flatMap (portBudgetSetup c) = [] := by
    rw [List.flatMap_eq_nil_iff]
    intro i _
    simp [portBudgetSetup, h.noBudgets i]
  have hgroups := length_poetSetup c.ports c.port_count 0
  rw [poePortSetup, hbudget, List.nil_append, List.length_append, List.length_map,
    List.length_range]
  rw [Nat.sub_zero] at hgroups
  unfold portSetupCmds
  omega

theorem length_poeInitialSetup {c : Config} {n : Nat} (h : c.Loaded n) :
    (poeInitialSetup c).length ≤ setupCmds c.port_count := by
  have hport := length_poePortSetup h
  have hpse : (poeSetPowerBudget c).length ≤ 8 := by
    rw [poeSetPowerBudget, List.length_map]
    exact Nat.le_trans (List.length_filter_le _ _) (by simp)
  simp only [poeInitialSetup, List.length_append, List.length_cons, List.length_nil]
  unfold setupCmds
  omega

/-- **A poll queues as many commands as the number of ports says.** -/
theorem length_stateTimeoutCb (c : Config) :
    (stateTimeoutCb c).length = pollCmds c.port_count := by
  have hports : ∀ l : List Nat, (l.flatMap portPoll).length = 3 * l.length := by
    intro l
    induction l with
    | nil => rfl
    | cons i l ih =>
        rw [List.flatMap_cons, List.length_append, ih, List.length_cons]
        show 3 + _ = _
        omega
  simp only [stateTimeoutCb, List.cons_append, List.length_cons, List.length_append,
    List.length_map, List.length_range, hports]
  unfold pollCmds
  omega

theorem length_ubusPoeSendframeCb (frame : Option (List Char)) :
    (ubusPoeSendframeCb frame).length ≤ 1 := by
  unfold ubusPoeSendframeCb
  cases frame.bind (frameBytes 9) <;> simp

theorem length_ubusPoeManageCb (c : Config) (port : Option (List Char)) (enable : Option Bool) :
    (ubusPoeManageCb c port enable).length ≤ 1 := by
  unfold ubusPoeManageCb
  repeat' split
  all_goals simp

/-- More ports, more commands. -/
theorem portSetupCmds_mono {m n : Nat} (h : m ≤ n) : portSetupCmds m ≤ portSetupCmds n := by
  unfold portSetupCmds
  omega

theorem pollCmds_mono {m n : Nat} (h : m ≤ n) : pollCmds m ≤ pollCmds n := by
  unfold pollCmds
  omega

end RealtekPoe
