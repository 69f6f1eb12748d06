import TfPack.RealtekPoe.Daemon
import TfPack.RealtekPoe.Mcu
import TfPack.RealtekPoe.Stream

set_option autoImplicit false

/-! # The reply handlers

What `poe_reply_consume` does with a reply that matches the head of the queue: it takes the handler
for the command id out of `reply_handler`, and the handler stores what the reply says in `state`.
Every access to one of the two arrays is recorded. `poe_reply_4_port_status` looks at the number of
a port before it uses it, the handlers of single ports do not, and the comparison of the id with
the length of `reply_handler` lets the length itself pass. These are the only ways past the end of
an array (`accesses_inRange_iff`).
-/

namespace RealtekPoe

open StepMachine

/-! ## What the replies say -/

/-- `struct port_state`, as far as replies set it. -/
structure PortState where
  status_str : Option String
  status : UInt8
  watt : Float32
  voltage : Float32
  current : Nat
  temperature : Float32
  poe_mode : Option String

/-- `struct state` without its timer. -/
structure State where
  sys_mode : Option String
  sys_version : UInt8
  sys_mcu : Option String
  sys_status : Option String
  sys_ext_version : UInt8
  power_consumption : Float32
  num_detected_ports : Nat
  ports : Nat → PortState

/-- `state.ports[i]`, changed by `f`. -/
def State.setPort (st : State) (i : Nat) (f : PortState → PortState) : State :=
  { st with ports := Function.update st.ports i (f (st.ports i)) }

/-- `GET_STR`: the entry of a table of texts, if there is one. -/
def getStr (a : UInt8) (b : List String) : Option String := b[a.toNat]?

/-- `read16_be`. -/
def read16Be (hi lo : UInt8) : Nat := 256 * hi.toNat + lo.toNat

/-- The table `status` of the states of a port. -/
def portStatus : List String :=
  ["Disabled", "Searching", "Delivering power", "rsvd", "Fault", "Other fault", "Requesting power"]

/-- The tables `mode`, `mcu` and `status` of `poe_reply_status`. -/
def sysMode : List String := ["Semi-auto I2C", "Semi-auto UART", "Auto I2C", "Auto UART"]

def sysMcu : List String :=
  ["GigaDevice GD32F310", "GigaDevice GD32E230", "GigaDevice GD32F303", "GigaDevice GD32E103"]

def sysStatus : List String :=
  ["Global Disable pin is de-asserted:", "Global Disable Pin is asserted:"].flatMap (fun pin =>
    ["No system reset from the previous query cmd:", "System reseted:"].flatMap (fun reset =>
      ["Configuration saved", "Configuration Dirty"].map (fun saved => pin ++ reset ++ saved)))

/-- The table `mode` of `poe_reply_port_ext_config`. -/
def portMode : List String := ["PoE", "Legacy", "pre-PoE+", "PoE+"]

/-! ## Handlers -/

/-- `poe_reply_status`. -/
def poeReplyStatus (st : State) (reply : Frame) : State :=
  { st with
    sys_mode := getStr (reply 2) sysMode
    num_detected_ports := (reply 3).toNat
    sys_version := reply 7
    sys_mcu := getStr (reply 8) sysMcu
    sys_status := getStr (reply 9) sysStatus
    sys_ext_version := reply 10 }

/-- `poe_reply_power_stats`. -/
def poeReplyPowerStats (st : State) (reply : Frame) : State :=
  { st with power_consumption := (Float.ofNat (read16Be (reply 7) (reply 8)) * 0.1).toFloat32 }

/-- `poe_reply_port_ext_config`, with the ports it accesses. -/
def poeReplyPortExtConfig (st : State) (reply : Frame) : State × List Nat :=
  let port := (reply 2).toNat
  (st.setPort port (fun p => { p with poe_mode := getStr (reply 3) portMode }), [port])

/-- The loop of `poe_reply_4_port_status` over the entries `is` of the reply: an entry with the
number `0xff` is passed over, one beyond the ports ends the loop. -/
def groupStatus (reply : Frame) : State → List (Fin 4) → State × List Nat
  | st, [] => (st, [])
  | st, i :: is =>
      let port := (reply 2).toNat * 4 + i.val
      let pstate := reply ⟨3 + i.val * 2, by omega⟩
      if port = 0xff then groupStatus reply st is
      else if MAX_PORT ≤ port then (st, [])
      else
        let r := groupStatus reply
          (st.setPort port (fun p =>
            { p with status_str := getStr (pstate &&& 0xf) portStatus, status := pstate &&& 0xf }))
          is
        (r.1, port :: r.2)

/-- `poe_reply_4_port_status`. -/
def poeReply4PortStatus (st : State) (reply : Frame) : State × List Nat :=
  groupStatus reply st [0, 1, 2, 3]

/-- `poe_reply_port_power_stats`. -/
def poeReplyPortPowerStats (st : State) (reply : Frame) : State × List Nat :=
  let port := (reply 2).toNat
  (st.setPort port (fun p =>
    { p with
      voltage := (Float.ofNat (read16Be (reply 3) (reply 4)) * 0.06545).toFloat32
      current := read16Be (reply 5) (reply 6)
      temperature :=
        (Float.ofInt ((read16Be (reply 7) (reply 8) : Int) - 120) * (-1.25) + 125).toFloat32
      watt := (Float.ofNat (read16Be (reply 9) (reply 10)) * 0.1).toFloat32 }), [port])

/-- The call of a handler; `poe_reply_port_config` only logs the reply. -/
def ReplyHandler.call (h : ReplyHandler) (st : State) (reply : Frame) : State × List Nat :=
  match h with
  | .poe_reply_status => (poeReplyStatus st reply, [])
  | .poe_reply_power_stats => (poeReplyPowerStats st reply, [])
  | .poe_reply_port_config => (st, [])
  | .poe_reply_port_ext_config => poeReplyPortExtConfig st reply
  | .poe_reply_4_port_status => poeReply4PortStatus st reply
  | .poe_reply_port_power_stats => poeReplyPortPowerStats st reply

/-! ## Accesses -/

/-- An access to `reply_handler` or to `state.ports`. -/
inductive Access
  | reply_handler (i : Nat)
  | ports (i : Nat)
  deriving DecidableEq

/-- The access is within the array. -/
def Access.inRange : Access → Prop
  | .reply_handler i => i < HANDLERS
  | .ports i => i < MAX_PORT

instance (a : Access) : Decidable a.inRange := by
  cases a <;> exact inferInstanceAs (Decidable (_ < _))

/-- The head of the queue, when the reply passes all checks of `poe_reply_consume` for it. -/
def checkedHead (q : Queue) (reply : Frame) : Option Cmd :=
  match q.cmd_pending with
  | [] => none
  | c :: _ =>
      let id := rtlToBcmCmdId (reply 0)
      if !reply.sumOk then none
      else if reply.rejects then none
      else if id ≠ rtlToBcmCmdId (c.cmd 0) ∨ HANDLERS < id.toNat then none
      else if reply 1 ≠ c.cmd 1 then none
      else some c

/-- What `poe_reply_consume` does to `state`, with its accesses. What is read behind the table of
handlers is not known. -/
def poeReplyEffect (st : State) (q : Queue) (reply : Frame) : State × List Access :=
  match checkedHead q reply with
  | none => (st, [])
  | some _ =>
      let id := rtlToBcmCmdId (reply 0)
      match replyHandler id with
      | none => (st, [.reply_handler id.toNat])
      | some h =>
          let r := h.call st reply
          (r.1, .reply_handler id.toNat :: r.2.map .ports)

/-- **The handler called and the entry read behind the table are those of the command queue.** -/
theorem poeReplyConsume_calls (q : Queue) (reply : Frame) :
    (poeReplyConsume q reply).2 =
      match checkedHead q reply with
      | none => []
      | some c =>
          if (rtlToBcmCmdId (reply 0)).toNat = HANDLERS then [.pastHandlers c.id]
          else ((replyHandler (rtlToBcmCmdId (reply 0))).map (.handled c.id · reply)).toList := by
  unfold poeReplyConsume checkedHead deliverReply
  cases q.cmd_pending with
  | nil => rfl
  | cons c rest =>
      dsimp only
      split
      · rfl
      · split
        · rfl
        · split
          · rfl
          · split
            · rfl
            · split
              · rfl
              · cases replyHandler (rtlToBcmCmdId (reply 0)) <;> rfl

/-! ## Out of range -/

section Accesses

variable {st : State} {q : Queue} {reply : Frame}

/-- The status of a group only touches ports of the table. -/
theorem groupStatus_inRange (st : State) (reply : Frame) (is : List (Fin 4)) :
    ∀ i ∈ (groupStatus reply st is).2, i < MAX_PORT := by
  induction is generalizing st with
  | nil => simp [groupStatus]
  | cons i is ih =>
      intro j hj
      rw [groupStatus] at hj
      split at hj
      · exact ih st j hj
      · split at hj
        · cases hj
        · rename_i hlt
          rcases List.mem_cons.mp hj with rfl | hj
          · exact Nat.not_le.mp hlt
          · exact ih _ j hj

/-- The head passes the checks exactly for a reply with its id and sequence number. -/
theorem checkedHead_eq_some_iff {c : Cmd} : checkedHead q reply = some c ↔
    (∃ rest, q.cmd_pending = c :: rest) ∧ correctReply c.cmd reply = true ∧
      reply.rejects = false ∧ (reply 0).toNat ≤ HANDLERS := by
  unfold checkedHead correctReply
  cases q.cmd_pending with
  | nil => simp
  | cons d rest =>
      simp only [rtlToBcmCmdId_eq, Option.ite_none_left_eq_some, Bool.not_eq_true', not_or,
        Bool.not_eq_false, Bool.not_eq_true, ne_eq, Decidable.not_not, Nat.not_lt,
        Option.some.injEq, List.cons.injEq, exists_and_left, exists_eq', and_true,
        Bool.and_eq_true, beq_iff_eq]
      constructor
      · rintro ⟨hsum, hrej, ⟨hid, hle⟩, hseq, rfl⟩
        exact ⟨rfl, ⟨⟨hsum, hid⟩, hseq⟩, hrej, hle⟩
      · rintro ⟨rfl, ⟨⟨hsum, hid⟩, hseq⟩, hrej, hle⟩
        exact ⟨hsum, hrej, ⟨hid, hle⟩, hseq, rfl⟩

/-- The reply matches the head of the queue, and its id is the length of the table of handlers, or
it is about a single port which does not exist. -/
def Stray (q : Queue) (reply : Frame) : Prop :=
  ∃ c rest, q.cmd_pending = c :: rest ∧ correctReply c.cmd reply = true ∧
    ((reply 0).toNat = HANDLERS ∨
      ((reply 0 = 0x49 ∨ reply 0 = 0x44) ∧ MAX_PORT ≤ (reply 2).toNat))

/-- Such ids are no rejections, and pass the comparison with the length. -/
theorem Stray.checked (h : Stray q reply) : ∃ c, checkedHead q reply = some c := by
  obtain ⟨c, rest, hq, hcorrect, hid⟩ := h
  refine ⟨c, checkedHead_eq_some_iff.mpr ⟨⟨rest, hq⟩, hcorrect, ?_⟩⟩
  unfold Frame.rejects
  rcases hid with hid | ⟨hid | hid, -⟩
  · have hbyte : reply 0 = 0x4a := UInt8.toNat_inj.mp hid
    rw [hbyte]
    decide
  · rw [hid]
    decide
  · rw [hid]
    decide

/-- The index of a handler in the table. -/
def ReplyHandler.index : ReplyHandler → UInt8
  | .poe_reply_status => 0x40
  | .poe_reply_power_stats => 0x41
  | .poe_reply_port_config => 0x48
  | .poe_reply_port_ext_config => 0x49
  | .poe_reply_4_port_status => 0x43
  | .poe_reply_port_power_stats => 0x44

theorem replyHandler_eq_some {id : UInt8} {h : ReplyHandler} (hh : replyHandler id = some h) :
    id = h.index := by
  unfold replyHandler at hh
  repeat' split at hh
  all_goals first
    | (cases hh; assumption)
    | cases hh

/-- The accesses of a handler are out of range exactly for the reply of a port that does not
exist. -/
theorem call_inRange_iff {h : ReplyHandler} (hh : replyHandler (reply 0) = some h) :
    (∀ i ∈ (h.call st reply).2, i < MAX_PORT) ↔
      ¬ ((reply 0 = 0x49 ∨ reply 0 = 0x44) ∧ MAX_PORT ≤ (reply 2).toNat) := by
  rw [replyHandler_eq_some hh]
  cases h with
  | poe_reply_status => simp [ReplyHandler.call, ReplyHandler.index]
  | poe_reply_power_stats => simp [ReplyHandler.call, ReplyHandler.index]
  | poe_reply_port_config => simp [ReplyHandler.call, ReplyHandler.index]
  | poe_reply_port_ext_config =>
      simp [ReplyHandler.call, ReplyHandler.index, poeReplyPortExtConfig]
  | poe_reply_4_port_status =>
      have hin := groupStatus_inRange st reply [0, 1, 2, 3]
      simpa [ReplyHandler.call, ReplyHandler.index, poeReply4PortStatus] using hin
  | poe_reply_port_power_stats =>
      simp [ReplyHandler.call, ReplyHandler.index, poeReplyPortPowerStats]

/-- **For every queue and every reply, all accesses to `reply_handler` and to `state.ports` are in
range exactly when the reply does not stray.** -/
theorem accesses_inRange_iff (st : State) (q : Queue) (reply : Frame) :
    (∀ a ∈ (poeReplyEffect st q reply).2, a.inRange) ↔ ¬ Stray q reply := by
  cases hc : checkedHead q reply with
  | none =>
      have hnot : ¬ Stray q reply := by
        intro hstray
        obtain ⟨c, hsome⟩ := hstray.checked
        rw [hc] at hsome
        cases hsome
      simp [poeReplyEffect, hc, hnot]
  | some c =>
      obtain ⟨⟨rest, hq⟩, hcorrect, -, hle⟩ := checkedHead_eq_some_iff.mp hc
      have hstray : Stray q reply ↔ ((reply 0).toNat = HANDLERS ∨
          ((reply 0 = 0x49 ∨ reply 0 = 0x44) ∧ MAX_PORT ≤ (reply 2).toNat)) := by
        constructor
        · rintro ⟨-, -, -, -, hid⟩
          exact hid
        · intro hid
          exact ⟨c, rest, hq, hcorrect, hid⟩
      rw [hstray, not_or]
      cases hh : replyHandler (reply 0) with
      | none =>
          have hother : ¬ (reply 0 = 0x49 ∨ reply 0 = 0x44) := by
            rintro (hid | hid) <;>
              · rw [hid] at hh
                cases hh
          simp only [poeReplyEffect, hc, rtlToBcmCmdId_eq, hh, List.forall_mem_singleton,
            Access.inRange, hother, false_and, not_false_eq_true, and_true]
          omega
      | some h =>
          have hlt := (replyHandler_id hh).1
          have hcall : (∀ i ∈ (h.call st reply).2, i < MAX_PORT) ↔ _ := call_inRange_iff hh
          simp only [poeReplyEffect, hc, rtlToBcmCmdId_eq, hh, List.forall_mem_cons,
            List.forall_mem_map, Access.inRange]
          rw [hcall]
          have hne : (reply 0).toNat ≠ HANDLERS := by omega
          exact and_congr_left' (iff_of_true hlt hne)

end Accesses

/-- `state` when the daemon starts. -/
def State.initial : State :=
  ⟨none, 0, none, none, 0, 0, 0, fun _ => ⟨none, 0, 0, 0, 0, 0, none⟩⟩

/-- The replies to the seven commands of the setup, then a client's frame `49`. -/
def sendframeRun : List DaemonAction :=
  ([0x40, 0x10, 0x02, 0x18, 0x15, 0x11, 0x12].zipIdx 1).map
      (fun p => .rx (buildFrame [p.1] (UInt8.ofNat p.2)).bytes) ++
    [.request (.sendframe (some ['4', '9']))]

/-- The reply to a query of port `0xff` is stored in the entry `0xff` of the port table. -/
theorem port_reply_out_of_range : ¬ ∀ (strtof : List Char → Float32) (b : Boot) vs tr d,
    Exec (daemonMachine strtof) (b.start strtof).1 vs tr d →
      ∀ st reply, ∀ a ∈ (poeReplyEffect st d.queue reply).2, a.inRange := by
  intro h
  obtain ⟨vs, hvs, -⟩ := Exec.replay (daemonMachine fun _ => 0)
    ((Boot.mk [] [] none).start fun _ => 0).1 sendframeRun (by decide +kernel)
  have hport := h _ _ _ _ _ hvs .initial (buildFrame [0x49] 8) (.ports 0xff) (by decide +kernel)
  exact absurd hport (by decide)

end RealtekPoe
