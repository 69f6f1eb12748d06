import Mathlib.Logic.Function.Basic

set_option autoImplicit false

/-! # The PoE MCU daemon: configuration

`load_port_config` to `config_apply_quirks` of `main.c`: the port table and the power budget, as
the daemon reads them from the UCI packages `poe` and `port` when it starts, and the port table
again on the ubus request `reload`. A C string is a `List Char`. The arithmetic on the budget is
that of single-precision floats; `strtof` is a parameter.
-/

namespace RealtekPoe

/-! ## The C library -/

/-- `isspace` in the C locale. -/
def isspace (c : Char) : Bool := c == ' ' || (9 ≤ c.toNat && c.toNat ≤ 13)

/-- The value of a digit or letter; `36` for anything else. -/
def digitVal (c : Char) : Nat :=
  if c.isDigit then c.toNat - '0'.toNat
  else if c.isLower then c.toNat - 'a'.toNat + 10
  else if c.isUpper then c.toNat - 'A'.toNat + 10
  else 36

/-- A `0x` or `0X` with a hexadecimal digit after it. -/
def hexPrefix : List Char → Bool
  | '0' :: x :: d :: _ => (x == 'x' || x == 'X') && decide (digitVal d < 16)
  | _ => false

/-- The largest `unsigned long` of the target, a 32-bit machine. -/
def ULONG_MAX : Nat := 4294967295

/-- The base `strtoul` settles on, and the text from the first digit on. -/
def strtoulBase (base : Nat) (t : List Char) : Nat × List Char :=
  if (base = 0 ∨ base = 16) ∧ hexPrefix t = true then (16, t.drop 2)
  else if base ≠ 0 then (base, t)
  else if t.head? = some '0' then (8, t)
  else (10, t)

/-- `strtoul(s, &end, base)`: the value, whether `errno` is set, and the text at `end`. -/
def strtoul (s : List Char) (base : Nat) : Nat × Bool × List Char :=
  let t := s.dropWhile isspace
  let (neg, t) := match t with
    | '-' :: u => (true, u)
    | '+' :: u => (false, u)
    | u => (false, u)
  let (base, t) := strtoulBase base t
  match t.takeWhile (fun c => decide (digitVal c < base)) with
  | [] => (0, false, s)
  | ds =>
      let v := ds.foldl (fun n d => base * n + digitVal d) 0
      let rest := t.dropWhile (fun c => decide (digitVal c < base))
      if ULONG_MAX < v then (ULONG_MAX, true, rest)
      else (if neg then (ULONG_MAX + 1 - v) % (ULONG_MAX + 1) else v, false, rest)

/-! ## The configuration -/

/-- `MAX_PORT`. -/
def MAX_PORT : Nat := 24

/-- `struct port_config`; `name` is an array of sixteen characters. -/
structure PortConfig where
  name : List Char
  valid : Bool
  enable : Bool
  priority : UInt8
  power_up_mode : UInt8
  power_budget : UInt8

/-- What `memset` leaves in the port table. -/
def PortConfig.zero : PortConfig := ⟨[], false, false, 0, 0, 0⟩

/-- `struct config`. The table has `MAX_PORT` entries; the source writes `enable` past its end
when the package `port` has more sections, which no modelled function reads. -/
structure Config where
  budget : Float32
  budget_guard : Float32
  port_count : Nat
  pse_id_set_budget_mask : UInt8
  ports : Nat → PortConfig

/-- The initial value of `config`. -/
def Config.initial : Config := ⟨65, 7, 0, 0x01, fun _ => .zero⟩

/-- A section of a UCI package: its type and `uci_lookup_option_string`. -/
structure UciSection where
  type : String
  option : String → Option (List Char)

/-- `port_config` of the port `id`, changed by `f`. -/
def Config.setPort (c : Config) (id : Nat) (f : PortConfig → PortConfig) : Config :=
  { c with ports := Function.update c.ports id (f (c.ports id)) }

/-- `load_port_config`. -/
def loadPortConfig (c : Config) (s : UciSection) : Config :=
  match s.option "id", s.option "name" with
  | some id_str, some name =>
      let id := (strtoul id_str 0).1
      if id = 0 ∨ MAX_PORT < id then c
      else
        let c := { c with port_count := max c.port_count id }
        c.setPort (id - 1) (fun p =>
          let priority :=
            UInt8.ofNat (((s.option "priority").map (fun t => (strtoul t 0).1)).getD 0)
          { p with
            name := name.take 16
            valid := true
            priority := if 3 < priority then 3 else priority
            enable := true
            power_up_mode :=
              if s.option "poe_plus" = some ['1'] then 3 else p.power_up_mode })
  | _, _ => c

/-- `load_port_state_config`. -/
def loadPortStateConfig (c : Config) (s : UciSection) (port : Nat) : Config :=
  c.setPort port (fun p => { p with enable := s.option "poe" == some "enable".toList })

/-- `load_global_config`. -/
def loadGlobalConfig (strtof : List Char → Float32) (c : Config) (s : UciSection) : Config :=
  let budget := match s.option "budget" with
    | some t => strtof t
    | none => 31.0
  { c with
    budget := budget
    budget_guard := match s.option "guard" with
      | some t => strtof t
      | none => budget / 10 }

/-- The loops of `config_load` over the package `poe`; the budget is read at the start only. -/
def loadPoe (strtof : List Char → Float32) (init : Bool) (c : Config)
    (sections : List UciSection) : Config :=
  let c :=
    if init then (sections.filter (fun s => s.type == "global")).foldl (loadGlobalConfig strtof) c
    else c
  (sections.filter (fun s => s.type == "port")).foldl loadPortConfig c

/-- The loop of `config_load` over the package `port`: its `lan` sections, counted from `0`. -/
def loadPortStates (c : Config) (sections : List UciSection) : Config :=
  ((sections.filter (fun s => s.type == "lan")).zipIdx).foldl
    (fun c s => loadPortStateConfig c s.1 s.2) c

/-- `config_load`; a package that cannot be read has no sections. The port table is cleared, the
number of ports is not. -/
def configLoad (strtof : List Char → Float32) (init : Bool) (poe port : List UciSection)
    (c : Config) : Config :=
  loadPortStates (loadPoe strtof init { c with ports := fun _ => .zero } poe) port

/-- `config_apply_quirks`, for the text of the device tree's `compatible`. -/
def configApplyQuirks (compatible : Option String) (c : Config) : Config :=
  if compatible = some "zyxel,gs1900-24hp-v1" then { c with pse_id_set_budget_mask := 0xff } else c

/-! ## What loading keeps -/

/-- The table has at least `n` ports, and no port has a power budget of its own: no option sets
one. -/
structure Config.Loaded (n : Nat) (c : Config) : Prop where
  noBudgets : ∀ i, (c.ports i).power_budget = 0
  port_count : n ≤ c.port_count

/-- A condition kept by every section is kept by all of them. -/
theorem foldl_keeps {α β : Type} (P : β → Prop) {f : β → α → β} (h : ∀ b a, P b → P (f b a))
    (l : List α) {b : β} (hb : P b) : P (l.foldl f b) := by
  induction l generalizing b with
  | nil => exact hb
  | cons a l ih => exact ih (h b a hb)

theorem Config.Loaded.setPort {n : Nat} {c : Config} (h : c.Loaded n)
    (f : PortConfig → PortConfig) (hf : ∀ p, (f p).power_budget = p.power_budget) (id : Nat) :
    (c.setPort id f).Loaded n := by
  refine ⟨fun i => ?_, h.port_count⟩
  rcases eq_or_ne i id with rfl | hne
  · simp [Config.setPort, hf, h.noBudgets i]
  · simp [Config.setPort, Function.update_of_ne hne, h.noBudgets i]

theorem loadPortConfig_loaded {n : Nat} {c : Config} (s : UciSection) (h : c.Loaded n) :
    (loadPortConfig c s).Loaded n := by
  unfold loadPortConfig
  split
  · dsimp only
    split
    · exact h
    · next id_str _ _ _ _ =>
        have hmax : Config.Loaded n
            { c with port_count := max c.port_count (strtoul id_str 0).1 } :=
          ⟨h.noBudgets, Nat.le_trans h.port_count (Nat.le_max_left _ _)⟩
        refine hmax.setPort _ ?_ _
        intro p
        rfl
  · exact h

theorem loadGlobalConfig_loaded (strtof : List Char → Float32) {n : Nat} {c : Config}
    (s : UciSection) (h : c.Loaded n) : (loadGlobalConfig strtof c s).Loaded n :=
  ⟨h.noBudgets, h.port_count⟩

theorem loadPortStateConfig_loaded {n : Nat} {c : Config} (s : UciSection) (port : Nat)
    (h : c.Loaded n) : (loadPortStateConfig c s port).Loaded n := by
  refine h.setPort _ ?_ port
  intro p
  rfl

theorem loadPoe_loaded (strtof : List Char → Float32) (init : Bool) {n : Nat} {c : Config}
    (sections : List UciSection) (h : c.Loaded n) :
    (loadPoe strtof init c sections).Loaded n := by
  refine foldl_keeps (Config.Loaded n) (fun _ s => loadPortConfig_loaded s) _ ?_
  split
  · exact foldl_keeps (Config.Loaded n) (fun b s hb => loadGlobalConfig_loaded strtof s hb) _ h
  · exact h

/-- **`config_load` never lowers the number of ports and gives no port a power budget.** -/
theorem configLoad_loaded (strtof : List Char → Float32) (init : Bool)
    (poe port : List UciSection) (c : Config) :
    (configLoad strtof init poe port c).Loaded c.port_count := by
  have hpoe := loadPoe_loaded strtof init poe
    (⟨fun _ => rfl, Nat.le_refl _⟩ :
      Config.Loaded c.port_count { c with ports := fun _ => .zero })
  exact foldl_keeps (Config.Loaded c.port_count)
    (fun _ s hb => loadPortStateConfig_loaded s.1 s.2 hb) _ hpoe

end RealtekPoe
