import TfPack.Hwsys.SfpEvents

set_option autoImplicit false

/-! # The hardware daemon: the two slots

The handlers of an SFP slot are written twice. Those of one slot read in a table what those of the
other one read in the table with the registers of the slots exchanged, and keep and raise the same
(`slot_symmetry`).
-/

namespace Hwsys

open StepMachine

/-- A slot. -/
inductive Slot
  | SFP1 | SFP2
  deriving DecidableEq, Repr

/-- The other slot. -/
def Slot.other : Slot → Slot
  | SFP1 => SFP2
  | SFP2 => SFP1

/-- What a slot has a handler for. -/
inductive SfpKind
  | PRESENT | LOS | TEMPER | VOLTAGE | CURRENT | TX_BIAS | TX_POWER_DB | RX_POWER_DB
  deriving DecidableEq, Repr

/-- The register of a slot, `REG_SFP1_PRESENT` to `REG_SFP2_RX_POWER_DB`. -/
def sfpRegister : Slot → SfpKind → UInt32
  | .SFP1, .PRESENT => REG_SFP1_PRESENT
  | .SFP1, .LOS => 61
  | .SFP1, .TEMPER => 80
  | .SFP1, .VOLTAGE => 81
  | .SFP1, .CURRENT => 82
  | .SFP1, .TX_BIAS => 83
  | .SFP1, .TX_POWER_DB => 84
  | .SFP1, .RX_POWER_DB => 85
  | .SFP2, .PRESENT => REG_SFP2_PRESENT
  | .SFP2, .LOS => 91
  | .SFP2, .TEMPER => 110
  | .SFP2, .VOLTAGE => 111
  | .SFP2, .CURRENT => 112
  | .SFP2, .TX_BIAS => 113
  | .SFP2, .TX_POWER_DB => 114
  | .SFP2, .RX_POWER_DB => 115

/-- The handler that the register table has for a register of a slot: there is none for the current
and the bias. -/
def attached : Slot → SfpKind → Option Handler
  | .SFP1, .PRESENT => some .handler_SFP1_PRESENT
  | .SFP1, .LOS => some .handler_SFP1_LOS
  | .SFP1, .TEMPER => some .handler_SFP1_TEMPER
  | .SFP1, .VOLTAGE => some .handler_SFP1_VOLTAGE
  | .SFP1, .TX_POWER_DB => some .handler_SFP1_TX_POWER_DB
  | .SFP1, .RX_POWER_DB => some .handler_SFP1_RX_POWER_DB
  | .SFP2, .PRESENT => some .handler_SFP2_PRESENT
  | .SFP2, .LOS => some .handler_SFP2_LOS
  | .SFP2, .TEMPER => some .handler_SFP2_TEMPER
  | .SFP2, .VOLTAGE => some .handler_SFP2_VOLTAGE
  | .SFP2, .TX_POWER_DB => some .handler_SFP2_TX_POWER_DB
  | .SFP2, .RX_POWER_DB => some .handler_SFP2_RX_POWER_DB
  | _, _ => none

/-- Each of these registers is in the table, with its handler. -/
theorem registers_attached (slot : Slot) (kind : SfpKind) :
    registers.any (fun r => r.addr == sfpRegister slot kind &&
      r.eventsHandler == attached slot kind) = true := by
  cases slot <;> cases kind <;> decide +kernel

namespace SfpKind

/-- What a handler keeps. -/
abbrev Kept : SfpKind → Type
  | PRESENT | LOS => UInt8
  | _ => UInt16

/-- What a handler keeps at first. -/
def unset : (kind : SfpKind) → kind.Kept
  | PRESENT | LOS => (0xFF : UInt8)
  | TEMPER | VOLTAGE | CURRENT | TX_BIAS | TX_POWER_DB | RX_POWER_DB => (0xFFFF : UInt16)

/-- The handlers that ask first whether the module is there. -/
def gated : SfpKind → Bool
  | PRESENT | LOS => false
  | _ => true

end SfpKind

/-- The kept value and the event of a call. -/
def ByteHandled.seen (r : ByteHandled) : UInt8 × EventT := (r.prevValue, r.event)

/-- The kept value and the event of a call. -/
def Handled.seen (r : Handled) : UInt16 × EventT := (r.prevValue, r.event)

/-- A call of `handler_SFP1_*` or `handler_SFP2_*`. -/
def sfpHandler : Slot → (kind : SfpKind) → HandlerCall → kind.Kept → Option (kind.Kept × EventT)
  | .SFP1, .PRESENT, c, prev => (handlerSfp1Present c prev).map ByteHandled.seen
  | .SFP1, .LOS, c, prev => (handlerSfp1Los c prev).map ByteHandled.seen
  | .SFP1, .TEMPER, c, prev => (handlerSfp1Temper c prev).map Handled.seen
  | .SFP1, .VOLTAGE, c, prev => (handlerSfp1Voltage c prev).map Handled.seen
  | .SFP1, .CURRENT, c, prev => (handlerSfp1Current c prev).map Handled.seen
  | .SFP1, .TX_BIAS, c, prev => (handlerSfp1TxBias c prev).map Handled.seen
  | .SFP1, .TX_POWER_DB, c, prev => (handlerSfp1TxPowerDb c prev).map Handled.seen
  | .SFP1, .RX_POWER_DB, c, prev => (handlerSfp1RxPowerDb c prev).map Handled.seen
  | .SFP2, .PRESENT, c, prev => (handlerSfp2Present c prev).map ByteHandled.seen
  | .SFP2, .LOS, c, prev => (handlerSfp2Los c prev).map ByteHandled.seen
  | .SFP2, .TEMPER, c, prev => (handlerSfp2Temper c prev).map Handled.seen
  | .SFP2, .VOLTAGE, c, prev => (handlerSfp2Voltage c prev).map Handled.seen
  | .SFP2, .CURRENT, c, prev => (handlerSfp2Current c prev).map Handled.seen
  | .SFP2, .TX_BIAS, c, prev => (handlerSfp2TxBias c prev).map Handled.seen
  | .SFP2, .TX_POWER_DB, c, prev => (handlerSfp2TxPowerDb c prev).map Handled.seen
  | .SFP2, .RX_POWER_DB, c, prev => (handlerSfp2RxPowerDb c prev).map Handled.seen

/-! ## Snapshots -/

/-- The value that a table has for a register. -/
def Snapshot.reading (s : Snapshot) (addr : UInt32) : Option (Fin VALUE_LEN → UInt8) :=
  (getIdByAddr s.table addr).map (fun id => (s.table id).value)

/-- The register of the other slot, for a register of a slot. -/
def mateAddr (addr : UInt32) : UInt32 :=
  if 60 ≤ addr ∧ addr ≤ 87 then addr + 30
  else if 90 ≤ addr ∧ addr ≤ 117 then addr - 30
  else addr

/-- A snapshot with the values of the registers of the slots exchanged. -/
def Snapshot.swap (s : Snapshot) : Snapshot where
  table := fun i =>
    { s.table i with
      value :=
        if mateAddr (s.table i).addr = (s.table i).addr then (s.table i).value
        else (s.reading (mateAddr (s.table i).addr)).getD (s.table i).value }
  addr := s.addr

/-- A snapshot and the local structure of the handler that is called with it. -/
structure SfpCall where
  snapshot : Snapshot
  data : I2cData

/-- The calls of a handler, with the value it keeps. -/
def sfpMachine (slot : Slot) (kind : SfpKind) : Machine kind.Kept SfpCall EventT where
  step prev c :=
    (c.snapshot.reading (sfpRegister slot kind)).bind (fun value =>
      (sfpHandler slot kind ⟨c.snapshot.table, value, c.data⟩ prev).map (fun r => (r.1, [r.2])))

/-- The events of a handler, from its start. -/
def sfpEvents (slot : Slot) (kind : SfpKind) (calls : List SfpCall) : Option (List EventT) :=
  ((sfpMachine slot kind).run kind.unset calls).map Prod.snd

section Swap

variable (s : Snapshot) (slot : Slot) (kind : SfpKind)

theorem sfpRegister_mem : sfpRegister slot kind ∈ registers.map Register.addr := by
  cases slot <;> cases kind <;> decide +kernel

theorem mateAddr_sfpRegister : mateAddr (sfpRegister slot.other kind) = sfpRegister slot kind := by
  cases slot <;> cases kind <;> rfl

theorem sfpRegister_other_ne : sfpRegister slot kind ≠ sfpRegister slot.other kind := by
  cases slot <;> cases kind <;> decide

/-- **The other slot shows the value of the slot** in the exchanged snapshot. -/
theorem reading_swap :
    s.swap.reading (sfpRegister slot.other kind) = s.reading (sfpRegister slot kind) := by
  obtain ⟨i, hi, -⟩ := s.exists_getIdByAddr (sfpRegister_mem slot kind)
  obtain ⟨j, hj, haddr⟩ := s.exists_getIdByAddr (sfpRegister_mem slot.other kind)
  have hswap : getIdByAddr s.swap.table (sfpRegister slot.other kind) = some j :=
    (getIdByAddr_congr (fun _ => rfl) _).trans hj
  have hvalue : (s.swap.table j).value = (s.table i).value := by
    show (if mateAddr (s.table j).addr = (s.table j).addr then _ else _) = _
    rw [haddr, mateAddr_sfpRegister, if_neg (sfpRegister_other_ne slot kind), Snapshot.reading, hi]
    rfl
  rw [Snapshot.reading, Snapshot.reading, hswap, hi, Option.map_some, Option.map_some, hvalue]

theorem exists_reading : ∃ value, s.reading (sfpRegister slot kind) = some value := by
  obtain ⟨i, hi, -⟩ := s.exists_getIdByAddr (sfpRegister_mem slot kind)
  exact ⟨(s.table i).value, by rw [Snapshot.reading, hi, Option.map_some]⟩

theorem cached_eq (addr : UInt32) :
    s.cached addr = (s.reading addr).map (fun value => valueByte value 0) := by
  rw [Snapshot.cached, Snapshot.reading, Option.map_map]
  rfl

end Swap

/-! ## Symmetry -/

section Symmetry

variable {kind : SfpKind}

/-- The byte that the handler finds on the stack says what the table has for its own slot. -/
def SfpCall.Taken (slot : Slot) (kind : SfpKind) (c : SfpCall) : Prop :=
  kind.gated = true →
    (stackByte c.data = 1 ↔ c.snapshot.cached (sfpRegister slot .PRESENT) = some 1)

/-- What a threshold handler keeps and returns, in a table that has its register. -/
theorem sfpThreshold_seen {present : UInt32} (hpresent : present ∈ registers.map Register.addr)
    (check : UInt16 → UInt16 → Handled) (s : Snapshot) (value : Fin VALUE_LEN → UInt8)
    {data : I2cData} (prev : UInt16) {there : Bool} (h : stackByte data = 1 ↔ there = true) :
    (sfpThreshold present check ⟨s.table, value, data⟩ prev).map Handled.seen =
      some (if there then (check prev (get16bitValue value)).seen else (prev, .I2C_ERR_OK)) := by
  obtain ⟨id, hid, -⟩ := s.exists_getIdByAddr hpresent
  rw [sfpThreshold, presentByte_eq, hid]
  cases there with
  | true =>
      have hone : stackByte data = REG_SFP_PRESENT_yes := h.mpr rfl
      simp [hone]
  | false =>
      have hone : stackByte data ≠ REG_SFP_PRESENT_yes := fun heq => Bool.false_ne_true (h.mp heq)
      simp [hone, Handled.seen]

/-- What a handler of the optical signal keeps and returns: the power it logs does not count. -/
theorem sfpLos_seen {rxPower : UInt32} (hpower : rxPower ∈ registers.map Register.addr)
    (lostText upText : String) (s : Snapshot) (value : Fin VALUE_LEN → UInt8) (data : I2cData)
    (prev : UInt8) :
    (sfpLos rxPower lostText upText ⟨s.table, value, data⟩ prev).map ByteHandled.seen =
      some (keptByte prev (valueByte value 0),
        changedState REG_SFP_LOS_no REG_SFP_LOS_yes prev (valueByte value 0)) := by
  obtain ⟨id, hid, -⟩ := s.exists_getIdByAddr hpower
  simp only [sfpLos, i2cGetData, hid, Option.map_some]
  split
  · split <;> rfl
  · rfl

/-- **What a handler keeps and returns is the same in both slots.** -/
theorem exists_sfpHandler (kind : SfpKind) (value : Fin VALUE_LEN → UInt8) (prev : kind.Kept)
    (there : Bool) : ∃ r, ∀ (slot : Slot) (s : Snapshot) (data : I2cData),
      (kind.gated = true → (stackByte data = 1 ↔ there = true)) →
        sfpHandler slot kind ⟨s.table, value, data⟩ prev = some r := by
  have h1 : REG_SFP1_PRESENT ∈ registers.map Register.addr := sfpRegister_mem .SFP1 .PRESENT
  have h2 : REG_SFP2_PRESENT ∈ registers.map Register.addr := sfpRegister_mem .SFP2 .PRESENT
  cases kind with
  | PRESENT =>
      refine ⟨(keptByte prev (valueByte value 0),
        changedState REG_SFP_PRESENT_yes REG_SFP_PRESENT_no prev (valueByte value 0)),
        fun slot s data _ => ?_⟩
      cases slot <;> rfl
  | LOS =>
      apply Exists.intro
      intro slot s data _
      cases slot with
      | SFP1 => exact sfpLos_seen (by decide +kernel) _ _ s value data prev
      | SFP2 => exact sfpLos_seen (by decide +kernel) _ _ s value data prev
  | _ =>
      apply Exists.intro
      intro slot s data h
      cases slot with
      | SFP1 => exact sfpThreshold_seen h1 _ s value prev (h rfl)
      | SFP2 => exact sfpThreshold_seen h2 _ s value prev (h rfl)

/-- The call of the other slot with the exchanged snapshot. -/
def Mirrored (slot : Slot) (kind : SfpKind) (c c' : SfpCall) : Prop :=
  c'.snapshot = c.snapshot.swap ∧ c.Taken slot kind ∧ c'.Taken slot.other kind

/-- **A call of the other slot does the same.** -/
theorem step_mirrored {slot : Slot} {c c' : SfpCall} (h : Mirrored slot kind c c')
    (prev : kind.Kept) :
    (sfpMachine slot kind).step prev c = (sfpMachine slot.other kind).step prev c' := by
  obtain ⟨hswap, htaken, htaken'⟩ := h
  obtain ⟨value, hvalue⟩ := exists_reading c.snapshot slot kind
  have hvalue' : c'.snapshot.reading (sfpRegister slot.other kind) = some value := by
    rw [hswap, reading_swap, hvalue]
  have hcached : c'.snapshot.cached (sfpRegister slot.other .PRESENT) =
      c.snapshot.cached (sfpRegister slot .PRESENT) := by
    rw [cached_eq, cached_eq, hswap, reading_swap]
  obtain ⟨r, hr⟩ := exists_sfpHandler kind value prev
    (c.snapshot.cached (sfpRegister slot .PRESENT) == some 1)
  have hstep := hr slot c.snapshot c.data (fun hg => (htaken hg).trans (beq_iff_eq).symm)
  have hstep' := hr slot.other c'.snapshot c'.data
    (fun hg => ((htaken' hg).trans (by rw [hcached])).trans (beq_iff_eq).symm)
  simp only [sfpMachine, hvalue, hvalue', Option.bind_some, hstep, hstep']

/-- A call whose stack says what the table has can be taken. -/
theorem isSome_step {slot : Slot} {c : SfpCall} (h : c.Taken slot kind) (prev : kind.Kept) :
    ((sfpMachine slot kind).step prev c).isSome = true := by
  obtain ⟨value, hvalue⟩ := exists_reading c.snapshot slot kind
  obtain ⟨r, hr⟩ := exists_sfpHandler kind value prev
    (c.snapshot.cached (sfpRegister slot .PRESENT) == some 1)
  have hstep := hr slot c.snapshot c.data (fun hg => (h hg).trans (beq_iff_eq).symm)
  simp only [sfpMachine, hvalue, Option.bind_some, hstep, Option.map_some, Option.isSome_some]

/-- **Slot symmetry**: a handler and the one of the other slot, with the registers of the slots
exchanged in every snapshot, raise the same events. -/
theorem slot_symmetric {slot : Slot} {calls calls' : List SfpCall}
    (h : List.Forall₂ (Mirrored slot kind) calls calls') :
    ∃ evs, sfpEvents slot kind calls = some evs ∧ sfpEvents slot.other kind calls' = some evs := by
  have hsame : (sfpMachine slot kind).run kind.unset calls =
      (sfpMachine slot.other kind).run kind.unset calls' :=
    Machine.run_congr (fun prev _ _ hc => step_mirrored hc prev) h kind.unset
  have hsome : ((sfpMachine slot kind).run kind.unset calls).isSome = true := by
    have htaken : ∀ c ∈ calls, c.Taken slot kind := by
      clear hsame
      induction h with
      | nil => exact List.forall_mem_nil _
      | cons hc _ ih => exact List.forall_mem_cons.mpr ⟨hc.2.1, ih⟩
    exact Machine.run_isSome (fun c hc prev => isSome_step (htaken c hc) prev) kind.unset
  obtain ⟨r, hr⟩ := Option.isSome_iff_exists.mp hsome
  refine ⟨r.2, ?_, ?_⟩
  · rw [sfpEvents, hr, Option.map_some]
  · rw [sfpEvents, ← hsame, hr, Option.map_some]

/-- A call with a module in the first slot, and its voltage. -/
def voltageCall (low high : UInt8) : SfpCall where
  snapshot :=
    { table := fun i =>
        let entry := sockMsgArr (fun _ => 0) i
        if entry.addr = REG_SFP1_PRESENT then { entry with value := fun _ => 1 }
        else if entry.addr = 81 then
          { entry with value := fun k => if (k : Nat) = 0 then low else high }
        else entry
      addr := fun i => by dsimp only; split <;> [rfl; (split <;> rfl)] }
  data := { zeroData with value := fun _ => 1 }

/-- The call with the module in the second slot. -/
def mirrored (c : SfpCall) : SfpCall := { c with snapshot := c.snapshot.swap }

/-- A voltage that rises, in one slot and in the other. -/
theorem slot_symmetric_voltage :
    sfpEvents .SFP2 .VOLTAGE ([voltageCall 0xE4 0x0C, voltageCall 0xA0 0x0F].map mirrored) =
      some [.I2C_ERR_CHANGE_VALUE, .I2C_OVER_MAX] := by
  have hmirrored : ∀ low high, Mirrored .SFP1 .VOLTAGE (voltageCall low high)
      (mirrored (voltageCall low high)) := by
    intro low high
    have hpresent : (voltageCall low high).snapshot.cached (sfpRegister .SFP1 .PRESENT) =
        some 1 := by
      obtain ⟨id, hid, haddr⟩ :=
        (voltageCall low high).snapshot.exists_getIdByAddr (sfpRegister_mem .SFP1 .PRESENT)
      have hentry : (sockMsgArr (fun _ => 0) id).addr = REG_SFP1_PRESENT :=
        ((voltageCall low high).snapshot.addr id).symm.trans haddr
      rw [Snapshot.cached, hid, Option.map_some]
      simp only [voltageCall, if_pos hentry]
      rfl
    refine ⟨rfl, fun _ => iff_of_true rfl hpresent, fun _ => iff_of_true rfl ?_⟩
    show (voltageCall low high).snapshot.swap.cached (sfpRegister (Slot.other .SFP1) .PRESENT) = _
    rw [cached_eq, reading_swap, ← cached_eq, hpresent]
  obtain ⟨evs, hevs, hevs'⟩ := slot_symmetric (.cons (hmirrored 0xE4 0x0C)
    (.cons (hmirrored 0xA0 0x0F) .nil))
  have hfirst : sfpEvents .SFP1 .VOLTAGE [voltageCall 0xE4 0x0C, voltageCall 0xA0 0x0F] =
      some [.I2C_ERR_CHANGE_VALUE, .I2C_OVER_MAX] := by
    decide +kernel
  rw [← hfirst, hevs]
  exact hevs'

end Symmetry

end Hwsys
