import TfPack.Hwsys.VoltageAlarms
import TfPack.Lib.SampledSignal

set_option autoImplicit false

/-! # The hardware daemon: events of two-state inputs

The handlers of the inputs that are in one of two states. Each keeps the byte it has read last,
`0xFF` before the first, and raises an event where the byte it reads is one of the two states and
the kept one is the other. A byte that is neither state is kept as well, and what the input does
meanwhile is not seen (`stateRight_iff`).
-/

namespace Hwsys

open SampledSignal StepMachine

/-! ## The handlers -/

/-- `check_changed_state`. -/
def checkChangedState (value preValue state_1 state_2 : UInt32) : EventT :=
  if value = state_1 ∧ preValue = state_2 then .I2C_CHANGED_TO_CLOSE
  else if value = state_2 ∧ preValue = state_1 then .I2C_CHANGED_TO_OPEN
  else .I2C_ERR_OK

/-- What a call of a handler of bytes leaves and returns: the byte it keeps, the event, and its
calls of `send_log`, as format and number. -/
structure ByteHandled where
  prevValue : UInt8
  event : EventT
  log : List (String × Option Int)
  deriving DecidableEq

/-- The event of a byte that is not the kept one, when there is a kept one. -/
def changedState (state_1 state_2 prevValue value : UInt8) : EventT :=
  if value ≠ prevValue then
    if prevValue ≠ 0xFF then
      checkChangedState value.toUInt32 prevValue.toUInt32 state_1.toUInt32 state_2.toUInt32
    else .I2C_ERR_OK
  else .I2C_ERR_OK

/-- The byte that is kept. -/
def keptByte (prevValue value : UInt8) : UInt8 := if value ≠ prevValue then value else prevValue

/-- `value[0]` of a call. -/
def HandlerCall.byte (c : HandlerCall) : UInt8 := valueByte c.value 0

def REG_TAMPER_open : UInt8 := 0
def REG_TAMPER_close : UInt8 := 1
def REG_RPS_VAC_vac : UInt8 := 1
def REG_RPS_VAC_battary : UInt8 := 0
def REG_SFP_PRESENT_no : UInt8 := 0
def REG_SFP_LOS_yes : UInt8 := 1
def REG_SFP_LOS_no : UInt8 := 0
def REG_SFP1_RX_POWER : UInt32 := 87
def REG_SFP2_RX_POWER : UInt32 := 117

/-- What the handlers of the contacts do, with their lines. -/
def contactHandler (closeText openText : String) (c : HandlerCall) (prevValue : UInt8) :
    Option ByteHandled :=
  let event := changedState REG_TAMPER_close REG_TAMPER_open prevValue c.byte
  some {
    event
    prevValue := keptByte prevValue c.byte
    log :=
      if event = .I2C_CHANGED_TO_CLOSE then [(closeText, none)]
      else if event = .I2C_CHANGED_TO_OPEN then [(openText, none)]
      else [] }

/-- `handler_TAMPER`. -/
def handlerTamper : HandlerCall → UInt8 → Option ByteHandled :=
  contactHandler "TAMPER changed to Close\n" "TAMPER changed to Open\n"

/-- `handler_SENSOR1`. -/
def handlerSensor1 : HandlerCall → UInt8 → Option ByteHandled :=
  contactHandler "SENSOR1 changed to Close\n" "SENSOR1 changed to Open\n"

/-- `handler_SENSOR2`. -/
def handlerSensor2 : HandlerCall → UInt8 → Option ByteHandled :=
  contactHandler "SENSOR2 changed to Close\n" "SENSOR2 changed to Open\n"

/-- `handler_RELAY1`. -/
def handlerRelay1 : HandlerCall → UInt8 → Option ByteHandled :=
  contactHandler "RELAY changed to Close\n" "RELAY changed to Open\n"

/-- `handler_RPS_VAC`. -/
def handlerRpsVac (c : HandlerCall) (vac_prevValue : UInt8) : Option ByteHandled :=
  let event := changedState REG_RPS_VAC_vac REG_RPS_VAC_battary vac_prevValue c.byte
  let event :=
    if event ≠ .I2C_ERR_OK then
      if event = .I2C_CHANGED_TO_CLOSE then .I2C_CHANGED_TO_VAC else .I2C_CHANGED_TO_BAT
    else event
  some {
    event
    prevValue := keptByte vac_prevValue c.byte
    log :=
      if event = .I2C_CHANGED_TO_VAC then [("UPS: power changed to VAC\n", none)]
      else if event = .I2C_CHANGED_TO_BAT then [("UPS: power changed to Battery\n", none)]
      else [] }

/-- What the handlers of the presence of an SFP module do. -/
def sfpPresent (inText outText : String) (c : HandlerCall) (prevValue : UInt8) :
    Option ByteHandled :=
  let event := changedState REG_SFP_PRESENT_yes REG_SFP_PRESENT_no prevValue c.byte
  some {
    event
    prevValue := keptByte prevValue c.byte
    log :=
      if event ≠ .I2C_ERR_OK then
        if c.byte ≠ 0 then [(inText, none)] else [(outText, none)]
      else [] }

/-- `handler_SFP1_PRESENT`. -/
def handlerSfp1Present : HandlerCall → UInt8 → Option ByteHandled :=
  sfpPresent "SFP1: in chassis\n" "SFP1: removed from chassis\n"

/-- `handler_SFP2_PRESENT`. -/
def handlerSfp2Present : HandlerCall → UInt8 → Option ByteHandled :=
  sfpPresent "SFP2: in chassis\n" "SFP2: removed from chassis\n"

/-- What the handlers of the optical signal do. The power that is logged comes from `i2c_getData`,
with two bytes asked for. -/
def sfpLos (rxPower : UInt32) (lostText upText : String) (c : HandlerCall) (prevValue : UInt8) :
    Option ByteHandled :=
  let event := changedState REG_SFP_LOS_no REG_SFP_LOS_yes prevValue c.byte
  let log : Option (List (String × Option Int)) :=
    if event ≠ .I2C_ERR_OK then
      if c.byte ≠ 0 then some [(lostText, none)]
      else
        (i2cGetData c.sock_msgArr c.data rxPower 2).map (fun r =>
          [(upText, some ((get16bitValue r.2.value).toNat : Int))])
    else some []
  log.map (fun log => ⟨keptByte prevValue c.byte, event, log⟩)

/-- `handler_SFP1_LOS`. -/
def handlerSfp1Los : HandlerCall → UInt8 → Option ByteHandled :=
  sfpLos REG_SFP1_RX_POWER "SFP1: lost optical signal\n" "SFP1: optical signal UP (%d dBm)\n"

/-- `handler_SFP2_LOS`. -/
def handlerSfp2Los : HandlerCall → UInt8 → Option ByteHandled :=
  sfpLos REG_SFP2_RX_POWER "SFP2: lost optical signal\n" "SFP2: optical signal UP (%d dBm)\n"

/-- The handlers of two-state inputs. -/
inductive StateHandler
  | handler_TAMPER | handler_SENSOR1 | handler_SENSOR2 | handler_RELAY1 | handler_RPS_VAC
  | handler_SFP1_PRESENT | handler_SFP2_PRESENT | handler_SFP1_LOS | handler_SFP2_LOS
  deriving DecidableEq, Repr

namespace StateHandler

/-- A call of a handler. -/
def call : StateHandler → HandlerCall → UInt8 → Option ByteHandled
  | handler_TAMPER => handlerTamper
  | handler_SENSOR1 => handlerSensor1
  | handler_SENSOR2 => handlerSensor2
  | handler_RELAY1 => handlerRelay1
  | handler_RPS_VAC => handlerRpsVac
  | handler_SFP1_PRESENT => handlerSfp1Present
  | handler_SFP2_PRESENT => handlerSfp2Present
  | handler_SFP1_LOS => handlerSfp1Los
  | handler_SFP2_LOS => handlerSfp2Los

/-- The event for the byte `0`. -/
def lowEvent : StateHandler → EventT
  | handler_RPS_VAC => .I2C_CHANGED_TO_BAT
  | handler_SFP1_LOS | handler_SFP2_LOS => .I2C_CHANGED_TO_CLOSE
  | _ => .I2C_CHANGED_TO_OPEN

/-- The event for the byte `1`. -/
def highEvent : StateHandler → EventT
  | handler_RPS_VAC => .I2C_CHANGED_TO_VAC
  | handler_SFP1_LOS | handler_SFP2_LOS => .I2C_CHANGED_TO_OPEN
  | _ => .I2C_CHANGED_TO_CLOSE

/-- The event for a byte, when it is one of the two states of the input. -/
def report (h : StateHandler) (b : UInt8) : Option EventT :=
  if b = 0 then some h.lowEvent else if b = 1 then some h.highEvent else none

/-- The calls of a handler, with the byte it keeps: each shows the byte read and the event. -/
def machine (h : StateHandler) : Machine UInt8 HandlerCall (UInt8 × EventT) where
  step prevValue c := (h.call c prevValue).map (fun r => (r.prevValue, [(c.byte, r.event)]))

end StateHandler

/-! ## What a call does -/

section Call

variable {h : StateHandler} {c : HandlerCall} {prevValue : UInt8}

/-- The byte that is kept is always the one read. -/
theorem keptByte_eq (prevValue value : UInt8) : keptByte prevValue value = value := by
  unfold keptByte
  split
  · rfl
  · rename_i h
    exact (not_not.mp h).symm

/-- **The event of a byte**: only from one state to the other. -/
theorem changedState_eq {state_1 state_2 : UInt8} (h1 : state_1 ≠ 0xFF) (h2 : state_2 ≠ 0xFF)
    (hne : state_1 ≠ state_2) (prevValue value : UInt8) :
    changedState state_1 state_2 prevValue value =
      if value = state_1 ∧ prevValue = state_2 then .I2C_CHANGED_TO_CLOSE
      else if value = state_2 ∧ prevValue = state_1 then .I2C_CHANGED_TO_OPEN
      else .I2C_ERR_OK := by
  have hword : ∀ x y : UInt8, x.toUInt32 = y.toUInt32 ↔ x = y := by
    intro x y
    rw [← UInt32.toNat_inj, ← UInt8.toNat_inj, UInt8.toNat_toUInt32, UInt8.toNat_toUInt32]
  unfold changedState checkChangedState
  simp only [hword]
  grind

/-- The events a call emits. -/
def emittedBy (event : EventT) : List EventT := if event = .I2C_ERR_OK then [] else [event]

/-- The event with which a handler reports a byte, after the one it keeps. -/
def StateHandler.event (h : StateHandler) (prevValue value : UInt8) : EventT :=
  if value = 1 ∧ prevValue = 0 then h.highEvent
  else if value = 0 ∧ prevValue = 1 then h.lowEvent
  else .I2C_ERR_OK

/-- **A call keeps the byte it reads**, with the event of a change. -/
theorem StateHandler.call_eq {r : ByteHandled} (hc : h.call c prevValue = some r) :
    r.prevValue = c.byte ∧ r.event = h.event prevValue c.byte := by
  have hclose : changedState 1 0 prevValue c.byte = _ :=
    changedState_eq (by decide) (by decide) (by decide) ..
  have hopen : changedState 0 1 prevValue c.byte = _ :=
    changedState_eq (by decide) (by decide) (by decide) ..
  cases h with
  | handler_RPS_VAC =>
      cases hc
      refine ⟨keptByte_eq .., ?_⟩
      simp only [REG_RPS_VAC_vac, REG_RPS_VAC_battary, hclose, event, lowEvent, highEvent]
      split
      · rfl
      · split <;> rfl
  | handler_SFP1_LOS | handler_SFP2_LOS =>
      simp only [call, handlerSfp1Los, handlerSfp2Los, sfpLos, Option.map_eq_some_iff] at hc
      obtain ⟨log, -, rfl⟩ := hc
      refine ⟨keptByte_eq .., ?_⟩
      simp only [REG_SFP_LOS_no, REG_SFP_LOS_yes, hopen, event, lowEvent, highEvent]
      grind
  | _ =>
      cases hc
      exact ⟨keptByte_eq .., hclose⟩

/-- The events of a call, as those of a change of the state shown. -/
theorem emittedBy_event (prevValue value : UInt8) :
    emittedBy (h.event prevValue value) = change (h.report prevValue) (h.report value) := by
  have hlow : h.lowEvent ≠ .I2C_ERR_OK := by cases h <;> decide
  have hhigh : h.highEvent ≠ .I2C_ERR_OK := by cases h <;> decide
  have hne : h.lowEvent ≠ h.highEvent := by cases h <;> decide
  have hbits : (0 : UInt8) ≠ 1 := by decide
  by_cases hv : value = 0
  · by_cases hp : prevValue = 0
    · simp [StateHandler.event, StateHandler.report, emittedBy, change, hv, hp]
    · by_cases hp1 : prevValue = 1 <;>
        simp [StateHandler.event, StateHandler.report, emittedBy, change, hv, hp, hp1, hlow,
          hne.symm]
  · by_cases hv1 : value = 1
    · by_cases hp : prevValue = 0
      · simp [StateHandler.event, StateHandler.report, emittedBy, change, hv1, hp, hhigh, hne]
      · by_cases hp1 : prevValue = 1 <;>
          simp [StateHandler.event, StateHandler.report, emittedBy, change, hv1, hp, hp1]
    · simp [StateHandler.event, StateHandler.report, emittedBy, hv, hv1]

end Call

/-! ## The events of a run -/

/-- The events that are raised. -/
def emitted (tr : List (UInt8 × EventT)) : List EventT := tr.flatMap (fun p => emittedBy p.2)

/-- The state each byte shows. -/
def StateHandler.readings (h : StateHandler) (tr : List (UInt8 × EventT)) : List (Option EventT) :=
  tr.map (fun p => h.report p.1)

/-- What the events so far should be: those of the input's two states, in turn, and when both have
been read, the last one that of the state read last. -/
structure StateRight (h : StateHandler) (tr : List (UInt8 × EventT)) : Prop where
  states : ∀ e ∈ emitted tr, e = h.lowEvent ∨ e = h.highEvent
  alternate : (emitted tr).IsChain (· ≠ ·)
  last : ∀ a ∈ (h.readings tr).reduceOption, ∀ b ∈ (h.readings tr).reduceOption, a ≠ b →
    (emitted tr).getLast? = (h.readings tr).reduceOption.getLast?

section Run

variable {h : StateHandler} {tr : List (UInt8 × EventT)} {prevValue : UInt8}

/-- **A run emits the changes of the readings** at each of its points, and keeps the last one. -/
theorem emitted_run {vs : List (Visit UInt8 HandlerCall (UInt8 × EventT))}
    (hrun : Exec h.machine 0xFF vs tr prevValue) :
    (∀ past, past <+: tr → emitted past = changes (h.readings past)) ∧
      h.report prevValue = lastSample (h.readings tr) := by
  refine hrun.inv (fun prevValue tr =>
    (∀ past, past <+: tr → emitted past = changes (h.readings past)) ∧
      h.report prevValue = lastSample (h.readings tr)) ⟨?_, rfl⟩ ?_
  · intro past hpast
    rw [List.prefix_nil.mp hpast]
    rfl
  · rintro s tr c s' evs ⟨hemitted, hlast⟩ hs
    simp only [StateHandler.machine, Option.map_eq_some_iff, Prod.mk.injEq] at hs
    obtain ⟨r, hr, rfl, rfl⟩ := hs
    obtain ⟨hprev, hevent⟩ := StateHandler.call_eq hr
    have hreadings :
        h.readings (tr ++ [(c.byte, r.event)]) = h.readings tr ++ [h.report c.byte] := by
      rw [StateHandler.readings, List.map_append]
      rfl
    refine ⟨?_, by rw [hreadings, lastSample_concat, hprev]⟩
    intro past hpast
    rcases List.prefix_concat_iff.mp hpast with rfl | hpast
    · rw [hreadings, changes_concat, emitted, List.flatMap_append, List.flatMap_singleton,
        ← emitted, hemitted tr (List.prefix_refl tr), hevent, emittedBy_event, hlast]
    · exact hemitted past hpast

/-- The events so far are right when they follow the readings. -/
theorem stateRight_iff_follows (hemitted : emitted tr = changes (h.readings tr)) :
    StateRight h tr ↔ Follows (h.readings tr) := by
  constructor
  · rintro ⟨-, halternate, hlast⟩
    rw [hemitted] at halternate hlast
    exact ⟨halternate, hlast⟩
  · rintro ⟨halternate, hlast⟩
    refine ⟨?_, hemitted ▸ halternate, hemitted ▸ hlast⟩
    intro e he
    rw [hemitted] at he
    have hmem := (exists_of_mem_changes he).1
    rw [List.reduceOption_mem_iff, StateHandler.readings, List.mem_map] at hmem
    obtain ⟨p, -, hp⟩ := hmem
    unfold StateHandler.report at hp
    split at hp
    · exact .inl (Option.some.inj hp).symm
    · split at hp
      · exact .inr (Option.some.inj hp).symm
      · cases hp

/-- **When the events of a two-state input are right all along a run**: no byte that is neither
state comes between the input's two states. -/
theorem stateRight_iff {vs : List (Visit UInt8 HandlerCall (UInt8 × EventT))}
    (hrun : Exec h.machine 0xFF vs tr prevValue) :
    (∀ past, past <+: tr → StateRight h past) ↔ Unbroken (h.readings tr) := by
  have hemitted := (emitted_run hrun).1
  rw [← follows_iff_unbroken]
  constructor
  · intro hright p hp
    -- the prefixes of the readings are the readings of the prefixes
    obtain ⟨past, hpast, rfl⟩ := List.prefix_map_iff.mp hp
    exact (stateRight_iff_follows (hemitted past hpast)).mp (hright past hpast)
  · intro hfollows past hpast
    exact (stateRight_iff_follows (hemitted past hpast)).mpr (hfollows _ (hpast.map _))

/-- A call with a byte. -/
def byteCall (b : UInt8) : HandlerCall :=
  { sock_msgArr := sockMsgArr fun _ => 0, value := fun _ => b, data := zeroData }

/-- A contact that opens and closes. -/
theorem stateRight_iff_tamper : ∃ vs tr prevValue,
    Exec StateHandler.handler_TAMPER.machine 0xFF vs tr prevValue ∧
      emitted tr = [.I2C_CHANGED_TO_OPEN, .I2C_CHANGED_TO_CLOSE] ∧
        ((∀ past, past <+: tr → StateRight .handler_TAMPER past) ↔
          Unbroken (StateHandler.handler_TAMPER.readings tr)) := by
  obtain ⟨vs, hvs, -⟩ := Exec.replay StateHandler.handler_TAMPER.machine 0xFF
    ([1, 0, 0, 1].map byteCall) rfl
  exact ⟨vs, _, _, hvs, by decide, stateRight_iff hvs⟩

/-- An invalid byte on the way hides that the contact has closed. -/
theorem invalid_byte_hides : ¬∀ (h : StateHandler)
    (vs : List (Visit UInt8 HandlerCall (UInt8 × EventT))) (tr : List (UInt8 × EventT))
    (prevValue : UInt8), Exec h.machine 0xFF vs tr prevValue → StateRight h tr := by
  intro h
  obtain ⟨vs, hvs, -⟩ := Exec.replay StateHandler.handler_TAMPER.machine 0xFF
    ([0, 5, 1].map byteCall) rfl
  have hright := h _ vs _ _ hvs
  have hlast := hright.last .I2C_CHANGED_TO_OPEN (by decide) .I2C_CHANGED_TO_CLOSE (by decide)
    (by decide)
  revert hlast
  decide

end Run
end Hwsys
