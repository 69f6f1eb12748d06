import TfPack.Hwsys.Events

set_option autoImplicit false

/-! # The hardware daemon: alarms of the temperature

`handler_SHT_TEMPERATURE` keeps a reading only when it raises an event with it, where the other
threshold handlers keep every reading that has changed; and `check_out_of_range` raises none while
the kept value is the `0xFFFF` it starts as. So it never raises any: `temperatureRight_iff`.
-/

namespace Hwsys

open StepMachine

def REG_SHT_CONNECTED : UInt32 := 50
def REG_SHT_CONNECTED_yes : UInt8 := 1
def REG_SHT_TEMPERATURE_max : Int32 := 500
def REG_SHT_TEMPERATURE_min : Int32 := -600

/-- The signed reading of a call. -/
def HandlerCall.temperature (c : HandlerCall) : Int16 := (get16bitValue c.value).toInt16

/-- `handler_SHT_TEMPERATURE`. The signed reading and limits become unsigned words. -/
def handlerShtTemperature (c : HandlerCall) (shtTemper_prevValue : UInt16) : Option Handled :=
  (c.presentByte REG_SHT_CONNECTED).map (fun b =>
    if b = REG_SHT_CONNECTED_yes then
      let value := c.temperature
      let event := checkOutOfRange value.toInt32.toUInt32 shtTemper_prevValue.toUInt32
        REG_SHT_TEMPERATURE_max.toUInt32 REG_SHT_TEMPERATURE_min.toUInt32
      { event
        prevValue :=
          if event = .I2C_OVER_MAX ∨ event = .I2C_LESS_MIN then value.toUInt16
          else shtTemper_prevValue
        log :=
          if event = .I2C_OVER_MAX then
            [("SHT: temperature is higher than maximum %d\n", value.toInt)]
          else if event = .I2C_LESS_MIN then
            [("SHT: temperature is lower than minimum %d\n", value.toInt)]
          else [] }
    else ⟨shtTemper_prevValue, .I2C_ERR_OK, []⟩)

/-- The sensor is connected, by the register table. -/
def sensorConnected (t : Table) : Bool :=
  (getIdByAddr t REG_SHT_CONNECTED).any (fun id => valueByte (t id).value 0 == REG_SHT_CONNECTED_yes)

/-- The calls of the handler, with the value it keeps: each with the sensor connected shows the
reading and the event. -/
def shtMachine : Machine UInt16 HandlerCall (Int16 × EventT) where
  step prevValue c := (handlerShtTemperature c prevValue).map (fun r =>
    (r.prevValue, if sensorConnected c.sock_msgArr then [(c.temperature, r.event)] else []))

/-! ## Alarms -/

/-- The reading is outside of the limits. -/
def Outside (value : Int16) : Prop :=
  REG_SHT_TEMPERATURE_max.toInt < value.toInt ∨ value.toInt < REG_SHT_TEMPERATURE_min.toInt

/-- The last reading that was reported. -/
def lastReported (tr : List (Int16 × EventT)) : Option Int16 :=
  (tr.findRev? (fun p => p.2.isAlarm)).map Prod.fst

/-- What the events of a run should be: those of the readings' sides, and one at its end when the
last reading is outside and differs from the one reported before. -/
structure TemperatureRight (tr : List (Int16 × EventT)) : Prop where
  above : ∀ p ∈ tr, p.2 = .I2C_OVER_MAX → REG_SHT_TEMPERATURE_max.toInt < p.1.toInt
  below : ∀ p ∈ tr, p.2 = .I2C_LESS_MIN → p.1.toInt < REG_SHT_TEMPERATURE_min.toInt
  reported : ∀ past current, tr = past ++ [current] → Outside current.1 →
    (∀ value, lastReported past = some value →
      STABLE_VALUE.toNat < (current.1.toInt - value.toInt).natAbs) → current.2.isAlarm = true

/-- No event is raised while no reading has been kept. -/
theorem checkOutOfRange_unset (value max min : UInt32) :
    (checkOutOfRange value 0xFFFF max min).isAlarm = false := by
  unfold checkOutOfRange
  simp only [ne_eq, not_true_eq_false, if_false]
  split <;> split <;> rfl

/-- **The handler keeps none**: a call that starts without one raises no event and ends so. -/
theorem handlerShtTemperature_unset {c : HandlerCall} {r : Handled}
    (h : handlerShtTemperature c 0xFFFF = some r) :
    r.prevValue = 0xFFFF ∧ r.event.isAlarm = false := by
  simp only [handlerShtTemperature, Option.map_eq_some_iff] at h
  obtain ⟨b, -, rfl⟩ := h
  have hunset : UInt16.toUInt32 0xFFFF = 0xFFFF := rfl
  have hquiet := checkOutOfRange_unset c.temperature.toInt32.toUInt32
    REG_SHT_TEMPERATURE_max.toUInt32 REG_SHT_TEMPERATURE_min.toUInt32
  rw [hunset]
  split
  · -- the reading is kept only with one of the two events, and neither is raised
    refine ⟨if_neg ?_, hquiet⟩
    intro halarm
    simp [EventT.isAlarm] at hquiet
    exact halarm.elim hquiet.1 hquiet.2
  · exact ⟨rfl, rfl⟩

/-- **No run raises an event.** -/
theorem no_alarm {vs : List (Visit UInt16 HandlerCall (Int16 × EventT))}
    {tr : List (Int16 × EventT)} {prevValue : UInt16}
    (hrun : Exec shtMachine 0xFFFF vs tr prevValue) : ∀ p ∈ tr, p.2.isAlarm = false := by
  -- the kept value stays unset, which is what keeps the next call quiet
  refine (hrun.inv (fun prevValue tr => prevValue = 0xFFFF ∧ ∀ p ∈ tr, p.2.isAlarm = false)
    ⟨rfl, List.forall_mem_nil _⟩ ?_).2
  rintro s tr c s' evs ⟨rfl, htr⟩ hs
  simp only [shtMachine, Option.map_eq_some_iff, Prod.mk.injEq] at hs
  obtain ⟨r, hr, rfl, rfl⟩ := hs
  obtain ⟨hprev, hevent⟩ := handlerShtTemperature_unset hr
  refine ⟨hprev, ?_⟩
  rw [List.forall_mem_append]
  refine ⟨htr, ?_⟩
  split
  · rw [List.forall_mem_singleton]
    exact hevent
  · exact List.forall_mem_nil _

/-- **When the temperature's events are right**: in the runs that do not end outside the limits. -/
theorem temperatureRight_iff {vs : List (Visit UInt16 HandlerCall (Int16 × EventT))}
    {tr : List (Int16 × EventT)} {prevValue : UInt16}
    (hrun : Exec shtMachine 0xFFFF vs tr prevValue) :
    TemperatureRight tr ↔ ∀ current, tr.getLast? = some current → ¬ Outside current.1 := by
  -- no call raises an event, so a reading outside the range has nothing to be reported by
  have hquiet := no_alarm hrun
  constructor
  · intro h current hcurrent houtside
    obtain ⟨past, rfl⟩ := List.getLast?_eq_some_iff.mp hcurrent
    have hnone : lastReported past = none := by
      rw [lastReported, Option.map_eq_none_iff, List.findRev?_eq_find?_reverse, List.find?_eq_none]
      intro p hp
      rw [hquiet p (List.mem_append_left _ (List.mem_reverse.mp hp))]
      exact Bool.false_ne_true
    have halarm := h.reported past current rfl houtside
      (fun value hvalue => nomatch hnone.symm.trans hvalue)
    rw [hquiet current (by simp)] at halarm
    cases halarm
  · intro h
    refine ⟨fun p hp hover => ?_, fun p hp hless => ?_, fun past current htr houtside => ?_⟩
    · have hp' := hquiet p hp
      rw [hover] at hp'
      cases hp'
    · have hp' := hquiet p hp
      rw [hless] at hp'
      cases hp'
    · subst htr
      exact absurd houtside (h current List.getLast?_concat)

/-- A call with the sensor connected. -/
def shtCall (low high : UInt8) : HandlerCall where
  sock_msgArr := fun i => { sockMsgArr (fun _ => 0) i with value := fun _ => REG_SHT_CONNECTED_yes }
  value := fun i => if (i : Nat) = 0 then low else if (i : Nat) = 1 then high else 0
  data := { zeroData with value := fun _ => REG_SHT_CONNECTED_yes }

/-- A run that ends with 22 degrees. -/
theorem temperatureRight_iff_mild : ∃ vs tr prevValue, Exec shtMachine 0xFFFF vs tr prevValue ∧
    tr.map Prod.fst = [600, 220] ∧
      (TemperatureRight tr ↔ ∀ current, tr.getLast? = some current → ¬ Outside current.1) := by
  have hrun : shtMachine.run 0xFFFF [shtCall 0x58 0x02, shtCall 0xDC 0x00] =
      some (0xFFFF, [(600, .I2C_ERR_CHANGE_VALUE), (220, .I2C_ERR_CHANGE_VALUE)]) := by
    decide +kernel
  obtain ⟨vs, hvs, -⟩ := Exec.of_run hrun
  exact ⟨vs, _, _, hvs, rfl, temperatureRight_iff hvs⟩

/-- Sixty degrees are not reported. -/
theorem heat_unreported : ¬∀ (vs : List (Visit UInt16 HandlerCall (Int16 × EventT)))
    (tr : List (Int16 × EventT)) (prevValue : UInt16),
      Exec shtMachine 0xFFFF vs tr prevValue → TemperatureRight tr := by
  intro h
  have hrun : shtMachine.run 0xFFFF [shtCall 0x58 0x02] =
      some (0xFFFF, [(600, .I2C_ERR_CHANGE_VALUE)]) := by
    decide +kernel
  obtain ⟨vs, hvs, -⟩ := Exec.of_run hrun
  have houtside : Outside 600 := .inl (by decide)
  have halarm := (h vs _ _ hvs).reported [] _ rfl houtside (fun value hvalue => nomatch hvalue)
  exact absurd halarm (by decide)

end Hwsys
