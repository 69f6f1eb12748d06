import TfPack.Hwsys.Events
import TfPack.Lib.Trace

set_option autoImplicit false

/-! # The hardware daemon: alarms of the voltages

The handlers of the ADC channels, of the battery and charger voltage and of the voltage of the SFP
modules. Each keeps the last reading it *took*, one that differs by more than `STABLE_VALUE` from
the one it took before, and raises an event only with a reading it takes in place of another: the
first one it takes raises none, and readings near the one it keeps, inside the range or not, go by.
`alarm_iff` says when, at a reading far out of the range, the last event is that of the reading's
side and later than every reading inside the range.
-/

namespace Hwsys

open StepMachine EventTrace

/-! ## The handlers -/

def REG_ADC_CH1 : Limits :=
  ⟨3500, 3000, by decide, "ADC CH1 out of range: %d", "ADC CH1 out of range: %d"⟩

def REG_ADC_CH2 : Limits :=
  ⟨1700, 1300, by decide, "ADC CH2 out of range: %d", "ADC CH2 out of range: %d"⟩

def REG_ADC_CH3 : Limits :=
  ⟨1300, 1000, by decide, "ADC CH3 out of range: %d", "ADC CH3 out of range: %d"⟩

def REG_RPS_BAT_VOLTAGE : Limits :=
  ⟨30000, 20500, by decide, "UPS: Battery voltage reaches max voltage (%d)",
    "UPS: Battery voltage is LOW (%d)"⟩

def REG_RPS_CHRG_VOLTAGE : Limits :=
  ⟨30000, 20500, by decide, "UPS: Charge voltage reaches max voltage (%d)",
    "UPS: Charge voltage is LOW (%d)"⟩

/-- `REG_SFP_VOLTAGE`, with the line of a slot. -/
def REG_SFP_VOLTAGE (line : String) : Limits := ⟨3600, 3000, by decide, line, line⟩

def REG_SFP1_PRESENT : UInt32 := 60
def REG_SFP2_PRESENT : UInt32 := 90
def REG_SFP_PRESENT_yes : UInt8 := 1

/-- `handler_ADC_CH1`. -/
def handlerAdcCh1 (c : HandlerCall) (ch1_prevValue : UInt16) : Option Handled :=
  some (thresholdHandler REG_ADC_CH1 ch1_prevValue (get16bitValue c.value))

/-- `handler_ADC_CH2`. -/
def handlerAdcCh2 (c : HandlerCall) (ch2_prevValue : UInt16) : Option Handled :=
  some (thresholdHandler REG_ADC_CH2 ch2_prevValue (get16bitValue c.value))

/-- `handler_ADC_CH3`. -/
def handlerAdcCh3 (c : HandlerCall) (ch3_prevValue : UInt16) : Option Handled :=
  some (thresholdHandler REG_ADC_CH3 ch3_prevValue (get16bitValue c.value))

/-- `handler_RPS_BAT_VOLTAGE`, which checks only a value that is not the one it keeps. -/
def handlerRpsBatVoltage (c : HandlerCall) (batVolt_prevValue : UInt16) : Option Handled :=
  let l := REG_RPS_BAT_VOLTAGE
  let value := get16bitValue c.value
  let event :=
    if value ≠ batVolt_prevValue then
      checkOutOfRange value.toUInt32 batVolt_prevValue.toUInt32 l.max l.min
    else .I2C_ERR_OK
  some (l.handled batVolt_prevValue value event)

/-- `handler_RPS_CHRG_VOLTAGE`. -/
def handlerRpsChrgVoltage (c : HandlerCall) (chgVolt_prevValue : UInt16) : Option Handled :=
  some (thresholdHandler REG_RPS_CHRG_VOLTAGE chgVolt_prevValue (get16bitValue c.value))

/-- What the handlers of the SFP voltage do: they check the value of a module that is there. -/
def sfpVoltage (present : UInt32) (line : String) (c : HandlerCall) (prevValue : UInt16) :
    Option Handled :=
  (c.presentByte present).map (fun b =>
    if b = REG_SFP_PRESENT_yes then
      thresholdHandler (REG_SFP_VOLTAGE line) prevValue (get16bitValue c.value)
    else ⟨prevValue, .I2C_ERR_OK, []⟩)

/-- `handler_SFP1_VOLTAGE`. -/
def handlerSfp1Voltage (c : HandlerCall) (spf1Volt_prevValue : UInt16) : Option Handled :=
  sfpVoltage REG_SFP1_PRESENT "SFP1: voltage not in range (%d)\n" c spf1Volt_prevValue

/-- `handler_SFP2_VOLTAGE`. -/
def handlerSfp2Voltage (c : HandlerCall) (spf2Volt_prevValue : UInt16) : Option Handled :=
  sfpVoltage REG_SFP2_PRESENT "SFP2: voltage not in range (%d)\n" c spf2Volt_prevValue

/-- The handlers of the voltages. -/
inductive VoltageHandler
  | handler_ADC_CH1 | handler_ADC_CH2 | handler_ADC_CH3 | handler_RPS_BAT_VOLTAGE
  | handler_RPS_CHRG_VOLTAGE | handler_SFP1_VOLTAGE | handler_SFP2_VOLTAGE
  deriving DecidableEq, Repr

namespace VoltageHandler

/-- A call of a handler. -/
def call : VoltageHandler → HandlerCall → UInt16 → Option Handled
  | handler_ADC_CH1 => handlerAdcCh1
  | handler_ADC_CH2 => handlerAdcCh2
  | handler_ADC_CH3 => handlerAdcCh3
  | handler_RPS_BAT_VOLTAGE => handlerRpsBatVoltage
  | handler_RPS_CHRG_VOLTAGE => handlerRpsChrgVoltage
  | handler_SFP1_VOLTAGE => handlerSfp1Voltage
  | handler_SFP2_VOLTAGE => handlerSfp2Voltage

/-- The limits of a handler. -/
def limits : VoltageHandler → Limits
  | handler_ADC_CH1 => REG_ADC_CH1
  | handler_ADC_CH2 => REG_ADC_CH2
  | handler_ADC_CH3 => REG_ADC_CH3
  | handler_RPS_BAT_VOLTAGE => REG_RPS_BAT_VOLTAGE
  | handler_RPS_CHRG_VOLTAGE => REG_RPS_CHRG_VOLTAGE
  | handler_SFP1_VOLTAGE => REG_SFP_VOLTAGE "SFP1: voltage not in range (%d)\n"
  | handler_SFP2_VOLTAGE => REG_SFP_VOLTAGE "SFP2: voltage not in range (%d)\n"

/-- The handler checks the value: the handlers of an SFP module do when they find it there. -/
def checks (c : HandlerCall) : VoltageHandler → Bool
  | handler_SFP1_VOLTAGE => c.presentByte REG_SFP1_PRESENT == some REG_SFP_PRESENT_yes
  | handler_SFP2_VOLTAGE => c.presentByte REG_SFP2_PRESENT == some REG_SFP_PRESENT_yes
  | _ => true

/-- The calls of a handler, with the value it keeps: each shows the reading it checks and the event
it returns. -/
def machine (h : VoltageHandler) : Machine UInt16 HandlerCall (UInt16 × EventT) where
  step prevValue c := (h.call c prevValue).map (fun r =>
    (r.prevValue, if h.checks c then [(get16bitValue c.value, r.event)] else []))

/-- The guard of the battery's handler leaves out a check that finds nothing. -/
theorem handlerRpsBatVoltage_eq (c : HandlerCall) (prevValue : UInt16) :
    handlerRpsBatVoltage c prevValue =
      some (thresholdHandler REG_RPS_BAT_VOLTAGE prevValue (get16bitValue c.value)) := by
  have hsame : ¬ Takes prevValue prevValue := by
    unfold Takes
    omega
  simp only [handlerRpsBatVoltage, thresholdHandler, Option.some.injEq]
  by_cases h : get16bitValue c.value ≠ prevValue
  · rw [if_pos h]
  · rw [if_neg h, not_not.mp h, checkOutOfRange_eq, if_neg hsame]

/-- A call of the handler of an SFP voltage that is defined. -/
theorem sfpVoltage_cases {present : UInt32} {line : String} {c : HandlerCall} {prevValue : UInt16}
    {r : Handled} (h : sfpVoltage present line c prevValue = some r) :
    (c.presentByte present = some REG_SFP_PRESENT_yes ∧
        r = thresholdHandler (REG_SFP_VOLTAGE line) prevValue (get16bitValue c.value)) ∨
      (c.presentByte present ≠ some REG_SFP_PRESENT_yes ∧
        r = ⟨prevValue, .I2C_ERR_OK, []⟩) := by
  simp only [sfpVoltage, Option.map_eq_some_iff] at h
  obtain ⟨b, hb, rfl⟩ := h
  by_cases hyes : b = REG_SFP_PRESENT_yes
  · exact .inl ⟨hyes ▸ hb, if_pos hyes⟩
  · refine .inr ⟨fun hsome => hyes ?_, if_neg hyes⟩
    rw [hb, Option.some.injEq] at hsome
    exact hsome

/-- **What a call does**: what a threshold handler does with the reading, or nothing. -/
theorem call_cases {h : VoltageHandler} {prevValue : UInt16} {c : HandlerCall} {r : Handled}
    (hc : h.call c prevValue = some r) :
    (h.checks c = true ∧ r = thresholdHandler h.limits prevValue (get16bitValue c.value)) ∨
      (h.checks c = false ∧ r = ⟨prevValue, .I2C_ERR_OK, []⟩) := by
  cases h with
  | handler_RPS_BAT_VOLTAGE =>
      have heq := (handlerRpsBatVoltage_eq c prevValue).symm.trans hc
      exact .inl ⟨rfl, (Option.some.inj heq).symm⟩
  | handler_SFP1_VOLTAGE =>
      have hcases := sfpVoltage_cases hc
      simpa [checks, limits] using hcases
  | handler_SFP2_VOLTAGE =>
      have hcases := sfpVoltage_cases hc
      simpa [checks, limits] using hcases
  | _ => exact .inl ⟨rfl, (Option.some.inj hc).symm⟩

theorem step_cases {h : VoltageHandler} {prevValue prevValue' : UInt16} {c : HandlerCall}
    {evs : List (UInt16 × EventT)} (hs : h.machine.step prevValue c = some (prevValue', evs)) :
    (prevValue' = prevValue ∧ evs = []) ∨
      ∃ value, prevValue' = (thresholdHandler h.limits prevValue value).prevValue ∧
        evs = [(value, (thresholdHandler h.limits prevValue value).event)] := by
  simp only [machine, Option.map_eq_some_iff, Prod.mk.injEq] at hs
  obtain ⟨r, hr, hprev, hevs⟩ := hs
  rcases call_cases hr with ⟨hchecks, rfl⟩ | ⟨hchecks, rfl⟩
  · exact .inr ⟨_, hprev.symm, by rw [← hevs, if_pos hchecks]⟩
  · refine .inl ⟨hprev.symm, ?_⟩
    rw [← hevs, hchecks]
    rfl

end VoltageHandler

/-! ## Alarms -/

/-- What the readings so far leave: those that were taken, the latest first, and whether one
inside the range came after. -/
structure History where
  taken : List UInt16
  dipped : Bool
  deriving DecidableEq

/-- The value a handler keeps, `0xFFFF` before it has taken one. -/
def History.kept (h : History) : UInt16 := h.taken.headD 0xFFFF

def History.next (l : Limits) (h : History) (value : UInt16) : History :=
  if Takes h.kept value then ⟨value :: h.taken, false⟩ else ⟨h.taken, h.dipped || l.inside value⟩

/-- The reading that the kept one was taken in place of. -/
def History.replaced (h : History) : Option UInt16 := h.taken.tail.head?

/-- The history of a sequence of readings. -/
def historyOf (l : Limits) (readings : List UInt16) : History :=
  readings.foldl (History.next l) ⟨[], false⟩

/-- The last event is that of a side, and came after the last reading inside the range. -/
def Reported (l : Limits) (tr : List (UInt16 × EventT)) (side : EventT) : Prop :=
  ∃ before value after, tr = before ++ (value, side) :: after ∧
    ∀ p ∈ after, p.2.isAlarm = false ∧ l.inside p.1 = false

/-- What holds of the events of the readings so far, and of the value that is kept. -/
structure AlarmsKept (l : Limits) (prevValue : UInt16) (tr : List (UInt16 × EventT))
    (h : History) : Prop where
  kept : prevValue = h.kept
  near : ∀ p, tr.getLast? = some p → ¬ Takes prevValue p.1
  quiet : h.taken.length < 2 → ∀ p ∈ tr, p.2.isAlarm = false
  alarm : ∀ value replaced rest, h.taken = value :: replaced :: rest → replaced ≠ 0xFFFF →
    ∀ side, l.Beyond value side → ∃ before after, tr = before ++ (value, side) :: after ∧
      (∀ p ∈ after, p.2.isAlarm = false) ∧ h.dipped = after.any (fun p => l.inside p.1)

section Alarms

variable {l : Limits} {prevValue : UInt16} {tr : List (UInt16 × EventT)}

theorem not_takes_self (value : UInt16) : ¬ Takes value value := by
  unfold Takes
  omega

/-- **A reading keeps them.** -/
theorem AlarmsKept.next {h : History} (hk : AlarmsKept l prevValue tr h) (value : UInt16) :
    AlarmsKept l (thresholdHandler l prevValue value).prevValue
      (tr ++ [(value, (thresholdHandler l prevValue value).event)]) (h.next l value) := by
  by_cases htakes : Takes prevValue value
  · have hnext : h.next l value = ⟨value :: h.taken, false⟩ :=
      if_pos (by rw [← hk.kept]; exact htakes)
    rw [prevValue_of_takes l prevValue value htakes, hnext]
    refine ⟨rfl, ?_, ?_, ?_⟩
    · intro p hp
      rw [List.getLast?_concat, Option.some.injEq] at hp
      rw [← hp]
      exact not_takes_self value
    · intro hlength p hp
      have hnone : h.taken = [] := by
        cases htaken : h.taken with
        | nil => rfl
        | cons v vs =>
            simp only [htaken, List.length_cons] at hlength
            omega
      rcases List.mem_append.mp hp with hp | hp
      · exact hk.quiet (by rw [hnone]; exact Nat.zero_lt_two) p hp
      · rw [List.mem_singleton] at hp
        rw [hp]
        refine event_of_first l prevValue value ?_
        rw [hk.kept, History.kept, hnone]
        rfl
    · intro v replaced rest htaken hreplaced side hside
      rw [List.cons.injEq] at htaken
      obtain ⟨rfl, htaken⟩ := htaken
      have hprev : prevValue ≠ 0xFFFF := by
        rw [hk.kept, History.kept, htaken]
        exact hreplaced
      refine ⟨tr, [], ?_, by simp, rfl⟩
      rw [event_of_beyond l prevValue value htakes hprev hside]
  · have hnext : h.next l value = ⟨h.taken, h.dipped || l.inside value⟩ :=
      if_neg (by rw [← hk.kept]; exact htakes)
    rw [thresholdHandler_quiet l prevValue value htakes, hnext]
    refine ⟨hk.kept, ?_, ?_, ?_⟩
    · intro p hp
      rw [List.getLast?_concat, Option.some.injEq] at hp
      rw [← hp]
      exact htakes
    · intro hlength p hp
      rcases List.mem_append.mp hp with hp | hp
      · exact hk.quiet hlength p hp
      · rw [List.mem_singleton] at hp
        rw [hp]
        rfl
    · intro v replaced rest htaken hreplaced side hside
      obtain ⟨before, after, rfl, hafter, hdipped⟩ :=
        hk.alarm v replaced rest htaken hreplaced side hside
      refine ⟨before, after ++ [(value, .I2C_ERR_OK)], by simp, ?_, ?_⟩
      · rw [List.forall_mem_append, List.forall_mem_singleton]
        exact ⟨hafter, rfl⟩
      · rw [List.any_append, hdipped]
        simp

/-- **They hold over every run.** -/
theorem alarmsKept_run {h : VoltageHandler}
    {vs : List (Visit UInt16 HandlerCall (UInt16 × EventT))}
    (hrun : Exec h.machine 0xFFFF vs tr prevValue) :
    AlarmsKept h.limits prevValue tr (historyOf h.limits (tr.map Prod.fst)) := by
  refine hrun.inv (fun prevValue tr =>
    AlarmsKept h.limits prevValue tr (historyOf h.limits (tr.map Prod.fst))) ?_ ?_
  · refine ⟨rfl, ?_, ?_, ?_⟩
    · intro p hp
      cases hp
    · intro _ p hp
      cases hp
    · intro v replaced rest htaken
      cases htaken
  · intro s tr c s' evs hk hs
    rcases VoltageHandler.step_cases hs with ⟨rfl, rfl⟩ | ⟨value, rfl, rfl⟩
    · rw [List.append_nil]
      exact hk
    · rw [List.map_append, historyOf, List.foldl_append]
      exact hk.next value

theorem isAlarm_of_far {value : UInt16} {side : EventT} (h : l.Far value side) :
    side.isAlarm = true := by
  cases side with
  | I2C_OVER_MAX => rfl
  | I2C_LESS_MIN => rfl
  | _ => cases h

/-- The kept value is on the side of a reading far out of the range that is near it. -/
theorem beyond_of_far {value : UInt16} {side : EventT} (h : l.Far value side)
    (hnear : ¬ Takes prevValue value) : l.Beyond prevValue side := by
  unfold Takes at hnear
  cases side with
  | I2C_OVER_MAX =>
      have hfar : l.max.toNat + STABLE_VALUE.toNat < value.toNat := h
      show l.max.toNat < prevValue.toNat
      omega
  | I2C_LESS_MIN =>
      have hfar : value.toNat + STABLE_VALUE.toNat < l.min.toNat := h
      show prevValue.toNat < l.min.toNat
      omega
  | _ => cases h

theorem exists_cons_cons {α : Type} {xs : List α} (h : 2 ≤ xs.length) :
    ∃ x y ys, xs = x :: y :: ys := by
  rcases xs with _ | ⟨x, _ | ⟨y, ys⟩⟩
  · exact absurd h (Nat.not_succ_le_zero 1)
  · exact absurd h (Nat.lt_irrefl 1)
  · exact ⟨x, y, ys, rfl⟩

/-- **When the last event is that of a reading far out of the range**, and later than all those
inside it: one reading has been taken in place of another, and none inside the range came since. -/
theorem alarm_iff {h : VoltageHandler}
    {vs : List (Visit UInt16 HandlerCall (UInt16 × EventT))}
    (hrun : Exec h.machine 0xFFFF vs tr prevValue) {current : UInt16 × EventT}
    (hcurrent : tr.getLast? = some current) {side : EventT} (hfar : h.limits.Far current.1 side)
    (hreplaced : (historyOf h.limits (tr.map Prod.fst)).replaced ≠ some 0xFFFF) :
    Reported h.limits tr side ↔
      2 ≤ (historyOf h.limits (tr.map Prod.fst)).taken.length ∧
        (historyOf h.limits (tr.map Prod.fst)).dipped = false := by
  have hk := alarmsKept_run hrun
  have halarm := isAlarm_of_far hfar
  have hbeyond := beyond_of_far hfar (hk.near current hcurrent)
  generalize hh : historyOf h.limits (tr.map Prod.fst) = hist at hk hreplaced ⊢
  by_cases hlength : 2 ≤ hist.taken.length
  · obtain ⟨value, replaced, rest, htaken⟩ := exists_cons_cons hlength
    have hne : replaced ≠ 0xFFFF := by
      intro heq
      rw [History.replaced, htaken, heq] at hreplaced
      exact hreplaced rfl
    have hkept : prevValue = value := by
      rw [hk.kept, History.kept, htaken]
      rfl
    rw [hkept] at hbeyond
    obtain ⟨before, after, htr, hafter, hdipped⟩ :=
      hk.alarm value replaced rest htaken hne side hbeyond
    constructor
    · rintro ⟨before', value', after', htr', hafter'⟩
      refine ⟨hlength, ?_⟩
      -- both splits are at the last alarm
      have hsame : after = after' := by
        have hsince := sinceLast_restart (r := fun p : UInt16 × EventT => p.2.isAlarm) before
          (e := (value, side)) halarm hafter
        have hsince' := sinceLast_restart (r := fun p : UInt16 × EventT => p.2.isAlarm) before'
          (e := (value', side)) halarm (fun p hp => (hafter' p hp).1)
        rw [← hsince, ← hsince', ← htr, ← htr']
      rw [hdipped, List.any_eq_false]
      intro p hp
      rw [(hafter' p (hsame ▸ hp)).2]
      exact Bool.false_ne_true
    · rintro ⟨-, hnone⟩
      rw [hdipped, List.any_eq_false] at hnone
      exact ⟨before, value, after, htr, fun p hp => ⟨hafter p hp, by simpa using hnone p hp⟩⟩
  · refine ⟨?_, fun hboth => absurd hboth.1 hlength⟩
    rintro ⟨before, value, after, rfl, -⟩
    have hquiet := hk.quiet (Nat.lt_of_not_le hlength) (value, side) (by simp)
    rw [halarm] at hquiet
    cases hquiet

/-- A call with the value of a register. -/
def callWith (low high : UInt8) : HandlerCall :=
  ⟨sockMsgArr fun _ => 0, fun i => if (i : Nat) = 0 then low else if (i : Nat) = 1 then high else 0,
    zeroData⟩

/-- A voltage that rises out of its range is reported. -/
theorem alarm_iff_rise : ∃ vs tr prevValue,
    Exec VoltageHandler.handler_ADC_CH1.machine 0xFFFF vs tr prevValue ∧
      tr.map Prod.fst = [3300, 4000] ∧ (Reported REG_ADC_CH1 tr .I2C_OVER_MAX ↔
        2 ≤ (historyOf REG_ADC_CH1 (tr.map Prod.fst)).taken.length ∧
          (historyOf REG_ADC_CH1 (tr.map Prod.fst)).dipped = false) := by
  obtain ⟨vs, hvs, -⟩ := Exec.replay VoltageHandler.handler_ADC_CH1.machine 0xFFFF
    [callWith 0xE4 0x0C, callWith 0xA0 0x0F] rfl
  have hrun : Exec VoltageHandler.handler_ADC_CH1.machine 0xFFFF vs
      [(3300, .I2C_ERR_CHANGE_VALUE), (4000, .I2C_OVER_MAX)] 4000 := hvs
  have hfar : REG_ADC_CH1.Far 4000 .I2C_OVER_MAX := show (3500 + 10 : Nat) < 4000 by decide
  exact ⟨vs, _, _, hrun, rfl, alarm_iff hrun rfl hfar (by decide)⟩

/-- A voltage that is out of its range from the first reading is not. -/
theorem first_reading_silent : ¬∀ (h : VoltageHandler)
    (vs : List (Visit UInt16 HandlerCall (UInt16 × EventT))) (tr : List (UInt16 × EventT))
    (prevValue : UInt16), Exec h.machine 0xFFFF vs tr prevValue →
      ∀ current, tr.getLast? = some current → ∀ side, h.limits.Far current.1 side →
        Reported h.limits tr side := by
  intro h
  obtain ⟨vs, hvs, -⟩ := Exec.replay VoltageHandler.handler_ADC_CH1.machine 0xFFFF
    [callWith 0xA0 0x0F] rfl
  have hrun : Exec VoltageHandler.handler_ADC_CH1.machine 0xFFFF vs
      [(4000, .I2C_ERR_CHANGE_VALUE)] 4000 := hvs
  have hfar : REG_ADC_CH1.Far 4000 .I2C_OVER_MAX := show (3500 + 10 : Nat) < 4000 by decide
  obtain ⟨before, value, after, htr, -⟩ := h _ vs _ _ hrun _ rfl .I2C_OVER_MAX hfar
  have hmem : (value, EventT.I2C_OVER_MAX) ∈ [(4000, EventT.I2C_ERR_CHANGE_VALUE)] := by
    rw [htr]
    exact List.mem_append_right before (List.mem_cons_self ..)
  rw [List.mem_singleton, Prod.mk.injEq] at hmem
  exact absurd hmem.2 (by decide)

end Alarms

end Hwsys
