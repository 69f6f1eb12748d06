import TfPack.AutoRestart.Port
import TfPack.Lib.DayTime
import TfPack.Lib.Machine

set_option autoImplicit false

/-! # The instants the alarms are set to

`port_setTimeParam` stores the next instant at which the local time is the configured `HH:MM:00`.
`port_timeAlarm` is called with every pass; when the target is reached it stores the next one.
It first fills in `HH`, `MM` and `0` as the time of day, as `port_setTimeParam` does, but then
reads the local time anew and adds a day to that, so the new target keeps the second at which the
pass came, and the alarm moves with it (`alarms_right_iff`).

The time zone is a fixed offset from UTC, with any calendar.
-/

namespace AutoRestart

open FlagWord StepMachine DayTime

/-- The seconds of a day. -/
abbrev daySeconds : Int := 86400

/-- The time of day `hour:minute:00`, in seconds. -/
def timeOfDay (hour minute : Int) : Int := 3600 * hour + 60 * minute

/-! ## The time zone -/

/-- `localtime` and `mktime` in a zone `off` seconds ahead of UTC all year. -/
def fixedZone (K : Calendar) (off : Int) : CTime where
  localtime t :=
    let s := (t + off) % daySeconds
    let date := K.date ((t + off) / daySeconds)
    { tm_sec := s % 60, tm_min := s / 60 % 60, tm_hour := s / 3600
      tm_mday := date.2.2, tm_mon := date.2.1 - 1, tm_year := date.1 - 1900, tm_isdst := 0 }
  mktime tm :=
    K.day (tm.tm_year + 1900) (tm.tm_mon + 1) tm.tm_mday * daySeconds + 3600 * tm.tm_hour +
      60 * tm.tm_min + tm.tm_sec - off

section Zone

variable (K : Calendar) (off t : Int)

/-- The instant of a time of day on the local day of `t`. -/
def onDayOf (off t s : Int) : Int := (t + off) / daySeconds * daySeconds + s - off

theorem mktime_at (hour minute : Int) :
    (fixedZone K off).mktime { (fixedZone K off).localtime t with
      tm_hour := hour, tm_min := minute, tm_sec := 0 } = onDayOf off t (timeOfDay hour minute) := by
  simp only [fixedZone, sub_add_cancel, K.day_date, onDayOf, timeOfDay, daySeconds]
  omega

/-- A day of the month later is a day later. -/
theorem mktime_nextDay :
    (fixedZone K off).mktime { (fixedZone K off).localtime t with
      tm_mday := ((fixedZone K off).localtime t).tm_mday + 1 } = t + daySeconds := by
  simp only [fixedZone, sub_add_cancel, K.day_add, K.day_date, daySeconds]
  omega

/-- The instant the time of day `s` has on a local day lies within a day of the others. -/
theorem onDayOf_bounds {s : Int} (hs : 0 ≤ s) (hlt : s < daySeconds) :
    onDayOf off t s < t + daySeconds ∧ t < onDayOf off t s + daySeconds := by
  simp only [onDayOf, daySeconds] at *
  omega

theorem onDayOf_phase {s : Int} (hs : 0 ≤ s) (hlt : s < daySeconds) :
    (onDayOf off t s + off) % daySeconds = s := by
  simp only [onDayOf, daySeconds] at *
  omega

end Zone

/-! ## The two functions -/

/-- The first instant after `now` at which the local time is `hour:minute:00`. -/
def IsNextAlarm (off now hour minute t : Int) : Prop :=
  IsLeast (laterAt daySeconds off (timeOfDay hour minute) now) t

/-- The instant `hour:minute:00` of the local day of `now` is not before the epoch, and the first
such instant after `now` fits in 32 bits. -/
def storable (off now : Int) (hm : Int × Int) : Prop :=
  0 ≤ onDayOf off now (timeOfDay hm.1 hm.2) ∧
    ∀ t, IsNextAlarm off now hm.1 hm.2 t → t < 2 ^ 32

/-- The poll that finds the alarm due comes in the very second `time_H:time_M:00`, and the same
second of the next day fits in 32 bits. -/
def onTheSecond (off now : Int) (a : TimeHM) : Prop :=
  (now + off) % daySeconds = timeOfDay a.time_H.toNat a.time_M.toNat ∧ now + daySeconds < 2 ^ 32

/-- The alarm is due. -/
def TimeHM.due (now : Nat) (a : TimeHM) : Bool := a.targetTime.toNat ≤ now

theorem toNat_ofInt {t : Int} : ((UInt32.ofInt t).toNat : Int) = t % 2 ^ 32 := by
  simp [UInt32.ofInt]
  omega

section Targets

variable {K : Calendar} {off : Int} {now : Nat}

/-- What `port_setTimeParam` stores, before it is cut to 32 bits. -/
theorem nextAlarm_eq (hour minute : Int) :
    nextAlarm (fixedZone K off) now hour minute =
      if onDayOf off now (timeOfDay hour minute) % 2 ^ 32 ≤ now then
        onDayOf off now (timeOfDay hour minute) + daySeconds
      else onDayOf off now (timeOfDay hour minute) := by
  have hcond : (UInt32.ofInt (onDayOf off now (timeOfDay hour minute))).toNat ≤ now ↔
      onDayOf off now (timeOfDay hour minute) % 2 ^ 32 ≤ now := by
    rw [← toNat_ofInt]
    omega
  simp only [nextAlarm, mktime_at, mktime_nextDay, hcond]

section

variable {hour minute : Int} (hs : 0 ≤ timeOfDay hour minute)
  (hlt : timeOfDay hour minute < daySeconds)

include hs hlt

theorem isNextAlarm_iff {t : Int} : IsNextAlarm off now hour minute t ↔
    now < t ∧ t ≤ now + daySeconds ∧ (t + off) % daySeconds = timeOfDay hour minute :=
  isLeast_next_iff (by decide) hs hlt

/-- The next instant of a time of day lies on the local day, or on the next one. -/
theorem isNextAlarm_onDayOf : IsNextAlarm off now hour minute
    (if onDayOf off now (timeOfDay hour minute) ≤ now then
      onDayOf off now (timeOfDay hour minute) + daySeconds
    else onDayOf off now (timeOfDay hour minute)) := by
  -- the instant of the local day is off by less than a day either way
  obtain ⟨hbelow, habove⟩ := onDayOf_bounds off now hs hlt
  have hphase := onDayOf_phase off now hs hlt
  rw [isNextAlarm_iff hs hlt]
  simp only [daySeconds] at *
  split <;> omega

/-- **`port_setTimeParam` stores the next instant of a time of day exactly when it can.** -/
theorem nextAlarm_right_iff :
    IsNextAlarm off now hour minute
        ((UInt32.ofInt (nextAlarm (fixedZone K off) now hour minute)).toNat : Int) ↔
      storable off now (hour, minute) := by
  obtain ⟨hbelow, habove⟩ := onDayOf_bounds off now hs hlt
  have hnext : IsNextAlarm off now hour minute _ := isNextAlarm_onDayOf hs hlt
  rw [toNat_ofInt, nextAlarm_eq, storable]
  generalize onDayOf off now (timeOfDay hour minute) = d at *
  simp only [daySeconds] at *
  constructor
  · intro hright
    have hstored := (isNextAlarm_iff hs hlt).mp hright
    refine ⟨?_, fun t ht => ?_⟩
    · -- a time before the epoch is stored as one of the last seconds of the 32-bit clock
      by_contra hneg
      simp only [daySeconds] at hstored
      split at hstored <;> omega
    · rw [ht.unique hright]
      exact Int.emod_lt_of_pos _ (by decide)
  · rintro ⟨hepoch, hfits⟩
    -- from the epoch on, what is cut to 32 bits is the instant itself
    have hlt32 := hfits _ hnext
    have heq : (if d % 2 ^ 32 ≤ now then d + 86400 else d) % 2 ^ 32 =
        if d ≤ now then d + 86400 else d := by
      split at hlt32 <;> split <;> omega
    rw [heq]
    exact hnext

end

/-- The target of an alarm that has fired. -/
theorem portTimeAlarm_target {a : TimeHM} (h : a.due now = true) :
    (portTimeAlarm (fixedZone K off) now a).targetTime = UInt32.ofInt (now + daySeconds) := by
  have hdue : a.targetTime.toNat ≤ now := by simpa [TimeHM.due] using h
  simp only [portTimeAlarm, hdue, if_true, mktime_nextDay]

/-- **A fired alarm is set to its next instant exactly when it fired in the very second.** -/
theorem portTimeAlarm_right_iff {a : TimeHM} (h : a.due now = true) :
    IsNextAlarm off now a.time_H.toNat a.time_M.toNat
        ((portTimeAlarm (fixedZone K off) now a).targetTime.toNat : Int) ↔
      onTheSecond off now a := by
  rw [portTimeAlarm_target h, toNat_ofInt, onTheSecond]
  by_cases hs : 0 ≤ timeOfDay a.time_H.toNat a.time_M.toNat ∧
      timeOfDay a.time_H.toNat a.time_M.toNat < daySeconds
  · rw [isNextAlarm_iff hs.1 hs.2]
    simp only [daySeconds] at *
    constructor <;> intro h <;> omega
  · -- the record holds no time of day, as before the first configuration
    constructor
    · intro hleast
      exact absurd hleast (not_isLeast_of_phase (by decide) hs)
    · rintro ⟨hphase, -⟩
      simp only [daySeconds] at *
      omega

end Targets

/-! ## Runs of the two functions -/

/-- A call of one of the two functions, with the clock it reads. -/
inductive AlarmCall
  | setTimeParam (now : Nat) (timeUp timeDown : String)
  | runTestTime (upNow downNow : Nat)

/-- A target stored at `now` for an alarm configured for `hour:minute`. -/
structure StoredTarget where
  now : Nat
  hour : Int
  minute : Int
  target : UInt32
  deriving DecidableEq

/-- The target an alarm holds now. -/
def TimeHM.storedAt (a : TimeHM) (now : Nat) (hm : Int × Int) : StoredTarget :=
  ⟨now, hm.1, hm.2, a.targetTime⟩

/-- The target of an alarm that fires. -/
def firedTarget (C : CTime) (now : Nat) (a : TimeHM) : List StoredTarget :=
  if a.due now then
    [(portTimeAlarm C now a).storedAt now (a.time_H.toNat, a.time_M.toNat)]
  else []

/-- The targets `port_setTimeParam` has stored in `c`: none after an invalid `timeUp`. -/
def setTargets (c : PortConfigInfo) (now : Nat) (timeUp timeDown : String) : List StoredTarget :=
  match isValidTime timeUp.toList with
  | none => []
  | some up =>
      c.timeAlarmUp.storedAt now up ::
        match isValidTime timeDown.toList with
        | none => []
        | some down => [c.timeAlarmDown.storedAt now down]

/-- One call: the record after it, and the targets it has stored. -/
def alarmStep (C : CTime) (p : PortInfo) : AlarmCall → PortInfo × List StoredTarget
  | .setTimeParam now timeUp timeDown =>
      let c := (portSetTimeParam C now p.portConfigInfo timeUp timeDown).1
      ({ p with portConfigInfo := c }, setTargets c now timeUp timeDown)
  | .runTestTime upNow downNow =>
      (portRunTestTime C upNow downNow p,
        firedTarget C upNow p.portConfigInfo.timeAlarmUp ++
          firedTarget C downNow p.portConfigInfo.timeAlarmDown)

/-- The calls for one port, in any order and at any instants. -/
def alarmMachine (C : CTime) : Machine PortInfo AlarmCall StoredTarget where
  step p a := some (alarmStep C p a)

/-- The target is the first instant after the clock at which the local time is the configured
one. -/
def StoredTarget.right (off : Int) (st : StoredTarget) : Prop :=
  IsNextAlarm off st.now st.hour st.minute st.target.toNat

/-- The times a call of `port_setTimeParam` configures. -/
def configured (timeUp timeDown : String) : List (Int × Int) :=
  match isValidTime timeUp.toList with
  | none => []
  | some up => up :: (isValidTime timeDown.toList).toList

/-- The call comes at an instant from which the code finds the next target: a configured time
can be stored, and an alarm that fires does so on the second. -/
def AlarmCall.timely (off : Int) (p : PortInfo) : AlarmCall → Prop
  | .setTimeParam now timeUp timeDown =>
      ∀ hm ∈ configured timeUp timeDown, storable off now hm
  | .runTestTime upNow downNow =>
      (p.portConfigInfo.timeAlarmUp.due upNow = true →
        onTheSecond off upNow p.portConfigInfo.timeAlarmUp) ∧
      (p.portConfigInfo.timeAlarmDown.due downNow = true →
        onTheSecond off downNow p.portConfigInfo.timeAlarmDown)

/-- The alarm is set to an instant of its time of day. -/
def TimeHM.onTime (off : Int) (a : TimeHM) : Prop :=
  ((a.targetTime.toNat : Int) + off) % daySeconds = timeOfDay a.time_H.toNat a.time_M.toNat

/-- A valid time is a time of day. -/
theorem isValidTime_bounds {s : List Char} {hm : Int × Int} (h : isValidTime s = some hm) :
    0 ≤ hm.1 ∧ hm.1 ≤ 23 ∧ 0 ≤ hm.2 ∧ hm.2 ≤ 59 := by
  unfold isValidTime at h
  split at h
  · split at h
    · split at h
      · cases h
      · rename_i hrange
        cases h
        simp only [not_or, not_lt] at hrange
        exact ⟨hrange.1, hrange.2.1, hrange.2.2.1, hrange.2.2.2⟩
    · cases h
  · cases h

section Calls

variable {K : Calendar} {off : Int} {p : PortInfo}

/-- The bytes `time_H` and `time_M` hold a valid time. -/
theorem toNat_ofInt_byte {n : Int} (h : 0 ≤ n) (hlt : n < 256) :
    ((UInt8.ofInt n).toNat : Int) = n := by
  simp [UInt8.ofInt]
  omega

/-- The target one half of `port_setTimeParam` stores. -/
theorem setAlarm_right_iff {now : Nat} {a : TimeHM} {s : List Char} {hm : Int × Int}
    (h : isValidTime s = some hm) :
    ((setAlarm (fixedZone K off) now a hm).storedAt now hm).right off ↔ storable off now hm := by
  obtain ⟨hh, hh', hmin, hmin'⟩ := isValidTime_bounds h
  have hs : 0 ≤ timeOfDay hm.1 hm.2 := by
    rw [timeOfDay]
    omega
  have hlt : timeOfDay hm.1 hm.2 < daySeconds := by
    rw [timeOfDay, daySeconds]
    omega
  show IsNextAlarm off now hm.1 hm.2 ((UInt32.ofInt (nextAlarm _ _ _ _)).toNat : Int) ↔ _
  rw [toNat_ofInt_byte hh (by omega), toNat_ofInt_byte hmin (by omega)]
  exact nextAlarm_right_iff hs hlt

theorem firedTarget_right_iff {now : Nat} {a : TimeHM} :
    (∀ st ∈ firedTarget (fixedZone K off) now a, st.right off) ↔
      (a.due now = true → onTheSecond off now a) := by
  unfold firedTarget
  split
  · rename_i hdue
    rw [List.forall_mem_singleton]
    exact (portTimeAlarm_right_iff hdue).trans ⟨fun h _ => h, fun h => h hdue⟩
  · rename_i hdue
    simp [hdue]

/-- **A call stores right targets exactly when it is timely.** -/
theorem alarmStep_right_iff (a : AlarmCall) :
    (∀ st ∈ (alarmStep (fixedZone K off) p a).2, st.right off) ↔ a.timely off p := by
  cases a with
  | setTimeParam now timeUp timeDown =>
      simp only [alarmStep, AlarmCall.timely, setTargets, configured, portSetTimeParam]
      -- an invalid timeUp keeps timeDown from being looked at
      cases hup : isValidTime timeUp.toList with
      | none => simp
      | some up =>
          cases hdown : isValidTime timeDown.toList with
          | none => simp [setAlarm_right_iff hup]
          | some down => simp [setAlarm_right_iff hup, setAlarm_right_iff hdown]
  | runTestTime upNow downNow =>
      simp only [alarmStep, AlarmCall.timely, List.forall_mem_append]
      rw [firedTarget_right_iff, firedTarget_right_iff]

/-- A right target has the alarm's time of day. -/
theorem IsNextAlarm.phase {now hour minute t : Int} (h : IsNextAlarm off now hour minute t) :
    (t + off) % daySeconds = timeOfDay hour minute := h.1.2

theorem setAlarm_onTime {now : Nat} {a : TimeHM} {s : List Char} {hm : Int × Int}
    (h : isValidTime s = some hm)
    (hr : ((setAlarm (fixedZone K off) now a hm).storedAt now hm).right off) :
    (setAlarm (fixedZone K off) now a hm).onTime off := by
  obtain ⟨hh, hh', hmin, hmin'⟩ := isValidTime_bounds h
  have hhour : ((setAlarm (fixedZone K off) now a hm).time_H.toNat : Int) = hm.1 :=
    toNat_ofInt_byte hh (by omega)
  have hminute : ((setAlarm (fixedZone K off) now a hm).time_M.toNat : Int) = hm.2 :=
    toNat_ofInt_byte hmin (by omega)
  rw [TimeHM.onTime, hhour, hminute]
  exact IsNextAlarm.phase hr

theorem portTimeAlarm_onTime {now : Nat} {a : TimeHM} (h : a.onTime off)
    (hr : ∀ st ∈ firedTarget (fixedZone K off) now a, st.right off) :
    (portTimeAlarm (fixedZone K off) now a).onTime off := by
  cases hdue : a.due now with
  | true =>
      have hright : ((portTimeAlarm (fixedZone K off) now a).storedAt now
          (a.time_H.toNat, a.time_M.toNat)).right off := by
        apply hr
        simp [firedTarget, hdue]
      have htime : (portTimeAlarm (fixedZone K off) now a).time_H = a.time_H ∧
          (portTimeAlarm (fixedZone K off) now a).time_M = a.time_M := by
        unfold portTimeAlarm
        split <;> exact ⟨rfl, rfl⟩
      rw [TimeHM.onTime, htime.1, htime.2]
      exact IsNextAlarm.phase hright
  | false =>
      have hlater : ¬ a.targetTime.toNat ≤ now := by simpa [TimeHM.due] using hdue
      simpa [TimeHM.onTime, portTimeAlarm, hlater] using h

/-- Both alarms are set to instants of their times of day. -/
def PortInfo.alarmsOnTime (off : Int) (p : PortInfo) : Prop :=
  p.portConfigInfo.timeAlarmUp.onTime off ∧ p.portConfigInfo.timeAlarmDown.onTime off

/-- A call that stores right targets keeps the alarms on time. -/
theorem alarmStep_onTime (a : AlarmCall) (h : p.alarmsOnTime off)
    (hr : ∀ st ∈ (alarmStep (fixedZone K off) p a).2, st.right off) :
    (alarmStep (fixedZone K off) p a).1.alarmsOnTime off := by
  cases a with
  | setTimeParam now timeUp timeDown =>
      simp only [alarmStep, setTargets, portSetTimeParam] at hr ⊢
      cases hup : isValidTime timeUp.toList with
      | none => exact h
      | some up =>
          cases hdown : isValidTime timeDown.toList with
          | none =>
              simp only [hup, hdown, List.forall_mem_cons] at hr
              exact ⟨setAlarm_onTime hup hr.1, h.2⟩
          | some down =>
              simp only [hup, hdown, List.forall_mem_cons] at hr
              exact ⟨setAlarm_onTime hup hr.1, setAlarm_onTime hdown hr.2.1⟩
  | runTestTime upNow downNow =>
      simp only [alarmStep, List.forall_mem_append] at hr
      exact ⟨portTimeAlarm_onTime h.1 hr.1, portTimeAlarm_onTime h.2 hr.2⟩

end Calls

section Runs

variable {K : Calendar} {off : Int} {p₀ p : PortInfo}
  {vs : List (Visit PortInfo AlarmCall StoredTarget)} {tr : List StoredTarget}

/-- Alarms that are on time stay so while the targets stored are right: the schedule does not
drift. -/
theorem alarmsOnTime_of_right (h : Exec (alarmMachine (fixedZone K off)) p₀ vs tr p)
    (h₀ : p₀.alarmsOnTime off) (hr : ∀ st ∈ tr, st.right off) : p.alarmsOnTime off := by
  refine h.inv (fun p tr => (∀ st ∈ tr, st.right off) → p.alarmsOnTime off) (fun _ => h₀) ?_ hr
  intro p tr a p' evs ih hstep hall
  obtain ⟨rfl, rfl⟩ := Prod.mk.inj (Option.some.inj hstep)
  rw [List.forall_mem_append] at hall
  exact alarmStep_onTime a (ih hall.1) hall.2

/-- **The targets stored in a run are all right exactly when its calls are all timely**, and
then the schedule does not drift. -/
theorem alarms_right_iff (h : Exec (alarmMachine (fixedZone K off)) p₀ vs tr p) :
    ((∀ st ∈ tr, st.right off) ↔ ∀ v ∈ vs, v.act.timely off v.state) ∧
    ((∀ v ∈ vs, v.act.timely off v.state) → p₀.alarmsOnTime off → p.alarmsOnTime off) := by
  have hiff : (∀ st ∈ tr, st.right off) ↔ ∀ v ∈ vs, v.act.timely off v.state := by
    refine h.forall_events_iff (StoredTarget.right off) (fun v => v.act.timely off v.state) ?_
    intro p tr a p' evs hstep
    obtain ⟨-, rfl⟩ := Prod.mk.inj (Option.some.inj hstep)
    exact alarmStep_right_iff a
  exact ⟨hiff, fun ht h₀ => alarmsOnTime_of_right h h₀ (hiff.mpr ht)⟩

end Runs

/-! ## The drift -/

/-- An alarm polled again and again, each time `d` seconds after its target. -/
def polledLate (C : CTime) : TimeHM → List Nat → TimeHM
  | a, [] => a
  | a, d :: ds => polledLate C (portTimeAlarm C (a.targetTime.toNat + d) a) ds

/-- **The delays of the polls add up**: after a number of firings the target is late by all of
them together. -/
theorem polledLate_target {K : Calendar} {off : Int} {a : TimeHM} {ds : List Nat}
    (h : a.targetTime.toNat + 86400 * ds.length + ds.sum < 2 ^ 32) :
    (polledLate (fixedZone K off) a ds).targetTime.toNat =
      a.targetTime.toNat + 86400 * ds.length + ds.sum := by
  induction ds generalizing a with
  | nil => rfl
  | cons d ds ih =>
      simp only [List.length_cons, List.sum_cons] at h ⊢
      have hdue : a.due (a.targetTime.toNat + d) = true := by simp [TimeHM.due]
      have htarget : (portTimeAlarm (fixedZone K off) (a.targetTime.toNat + d) a).targetTime.toNat =
          a.targetTime.toNat + d + 86400 := by
        have hfired : (portTimeAlarm (fixedZone K off) (a.targetTime.toNat + d) a).targetTime =
            UInt32.ofInt ((a.targetTime.toNat + d : Nat) + daySeconds) :=
          portTimeAlarm_target hdue
        have hcut := congrArg (fun t : UInt32 => (t.toNat : Int)) hfired
        simp only [toNat_ofInt, daySeconds] at hcut
        omega
      rw [polledLate, ih (by rw [htarget]; omega), htarget]
      omega

/-- UTC with the Gregorian calendar. -/
def utc : CTime := fixedZone gregorian 0

/-- An alarm at eight in the morning, set at midnight and polled in time. -/
theorem alarms_right_iff_in_time : ∃ vs tr p,
    Exec (alarmMachine utc) zeroPortInfo vs tr p ∧
    vs.map Visit.act = [.setTimeParam 0 "08:00" "20:00", .runTestTime 28800 28800] ∧
    tr.map StoredTarget.target = [28800, 72000, 115200] ∧
    (((∀ st ∈ tr, st.right 0) ↔ ∀ v ∈ vs, v.act.timely 0 v.state) ∧
      ((∀ v ∈ vs, v.act.timely 0 v.state) →
        zeroPortInfo.alarmsOnTime 0 → p.alarmsOnTime 0)) := by
  obtain ⟨vs, hvs, hact⟩ := Exec.replay (alarmMachine utc) zeroPortInfo
    [.setTimeParam 0 "08:00" "20:00", .runTestTime 28800 28800] rfl
  exact ⟨vs, _, _, hvs, hact, by decide, alarms_right_iff hvs⟩

/-- Polled five seconds late, it is set five seconds late for the next day. -/
theorem late_poll_drifts : ¬ ∀ vs tr p,
    Exec (alarmMachine utc) zeroPortInfo vs tr p → ∀ st ∈ tr, st.right 0 := by
  intro h
  obtain ⟨vs, hvs, -⟩ := Exec.replay (alarmMachine utc) zeroPortInfo
    [.setTimeParam 0 "08:00" "20:00", .runTestTime 28805 28805] rfl
  have hright := h _ _ _ hvs ⟨28805, 8, 0, 115205⟩ (by decide)
  exact absurd (IsNextAlarm.phase hright) (by decide)

end AutoRestart
