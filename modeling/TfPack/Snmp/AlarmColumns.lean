import Mathlib.Tactic.NormNum
import TfPack.AutoRestart.ClockTexts
import TfPack.Snmp.Module

set_option autoImplicit false

/-! # The times of the autorestart table

The agent reports the hour and the minute of an alarm in two columns. Both are read by position
from what `get_hour_minutes` leaves of the stored text; a part out of range is not left, so that
what follows moves to its position (`hourMinutesFrom_pair`, `inRange_cases`). The columns are right
for the clocks and for the texts nothing is left of (`alarmRight_iff`).
-/

namespace ArConfig

open Lua AutoRestart TfModule Snmp

/-! ## `snmp_getARconfig` -/

/-- The options of a port that `configEnum` names. -/
inductive Param where
  | index
  | state
  | host
  | minSpeed
  | maxSpeed
  | timeUp
  | timeDown
  deriving DecidableEq, Repr

/-- The columns of `autoRestartTable`. -/
inductive Column where
  | autoRstIndex
  | autoRstMode
  | autoRstDstIP
  | autoRstSpeedDown
  | autoRstSpeedUp
  | autoReStartTimeOnHour
  | autoReStartTimeOnMin
  | autoReStartTimeOffHour
  | autoReStartTimeOffMin
  deriving DecidableEq, Repr

/-- The column of a name. -/
def columnOf (name : String) : Option Column :=
  if name = "autoRstIndex" then some .autoRstIndex
  else if name = "autoRstMode" then some .autoRstMode
  else if name = "autoRstDstIP" then some .autoRstDstIP
  else if name = "autoRstSpeedDown" then some .autoRstSpeedDown
  else if name = "autoRstSpeedUp" then some .autoRstSpeedUp
  else if name = "autoReStartTimeOnHour" then some .autoReStartTimeOnHour
  else if name = "autoReStartTimeOnMin" then some .autoReStartTimeOnMin
  else if name = "autoReStartTimeOffHour" then some .autoReStartTimeOffHour
  else if name = "autoReStartTimeOffMin" then some .autoReStartTimeOffMin
  else none

/-- `configEnum`. -/
def configEnum : Column → Param
  | .autoRstIndex => .index
  | .autoRstMode => .state
  | .autoRstDstIP => .host
  | .autoRstSpeedDown => .minSpeed
  | .autoRstSpeedUp => .maxSpeed
  | .autoReStartTimeOnHour => .timeUp
  | .autoReStartTimeOnMin => .timeUp
  | .autoReStartTimeOffHour => .timeDown
  | .autoReStartTimeOffMin => .timeDown

/-- What ubus reports of `tf_autorestart`: the number of the sections, and the options of the
section of a port. -/
structure Values where
  size : Nat
  lan : Nat → Option (Param → Option Text)

/-- What stands for an option that is not set. -/
def unsetKey : Column → Text
  | .autoReStartTimeOnHour => "25:61".toList
  | .autoReStartTimeOffHour => "25:61".toList
  | .autoReStartTimeOnMin => "25:61".toList
  | .autoReStartTimeOffMin => "25:61".toList
  | .autoRstDstIP => "0.0.0.0".toList
  | _ => "0".toList

def keyOf (list : Param → Option Text) (mibObj : Column) : Text :=
  (list (configEnum mibObj)).getD (unsetKey mibObj)

/-- The `enum` of `autoRstMode`, the only column of the table with one. -/
def modeEnum (key : Text) : Option Text :=
  if key = "time".toList then some "4".toList
  else if key = "ping".toList then some "2".toList
  else if key = "link".toList then some "1".toList
  else if key = "disabled".toList then some "0".toList
  else if key = "speed".toList then some "3".toList
  else none

/-- A part of a time by its position; `none` is an error of the script. -/
def timePart (R : Rounding) (position : Nat) (key : Text) : Option Text :=
  (getHourMinutes R key).map (fun time => time[position]?.getD "255".toList)

/-- The value of a column of a port. -/
def columnValue (R : Rounding) (list : Param → Option Text) (mibObj : Column) :
    Option (Option Text) :=
  let key := keyOf list mibObj
  match mibObj with
  | .autoRstMode => some (modeEnum key)
  | .autoReStartTimeOnHour => (timePart R 0 key).map some
  | .autoReStartTimeOffHour => (timePart R 0 key).map some
  | .autoReStartTimeOnMin => (timePart R 1 key).map some
  | .autoReStartTimeOffMin => (timePart R 1 key).map some
  | _ => some (some key)

/-- `snmp_getARconfig`; `none` is an error of the script. -/
def snmpGetARconfig (R : Rounding) (temp : Values) (mibObj : Column) (portNum : Nat) :
    Option (Option Text × Status) :=
  if (portNum : Int) > temp.size - 2 then some (none, .overIndex)
  else if portNum < 1 then some (none, .zeroIndex)
  else if mibObj = .autoRstIndex then some (some (Nat.toDigits 10 portNum), .ok)
  else do
    let list ← temp.lan portNum
    let resConfig ← columnValue R list mibObj
    some (resConfig, .ok)

/-! ## What the columns should report -/

/-- The two alarms of a port. -/
inductive Alarm where
  | on
  | off
  deriving DecidableEq, Repr

def Alarm.param : Alarm → Param
  | .on => .timeUp
  | .off => .timeDown

def Alarm.hour : Alarm → Column
  | .on => .autoReStartTimeOnHour
  | .off => .autoReStartTimeOffHour

def Alarm.minute : Alarm → Column
  | .on => .autoReStartTimeOnMin
  | .off => .autoReStartTimeOffMin

/-- The text is a clock: the digits of an hour, a colon and the digits of a minute. -/
def IsClock (s : Text) (h m : Nat) : Prop :=
  ∃ d d', s = d ++ ':' :: d' ∧ Digits d ∧ Digits d' ∧ (digitsVal d = h ∧ h ≤ 23) ∧
    digitsVal d' = m ∧ m ≤ 59

variable (R : Rounding)

/-- A column of port `i` reports a number. -/
def Reports (temp : Values) (i : Nat) (c : Column) (n : Nat) : Prop :=
  ∃ t, snmpGetARconfig R temp c i = some (some t, .ok) ∧ tonumber R t = some (n : ℚ)

/-- The two columns of a stored text: its hour and its minute when it is a clock, and otherwise
255 in both. -/
def AlarmRight (temp : Values) (i : Nat) (a : Alarm) (s : Text) : Prop :=
  (∀ h m, IsClock s h m → Reports R temp i a.hour h ∧ Reports R temp i a.minute m) ∧
    ((¬∃ h m, IsClock s h m) → Reports R temp i a.hour 255 ∧ Reports R temp i a.minute 255)

/-- A part that is not left: a number out of its range. -/
def IsDropped (limit : ℚ) (part : Text) : Prop :=
  ∃ n, tonumber R part = some n ∧ (n < 0 ∨ limit < n)

/-- A text nothing is left of. The first two parts, as far as there are any, are numbers out of
range; the next two would stand in the columns. -/
def LeavesNothing (s : Text) : Prop :=
  (∀ p ∈ (colonParts s)[0]?, IsDropped R 24 p) ∧ (∀ p ∈ (colonParts s)[1]?, IsDropped R 60 p) ∧
    (∀ p ∈ (colonParts s)[2]?, tonumber R p = some 255) ∧
    ∀ p ∈ (colonParts s)[3]?, tonumber R p = some 255

/-! ## What is left of a text -/

variable {R} {temp : Values} {list : Param → Option Text} {i : Nat} {a : Alarm} {s : Text}

/-- From the third part on everything is kept. -/
theorem hourMinutesFrom_late {count : Nat} (h : 3 ≤ count) (parts : List Text) :
    hourMinutesFrom R count parts = some parts := by
  induction parts generalizing count with
  | nil => rfl
  | cons part rest ih =>
      have h1 : count ≠ 1 := by omega
      have h2 : count ≠ 2 := by omega
      rw [hourMinutesFrom, if_neg h1, if_neg h2, ih (Nat.le_succ_of_le h)]
      rfl

/-- The first two parts are compared with their ranges. -/
theorem hourMinutesFrom_pair (p q : Text) (rest : List Text) :
    hourMinutesFrom R 1 (p :: q :: rest) = (inRange R 24 p).bind (fun hour =>
      (inRange R 60 q).map (fun minute => hour ++ (minute ++ rest))) := by
  rw [hourMinutesFrom, hourMinutesFrom, hourMinutesFrom_late (Nat.le_refl 3), if_pos rfl,
    if_neg (by decide), if_pos rfl]
  cases inRange R 24 p with
  | none => rfl
  | some hour => cases inRange R 60 q <;> rfl

theorem hourMinutesFrom_single (p : Text) : hourMinutesFrom R 1 [p] = inRange R 24 p := by
  rw [hourMinutesFrom, if_pos rfl, hourMinutesFrom]
  cases inRange R 24 p with
  | none => rfl
  | some hour => exact congrArg some (List.append_nil hour)

theorem inRange_of_dropped {limit : ℚ} {p : Text} (h : IsDropped R limit p) :
    inRange R limit p = some [] := by
  obtain ⟨n, hn, hout⟩ := h
  rw [inRange, hn, Option.map_some, if_pos hout]

/-- A part that passes is either dropped or a number of its range. -/
theorem inRange_cases {limit : ℚ} {p : Text} {kept : List Text}
    (h : inRange R limit p = some kept) :
    (IsDropped R limit p ∧ kept = []) ∨
      ∃ n, tonumber R p = some n ∧ n ≤ limit ∧ kept = [p] := by
  cases hn : tonumber R p with
  | none =>
      rw [inRange, hn] at h
      cases h
  | some n =>
      rw [inRange, hn, Option.map_some, Option.some.injEq] at h
      by_cases hout : n < 0 ∨ limit < n
      · rw [if_pos hout] at h
        exact .inl ⟨⟨n, hn, hout⟩, h.symm⟩
      · rw [if_neg hout] at h
        exact .inr ⟨n, rfl, not_lt.mp (fun hlt => hout (.inr hlt)), h.symm⟩

/-- A text nothing is left of loses its first two parts. -/
theorem LeavesNothing.time (h : LeavesNothing R s) :
    getHourMinutes R s = some ((colonParts s).drop 2) := by
  obtain ⟨hfirst, hsecond, -, -⟩ := h
  rw [getHourMinutes]
  cases hparts : colonParts s with
  | nil => rfl
  | cons p rest =>
      rw [hparts] at hfirst hsecond
      have hp := inRange_of_dropped (hfirst p rfl)
      cases rest with
      | nil => rw [hourMinutesFrom_single, hp]; rfl
      | cons q rest => rw [hourMinutesFrom_pair, hp, inRange_of_dropped (hsecond q rfl)]; rfl

/-- A clock is split into its hour and its minute. -/
theorem IsClock.time {h m : Nat} (hs : IsClock s h m) :
    ∃ p q, getHourMinutes R s = some [p, q] ∧ tonumber R p = some (h : ℚ) ∧
      tonumber R q = some (m : ℚ) := by
  obtain ⟨d, d', rfl, hd, hd', ⟨rfl, hh⟩, rfl, hm⟩ := hs
  have hnone : Lead [] := ⟨[], [], rfl, by simp, .inl rfl⟩
  have hparts := colonParts_clock (t := []) (r := []) hnone hd hnone hd' (by simp) (by simp)
  rw [List.nil_append, List.nil_append, List.append_nil, List.append_nil, List.nil_append] at hparts
  have hhour : tonumber R d = some (digitsVal d : ℚ) := by
    rw [tonumber_digits R hd, R.exact _ (le_trans hh (by decide))]
  have hminute : tonumber R d' = some (digitsVal d' : ℚ) := by
    rw [tonumber_digits R hd', R.exact _ (le_trans hm (by decide))]
  refine ⟨d, d', ?_, hhour, hminute⟩
  rw [getHourMinutes, hparts]
  show hourMinutesFrom R 1 [d, d'] = _
  rw [hourMinutesFrom_pair, inRange_kept (k := 24) hhour (by omega) Nat.cast_ofNat,
    inRange_kept (k := 60) hminute (by omega) Nat.cast_ofNat]
  rfl

theorem tonumber_255 : tonumber R "255".toList = some 255 := by
  have hdigits : Digits "255".toList := digits_of_all (by decide) (by decide)
  have hval : digitsVal "255".toList = 255 := by decide
  rw [tonumber_digits R hdigits, hval, R.exact 255 (by decide)]
  rfl

/-- A column is 255 when its position is empty or has that number. -/
theorem tonumber_getD_iff {o : Option Text} :
    tonumber R (o.getD "255".toList) = some 255 ↔ ∀ p ∈ o, tonumber R p = some 255 := by
  cases o with
  | none =>
      rw [Option.getD_none]
      refine ⟨fun _ p hp => ?_, fun _ => tonumber_255⟩
      cases hp
  | some p => simp

/-- Two columns with 255 in them were read from a text nothing is left of: a part in its range
would stand in one of them. -/
theorem leavesNothing_of_unset {time : List Text} (htime : getHourMinutes R s = some time)
    (hhour : ∀ p ∈ time[0]?, tonumber R p = some 255)
    (hminute : ∀ p ∈ time[1]?, tonumber R p = some 255) : LeavesNothing R s := by
  have hsmall : ∀ {p : Text} {limit n : ℚ}, tonumber R p = some n → n ≤ limit → limit < 255 →
      ¬tonumber R p = some 255 := by
    intro p limit n hn hle hlt h255
    rw [hn, Option.some.injEq] at h255
    rw [h255] at hle
    exact absurd hle (not_le.mpr hlt)
  rw [getHourMinutes] at htime
  rw [LeavesNothing]
  cases hparts : colonParts s with
  | nil => simp
  | cons p rest =>
      rw [hparts] at htime
      cases rest with
      | nil =>
          rw [hourMinutesFrom_single] at htime
          rcases inRange_cases htime with ⟨hdrop, -⟩ | ⟨n, hn, hle, rfl⟩
          · simpa using hdrop
          · exact absurd (hhour p rfl) (hsmall hn hle (by norm_num))
      | cons q rest =>
          rw [hourMinutesFrom_pair, Option.bind_eq_some_iff] at htime
          obtain ⟨hour, hp, htime⟩ := htime
          obtain ⟨minute, hq, rfl⟩ := Option.map_eq_some_iff.mp htime
          rcases inRange_cases hp with ⟨hdropP, rfl⟩ | ⟨n, hn, hle, rfl⟩
          · rcases inRange_cases hq with ⟨hdropQ, rfl⟩ | ⟨n, hn, hle, rfl⟩
            · rw [List.nil_append, List.nil_append] at hhour hminute
              refine ⟨by simpa using hdropP, by simpa using hdropQ, ?_, ?_⟩
              · simpa using hhour
              · simpa using hminute
            · exact absurd (hhour q rfl) (hsmall hn hle (by norm_num))
          · exact absurd (hhour p rfl) (hsmall hn hle (by norm_num))

/-! ## The columns of a port -/

/-- A port of the table and the options of its section. -/
def HasPort (temp : Values) (i : Nat) (list : Param → Option Text) : Prop :=
  1 ≤ i ∧ (i : Int) ≤ temp.size - 2 ∧ temp.lan i = some list

theorem reports_iff (hport : HasPort temp i list) {c : Column} (hc : c ≠ .autoRstIndex) {n : Nat} :
    Reports R temp i c n ↔
      ∃ t, columnValue R list c = some (some t) ∧ tonumber R t = some (n : ℚ) := by
  obtain ⟨hlow, hhigh, hlist⟩ := hport
  have hget : snmpGetARconfig R temp c i =
      (columnValue R list c).map (fun v => (v, Status.ok)) := by
    rw [snmpGetARconfig, if_neg (not_lt.mpr hhigh), if_neg (by omega), if_neg hc, hlist]
    cases hvalue : columnValue R list c with
    | none => simp [hvalue]
    | some v => simp [hvalue]
  rw [Reports, hget]
  constructor
  · rintro ⟨t, ht, hn⟩
    obtain ⟨v, hv, heq⟩ := Option.map_eq_some_iff.mp ht
    rw [(Prod.mk.inj heq).1] at hv
    exact ⟨t, hv, hn⟩
  · rintro ⟨t, ht, hn⟩
    exact ⟨t, by rw [ht]; rfl, hn⟩

/-- A time column reads its position of the text. -/
theorem timePart_reports {position n : Nat} :
    (∃ t, (timePart R position s).map some = some (some t) ∧ tonumber R t = some (n : ℚ)) ↔
      ∃ time, getHourMinutes R s = some time ∧
        tonumber R (time[position]?.getD "255".toList) = some (n : ℚ) := by
  rw [timePart]
  cases getHourMinutes R s <;> simp

/-- The text of an alarm, 25:61 for one that is not set. -/
def alarmText (list : Param → Option Text) (a : Alarm) : Text :=
  (list a.param).getD "25:61".toList

theorem reports_hour_iff (hport : HasPort temp i list) {n : Nat} :
    Reports R temp i a.hour n ↔ ∃ time, getHourMinutes R (alarmText list a) = some time ∧
      tonumber R (time[0]?.getD "255".toList) = some (n : ℚ) := by
  have hvalue : columnValue R list a.hour = (timePart R 0 (alarmText list a)).map some := by
    cases a <;> rfl
  rw [reports_iff hport (by cases a <;> decide), hvalue, timePart_reports]

theorem reports_minute_iff (hport : HasPort temp i list) {n : Nat} :
    Reports R temp i a.minute n ↔ ∃ time, getHourMinutes R (alarmText list a) = some time ∧
      tonumber R (time[1]?.getD "255".toList) = some (n : ℚ) := by
  have hvalue : columnValue R list a.minute = (timePart R 1 (alarmText list a)).map some := by
    cases a <;> rfl
  rw [reports_iff hport (by cases a <;> decide), hvalue, timePart_reports]

theorem reports_clock (hport : HasPort temp i list) {h m : Nat}
    (hclock : IsClock (alarmText list a) h m) :
    Reports R temp i a.hour h ∧ Reports R temp i a.minute m := by
  obtain ⟨p, q, htime, hp, hq⟩ := hclock.time (R := R)
  exact ⟨(reports_hour_iff hport).mpr ⟨[p, q], htime, hp⟩,
    (reports_minute_iff hport).mpr ⟨[p, q], htime, hq⟩⟩

/-- 255 in both columns, exactly when nothing is left of the text. -/
theorem reports_255_iff (hport : HasPort temp i list) :
    Reports R temp i a.hour 255 ∧ Reports R temp i a.minute 255 ↔
      LeavesNothing R (alarmText list a) := by
  rw [reports_hour_iff hport, reports_minute_iff hport]
  constructor
  · rintro ⟨⟨time, htime, hhour⟩, ⟨time', htime', hminute⟩⟩
    obtain rfl : time = time' := Option.some.inj (htime.symm.trans htime')
    exact leavesNothing_of_unset htime (tonumber_getD_iff.mp hhour) (tonumber_getD_iff.mp hminute)
  · intro h
    have htime := h.time
    obtain ⟨-, -, hhour, hminute⟩ := h
    refine ⟨⟨_, htime, tonumber_getD_iff.mpr ?_⟩, ⟨_, htime, tonumber_getD_iff.mpr ?_⟩⟩
    · rwa [List.getElem?_drop]
    · rwa [List.getElem?_drop]

/-- An alarm that is not set is 255 in both columns. -/
theorem unset_reports (hport : HasPort temp i list) (hs : list a.param = none) :
    Reports R temp i a.hour 255 ∧ Reports R temp i a.minute 255 := by
  have htext : alarmText list a = "25:61".toList := by rw [alarmText, hs]; rfl
  have hparts : colonParts "25:61".toList = ["25".toList, "61".toList] := by decide
  have hhour : IsDropped R 24 "25".toList :=
    ⟨(25 : Nat), by
      rw [tonumber_digits R (digits_of_all (by decide) (by decide)), ← R.exact 25 (by decide)]
      rfl, .inr (by norm_num)⟩
  have hminute : IsDropped R 60 "61".toList :=
    ⟨(61 : Nat), by
      rw [tonumber_digits R (digits_of_all (by decide) (by decide)), ← R.exact 61 (by decide)]
      rfl, .inr (by norm_num)⟩
  rw [reports_255_iff hport, htext, LeavesNothing, hparts]
  exact ⟨by simpa using hhour, by simpa using hminute, by simp, by simp⟩

/-- **The columns of a stored time are right exactly for a clock and for a text nothing is left
of.** -/
theorem alarmRight_iff (hport : HasPort temp i list) (hs : list a.param = some s) :
    AlarmRight R temp i a s ↔ (∃ h m, IsClock s h m) ∨ LeavesNothing R s := by
  obtain rfl : alarmText list a = s := by rw [alarmText, hs]; rfl
  rw [AlarmRight, reports_255_iff hport]
  constructor
  · rintro ⟨-, hunset⟩
    by_cases hclock : ∃ h m, IsClock (alarmText list a) h m
    · exact .inl hclock
    · exact .inr (hunset hclock)
  · intro h
    refine ⟨fun h m hclock => reports_clock hport hclock, fun hno => ?_⟩
    rcases h with hclock | hnothing
    · exact absurd hclock hno
    · exact hnothing

/-- One port with an alarm at 07:30 and another text for the second alarm. -/
def onePort (off : Text) : Values :=
  ⟨3, fun _ => some fun p => if p = .timeUp then some "07:30".toList
    else if p = .timeDown then some off else none⟩

theorem alarmRight_iff_onePort :
    AlarmRight unrounded (onePort []) 1 .on "07:30".toList ↔
      (∃ h m, IsClock "07:30".toList h m) ∨ LeavesNothing unrounded "07:30".toList := by
  have hport : HasPort (onePort []) 1 (fun p => if p = .timeUp then some "07:30".toList
      else if p = .timeDown then some [] else none) := ⟨by decide, by decide, rfl⟩
  exact alarmRight_iff hport rfl

/-- **The minute of 99:30 is reported as the hour**, and a text that is no number ends the script
with an error. -/
theorem minute_reported_as_hour :
    ¬AlarmRight unrounded (onePort "99:30".toList) 1 .off "99:30".toList ∧
      snmpGetARconfig unrounded (onePort "never".toList) .autoReStartTimeOffHour 1 = none := by
  have htime : getHourMinutes unrounded "99:30".toList = some ["30".toList] := by decide +kernel
  have hread : snmpGetARconfig unrounded (onePort "99:30".toList) .autoReStartTimeOffHour 1 =
      some (some "30".toList, .ok) := by decide +kernel
  have hnum : tonumber unrounded "30".toList = some 30 := by decide +kernel
  refine ⟨fun hright => ?_, by decide +kernel⟩
  have hclock : ¬∃ h m, IsClock "99:30".toList h m := by
    rintro ⟨h, m, hclock⟩
    obtain ⟨p, q, hsplit, -⟩ := hclock.time (R := unrounded)
    rw [htime] at hsplit
    cases hsplit
  obtain ⟨⟨t, ht, h255⟩, -⟩ := hright.2 hclock
  obtain rfl : "30".toList = t :=
    Option.some.inj (Prod.mk.inj (Option.some.inj (hread.symm.trans ht))).1
  rw [hnum] at h255
  norm_num at h255

end ArConfig
