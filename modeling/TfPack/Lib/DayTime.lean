import Mathlib.Order.Bounds.Basic
import Mathlib.Data.Int.ModEq

set_option autoImplicit false

/-! # Instants of the day

A clock counts seconds. An instant `t` has phase `s` in a period of `n` seconds, seen `off`
seconds ahead, when `(t + off) % n = s`; with a day for period and the zone's offset that is the
time of day. The next instant of a phase after `now` is the one less than a period away
(`isLeast_next_iff`), so instants of one phase stay a whole number of periods apart.

A `Calendar` numbers the days by year, month and day of the month. `gregorian` is the calendar
in use; day `0` is 1 January 1970.
-/

namespace DayTime

/-! ## Phases -/

/-- The instants after `now` of phase `s`. -/
def laterAt (n off s now : Int) : Set Int := {t | now < t ∧ (t + off) % n = s}

/-- The instants up to `now` of phase `s`. -/
def upToAt (n off s now : Int) : Set Int := {t | t ≤ now ∧ (t + off) % n = s}

/-- The last instant up to `now` of phase `s`. -/
def prev (n off s now : Int) : Int := now - (now + off - s) % n

/-- The first instant after `now` of phase `s`. -/
def next (n off s now : Int) : Int := now + 1 + (s - (now + 1 + off)) % n

section Phases

variable {n off s now t : Int} (hn : 0 < n)

theorem next_phase (hs : 0 ≤ s) (hsn : s < n) : (next n off s now + off) % n = s := by
  calc (next n off s now + off) % n
      = ((now + 1 + off) + (s - (now + 1 + off)) % n) % n := by
        rw [next]
        congr 1
        omega
    _ = ((now + 1 + off) + (s - (now + 1 + off))) % n := by rw [Int.add_emod_emod]
    _ = s := by
        rw [add_sub_cancel]
        exact Int.emod_eq_of_lt hs hsn

/-- Two instants of one phase, less than a period apart, are the same. -/
theorem eq_of_phase {u : Int} (h : (t + off) % n = (u + off) % n) (hle : t ≤ u)
    (hlt : u < t + n) : t = u := by
  have hdvd : n ∣ u + off - (t + off) := Int.ModEq.dvd h
  have hzero : u + off - (t + off) = 0 :=
    Int.eq_zero_of_dvd_of_nonneg_of_lt (by omega) (by omega) hdvd
  omega

include hn

theorem lt_next : now < next n off s now := by
  have hnonneg := Int.emod_nonneg (s - (now + 1 + off)) hn.ne'
  rw [next]
  omega

theorem next_le : next n off s now ≤ now + n := by
  have hlt := Int.emod_lt_of_pos (s - (now + 1 + off)) hn
  rw [next]
  omega

/-- **The next instant of a phase** is the one at most a period away. -/
theorem isLeast_next_iff (hs : 0 ≤ s) (hsn : s < n) :
    IsLeast (laterAt n off s now) t ↔ now < t ∧ t ≤ now + n ∧ (t + off) % n = s := by
  constructor
  · rintro ⟨⟨hlt, hphase⟩, hleast⟩
    have hmem : next n off s now ∈ laterAt n off s now := ⟨lt_next hn, next_phase hs hsn⟩
    exact ⟨hlt, (hleast hmem).trans (next_le hn), hphase⟩
  · rintro ⟨hlt, hle, hphase⟩
    refine ⟨⟨hlt, hphase⟩, ?_⟩
    rintro u ⟨hu, huphase⟩
    by_contra hut
    have heq : u = t := eq_of_phase (huphase.trans hphase.symm) (by omega) (by omega)
    omega

/-- **The last instant of a phase** is less than a period ago. -/
theorem isGreatest_prev (hs : 0 ≤ s) (hsn : s < n) :
    IsGreatest (upToAt n off s now) (prev n off s now) := by
  have hnonneg := Int.emod_nonneg (now + off - s) hn.ne'
  have hlt := Int.emod_lt_of_pos (now + off - s) hn
  have hphase : (prev n off s now + off) % n = s := by
    calc (prev n off s now + off) % n = (now + off - (now + off - s) % n) % n := by
          rw [prev]
          congr 1
          omega
      _ = (now + off - (now + off - s)) % n := Int.sub_emod_emod _ _ _
      _ = s := by
          rw [sub_sub_cancel]
          exact Int.emod_eq_of_lt hs hsn
  have hle : prev n off s now ≤ now := by
    rw [prev]
    omega
  refine ⟨⟨hle, hphase⟩, ?_⟩
  rintro u ⟨hu, huphase⟩
  by_contra hlate
  have heq : prev n off s now = u :=
    eq_of_phase (hphase.trans huphase.symm) (by omega) (by rw [prev]; omega)
  omega

end Phases

/-- There is no next instant of a phase that is none. -/
theorem not_isLeast_of_phase {n off s now t : Int} (hn : 0 < n) (hs : ¬ (0 ≤ s ∧ s < n)) :
    ¬ IsLeast (laterAt n off s now) t := by
  rintro ⟨⟨-, hphase⟩, -⟩
  exact hs ⟨hphase ▸ Int.emod_nonneg _ hn.ne', hphase ▸ Int.emod_lt_of_pos _ hn⟩

/-! ## Calendars -/

/-- A numbering of the days: `date` gives the year, the month and the day of the month, `day`
the number of a date. A day of the month may lie outside its month; days are then counted from
the month's first. -/
structure Calendar where
  date : Int → Int × Int × Int
  day : Int → Int → Int → Int
  day_date : ∀ k, day (date k).1 (date k).2.1 (date k).2.2 = k
  day_add : ∀ y m d k, day y m (d + k) = day y m d + k

/-! ### The Gregorian calendar

Years are counted from March, so that the leap day ends a year, and in eras of 400 years. -/

/-- The days of the year before the month `mp`, March being `0`. -/
def marchDays (mp : Int) : Int := (153 * mp + 2) / 5

/-- The days of the era before its year `yoe`. -/
def eraDays (yoe : Int) : Int := 365 * yoe + yoe / 4 - yoe / 100

/-- The number of a date. -/
def dayNumber (y m d : Int) : Int :=
  let y' := if m ≤ 2 then y - 1 else y
  let mp := if m ≤ 2 then m + 9 else m - 3
  y' / 400 * 146097 + eraDays (y' % 400) + marchDays mp + (d - 1) - 719468

/-- The year of the era in which its day `doe` lies. The last century and the last year of four
years are a day longer than the others. -/
def yearOfEra (doe : Int) : Int :=
  let c := min (doe / 36524) 3
  let r := doe - 36524 * c
  let q := r / 1461
  100 * c + 4 * q + min ((r - 1461 * q) / 365) 3

/-- The date of a day. -/
def civil (k : Int) : Int × Int × Int :=
  let z := k + 719468
  let doe := z % 146097
  let yoe := yearOfEra doe
  let doy := doe - eraDays yoe
  let mp := (5 * doy + 2) / 153
  let y := z / 146097 * 400 + yoe
  let d := doy - marchDays mp + 1
  if mp < 10 then (y, mp + 3, d) else (y + 1, mp - 9, d)

/-- The year of a day of the era is one of 400, and has the day among its 365 or 366. -/
theorem yearOfEra_spec {doe : Int} (h : 0 ≤ doe) (hlt : doe < 146097) :
    0 ≤ yearOfEra doe ∧ yearOfEra doe < 400 ∧ eraDays (yearOfEra doe) ≤ doe ∧
      doe ≤ eraDays (yearOfEra doe) + 365 := by
  obtain ⟨c, hc⟩ : ∃ c, c = min (doe / 36524) 3 := ⟨_, rfl⟩
  obtain ⟨q, hq⟩ : ∃ q, q = (doe - 36524 * c) / 1461 := ⟨_, rfl⟩
  obtain ⟨a, ha⟩ : ∃ a, a = min ((doe - 36524 * c - 1461 * q) / 365) 3 := ⟨_, rfl⟩
  have hyear : yearOfEra doe = 100 * c + 4 * q + a := by
    rw [yearOfEra, ha, hq, hc]
  -- the century, then the four years, then the year, each with the days left over
  have hr : 0 ≤ doe - 36524 * c ∧ doe - 36524 * c ≤ 36524 ∧ 0 ≤ c ∧ c ≤ 3 := by omega
  have hs : 0 ≤ doe - 36524 * c - 1461 * q ∧ doe - 36524 * c - 1461 * q < 1461 ∧
      0 ≤ q ∧ q ≤ 24 := by omega
  have hd : 0 ≤ doe - 36524 * c - 1461 * q - 365 * a ∧
      doe - 36524 * c - 1461 * q - 365 * a ≤ 365 ∧ 0 ≤ a ∧ a ≤ 3 := by omega
  have hquarter : (100 * c + 4 * q + a) / 4 = 25 * c + q := by omega
  have hcentury : (100 * c + 4 * q + a) / 100 = c := by omega
  rw [hyear, eraDays, hquarter, hcentury]
  omega

/-- A day is the day of its date. -/
theorem dayNumber_civil (k : Int) :
    dayNumber (civil k).1 (civil k).2.1 (civil k).2.2 = k := by
  have hdoe : 0 ≤ (k + 719468) % 146097 ∧ (k + 719468) % 146097 < 146097 := by omega
  obtain ⟨hyoe, hyoe', hdoy, hdoy'⟩ := yearOfEra_spec hdoe.1 hdoe.2
  rw [civil]
  generalize yearOfEra ((k + 719468) % 146097) = yoe at *
  generalize hdays : eraDays yoe = days at *
  have hera : ((k + 719468) / 146097 * 400 + yoe) / 400 = (k + 719468) / 146097 := by omega
  have hyear : ((k + 719468) / 146097 * 400 + yoe) % 400 = yoe := by omega
  generalize hmp : (5 * ((k + 719468) % 146097 - days) + 2) / 153 = mp
  have hmonth : 0 ≤ mp ∧ mp < 12 := by omega
  by_cases hmarch : mp < 10
  · have hm : ¬ mp + 3 ≤ 2 := by omega
    simp only [dayNumber, hmarch, hm, if_true, if_false, hera, hyear, hdays, add_sub_cancel_right]
    omega
  · -- January and February belong to the year that began in March
    have hm : mp - 9 ≤ 2 := by omega
    simp only [dayNumber, hmarch, hm, if_true, if_false, add_sub_cancel_right, sub_add_cancel,
      hera, hyear, hdays]
    omega

theorem dayNumber_add (y m d k : Int) : dayNumber y m (d + k) = dayNumber y m d + k := by
  simp only [dayNumber]
  omega

/-- The Gregorian calendar. -/
def gregorian : Calendar := ⟨civil, dayNumber, dayNumber_civil, dayNumber_add⟩

example : civil 17000 = (2016, 7, 18) ∧ dayNumber 2016 7 18 = 17000 := by decide

end DayTime
