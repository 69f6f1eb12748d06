import TfPack.Clish.LldpPorts
import TfPack.Lib.SignificantDigits

set_option autoImplicit false

/-! # `tostring` of a number

Lua writes a number with `%.14g`: 14 significant digits, without zeros at the end, and with an
exponent when it is below -4 or above 13. A number whose digits reach the point is written as a
decimal integer exactly when it is whole in 14 digits (`tostring_whole`, `point_mem_tostring`).
-/

namespace Lua

open AutoRestart SignificantDigits
open Vlan (decimal)

/-- The digits behind the point, without zeros at the end. -/
def behindPoint (ds : Text) : Text :=
  match ds.rdropWhile (· == '0') with
  | [] => []
  | c :: ds => '.' :: c :: ds

/-- `n / 10 ^ d`. -/
def fixed (n d : Nat) : Text :=
  decimal (n / 10 ^ d) ++ behindPoint ((decimal (n % 10 ^ d)).leftpad d '0')

/-- The digits of `n`, the first of them in the place `e`. -/
def scientific (n : Nat) (e : Int) : Text :=
  (decimal n).take 1 ++ behindPoint ((decimal n).drop 1) ++
    'e' :: (if e < 0 then '-' else '+') :: (decimal e.natAbs).leftpad 2 '0'

def positiveText (q : ℚ) : Text :=
  let (n, e) := rounded 14 q
  if -4 ≤ e ∧ e < 14 then fixed n (13 - e).toNat else scientific n e

/-- `tostring` of a number. A negative zero is zero here. -/
def tostring (q : ℚ) : Text :=
  if q = 0 then ['0'] else if q < 0 then '-' :: positiveText (-q) else positiveText q

/-! ## The digits behind the point -/

theorem behindPoint_zeros {ds : Text} (h : ∀ c ∈ ds, c = '0') : behindPoint ds = [] := by
  have hdrop : ds.rdropWhile (· == '0') = [] := by
    rw [List.rdropWhile_eq_nil_iff]
    intro c hc
    rw [h c hc]
    rfl
  rw [behindPoint, hdrop]

theorem point_mem_behindPoint {ds : Text} {c : Char} (hc : c ∈ ds) (hne : c ≠ '0') :
    '.' ∈ behindPoint ds := by
  rw [behindPoint]
  cases hdrop : ds.rdropWhile (· == '0') with
  | nil =>
      rw [List.rdropWhile_eq_nil_iff] at hdrop
      exact absurd (beq_iff_eq.mp (hdrop c hc)) hne
  | cons c ds => exact List.mem_cons_self

/-- A number that is not zero has a digit that is not. -/
theorem exists_digit_ne_zero {n : Nat} (hn : n ≠ 0) : ∃ c ∈ decimal n, c ≠ '0' := by
  by_contra h
  push Not at h
  have hval : digitsVal (decimal n) = n := digitsVal_toDigits n
  rw [List.eq_replicate_of_mem h] at hval
  apply hn
  rw [← hval]
  generalize (decimal n).length = k
  induction k with
  | zero => rfl
  | succ k ih =>
      rw [List.replicate_succ', digitsVal_append_digit, ih]
      rfl

theorem fixed_whole (m d : Nat) : fixed (m * 10 ^ d) d = decimal m := by
  have hpos : 0 < 10 ^ d := by positivity
  have hzeros : behindPoint ((decimal 0).leftpad d '0') = [] := by
    apply behindPoint_zeros
    intro c hc
    rcases List.mem_append.mp hc with hc | hc
    · exact List.eq_of_mem_replicate hc
    · exact List.mem_singleton.mp hc
  rw [fixed, Nat.mul_div_cancel _ hpos, Nat.mul_mod_left, hzeros, List.append_nil]

theorem point_mem_fixed {n d : Nat} (h : n % 10 ^ d ≠ 0) : '.' ∈ fixed n d := by
  obtain ⟨c, hc, hne⟩ := exists_digit_ne_zero h
  exact List.mem_append_right _ (point_mem_behindPoint (List.mem_append_right _ hc) hne)

/-! ## Numbers whose 14 digits reach the point -/

section Whole

variable {q : ℚ} (h1 : 1 ≤ q) (hexp : (rounded 14 q).2 < 14)

include h1 hexp

theorem tostring_eq_fixed : tostring q = fixed (rounded 14 q).1 (behind 14 q) := by
  have hlow := log_nonneg h1
  have hfirst : -4 ≤ (rounded 14 q).2 := by
    rcases rounded_exponent 14 q with hlog | hlog <;> omega
  have hpos : 0 < q := by linarith
  have hd : (13 - (rounded 14 q).2).toNat = behind 14 q := rfl
  rw [tostring, if_neg hpos.ne', if_neg hpos.not_gt, positiveText]
  dsimp only
  rw [if_pos ⟨hfirst, hexp⟩, hd]

/-- **A number that is whole in 14 digits is written as an integer.** -/
theorem tostring_whole {m : Nat} (hm : significant 14 q = m) : tostring q = decimal m := by
  rw [tostring_eq_fixed h1 hexp, (whole_iff_dvd hexp).mp hm, fixed_whole]

/-- **Any other is written with a point.** -/
theorem point_mem_tostring (hno : ¬Whole 14 q) : '.' ∈ tostring q := by
  rw [tostring_eq_fixed h1 hexp]
  apply point_mem_fixed
  intro hmod
  obtain ⟨m, hm⟩ := Nat.dvd_of_mod_eq_zero hmod
  exact hno ⟨m, (whole_iff_dvd hexp).mpr (hm.trans (Nat.mul_comm _ _))⟩

end Whole

/-- With at most 13 whole digits there is no carry behind the last. -/
theorem exponent_lt {q : ℚ} (h1 : 1 ≤ q) (hq : q < 10 ^ 13) : (rounded 14 q).2 < 14 := by
  have hlog := log_lt h1 hq
  rcases rounded_exponent 14 q with hexp | hexp <;> omega

/-- A whole number is written as it is. -/
theorem tostring_natCast {n : Nat} (hn : n < 10 ^ 14) : tostring n = decimal n := by
  rcases Nat.eq_zero_or_pos n with rfl | hpos
  · rfl
  · exact tostring_whole (by exact_mod_cast hpos) (exponent_natCast_lt hpos hn)
      (significant_natCast hpos hn)

/-! ## Larger numbers -/

/-- No zeros, no point: the digits behind the point that are left. -/
theorem filter_behindPoint {ds : Text} (h : '.' ∉ ds) :
    (behindPoint ds).filter (· != '.') = ds.rdropWhile (· == '0') := by
  have hself : (ds.rdropWhile (· == '0')).filter (· != '.') = ds.rdropWhile (· == '0') := by
    refine List.filter_eq_self.mpr fun c hc => bne_iff_ne.mpr ?_
    rintro rfl
    exact h ((List.rdropWhile_prefix _ ds).subset hc)
  rw [behindPoint]
  cases hdrop : ds.rdropWhile (· == '0') with
  | nil => rfl
  | cons c ds =>
      rw [hdrop] at hself
      rw [List.filter_cons_of_neg (by decide), hself]

/-- Digits, at most `k` of them, and an exponent. -/
theorem scientific_eq {n k : Nat} (hk : 0 < k) (hn : n < 10 ^ k) (e : Int) :
    ∃ d e', (scientific n e).filter (· != '.') = d ++ 'e' :: e' ∧ Digits d ∧ d.length ≤ k := by
  have hdigits : Digits (decimal n) := digits_toDigits n
  have hno : '.' ∉ (decimal n).drop 1 := fun hmem => hdigits.not_mem (by decide)
    (List.mem_of_mem_drop hmem)
  have hstart : (decimal n).take 1 ++ ((decimal n).drop 1).rdropWhile (· == '0') <+: decimal n := by
    nth_rewrite 3 [← List.take_append_drop 1 (decimal n)]
    exact (List.prefix_append_right_inj _).mpr (List.rdropWhile_prefix _ _)
  have htake : ((decimal n).take 1).filter (· != '.') = (decimal n).take 1 := by
    refine List.filter_eq_self.mpr fun c hc => bne_iff_ne.mpr ?_
    rintro rfl
    exact hdigits.not_mem (by decide) (List.mem_of_mem_take hc)
  have hfilter : (scientific n e).filter (· != '.') =
      ((decimal n).take 1 ++ ((decimal n).drop 1).rdropWhile (· == '0')) ++ 'e' ::
        ((if e < 0 then '-' else '+') :: (decimal e.natAbs).leftpad 2 '0').filter (· != '.') := by
    rw [scientific, List.filter_append, List.filter_append, htake, filter_behindPoint hno,
      List.filter_cons_of_pos (by decide)]
  refine ⟨_, _, hfilter, ⟨?_, ?_⟩, ?_⟩
  · obtain ⟨c, t, heq, -⟩ := hdigits.exists_cons
    rw [heq]
    exact List.cons_ne_nil _ _
  · exact fun c hc => hdigits.2 c (hstart.subset hc)
  · exact hstart.length_le.trans ((Nat.length_toDigits_le_iff (by norm_num) hk).mpr hn)

/-- From `10 ^ 14` on there is an exponent. -/
theorem tostring_large {q : ℚ} (hq : 10 ^ 14 ≤ q) :
    tostring q = scientific (rounded 14 q).1 (rounded 14 q).2 := by
  have hpos : 0 < q := lt_of_lt_of_le (by norm_num) hq
  have hlog : 14 ≤ Int.log 10 q := by
    rw [← Int.zpow_le_iff_le_log (by norm_num) hpos]
    exact_mod_cast hq
  have hexp : ¬((-4 : Int) ≤ (rounded 14 q).2 ∧ (rounded 14 q).2 < 14) := by
    rcases rounded_exponent 14 q with hexp | hexp <;> omega
  rw [tostring, if_neg hpos.ne', if_neg hpos.not_gt, positiveText]
  dsimp only
  rw [if_neg hexp]

/-- `tostring` writes numbers as the commands of LLDP take it to. -/
def luaPrinting : Lldp.Printing where
  text := tostring
  whole _ := tostring_natCast
  large q hq := by
    rw [tostring_large hq]
    exact scientific_eq (by norm_num) (rounded_lt (by norm_num) q) _

end Lua
