import Mathlib.Data.Int.Log
import Mathlib.Data.Rat.Floor
import Mathlib.Tactic.Positivity

set_option autoImplicit false

/-! # Significant digits

A positive number is rounded to `k` decimal digits: a whole number of `k` digits and the exponent of
its first digit (`rounded`). What a whole number bounds stays bounded by it (`le_significant`,
`significant_le`), and the result is whole exactly when the digits behind the point are zeros
(`whole_iff_dvd`).
-/

namespace SignificantDigits

variable {q : ℚ} {k : ℕ}

/-! ## The nearest whole number -/

/-- The nearest whole number, the even one of two. -/
def roundEven (q : ℚ) : ℤ :=
  if Int.fract q < 1 / 2 then ⌊q⌋
  else if 1 / 2 < Int.fract q then ⌊q⌋ + 1
  else if 2 ∣ ⌊q⌋ then ⌊q⌋
  else ⌊q⌋ + 1

theorem floor_le_roundEven (q : ℚ) : ⌊q⌋ ≤ roundEven q := by
  rw [roundEven]
  split_ifs <;> omega

/-- A number that is rounded up is not whole. -/
theorem roundEven_le_ceil (q : ℚ) : roundEven q ≤ ⌈q⌉ := by
  have hceil : Int.fract q ≠ 0 → ⌊q⌋ + 1 ≤ ⌈q⌉ := by
    intro hfract
    rw [Int.add_one_le_iff, Int.lt_ceil]
    have hpos := (Int.fract_nonneg q).lt_of_ne' hfract
    rw [Int.fract] at hpos
    linarith
  rw [roundEven]
  split_ifs with hlt hgt hdvd
  · exact Int.floor_le_ceil q
  · exact hceil (by linarith)
  · exact Int.floor_le_ceil q
  · exact hceil (fun hzero => hlt (by rw [hzero]; norm_num))

theorem le_roundEven {m : ℤ} (h : (m : ℚ) ≤ q) : m ≤ roundEven q :=
  (Int.le_floor.mpr h).trans (floor_le_roundEven q)

theorem roundEven_le {m : ℤ} (h : q ≤ m) : roundEven q ≤ m :=
  (roundEven_le_ceil q).trans (Int.ceil_le.mpr h)

theorem roundEven_intCast (m : ℤ) : roundEven m = m :=
  (roundEven_le le_rfl).antisymm (le_roundEven le_rfl)

/-! ## Digits and exponent -/

/-- The first `k` digits, before a carry. -/
def leading (k : ℕ) (q : ℚ) : ℕ := (roundEven (q * 10 ^ ((k : ℤ) - 1 - Int.log 10 q))).toNat

/-- The first `k` digits and the exponent of the first of them. -/
def rounded (k : ℕ) (q : ℚ) : ℕ × ℤ :=
  if leading k q = 10 ^ k then (10 ^ (k - 1), Int.log 10 q + 1)
  else (leading k q, Int.log 10 q)

/-- The number they make. -/
def significant (k : ℕ) (q : ℚ) : ℚ :=
  (rounded k q).1 * 10 ^ ((rounded k q).2 - ((k : ℤ) - 1))

/-- The number is whole when it is rounded. -/
def Whole (k : ℕ) (q : ℚ) : Prop := ∃ m : ℕ, significant k q = m

/-- A carry does not change the number. -/
theorem significant_eq (hk : k ≠ 0) (q : ℚ) :
    significant k q = leading k q * 10 ^ (Int.log 10 q - ((k : ℤ) - 1)) := by
  rw [significant, rounded]
  split_ifs with hcarry
  -- `10 ^ k` in one place is `10 ^ (k - 1)` in the next
  · obtain ⟨k, rfl⟩ : ∃ j, k = j + 1 := Nat.exists_eq_add_one_of_ne_zero hk
    have hexp : Int.log 10 q + 1 - (((k + 1 : ℕ) : ℤ) - 1) =
        1 + (Int.log 10 q - (((k + 1 : ℕ) : ℤ) - 1)) := by ring
    simp only [hcarry, hexp, Nat.add_sub_cancel]
    rw [zpow_add₀ (by norm_num), zpow_one, ← mul_assoc, pow_succ]
    push_cast
    rfl
  · rfl

/-! ## A number with all its whole digits -/

/-- The digits behind the point. -/
def behind (k : ℕ) (q : ℚ) : ℕ := ((k : ℤ) - 1 - (rounded k q).2).toNat

theorem log_nonneg (h1 : 1 ≤ q) : 0 ≤ Int.log 10 q := by
  rw [Int.log_of_one_le_right 10 h1]
  exact Int.natCast_nonneg _

theorem log_lt (h1 : 1 ≤ q) (hq : q < 10 ^ k) : Int.log 10 q < k := by
  rw [← Int.lt_zpow_iff_log_lt (by norm_num) (by linarith)]
  exact_mod_cast hq

/-- A carry moves the first digit by one place. -/
theorem rounded_exponent (k : ℕ) (q : ℚ) :
    (rounded k q).2 = Int.log 10 q ∨ (rounded k q).2 = Int.log 10 q + 1 := by
  rw [rounded]
  split_ifs
  · exact .inr rfl
  · exact .inl rfl

/-- The digits are those of a whole number of places behind the point. -/
theorem exists_scale (h1 : 1 ≤ q) (hq : q < 10 ^ k) :
    ∃ d : ℕ, (k : ℤ) - 1 - Int.log 10 q = d ∧ leading k q = (roundEven (q * 10 ^ d)).toNat := by
  have hlog := log_lt h1 hq
  refine ⟨((k : ℤ) - 1 - Int.log 10 q).toNat, by omega, ?_⟩
  have hd : (((k : ℤ) - 1 - Int.log 10 q).toNat : ℤ) = (k : ℤ) - 1 - Int.log 10 q := by omega
  rw [leading, ← zpow_natCast, hd]

theorem significant_of_scale (hk : k ≠ 0) {d : ℕ} (hd : (k : ℤ) - 1 - Int.log 10 q = d) :
    significant k q = leading k q / 10 ^ d := by
  have hexp : Int.log 10 q - ((k : ℤ) - 1) = -(d : ℤ) := by omega
  rw [significant_eq hk, hexp, zpow_neg, zpow_natCast, div_eq_mul_inv]

theorem ne_zero_of_lt (h1 : 1 ≤ q) (hq : q < 10 ^ k) : k ≠ 0 := by
  rintro rfl
  rw [pow_zero] at hq
  linarith

/-- **A lower bound is kept.** -/
theorem le_significant {m : ℕ} (h1 : 1 ≤ q) (hq : q < 10 ^ k) (h : (m : ℚ) ≤ q) :
    (m : ℚ) ≤ significant k q := by
  obtain ⟨d, hd, hlead⟩ := exists_scale h1 hq
  have hround : (m * 10 ^ d : ℤ) ≤ roundEven (q * 10 ^ d) := by
    apply le_roundEven
    push_cast
    gcongr
  have hle : m * 10 ^ d ≤ leading k q := by
    rw [hlead]
    have hself := Int.self_le_toNat (roundEven (q * 10 ^ d))
    exact_mod_cast hround.trans hself
  rw [significant_of_scale (ne_zero_of_lt h1 hq) hd, le_div_iff₀ (by positivity)]
  exact_mod_cast hle

/-- **An upper bound is kept.** -/
theorem significant_le {m : ℕ} (h1 : 1 ≤ q) (hq : q < 10 ^ k) (h : q ≤ m) :
    significant k q ≤ m := by
  obtain ⟨d, hd, hlead⟩ := exists_scale h1 hq
  have hround : roundEven (q * 10 ^ d) ≤ (m * 10 ^ d : ℤ) := by
    apply roundEven_le
    push_cast
    gcongr
  have hle : leading k q ≤ m * 10 ^ d := by
    rw [hlead, Int.toNat_le]
    exact_mod_cast hround
  rw [significant_of_scale (ne_zero_of_lt h1 hq) hd, div_le_iff₀ (by positivity)]
  exact_mod_cast hle

/-- A whole number is its own rounding. -/
theorem significant_natCast {m : ℕ} (h1 : 1 ≤ m) (hm : m < 10 ^ k) : significant k m = m := by
  have h1' : (1 : ℚ) ≤ m := by exact_mod_cast h1
  have hm' : (m : ℚ) < 10 ^ k := by exact_mod_cast hm
  exact (significant_le h1' hm' le_rfl).antisymm (le_significant h1' hm' le_rfl)

/-- There are at most `k` digits, with a carry `10 ^ k`. -/
theorem leading_le (k : ℕ) (q : ℚ) : leading k q ≤ 10 ^ k := by
  have hlt := Int.lt_zpow_succ_log_self (show 1 < 10 by norm_num) q
  have hbase : ((10 : ℕ) : ℚ) = 10 := by norm_num
  have hexp : Int.log 10 q + 1 + ((k : ℤ) - 1 - Int.log 10 q) = k := by ring
  rw [hbase] at hlt
  have hscaled : q * 10 ^ ((k : ℤ) - 1 - Int.log 10 q) ≤ ((10 ^ k : ℕ) : ℤ) :=
    calc q * 10 ^ ((k : ℤ) - 1 - Int.log 10 q)
        ≤ 10 ^ (Int.log 10 q + 1) * 10 ^ ((k : ℤ) - 1 - Int.log 10 q) :=
          mul_le_mul_of_nonneg_right hlt.le (zpow_nonneg (by norm_num) _)
      _ = 10 ^ (k : ℤ) := by rw [← zpow_add₀ (by norm_num), hexp]
      _ = ((10 ^ k : ℕ) : ℤ) := by
        rw [zpow_natCast]
        norm_cast
  rw [leading, Int.toNat_le]
  exact roundEven_le hscaled

theorem rounded_lt (hk : k ≠ 0) (q : ℚ) : (rounded k q).1 < 10 ^ k := by
  rw [rounded]
  split_ifs with hcarry
  · exact Nat.pow_lt_pow_right (by norm_num) (Nat.sub_lt (Nat.pos_of_ne_zero hk) one_pos)
  · exact (leading_le k q).lt_of_ne hcarry

/-- A whole number of up to `k` digits has no carry. -/
theorem exponent_natCast_lt {m : ℕ} (h1 : 1 ≤ m) (hm : m < 10 ^ k) : (rounded k (m : ℚ)).2 < k := by
  have h1' : (1 : ℚ) ≤ m := by exact_mod_cast h1
  have hm' : (m : ℚ) < 10 ^ k := by exact_mod_cast hm
  obtain ⟨d, hd, hlead⟩ := exists_scale h1' hm'
  -- all digits of `m` are kept, so there is nothing to round
  have hexact : leading k (m : ℚ) = m * 10 ^ d := by
    have hround := roundEven_intCast (m * 10 ^ d)
    push_cast at hround
    rw [hlead, hround]
    exact_mod_cast Int.toNat_natCast (m * 10 ^ d)
  have hlt := Int.lt_zpow_succ_log_self (show 1 < 10 by norm_num) (m : ℚ)
  have hlog := log_lt h1' hm'
  have hpos := log_nonneg h1'
  have hno : leading k (m : ℚ) ≠ 10 ^ k := by
    have hexp : Int.log 10 (m : ℚ) + 1 = ((k - d : ℕ) : ℤ) := by omega
    rw [hexp, zpow_natCast] at hlt
    have hnat : m < 10 ^ (k - d) := by exact_mod_cast hlt
    have hsplit : 10 ^ (k - d) * 10 ^ d = 10 ^ k := by
      rw [← pow_add, Nat.sub_add_cancel (by omega)]
    rw [hexact, ← hsplit]
    exact (Nat.mul_lt_mul_of_pos_right hnat (by positivity)).ne
  rw [rounded, if_neg hno]
  exact hlog

/-- The digits behind the point are those that are left of the `k` digits. -/
theorem significant_eq_div (hexp : (rounded k q).2 < k) :
    significant k q = (rounded k q).1 / 10 ^ behind k q := by
  have hd : (rounded k q).2 - ((k : ℤ) - 1) = -(behind k q : ℤ) := by
    rw [behind]
    omega
  rw [significant, hd, zpow_neg, zpow_natCast, div_eq_mul_inv]

/-- **The rounded number is whole** when the digits behind the point are zeros. -/
theorem whole_iff_dvd (hexp : (rounded k q).2 < k) {m : ℕ} :
    significant k q = m ↔ (rounded k q).1 = m * 10 ^ behind k q := by
  rw [significant_eq_div hexp, div_eq_iff (by positivity)]
  exact_mod_cast Iff.rfl

end SignificantDigits
