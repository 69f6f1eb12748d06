import Mathlib.Tactic.FieldSimp
import Mathlib.Tactic.Linarith
import Mathlib.Tactic.NormNum
import Mathlib.Tactic.Ring
import TfPack.Hwsys.PrintedText

set_option autoImplicit false

/-! # The client program: decimal texts

A value of two bytes that stands for a fraction is printed as whole part, point and remainder, each
with `%d`. The remainder goes without the zeros in front of it, and a whole part of zero without
the sign, so that some texts denote another number (`decimalRight_iff`).
-/

namespace Hwsys

open AutoRestart (digitsVal digitsVal_toDigits)

/-! ## Denotation -/

/-- The number that digits, a point and digits denote. -/
def fractionValue (t : Text) : Option ℚ :=
  match t.dropWhile Char.isDigit with
  | '.' :: part =>
      let whole := t.takeWhile Char.isDigit
      if whole ≠ [] ∧ part ≠ [] ∧ part.all Char.isDigit = true then
        some (digitsVal whole + digitsVal part / 10 ^ part.length)
      else none
  | _ => none

/-- The number that a decimal text denotes. -/
def decimalValue : Text → Option ℚ
  | '-' :: t => (fractionValue t).map (fun v => -v)
  | t => fractionValue t

/-- The raw number of a value: signed for `TYPE_FLOAT_SFP`. -/
def I2cData.raw (m : I2cData) : Int :=
  if m.type = I2cType.TYPE_FLOAT_SFP.val then m.value16.toInt16.toInt else m.value16.toNat

/-- The number that a raw number stands for. -/
def scaledValue (n : Int) : ℚ := if n < 1000 then n / 10 else n / 1000

/-- What is printed in front of the answer of a microcontroller that has an error. -/
def I2cData.errorLine (m : I2cData) : Text :=
  if m.errorResponse then "error response\n".toList else []

/-- The printed text denotes the number that the value stands for. -/
def DecimalRight (m : I2cData) : Prop :=
  ∃ text, printed m .SOCKET_READ_OK = some (m.errorLine ++ (text ++ ['\n'])) ∧
    decimalValue text = some (scaledValue m.raw)

/-- Neither the sign nor a zero of the fraction is left out of the text. -/
def Spelled (n : Int) : Prop :=
  if n < 1000 then n ≤ -10 ∨ 0 ≤ n else n % 1000 = 0 ∨ 100 ≤ n % 1000

instance (n : Int) : Decidable (Spelled n) := by
  unfold Spelled; infer_instance

section Denotation

open LuaPattern Tokens

theorem fractionValue_toDigits (whole part : Nat) :
    fractionValue (Nat.toDigits 10 whole ++ '.' :: Nat.toDigits 10 part) =
      some (whole + part / 10 ^ (Nat.toDigits 10 part).length : ℚ) := by
  have hwhole := AutoRestart.digits_toDigits whole
  have hpart := AutoRestart.digits_toDigits part
  have hpoint : ∀ c ∈ ('.' :: Nat.toDigits 10 part).head?, c.isDigit = false := by
    intro c hc
    cases hc
    decide
  unfold fractionValue
  rw [dropWhile_block hwhole.2 hpoint, takeWhile_block hwhole.2 hpoint]
  show (if _ ∧ _ ∧ _ then some _ else none) = _
  rw [if_pos ⟨hwhole.1, hpart.1, List.all_eq_true.mpr hpart.2⟩, digitsVal_toDigits,
    digitsVal_toDigits]

theorem intText_natCast (n : Nat) : intText n = Nat.toDigits 10 n := by
  rw [intText, if_neg (by omega), Int.natAbs_natCast]

theorem decimalValue_pointText (whole : Int) (part : Nat) :
    decimalValue (pointText whole part) =
      some (if whole < 0 then -(whole.natAbs + part / 10 ^ (Nat.toDigits 10 part).length : ℚ)
        else (whole.natAbs + part / 10 ^ (Nat.toDigits 10 part).length : ℚ)) := by
  rw [pointText, intText_natCast, intText]
  by_cases h : whole < 0
  · rw [if_pos h, if_pos h, List.cons_append]
    show (fractionValue _).map _ = _
    rw [fractionValue_toDigits, Option.map_some]
  · rw [if_neg h, if_neg h]
    obtain ⟨c, t, hct, hc⟩ := (AutoRestart.digits_toDigits whole.natAbs).exists_cons
    have hsign : c ≠ '-' := AutoRestart.ne_of_isDigit hc (by decide)
    rw [← fractionValue_toDigits, hct, List.cons_append]
    unfold decimalValue
    split
    · rename_i heq
      exact absurd (List.cons.inj heq).1 hsign
    · rfl

/-- The power of ten that the digits of a remainder stand for. -/
theorem pow_length_toDigits (part : Nat) (h : part < 1000) :
    10 ^ (Nat.toDigits 10 part).length =
      if part < 10 then 10 else if part < 100 then 100 else 1000 := by
  have hone : ∀ {k : Nat}, k < 10 → (Nat.toDigits 10 k).length = 1 := fun hk => by
    rw [Nat.toDigits_of_lt_base hk, List.length_singleton]
  have hmore : ∀ {k : Nat}, 10 ≤ k →
      (Nat.toDigits 10 k).length = (Nat.toDigits 10 (k / 10)).length + 1 := fun hk => by
    rw [Nat.toDigits_of_base_le (by decide) hk, List.length_append, List.length_singleton]
  split
  · rename_i hlt
    rw [hone hlt]
    rfl
  · split
    · rw [hmore (by omega), hone (by omega)]
      rfl
    · rw [hmore (by omega), hmore (by omega), hone (by omega)]
      rfl

/-! ## Scaled texts -/

/-- The text of a raw number. -/
def scaledText (n : Int) : Text :=
  if n < 1000 then pointText (n.tdiv 10) (n.tmod 10).natAbs
  else pointText (n.tdiv 1000) (n.tmod 1000).natAbs

/-- A quotient and a remainder, together. -/
theorem div_add_mod_div (n D : Nat) (hD : 0 < D) :
    ((n / D : Nat) : ℚ) + (n % D : Nat) / D = (n : ℚ) / D := by
  have hcast : ((D * (n / D) + n % D : Nat) : ℚ) = n := by rw [Nat.div_add_mod]
  have hpos : (D : ℚ) ≠ 0 := by exact_mod_cast hD.ne'
  push_cast at hcast
  field_simp
  linarith

/-- A number below the change of the scale loses at most its sign. -/
theorem decimal_tenths {n : Int} (h : n < 1000) :
    decimalValue (scaledText n) = some (scaledValue n) ↔ n ≤ -10 ∨ 0 ≤ n := by
  have hlen : (10 : ℚ) ^ (Nat.toDigits 10 (n.natAbs % 10)).length = (10 : Nat) := by
    have hpow := pow_length_toDigits (n.natAbs % 10) (by omega)
    rw [if_pos (by omega)] at hpow
    exact_mod_cast hpow
  have hsign : n.tdiv 10 < 0 ↔ n ≤ -10 := by
    rcases Int.le_total 0 n with hn | hn
    · rw [Int.tdiv_eq_ediv_of_nonneg hn]
      omega
    · have hneg : n.tdiv 10 = -((-n) / 10) := by
        rw [← Int.tdiv_eq_ediv_of_nonneg (by omega), Int.neg_tdiv, neg_neg]
      omega
  have hwhole : (n.tdiv 10).natAbs = n.natAbs / 10 := Int.natAbs_tdiv n 10
  have hpart : (n.tmod 10).natAbs = n.natAbs % 10 := Int.natAbs_tmod n 10
  rw [scaledText, if_pos h, decimalValue_pointText, hwhole, hpart, hlen]
  simp only [hsign]
  rw [div_add_mod_div _ 10 (by decide), scaledValue, if_pos h, Option.some.injEq]
  rcases Int.le_total 0 n with hn | hn
  · have habs : (n.natAbs : ℚ) = n := by
      rw [← Int.cast_natCast, Int.natAbs_of_nonneg hn]
    rw [if_neg (by omega), habs]
    exact iff_of_true rfl (.inr hn)
  · have habs : (n.natAbs : ℚ) = -n := by
      rw [← Int.cast_natCast, Int.ofNat_natAbs_of_nonpos hn, Int.cast_neg]
    rw [habs]
    by_cases hlow : n ≤ -10
    · rw [if_pos hlow]
      refine iff_of_true ?_ (.inl hlow)
      push_cast
      ring
    · rw [if_neg hlow]
      constructor
      · intro heq
        -- the sign is lost, so the number is zero
        have hzero : (n : ℚ) = 0 := by
          push_cast at heq
          linarith
        exact .inr (le_of_eq (by exact_mod_cast hzero.symm))
      · rintro (hle | hge)
        · exact absurd hle hlow
        · have hzero : n = 0 := by omega
          simp [hzero]

/-- From there on it keeps its value when the fraction has three digits or is zero. -/
theorem decimal_thousandths {n : Int} (h : 1000 ≤ n) :
    decimalValue (scaledText n) = some (scaledValue n) ↔ n % 1000 = 0 ∨ 100 ≤ n % 1000 := by
  have hwhole : (n.tdiv 1000).natAbs = n.natAbs / 1000 := Int.natAbs_tdiv n 1000
  have hrem : (n.tmod 1000).natAbs = n.natAbs % 1000 := Int.natAbs_tmod n 1000
  have hsign : ¬ n.tdiv 1000 < 0 := by
    rw [Int.tdiv_eq_ediv_of_nonneg (by omega)]
    omega
  have habs : (n.natAbs : ℚ) = n := by
    rw [← Int.cast_natCast, Int.natAbs_of_nonneg (by omega)]
  have hsum := div_add_mod_div n.natAbs 1000 (by decide)
  have hlen := pow_length_toDigits (n.natAbs % 1000) (by omega)
  have hpart : n % 1000 = (n.natAbs % 1000 : Nat) := by omega
  rw [habs] at hsum
  rw [scaledText, if_neg (by omega), decimalValue_pointText, if_neg hsign, hwhole, hrem,
    scaledValue, if_neg (by omega), Option.some.injEq, hpart]
  push_cast at hsum
  generalize n.natAbs % 1000 = part at hlen hsum ⊢
  generalize hk : (Nat.toDigits 10 part).length = k at hlen ⊢
  have hpow : (10 : ℚ) ^ k = (10 ^ k : Nat) := by push_cast; rfl
  rw [hpow, hlen, ← hsum, add_right_inj]
  by_cases hzero : part = 0
  · simp [hzero]
  · have hne : (part : ℚ) ≠ 0 := by exact_mod_cast hzero
    have hsame : ∀ D : ℚ, D ≠ 0 → ((part : ℚ) / D = part / 1000 ↔ D = 1000) := by
      intro D hD
      rw [div_eq_div_iff hD (by norm_num), mul_right_inj' hne, eq_comm]
    split
    · rw [hsame _ (by norm_num)]
      refine iff_of_false (by norm_num) ?_
      omega
    · split
      · rw [hsame _ (by norm_num)]
        refine iff_of_false (by norm_num) ?_
        omega
      · rw [hsame _ (by norm_num)]
        refine iff_of_true (by norm_num) ?_
        omega

/-- **The text of a raw number denotes what it stands for** when it is spelled out. -/
theorem decimal_scaledText (n : Int) :
    decimalValue (scaledText n) = some (scaledValue n) ↔ Spelled n := by
  unfold Spelled
  by_cases h : n < 1000
  · rw [if_pos h]
    exact decimal_tenths h
  · rw [if_neg h]
    exact decimal_thousandths (Int.not_lt.mp h)

/-- A number that has no sign is printed as one that has. -/
theorem pseudoFloatText_eq (tmp16 : UInt16) :
    pseudoFloatText tmp16 = scaledText (tmp16.toNat : Int) := by
  have hrem : ∀ D : Int, (((tmp16.toNat : Int).tmod D).natAbs : Int) = (tmp16.toNat : Int).tmod D :=
    fun D => Int.natAbs_of_nonneg (Int.tmod_nonneg D (Int.natCast_nonneg _))
  unfold pseudoFloatText scaledText
  rw [hrem, hrem]

/-! ## The answer of the daemon -/

variable {m : I2cData}

/-- What is printed for a value that stands for a fraction. -/
theorem printed_scaled (hop : m.opcode = Opcode.I2C_OPCODE_RESPONSE.val) (hlen : m.lenData = 2)
    (htype : m.type = I2cType.TYPE_PSEUDO_FLOAT.val ∨ m.type = I2cType.TYPE_FLOAT_SFP.val) :
    printed m .SOCKET_READ_OK = some (m.errorLine ++ (scaledText m.raw ++ ['\n'])) := by
  have htext : valueText m = some (scaledText m.raw) := by
    unfold valueText
    rw [hlen, I2cData.raw]
    show (if m.type = I2cType.TYPE_PSEUDO_FLOAT.val then some (pseudoFloatText m.value16)
      else if m.type = I2cType.TYPE_FLOAT_SFP.val then some (floatSfpText m.value16.toInt16)
      else some (intText m.value16.toNat)) = _
    rcases htype with htype | htype
    · have hsfp : m.type ≠ I2cType.TYPE_FLOAT_SFP.val := by
        rw [htype]
        decide
      rw [if_pos htype, if_neg hsfp, pseudoFloatText_eq]
    · have hpseudo : m.type ≠ I2cType.TYPE_PSEUDO_FLOAT.val := by
        rw [htype]
        decide
      rw [if_neg hpseudo, if_pos htype, if_pos htype]
      rfl
  simp only [printed, hop, if_true, htext, Option.map_some, I2cData.errorLine]

/-- **When the decimal text is right.** -/
theorem decimalRight_iff (hop : m.opcode = Opcode.I2C_OPCODE_RESPONSE.val) (hlen : m.lenData = 2)
    (htype : m.type = I2cType.TYPE_PSEUDO_FLOAT.val ∨ m.type = I2cType.TYPE_FLOAT_SFP.val) :
    DecimalRight m ↔ Spelled m.raw := by
  rw [← decimal_scaledText, DecimalRight, printed_scaled hop hlen htype]
  constructor
  · rintro ⟨text, hprinted, hvalue⟩
    rw [Option.some.injEq, List.append_right_inj, List.append_left_inj] at hprinted
    rwa [hprinted]
  · intro hvalue
    exact ⟨_, rfl, hvalue⟩

/-- The answer for a value of two bytes. -/
def answerWith (type : I2cType) (low high : UInt8) : I2cData :=
  { zeroData with
    opcode := Opcode.I2C_OPCODE_RESPONSE.val, lenData := 2, type := type.val
    value := fun i => if (i : Nat) = 0 then low else if (i : Nat) = 1 then high else 0 }

/-- Two and a half degrees below zero. -/
theorem decimalRight_iff_frost : DecimalRight (answerWith .TYPE_FLOAT_SFP 0xE7 0xFF) ↔
    Spelled (-25) :=
  decimalRight_iff rfl rfl (.inr rfl)

/-- A value of 1005 is printed as `1.5`. -/
theorem zeros_left_out : ¬∀ m : I2cData, m.opcode = Opcode.I2C_OPCODE_RESPONSE.val →
    m.lenData = 2 → m.type = I2cType.TYPE_PSEUDO_FLOAT.val ∨ m.type = I2cType.TYPE_FLOAT_SFP.val →
      DecimalRight m := by
  intro h
  have hright := h (answerWith .TYPE_PSEUDO_FLOAT 0xED 0x03) rfl rfl (.inl rfl)
  obtain ⟨text, hprinted, hvalue⟩ := hright
  rw [printed_scaled rfl rfl (.inl rfl), Option.some.injEq, List.append_right_inj,
    List.append_left_inj] at hprinted
  have hraw : (answerWith .TYPE_PSEUDO_FLOAT 0xED 0x03).raw = 1005 := by decide
  rw [← hprinted, hraw, decimal_scaledText] at hvalue
  revert hvalue
  decide

end Denotation

end Hwsys
