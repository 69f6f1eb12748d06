import TfPack.AutoRestart.LuaChecks

set_option autoImplicit false

/-! # The readers of a time

A time passes three readers: `is_valid_time` before it is stored, `isValidTime` in the daemon, and
`get_hour_minutes` for the SNMP agent. Each is first described by the texts it takes
(`cli_isValidTime_iff`, `isValidTime_iff`, `colonParts_clock`). The first looks for a clock anywhere
in the text, the second wants one at its beginning, and the third takes the whole text apart; they
agree on the texts that are nothing but a clock (`timeAgrees_iff`).
-/

namespace AutoRestart

open Lua LuaPattern Tokens

/-! ## Numbers in a text -/

/-- A block of decimal digits. -/
def Digits (d : Text) : Prop := d ≠ [] ∧ ∀ c ∈ d, c.isDigit = true

theorem digits_of_all {d : Text} (hne : d ≠ []) (hall : d.all Char.isDigit = true) : Digits d :=
  ⟨hne, List.all_eq_true.mp hall⟩

/-- A text that does not begin with a digit. -/
def NoDigit (t : Text) : Prop := ∀ c ∈ t.head?, c.isDigit = false

/-- What may stand in front of the digits of a number: blanks and then a sign. -/
def Lead (l : Text) : Prop :=
  ∃ b g, l = b ++ g ∧ (∀ c ∈ b, isSpace c = true) ∧ (g = [] ∨ g = ['-'] ∨ g = ['+'])

/-- The value of a number with that in front. -/
def signed (l : Text) (n : Nat) : Int := if '-' ∈ l then -(n : Int) else n

theorem isSpace_of_isDigit {c : Char} (h : c.isDigit = true) : isSpace c = false := by
  simp only [Char.isDigit, Bool.and_eq_true, decide_eq_true_eq, ge_iff_le,
    UInt32.le_iff_toNat_le] at h
  change 48 ≤ c.val.toNat ∧ c.val.toNat ≤ 57 at h
  rw [Bool.eq_false_iff]
  intro hspace
  rw [isSpace, Bool.or_eq_true, beq_iff_eq, Bool.and_eq_true, decide_eq_true_eq,
    decide_eq_true_eq] at hspace
  rcases hspace with rfl | ⟨-, hle⟩
  · exact absurd h (by decide)
  · have hval : c.val.toNat ≤ 13 := hle
    omega

theorem ne_of_isDigit {c d : Char} (h : c.isDigit = true) (hd : d.isDigit = false) : c ≠ d := by
  rintro rfl
  rw [hd] at h
  cases h

theorem Digits.not_mem {d : Text} (h : Digits d) {c : Char} (hc : c.isDigit = false) : c ∉ d :=
  fun hmem => ne_of_isDigit (h.2 c hmem) hc rfl

/-- The first digit. -/
theorem Digits.exists_cons {d : Text} (h : Digits d) :
    ∃ c t, d = c :: t ∧ c.isDigit = true := by
  cases hd : d with
  | nil => exact absurd hd h.1
  | cons c t => exact ⟨c, t, rfl, h.2 c (by rw [hd]; exact List.mem_cons_self)⟩

/-- What stands in front of a number has no digit in it and no colon. -/
theorem Lead.not_isDigit {l : Text} (h : Lead l) {c : Char} (hc : c ∈ l) :
    c.isDigit = false ∧ c ≠ ':' := by
  obtain ⟨b, g, rfl, hb, hg⟩ := h
  rcases List.mem_append.mp hc with hc | hc
  · constructor
    · rw [Bool.eq_false_iff]
      intro hdigit
      have hspace := hb c hc
      rw [isSpace_of_isDigit hdigit] at hspace
      cases hspace
    · rintro rfl
      exact absurd (hb ':' hc) (by decide)
  · rcases hg with rfl | rfl | rfl
    · cases hc
    · rw [List.mem_singleton.mp hc]
      decide
    · rw [List.mem_singleton.mp hc]
      decide

/-- No sign stands before a digit. -/
theorem takeSign_of_isDigit {t : Text} (ht : ∃ c u, t = c :: u ∧ c.isDigit = true) :
    takeSign t = (false, t) := by
  obtain ⟨c, u, rfl, hc⟩ := ht
  have hminus : c ≠ '-' := ne_of_isDigit hc (by decide)
  have hplus : c ≠ '+' := ne_of_isDigit hc (by decide)
  unfold takeSign
  split
  case h_1 heq => exact absurd (List.cons.inj heq).1 hminus
  case h_2 heq => exact absurd (List.cons.inj heq).1 hplus
  case h_3 => rfl

/-- The sign of a number, and what is left. -/
theorem takeSign_lead {l t : Text} (hl : Lead l) (ht : ∃ c u, t = c :: u ∧ c.isDigit = true) :
    takeSign ((l ++ t).dropWhile isSpace) = (decide ('-' ∈ l), t) := by
  obtain ⟨b, g, rfl, hb, hg⟩ := hl
  have hminus : '-' ∉ b := fun hmem => absurd (hb '-' hmem) (by decide)
  have hdigit : ∀ c ∈ t.head?, isSpace c = false := by
    obtain ⟨c, u, rfl, hc⟩ := ht
    intro a ha
    cases ha
    exact isSpace_of_isDigit hc
  have hstop : ∀ c ∈ (g ++ t).head?, isSpace c = false := by
    rcases hg with rfl | rfl | rfl
    · exact hdigit
    · intro c hc
      cases hc
      decide
    · intro c hc
      cases hc
      decide
  rw [List.append_assoc, dropWhile_block hb hstop]
  rcases hg with rfl | rfl | rfl
  · rw [List.nil_append, List.append_nil, takeSign_of_isDigit ht, decide_eq_false hminus]
  · rw [decide_eq_true (List.mem_append_right b (List.mem_singleton_self '-'))]
    rfl
  · have hplus : '-' ∉ b ++ ['+'] := by simp [hminus]
    rw [decide_eq_false hplus]
    rfl

/-- What a reader takes off the front of a text. -/
theorem exists_lead (s : Text) :
    ∃ l, Lead l ∧ s = l ++ (takeSign (s.dropWhile isSpace)).2 ∧
      (takeSign (s.dropWhile isSpace)).1 = decide ('-' ∈ l) := by
  obtain ⟨b, t, rfl, hb, ht⟩ := exists_block isSpace s
  have hminus : '-' ∉ b := fun hmem => absurd (hb '-' hmem) (by decide)
  rw [dropWhile_block hb ht]
  unfold takeSign
  split
  case h_1 u =>
    exact ⟨b ++ ['-'], ⟨b, _, rfl, hb, .inr (.inl rfl)⟩, by simp, by simp⟩
  case h_2 u =>
    exact ⟨b ++ ['+'], ⟨b, _, rfl, hb, .inr (.inr rfl)⟩, by simp, by simp [hminus]⟩
  case h_3 =>
    exact ⟨b, ⟨b, [], (List.append_nil b).symm, hb, .inl rfl⟩, rfl, by simp [hminus]⟩

/-- `%d` and `strtol` by the sign and the digits they find. -/
theorem scanInt_eq (s : Text) :
    scanInt s = if (takeSign (s.dropWhile isSpace)).2.takeWhile Char.isDigit = [] then none
      else some
        (if (takeSign (s.dropWhile isSpace)).1 then
            -(digitsVal ((takeSign (s.dropWhile isSpace)).2.takeWhile Char.isDigit) : Int)
          else digitsVal ((takeSign (s.dropWhile isSpace)).2.takeWhile Char.isDigit),
        (takeSign (s.dropWhile isSpace)).2.dropWhile Char.isDigit) := by
  unfold scanInt
  dsimp only
  split
  case h_1 heq => exact (if_pos heq).symm
  case h_2 heq => exact (if_neg heq).symm

/-- A number is read where blanks, a sign and digits stand. -/
theorem scanInt_eq_some_iff {s rest : Text} {v : Int} :
    scanInt s = some (v, rest) ↔
      ∃ l d, s = l ++ (d ++ rest) ∧ Lead l ∧ Digits d ∧ NoDigit rest ∧
        v = signed l (digitsVal d) := by
  constructor
  · intro h
    obtain ⟨l, hl, hs, hneg⟩ := exists_lead s
    obtain ⟨d, t, hdt, hd, ht⟩ := exists_block Char.isDigit (takeSign (s.dropWhile isSpace)).2
    rw [scanInt_eq, hneg, hdt, takeWhile_block hd ht, dropWhile_block hd ht] at h
    split at h
    case isTrue => cases h
    case isFalse hne =>
      obtain ⟨hv, rfl⟩ := Prod.mk.inj (Option.some.inj h)
      refine ⟨l, d, by rw [hs, hdt], hl, ⟨hne, hd⟩, ht, ?_⟩
      rw [← hv, signed]
      simp only [decide_eq_true_eq]
  · rintro ⟨l, d, rfl, hl, hd, hrest, rfl⟩
    have hdigit : ∃ c u, d ++ rest = c :: u ∧ c.isDigit = true := by
      obtain ⟨c, u, rfl, hc⟩ := hd.exists_cons
      exact ⟨c, u ++ rest, rfl, hc⟩
    rw [scanInt_eq, takeSign_lead hl hdigit, takeWhile_block hd.2 hrest,
      dropWhile_block hd.2 hrest, if_neg hd.1, signed]
    simp only [decide_eq_true_eq]

theorem digitsVal_append_digit (ds : Text) (c : Char) :
    digitsVal (ds ++ [c]) = 10 * digitsVal ds + (c.toNat - '0'.toNat) := by
  simp [digitsVal]

theorem digitChar_value {d : Nat} (h : d < 10) : (Nat.digitChar d).toNat - '0'.toNat = d := by
  have hall : ∀ d : Fin 10, (Nat.digitChar d.val).toNat - '0'.toNat = d.val := by decide
  exact hall ⟨d, h⟩

/-- The decimal digits of a number denote it. -/
theorem digitsVal_toDigits (n : Nat) : digitsVal (Nat.toDigits 10 n) = n := by
  induction n using Nat.strongRecOn with
  | ind n ih =>
      by_cases h : n < 10
      · rw [Nat.toDigits_of_lt_base h, ← List.nil_append [_], digitsVal_append_digit,
          digitChar_value h]
        exact Nat.zero_add n
      · rw [Nat.toDigits_of_base_le (by decide) (Nat.not_lt.mp h), digitsVal_append_digit,
          ih _ (Nat.div_lt_self (by omega) (by decide)), digitChar_value (Nat.mod_lt n (by decide))]
        omega

theorem digits_toDigits (n : Nat) : Digits (Nat.toDigits 10 n) :=
  ⟨Nat.toDigits_ne_nil, fun _ hc => Nat.isDigit_of_mem_toDigits (by decide) (by decide) hc⟩

/-- **`strtol` reads a printed number** up to the largest `long`. -/
theorem strtol_toDigits (n : Nat) {rest : Text} (h : NoDigit rest) :
    strtol (Nat.toDigits 10 n ++ rest) = min (n : Int) LONG_MAX := by
  have hscan : scanInt (Nat.toDigits 10 n ++ rest) = some ((n : Int), rest) := by
    rw [scanInt_eq_some_iff]
    refine ⟨[], Nat.toDigits 10 n, rfl, ⟨[], [], rfl, by simp, .inl rfl⟩, digits_toDigits n, h, ?_⟩
    rw [digitsVal_toDigits]
    rfl
  unfold strtol
  rw [hscan]
  show max (-LONG_MAX - 1) (min LONG_MAX (n : Int)) = _
  rw [LONG_MAX]
  omega

/-- Digits as a numeral of Lua. -/
theorem numeral_digits {d : Text} (h : Digits d) : numeral d = some (digitsVal d : ℚ) := by
  have htake : d.takeWhile Char.isDigit = d := by
    have hblock := takeWhile_block (t := []) h.2 (by simp)
    rwa [List.append_nil] at hblock
  have hdrop : d.dropWhile Char.isDigit = [] := by
    have hblock := dropWhile_block (t := []) h.2 (by simp)
    rwa [List.append_nil] at hblock
  have hdecimal : decimalNumeral d = some (digitsVal d : ℚ) := by
    rw [decimalNumeral, htake, hdrop]
    simp [exponent, h.1]
  unfold numeral
  split
  case h_1 x ds =>
    have hx : ¬(x = 'x' ∨ x = 'X') := by
      have hdigit : x.isDigit = true := h.2 x (List.mem_cons_of_mem _ List.mem_cons_self)
      rintro (rfl | rfl)
      · exact absurd hdigit (by decide)
      · exact absurd hdigit (by decide)
    rw [if_neg hx, hdecimal]
  case h_2 => exact hdecimal

/-- Lua reads the same number from blanks, a sign and digits. -/
theorem tonumber_lead (R : Rounding) {l d : Text} (hl : Lead l) (hd : Digits d) :
    tonumber R (l ++ d) = some (R.round (signed l (digitsVal d))) := by
  have hlast : ((l ++ d).dropWhile isSpace).rdropWhile isSpace = (l ++ d).dropWhile isSpace := by
    rw [List.rdropWhile_eq_self_iff]
    intro hne
    rw [(List.dropWhile_suffix isSpace).getLast hne, List.getLast_append_of_ne_nil _ hd.1,
      isSpace_of_isDigit (hd.2 _ (List.getLast_mem hd.1))]
    exact Bool.false_ne_true
  have hread : tonumber R (l ++ d) = (numeral d).map (fun v =>
      R.round (if decide ('-' ∈ l) then -v else v)) := by
    rw [tonumber, hlast, takeSign_lead hl hd.exists_cons]
  rw [hread, numeral_digits hd, Option.map_some, signed]
  by_cases hminus : '-' ∈ l
  · simp [hminus]
  · simp [hminus]

theorem tonumber_digits (R : Rounding) {d : Text} (hd : Digits d) :
    tonumber R d = some (R.round (digitsVal d)) := by
  have hlead : Lead [] := ⟨[], [], rfl, by simp, .inl rfl⟩
  have hnum := tonumber_lead R hlead hd
  rw [List.nil_append] at hnum
  rw [hnum]
  simp [signed]

/-! ## The readers of a time -/

/-- The first `hh:mm` of a text: before it no digit, colon and digit follow each other, and the
minute takes all the digits there are. -/
def FirstClock (s x d d' y : Text) : Prop :=
  s = x ++ (d ++ ':' :: (d' ++ y)) ∧ Digits d ∧ Digits d' ∧ NoDigit y ∧
    ∀ x' e e' y', s = x' ++ (e ++ ':' :: (e' ++ y')) → Digits e → Digits e' →
      x.length ≤ x'.length

/-- A clock up to 24:59 is found somewhere in the text. -/
def HasClock (s : Text) : Prop :=
  ∃ x d d' y, FirstClock s x d d' y ∧ digitsVal d ≤ 24 ∧ digitsVal d' ≤ 59

/-- The text begins with a clock up to 23:59, as `%d:%d` reads it. -/
def BeginsWithClock (s : Text) : Prop :=
  ∃ l d l' d' y, s = l ++ (d ++ ':' :: (l' ++ (d' ++ y))) ∧ Lead l ∧ Digits d ∧ Lead l' ∧
    Digits d' ∧ NoDigit y ∧ (0 ≤ signed l (digitsVal d) ∧ signed l (digitsVal d) ≤ 23) ∧
    0 ≤ signed l' (digitsVal d') ∧ signed l' (digitsVal d') ≤ 59

theorem isDigit_ne_colon (c : Char) (h : c.isDigit = true) : (c == ':') = false :=
  beq_eq_false_iff_ne.mpr (ne_of_isDigit h (by decide))

theorem matchHere_time_iff {t : Text} {r : List Text} :
    matchHere TfUtilities.timePattern t = some r ↔
      ∃ d d' y, t = d ++ ':' :: (d' ++ y) ∧ Digits d ∧ Digits d' ∧ NoDigit y ∧ r = [d, d'] := by
  rw [TfUtilities.timePattern, matchHere_plus_one_iff isDigit_ne_colon]
  constructor
  · rintro ⟨d, c, t, r', rfl, hne, hd, hc, hr', rfl⟩
    obtain ⟨d', y, rfl, hne', hd', hy, rfl⟩ := matchHere_plus_end_iff.mp hr'
    rw [beq_iff_eq.mp hc]
    exact ⟨d, d', y, rfl, ⟨hne, hd⟩, ⟨hne', hd'⟩, hy, rfl⟩
  · rintro ⟨d, d', y, rfl, hd, hd', hy, rfl⟩
    exact ⟨d, ':', d' ++ y, [d'], rfl, hd.1, hd.2, beq_self_eq_true ':',
      matchHere_plus_end_iff.mpr ⟨d', y, rfl, hd'.1, hd'.2, hy, rfl⟩, rfl⟩

/-- A block of digits reaches on to where they end. -/
theorem Digits.exists_extend {d : Text} (h : Digits d) (y : Text) :
    ∃ z y', d ++ y = (d ++ z) ++ y' ∧ Digits (d ++ z) ∧ NoDigit y' := by
  obtain ⟨z, y', rfl, hz, hy'⟩ := exists_block Char.isDigit y
  refine ⟨z, y', (List.append_assoc d z y').symm, ⟨?_, ?_⟩, hy'⟩
  · exact List.append_ne_nil_of_left_ne_nil h.1 z
  · intro c hc
    rcases List.mem_append.mp hc with hc | hc
    · exact h.2 c hc
    · exact hz c hc

theorem find_time_iff {s : Text} {r : List Text} :
    LuaPattern.find TfUtilities.timePattern s = some r ↔
      ∃ x d d' y, FirstClock s x d d' y ∧ r = [d, d'] := by
  rw [find_eq_some_iff]
  constructor
  · rintro ⟨x, t, rfl, hr, hfirst⟩
    obtain ⟨d, d', y, rfl, hd, hd', hy, rfl⟩ := matchHere_time_iff.mp hr
    refine ⟨x, d, d', y, ⟨rfl, hd, hd', hy, ?_⟩, rfl⟩
    intro x' e e' y' heq he he'
    by_contra hlt
    have hnone := hfirst x' _ heq (by omega)
    obtain ⟨z, y'', hz, hez, hy''⟩ := he'.exists_extend y'
    rw [hz, matchHere_time_iff.mpr ⟨e, e' ++ z, y'', rfl, he, hez, hy'', rfl⟩] at hnone
    cases hnone
  · rintro ⟨x, d, d', y, ⟨rfl, hd, hd', hy, hfirst⟩, rfl⟩
    refine ⟨x, _, rfl, matchHere_time_iff.mpr ⟨d, d', y, rfl, hd, hd', hy, rfl⟩, ?_⟩
    intro x' t' heq hlt
    rw [Option.eq_none_iff_forall_ne_some]
    intro r hr
    obtain ⟨e, e', y', rfl, he, he', -⟩ := matchHere_time_iff.mp hr
    have hle := hfirst x' e e' y' heq he he'
    omega

/-- A rounded whole number is on the same side of a small one. -/
theorem round_le_iff (R : Rounding) (n : Nat) {k : Nat} (hk : k < 2 ^ 53) :
    R.round n ≤ k ↔ n ≤ k := by
  constructor
  · intro hle
    by_contra hlt
    have hnext : ((k + 1 : Nat) : ℚ) ≤ R.round n := by
      rw [← R.exact (k + 1) hk]
      exact R.mono (by exact_mod_cast Nat.lt_of_not_le hlt)
    have hcast : ((k + 1 : Nat) : ℚ) ≤ (k : ℚ) := le_trans hnext hle
    have hnat : k + 1 ≤ k := by exact_mod_cast hcast
    omega
  · intro hle
    rw [← R.exact k hk.le]
    exact R.mono (by exact_mod_cast hle)

theorem round_nonneg (R : Rounding) (n : Nat) : 0 ≤ R.round n := by
  have hzero := R.exact 0 (Nat.zero_le _)
  rw [Nat.cast_zero] at hzero
  rw [← hzero]
  exact R.mono (Nat.cast_nonneg n)

theorem hourMinute_iff (R : Rounding) {s : Text} {p : ℚ × ℚ} :
    TfUtilities.hourMinute R s = some p ↔
      ∃ x d d' y, FirstClock s x d d' y ∧
        p = (R.round (digitsVal d), R.round (digitsVal d')) := by
  have hread : ∀ x d d' y, FirstClock s x d d' y → TfUtilities.hourMinute R s =
      some (R.round (digitsVal d), R.round (digitsVal d')) := by
    intro x d d' y h
    rw [TfUtilities.hourMinute, find_time_iff.mpr ⟨x, d, d', y, h, rfl⟩]
    show (tonumber R d).bind (fun hh => (tonumber R d').map (fun mm => (hh, mm))) = _
    rw [tonumber_digits R h.2.1, tonumber_digits R h.2.2.1]
    rfl
  constructor
  · intro h
    cases hfind : LuaPattern.find TfUtilities.timePattern s with
    | none =>
        rw [TfUtilities.hourMinute, hfind] at h
        cases h
    | some r =>
        obtain ⟨x, d, d', y, hclock, -⟩ := find_time_iff.mp hfind
        rw [hread x d d' y hclock] at h
        exact ⟨x, d, d', y, hclock, (Option.some.inj h).symm⟩
  · rintro ⟨x, d, d', y, hclock, rfl⟩
    exact hread x d d' y hclock

/-- **The command line takes a text in which a clock is found.** -/
theorem cli_isValidTime_iff (R : Rounding) (s : Text) :
    TfUtilities.isValidTime R s = true ↔ HasClock s := by
  have hrange : ∀ n m : Nat, (!(decide (R.round m < 0 ∨ 59 < R.round m ∨ R.round n < 0 ∨
      24 < R.round n))) = true ↔ n ≤ 24 ∧ m ≤ 59 := by
    intro n m
    have hn := round_le_iff R n (k := 24) (by decide)
    have hm := round_le_iff R m (k := 59) (by decide)
    rw [Nat.cast_ofNat] at hn hm
    simp [not_lt.mpr (round_nonneg R n), not_lt.mpr (round_nonneg R m), hn, hm, and_comm]
  constructor
  · intro h
    cases hread : TfUtilities.hourMinute R s with
    | none =>
        rw [TfUtilities.isValidTime, hread] at h
        cases h
    | some p =>
        obtain ⟨x, d, d', y, hclock, rfl⟩ := (hourMinute_iff R).mp hread
        rw [TfUtilities.isValidTime, hread] at h
        exact ⟨x, d, d', y, hclock, (hrange _ _).mp h⟩
  · rintro ⟨x, d, d', y, hclock, hd, hd'⟩
    rw [TfUtilities.isValidTime, (hourMinute_iff R).mpr ⟨x, d, d', y, hclock, rfl⟩]
    exact (hrange _ _).mpr ⟨hd, hd'⟩

/-- **The daemon takes a text that begins with a clock.** -/
theorem isValidTime_iff {s : Text} {h m : Int} :
    isValidTime s = some (h, m) ↔
      ∃ l d l' d' y, s = l ++ (d ++ ':' :: (l' ++ (d' ++ y))) ∧ Lead l ∧ Digits d ∧ Lead l' ∧
        Digits d' ∧ NoDigit y ∧ h = signed l (digitsVal d) ∧ m = signed l' (digitsVal d') ∧
        (0 ≤ h ∧ h ≤ 23) ∧ 0 ≤ m ∧ m ≤ 59 := by
  constructor
  · intro hread
    unfold isValidTime at hread
    split at hread
    case h_1 hour rest hhour =>
      split at hread
      case h_1 minute y hminute =>
        split at hread
        case isTrue => cases hread
        case isFalse hrange =>
          cases hread
          obtain ⟨l, d, rfl, hl, hd, -, hh⟩ := scanInt_eq_some_iff.mp hhour
          obtain ⟨l', d', rfl, hl', hd', hy, hm⟩ := scanInt_eq_some_iff.mp hminute
          exact ⟨l, d, l', d', y, rfl, hl, hd, hl', hd', hy, hh, hm, by omega, by omega,
            by omega⟩
      case h_2 => cases hread
    case h_2 => cases hread
  · rintro ⟨l, d, l', d', y, rfl, hl, hd, hl', hd', hy, rfl, rfl, hh, hm⟩
    have hcolon : NoDigit (':' :: (l' ++ (d' ++ y))) := by
      intro c hc
      cases hc
      decide
    have hhour := scanInt_eq_some_iff.mpr ⟨l, d, rfl, hl, hd, hcolon, rfl⟩
    have hminute := scanInt_eq_some_iff.mpr ⟨l', d', rfl, hl', hd', hy, rfl⟩
    unfold isValidTime
    simp only [hhour, hminute]
    rw [if_neg (by omega)]

/-! ## What a time is split into -/

/-- Nothing but a clock up to 23:59. In front of the hour blanks and a sign may stand; what follows
the minute up to the next colon does not change its number, and then only colons follow. -/
def OnlyClock (R : Rounding) (s : Text) : Prop :=
  ∃ l d d' t k, s = l ++ (d ++ ':' :: (d' ++ (t ++ List.replicate k ':'))) ∧ Lead l ∧ Digits d ∧
    Digits d' ∧ NoDigit t ∧ ':' ∉ t ∧ 0 ≤ signed l (digitsVal d) ∧ digitsVal d ≤ 23 ∧
    digitsVal d' ≤ 59 ∧ tonumber R (d' ++ t) = some (digitsVal d' : ℚ)

theorem signed_eq {l : Text} {n : Nat} (h : 0 ≤ signed l n) : signed l n = n := by
  rw [signed] at h ⊢
  split at h
  case isTrue hminus =>
    rw [if_pos hminus]
    omega
  case isFalse hplus => rw [if_neg hplus]

theorem Lead.not_mem_colon {l : Text} (h : Lead l) : ':' ∉ l :=
  fun hmem => (h.not_isDigit hmem).2 rfl

theorem Digits.not_mem_colon {d : Text} (h : Digits d) : ':' ∉ d := h.not_mem (by decide)

theorem colonParts_eq (s : Text) : TfModule.colonParts s = tokens (· == ':') s := rfl

theorem colonParts_colon (s : Text) :
    TfModule.colonParts (':' :: s) = TfModule.colonParts s :=
  @tokens_sep Char (· == ':') ':' (beq_self_eq_true ':') s

theorem beq_colon_of_not_mem {p : Text} (hp : ':' ∉ p) : ∀ c ∈ p, (c == ':') = false := by
  intro c hc
  rw [beq_eq_false_iff_ne]
  rintro rfl
  exact hp hc

/-- A part ends at the next colon. -/
theorem colonParts_block {p t : Text} (hp : ':' ∉ p) (hne : p ≠ [])
    (ht : ∀ c ∈ t.head?, (c == ':') = true) :
    TfModule.colonParts (p ++ t) = p :: TfModule.colonParts t :=
  tokens_block (beq_colon_of_not_mem hp) hne ht

/-- A text up to its first colon. -/
theorem exists_colonPart (s : Text) :
    ∃ p t, s = p ++ t ∧ ':' ∉ p ∧ ∀ c ∈ t.head?, (c == ':') = true := by
  obtain ⟨p, t, hs, hp, ht⟩ := exists_part (· == ':') s
  refine ⟨p, t, hs, ?_, ht⟩
  intro hmem
  exact absurd (hp ':' hmem) (by decide)

/-- A text without a part is all colons. -/
theorem colonParts_eq_nil_iff {s : Text} :
    TfModule.colonParts s = [] ↔ ∃ k, s = List.replicate k ':' := by
  rw [colonParts_eq, tokens_eq_nil_iff]
  constructor
  · intro h
    exact ⟨s.length, List.eq_replicate_iff.mpr ⟨rfl, fun c hc => beq_iff_eq.mp (h c hc)⟩⟩
  · rintro ⟨k, rfl⟩ c hc
    exact beq_iff_eq.mpr (List.eq_of_mem_replicate hc)

/-- After the parts of a text only colons follow. -/
theorem eq_colon_of_append {u v w : Text} {k : Nat} (hu : ':' ∉ u)
    (h : u ++ List.replicate k ':' = v ++ ':' :: w) : ∀ c ∈ w, c = ':' := by
  have hcolons : ∀ z, List.replicate k ':' = z ++ ':' :: w → ∀ c ∈ w, c = ':' := by
    intro z hz c hc
    apply List.eq_of_mem_replicate (n := k)
    rw [hz]
    exact List.mem_append_right z (List.mem_cons_of_mem _ hc)
  rcases List.append_eq_append_iff.mp h with ⟨z, -, hz⟩ | ⟨z, hz, hw⟩
  · exact hcolons z hz
  · cases z with
    | nil => exact hcolons [] hw.symm
    | cons c z =>
        rw [List.cons_append, List.cons.injEq] at hw
        rw [hz, ← hw.1] at hu
        exact absurd (List.mem_append_right v List.mem_cons_self) hu

/-- Where only one part follows the first colon, a clock is found at that colon or not at all. -/
theorem lead_eq_nil {a l u e' y : Text} {x : Text} {k : Nat} (ha : ':' ∉ a) (hu : ':' ∉ l ++ u)
    (hl : Lead l) (he' : Digits e')
    (h : a ++ ':' :: (l ++ (u ++ List.replicate k ':')) = x ++ ':' :: (e' ++ y)) : l = [] := by
  obtain ⟨c, v, rfl, hc⟩ := he'.exists_cons
  have hhere : l ++ (u ++ List.replicate k ':') = c :: v ++ y → l = [] := by
    intro heq
    cases l with
    | nil => rfl
    | cons b l =>
        have hb : b = c := (List.cons.inj heq).1
        have hnot := (hl.not_isDigit (c := b) List.mem_cons_self).1
        rw [hb, hc] at hnot
        cases hnot
  rcases List.append_eq_append_iff.mp h with ⟨z, -, hz⟩ | ⟨z, hz, hx⟩
  · cases z with
    | nil => exact hhere (List.cons.inj hz).2
    | cons b z =>
        -- the clock would stand behind the second part, where there is no digit
        have hrest := (List.cons.inj hz).2
        rw [← List.append_assoc] at hrest
        have hcolon := eq_colon_of_append hu hrest c (by simp)
        rw [hcolon] at hc
        exact absurd hc (by decide)
  · cases z with
    | nil => exact hhere (List.cons.inj hx).2.symm
    | cons b z =>
        have hb : b = ':' := (List.cons.inj hx).1.symm
        rw [hz, hb] at ha
        exact absurd (List.mem_append_right x List.mem_cons_self) ha

/-! ## The readers of a time agree on a clock -/

/-- The command line takes the text for this hour and this minute. -/
def CliReads (R : Rounding) (s : Text) (h m : Int) : Prop :=
  TfUtilities.isValidTime R s = true ∧ TfUtilities.hourMinute R s = some ((h : ℚ), (m : ℚ))

/-- `get_hour_minutes` splits the text into this hour and this minute: it has two parts, both are
kept, and these are their numbers. -/
def SplitsInto (R : Rounding) (s : Text) (h m : Int) : Prop :=
  ∃ p q, TfModule.colonParts s = [p, q] ∧ TfModule.getHourMinutes R s = some [p, q] ∧
    tonumber R p = some (h : ℚ) ∧ tonumber R q = some (m : ℚ)

/-- The command line and the daemon take the text for the same times, and it is split into them. -/
def TimeAgrees (R : Rounding) (s : Text) : Prop :=
  ∀ h m : Int, (CliReads R s h m ↔ isValidTime s = some (h, m)) ∧
    (isValidTime s = some (h, m) → SplitsInto R s h m)

theorem signed_nil (n : Nat) : signed [] n = n := if_neg List.not_mem_nil

theorem round_int (R : Rounding) {n : Nat} (h : n ≤ 59) : R.round n = ((n : Int) : ℚ) := by
  rw [R.exact n (le_trans h (by decide))]
  exact (Int.cast_natCast n).symm

/-- The first clock of a text determines what the command line reads. -/
theorem cliReads_iff (R : Rounding) {s : Text} {h m : Int} :
    CliReads R s h m ↔ ∃ x d d' y, FirstClock s x d d' y ∧ (h = digitsVal d ∧ h ≤ 24) ∧
      m = digitsVal d' ∧ m ≤ 59 := by
  constructor
  · rintro ⟨hvalid, hread⟩
    obtain ⟨x, d, d', y, hclock, hd, hd'⟩ := (cli_isValidTime_iff R s).mp hvalid
    rw [(hourMinute_iff R).mpr ⟨x, d, d', y, hclock, rfl⟩, round_int R (by omega),
      round_int R hd', Option.some.injEq, Prod.mk.injEq, Int.cast_inj, Int.cast_inj] at hread
    exact ⟨x, d, d', y, hclock, by omega, by omega, by omega⟩
  · rintro ⟨x, d, d', y, hclock, ⟨rfl, hd⟩, rfl, hd'⟩
    refine ⟨(cli_isValidTime_iff R s).mpr ⟨x, d, d', y, hclock, by omega, by omega⟩, ?_⟩
    rw [(hourMinute_iff R).mpr ⟨x, d, d', y, hclock, rfl⟩, round_int R (by omega),
      round_int R (by omega)]

/-- A number of the range is kept as its text. -/
theorem inRange_kept {R : Rounding} {p : Text} {n k : Nat} {limit : ℚ}
    (hp : tonumber R p = some (n : ℚ)) (hn : n ≤ k) (hk : (k : ℚ) = limit) :
    TfModule.inRange R limit p = some [p] := by
  have hin : ¬((n : ℚ) < 0 ∨ limit < n) := by
    rw [← hk, not_or, not_lt, not_lt]
    exact ⟨Nat.cast_nonneg n, Nat.cast_le.mpr hn⟩
  rw [TfModule.inRange, hp, Option.map_some, if_neg hin]

/-- The parts of a text with a clock. -/
theorem colonParts_clock {l d l' d' t r : Text} (hl : Lead l) (hd : Digits d) (hl' : Lead l')
    (hd' : Digits d') (ht : ':' ∉ t) (hr : ∀ c ∈ r.head?, (c == ':') = true) :
    TfModule.colonParts (l ++ (d ++ ':' :: (l' ++ (d' ++ (t ++ r))))) =
      (l ++ d) :: (l' ++ (d' ++ t)) :: TfModule.colonParts r := by
  have hhour : ':' ∉ l ++ d := by simp [hl.not_mem_colon, hd.not_mem_colon]
  have hminute : ':' ∉ l' ++ (d' ++ t) := by simp [hl'.not_mem_colon, hd'.not_mem_colon, ht]
  rw [← List.append_assoc l, colonParts_block hhour (by simp [hd.1]) (by simp), colonParts_colon,
    ← List.append_assoc d', ← List.append_assoc l',
    colonParts_block hminute (by simp [hd'.1]) hr]

/-- A text that is nothing but a clock is read alike by all three. -/
theorem OnlyClock.reads {R : Rounding} {s : Text} (hs : OnlyClock R s) :
    ∃ h m, CliReads R s h m ∧ isValidTime s = some (h, m) ∧ SplitsInto R s h m := by
  obtain ⟨l, d, d', t, k, rfl, hl, hd, hd', ht, hcolon, hpos, hhour, hminute, hnum⟩ := hs
  have hlead : Lead [] := ⟨[], [], rfl, by simp, .inl rfl⟩
  have hrest : NoDigit (t ++ List.replicate k ':') := by
    intro c hc
    cases t with
    | nil =>
        rw [List.eq_of_mem_replicate (List.mem_of_mem_head? hc)]
        decide
    | cons b t => exact ht c hc
  have hstop : ∀ c ∈ (List.replicate k ':').head?, (c == ':') = true := by
    intro c hc
    rw [List.eq_of_mem_replicate (List.mem_of_mem_head? hc)]
    decide
  refine ⟨digitsVal d, digitsVal d', (cliReads_iff R).mpr ?_, isValidTime_iff.mpr ?_, ?_⟩
  · refine ⟨l, d, d', _, ⟨rfl, hd, hd', hrest, ?_⟩, ⟨rfl, by omega⟩, rfl, by omega⟩
    intro x e e' y heq he he'
    -- the blanks and the sign in front have no digit a clock could begin with
    rcases List.append_eq_append_iff.mp heq with ⟨z, hx, -⟩ | ⟨z, hx, hz⟩
    · rw [hx, List.length_append]
      omega
    · cases z with
      | nil => rw [hx, List.append_nil]
      | cons b z =>
          obtain ⟨c, v, rfl, hc⟩ := he.exists_cons
          have hb : c = b := (List.cons.inj hz).1
          have hnot := hl.not_isDigit (c := c) (by rw [hx, hb]; simp)
          rw [hc] at hnot
          cases hnot.1
  · refine ⟨l, d, [], d', _, rfl, hl, hd, hlead, hd', hrest, (signed_eq hpos).symm, ?_, by omega,
      by omega⟩
    exact (signed_nil _).symm
  · have hparts := colonParts_clock hl hd hlead hd' hcolon hstop
    rw [colonParts_eq_nil_iff.mpr ⟨k, rfl⟩, List.nil_append, List.nil_append] at hparts
    have hfirst : tonumber R (l ++ d) = some (digitsVal d : ℚ) := by
      rw [tonumber_lead R hl hd, signed_eq hpos, Int.cast_natCast, round_int R (by omega),
        Int.cast_natCast]
    have hkept : TfModule.getHourMinutes R
        (l ++ (d ++ ':' :: (d' ++ (t ++ List.replicate k ':')))) = some [l ++ d, d' ++ t] := by
      rw [TfModule.getHourMinutes, hparts, TfModule.hourMinutesFrom, if_pos rfl,
        inRange_kept (k := 24) hfirst (by omega) Nat.cast_ofNat, TfModule.hourMinutesFrom,
        if_neg (by decide), if_pos rfl, inRange_kept (k := 60) hnum (by omega) Nat.cast_ofNat]
      rfl
    exact ⟨l ++ d, d' ++ t, hparts, hkept, by rw [hfirst, Int.cast_natCast],
      by rw [hnum, Int.cast_natCast]⟩

theorem onlyClock_of_reads {R : Rounding} {s : Text} {h m : Int} (hcli : CliReads R s h m)
    (hdaemon : isValidTime s = some (h, m)) (hsplit : SplitsInto R s h m) : OnlyClock R s := by
  obtain ⟨l, d, l', d', y, rfl, hl, hd, hl', hd', hy, rfl, rfl, hh, hm⟩ :=
    isValidTime_iff.mp hdaemon
  obtain ⟨x, e, e', y', ⟨hclock, -, he', -, -⟩, -⟩ := (cliReads_iff R).mp hcli
  obtain ⟨t, r, rfl, ht, hr⟩ := exists_colonPart y
  obtain ⟨p, q, hparts, -, -, hq⟩ := hsplit
  rw [colonParts_clock hl hd hl' hd' ht hr, List.cons.injEq, List.cons.injEq] at hparts
  obtain ⟨-, rfl, hnil⟩ := hparts
  obtain ⟨k, rfl⟩ := colonParts_eq_nil_iff.mp hnil
  have hfront : l' = [] := by
    apply lead_eq_nil (a := l ++ d) (l := l') (u := d' ++ t) (k := k) (x := x ++ e)
    · simp [hl.not_mem_colon, hd.not_mem_colon]
    · simp [hl'.not_mem_colon, hd'.not_mem_colon, ht]
    · exact hl'
    · exact he'
    · simpa using hclock
  subst hfront
  rw [signed_nil] at hm hq
  have hend : NoDigit t := by
    intro c hc
    cases t with
    | nil => cases hc
    | cons b t => exact hy c hc
  have hvalue := signed_eq hh.1
  refine ⟨l, d, d', t, k, rfl, hl, hd, hd', hend, ht, hh.1, by omega, by omega, ?_⟩
  rw [← Int.cast_natCast (R := ℚ), ← hq]
  rfl

/-- **The readers of a time agree on a text exactly when it is nothing but a clock, or no clock is
found in it at all.** -/
theorem timeAgrees_iff (R : Rounding) (s : Text) :
    TimeAgrees R s ↔ (HasClock s ∨ BeginsWithClock s → OnlyClock R s) := by
  constructor
  · intro hagree hfound
    have hread : ∃ h m, isValidTime s = some (h, m) := by
      rcases hfound with ⟨x, d, d', y, hclock, hd, hd'⟩ |
        ⟨l, d, l', d', y, hs, hl, hd, hl', hd', hy, hh, hm⟩
      · exact ⟨digitsVal d, digitsVal d', (hagree _ _).1.mp ((cliReads_iff R).mpr
          ⟨x, d, d', y, hclock, ⟨rfl, by omega⟩, rfl, by omega⟩)⟩
      · exact ⟨_, _, isValidTime_iff.mpr
          ⟨l, d, l', d', y, hs, hl, hd, hl', hd', hy, rfl, rfl, hh, hm⟩⟩
    obtain ⟨h, m, hdaemon⟩ := hread
    exact onlyClock_of_reads ((hagree h m).1.mpr hdaemon) hdaemon ((hagree h m).2 hdaemon)
  · intro hfits h m
    have huse : CliReads R s h m ∨ isValidTime s = some (h, m) →
        CliReads R s h m ∧ isValidTime s = some (h, m) ∧ SplitsInto R s h m := by
      intro hread
      have honly : OnlyClock R s := by
        apply hfits
        rcases hread with hcli | hdaemon
        · exact .inl ((cli_isValidTime_iff R s).mp hcli.1)
        · obtain ⟨l, d, l', d', y, hs, hl, hd, hl', hd', hy, rfl, rfl, hh, hm⟩ :=
            isValidTime_iff.mp hdaemon
          exact .inr ⟨l, d, l', d', y, hs, hl, hd, hl', hd', hy, hh, hm⟩
      obtain ⟨h', m', hcli', hdaemon', hsplit'⟩ := honly.reads
      have hsame : h' = h ∧ m' = m := by
        rcases hread with hcli | hdaemon
        · have hpair := hcli'.2.symm.trans hcli.2
          rw [Option.some.injEq, Prod.mk.injEq, Int.cast_inj, Int.cast_inj] at hpair
          exact hpair
        · have hpair := hdaemon'.symm.trans hdaemon
          rw [Option.some.injEq, Prod.mk.injEq] at hpair
          exact hpair
      rw [← hsame.1, ← hsame.2]
      exact ⟨hcli', hdaemon', hsplit'⟩
    refine ⟨⟨fun hcli => (huse (.inl hcli)).2.1, fun hdaemon => (huse (.inr hdaemon)).1⟩, ?_⟩
    exact fun hdaemon => (huse (.inr hdaemon)).2.2

end AutoRestart
