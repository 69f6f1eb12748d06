import TfPack.AutoRestart.ClockTexts

set_option autoImplicit false

/-! # The checks of the autorestart pipeline against each other

The host of a link test passes `is_valid_ip` before it is stored and `checkValidIp` in the daemon.
The first looks for four numbers anywhere in the text and has no use for zeros in front; the
second wants nothing else in the text, but takes any three digits for a number. They agree on the
addresses written out properly, and on the texts neither takes (`checks_agree_iff`).
-/

namespace AutoRestart

open Lua LuaPattern Tokens

/-! ## Addresses in a text -/

/-- A number of `0..255` without a zero in front. -/
def Octet (d : Text) : Prop :=
  Digits d ∧ digitsVal d ≤ 255 ∧ ¬(1 < d.length ∧ d.head? = some '0')

/-- Four texts with dots between them. -/
def dotted (a b c d : Text) : Text := a ++ '.' :: (b ++ '.' :: (c ++ '.' :: d))

/-- A dotted quad of numbers `0..255`. -/
def IsQuad (s : Text) : Prop :=
  ∃ a b c d, s = dotted a b c d ∧ Octet a ∧ Octet b ∧ Octet c ∧ Octet d

/-- The first four numbers of a text with dots between them; the last takes all the digits there
are. -/
def FirstQuad (s x a b c d y : Text) : Prop :=
  s = x ++ dotted a b c (d ++ y) ∧ Digits a ∧ Digits b ∧ Digits c ∧ Digits d ∧ NoDigit y ∧
    ∀ x' a' b' c' d' y', s = x' ++ dotted a' b' c' (d' ++ y') → Digits a' → Digits b' →
      Digits c' → Digits d' → x.length ≤ x'.length

/-- The first four numbers found in the text are those of a dotted quad. -/
def HasQuad (s : Text) : Prop :=
  ∃ x a b c d y, FirstQuad s x a b c d y ∧ Octet a ∧ Octet b ∧ Octet c ∧ Octet d

/-- One, two or three digits. -/
def ShortDigits (d : Text) : Prop := Digits d ∧ d.length ≤ 3

/-- Four numbers of up to three digits with dots between them, and nothing else. -/
def ShortQuad (s : Text) : Prop :=
  ∃ a b c d, s = dotted a b c d ∧ ShortDigits a ∧ ShortDigits b ∧ ShortDigits c ∧ ShortDigits d

theorem pow_le_digitsVal {c : Char} {t : Text} (h : Digits (c :: t)) (hc : c ≠ '0') :
    10 ^ t.length ≤ digitsVal (c :: t) := by
  -- on the digits that follow, each of which moves the number one place up
  have hgrow : ∀ (t : Text) (n : Nat),
      n * 10 ^ t.length ≤ t.foldl (fun n d => 10 * n + (d.toNat - '0'.toNat)) n := by
    intro t
    induction t with
    | nil =>
        intro n
        rw [List.length_nil, pow_zero, Nat.mul_one, List.foldl_nil]
    | cons d t ih =>
        intro n
        calc n * 10 ^ (d :: t).length = 10 * n * 10 ^ t.length := by
              rw [List.length_cons, pow_succ]
              ac_rfl
          _ ≤ (10 * n + (d.toNat - '0'.toNat)) * 10 ^ t.length :=
              Nat.mul_le_mul_right _ (Nat.le_add_right _ _)
          _ ≤ (d :: t).foldl (fun n d => 10 * n + (d.toNat - '0'.toNat)) n := ih _
  have hdigit := h.2 c List.mem_cons_self
  have hfirst : 1 ≤ 10 * 0 + (c.toNat - '0'.toNat) := by
    simp only [Char.isDigit, Bool.and_eq_true, decide_eq_true_eq, ge_iff_le,
      UInt32.le_iff_toNat_le] at hdigit
    change 48 ≤ c.toNat ∧ c.toNat ≤ 57 at hdigit
    have hne : c.toNat ≠ 48 := fun heq => hc (Char.toNat_inj.mp heq)
    change 1 ≤ 10 * 0 + (c.toNat - 48)
    omega
  calc 10 ^ t.length = 1 * 10 ^ t.length := (Nat.one_mul _).symm
    _ ≤ (10 * 0 + (c.toNat - '0'.toNat)) * 10 ^ t.length := Nat.mul_le_mul_right _ hfirst
    _ ≤ digitsVal (c :: t) := hgrow t _

/-- A number of `0..255` has at most three digits. -/
theorem Octet.short {d : Text} (h : Octet d) : ShortDigits d := by
  obtain ⟨hd, hle, hzero⟩ := h
  refine ⟨hd, ?_⟩
  obtain ⟨c, t, rfl, -⟩ := hd.exists_cons
  by_contra hlong
  rw [List.length_cons] at hlong
  have hc : c ≠ '0' := by
    rintro rfl
    exact hzero ⟨by rw [List.length_cons]; omega, rfl⟩
  have hpow : 10 ^ 3 ≤ 10 ^ t.length := Nat.pow_le_pow_right (by omega) (by omega)
  have hval := pow_le_digitsVal hd hc
  omega

theorem IsQuad.shortQuad {s : Text} (h : IsQuad s) : ShortQuad s := by
  obtain ⟨a, b, c, d, rfl, ha, hb, hc, hd⟩ := h
  exact ⟨a, b, c, d, rfl, ha.short, hb.short, hc.short, hd.short⟩

theorem IsQuad.hasQuad {s : Text} (h : IsQuad s) : HasQuad s := by
  obtain ⟨a, b, c, d, rfl, ha, hb, hc, hd⟩ := h
  refine ⟨[], a, b, c, d, [], ⟨?_, ha.1, hb.1, hc.1, hd.1, by simp [NoDigit], ?_⟩, ha, hb, hc, hd⟩
  · rw [List.append_nil, List.nil_append]
  · intro x' a' b' c' d' y' _ _ _ _ _
    exact Nat.zero_le _

/-! ## The readers of a host -/

/-- **The daemon takes four numbers of up to three digits.** -/
theorem checkValidIp_iff {s : Text} : checkValidIp s = true ↔ ShortQuad s := by
  have hpart : ∀ d : Text, (decide (1 ≤ d.length) && decide (d.length ≤ 3) && d.all Char.isDigit)
      = true ↔ ShortDigits d := by
    intro d
    rw [Bool.and_eq_true, Bool.and_eq_true, decide_eq_true_eq, decide_eq_true_eq,
      List.all_eq_true, ShortDigits, Digits, ← List.length_pos_iff]
    constructor
    · rintro ⟨⟨hpos, hle⟩, hd⟩
      exact ⟨⟨hpos, hd⟩, hle⟩
    · rintro ⟨⟨hpos, hd⟩, hle⟩
      exact ⟨⟨hpos, hle⟩, hd⟩
  constructor
  · intro h
    rw [checkValidIp, Bool.and_eq_true, beq_iff_eq, List.all_eq_true] at h
    obtain ⟨hlen, hall⟩ := h
    obtain ⟨a, b, c, d, hparts⟩ := List.length_eq_four.mp hlen
    have hs : ['.'].intercalate (s.splitOn '.') = s := List.intercalate_splitOn '.'
    rw [hparts] at hs hall
    refine ⟨a, b, c, d, ?_, (hpart a).mp (hall a (by simp)), (hpart b).mp (hall b (by simp)),
      (hpart c).mp (hall c (by simp)), (hpart d).mp (hall d (by simp))⟩
    rw [← hs]
    simp [dotted, List.intercalate]
  · rintro ⟨a, b, c, d, rfl, ha, hb, hc, hd⟩
    have hdot : ∀ {e : Text}, ShortDigits e → '.' ∉ e := fun he => he.1.not_mem (by decide)
    have hparts : (dotted a b c d).splitOn '.' = [a, b, c, d] := by
      rw [dotted, List.splitOn_append_cons_self_of_not_mem (hdot ha),
        List.splitOn_append_cons_self_of_not_mem (hdot hb),
        List.splitOn_append_cons_self_of_not_mem (hdot hc), List.splitOn_eq_singleton (hdot hd)]
    rw [checkValidIp, hparts, Bool.and_eq_true, List.all_eq_true]
    refine ⟨rfl, ?_⟩
    intro e he
    rw [hpart]
    simp only [List.mem_cons, List.not_mem_nil, or_false] at he
    rcases he with rfl | rfl | rfl | rfl
    · exact ha
    · exact hb
    · exact hc
    · exact hd

theorem isDigit_ne_dot (c : Char) (h : c.isDigit = true) : (c == '.') = false :=
  beq_eq_false_iff_ne.mpr (ne_of_isDigit h (by decide))

theorem matchHere_number_dot_iff {items : List (Item Char)} {t : Text} {r : List Text} :
    matchHere (.plus Char.isDigit :: .one (· == '.') :: items) t = some r ↔
      ∃ d u r', t = d ++ '.' :: u ∧ Digits d ∧ matchHere items u = some r' ∧ r = d :: r' := by
  rw [matchHere_plus_one_iff isDigit_ne_dot]
  constructor
  · rintro ⟨d, c, u, r', rfl, hne, hd, hc, hr', rfl⟩
    exact ⟨d, u, r', by rw [beq_iff_eq.mp hc], ⟨hne, hd⟩, hr', rfl⟩
  · rintro ⟨d, u, r', rfl, hd, hr', rfl⟩
    exact ⟨d, '.', u, r', rfl, hd.1, hd.2, beq_self_eq_true '.', hr', rfl⟩

theorem matchHere_ip_iff {t : Text} {r : List Text} :
    matchHere TfUtilities.ipPattern t = some r ↔
      ∃ a b c d y, t = dotted a b c (d ++ y) ∧ Digits a ∧ Digits b ∧ Digits c ∧ Digits d ∧
        NoDigit y ∧ r = [a, b, c, d] := by
  constructor
  · intro h
    obtain ⟨a, u, r, rfl, ha, hbcd, rfl⟩ := matchHere_number_dot_iff.mp h
    obtain ⟨b, v, r, rfl, hb, hcd, rfl⟩ := matchHere_number_dot_iff.mp hbcd
    obtain ⟨c, w, r, rfl, hc, hlast, rfl⟩ := matchHere_number_dot_iff.mp hcd
    obtain ⟨d, y, rfl, hne, hd, hy, rfl⟩ := matchHere_plus_end_iff.mp hlast
    exact ⟨a, b, c, d, y, rfl, ha, hb, hc, ⟨hne, hd⟩, hy, rfl⟩
  · rintro ⟨a, b, c, d, y, rfl, ha, hb, hc, hd, hy, rfl⟩
    apply matchHere_number_dot_iff.mpr
    refine ⟨a, _, [b, c, d], rfl, ha, matchHere_number_dot_iff.mpr ?_, rfl⟩
    refine ⟨b, _, [c, d], rfl, hb, matchHere_number_dot_iff.mpr ?_, rfl⟩
    refine ⟨c, _, [d], rfl, hc, matchHere_plus_end_iff.mpr ?_, rfl⟩
    exact ⟨d, y, rfl, hd.1, hd.2, hy, rfl⟩

theorem find_ip_iff {s : Text} {r : List Text} :
    LuaPattern.find TfUtilities.ipPattern s = some r ↔
      ∃ x a b c d y, FirstQuad s x a b c d y ∧ r = [a, b, c, d] := by
  rw [find_eq_some_iff]
  constructor
  · rintro ⟨x, t, rfl, hr, hfirst⟩
    obtain ⟨a, b, c, d, y, rfl, ha, hb, hc, hd, hy, rfl⟩ := matchHere_ip_iff.mp hr
    refine ⟨x, a, b, c, d, y, ⟨rfl, ha, hb, hc, hd, hy, ?_⟩, rfl⟩
    intro x' a' b' c' d' y' heq ha' hb' hc' hd'
    by_contra hlt
    have hnone := hfirst x' _ heq (by omega)
    -- the last group of the pattern takes every digit that is left
    obtain ⟨z, y'', hz, hdz, hy''⟩ := hd'.exists_extend y'
    rw [hz, matchHere_ip_iff.mpr ⟨a', b', c', d' ++ z, y'', rfl, ha', hb', hc', hdz, hy'', rfl⟩]
      at hnone
    cases hnone
  · rintro ⟨x, a, b, c, d, y, ⟨rfl, ha, hb, hc, hd, hy, hfirst⟩, rfl⟩
    refine ⟨x, _, rfl, matchHere_ip_iff.mpr ⟨a, b, c, d, y, rfl, ha, hb, hc, hd, hy, rfl⟩, ?_⟩
    intro x' t' heq hlt
    rw [Option.eq_none_iff_forall_ne_some]
    intro r hr
    obtain ⟨a', b', c', d', y', rfl, ha', hb', hc', hd', -⟩ := matchHere_ip_iff.mp hr
    have hle := hfirst x' a' b' c' d' y' heq ha' hb' hc' hd'
    omega

theorem validPart_iff (R : Rounding) {d : Text} (hd : Digits d) :
    TfUtilities.validPart R d = true ↔ Octet d := by
  have hle := round_le_iff R (digitsVal d) (k := 255) (by decide)
  rw [Nat.cast_ofNat] at hle
  have hpart : TfUtilities.validPart R d =
      (!(decide (R.round (digitsVal d) < 0 ∨ 255 < R.round (digitsVal d))) &&
        !(decide (1 < d.length ∧ d.head? = some '0'))) := by
    rw [TfUtilities.validPart, tonumber_digits R hd]
  rw [hpart, Bool.and_eq_true, Bool.not_eq_true', Bool.not_eq_true', decide_eq_false_iff_not,
    decide_eq_false_iff_not, not_or, not_lt, not_lt, hle]
  constructor
  · rintro ⟨⟨-, hmax⟩, hzero⟩
    exact ⟨hd, hmax, hzero⟩
  · rintro ⟨-, hmax, hzero⟩
    exact ⟨⟨round_nonneg R _, hmax⟩, hzero⟩

/-- **The command line takes a text in which a dotted quad is found.** -/
theorem cli_isValidIp_iff (R : Rounding) (s : Text) :
    TfUtilities.isValidIp R s = true ↔ HasQuad s := by
  have hparts : ∀ {x a b c d y}, FirstQuad s x a b c d y →
      (TfUtilities.isValidIp R s = true ↔ Octet a ∧ Octet b ∧ Octet c ∧ Octet d) := by
    rintro x a b c d y h
    obtain ⟨-, ha, hb, hc, hd, -⟩ := id h
    have hread : TfUtilities.isValidIp R s =
        (decide ([a, b, c, d].length = 4) && [a, b, c, d].all (TfUtilities.validPart R)) := by
      rw [TfUtilities.isValidIp, find_ip_iff.mpr ⟨x, a, b, c, d, y, h, rfl⟩]
    rw [hread]
    simp [validPart_iff R ha, validPart_iff R hb, validPart_iff R hc, validPart_iff R hd]
  constructor
  · intro h
    cases hfind : LuaPattern.find TfUtilities.ipPattern s with
    | none =>
        rw [TfUtilities.isValidIp, hfind] at h
        cases h
    | some r =>
        obtain ⟨x, a, b, c, d, y, hquad, -⟩ := find_ip_iff.mp hfind
        exact ⟨x, a, b, c, d, y, hquad, (hparts hquad).mp h⟩
  · rintro ⟨x, a, b, c, d, y, hquad, hall⟩
    exact (hparts hquad).mpr hall

/-! ## The readers agree -/

/-- The command line and the daemon take the text for a host alike, and it is a dotted quad. -/
def HostAgrees (R : Rounding) (s : Text) : Prop :=
  (TfUtilities.isValidIp R s = true ↔ checkValidIp s = true) ∧ (checkValidIp s = true ↔ IsQuad s)

theorem hostAgrees_iff (R : Rounding) (s : Text) :
    HostAgrees R s ↔ (HasQuad s ∨ ShortQuad s → IsQuad s) := by
  rw [HostAgrees, cli_isValidIp_iff, checkValidIp_iff]
  constructor
  · rintro ⟨hagree, hquad⟩ (hfound | hshort)
    · exact hquad.mp (hagree.mp hfound)
    · exact hquad.mp hshort
  · intro hfits
    refine ⟨⟨fun h => (hfits (.inl h)).shortQuad, fun h => (hfits (.inr h)).hasQuad⟩, ?_⟩
    exact ⟨fun h => hfits (.inr h), fun h => h.shortQuad⟩

/-- **The checks agree on a text exactly when a clock found in it, or at its beginning, is all of
it, and when four numbers found in it, or standing alone in it, are a dotted quad and all of it.** -/
theorem checks_agree_iff (R : Rounding) (s : Text) :
    TimeAgrees R s ∧ HostAgrees R s ↔
      (HasClock s ∨ BeginsWithClock s → OnlyClock R s) ∧
        (HasQuad s ∨ ShortQuad s → IsQuad s) := by
  rw [timeAgrees_iff, hostAgrees_iff]

/-- The command line takes `24:00`, and the daemon does not. -/
theorem midnight_not_agreed :
    ¬∀ (R : Rounding) (s : Text), TimeAgrees R s ∧ HostAgrees R s := by
  intro h
  have hcli : CliReads ⟨id, monotone_id, fun _ _ => rfl⟩ ['2', '4', ':', '0', '0'] 24 0 := by
    rw [cliReads_iff]
    have hdigits : ∀ d : Text, d ≠ [] → d.all Char.isDigit = true → Digits d :=
      fun d hne hd => ⟨hne, List.all_eq_true.mp hd⟩
    refine ⟨[], ['2', '4'], ['0', '0'], [], ⟨rfl, hdigits _ (by decide) (by decide),
      hdigits _ (by decide) (by decide), by simp [NoDigit], ?_⟩, ⟨by decide, by decide⟩,
      by decide, by decide⟩
    exact fun _ _ _ _ _ _ _ => Nat.zero_le _
  have hdaemon := ((h _ _).1 24 0).1.mp hcli
  have hnone : isValidTime ['2', '4', ':', '0', '0'] = none := by decide
  rw [hnone] at hdaemon
  cases hdaemon

end AutoRestart
