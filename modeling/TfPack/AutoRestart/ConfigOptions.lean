import TfPack.AutoRestart.ClockTexts

set_option autoImplicit false

/-! # The options of the daemon

`getConfig` reads `test_delay`, `test_num` and `max_reset` out of the text of the reply.
`getValueFromJson` looks for the name anywhere in the text, takes up to nine characters between the
next quotes, and leaves the buffer as it is when there is nothing to take; the number is cut to a
byte before it is compared with 60. An option comes out right when the search finds its own value
and the byte it is cut to stands for it (`optionRight_iff`).
-/

namespace AutoRestart

open Lua LuaPattern Tokens

/-! ## Whole numbers in a text -/

/-- The text is an integer, as `strtol` reads one to its end. -/
def IsInt (w : Text) (n : Int) : Prop :=
  ∃ l d, w = l ++ d ∧ Lead l ∧ Digits d ∧ n = signed l (digitsVal d)

/-- Digits alone are an integer. -/
theorem isInt_digits {d : Text} {n : Int} (hne : d ≠ []) (hd : d.all Char.isDigit = true)
    (hn : (digitsVal d : Int) = n) : IsInt d n :=
  ⟨[], d, rfl, ⟨[], [], rfl, by simp, .inl rfl⟩, ⟨hne, List.all_eq_true.mp hd⟩, hn.symm⟩

theorem scanInt_of_isInt {w : Text} {n : Int} (h : IsInt w n) : scanInt w = some (n, []) := by
  obtain ⟨l, d, rfl, hl, hd, rfl⟩ := h
  rw [scanInt_eq_some_iff]
  exact ⟨l, d, by rw [List.append_nil], hl, hd, by simp [NoDigit], rfl⟩

theorem IsInt.unique {w : Text} {n m : Int} (h : IsInt w n) (h' : IsInt w m) : n = m := by
  have heq := (scanInt_of_isInt h).symm.trans (scanInt_of_isInt h')
  exact (Prod.mk.inj (Option.some.inj heq)).1

/-- `strtol` gives the integer, cut to the range of `long`. -/
theorem strtol_of_isInt {w : Text} {n : Int} (h : IsInt w n) :
    strtol w = max (-LONG_MAX - 1) (min LONG_MAX n) := by
  unfold strtol
  rw [scanInt_of_isInt h]

theorem digitsVal_lt {d : Text} (h : ∀ c ∈ d, c.isDigit = true) : digitsVal d < 10 ^ d.length := by
  -- the fold starts from any number, which each digit moves one place to the left
  have hgrow : ∀ (d : Text) (n : Nat), (∀ c ∈ d, c.isDigit = true) →
      d.foldl (fun n c => 10 * n + (c.toNat - '0'.toNat)) n < (n + 1) * 10 ^ d.length := by
    intro d
    induction d with
    | nil =>
        intro n _
        rw [List.foldl_nil, List.length_nil, pow_zero, Nat.mul_one]
        exact Nat.lt_succ_self n
    | cons c d ih =>
        intro n hd
        rw [List.forall_mem_cons] at hd
        have hc : c.toNat - '0'.toNat ≤ 9 := by
          have hdigit := hd.1
          simp only [Char.isDigit, Bool.and_eq_true, decide_eq_true_eq, ge_iff_le,
            UInt32.le_iff_toNat_le] at hdigit
          change 48 ≤ c.toNat ∧ c.toNat ≤ 57 at hdigit
          change c.toNat - 48 ≤ 9
          omega
        calc (c :: d).foldl (fun n c => 10 * n + (c.toNat - '0'.toNat)) n
            < (10 * n + (c.toNat - '0'.toNat) + 1) * 10 ^ d.length := ih _ hd.2
          _ ≤ (10 * (n + 1)) * 10 ^ d.length := Nat.mul_le_mul_right _ (by omega)
          _ = (n + 1) * 10 ^ (c :: d).length := by
              rw [List.length_cons, pow_succ]
              ac_rfl
  calc digitsVal d < (0 + 1) * 10 ^ d.length := hgrow d 0 h
    _ = 10 ^ d.length := by rw [Nat.zero_add, Nat.one_mul]

/-- An integer of up to nine characters is a `long`. -/
theorem strtol_of_short {w : Text} {n : Int} (h : IsInt w n) (hlen : w.length ≤ 9) :
    strtol w = n := by
  have hbound : -LONG_MAX - 1 ≤ n ∧ n ≤ LONG_MAX := by
    obtain ⟨l, d, rfl, -, hd, rfl⟩ := h
    have hd9 : d.length ≤ 9 := by
      rw [List.length_append] at hlen
      omega
    have hval : digitsVal d < 10 ^ 9 := by
      calc digitsVal d < 10 ^ d.length := digitsVal_lt hd.2
        _ ≤ 10 ^ 9 := Nat.pow_le_pow_right (by decide) hd9
    rw [signed, LONG_MAX]
    split <;> omega
  rw [strtol_of_isInt h]
  omega

/-! ## The options -/

/-- The options `getConfig` reads, of `DEMON_PARAM_e`. -/
inductive DemonParam
  | TEST_DELAY | TEST_NUM | MAX_RESET
  deriving DecidableEq, Repr

/-- `init_configOptions[p].optionName`. -/
def optionName : DemonParam → String
  | .TEST_DELAY => "test_delay" | .TEST_NUM => "test_num" | .MAX_RESET => "max_reset"

/-- `configOptionsDefault[p].value`. -/
def configOptionsDefault : DemonParam → UInt8
  | .TEST_DELAY => 3 | .TEST_NUM => 10 | .MAX_RESET => 3

/-- The places `getValueFromJson` goes to: nowhere when the name is not in the text, and then to the
next quote behind the next `:`; `some none` is a null pointer. -/
def jsonPlace (json name : List Char) : Option (Option (List Char)) :=
  (strstr name json).map fun ptr => (strchr ':' ptr).bind (strchr '"')

/-- What stands between the quotes it finds; nothing when it finds none. -/
def quotedText (json name : List Char) : List Char :=
  (((jsonPlace json name).bind id).map fun ptr => ptr.tail.takeWhile (· != '"')).getD []

/-- `getConfig`, for the text of the reply and what the uninitialised `value_str` holds for each
option. `none` when the reply does not fit into `res`, or a null pointer is followed. The command is
copied to `str_cmd`, which is too short for it, on every call alike; what that writes behind the
array is outside the model. -/
def getConfig (res : List Char) (stray : DemonParam → List Char) : Option (DemonParam → UInt8) :=
  if res.length < 256 ∧ ∀ p ∈ [DemonParam.TEST_DELAY, .TEST_NUM, .MAX_RESET],
      jsonPlace res (optionName p).toList ≠ some none then
    some fun p =>
      let value := UInt8.ofInt
        (strtol (getValueFromJson res (optionName p).toList (stray p)))
      if 60 < value then configOptionsDefault p else value
  else none

/-- The reply fits, and none of the searches follows a null pointer. -/
def Safe (res : List Char) : Prop :=
  res.length < 256 ∧ ∀ p, jsonPlace res (optionName p).toList ≠ some none

/-- The value an option stands for: its integer up to 60, the default without one. -/
inductive Effective (p : DemonParam) (o : Option Text) : Int → Prop
  | own {w : Text} {n : Int} (text : o = some w) (isInt : IsInt w n) (small : n ≤ 60) :
      Effective p o n
  | fallback (large : ∀ w n, o = some w → IsInt w n → 60 < n) :
      Effective p o (configOptionsDefault p).toNat

/-- After `getConfig` the option has the value that `values` of the reply gives it; `values p` is
the string there, `none` when there is none. -/
def OptionRight (res : List Char) (stray : DemonParam → List Char)
    (values : DemonParam → Option Text) (p : DemonParam) : Prop :=
  ∃ cfg, getConfig res stray = some cfg ∧ Effective p (values p) (cfg p).toNat

/-- The search finds the option's own value, and all of it. -/
def FindsOwn (res : List Char) (p : DemonParam) (w : Text) : Prop :=
  quotedText res (optionName p).toList = w ∧ w ≠ [] ∧ w.length ≤ 9

/-- A number cut to a byte, and compared with 60. -/
def byteValue (p : DemonParam) (v : Int) : Int :=
  if 60 < v % 256 then (configOptionsDefault p).toNat else v % 256

/-- The byte stands for the default. -/
def Defaulted (p : DemonParam) (v : Int) : Prop :=
  60 < v % 256 ∨ v % 256 = (configOptionsDefault p).toNat

/-- What is in the buffer after the search: the first nine characters it finds, or what was there
before when it finds none. -/
def leftText (res : List Char) (stray : DemonParam → List Char) (p : DemonParam) : List Char :=
  if quotedText res (optionName p).toList = [] then stray p
  else (quotedText res (optionName p).toList).take 9

/-- A number read from another text is as good as the option's own value: its low byte is the
integer of the option, or stands for the default where that is in force. -/
def Coincides (p : DemonParam) (o : Option Text) (v : Int) : Prop :=
  (∃ w n, o = some w ∧ IsInt w n ∧ n ≤ 60 ∧
      (v % 256 = n ∨ 60 < v % 256 ∧ n = (configOptionsDefault p).toNat)) ∨
    (∀ w n, o = some w → IsInt w n → 60 < n) ∧ Defaulted p v

/-! ## What is read -/

theorem getValueFromJson_eq (json name value : List Char) :
    getValueFromJson json name value =
      if quotedText json name = [] then value else (quotedText json name).take 9 := by
  have hplace : ((strstr name json).bind (strchr ':') |>.bind (strchr '"')) =
      (jsonPlace json name).bind id := by
    rw [jsonPlace]
    cases strstr name json <;> rfl
  unfold getValueFromJson quotedText
  rw [hplace]
  cases (jsonPlace json name).bind id with
  | none => rfl
  | some ptr =>
      simp only [Option.map_some, Option.getD_some]
      -- `%9[^"]` takes nothing when the next character is the quote, and keeps the buffer
      cases hq : ptr.tail.takeWhile (· != '"') with
      | nil => rfl
      | cons c cs => rfl

theorem getConfig_eq_some_iff {res : List Char} {stray : DemonParam → List Char}
    {cfg : DemonParam → UInt8} : getConfig res stray = some cfg ↔ Safe res ∧
      cfg = fun p =>
        let value := UInt8.ofInt (strtol (getValueFromJson res (optionName p).toList (stray p)))
        if 60 < value then configOptionsDefault p else value := by
  have hsafe : (res.length < 256 ∧ ∀ p ∈ [DemonParam.TEST_DELAY, .TEST_NUM, .MAX_RESET],
      jsonPlace res (optionName p).toList ≠ some none) ↔ Safe res := by
    refine and_congr_right fun _ => ⟨fun h p => h p ?_, fun h p _ => h p⟩
    cases p <;> decide
  unfold getConfig
  split
  case isTrue h =>
    exact ⟨fun heq => ⟨hsafe.mp h, (Option.some.inj heq).symm⟩, fun heq => by rw [heq.2]⟩
  case isFalse h => exact ⟨nofun, fun heq => absurd (hsafe.mpr heq.1) h⟩

/-- The value an option gets. -/
theorem toNat_byteValue (p : DemonParam) (v : Int) :
    (((if 60 < UInt8.ofInt v then configOptionsDefault p else UInt8.ofInt v).toNat : Nat) : Int) =
      byteValue p v := by
  have hbyte : ((UInt8.ofInt v).toNat : Int) = v % 256 := by
    simp [UInt8.ofInt]
    omega
  -- the comparison comes after the cut to a byte
  have hcond : 60 < UInt8.ofInt v ↔ 60 < v % 256 := by
    rw [UInt8.lt_iff_toNat_lt, ← hbyte]
    exact Int.ofNat_lt.symm
  unfold byteValue
  simp only [hcond]
  split
  case isTrue => rfl
  case isFalse => exact hbyte

/-! ## When an option comes out right -/

variable {res : List Char} {stray : DemonParam → List Char} {p : DemonParam} {w : Text} {n : Int}

/-- The value made of a number is the option's exactly when the number coincides with it. -/
theorem effective_byteValue_iff {o : Option Text} {v : Int} :
    Effective p o (byteValue p v) ↔ Coincides p o v := by
  have hbyte : ∀ {u : Int}, byteValue p v = u → (v % 256 = u ∧ v % 256 ≤ 60) ∨
      60 < v % 256 ∧ u = (configOptionsDefault p).toNat := by
    rintro u rfl
    rw [byteValue]
    split <;> omega
  constructor
  · generalize hv : byteValue p v = u
    rintro (⟨text, isInt, small⟩ | large)
    · exact .inl ⟨_, _, text, isInt, small, (hbyte hv).imp_left And.left⟩
    · exact .inr ⟨large, (hbyte hv).elim (fun h => .inr h.1) (fun h => .inl h.1)⟩
  · rintro (⟨w, n, htext, hint, hsmall, hcoincide⟩ | ⟨hlarge, hdef⟩)
    · have hval : byteValue p v = n := by
        rw [byteValue]
        split <;> omega
      rw [hval]
      exact .own htext hint hsmall
    · have hval : byteValue p v = (configOptionsDefault p).toNat := by
        rw [byteValue]
        rcases hdef with h60 | heq
        · rw [if_pos h60]
        · split <;> omega
      rw [hval]
      exact .fallback hlarge

theorem effective_of_isInt (h : IsInt w n) :
    Effective p (some w) (byteValue p n) ↔ 0 ≤ n ∧ (n ≤ 60 ∨ Defaulted p n) := by
  have hdefault : 0 ≤ ((configOptionsDefault p).toNat : Int) := Int.natCast_nonneg _
  have hown : 0 ≤ n → n ≤ 60 → Coincides p (some w) n := fun hpos hsmall =>
    .inl ⟨w, n, rfl, h, hsmall, .inl (by omega)⟩
  rw [effective_byteValue_iff]
  constructor
  · rintro (⟨w', m, htext, hint, hsmall, hcoincide⟩ | ⟨hlarge, hdef⟩)
    · cases htext
      obtain rfl : n = m := h.unique hint
      exact ⟨by omega, .inl hsmall⟩
    · have h60 := hlarge w n rfl h
      exact ⟨by omega, .inr hdef⟩
  · rintro ⟨hpos, hsmall | hdef⟩
    · exact hown hpos hsmall
    · by_cases hsmall : n ≤ 60
      · exact hown hpos hsmall
      · refine .inr ⟨fun w' n' htext hint => ?_, hdef⟩
        cases htext
        rw [hint.unique h]
        omega

theorem effective_of_noInt (h : ∀ n, ¬IsInt w n) {v : Int} :
    Effective p (some w) (byteValue p v) ↔ Defaulted p v := by
  rw [effective_byteValue_iff]
  constructor
  · rintro (⟨w', n, htext, hint, -⟩ | ⟨-, hdef⟩)
    · cases htext
      exact absurd hint (h n)
    · exact hdef
  · refine fun hdef => .inr ⟨fun w' n' htext hint => ?_, hdef⟩
    cases htext
    exact absurd hint (h n')

/-- **When an option comes out right.** The search finds the option's own value, and this is an
integer that keeps its place when it is cut to a byte, or no integer, and the byte made of it
stands for the default; or it finds another text, or none, and the number in the buffer coincides
with the option's value. -/
theorem optionRight_iff (res : List Char) (stray : DemonParam → List Char)
    (values : DemonParam → Option Text) (p : DemonParam) :
    OptionRight res stray values p ↔ Safe res ∧
      ((∃ w, values p = some w ∧ FindsOwn res p w ∧
          ((∃ n, IsInt w n ∧ 0 ≤ n ∧ (n ≤ 60 ∨ Defaulted p n)) ∨
            (∀ n, ¬IsInt w n) ∧ Defaulted p (strtol w))) ∨
        ((∀ w, values p = some w → ¬FindsOwn res p w) ∧
          Coincides p (values p) (strtol (leftText res stray p)))) := by
  have hright : OptionRight res stray values p ↔ Safe res ∧ Effective p (values p)
      (byteValue p (strtol (getValueFromJson res (optionName p).toList (stray p)))) := by
    constructor
    · rintro ⟨cfg, hcfg, heff⟩
      obtain ⟨hsafe, rfl⟩ := getConfig_eq_some_iff.mp hcfg
      dsimp only at heff
      rw [toNat_byteValue] at heff
      exact ⟨hsafe, heff⟩
    · rintro ⟨hsafe, heff⟩
      refine ⟨_, getConfig_eq_some_iff.mpr ⟨hsafe, rfl⟩, ?_⟩
      dsimp only
      rw [toNat_byteValue]
      exact heff
  rw [hright, ← effective_byteValue_iff, leftText, ← getValueFromJson_eq]
  refine and_congr_right fun _ => ?_
  -- only a search that finds the own value reads the number the option denotes
  by_cases hown : ∃ w, values p = some w ∧ FindsOwn res p w
  · obtain ⟨w, hw, hfinds⟩ := hown
    have hbuffer : getValueFromJson res (optionName p).toList (stray p) = w := by
      obtain ⟨hquoted, hne, hlen⟩ := hfinds
      rw [getValueFromJson_eq, hquoted, if_neg hne, List.take_of_length_le hlen]
    have hnumber : Effective p (some w) (byteValue p (strtol w)) ↔
        (∃ n, IsInt w n ∧ 0 ≤ n ∧ (n ≤ 60 ∨ Defaulted p n)) ∨
          (∀ n, ¬IsInt w n) ∧ Defaulted p (strtol w) := by
      by_cases hint : ∃ n, IsInt w n
      · obtain ⟨n, hint⟩ := hint
        rw [strtol_of_short hint hfinds.2.2, effective_of_isInt hint]
        constructor
        · exact fun h => .inl ⟨n, hint, h⟩
        · rintro (⟨m, hm, h⟩ | ⟨hnone, -⟩)
          · rwa [hm.unique hint] at h
          · exact absurd hint (hnone n)
      · have hnone : ∀ n, ¬IsInt w n := fun n hn => hint ⟨n, hn⟩
        rw [effective_of_noInt hnone]
        exact ⟨fun h => .inr ⟨hnone, h⟩,
          fun h => h.elim (fun ⟨n, hn, _⟩ => absurd hn (hnone n)) And.right⟩
    rw [hbuffer, hw, hnumber]
    constructor
    · exact fun h => .inl ⟨w, rfl, hfinds, h⟩
    · rintro (⟨w', hw', -, h⟩ | ⟨hnot, -⟩)
      · cases hw'
        exact h
      · exact absurd hfinds (hnot w rfl)
  · have hnot : ∀ w, values p = some w → ¬FindsOwn res p w := fun w hw hf => hown ⟨w, hw, hf⟩
    constructor
    · exact fun h => .inr ⟨hnot, h⟩
    · rintro (⟨w, hw, hf, -⟩ | ⟨-, h⟩)
      · exact absurd hf (hnot w hw)
      · exact h

/-! ## Replies -/

/-- The first occurrence of a name. -/
theorem strstr_of_first {name pre rest : List Char} (hne : name ≠ []) (h : name <+: rest)
    (hfirst : ∀ x y, pre = x ++ y → y ≠ [] → ¬name <+: y ++ rest) :
    strstr name (pre ++ rest) = some rest := by
  -- on what stands before the first occurrence, where the name does not begin anywhere
  induction pre with
  | nil =>
      cases rest with
      | nil => exact absurd (List.prefix_nil.mp h) hne
      | cons c cs => rw [List.nil_append, strstr, if_pos (List.isPrefixOf_iff_prefix.mpr h)]
  | cons c pre ih =>
      have hnot : ¬name.isPrefixOf (c :: (pre ++ rest)) = true := by
        rw [List.isPrefixOf_iff_prefix]
        exact hfirst [] (c :: pre) rfl (List.cons_ne_nil c pre)
      rw [List.cons_append, strstr, if_neg hnot]
      apply ih
      rintro x y rfl hy
      exact hfirst (c :: x) y rfl hy

/-- The first occurrence of a character. -/
theorem strchr_block {c : Char} {x t : List Char} (hx : ∀ a ∈ x, a ≠ c) :
    strchr c (x ++ c :: t) = some (c :: t) := by
  have hdrop : (x ++ c :: t).dropWhile (· != c) = c :: t :=
    dropWhile_block (fun a ha => bne_iff_ne.mpr (hx a ha)) (fun a ha => by cases ha; simp)
  unfold strchr
  rw [hdrop]

/-- **A name that first occurs as the key of its option leads to the option's value.** -/
theorem quotedText_of_first {name pre w post : List Char} (hne : name ≠ []) (hcolon : ':' ∉ name)
    (hw : '"' ∉ w)
    (hfirst : ∀ x y, pre = x ++ y → y ≠ [] →
      ¬name <+: y ++ (name ++ ('"' :: ':' :: ' ' :: '"' :: (w ++ '"' :: post)))) :
    quotedText (pre ++ (name ++ ('"' :: ':' :: ' ' :: '"' :: (w ++ '"' :: post)))) name = w := by
  have hcolons : ∀ c ∈ name ++ ['"'], c ≠ ':' := by
    rintro c hc rfl
    rcases List.mem_append.mp hc with hc | hc
    · exact hcolon hc
    · exact absurd (List.mem_singleton.mp hc) (by decide)
  have hplace : strchr ':' (name ++ ('"' :: ':' :: ' ' :: '"' :: (w ++ '"' :: post))) =
      some (':' :: ' ' :: '"' :: (w ++ '"' :: post)) := by
    have hblock := strchr_block (t := ' ' :: '"' :: (w ++ '"' :: post)) hcolons
    rwa [List.append_assoc] at hblock
  have hquotes : ∀ c ∈ w, (c != '"') = true := by
    intro c hc
    rw [bne_iff_ne]
    rintro rfl
    exact hw hc
  rw [quotedText, jsonPlace, strstr_of_first hne (List.prefix_append _ _) hfirst, Option.map_some,
    hplace]
  exact takeWhile_block hquotes (fun c hc => by cases hc; decide)

/-- A member of `values`, of texts without escapes. -/
def member (o : String × String) : List Char :=
  '"' :: o.1.toList ++ ['"', ':', ' ', '"'] ++ o.2.toList ++ ['"']

/-- The reply of `ubus call uci get` for a section with the options `os`. -/
def replyText (os : List (String × String)) : List Char :=
  "\x7b\n\t\"values\": \x7b\n\t\t".toList ++
    List.intercalate [',', '\n', '\t', '\t'] (os.map member) ++ "\n\t\x7d\n\x7d\n".toList

/-- What `values` holds for an option. -/
def replyValues (os : List (String × String)) (p : DemonParam) : Option Text :=
  (os.lookup (optionName p)).map String.toList

/-- The options of a daemon that never shuts a port down, as its owner thinks. -/
def manyResets : List (String × String) :=
  [(".type", "ar_demon"), (".name", "ar_demon"), ("test_delay", "3"), ("test_num", "10"),
    ("max_reset", "256")]

/-- `max_reset` 256 becomes 0. -/
theorem max_reset_wraps : ¬∀ os stray p, OptionRight (replyText os) stray (replyValues os) p := by
  intro h
  obtain ⟨cfg, hcfg, heff⟩ := h manyResets (fun _ => []) .MAX_RESET
  obtain ⟨-, rfl⟩ := getConfig_eq_some_iff.mp hcfg
  dsimp only at heff
  have hbuffer : getValueFromJson (replyText manyResets) (optionName .MAX_RESET).toList [] =
      "256".toList := by decide
  have hint : IsInt "256".toList 256 := isInt_digits (by decide) (by decide) (by decide)
  have hvalue : replyValues manyResets .MAX_RESET = some "256".toList := by decide
  rw [toNat_byteValue, hbuffer, hvalue, strtol_of_short hint (by decide),
    effective_of_isInt hint] at heff
  rcases heff.2 with hsmall | hlarge | hdefault
  · exact absurd hsmall (by decide)
  · exact absurd hlarge (by decide)
  · exact absurd hdefault (by decide)

end AutoRestart
