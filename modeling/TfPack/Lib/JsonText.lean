import Mathlib.Data.List.Basic

set_option autoImplicit false

/-! # JSON texts

A JSON text is scanned character by character into tokens, and the tokens are read as a value. The
value and its tokens determine each other: `decode` gives a value exactly for the texts that have
its tokens (`decode_eq_some_iff`).

A program that puts a text between quotes as it is writes the string it means exactly when the text
holds no quote, backslash or control character (`scan_quoted`, `plain_of_scan`).
-/

namespace JsonText

/-! ## Values and tokens -/

inductive Scalar
  | null
  | bool (b : Bool)
  | num (numeral : List Char)
  | str (s : List Char)
  deriving DecidableEq, Repr

inductive Token
  | scalar (s : Scalar)
  | lbrace | rbrace | lbracket | rbracket | colon | comma
  deriving DecidableEq, Repr

/-- A value; the members of an object stand in their order. -/
inductive Json
  | scalar (s : Scalar)
  | arr (l : List Json)
  | obj (l : List (List Char × Json))

/-- The token of a string. -/
abbrev Token.text (s : List Char) : Token := .scalar (.str s)

mutual

/-- The tokens of a value. -/
def Json.tokens : Json → List Token
  | .scalar s => [.scalar s]
  | .arr l => .lbracket :: elements l
  | .obj l => .lbrace :: members l

/-- The tokens behind the bracket of an array. -/
def elements : List Json → List Token
  | [] => [.rbracket]
  | [v] => v.tokens ++ [.rbracket]
  | v :: w :: l => v.tokens ++ .comma :: elements (w :: l)

/-- The tokens behind the brace of an object. -/
def members : List (List Char × Json) → List Token
  | [] => [.rbrace]
  | [(k, v)] => .text k :: .colon :: (v.tokens ++ [.rbrace])
  | (k, v) :: m :: l => .text k :: .colon :: (v.tokens ++ .comma :: members (m :: l))

end

/-! ## The scanner -/

/-- The value of a hexadecimal digit. -/
def hexDigit (c : Char) : Option Nat :=
  if c.isDigit then some (c.toNat - '0'.toNat)
  else if 'a' ≤ c ∧ c ≤ 'f' then some (c.toNat - 'a'.toNat + 10)
  else if 'A' ≤ c ∧ c ≤ 'F' then some (c.toNat - 'A'.toNat + 10)
  else none

/-- The four digits of an escaped code unit. -/
def hex4 (a b c d : Char) : Option Nat :=
  (([a, b, c, d] : List Char).mapM hexDigit).map (fun l => l.foldl (fun n x => 16 * n + x) 0)

/-- What an escape of one character stands for. -/
def escaped (c : Char) : Option Char :=
  if c = '"' ∨ c = '\\' ∨ c = '/' then some c
  else if c = 'b' then some (Char.ofNat 8)
  else if c = 'f' then some (Char.ofNat 12)
  else if c = 'n' then some '\n'
  else if c = 'r' then some '\r'
  else if c = 't' then some '\t'
  else none

/-- A character that stands for itself between quotes. -/
def Unescaped (c : Char) : Prop := c ≠ '"' ∧ c ≠ '\\' ∧ 0x20 ≤ c.toNat

instance : DecidablePred Unescaped := fun c =>
  inferInstanceAs (Decidable (c ≠ '"' ∧ c ≠ '\\' ∧ 0x20 ≤ c.toNat))

def IsHigh (n : Nat) : Prop := 0xD800 ≤ n ∧ n < 0xDC00

def IsLow (n : Nat) : Prop := 0xDC00 ≤ n ∧ n < 0xE000

instance : DecidablePred IsHigh := fun n => inferInstanceAs (Decidable (0xD800 ≤ n ∧ n < 0xDC00))

instance : DecidablePred IsLow := fun n => inferInstanceAs (Decidable (0xDC00 ≤ n ∧ n < 0xE000))

/-- The character of a surrogate pair. -/
def surrogates (high low : Nat) : Char :=
  Char.ofNat (0x10000 + 0x400 * (high - 0xD800) + (low - 0xDC00))

/-- The string that stands between two quotes. Half a surrogate pair is no character. -/
def unescape : List Char → Option (List Char)
  | '\\' :: 'u' :: a :: b :: c :: d :: t =>
      (hex4 a b c d).bind (fun n =>
        if IsLow n then none
        else if IsHigh n then
          match t with
          | '\\' :: 'u' :: e :: f :: g :: h :: t =>
              (hex4 e f g h).bind (fun m =>
                if IsLow m then (unescape t).map (surrogates n m :: ·) else none)
          | _ => none
        else (unescape t).map (Char.ofNat n :: ·))
  | '\\' :: c :: t => (escaped c).bind (fun d => (unescape t).map (d :: ·))
  | c :: t => if Unescaped c then (unescape t).map (c :: ·) else none
  | [] => some []

/-- Blank, tab, newline and carriage return. -/
def isBlank (c : Char) : Bool := c == ' ' || c == '\t' || c == '\n' || c == '\r'

/-- The characters of numbers and of the three names. -/
def isWordChar (c : Char) : Bool := c.isAlphanum || c == '+' || c == '-' || c == '.'

/-- The tokens that are one character. -/
def punctuation (c : Char) : Option Token :=
  if c = '{' then some .lbrace
  else if c = '}' then some .rbrace
  else if c = '[' then some .lbracket
  else if c = ']' then some .rbracket
  else if c = ':' then some .colon
  else if c = ',' then some .comma
  else none

def isDigits (s : List Char) : Bool := !s.isEmpty && s.all Char.isDigit

/-- Behind `e` a sign and digits, or nothing. -/
def isExponent : List Char → Bool
  | [] => true
  | c :: '+' :: s => (c == 'e' || c == 'E') && isDigits s
  | c :: '-' :: s => (c == 'e' || c == 'E') && isDigits s
  | c :: s => (c == 'e' || c == 'E') && isDigits s

/-- What may follow the whole part of a number. -/
def isFraction : List Char → Bool
  | '.' :: s => isDigits (s.takeWhile Char.isDigit) && isExponent (s.dropWhile Char.isDigit)
  | s => isExponent s

/-- A number without a sign; no zero stands in front. -/
def isUnsigned (s : List Char) : Bool :=
  let whole := s.takeWhile Char.isDigit
  isDigits whole && (whole == ['0'] || whole.head? != some '0') &&
    isFraction (s.dropWhile Char.isDigit)

def isNumber : List Char → Bool
  | '-' :: s => isUnsigned s
  | s => isUnsigned s

/-- The token of a name or a number. -/
def wordToken (w : List Char) : Option Token :=
  if w = "null".toList then some (.scalar .null)
  else if w = "true".toList then some (.scalar (.bool true))
  else if w = "false".toList then some (.scalar (.bool false))
  else if isNumber w then some (.scalar (.num w))
  else none

/-- Where the scanner stands: between tokens, in a name or a number, between quotes, and behind a
backslash there, each with what has been read of it. -/
inductive Mode
  | plain
  | word (w : List Char)
  | text (s : List Char)
  | esc (s : List Char)

/-- A character that does not go on with a word. -/
def start (c : Char) : Option (List Token × Mode) :=
  if isBlank c then some ([], .plain)
  else if c = '"' then some ([], .text [])
  else if isWordChar c then some ([], .word [c])
  else (punctuation c).map (fun tok => ([tok], .plain))

/-- One character: the tokens that end with it, and where the scanner stands then. -/
def step : Mode → Char → Option (List Token × Mode)
  | .plain, c => start c
  | .word w, c =>
      if isWordChar c then some ([], .word (w ++ [c]))
      else (wordToken w).bind (fun tok => (start c).map (fun r => (tok :: r.1, r.2)))
  | .text s, c =>
      if c = '"' then (unescape s).map (fun u => ([.text u], .plain))
      else if c = '\\' then some ([], .esc (s ++ [c]))
      else some ([], .text (s ++ [c]))
  | .esc s, c => some ([], .text (s ++ [c]))

/-- The tokens of a part of a text, and where the scanner stands behind it. -/
def scan : Mode → List Char → Option (List Token × Mode)
  | m, [] => some ([], m)
  | m, c :: t => (step m c).bind (fun r => (scan r.2 t).map (fun q => (r.1 ++ q.1, q.2)))

/-- The end of a text. -/
def finish : Mode → Option (List Token)
  | .plain => some []
  | .word w => (wordToken w).map (fun tok => [tok])
  | .text _ => none
  | .esc _ => none

/-- The tokens of a text. -/
def lex (t : List Char) : Option (List Token) :=
  (scan .plain t).bind (fun r => (finish r.2).map (r.1 ++ ·))

/-! ## The reader -/

mutual

/-- The value that tokens begin with, and the tokens behind it; a value is never deeper than it has
tokens. -/
def readValue : Nat → List Token → Option (Json × List Token)
  | 0, _ => none
  | _ + 1, .scalar s :: ts => some (.scalar s, ts)
  | _ + 1, .lbracket :: .rbracket :: ts => some (.arr [], ts)
  | n + 1, .lbracket :: ts => (readElements n ts).map (fun r => (.arr r.1, r.2))
  | _ + 1, .lbrace :: .rbrace :: ts => some (.obj [], ts)
  | n + 1, .lbrace :: ts => (readMembers n ts).map (fun r => (.obj r.1, r.2))
  | _ + 1, _ => none

def readElements : Nat → List Token → Option (List Json × List Token)
  | 0, _ => none
  | n + 1, ts =>
      match readValue n ts with
      | some (v, .rbracket :: ts) => some ([v], ts)
      | some (v, .comma :: ts) => (readElements n ts).map (fun r => (v :: r.1, r.2))
      | _ => none

def readMembers : Nat → List Token → Option (List (List Char × Json) × List Token)
  | 0, _ => none
  | n + 1, .scalar (.str k) :: .colon :: ts =>
      match readValue n ts with
      | some (v, .rbrace :: ts) => some ([(k, v)], ts)
      | some (v, .comma :: ts) => (readMembers n ts).map (fun r => ((k, v) :: r.1, r.2))
      | _ => none
  | _ + 1, _ => none

end

/-- The value of a text. -/
def decode (t : List Char) : Option Json :=
  (lex t).bind (fun ts =>
    match readValue ts.length ts with
    | some (v, []) => some v
    | _ => none)

/-! ## Strings -/

/-- A text that stands for itself between quotes. -/
def Plain (s : List Char) : Prop := ∀ c ∈ s, Unescaped c

instance : DecidablePred Plain := fun s => inferInstanceAs (Decidable (∀ c ∈ s, Unescaped c))

theorem unescape_cons {c : Char} (hc : Unescaped c) (t : List Char) :
    unescape (c :: t) = (unescape t).map (c :: ·) := by
  have hne : c ≠ '\\' := hc.2.1
  rw [unescape]
  · rw [if_pos hc]
  · rintro a b d e f heq
    exact absurd heq hne
  · rintro d t heq
    exact absurd heq hne

theorem unescape_plain {s : List Char} (h : Plain s) : unescape s = some s := by
  induction s with
  | nil => rfl
  | cons c s ih =>
      obtain ⟨hc, hs⟩ := List.forall_mem_cons.mp h
      rw [unescape_cons hc, ih hs]
      rfl

/-- An escape is longer than what it stands for. -/
theorem short_of_unescape {s u : List Char} (h : unescape s = some u) :
    u.length ≤ s.length ∧ (s.length ≤ u.length → Plain s) := by
  -- behind an escape there are too few characters for the length of the text
  have hshort : ∀ {s u : List Char}, u.length < s.length →
      u.length ≤ s.length ∧ (s.length ≤ u.length → Plain s) :=
    fun hlt => ⟨Nat.le_of_lt hlt, fun hle => absurd hle (Nat.not_le_of_lt hlt)⟩
  fun_induction unescape s generalizing u with
  | case1 a b c d t ihpair ih =>
      obtain ⟨n, -, hn⟩ := Option.bind_eq_some_iff.mp h
      refine hshort ?_
      simp only [List.length_cons]
      split at hn
      · cases hn
      · split at hn
        · split at hn
          · obtain ⟨m, -, hm⟩ := Option.bind_eq_some_iff.mp hn
            split at hm
            · obtain ⟨w, hw, rfl⟩ := Option.map_eq_some_iff.mp hm
              have hle := (ihpair hw).1
              simp only [List.length_cons]
              omega
            · cases hm
          · cases hn
        · obtain ⟨w, hw, rfl⟩ := Option.map_eq_some_iff.mp hn
          have hle := (ih hw).1
          simp only [List.length_cons]
          omega
  | case2 c t _ ih =>
      obtain ⟨d, -, hd⟩ := Option.bind_eq_some_iff.mp h
      obtain ⟨w, hw, rfl⟩ := Option.map_eq_some_iff.mp hd
      have hle := (ih hw).1
      refine hshort ?_
      simp only [List.length_cons]
      omega
  | case3 c t _ _ hc ih =>
      obtain ⟨w, hw, rfl⟩ := Option.map_eq_some_iff.mp h
      obtain ⟨hle, hplain⟩ := ih hw
      refine ⟨Nat.succ_le_succ hle, fun hback => ?_⟩
      exact List.forall_mem_cons.mpr ⟨hc, hplain (Nat.le_of_succ_le_succ hback)⟩
  | case4 => cases h
  | case5 =>
      cases h
      exact ⟨Nat.le_refl _, fun _ => List.forall_mem_nil _⟩

/-! ## Scanning -/

section Scan

variable {m m' : Mode} {s t u : List Char} {ts : List Token}

theorem scan_append (m : Mode) (s t : List Char) :
    scan m (s ++ t) =
      (scan m s).bind (fun r => (scan r.2 t).map (fun q => (r.1 ++ q.1, q.2))) := by
  induction s generalizing m with
  | nil => simp [scan]
  | cons c s ih =>
      rw [List.cons_append, scan, scan]
      cases step m c with
      | none => rfl
      | some r =>
          simp only [Option.bind_some, ih]
          cases scan r.2 s with
          | none => rfl
          | some q =>
              simp only [Option.bind_some, Option.map_some]
              cases scan q.2 t with
              | none => rfl
              | some p => simp

/-- A part that is scanned is put in front. -/
theorem scan_append_some (h : scan m s = some (ts, m')) (t : List Char) :
    scan m (s ++ t) = (scan m' t).map (fun q => (ts ++ q.1, q.2)) := by
  rw [scan_append, h]
  rfl

/-- Plain characters between quotes are gathered. -/
theorem scan_text (h : Plain s) (u : List Char) :
    scan (.text u) s = some ([], .text (u ++ s)) := by
  induction s generalizing u with
  | nil => rw [List.append_nil]; rfl
  | cons c s ih =>
      obtain ⟨hc, hs⟩ := List.forall_mem_cons.mp h
      have hstep : step (.text u) c = some ([], .text (u ++ [c])) := by
        rw [step, if_neg hc.1, if_neg hc.2.1]
      rw [scan, hstep, Option.bind_some, ih hs, List.append_assoc]
      rfl

/-- **A plain text between quotes is the string it means.** -/
theorem scan_quoted (h : Plain s) :
    scan .plain ('"' :: (s ++ ['"'])) = some ([.text s], .plain) := by
  have hopen : scan .plain ['"'] = some ([], .text []) := rfl
  have hclose : scan (.text s) ['"'] = some ([.text s], .plain) := by
    simp [scan, step, unescape_plain h]
  rw [← List.singleton_append, scan_append_some hopen, scan_append_some (scan_text h []),
    List.nil_append, hclose]
  rfl

theorem scan_string (h : Plain s) (t : List Char) :
    scan .plain ('"' :: (s ++ '"' :: t)) =
      (scan .plain t).map (fun q => (.text s :: q.1, q.2)) := by
  have happend : '"' :: (s ++ '"' :: t) = '"' :: (s ++ ['"']) ++ t := by simp
  rw [happend, scan_append_some (scan_quoted h)]
  rfl

/-- A token of one character. -/
theorem scan_cons {c : Char} {tok : Token} (h : start c = some ([tok], .plain)) (t : List Char) :
    scan .plain (c :: t) = (scan .plain t).map (fun q => (tok :: q.1, q.2)) := by
  rw [scan, step, h]
  rfl

/-- A quote ends the string that has been read. -/
theorem unescape_of_scan (h : scan (.text u) ('"' :: s) = some (.text t :: ts, m)) :
    unescape u = some t := by
  rw [scan, step, if_pos rfl] at h
  cases hu : unescape u with
  | none =>
      rw [hu] at h
      cases h
  | some w =>
      rw [hu, Option.map_some, Option.bind_some, Option.map_eq_some_iff] at h
      obtain ⟨q, -, hq⟩ := h
      simp only [List.cons_append, Prod.mk.injEq, List.cons.injEq, Token.scalar.injEq,
        Scalar.str.injEq] at hq
      rw [hq.1.1]

/-- What quotes hold is never longer than what stands between them, and as long only when that is
plain. -/
theorem short_of_scan (h : scan (.text u) (s ++ ['"', '}']) = some (.text t :: ts, .plain)) :
    t.length ≤ (u ++ s).length ∧ ((u ++ s).length ≤ t.length → Plain (u ++ s)) := by
  induction hn : s.length using Nat.strongRecOn generalizing s u with
  | _ n ih =>
      cases s with
      | nil =>
          rw [List.append_nil]
          exact short_of_unescape (unescape_of_scan h)
      | cons c s =>
          rw [List.length_cons] at hn
          by_cases hquote : c = '"'
          · -- the string ends before the text does
            subst hquote
            have hle := (short_of_unescape (unescape_of_scan h)).1
            simp only [List.length_append, List.length_cons]
            exact ⟨by omega, fun hback => absurd hback (by omega)⟩
          · by_cases hback : c = '\\'
            · subst hback
              cases s with
              | nil => cases h
              | cons d s =>
                  rw [List.length_cons] at hn
                  have hrest : scan (.text (u ++ ['\\'] ++ [d])) (s ++ ['"', '}']) =
                      some (.text t :: ts, .plain) := by
                    simpa [scan, step] using h
                  have hshort := ih s.length (by omega) hrest rfl
                  rwa [List.append_assoc, List.append_assoc] at hshort
            · have hrest : scan (.text (u ++ [c])) (s ++ ['"', '}']) =
                  some (.text t :: ts, .plain) := by
                simpa [scan, step, hquote, hback] using h
              have hshort := ih s.length (by omega) hrest rfl
              rwa [List.append_assoc] at hshort

/-- **A text between quotes means itself only when it is plain.** -/
theorem plain_of_scan (h : scan (.text []) (s ++ ['"', '}']) = some (.text s :: ts, .plain)) :
    Plain s :=
  (short_of_scan h).2 (Nat.le_refl _)

end Scan

/-! ## Reading -/

section Read

variable {n : Nat} {ts r : List Token}

theorem elements_cons {l : List Json} (v : Json) (hl : l ≠ []) :
    elements (v :: l) = v.tokens ++ .comma :: elements l := by
  cases l with
  | nil => exact absurd rfl hl
  | cons w l => rw [elements]

theorem members_cons {l : List (List Char × Json)} (k : List Char) (v : Json) (hl : l ≠ []) :
    members ((k, v) :: l) = .text k :: .colon :: (v.tokens ++ .comma :: members l) := by
  cases l with
  | nil => exact absurd rfl hl
  | cons m l => rw [members]

/-- What is read are the tokens of the value. -/
theorem read_sound (n : Nat) :
    (∀ {ts v r}, readValue n ts = some (v, r) → ts = v.tokens ++ r) ∧
      (∀ {ts l r}, readElements n ts = some (l, r) → l ≠ [] ∧ ts = elements l ++ r) ∧
        ∀ {ts l r}, readMembers n ts = some (l, r) → l ≠ [] ∧ ts = members l ++ r := by
  induction n with
  | zero => exact ⟨nofun, nofun, nofun⟩
  | succ n ih =>
      obtain ⟨ihv, ihe, ihm⟩ := ih
      refine ⟨fun {ts v r} h => ?_, fun {ts l r} h => ?_, fun {ts l r} h => ?_⟩
      · unfold readValue at h
        split at h
        case h_1 | h_7 => cases h
        case h_2 | h_3 | h_5 =>
          cases h
          simp [Json.tokens, elements, members]
        case h_4 heq =>
          cases heq
          obtain ⟨q, hq, hv⟩ := Option.map_eq_some_iff.mp h
          cases hv
          rw [(ihe hq).2, Json.tokens, List.cons_append]
        case h_6 heq =>
          cases heq
          obtain ⟨q, hq, hv⟩ := Option.map_eq_some_iff.mp h
          cases hv
          rw [(ihm hq).2, Json.tokens, List.cons_append]
      · unfold readElements at h
        split at h
        · rename_i hv
          cases h
          refine ⟨List.cons_ne_nil _ _, ?_⟩
          rw [ihv hv, elements, List.append_assoc]
          rfl
        · rename_i hv
          obtain ⟨q, hq, hl⟩ := Option.map_eq_some_iff.mp h
          cases hl
          obtain ⟨hne, hts⟩ := ihe hq
          refine ⟨List.cons_ne_nil _ _, ?_⟩
          rw [ihv hv, hts, elements_cons _ hne, List.append_assoc]
          rfl
        · cases h
      · unfold readMembers at h
        split at h
        case h_1 | h_3 => cases h
        case h_2 heq =>
          cases heq
          split at h
          · rename_i hv
            cases h
            refine ⟨List.cons_ne_nil _ _, ?_⟩
            rw [ihv hv, members]
            simp
          · rename_i hv
            obtain ⟨q, hq, hl⟩ := Option.map_eq_some_iff.mp h
            cases hl
            obtain ⟨hne, hts⟩ := ihm hq
            refine ⟨List.cons_ne_nil _ _, ?_⟩
            rw [ihv hv, hts, members_cons _ _ hne]
            simp
          · cases h

/-- No value begins with a token that ends one. -/
theorem tokens_eq_cons (v : Json) :
    ∃ tok ts, v.tokens = tok :: ts ∧ tok ≠ .rbracket ∧ tok ≠ .rbrace := by
  cases v with
  | scalar s => exact ⟨.scalar s, [], by rw [Json.tokens], nofun, nofun⟩
  | arr l => exact ⟨.lbracket, elements l, by rw [Json.tokens], nofun, nofun⟩
  | obj l => exact ⟨.lbrace, members l, by rw [Json.tokens], nofun, nofun⟩

theorem elements_eq_cons (v : Json) (l : List Json) :
    ∃ tok ts, elements (v :: l) = tok :: ts ∧ tok ≠ .rbracket := by
  obtain ⟨tok, ts, hv, hne, -⟩ := tokens_eq_cons v
  cases l with
  | nil => exact ⟨tok, _, by rw [elements, hv]; rfl, hne⟩
  | cons w l => exact ⟨tok, _, by rw [elements, hv]; rfl, hne⟩

theorem readValue_elements (n : Nat) (v : Json) (l : List Json) (r : List Token) :
    readValue (n + 1) (.lbracket :: (elements (v :: l) ++ r)) =
      (readElements n (elements (v :: l) ++ r)).map (fun q => (.arr q.1, q.2)) := by
  obtain ⟨tok, ts, heq, hne⟩ := elements_eq_cons v l
  rw [heq, List.cons_append, readValue]
  rintro ts' hts
  cases hts
  exact hne rfl

theorem readValue_members (n : Nat) (m : List Char × Json) (l : List (List Char × Json))
    (r : List Token) :
    readValue (n + 1) (.lbrace :: (members (m :: l) ++ r)) =
      (readMembers n (members (m :: l) ++ r)).map (fun q => (.obj q.1, q.2)) := by
  obtain ⟨k, v⟩ := m
  have hhead : ∃ ts, members ((k, v) :: l) = .text k :: ts := by
    cases l with
    | nil => exact ⟨_, by rw [members]⟩
    | cons m l => exact ⟨_, by rw [members]⟩
  obtain ⟨ts, heq⟩ := hhead
  rw [heq, List.cons_append, readValue]
  rintro ts' hts
  cases hts

mutual

/-- The tokens of a value are read. -/
theorem readValue_tokens : ∀ (v : Json) (n : Nat) (r : List Token), v.tokens.length ≤ n →
    readValue n (v.tokens ++ r) = some (v, r)
  | .scalar s, n, r, h => by
      rw [Json.tokens, List.length_singleton] at h
      obtain ⟨n, rfl⟩ := Nat.exists_eq_succ_of_ne_zero (Nat.ne_of_gt h)
      rw [Json.tokens, List.singleton_append, readValue]
  | .arr [], n, r, h => by
      obtain ⟨n, rfl⟩ := Nat.exists_eq_succ_of_ne_zero (n := n) (by
        rintro rfl
        simp [Json.tokens] at h)
      simp [Json.tokens, elements, readValue]
  | .arr (v :: l), n, r, h => by
      rw [Json.tokens, List.length_cons] at h
      obtain ⟨n, rfl⟩ := Nat.exists_eq_succ_of_ne_zero (n := n) (by omega)
      rw [Json.tokens, List.cons_append, readValue_elements,
        readElements_elements v l n r (by omega)]
      rfl
  | .obj [], n, r, h => by
      obtain ⟨n, rfl⟩ := Nat.exists_eq_succ_of_ne_zero (n := n) (by
        rintro rfl
        simp [Json.tokens] at h)
      simp [Json.tokens, members, readValue]
  | .obj (m :: l), n, r, h => by
      rw [Json.tokens, List.length_cons] at h
      obtain ⟨n, rfl⟩ := Nat.exists_eq_succ_of_ne_zero (n := n) (by omega)
      rw [Json.tokens, List.cons_append, readValue_members,
        readMembers_members m l n r (by omega)]
      rfl

theorem readElements_elements : ∀ (v : Json) (l : List Json) (n : Nat) (r : List Token),
    (elements (v :: l)).length ≤ n →
      readElements n (elements (v :: l) ++ r) = some (v :: l, r)
  | v, [], n, r, h => by
      rw [elements, List.length_append, List.length_singleton] at h
      obtain ⟨n, rfl⟩ := Nat.exists_eq_succ_of_ne_zero (n := n) (by omega)
      rw [elements, List.append_assoc, readElements, readValue_tokens v n _ (by omega)]
      rfl
  | v, w :: l, n, r, h => by
      rw [elements, List.length_append, List.length_cons] at h
      obtain ⟨n, rfl⟩ := Nat.exists_eq_succ_of_ne_zero (n := n) (by omega)
      rw [elements, List.append_assoc, readElements, readValue_tokens v n _ (by omega)]
      simp only [List.cons_append]
      rw [readElements_elements w l n r (by omega)]
      rfl

theorem readMembers_members : ∀ (m : List Char × Json) (l : List (List Char × Json)) (n : Nat)
    (r : List Token), (members (m :: l)).length ≤ n →
      readMembers n (members (m :: l) ++ r) = some (m :: l, r)
  | (k, v), [], n, r, h => by
      simp only [members, List.length_append, List.length_cons, List.length_nil] at h
      obtain ⟨n, rfl⟩ := Nat.exists_eq_succ_of_ne_zero (n := n) (by omega)
      simp only [members, List.cons_append, List.append_assoc, readMembers]
      rw [readValue_tokens v n _ (by omega)]
      rfl
  | (k, v), m :: l, n, r, h => by
      simp only [members, List.length_append, List.length_cons] at h
      obtain ⟨n, rfl⟩ := Nat.exists_eq_succ_of_ne_zero (n := n) (by omega)
      simp only [members, List.cons_append, List.append_assoc, readMembers]
      rw [readValue_tokens v n _ (by omega)]
      dsimp only
      rw [readMembers_members m l n r (by omega)]
      rfl

end

/-- **A text has a value exactly when it has its tokens.** -/
theorem decode_eq_some_iff {t : List Char} {v : Json} :
    decode t = some v ↔ lex t = some v.tokens := by
  constructor
  · intro h
    obtain ⟨ts, hts, hv⟩ := Option.bind_eq_some_iff.mp h
    split at hv
    · rename_i w hread
      cases hv
      rw [hts, (read_sound _).1 hread, List.append_nil]
    · cases hv
  · intro h
    have hread := readValue_tokens v v.tokens.length [] (Nat.le_refl _)
    rw [List.append_nil] at hread
    rw [decode, h, Option.bind_some, hread]

end Read

end JsonText
