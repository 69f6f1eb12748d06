import Mathlib.Data.List.Basic

set_option autoImplicit false

/-! # Words of a shell command

The token recognition of the POSIX shell for a text that is one simple command: blanks, single
and double quotes, the backslash, comments. `words` gives the words of the command, after quote
removal. It gives `none` when the text is anything else: a control or redirection operator or a
newline outside quotes, a `$` or a backquote where the shell would expand it, a quote that is not
closed. What the shell does to the words afterwards (pathname expansion, the tilde) is not part
of it.

A program that pastes strings into a command pastes them bare or between double quotes; the last
section says exactly which strings survive that (`words_bare_quoted_iff`). The argument counts
bytes: a word of `n` bytes takes `n` bytes of text and one blank, and every quote, backslash and
further blank is a byte lost (`size_le`).
-/

namespace ShellLex

abbrev Byte := UInt8
abbrev Word := List Byte

/-! ## The tokeniser -/

/-- What a byte is to the shell; `expand` is `$` and the backquote. -/
inductive Kind
  | blank | newline | operator | squote | dquote | backslash | expand | comment | plain
  deriving DecidableEq

/-- Space and tab; `\n`; `;`, `&`, `|`, `<`, `>`, `(` and `)`; the quotes; `\`; `$` and the
backquote; `#`. -/
def kind (c : Byte) : Kind :=
  if c = 32 ∨ c = 9 then .blank
  else if c = 10 then .newline
  else if c = 59 ∨ c = 38 ∨ c = 124 ∨ c = 60 ∨ c = 62 ∨ c = 40 ∨ c = 41 then .operator
  else if c = 39 then .squote
  else if c = 34 then .dquote
  else if c = 92 then .backslash
  else if c = 36 ∨ c = 96 then .expand
  else if c = 35 then .comment
  else .plain

/-- Where the tokeniser stands: between words, in a word, after a backslash (in a word or not),
in single quotes, in double quotes, after a backslash in these, in a comment. -/
inductive Mode
  | gap | bare | esc (inWord : Bool) | single | double | doubleEsc | comment
  deriving DecidableEq

/-- One byte: the words it completes, and mode and word after it. -/
def step (m : Mode) (w : Word) (c : Byte) : Option (List Word × Mode × Word) :=
  match m with
  | .gap =>
      match kind c with
      | .blank => some ([], .gap, [])
      | .newline | .operator | .expand => none
      | .squote => some ([], .single, [])
      | .dquote => some ([], .double, [])
      | .backslash => some ([], .esc false, [])
      | .comment => some ([], .comment, [])
      | .plain => some ([], .bare, [c])
  | .bare =>
      match kind c with
      | .blank => some ([w], .gap, [])
      | .newline | .operator | .expand => none
      | .squote => some ([], .single, w)
      | .dquote => some ([], .double, w)
      | .backslash => some ([], .esc true, w)
      | .comment | .plain => some ([], .bare, w ++ [c])
  | .esc inWord =>
      match kind c with
      | .newline => some ([], if inWord then .bare else .gap, w)
      | _ => some ([], .bare, w ++ [c])
  | .single =>
      match kind c with
      | .squote => some ([], .bare, w)
      | _ => some ([], .single, w ++ [c])
  | .double =>
      match kind c with
      | .dquote => some ([], .bare, w)
      | .backslash => some ([], .doubleEsc, w)
      | .expand => none
      | _ => some ([], .double, w ++ [c])
  | .doubleEsc =>
      match kind c with
      | .newline => some ([], .double, w)
      | .dquote | .backslash | .expand => some ([], .double, w ++ [c])
      | _ => some ([], .double, w ++ [92, c])
  | .comment =>
      match kind c with
      | .newline => none
      | _ => some ([], .comment, w)

/-- The end of the text. -/
def finish (m : Mode) (w : Word) : Option (List Word) :=
  match m with
  | .gap | .comment => some []
  | .bare => some [w]
  | .esc _ | .single | .double | .doubleEsc => none

/-- The words from a mode on. -/
def wordsFrom (m : Mode) (w : Word) : List Byte → Option (List Word)
  | [] => finish m w
  | c :: cs =>
      match step m w c with
      | none => none
      | some (out, m', w') => (wordsFrom m' w' cs).map (out ++ ·)

/-- **The words of a simple command**, `none` when the text is something else. -/
def words (text : List Byte) : Option (List Word) := wordsFrom .gap [] text

theorem wordsFrom_cons {m m' : Mode} {w w' : Word} {c : Byte} {out : List Word}
    (h : step m w c = some (out, m', w')) (cs : List Byte) :
    wordsFrom m w (c :: cs) = (wordsFrom m' w' cs).map (out ++ ·) := by
  rw [wordsFrom, h]

/-- A byte that completes no word. -/
theorem wordsFrom_cons_nil {m m' : Mode} {w w' : Word} {c : Byte}
    (h : step m w c = some ([], m', w')) (cs : List Byte) :
    wordsFrom m w (c :: cs) = wordsFrom m' w' cs := by
  rw [wordsFrom_cons h]
  simp

theorem wordsFrom_cons_none {m : Mode} {w : Word} {c : Byte} (h : step m w c = none)
    (cs : List Byte) : wordsFrom m w (c :: cs) = none := by
  rw [wordsFrom, h]

/-- A text that is read to its end goes on from its first byte. -/
theorem exists_step {m : Mode} {w : Word} {c : Byte} {cs : List Byte} {ws : List Word}
    (h : wordsFrom m w (c :: cs) = some ws) : ∃ out m' w' ws', step m w c = some (out, m', w') ∧
      wordsFrom m' w' cs = some ws' ∧ ws = out ++ ws' := by
  cases hs : step m w c with
  | none =>
      rw [wordsFrom_cons_none hs] at h
      cases h
  | some r =>
      obtain ⟨out, m', w'⟩ := r
      rw [wordsFrom_cons hs, Option.map_eq_some_iff] at h
      obtain ⟨ws', hws, rfl⟩ := h
      exact ⟨out, m', w', ws', rfl, hws, rfl⟩

/-! ## Strings that stand for themselves -/

/-- The byte is itself within an unquoted word. -/
def isBare (c : Byte) : Bool := kind c == .plain || kind c == .comment

/-- The string is itself as an unquoted word. -/
def Bare (x : Word) : Prop :=
  x ≠ [] ∧ x.head?.map kind ≠ some .comment ∧ ∀ c ∈ x, isBare c = true

/-- After a backslash in double quotes the byte is taken as it is, backslash and all. -/
def keepsBackslash (c : Byte) : Bool :=
  kind c != .newline && kind c != .dquote && kind c != .backslash && kind c != .expand

/-- The string is itself between double quotes: no double quote and nothing to expand, and every
backslash is followed by a byte that keeps it; the last byte is followed by the quote. -/
def quotable : List Byte → Bool
  | [] => true
  | c :: cs =>
      match kind c with
      | .dquote | .expand => false
      | .backslash =>
          match cs with
          | [] => false
          | d :: _ => keepsBackslash d && quotable cs
      | _ => quotable cs

theorem step_bare {w : Word} {c : Byte} (h : isBare c = true) :
    step .bare w c = some ([], .bare, w ++ [c]) := by
  cases hk : kind c <;> simp [isBare, hk] at h <;> simp [step, hk]

/-- Bytes of an unquoted word. -/
theorem wordsFrom_bare {x : Word} (h : ∀ c ∈ x, isBare c = true) (w : Word) (cs : List Byte) :
    wordsFrom .bare w (x ++ cs) = wordsFrom .bare (w ++ x) cs := by
  induction x generalizing w with
  | nil => simp
  | cons c x ih =>
      have hc := h c (by simp)
      rw [List.cons_append, wordsFrom_cons_nil (step_bare hc), ih (fun d hd => h d (by simp [hd]))]
      simp

/-- An unquoted word, from its first byte on. -/
theorem wordsFrom_gap_bare {x : Word} (h : Bare x) (cs : List Byte) :
    wordsFrom .gap [] (x ++ cs) = wordsFrom .bare x cs := by
  obtain ⟨hne, hhead, hx⟩ := h
  cases x with
  | nil => exact absurd rfl hne
  | cons c x =>
      have hc : kind c = .plain := by
        have hbare := hx c (by simp)
        simp only [List.head?_cons, Option.map_some, ne_eq, Option.some.injEq] at hhead
        simpa [isBare, hhead] using hbare
      have hstep : step .gap [] c = some ([], .bare, [c]) := by simp [step, hc]
      rw [List.cons_append, wordsFrom_cons_nil hstep,
        wordsFrom_bare (fun d hd => hx d (by simp [hd]))]
      rfl

/-- An unquoted word alone. -/
theorem words_bare {x : Word} (h : Bare x) : words x = some [x] := by
  have hgap := wordsFrom_gap_bare h []
  rw [List.append_nil] at hgap
  rw [words, hgap]
  rfl

/-- The blank after an unquoted word completes it. -/
theorem words_bare_blank {x : Word} (h : Bare x) (cs : List Byte) :
    words (x ++ 32 :: cs) = (words cs).map ([x] ++ ·) := by
  have hstep : step .bare x 32 = some ([x], .gap, []) := rfl
  rw [words, wordsFrom_gap_bare h, wordsFrom_cons hstep]
  rfl

/-- A blank between words. -/
theorem words_blank (cs : List Byte) : words (32 :: cs) = words cs := by
  have hstep : step .gap [] 32 = some ([], .gap, []) := rfl
  rw [words, wordsFrom_cons_nil hstep]
  rfl

/-- Only the backslash is one. -/
theorem eq_of_kind_backslash {c : Byte} (h : kind c = .backslash) : c = 92 := by
  unfold kind at h
  split_ifs at h
  assumption

/-- A backslash that is kept is as good as any other byte. -/
theorem wordsFrom_doubleEsc {d : Byte} (h : keepsBackslash d = true) (w : Word)
    (cs : List Byte) :
    wordsFrom .doubleEsc w (d :: cs) = wordsFrom .double (w ++ [92]) (d :: cs) := by
  have hesc : step .doubleEsc w d = some ([], .double, w ++ [92, d]) := by
    cases hk : kind d <;> simp [keepsBackslash, hk] at h <;> simp [step, hk]
  have hdouble : step .double (w ++ [92]) d = some ([], .double, w ++ [92, d]) := by
    cases hk : kind d <;> simp [keepsBackslash, hk] at h <;> simp [step, hk]
  rw [wordsFrom_cons_nil hesc, wordsFrom_cons_nil hdouble]

/-- A byte between double quotes that is neither a quote nor a backslash nor expanded. -/
theorem step_double {c : Byte} (hq : kind c ≠ .dquote) (hb : kind c ≠ .backslash)
    (he : kind c ≠ .expand) (w : Word) : step .double w c = some ([], .double, w ++ [c]) := by
  cases hk : kind c <;> simp [hk] at hq hb he <;> simp [step, hk]

/-- A quotable string up to its closing quote. -/
theorem wordsFrom_double {y : Word} (h : quotable y = true) (w : Word) (cs : List Byte) :
    wordsFrom .double w (y ++ 34 :: cs) = wordsFrom .bare (w ++ y) cs := by
  induction y generalizing w with
  | nil =>
      have hstep : step .double w 34 = some ([], .bare, w) := rfl
      rw [List.nil_append, wordsFrom_cons_nil hstep, List.append_nil]
  | cons c y ih =>
      rw [List.cons_append]
      by_cases hb : kind c = .backslash
      · obtain rfl := eq_of_kind_backslash hb
        have hstep : step .double w 92 = some ([], .doubleEsc, w) := rfl
        cases y with
        | nil => simp [quotable, hb] at h
        | cons d y =>
            simp only [quotable, hb, Bool.and_eq_true] at h
            rw [wordsFrom_cons_nil hstep, List.cons_append, wordsFrom_doubleEsc h.1,
              ← List.cons_append, ih h.2]
            simp
      · have hq : kind c ≠ .dquote := by
          intro hk
          simp [quotable, hk] at h
        have he : kind c ≠ .expand := by
          intro hk
          simp [quotable, hk] at h
        have hy : quotable y = true := by
          cases hk : kind c <;> simp_all [quotable]
        rw [wordsFrom_cons_nil (step_double hq hb he w), ih hy]
        simp

/-- A bare string and a string between double quotes, as a program pastes them. -/
theorem words_bare_quoted {x y : Word} (hx : Bare x) (hy : quotable y = true) :
    words (x ++ 32 :: 34 :: (y ++ [34, 32])) = some [x, y] := by
  have hopen : step .gap [] 34 = some ([], .double, []) := rfl
  have hclose : wordsFrom .bare ([] ++ y) [32] = some [y] := rfl
  rw [words_bare_blank hx, words, wordsFrom_cons_nil hopen, wordsFrom_double hy, hclose]
  rfl

/-! ## Counting the bytes lost -/

/-- The bytes a list of words stands for, with a blank for each word. -/
def size : List Word → Nat
  | [] => 0
  | w :: ws => w.length + 1 + size ws

theorem size_append (ws ws' : List Word) : size (ws ++ ws') = size ws + size ws' := by
  induction ws with
  | nil => simp [size]
  | cons w ws ih =>
      rw [List.cons_append, size, size, ih]
      omega

/-- The bytes already read that the words still to come may show. -/
def credit : Mode → Word → Nat
  | .gap, _ | .comment, _ => 0
  | .doubleEsc, w => w.length + 1
  | _, w => w.length

/-- What is lost at least before a text that ends in a double quote and a blank is over: in
single quotes the closing quote and the double quote after it; after a backslash, perhaps
nothing. -/
def need : Mode → Nat
  | .single => 2
  | .esc _ => 0
  | _ => 1

/-- **A step shows no more bytes than it reads**, and fewer by what it takes off `need`. -/
theorem step_size {m m' : Mode} {w w' : Word} {c : Byte} {out : List Word}
    (h : step m w c = some (out, m', w')) :
    size out + credit m' w' ≤ credit m w + 1 ∧
      size out + credit m' w' + need m ≤ credit m w + 1 + need m' := by
  rcases m with _ | _ | (_ | _) | _ | _ | _ | _
  -- in each mode and for each kind of byte the step is one branch of `step`, or none
  all_goals
    cases hk : kind c <;> simp only [step, hk, Option.some.injEq, Prod.mk.injEq, reduceCtorEq] at h
  all_goals
    obtain ⟨rfl, rfl, rfl⟩ := h
    simp only [size, credit, need, List.length_append, List.length_cons, List.length_nil, if_true,
      if_false]
    omega

/-- Bytes up to the closing double quote and the blank after it. -/
theorem size_quoted {m : Mode} {w y : Word} {ws : List Word}
    (h : wordsFrom m w (y ++ [34, 32]) = some ws) :
    size ws + need m ≤ credit m w + (y.length + 2) := by
  induction y generalizing m w ws with
  | nil =>
      -- only the modes in which the quote closes, or is taken as it is, come to an end
      rcases m with _ | _ | (_ | _) | _ | _ | _ | _
      all_goals simp [wordsFrom, step, kind, finish] at h
      all_goals
        subst h
        simp [size, credit, need]
  | cons c y ih =>
      rw [List.cons_append] at h
      obtain ⟨out, m', w', ws', hs, hws, rfl⟩ := exists_step h
      have hstep := (step_size hs).2
      have hrest := ih hws
      rw [size_append, List.length_cons]
      omega

/-- Bytes up to an opening double quote, what it quotes, and the blank after it: two are lost. -/
theorem size_bare_quoted {m : Mode} {w x y : Word} {ws : List Word}
    (h : wordsFrom m w (x ++ 32 :: 34 :: (y ++ [34, 32])) = some ws) :
    size ws + 2 ≤ credit m w + (x.length + y.length + 4) := by
  induction x generalizing m w ws with
  | nil =>
      cases m with
      | bare =>
          -- the blank completes the word `w`
          simp [wordsFrom, step, kind] at h
          obtain ⟨ws', hws, rfl⟩ := h
          have hrest := size_quoted hws
          simp only [credit, need, List.length_nil] at hrest
          simp only [size, credit, List.length_nil] at hrest ⊢
          omega
      | gap | esc _ | single | double | doubleEsc | comment =>
          simp [wordsFrom, step, kind] at h
          have hrest := size_quoted h
          simp only [credit, need, List.length_append, List.length_cons, List.length_nil]
            at hrest ⊢
          omega
  | cons c x ih =>
      rw [List.cons_append] at h
      obtain ⟨out, m', w', ws', hs, hws, rfl⟩ := exists_step h
      have hstep := (step_size hs).1
      have hrest := ih hws
      rw [size_append, List.length_cons]
      omega

/-- **The words show no more bytes than the text has.** -/
theorem size_le {m : Mode} {w : Word} {cs : List Byte} {ws : List Word}
    (h : wordsFrom m w cs = some ws) : size ws ≤ credit m w + cs.length + 1 := by
  induction cs generalizing m w ws with
  | nil =>
      cases m <;> simp only [wordsFrom, finish, Option.some.injEq, reduceCtorEq] at h
      all_goals
        subst h
        simp [size, credit]
  | cons c cs ih =>
      obtain ⟨out, m', w', ws', hs, hws, rfl⟩ := exists_step h
      have hstep := (step_size hs).1
      have hrest := ih hws
      rw [size_append, List.length_cons]
      omega

/-! ## Which strings survive -/

/-- A word that is read to the end of `x` consists of bare bytes. -/
theorem bare_of_wordsFrom {p x y : Word}
    (h : wordsFrom .bare p (x ++ 32 :: 34 :: (y ++ [34, 32])) = some [p ++ x, y]) :
    ∀ c ∈ x, isBare c = true := by
  induction x generalizing p with
  | nil => simp
  | cons c x ih =>
      rw [List.cons_append] at h
      obtain ⟨out, m, w, ws, hs, hws, heq⟩ := exists_step h
      have hsize := size_bare_quoted hws
      cases hk : kind c with
      | comment | plain =>
          have hc : isBare c = true := by simp [isBare, hk]
          rw [step_bare hc, Option.some.injEq, Prod.mk.injEq, Prod.mk.injEq] at hs
          obtain ⟨rfl, rfl, rfl⟩ := hs
          have hnext : wordsFrom .bare (p ++ [c]) (x ++ 32 :: 34 :: (y ++ [34, 32])) =
              some [p ++ [c] ++ x, y] := by
            rw [hws, ← List.nil_append ws, ← heq]
            simp
          simpa [hc] using ih hnext
      | blank =>
          -- the word would end at `p`
          simp only [step, hk, Option.some.injEq, Prod.mk.injEq] at hs
          obtain ⟨rfl, rfl, rfl⟩ := hs
          simp at heq
      | squote | dquote | backslash =>
          -- one byte more than the text has would have to be lost
          simp only [step, hk, Option.some.injEq, Prod.mk.injEq] at hs
          obtain ⟨rfl, rfl, rfl⟩ := hs
          rw [List.nil_append] at heq
          subst heq
          simp only [size, credit, List.length_append, List.length_cons] at hsize
          omega
      | newline | operator | expand => simp [step, hk] at hs

/-- A backslash that is not kept is a byte the word does not get. -/
theorem wordsFrom_doubleEsc_lost {d : Byte} (hd : keepsBackslash d = false) (p y : Word) :
    wordsFrom .doubleEsc p (d :: (y ++ [34, 32])) ≠ some [p ++ 92 :: d :: y] := by
  intro h
  cases hs : step .doubleEsc p d with
  | none => simp [wordsFrom_cons_none hs] at h
  | some r =>
      obtain ⟨out, m, w⟩ := r
      have hlost : out = [] ∧ credit m w ≤ p.length + 1 ∧ need m = 1 := by
        cases hkd : kind d <;> simp [keepsBackslash, hkd] at hd <;>
          simp only [step, hkd, Option.some.injEq, Prod.mk.injEq] at hs <;>
          obtain ⟨rfl, rfl, rfl⟩ := hs <;> simp [credit, need]
      obtain ⟨rfl, hcredit, hneed⟩ := hlost
      rw [wordsFrom_cons_nil hs] at h
      have hsize := size_quoted h
      simp only [size, hneed, List.length_append, List.length_cons] at hsize
      omega

/-- A word between double quotes that is read to its end is quotable. -/
theorem quotable_of_wordsFrom {p y : Word}
    (h : wordsFrom .double p (y ++ [34, 32]) = some [p ++ y]) : quotable y = true := by
  induction y generalizing p with
  | nil => rfl
  | cons c y ih =>
      rw [List.cons_append] at h
      cases hk : kind c with
      | dquote =>
          have hs : step .double p c = some ([], .bare, p) := by simp [step, hk]
          rw [wordsFrom_cons_nil hs] at h
          have hsize := size_quoted h
          simp [size, credit, need] at hsize
          omega
      | expand =>
          have hs : step .double p c = none := by simp [step, hk]
          simp [wordsFrom_cons_none hs] at h
      | backslash =>
          obtain rfl := eq_of_kind_backslash hk
          have hs : step .double p 92 = some ([], .doubleEsc, p) := rfl
          rw [wordsFrom_cons_nil hs] at h
          cases y with
          | nil => simp [wordsFrom, step, kind, finish] at h
          | cons d y =>
              cases hd : keepsBackslash d with
              | true =>
                  rw [List.cons_append, wordsFrom_doubleEsc hd, ← List.cons_append] at h
                  have hrest := ih (p := p ++ [92]) (by simpa using h)
                  rw [quotable, hk]
                  simp only [hd, hrest, Bool.and_self]
              | false =>
                  rw [List.cons_append] at h
                  exact absurd h (wordsFrom_doubleEsc_lost hd p y)
      | blank | newline | operator | squote | comment | plain =>
          have hs : step .double p c = some ([], .double, p ++ [c]) :=
            step_double (by simp [hk]) (by simp [hk]) (by simp [hk]) p
          rw [wordsFrom_cons_nil hs] at h
          have hy := ih (p := p ++ [c]) (by simpa using h)
          simp [quotable, hk, hy]

/-- An unquoted string that comes back as the first of two words is bare. -/
theorem bare_of_words {x y : Word}
    (h : words (x ++ 32 :: 34 :: (y ++ [34, 32])) = some [x, y]) : Bare x := by
  cases x with
  | nil =>
      -- the empty string is no word
      have hopen : wordsFrom .double [] (y ++ [34, 32]) = some [[], y] := by
        simpa [words, wordsFrom, step, kind] using h
      have hsize := size_quoted hopen
      simp only [size, credit, need, List.length_nil] at hsize
      omega
  | cons c x =>
      rw [words, List.cons_append] at h
      cases hk : kind c with
      | plain =>
          have hs : step .gap [] c = some ([], .bare, [c]) := by simp [step, hk]
          rw [wordsFrom_cons_nil hs] at h
          have hbare := bare_of_wordsFrom (p := [c]) h
          refine ⟨by simp, by simp [hk], ?_⟩
          simpa [isBare, hk] using hbare
      | blank | squote | dquote | backslash | comment =>
          -- a byte is lost that the two words need
          cases hs : step .gap [] c with
          | none => simp [wordsFrom_cons_none hs] at h
          | some r =>
              obtain ⟨out, m, w⟩ := r
              have hlost : out = [] ∧ credit m w = 0 := by
                simp only [step, hk, Option.some.injEq, Prod.mk.injEq] at hs
                obtain ⟨rfl, rfl, rfl⟩ := hs
                exact ⟨rfl, rfl⟩
              obtain ⟨rfl, hcredit⟩ := hlost
              rw [wordsFrom_cons_nil hs] at h
              have hsize := size_bare_quoted h
              simp only [size, hcredit, List.length_cons] at hsize
              omega
      | newline | operator | expand =>
          have hs : step .gap [] c = none := by simp [step, hk]
          simp [wordsFrom_cons_none hs] at h

/-- **Pasting `x` bare and `y` between double quotes gives the words `x` and `y` exactly when
`x` is bare and `y` quotable.** -/
theorem words_bare_quoted_iff (x y : Word) :
    words (x ++ 32 :: 34 :: (y ++ [34, 32])) = some [x, y] ↔ Bare x ∧ quotable y = true := by
  constructor
  · intro h
    have hx : Bare x := bare_of_words h
    refine ⟨hx, ?_⟩
    rw [words_bare_blank hx, Option.map_eq_some_iff] at h
    obtain ⟨ws, hws, heq⟩ := h
    obtain rfl : ws = [y] := by simpa using heq
    have hopen : wordsFrom .double [] (y ++ [34, 32]) = some [[] ++ y] := by
      simpa [words, wordsFrom, step, kind] using hws
    exact quotable_of_wordsFrom hopen
  · rintro ⟨hx, hy⟩
    exact words_bare_quoted hx hy

/-- The end of a word that comes back as it is consists of bare bytes. -/
theorem bare_of_wordsFrom_end {p x : Word} (h : wordsFrom .bare p x = some [p ++ x]) :
    ∀ c ∈ x, isBare c = true := by
  induction x generalizing p with
  | nil => simp
  | cons c x ih =>
      cases hk : kind c with
      | comment | plain =>
          have hc : isBare c = true := by simp [isBare, hk]
          rw [wordsFrom_cons_nil (step_bare hc)] at h
          have hrest := ih (p := p ++ [c]) (by simpa using h)
          exact List.forall_mem_cons.mpr ⟨hc, hrest⟩
      | blank =>
          -- the word would end at `p`
          have hs : step .bare p c = some ([p], .gap, []) := by simp [step, hk]
          rw [wordsFrom_cons hs, Option.map_eq_some_iff] at h
          obtain ⟨ws, -, heq⟩ := h
          simp at heq
      | squote | dquote | backslash =>
          -- a byte is lost
          cases hs : step .bare p c with
          | none => simp [wordsFrom_cons_none hs] at h
          | some r =>
              obtain ⟨out, m, w⟩ := r
              have hlost : out = [] ∧ credit m w = p.length := by
                simp only [step, hk, Option.some.injEq, Prod.mk.injEq] at hs
                obtain ⟨rfl, rfl, rfl⟩ := hs
                exact ⟨rfl, rfl⟩
              obtain ⟨rfl, hcredit⟩ := hlost
              rw [wordsFrom_cons_nil hs] at h
              have hsize := size_le h
              simp only [size, hcredit, List.length_append, List.length_cons] at hsize
              omega
      | newline | operator | expand =>
          have hs : step .bare p c = none := by simp [step, hk]
          simp [wordsFrom_cons_none hs] at h

/-- **Pasting `x` behind the start of a word gives the whole word exactly when the bytes of `x` are
bare.** -/
theorem words_glued_iff {p : Word} (hp : Bare p) (x : Word) :
    words (p ++ x) = some [p ++ x] ↔ ∀ c ∈ x, isBare c = true := by
  rw [words, wordsFrom_gap_bare hp]
  constructor
  · exact bare_of_wordsFrom_end
  · intro h
    have hbare := wordsFrom_bare h p []
    rw [List.append_nil] at hbare
    rw [hbare]
    rfl

end ShellLex
