import TfPack.Lib.JsonText

set_option autoImplicit false

/-! # Arrays of objects as texts

A program can write an array of objects by pasting the objects one after the other, commas between
them, whatever the strings in them hold. A string that ends too early, or not at all, can then spoil
the text or go on into the next object. Behind each object, though, the scanner stands between
tokens or the text does not end, so every object that is pasted gives one at least, and an array with
no more objects than that is the one that is meant exactly when each object is
(`decode_joined_iff`).
-/

namespace JsonText

/-! ## Elements one after the other -/

section Joined

variable {m m' : Mode} {s t x : List Char} {xs : List (List Char)} {T C : List Token}
  {Ts Us : List (List Token)}

/-- The elements of an array as texts, with commas and the bracket behind them. -/
def joined : List (List Char) → List Char
  | [] => [']']
  | [x] => x ++ [']']
  | x :: y :: xs => x ++ ',' :: joined (y :: xs)

/-- What follows an element. -/
def behind : List (List Token) → List Token
  | [] => [.rbracket]
  | T :: Ts => .comma :: (T ++ behind Ts)

theorem elements_cons_eq (v : Json) (l : List Json) :
    elements (v :: l) = v.tokens ++ behind (l.map Json.tokens) := by
  induction l generalizing v with
  | nil => rw [elements, List.map_nil, behind]
  | cons w l ih => rw [elements, ih, List.map_cons, behind]

/-- **Elements that are scanned one by one make the array.** -/
theorem scan_joined (f : List Char → List Token) (x : List Char) (xs : List (List Char))
    (h : ∀ y ∈ x :: xs, scan .plain y = some (f y, .plain)) :
    scan .plain (joined (x :: xs)) = some (f x ++ behind (xs.map f), .plain) := by
  have hcomma : scan .plain [','] = some ([.comma], .plain) := rfl
  have hclose : scan .plain [']'] = some ([.rbracket], .plain) := rfl
  induction xs generalizing x with
  | nil =>
      rw [joined, scan_append_some (h x List.mem_cons_self), hclose]
      rfl
  | cons y xs ih =>
      obtain ⟨hx, hxs⟩ := List.forall_mem_cons.mp h
      rw [joined, scan_append_some hx, ← List.singleton_append, scan_append_some hcomma, ih y hxs]
      rfl

/-- An object with string members, as a text: it is closed by a quote and a brace, and its first
key can stand nowhere but in a string. -/
structure IsItem (x : List Char) : Prop where
  closes : ∃ y, x = y ++ ['"', '}']
  opens : ∃ k z, x = '{' :: '"' :: (k ++ '"' :: z) ∧ scan .plain (k ++ ['"']) = none

/-- The scanner gets through a text to its end. -/
def Ends (m : Mode) (t : List Char) : Prop :=
  ∃ r, scan m t = some r ∧ finish r.2 ≠ none

theorem exists_of_ends (h : Ends m (s ++ t)) : ∃ T m', scan m s = some (T, m') ∧ Ends m' t := by
  obtain ⟨r, hr, hend⟩ := h
  rw [scan_append] at hr
  obtain ⟨⟨T, m'⟩, hs, ht⟩ := Option.bind_eq_some_iff.mp hr
  obtain ⟨q, hq, rfl⟩ := Option.map_eq_some_iff.mp ht
  exact ⟨T, m', hs, q, hq, hend⟩

/-- Behind a quote and a brace the scanner stands between tokens, or the quote has opened a
string. -/
theorem scan_quote_brace (h : scan m ['"', '}'] = some (T, m')) :
    m' = .plain ∨ ∃ s, m' = .text s := by
  have hopened : scan .plain ['"', '}'] = some ([], .text ['}']) := rfl
  cases m with
  | plain =>
      rw [hopened] at h
      cases h
      exact .inr ⟨_, rfl⟩
  | word w =>
      cases hw : wordToken w with
      | none => simp [scan, step, isWordChar, hw] at h
      | some tok =>
          simp [scan, step, isWordChar, start, isBlank, hw] at h
          exact .inr ⟨_, h.2.symm⟩
  | text s =>
      cases hs : unescape s with
      | none => simp [scan, step, hs] at h
      | some u =>
          simp [scan, step, hs, start, isBlank, isWordChar, punctuation] at h
          exact .inl h.2.symm
  | esc s =>
      simp [scan, step] at h
      exact .inr ⟨_, h.2.symm⟩

/-- Inside a string the next object does not end. -/
theorem not_ends_item (hx : IsItem x) (s t : List Char) : ¬Ends (.text s) (',' :: (x ++ t)) := by
  obtain ⟨k, z, rfl, hk⟩ := hx.opens
  intro h
  have hopen : scan (.text s) [',', '{'] = some ([], .text (s ++ [',', '{'])) := by
    simp [scan, step]
  obtain ⟨T, m', hm, h⟩ := exists_of_ends (s := [',', '{']) h
  rw [hopen] at hm
  cases hm
  obtain ⟨T, m', hm, h⟩ := exists_of_ends (s := ['"']) h
  have hplain : m' = .plain := by
    cases hu : unescape (s ++ [',', '{']) with
    | none => simp [scan, step, hu] at hm
    | some u =>
        simp [scan, step, hu] at hm
        exact hm.2.symm
  subst hplain
  obtain ⟨T, m', hm, -⟩ := exists_of_ends (s := k ++ ['"']) (t := z ++ t) (by simpa using h)
  rw [hk] at hm
  cases hm

/-- Behind an object the scanner stands between tokens or in a string. -/
theorem exists_of_ends_item (hx : IsItem x) (h : Ends .plain (x ++ t)) :
    ∃ T m', scan .plain x = some (T, m') ∧ Ends m' t ∧ (m' = .plain ∨ ∃ s, m' = .text s) := by
  obtain ⟨T, m', hT, h⟩ := exists_of_ends h
  refine ⟨T, m', hT, h, ?_⟩
  obtain ⟨y, rfl⟩ := hx.closes
  rw [scan_append] at hT
  obtain ⟨r, -, hr⟩ := Option.bind_eq_some_iff.mp hT
  obtain ⟨q, hq, heq⟩ := Option.map_eq_some_iff.mp hr
  cases heq
  exact scan_quote_brace hq

theorem joined_eq_append (y : List Char) (xs : List (List Char)) :
    ∃ t, joined (y :: xs) = y ++ t := by
  cases xs with
  | nil => exact ⟨_, rfl⟩
  | cons z xs => exact ⟨_, rfl⟩

/-- **Where an array put together is scanned, each element is scanned alone.** -/
theorem exists_scan_of_ends (hxs : ∀ y ∈ x :: xs, IsItem y)
    (h : Ends .plain (joined (x :: xs))) :
    ∀ y ∈ x :: xs, ∃ T, scan .plain y = some (T, .plain) := by
  induction xs generalizing x with
  | nil =>
      rw [List.forall_mem_singleton] at hxs ⊢
      obtain ⟨T, m', hT, ⟨r, hr, hend⟩, rfl | ⟨s, rfl⟩⟩ := exists_of_ends_item hxs h
      · exact ⟨T, hT⟩
      · simp [scan, step] at hr
        subst hr
        exact absurd rfl hend
  | cons y xs ih =>
      obtain ⟨hx, hxs⟩ := List.forall_mem_cons.mp hxs
      obtain ⟨T, m', hT, h, rfl | ⟨s, rfl⟩⟩ := exists_of_ends_item hx h
      · obtain ⟨U, m', hU, h⟩ := exists_of_ends (s := [',']) h
        cases hU
        exact List.forall_mem_cons.mpr ⟨⟨T, hT⟩, ih hxs h⟩
      · obtain ⟨t, ht⟩ := joined_eq_append y xs
        rw [ht] at h
        exact absurd h (not_ends_item (hxs y List.mem_cons_self) s t)

/-! ## Which elements there are -/

/-- The tokens of an object without objects in it. -/
def Flat (T : List Token) : Prop := ∃ B, T = .lbrace :: B ∧ .lbrace ∉ B

theorem count_behind_flat (h : ∀ T ∈ Ts, Flat T) : (behind Ts).count .lbrace = Ts.length := by
  induction Ts with
  | nil => rfl
  | cons T Ts ih =>
      obtain ⟨⟨B, rfl, hB⟩, hTs⟩ := List.forall_mem_cons.mp h
      simp [behind, ih hTs, List.count_eq_zero_of_not_mem hB]

theorem length_le_count_behind (h : ∀ T ∈ Ts, T.head? = some .lbrace) :
    Ts.length ≤ (behind Ts).count .lbrace := by
  induction Ts with
  | nil => exact Nat.zero_le _
  | cons T Ts ih =>
      obtain ⟨hT, hTs⟩ := List.forall_mem_cons.mp h
      obtain ⟨B, rfl⟩ := List.head?_eq_some_iff.mp hT
      have hle := ih hTs
      simp [behind]
      omega

theorem exists_behind (Us : List (List Token)) : ∃ tok B, behind Us = tok :: B ∧ tok ≠ .lbrace := by
  cases Us with
  | nil => exact ⟨_, _, rfl, nofun⟩
  | cons U Us => exact ⟨_, _, rfl, nofun⟩

/-- What separates two elements is one token. -/
theorem eq_nil_of_behind (hTs : ∀ T ∈ Ts, T.head? = some .lbrace) (hC : .lbrace ∉ C)
    (h : behind Ts = C ++ behind Us) : C = [] := by
  obtain ⟨tok, B, hUs, htok⟩ := exists_behind Us
  rw [hUs] at h
  cases C with
  | nil => rfl
  | cons c C =>
      cases Ts with
      | nil => simp [behind] at h
      | cons T Ts =>
          obtain ⟨A, rfl⟩ := List.head?_eq_some_iff.mp (hTs T List.mem_cons_self)
          rw [behind, List.cons_append, List.cons_append, List.cons.injEq] at h
          cases C with
          | nil =>
              rw [List.nil_append, List.cons.injEq] at h
              exact absurd h.2.1.symm htok
          | cons d C =>
              rw [List.cons_append, List.cons.injEq] at h
              exact absurd (h.2.1 ▸ List.mem_cons_of_mem c List.mem_cons_self) hC

theorem Flat.head? {U : List Token} (h : Flat U) : U.head? = some .lbrace := by
  obtain ⟨B, rfl, -⟩ := h
  rfl

/-- **The elements of an array of flat objects can be told from its tokens**, if there are no more
of them than objects that have been put together. -/
theorem behind_inj (hTs : ∀ T ∈ Ts, T.head? = some .lbrace) (hUs : ∀ U ∈ Us, Flat U)
    (hle : Us.length ≤ Ts.length) (h : behind Ts = behind Us) : Ts = Us := by
  induction Us generalizing Ts with
  | nil =>
      cases Ts with
      | nil => rfl
      | cons T Ts => cases h
  | cons U Us ih =>
      cases Ts with
      | nil => cases h
      | cons T Ts =>
          obtain ⟨hT, hTs'⟩ := List.forall_mem_cons.mp hTs
          obtain ⟨hU, hUs'⟩ := List.forall_mem_cons.mp hUs
          have hlen : Us.length ≤ Ts.length := Nat.le_of_succ_le_succ hle
          have hrest : T ++ behind Ts = U ++ behind Us := (List.cons.inj h).2
          have hsame : T = U := by
            obtain ⟨C, hC, hbehind⟩ | ⟨C, hC, hbehind⟩ := List.append_eq_append_iff.mp hrest
            · obtain ⟨A, rfl⟩ := List.head?_eq_some_iff.mp hT
              obtain ⟨B, rfl, hB⟩ := hU
              rw [List.cons_append, List.cons.injEq] at hC
              have hnot : .lbrace ∉ C := fun hmem => hB (hC.2 ▸ List.mem_append_right A hmem)
              rw [hC.2, eq_nil_of_behind hTs' hnot hbehind, List.append_nil]
            · -- what is more in the first element would make an object too many
              have hcount := congrArg (List.count .lbrace) hbehind
              rw [count_behind_flat hUs', List.count_append] at hcount
              have hge := length_le_count_behind hTs'
              have hnot : .lbrace ∉ C := List.count_eq_zero.mp (by omega)
              rw [hC, eq_nil_of_behind (fun V hV => (hUs' V hV).head?) hnot hbehind,
                List.append_nil]
          rw [hsame] at hrest ⊢
          rw [ih hTs' hUs' hlen (List.append_cancel_left hrest)]

/-! ## The array -/

theorem lex_bracket (t : List Char) :
    lex ('[' :: t) = (lex t).map (.lbracket :: ·) := by
  have hstep : step .plain '[' = some ([.lbracket], .plain) := rfl
  rw [lex, lex, scan, hstep, Option.bind_some]
  dsimp only
  cases scan .plain t with
  | none => rfl
  | some r =>
      simp only [Option.map_some, Option.bind_some]
      cases finish r.2 <;> rfl

/-- The tokens of a text that is scanned alone. -/
def tokensOf (x : List Char) : List Token := ((scan .plain x).map Prod.fst).getD []

theorem tokensOf_eq (h : scan .plain x = some (T, m)) : tokensOf x = T := by
  rw [tokensOf, h]
  rfl

theorem head?_tokensOf (hx : IsItem x) (h : scan .plain x = some (T, .plain)) :
    (tokensOf x).head? = some .lbrace := by
  rw [tokensOf_eq h]
  obtain ⟨k, z, rfl, -⟩ := hx.opens
  have hstep : step .plain '{' = some ([.lbrace], .plain) := rfl
  rw [scan, hstep, Option.bind_some, Option.map_eq_some_iff] at h
  obtain ⟨q, -, hq⟩ := h
  rw [← (Prod.mk.inj hq).1]
  rfl

/-- An array is read from what is scanned behind its bracket. -/
theorem decode_bracket_iff {vs : List Json} {ts : List Token}
    (h : scan .plain t = some (ts, .plain)) :
    decode ('[' :: t) = some (.arr vs) ↔ ts = elements vs := by
  rw [decode_eq_some_iff, lex_bracket, lex, h, Json.tokens]
  simp [finish]

/-- A text that is read behind a bracket is scanned to its end. -/
theorem ends_of_decode {v : Json} (h : decode ('[' :: t) = some v) : Ends .plain t := by
  rw [decode_eq_some_iff, lex_bracket, Option.map_eq_some_iff] at h
  obtain ⟨ts, hts, -⟩ := h
  obtain ⟨r, hr, hend⟩ := Option.bind_eq_some_iff.mp hts
  obtain ⟨E, hE, -⟩ := Option.map_eq_some_iff.mp hend
  exact ⟨r, hr, by rw [hE]; nofun⟩

/-- Texts that are scanned alone say values when their tokens do. -/
theorem map_scan_eq_iff {vs : List Json}
    (h : ∀ y ∈ xs, scan .plain y = some (tokensOf y, .plain)) :
    xs.map (scan .plain) = vs.map (fun v => some (v.tokens, Mode.plain)) ↔
      xs.map tokensOf = vs.map Json.tokens := by
  have hscans : xs.map (scan .plain) = (xs.map tokensOf).map (fun T => some (T, Mode.plain)) := by
    rw [List.map_map]
    exact List.map_congr_left h
  have hinj : Function.Injective (fun T : List Token => some (T, Mode.plain)) := by
    intro T U hTU
    exact (Prod.mk.inj (Option.some.inj hTU)).1
  have hvalues : vs.map (fun v => some (v.tokens, Mode.plain)) =
      (vs.map Json.tokens).map (fun T => some (T, Mode.plain)) := by
    rw [List.map_map]
    rfl
  rw [hscans, hvalues, hinj.list_map.eq_iff]

/-- **An array put together is the one that is meant exactly when each element is**, if no more are
meant than have been put together. -/
theorem decode_joined_iff {vs : List Json} (hne : xs ≠ []) (hxs : ∀ y ∈ xs, IsItem y)
    (hvs : ∀ v ∈ vs, Flat v.tokens) (hle : vs.length ≤ xs.length) :
    decode ('[' :: joined xs) = some (.arr vs) ↔
      xs.map (scan .plain) = vs.map (fun v => some (v.tokens, Mode.plain)) := by
  obtain ⟨x, xs, rfl⟩ := List.exists_cons_of_ne_nil hne
  constructor
  · intro h
    have hscan : ∀ y ∈ x :: xs, scan .plain y = some (tokensOf y, .plain) := by
      intro y hy
      obtain ⟨T, hT⟩ := exists_scan_of_ends hxs (ends_of_decode h) y hy
      rw [tokensOf_eq hT, hT]
    have hheads : ∀ T ∈ (x :: xs).map tokensOf, T.head? = some .lbrace := by
      intro T hT
      obtain ⟨y, hy, rfl⟩ := List.mem_map.mp hT
      exact head?_tokensOf (hxs y hy) (hscan y hy)
    have hflat : ∀ U ∈ vs.map Json.tokens, Flat U := by
      intro U hU
      obtain ⟨v, hv, rfl⟩ := List.mem_map.mp hU
      exact hvs v hv
    have heq := (decode_bracket_iff (scan_joined tokensOf x xs hscan)).mp h
    refine (map_scan_eq_iff hscan).mpr (behind_inj hheads hflat (by simpa using hle) ?_)
    obtain ⟨B, hB⟩ := List.head?_eq_some_iff.mp (hheads _ (List.mem_map_of_mem List.mem_cons_self))
    cases vs with
    | nil =>
        rw [hB, elements] at heq
        cases heq
    | cons v vs =>
        rw [elements_cons_eq] at heq
        rw [List.map_cons, List.map_cons, behind, behind, heq]
  · intro h
    have hscan : ∀ y ∈ x :: xs, scan .plain y = some (tokensOf y, .plain) := by
      intro y hy
      have hmem : scan .plain y ∈ vs.map (fun v => some (v.tokens, Mode.plain)) :=
        h ▸ List.mem_map_of_mem hy
      obtain ⟨v, -, hv⟩ := List.mem_map.mp hmem
      rw [tokensOf_eq hv.symm, ← hv]
    have htokens := (map_scan_eq_iff hscan).mp h
    refine (decode_bracket_iff (scan_joined tokensOf x xs hscan)).mpr ?_
    cases vs with
    | nil => cases htokens
    | cons v vs =>
        obtain ⟨hv, hvs'⟩ := List.cons.inj htokens
        rw [elements_cons_eq, ← hv, ← hvs']

end Joined

end JsonText
