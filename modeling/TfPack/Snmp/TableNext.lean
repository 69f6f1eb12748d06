import TfPack.Snmp.Tables

set_option autoImplicit false

/-! # GET_NEXT at a table

`Table.answer` is what GET_NEXT prints for an OID at or below a table, in closed form. The search
may run past the last column, and goes on where another table may have no rows either; what comes
of that (`Arrives`) and what comes of an attempt on an empty table are parameters.
-/

namespace Snmp

open BoundedLoop

/-- What comes of an attempt on `t`, for every request: the answer `o`, or a search over its
index that leaves the object `left`. -/
def Arrives (B : Backend) (k : Nat) (t : Oid) (o : Option Reply) (left : ResObj) : Prop :=
  ∀ q objs r,
    match o with
    | some rep => Gives (iteration B .getNext q) k (attempt objs r t) (some rep)
    | none => ∃ objs' l, l ≤ k ∧
        Leads (iteration B .getNext q) (l + 1) (attempt objs r t) (after .overIndex objs' left)

/-- The last two arcs of an OID that has them. -/
theorem exists_append_pair {rest : Oid} (h : 2 ≤ rest.length) :
    ∃ p a b, rest = p ++ [a, b] := by
  obtain ⟨p, b, rfl⟩ := (List.eq_nil_or_concat rest).resolve_left (by rintro rfl; simp at h)
  obtain ⟨p, a, rfl⟩ := (List.eq_nil_or_concat p).resolve_left (by rintro rfl; simp at h)
  exact ⟨p, a, b, by simp⟩

section arrives

variable {B : Backend} {q t t' p : Oid} {k : Nat} {o : Option Reply} {left : ResObj} {a b : Nat}

theorem Arrives.of_leads (h : Arrives B k t o left) (l : Nat)
    (hl : ∀ q objs r, ∃ objs' r',
      Leads (iteration B .getNext q) l (attempt objs r t') (attempt objs' r' t)) :
    Arrives B (k + l) t' o left := by
  intro q objs r
  obtain ⟨objs', r', hleads⟩ := hl q objs r
  cases o with
  | some rep => exact hleads.gives (h q objs' r')
  | none =>
      obtain ⟨objs'', m, hm, hover⟩ := h q objs' r'
      exact ⟨objs'', m + l, by omega, (hleads.trans hover).cast (by omega)⟩

/-- **A search that comes back to where it found nothing has no end.** -/
theorem Arrives.forever (h : Arrives B k t none left) (hq : q = p ++ [a, b])
    (hback : ∀ objs r, ∃ l objs' r',
      Leads (iteration B .getNext q) l (attempt objs r (p ++ [a + 1])) (attempt objs' r' t))
    (objs : List Node) (r : ResObj) :
    Gives (iteration B .getNext q) 0 (attempt objs r t) none := by
  refine Gives.forever (P := fun st => ∃ objs r, st = attempt objs r t) ?_ ⟨objs, r, rfl⟩
  rintro st ⟨objs, r, rfl⟩
  obtain ⟨objs', m, -, hover⟩ := h q objs r
  obtain ⟨l, objs'', r'', hagain⟩ := hback objs' left
  have hround := (hover.trans (Leads.step (iteration_overIndex B .getNext objs' left hq))).trans
    hagain
  exact ⟨l + 1 + m, _, hround.cast (by omega), objs'', r'', rfl⟩

/-- An OID of one arc has no arc before the last one to raise. -/
theorem Arrives.error (h : Arrives B k t none left) (hq : q.length < 2) (objs : List Node)
    (r : ResObj) : Gives (iteration B .getNext q) (k + 2) (attempt objs r t) none := by
  obtain ⟨objs', l, hl, hover⟩ := h q objs r
  have herror : iteration B .getNext q (after .overIndex objs' left) = .inr none := by
    show onOverIndex q (after .overIndex objs' left) = _
    rw [onOverIndex, if_pos hq]
    rfl
  exact (hover.gives (Gives.done herror)).mono (by omega)

/-- What comes of a search that found nothing, from the attempt it goes on with. -/
theorem Arrives.back {l : Nat} (h : Arrives B k t none left) (hq : q = p ++ [a, b])
    (hback : ∀ objs r, Gives (iteration B .getNext q) l (attempt objs r (p ++ [a + 1])) o)
    (objs : List Node) (r : ResObj) :
    Gives (iteration B .getNext q) (k + l + 2) (attempt objs r t) o := by
  obtain ⟨objs', m, hm, hover⟩ := h q objs r
  exact (hover.gives (Gives.step (iteration_overIndex B .getNext objs' left hq)
    (hback objs' left))).mono (by omega)

/-- What comes of an attempt, when it is known what comes of finding nothing. -/
theorem Arrives.gives {l : Nat} (h : Arrives B k t o left) (hl : k ≤ l)
    (hnone : o = none → ∀ objs r,
      Gives (iteration B .getNext q) l (attempt objs r t) none) (objs : List Node) (r : ResObj) :
    Gives (iteration B .getNext q) l (attempt objs r t) o := by
  cases o with
  | some rep => exact (h q objs r).mono hl
  | none => exact hnone rfl objs r

end arrives

namespace Table

variable (T : Table)

/-- The first cell, when there is one. -/
def first (B : Backend) : Option Reply := if 1 ≤ T.rows B then some (T.cell B 1 1) else none

/-- GET_NEXT on row `i` of column `c`; right of the last column the search ends with `next`. -/
def indexAnswer (B : Backend) (next : Option Reply) (c i : Nat) : Option Reply :=
  if i < T.rows B then some (T.cell B c (i + 1))
  else if c < T.columns.length then
    if 1 ≤ T.rows B then some (T.cell B (c + 1) 1) else none
  else next

/-- GET_NEXT past the last column: it ends with `next`, or with the object `left` of a search
over its index. -/
def pastAnswer (next : Option Reply) (left : ResObj) (rest : Oid) : Option Reply :=
  match rest, next with
  | [], none => some (stray left (T.path ++ [1, 2]))
  | _, _ => next

/-- GET_NEXT at and below column `c`. -/
def columnAnswer (B : Backend) (next : Option Reply) (left : ResObj) (c : Nat) :
    Oid → Option Reply
  | [] =>
      if c = 0 then none
      else if T.columns.length < c then T.pastAnswer next left []
      else if 1 ≤ T.rows B then some (T.cell B c 1)
      else some (stray (T.noCell c 1) (T.path ++ [1, 2]))
  | [i] =>
      if c = 0 then none
      else if T.columns.length < c then T.pastAnswer next left [i]
      else T.indexAnswer B next c i
  | i :: j :: rest =>
      if c = 0 then none
      else if T.columns.length < c then T.pastAnswer next left (i :: j :: rest)
      else none

/-- GET_NEXT at and below a table; `ifEmpty` is for the table and its entry without rows. -/
def answer (B : Backend) (ifEmpty : Oid → Option Reply) (next : Option Reply) (left : ResObj) :
    Oid → Option Reply
  | [] => if 1 ≤ T.rows B then some (T.cell B 1 1) else ifEmpty []
  | [e] =>
      if e ≠ 1 then some blank
      else if 1 ≤ T.rows B then some (T.cell B 1 1) else ifEmpty [1]
  | [e, e'] =>
      if e ≠ 1 ∨ e' ≠ 1 then some blank
      else if 1 ≤ T.rows B then some (T.cell B 1 1)
      else some (stray (T.noCell 1 1) (T.path ++ [2]))
  | e :: e' :: c :: rest =>
      if e ≠ 1 ∨ e' ≠ 1 then some blank else T.columnAnswer B next left c rest

variable {T} {B : Backend} {next : Option Reply} {left : ResObj} {c i : Nat}

/-- **Landing on a table.** -/
theorem arrives : Arrives B 8 T.path (T.first B) (T.noCell 1 1) := by
  intro q objs r
  rw [first]
  have hdown := table_leads (tries_attempt B .getNext q objs r T.path)
  by_cases hrows : 1 ≤ T.rows B
  · rw [if_pos hrows]
    exact hdown.gives (column_gives (Nat.le_refl 1) T.columns_pos hrows (tries_attempt _ _ _ _ _ _))
  · rw [if_neg hrows]
    obtain ⟨objs', hover⟩ := column_leads (Nat.le_refl 1) T.columns_pos (by omega)
      (tries_attempt B .getNext q T.atRow {} (T.columnOid 1))
    exact ⟨objs', 7, by omega, hdown.trans hover⟩

/-! ## Past the last column -/

/-- A search past the last column goes on after the table. -/
theorem past_leads {q : Oid} {st : State} {r : ResObj} {rest rest' : Oid}
    (hq : q = T.path ++ rest) (hc : T.columns.length < c)
    (hst : Tries B .getNext q st (T.path ++ 1 :: 1 :: c :: rest') r) :
    Leads (iteration B .getNext q) 2 st (attempt T.atRow r T.next) := by
  subst hq
  exact (Leads.step (hst _ _ (T.lookup_past hc rest') (by decide))).trans
    (Leads.step (T.past rest [T.entry, T.row] r))

/-- **A search that comes back past the last column has no end**, when nothing is found after
the table. -/
theorem next_forever {q : Oid} {k : Nat} (hnext : Arrives B k T.next none left)
    {rest : Oid} (hq : q = T.path ++ rest) (p : Oid) (a b : Nat) (hq' : q = p ++ [a, b]) {c : Nat}
    (hc : T.columns.length < c) (rest' : Oid) (hp : p ++ [a + 1] = T.path ++ 1 :: 1 :: c :: rest')
    (objs : List Node) (r : ResObj) :
    Gives (iteration B .getNext q) 0 (attempt objs r T.next) none := by
  refine hnext.forever hq' (fun objs' r' => ?_) objs r
  have hst := tries_attempt B .getNext q objs' r' (p ++ [a + 1])
  rw [hp] at hst ⊢
  exact ⟨2, _, _, past_leads hq hc hst⟩

/-- What comes of a search past the last column. -/
theorem past_gives {q : Oid} {k l : Nat} {st : State} {r : ResObj} {o : Option Reply}
    {rest rest' : Oid} (hq : q = T.path ++ rest) (hc : T.columns.length < c)
    (hst : Tries B .getNext q st (T.path ++ 1 :: 1 :: c :: rest') r)
    (h : Gives (iteration B .getNext q) k (attempt T.atRow r T.next) o) (hl : k + 2 ≤ l) :
    Gives (iteration B .getNext q) l st o :=
  ((past_leads hq hc hst).gives h).mono hl

/-- A search over the index of a column whose OID is asked for ends at the row above it. -/
theorem row_stray {q : Oid} {b : Nat} (hq : q = T.path ++ [1, 1, b]) (objs : List Node)
    (left : ResObj) :
    Gives (iteration B .getNext q) 3 (after .overIndex objs left)
      (some (stray left (T.path ++ [1, 2]))) := by
  have hq' : q = (T.path ++ [1]) ++ [1, b] := by simpa using hq
  have hback := iteration_overIndex B .getNext objs left hq'
  have hoid : (T.path ++ [1]) ++ [1 + 1] = T.path ++ 1 :: 2 :: [] := by simp
  rw [hoid] at hback
  have hfail := tries_attempt B .getNext q objs left (T.path ++ 1 :: 2 :: []) _ _
    (T.lookup_row_ne (by decide) []) (by decide)
  exact Gives.step hback (Gives.step hfail (Gives.done iteration_failed))

/-- A column that is not there. -/
theorem zero_gives (rest : Oid) :
    Gives (iteration B .getNext (T.path ++ 1 :: 1 :: 0 :: rest)) 4 start none := by
  have hrow : T.atRow = T.above ++ [T.parent, T.table, T.entry] ++ [T.row] := by simp [atRow]
  have hzero := tries_start B .getNext _ _ _ (T.lookup_zero rest) (by decide)
  rw [hrow] at hzero
  exact Gives.step hzero (zeroIndex_gives (by simp [TableNodes.row]))

/-- **GET_NEXT on a row of a column.** -/
theorem indexAnswer_gives {k : Nat} (hnext : Arrives B k T.next next left) (h1 : 1 ≤ c)
    (hc : c ≤ T.columns.length) :
    Gives (iteration B .getNext (T.cellOid c i)) (k + 5) start (T.indexAnswer B next c i) := by
  have hst : Tries B .getNext (T.cellOid c i) start (T.cellOid c i) {} := tries_start _ _ _
  unfold indexAnswer
  by_cases hi : i < T.rows B
  · rw [if_pos hi]
    exact (index_gives h1 hc hi hst).mono (by omega)
  rw [if_neg hi]
  obtain ⟨objs, hover⟩ := index_leads h1 hc (by omega) hst
  have hq : T.cellOid c i = (T.path ++ [1, 1]) ++ [c, i] := by simp [TableNodes.cellOid]
  have hoid : (T.path ++ [1, 1]) ++ [c + 1] = T.columnOid (c + 1) := by
    simp [TableNodes.columnOid]
  have hback : ∀ objs r, iteration B .getNext (T.cellOid c i) (after .overIndex objs r) =
      .inl (attempt objs r (T.columnOid (c + 1))) := by
    intro objs r
    rw [iteration_overIndex B .getNext objs r hq, hoid]
  have hnew := hover.trans (Leads.step (hback objs (T.noCell c (i + 1))))
  by_cases hlast : c < T.columns.length
  · rw [if_pos hlast]
    by_cases hrows : 1 ≤ T.rows B
    · rw [if_pos hrows]
      exact (hnew.gives (column_gives (by omega) hlast hrows (tries_attempt _ _ _ _ _ _))).mono (by omega)
    · -- without rows, the next column is tried for ever
      rw [if_neg hrows]
      refine (hnew.gives (Gives.forever
        (P := fun st => ∃ objs r, st = attempt objs r (T.columnOid (c + 1))) ?_
        ⟨_, _, rfl⟩)).mono (by omega)
      rintro st ⟨objs, r, rfl⟩
      obtain ⟨objs', hover'⟩ := column_leads (by omega) hlast (by omega)
        (tries_attempt B .getNext (T.cellOid c i) objs r (T.columnOid (c + 1)))
      exact ⟨_, _, hover'.trans (Leads.step (hback objs' _)), _, _, rfl⟩
  · rw [if_neg hlast]
    have hpast : T.columns.length < c + 1 := by omega
    have hst' := tries_attempt B .getNext (T.cellOid c i) objs (T.noCell c (i + 1))
      (T.path ++ 1 :: 1 :: (c + 1) :: [])
    refine (hnew.gives (l := k + 2) ?_).mono (by omega)
    cases next with
    | some rep => exact past_gives rfl hpast hst' (hnext _ _ _) (Nat.le_refl _)
    | none =>
        exact past_gives rfl hpast hst' (next_forever hnext rfl _ c i hq hpast [] (by simp) _ _)
          (by omega)

/-- **GET_NEXT past the last column.** -/
theorem pastAnswer_gives {k : Nat} (hnext : Arrives B k T.next next left)
    (hc : T.columns.length < c) (rest : Oid) :
    Gives (iteration B .getNext (T.path ++ 1 :: 1 :: c :: rest)) (k + 6) start
      (T.pastAnswer next left rest) := by
  have hst := tries_start B .getNext (T.path ++ 1 :: 1 :: c :: rest)
  cases next with
  | some rep =>
      have hanswer : T.pastAnswer (some rep) left rest = some rep := by
        cases rest <;> rfl
      rw [hanswer]
      exact past_gives rfl hc hst (hnext _ _ _) (by omega)
  | none =>
      match rest with
      | [] =>
          obtain ⟨objs, l, hl, hover⟩ := hnext (T.path ++ [1, 1, c]) T.atRow {}
          exact (((past_leads rfl hc hst).trans hover).gives (row_stray rfl objs left)).mono
            (by omega)
      | [i] =>
          have hc' : T.columns.length < c + 1 := by omega
          exact past_gives rfl hc hst (next_forever hnext rfl (T.path ++ [1, 1]) c i (by simp) hc' []
            (by simp) _ _) (by omega)
      | i :: j :: rest =>
          have hlong : 2 ≤ (i :: j :: rest).length := by simp
          obtain ⟨p, a, b, hrest⟩ := exists_append_pair hlong
          have hanswer : T.pastAnswer none left (i :: j :: rest) = none := rfl
          rw [hanswer]
          rw [hrest] at hst ⊢
          have hq : T.path ++ 1 :: 1 :: c :: (p ++ [a, b]) =
              (T.path ++ 1 :: 1 :: c :: p) ++ [a, b] := by simp
          have hover := next_forever hnext rfl (T.path ++ 1 :: 1 :: c :: p) a b hq hc
            (p ++ [a + 1]) (by simp) T.atRow {}
          exact past_gives rfl hc hst hover (by omega)

/-- **GET_NEXT at and below a column.** -/
theorem columnAnswer_gives {k : Nat} (hnext : Arrives B k T.next next left) (rest : Oid) :
    Gives (iteration B .getNext (T.path ++ 1 :: 1 :: c :: rest)) (k + 6) start
      (T.columnAnswer B next left c rest) := by
  by_cases h0 : c = 0
  · subst h0
    have hanswer : T.columnAnswer B next left 0 rest = none := by
      match rest with
      | [] => rfl
      | [i] => rfl
      | i :: j :: rest => rfl
    rw [hanswer]
    exact (zero_gives rest).mono (by omega)
  by_cases hpast : T.columns.length < c
  · have hanswer : T.columnAnswer B next left c rest = T.pastAnswer next left rest := by
      match rest with
      | [] => rw [columnAnswer, if_neg h0, if_pos hpast]
      | [i] => rw [columnAnswer, if_neg h0, if_pos hpast]
      | i :: j :: rest => rw [columnAnswer, if_neg h0, if_pos hpast]
    rw [hanswer]
    exact pastAnswer_gives hnext hpast rest
  have h1 : 1 ≤ c := Nat.pos_of_ne_zero h0
  have hc : c ≤ T.columns.length := Nat.not_lt.mp hpast
  match rest with
  | [] =>
      have hst : Tries B .getNext (T.columnOid c) start (T.columnOid c) {} := tries_start _ _ _
      rw [columnAnswer, if_neg h0, if_neg hpast]
      by_cases hrows : 1 ≤ T.rows B
      · rw [if_pos hrows]
        exact (column_gives h1 hc hrows hst).mono (by omega)
      · rw [if_neg hrows]
        obtain ⟨objs, hover⟩ := column_leads h1 hc (by omega) hst
        exact (hover.gives (row_stray rfl objs _)).mono (by omega)
  | [i] =>
      rw [columnAnswer, if_neg h0, if_neg hpast]
      exact (indexAnswer_gives hnext h1 hc).mono (by omega)
  | i :: j :: rest =>
      obtain ⟨name, -, -, hdeep⟩ := T.lookup_column h1 hc
      have hst := tries_start B .getNext _ _ _ (hdeep i j rest) (by decide)
      rw [columnAnswer, if_neg h0, if_neg hpast]
      exact (Gives.step hst oidOver_gives).mono (by omega)

/-! ## At the table -/

/-- A search that fails at once prints no OID. -/
theorem blank_gives {req : RequestType} {q : Oid} {objs : List Node}
    (h : getOidElement q = (objs, .failed)) :
    Gives (iteration B req q) 2 start (some blank) :=
  Gives.step (tries_start B req q _ _ h (by decide)) (Gives.done iteration_failed)

/-- **GET_NEXT at and below a table.** -/
theorem answer_gives {k : Nat} {ifEmpty : Oid → Option Reply}
    (hnext : Arrives B k T.next next left)
    (hempty : T.rows B = 0 → ∀ u ∈ [[], [1]],
      Gives (iteration B .getNext (T.path ++ u)) (k + 16) start (ifEmpty u))
    (rest : Oid) :
    Gives (iteration B .getNext (T.path ++ rest)) (k + 16) start
      (T.answer B ifEmpty next left rest) := by
  have hst := tries_start B .getNext (T.path ++ rest)
  match rest with
  | [] =>
      rw [List.append_nil] at hst ⊢
      rw [answer]
      by_cases hrows : 1 ≤ T.rows B
      · rw [if_pos hrows]
        exact ((table_leads hst).gives (column_gives (Nat.le_refl 1) T.columns_pos hrows
          (tries_attempt _ _ _ _ _ _))).mono (by omega)
      · rw [if_neg hrows]
        have h := hempty (by omega) [] (by simp)
        rwa [List.append_nil] at h
  | [e] =>
      rw [answer]
      by_cases he : e ≠ 1
      · rw [if_pos he]
        exact (blank_gives (T.lookup_entry_ne he [])).mono (by omega)
      · obtain rfl : e = 1 := Decidable.not_not.mp he
        rw [if_neg he]
        by_cases hrows : 1 ≤ T.rows B
        · rw [if_pos hrows]
          exact ((entry_leads hst).gives (column_gives (Nat.le_refl 1) T.columns_pos hrows
            (tries_attempt _ _ _ _ _ _))).mono (by omega)
        · rw [if_neg hrows]
          exact hempty (by omega) [1] (by simp)
  | [e, e'] =>
      rw [answer]
      by_cases he : e ≠ 1
      · rw [if_pos (.inl he)]
        exact (blank_gives (T.lookup_entry_ne he [e'])).mono (by omega)
      obtain rfl : e = 1 := Decidable.not_not.mp he
      by_cases he' : e' ≠ 1
      · rw [if_pos (.inr he')]
        exact (blank_gives (T.lookup_row_ne he' [])).mono (by omega)
      obtain rfl : e' = 1 := Decidable.not_not.mp he'
      rw [if_neg (by simp)]
      by_cases hrows : 1 ≤ T.rows B
      · rw [if_pos hrows]
        exact ((row_leads hst).gives (column_gives (Nat.le_refl 1) T.columns_pos hrows
          (tries_attempt _ _ _ _ _ _))).mono (by omega)
      · -- the row is asked for, and the search goes on at an entry that is not there
        rw [if_neg hrows]
        obtain ⟨objs, hover⟩ := column_leads (Nat.le_refl 1) T.columns_pos (by omega)
          (tries_attempt B .getNext (T.path ++ [1, 1]) T.atRow {} (T.columnOid 1))
        have hback := iteration_overIndex B .getNext objs (T.noCell 1 1)
          (show T.path ++ [1, 1] = T.path ++ [1, 1] from rfl)
        have hfail := tries_attempt B .getNext (T.path ++ [1, 1]) objs (T.noCell 1 1)
          (T.path ++ [2]) _ _ (T.lookup_entry_ne (by decide) []) (by decide)
        exact (((row_leads hst).trans hover).gives
          (Gives.step hback (Gives.step hfail (Gives.done iteration_failed)))).mono (by omega)
  | e :: e' :: c :: rest =>
      rw [answer]
      by_cases he : e ≠ 1
      · rw [if_pos (.inl he)]
        exact (blank_gives (T.lookup_entry_ne he _)).mono (by omega)
      obtain rfl : e = 1 := Decidable.not_not.mp he
      by_cases he' : e' ≠ 1
      · rw [if_pos (.inr he')]
        exact (blank_gives (T.lookup_row_ne he' _)).mono (by omega)
      obtain rfl : e' = 1 := Decidable.not_not.mp he'
      rw [if_neg (by simp)]
      exact (columnAnswer_gives hnext rest).mono (by omega)

end Table

end Snmp
