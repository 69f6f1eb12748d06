import TfPack.Snmp.Instances

set_option autoImplicit false

/-! # Walks go forward

GET_NEXT has to print an OID greater than the one asked for. The requests of `Returns` have an
answer that does not lie after them, and those of `Nowhere` a blank line; at and below a table and
a list of scalars every other request is answered with an OID after it.
-/

namespace Snmp

open LexOrder OrderedWalk

variable {B : Backend} {q o rest : Oid}

/-- The answer, if there is one, has an OID after `q`. -/
def Goes (q : Oid) : Option Reply → Prop
  | none => True
  | some r => ∃ o, r.oid = some o ∧ q < o

/-- Arcs below a table that do not lead to its row. -/
def OffTable : Oid → Prop
  | [] => False
  | [e] => e ≠ 1
  | e :: e' :: _ => e ≠ 1 ∨ e' ≠ 1

/-- The requests for which GET_NEXT prints an OID at or before them. -/
inductive Returns (B : Backend) : Oid → Prop
  /-- The last arc of the enterprise is answered with the first list. -/
  | integrations (rest : Oid) (h : 1 ≤ autoRestart.rows B) : Returns B (4 :: rest)
  /-- Arcs below a scalar choose another scalar of the list, at or before it. -/
  | scalar (S : ScalarList) (hS : .scalars S ∈ places) (s x : Nat) (as : Oid)
      (hs : 1 ≤ s ∧ s ≤ S.scalars.length) (has : as ≠ [])
      (hend : chainEnd S.scalars.length s as = (x, .found)) (hx : x ≤ s) :
      Returns B (S.path ++ s :: as)
  /-- Without PoE ports a search below the firmware version comes back to it. -/
  | firmware (x : Nat) (h : B.poeStatus = 0) : Returns B [3, 2, 2, 3, 1, 0, x]

/-- The requests for which GET_NEXT prints a blank line in place of an OID. -/
inductive Nowhere : Oid → Prop
  /-- A table has the arc 1 for its entry and for its row. -/
  | offTable (T : Table) (hT : .table T ∈ places) (rest : Oid) (h : OffTable rest) :
      Nowhere (T.path ++ rest)
  /-- Past the end of the tree there is nothing. -/
  | pastPsw (k : Nat) : Nowhere [3, 2, k + 3]
  | pastStatus (k : Nat) (rest : Oid) : Nowhere (3 :: 2 :: 2 :: (k + 9) :: rest)
  | pastSensors (rest : Oid) (h : (chainEnd 7 0 rest).2 = .oidOverList) :
      Nowhere (3 :: 2 :: 2 :: 8 :: rest)

/-! ## Answers that go forward -/

theorem stray_oid (left : ResObj) (oid : Oid) : (stray left oid).oid = some oid := by
  rw [stray, sendGetResult]
  split
  · rfl
  split <;> rfl

theorem goes_cell {T : Table} {c i : Nat} (h : q < T.cellOid c i) :
    Goes q (some (T.cell B c i)) := ⟨_, rfl, h⟩

theorem goes_instance {S : ScalarList} {s : Nat} (h : q < S.path ++ [s, 0]) :
    Goes q (some (S.instanceReply B s)) := ⟨_, rfl, h⟩

theorem goes_stray {left : ResObj} {oid : Oid} (h : q < oid) : Goes q (some (stray left oid)) :=
  ⟨_, stray_oid left oid, h⟩

theorem not_goes_blank : ¬ Goes q (some blank) := by
  rintro ⟨o, ho, -⟩
  cases ho

/-- What a later place is answered with goes forward. -/
theorem goes_first {T : Table} (h : q < T.path) : Goes q (T.first B) := by
  rw [Table.first]
  split
  · exact goes_cell (h.trans (lt_append_cons T.path 1 [1, 1, 1]))
  · trivial

theorem goes_scalar {S : ScalarList} (h : q < S.path) (s : Nat) :
    Goes q (some (S.instanceReply B s)) := goes_instance (h.trans (lt_append_cons S.path s [0]))

namespace Table

variable {T : Table} {next : Option Reply} {left : ResObj} {c i : Nat}

theorem lt_cellOid {l : Oid} (h : l < [1, 1, c, i]) : T.path ++ l < T.cellOid c i :=
  (append_lt_append_iff T.path).mpr h

theorem pastAnswer_eq (T : Table) (next : Option Reply) (left : ResObj) (rest : Oid) :
    T.pastAnswer next left rest = next ∨
      T.pastAnswer next left rest = some (stray left (T.path ++ [1, 2])) := by
  cases rest with
  | nil =>
      cases next with
      | none => exact .inr rfl
      | some r => exact .inl rfl
  | cons i rest => exact .inl (by cases next <;> rfl)

/-- GET_NEXT below a column goes forward. -/
theorem goes_columnAnswer (hnext : Goes (T.path ++ 1 :: 1 :: c :: rest) next) :
    Goes (T.path ++ 1 :: 1 :: c :: rest) (T.columnAnswer B next left c rest) := by
  have hrow : T.path ++ 1 :: 1 :: c :: rest < T.path ++ [1, 2] := by
    simp [List.cons_lt_cons_iff]
  have hpast : Goes (T.path ++ 1 :: 1 :: c :: rest) (T.pastAnswer next left rest) := by
    rcases pastAnswer_eq T next left rest with h | h
    · rw [h]
      exact hnext
    · rw [h]
      exact goes_stray hrow
  match rest with
  | [] =>
      rw [columnAnswer]
      split
      · trivial
      split
      · exact hpast
      split
      · exact goes_cell (lt_cellOid (by simp))
      · apply goes_stray
        simp [List.cons_lt_cons_iff]
  | [i] =>
      rw [columnAnswer]
      split
      · trivial
      split
      · exact hpast
      rw [indexAnswer]
      split
      · exact goes_cell (lt_cellOid (by simp [List.cons_lt_cons_iff]))
      split
      · split
        · exact goes_cell (lt_cellOid (by simp [List.cons_lt_cons_iff]))
        · trivial
      · exact hnext
  | i :: j :: rest =>
      rw [columnAnswer]
      split
      · trivial
      split
      · exact hpast
      · trivial

/-- **GET_NEXT at and below a table goes forward** where the arcs lead to its row. -/
theorem goes_answer {ifEmpty : Oid → Option Reply} (hrest : ¬ OffTable rest)
    (hempty : ∀ u, u = [] ∨ u = [1] → Goes (T.path ++ u) (ifEmpty u))
    (hnext : Goes (T.path ++ rest) next) :
    Goes (T.path ++ rest) (T.answer B ifEmpty next left rest) := by
  match rest with
  | [] =>
      rw [answer]
      split
      · exact goes_cell (lt_cellOid (List.nil_lt_cons _ _))
      · exact hempty [] (.inl rfl)
  | [e] =>
      obtain rfl : e = 1 := Decidable.not_not.mp hrest
      rw [answer, if_neg (by simp)]
      split
      · exact goes_cell (lt_cellOid (by simp))
      · exact hempty [1] (.inr rfl)
  | [e, e'] =>
      have he : e = 1 ∧ e' = 1 := by simpa [OffTable] using hrest
      obtain ⟨rfl, rfl⟩ := he
      rw [answer, if_neg (by simp)]
      split
      · exact goes_cell (lt_cellOid (by simp))
      · apply goes_stray
        simp [List.cons_lt_cons_iff]
  | e :: e' :: c :: rest =>
      have he : e = 1 ∧ e' = 1 := by simpa [OffTable] using hrest
      obtain ⟨rfl, rfl⟩ := he
      rw [answer, if_neg (by simp)]
      exact goes_columnAnswer hnext

theorem answer_offTable {ifEmpty : Oid → Option Reply} (h : OffTable rest) :
    T.answer B ifEmpty next left rest = some blank := by
  match rest with
  | [] => exact h.elim
  | [e] => rw [answer, if_pos (show e ≠ 1 from h)]
  | [e, e'] => rw [answer, if_pos (show e ≠ 1 ∨ e' ≠ 1 from h)]
  | e :: e' :: c :: rest => rw [answer, if_pos (show e ≠ 1 ∨ e' ≠ 1 from h)]

end Table

namespace ScalarList

variable {S : ScalarList} {up onward : Option Reply} {s x : Nat} {as : Oid}

/-- Arcs that all name scalars begin with one that does. -/
theorem chainEnd_found {len a : Nat} (h : chainEnd len s (a :: as) = (x, .found)) :
    (1 ≤ a ∧ a ≤ len) ∧ chainEnd len a as = (x, .found) := by
  rw [chainEnd] at h
  by_cases hlarge : a > len
  · rw [if_pos hlarge] at h
    cases h
  rw [if_neg hlarge] at h
  by_cases h0 : a = 0
  · rw [if_pos h0] at h
    cases h
  rw [if_neg h0] at h
  exact ⟨⟨by omega, by omega⟩, h⟩

theorem answer_found (h1 : 1 ≤ s) (hs : s ≤ S.scalars.length)
    (hend : chainEnd S.scalars.length s as = (x, .found)) :
    S.answer B up onward (s :: as) = some (S.instanceReply B x) := by
  rw [answer, search, if_neg (by omega), if_neg (by omega)]
  cases as with
  | nil =>
      cases hend
      rfl
  | cons a as =>
      have ha := (chainEnd_found hend).1.1
      obtain ⟨a, rfl⟩ : ∃ k, a = k + 1 := ⟨a - 1, by omega⟩
      rw [scalarSearch, hend]
      intro tail h
      cases h

theorem answer_over (h : (chainEnd S.scalars.length 0 rest).2 = .oidOverList) :
    S.answer B up onward rest = up := by
  cases rest with
  | nil => cases h
  | cons s as =>
      rw [chainEnd] at h
      rw [answer, search]
      by_cases hlarge : s > S.scalars.length
      · rw [if_pos hlarge]
      rw [if_neg hlarge] at h ⊢
      by_cases h0 : s = 0
      · rw [if_pos h0] at h
        cases h
      rw [if_neg h0] at h ⊢
      cases as with
      | nil => cases h
      | cons a as =>
          cases a with
          | zero =>
              rw [chainEnd, if_neg (Nat.not_lt_zero _), if_pos rfl] at h
              cases h
          | succ a =>
              rw [scalarSearch]
              · generalize chainEnd S.scalars.length s ((a + 1) :: as) = e at h
                obtain ⟨x, status⟩ := e
                obtain rfl : status = .oidOverList := h
                rfl
              · intro tail h
                cases h

theorem lt_instance {l : Oid} (h : l < [x, 0]) : S.path ++ l < S.path ++ [x, 0] :=
  (append_lt_append_iff S.path).mpr h

/-- Further arcs go forward only to a later scalar. -/
theorem goes_chain (hend : chainEnd S.scalars.length s as = (x, .found)) (has : as ≠ []) :
    Goes (S.path ++ s :: as) (some (S.instanceReply B x)) ↔ s < x := by
  constructor
  · rintro ⟨o, ho, hlt⟩
    obtain rfl : S.path ++ [x, 0] = o := Option.some.inj ho
    rw [append_lt_append_iff, List.cons_lt_cons_iff] at hlt
    rcases hlt with hlt | ⟨rfl, hlt⟩
    · exact hlt
    · -- the arcs below the scalar itself are not 0
      obtain ⟨a, as, rfl⟩ := List.exists_cons_of_ne_nil has
      have ha := (chainEnd_found hend).1.1
      rw [List.cons_lt_cons_iff] at hlt
      rcases hlt with hlt | ⟨rfl, -⟩
      · omega
      · omega
  · intro hsx
    exact goes_instance (lt_instance (List.cons_lt_cons_iff.mpr (.inl hsx)))

/-- **GET_NEXT at and below a list of scalars goes forward**, unless further arcs lead back. -/
theorem goes_answer
    (hback : ∀ s x as, rest = s :: as → (1 ≤ s ∧ s ≤ S.scalars.length) → as ≠ [] →
      chainEnd S.scalars.length s as = (x, .found) → s < x)
    (hup : (chainEnd S.scalars.length 0 rest).2 = .oidOverList → Goes (S.path ++ rest) up)
    (honward : ∀ tail, rest = S.scalars.length :: 0 :: tail → Goes (S.path ++ rest) onward) :
    Goes (S.path ++ rest) (S.answer B up onward rest) := by
  cases rest with
  | nil => exact goes_instance (lt_instance (List.nil_lt_cons _ _))
  | cons s as =>
      by_cases hover : (chainEnd S.scalars.length 0 (s :: as)).2 = .oidOverList
      · rw [answer_over hover]
        exact hup hover
      have hlarge : ¬ s > S.scalars.length := by
        intro h
        rw [chainEnd, if_pos h] at hover
        exact hover rfl
      by_cases h0 : s = 0
      · rw [answer, search, if_neg hlarge, if_pos h0]
        trivial
      have hs : 1 ≤ s ∧ s ≤ S.scalars.length := ⟨by omega, by omega⟩
      rw [chainEnd, if_neg hlarge, if_neg h0] at hover
      have hstatus := chainEnd_status S.scalars.length s as
      simp only [List.mem_cons, List.not_mem_nil, or_false] at hstatus
      rcases hstatus with hfound | hstatus | hzero
      · have hend : chainEnd S.scalars.length s as =
            ((chainEnd S.scalars.length s as).1, .found) := by rw [← hfound]
        rw [answer_found hs.1 hs.2 hend]
        cases as with
        | nil => exact goes_instance (lt_instance (by simp [chainEnd]))
        | cons a as =>
            exact (goes_chain hend (List.cons_ne_nil a as)).mpr
              (hback s _ _ rfl hs (List.cons_ne_nil a as) hend)
      · exact absurd hstatus hover
      · rw [answer, search, if_neg hlarge, if_neg h0]
        cases as with
        | nil => cases hzero
        | cons a as =>
            cases a with
            | zero =>
                rw [scalarSearch]
                by_cases hlast : s < S.scalars.length
                · rw [if_pos hlast]
                  exact goes_instance (lt_instance (by simp [List.cons_lt_cons_iff]))
                · obtain rfl : s = S.scalars.length := by omega
                  rw [if_neg hlast]
                  exact honward as rfl
            | succ a =>
                rw [scalarSearch]
                · generalize chainEnd S.scalars.length s ((a + 1) :: as) = e at hzero
                  obtain ⟨x, status⟩ := e
                  obtain rfl : status = .zeroIndex := hzero
                  trivial
                · intro tail h
                  cases h

end ScalarList

end Snmp
