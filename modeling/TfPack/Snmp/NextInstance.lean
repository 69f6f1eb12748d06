import TfPack.Snmp.Walks

set_option autoImplicit false

/-! # The next instance

GET_NEXT should print the least instance greater than the OID it is asked for: a *hit*. At and
below a table or a list of scalars that is an instance of the place itself, or, past those, the
first of the places that come after (`First`). `Table.Reaches` and `ScalarList.Reaches` are the
arcs below a place at which the agent's answer is a hit.
-/

namespace Snmp

open LexOrder OrderedWalk

variable {B : Backend} {q o rest : Oid} {a : Option Reply}

/-- The answer is the next instance. -/
def Hits (B : Backend) (q : Oid) (a : Option Reply) : Prop :=
  ∃ o, a.bind Reply.oid = some o ∧ IsNext (instanceSet B) q o

/-- The first instance of some places. -/
def First (B : Backend) (ps : List Place) (o : Oid) : Prop :=
  IsLeast {o | ∃ p ∈ ps, p.Has B o} o

/-- The answer is the first instance of some places. -/
def HitsFirst (B : Backend) (ps : List Place) (a : Option Reply) : Prop :=
  ∃ o, a.bind Reply.oid = some o ∧ First B ps o

/-! ## Places before and after an OID -/

/-- Every instance of a place begins with its path. -/
theorem Place.Has.exists_append {p : Place} (h : p.Has B o) : ∃ l, o = p.path ++ l := by
  cases p with
  | table T =>
      obtain ⟨c, i, -, -, rfl⟩ := h
      exact ⟨[1, 1, c, i], rfl⟩
  | scalars S =>
      obtain ⟨s, -, rfl⟩ := h
      exact ⟨[s, 0], rfl⟩

/-- **The next instance after an OID between places** is the first of those that come after. -/
theorem isNext_iff_first {before after : List Place} (hsplit : places = before ++ after)
    (hbefore : ∀ p ∈ before, ∀ o, p.Has B o → ¬ q < o)
    (hafter : ∀ p ∈ after, ∀ o, p.Has B o → q < o) :
    IsNext (instanceSet B) q o ↔ First B after o := by
  have hset : {z | z ∈ instanceSet B ∧ q < z} = {o | ∃ p ∈ after, p.Has B o} := by
    ext z
    show z ∈ instances B ∧ q < z ↔ ∃ p ∈ after, p.Has B z
    rw [mem_instances, hsplit]
    constructor
    · rintro ⟨⟨p, hp, hz⟩, hlt⟩
      rcases List.mem_append.mp hp with hp | hp
      · exact absurd hlt (hbefore p hp z hz)
      · exact ⟨p, hp, hz⟩
    · rintro ⟨p, hp, hz⟩
      exact ⟨⟨p, List.mem_append_right _ hp, hz⟩, hafter p hp z hz⟩
  rw [IsNext, First, hset]

theorem hits_iff_first {before after : List Place} (hsplit : places = before ++ after)
    (hbefore : ∀ p ∈ before, ∀ o, p.Has B o → ¬ q < o)
    (hafter : ∀ p ∈ after, ∀ o, p.Has B o → q < o) :
    Hits B q a ↔ HitsFirst B after a := by
  simp only [Hits, HitsFirst, isNext_iff_first hsplit hbefore hafter]

theorem before_of_split {before after : List Place} {p : Place}
    (hsplit : places = before ++ p :: after) :
    (∀ p' ∈ before, Before p'.path p.path) ∧ ∀ p' ∈ after, Before p.path p'.path := by
  have hordered := places_ordered
  rw [hsplit, List.pairwise_append, List.pairwise_cons] at hordered
  obtain ⟨-, ⟨hafter, -⟩, hbefore⟩ := hordered
  exact ⟨fun p' hp' => hbefore p' hp' p List.mem_cons_self, hafter⟩

/-- Where the other places stand, seen from at or below one of them. -/
theorem sides_of_split {before after : List Place} {p : Place}
    (hsplit : places = before ++ p :: after) (rest : Oid) :
    (∀ p' ∈ before, ∀ o, p'.Has B o → ¬ p.path ++ rest < o) ∧
      ∀ p' ∈ after, ∀ o, p'.Has B o → p.path ++ rest < o := by
  obtain ⟨hbefore, hafter⟩ := before_of_split hsplit
  refine ⟨fun p' hp' o ho => ?_, fun p' hp' o ho => ?_⟩
  · obtain ⟨l, rfl⟩ := ho.exists_append
    exact (hbefore p' hp' l rest).not_gt
  · obtain ⟨l, rfl⟩ := ho.exists_append
    exact hafter p' hp' rest l

/-- **Past all instances of its place** the next one is the first of the places after it. -/
theorem hits_past {before after : List Place} {p : Place}
    (hsplit : places = before ++ p :: after)
    (hpast : ∀ o, p.Has B o → ¬ p.path ++ rest < o) :
    Hits B (p.path ++ rest) a ↔ HitsFirst B after a := by
  obtain ⟨hbefore, hafter⟩ := sides_of_split (B := B) hsplit rest
  have hsplit' : places = (before ++ [p]) ++ after := by
    rw [hsplit, List.append_assoc]
    rfl
  refine hits_iff_first hsplit' ?_ hafter
  intro p' hp' o ho
  rcases List.mem_append.mp hp' with hp' | hp'
  · exact hbefore p' hp' o ho
  · rw [List.mem_singleton] at hp'
    subst hp'
    exact hpast o ho

/-- **The next instance in its own place** is the next one. -/
theorem isNext_of_has {before after : List Place} {p : Place}
    (hsplit : places = before ++ p :: after) (ho : p.Has B o) (hlt : p.path ++ rest < o)
    (hle : ∀ o', p.Has B o' → p.path ++ rest < o' → o ≤ o') :
    IsNext (instanceSet B) (p.path ++ rest) o := by
  obtain ⟨hbefore, hafter⟩ := sides_of_split (B := B) hsplit rest
  have hp : p ∈ places := by rw [hsplit]; simp
  refine isNext_of (mem_instances.mpr ⟨p, hp, ho⟩) hlt fun z hz hqz => ?_
  obtain ⟨p', hp', hz'⟩ := mem_instances.mp hz
  rw [hsplit] at hp'
  rcases List.mem_append.mp hp' with hp' | hp'
  · exact absurd hqz (hbefore p' hp' z hz')
  rcases List.mem_cons.mp hp' with rfl | hp'
  · exact hle z hz' hqz
  · -- a later place comes after all of this one
    obtain ⟨l, rfl⟩ := ho.exists_append
    obtain ⟨l', rfl⟩ := hz'.exists_append
    exact ((before_of_split hsplit).2 p' hp' l l').le

/-- An instance of a place with a later one of the same place before it is none of another. -/
theorem has_of_isNext {before after : List Place} {p : Place} {z : Oid}
    (hsplit : places = before ++ p :: after) (h : IsNext (instanceSet B) (p.path ++ rest) o)
    (hz : p.Has B z) (hlt : p.path ++ rest < z) : p.Has B o := by
  obtain ⟨hbefore, -⟩ := sides_of_split (B := B) hsplit rest
  have hp : p ∈ places := by rw [hsplit]; simp
  have hle : o ≤ z := h.le (mem_instances.mpr ⟨p, hp, hz⟩) hlt
  obtain ⟨p', hp', ho⟩ := mem_instances.mp h.mem
  rw [hsplit] at hp'
  rcases List.mem_append.mp hp' with hp' | hp'
  · exact absurd h.lt (hbefore p' hp' o ho)
  rcases List.mem_cons.mp hp' with rfl | hp'
  · exact ho
  · obtain ⟨l, rfl⟩ := ho.exists_append
    obtain ⟨l', rfl⟩ := hz.exists_append
    exact absurd hle ((before_of_split hsplit).2 p' hp' l' l).not_ge

/-! ## Answers that are no hit -/

theorem not_hits_none : ¬ Hits B q none := by
  rintro ⟨o, ho, -⟩
  cases ho

theorem not_hits_blank : ¬ Hits B q (some blank) := by
  rintro ⟨o, ho, -⟩
  cases ho

/-- An OID at or below a place is an instance only as one of that place. -/
theorem has_of_mem {p : Place} (hp : p ∈ places) (h : p.path ++ rest ∈ instances B) :
    p.Has B (p.path ++ rest) := by
  obtain ⟨p', hp', ho⟩ := mem_instances.mp h
  obtain ⟨before, after, hsplit⟩ := List.append_of_mem hp
  obtain ⟨l, hl⟩ := ho.exists_append
  obtain ⟨hbefore, hafter⟩ := before_of_split hsplit
  rw [hsplit] at hp'
  rcases List.mem_append.mp hp' with hp' | hp'
  · exact absurd hl (hbefore p' hp' l rest).ne'
  rcases List.mem_cons.mp hp' with rfl | hp'
  · exact ho
  · exact absurd hl (hafter p' hp' rest l).ne

/-- **The lines that name no object** are no hit. -/
theorem not_hits_stray {left : ResObj} {oid : Oid} (h : Stray oid) :
    ¬ Hits B q (some (stray left oid)) := by
  rintro ⟨o, ho, hnext⟩
  obtain rfl : oid = o := Option.some.inj ((stray_oid left oid).symm.trans ho)
  have hmem : oid ∈ instances B := hnext.mem
  cases h with
  | entry T hT =>
      obtain ⟨c, i, -, -, heq⟩ := has_of_mem hT hmem
      exact absurd (List.append_cancel_left heq) (by simp)
  | row T hT =>
      obtain ⟨c, i, -, -, heq⟩ := has_of_mem hT hmem
      exact absurd (List.append_cancel_left heq) (by simp)
  | status =>
      obtain ⟨p, hp, ho⟩ := mem_instances.mp hmem
      obtain ⟨l, hl⟩ := ho.exists_append
      have hbefore : ∀ p ∈ places, precedes p.path [3, 2, 2, 9] = true := by decide
      exact (lt_of_precedes (hbefore p hp) l).ne hl.symm

/-! ## The first instance of the places after -/

theorem not_first_nil : ¬ First B [] o := by
  rintro ⟨⟨p, hp, -⟩, -⟩
  cases hp

theorem not_hitsFirst_none {ps : List Place} : ¬ HitsFirst B ps none := by
  rintro ⟨o, ho, -⟩
  cases ho

/-- The first instance of a list of scalars, and of a table with rows. -/
theorem first_scalars {before after : List Place} {S : ScalarList}
    (hsplit : places = before ++ .scalars S :: after) :
    First B (.scalars S :: after) o ↔ o = S.path ++ [1, 0] := by
  have hleast : First B (.scalars S :: after) (S.path ++ [1, 0]) := by
    refine ⟨⟨_, List.mem_cons_self, 1, ⟨Nat.le_refl 1, S.scalars_pos⟩, rfl⟩, ?_⟩
    rintro z ⟨p, hp, hz⟩
    rcases List.mem_cons.mp hp with rfl | hp
    · obtain ⟨s, ⟨h1, -⟩, rfl⟩ := hz
      rw [append_le_append_iff, cons_le_cons_iff]
      rcases Nat.eq_or_lt_of_le h1 with rfl | hlt
      · exact .inr ⟨rfl, le_refl _⟩
      · exact .inl hlt
    · obtain ⟨l, rfl⟩ := hz.exists_append
      exact ((before_of_split hsplit).2 p hp [1, 0] l).le
  exact ⟨fun h => IsLeast.unique h hleast, fun h => h ▸ hleast⟩

theorem first_table {before after : List Place} {T : Table}
    (hsplit : places = before ++ .table T :: after) (hrows : 1 ≤ T.rows B) :
    First B (.table T :: after) o ↔ o = T.cellOid 1 1 := by
  have hleast : First B (.table T :: after) (T.cellOid 1 1) := by
    refine ⟨⟨_, List.mem_cons_self, 1, 1, ⟨Nat.le_refl 1, T.columns_pos⟩, ⟨Nat.le_refl 1, hrows⟩,
      rfl⟩, ?_⟩
    rintro z ⟨p, hp, hz⟩
    rcases List.mem_cons.mp hp with rfl | hp
    · obtain ⟨c, i, ⟨h1, -⟩, ⟨h2, -⟩, rfl⟩ := hz
      rw [TableNodes.cellOid, TableNodes.cellOid, append_le_append_iff]
      simp only [cons_le_cons_iff, lt_self_iff_false, true_and, false_or]
      rcases Nat.eq_or_lt_of_le h1 with rfl | hlt
      · rcases Nat.eq_or_lt_of_le h2 with rfl | hlt
        · exact .inr ⟨rfl, .inr ⟨rfl, le_refl _⟩⟩
        · exact .inr ⟨rfl, .inl hlt⟩
      · exact .inl hlt
    · obtain ⟨l, rfl⟩ := hz.exists_append
      exact ((before_of_split hsplit).2 p hp [1, 1, 1, 1] l).le
  exact ⟨fun h => IsLeast.unique h hleast, fun h => h ▸ hleast⟩

theorem hitsFirst_scalars {before after : List Place} {S : ScalarList}
    (hsplit : places = before ++ .scalars S :: after) :
    HitsFirst B (.scalars S :: after) (some (S.instanceReply B 1)) :=
  ⟨_, rfl, (first_scalars hsplit).mpr rfl⟩

/-- **A table's first cell** is the first instance when there is one. -/
theorem hitsFirst_table {before after : List Place} {T : Table}
    (hsplit : places = before ++ .table T :: after) :
    HitsFirst B (.table T :: after) (T.first B) ↔ 1 ≤ T.rows B := by
  rw [Table.first]
  by_cases hrows : 1 ≤ T.rows B
  · rw [if_pos hrows]
    exact ⟨fun _ => hrows, fun _ => ⟨_, rfl, (first_table hsplit hrows).mpr rfl⟩⟩
  · rw [if_neg hrows]
    exact ⟨fun h => absurd h not_hitsFirst_none, fun h => absurd h hrows⟩

/-! ## At and below a table -/

namespace Table

variable {T : Table} {before after : List Place} {c i : Nat}

/-- The arcs below a table at which GET_NEXT hits the next instance: `ifEmpty` and `ifEntry` are
for the table and its entry without rows, `next` is for the OIDs past the last cell. -/
def Reaches (T : Table) (B : Backend) (ifEmpty ifEntry next : Prop) : Oid → Prop
  | [] => 1 ≤ T.rows B ∨ ifEmpty
  | [e] => e = 1 ∧ (1 ≤ T.rows B ∨ ifEntry)
  | [e, e'] => (e = 1 ∧ e' = 1) ∧ 1 ≤ T.rows B
  | [e, e', c] =>
      (e = 1 ∧ e' = 1) ∧ 1 ≤ c ∧ (c ≤ T.columns.length → 1 ≤ T.rows B) ∧
        (T.columns.length < c → next)
  | [e, e', c, i] =>
      (e = 1 ∧ e' = 1) ∧ 1 ≤ c ∧ (c < T.columns.length → 1 ≤ T.rows B) ∧
        (c = T.columns.length → i < T.rows B ∨ next) ∧ (T.columns.length < c → next)
  | e :: e' :: c :: _ => (e = 1 ∧ e' = 1) ∧ T.columns.length < c ∧ next

/-- A cell is a hit when no other one comes before it. -/
theorem hits_cell (hsplit : places = before ++ .table T :: after)
    (hc : 1 ≤ c ∧ c ≤ T.columns.length) (hi : 1 ≤ i ∧ i ≤ T.rows B) (hlt : rest < [1, 1, c, i])
    (hle : ∀ c' i', 1 ≤ c' → 1 ≤ i' → i' ≤ T.rows B → rest < [1, 1, c', i'] →
      c < c' ∨ c = c' ∧ i ≤ i') : Hits B (T.path ++ rest) (some (T.cell B c i)) := by
  refine ⟨_, rfl, isNext_of_has hsplit ⟨c, i, hc, hi, rfl⟩ (lt_cellOid hlt) ?_⟩
  rintro z ⟨c', i', hc', hi', rfl⟩ hz
  have hz' : rest < [1, 1, c', i'] := (append_lt_append_iff T.path).mp hz
  rw [TableNodes.cellOid, TableNodes.cellOid, append_le_append_iff]
  simp only [cons_le_cons_iff, lt_self_iff_false, true_and, false_or]
  rcases hle c' i' hc'.1 hi'.1 hi'.2 hz' with h | ⟨rfl, h⟩
  · exact .inl h
  · rcases Nat.eq_or_lt_of_le h with rfl | h
    · exact .inr ⟨rfl, .inr ⟨rfl, le_refl _⟩⟩
    · exact .inr ⟨rfl, .inl h⟩

/-- Past the last cell. -/
theorem hits_beyond (hsplit : places = before ++ .table T :: after)
    (hpast : ∀ c' i', c' ≤ T.columns.length → 1 ≤ i' → i' ≤ T.rows B → ¬ rest < [1, 1, c', i']) :
    Hits B (T.path ++ rest) a ↔ HitsFirst B after a := by
  refine hits_past (p := .table T) hsplit ?_
  rintro z ⟨c', i', hc', hi', rfl⟩ hz
  exact hpast c' i' hc'.2 hi'.1 hi'.2 ((append_lt_append_iff T.path).mp hz)

theorem column_lt_iff {c' i' : Nat} :
    1 :: 1 :: c :: rest < [1, 1, c', i'] ↔ c < c' ∨ c = c' ∧ rest < [i'] := by
  simp [List.cons_lt_cons_iff]

theorem index_lt_iff {i' : Nat} : [i] < [i'] ↔ i < i' := by
  simp [List.cons_lt_cons_iff]

/-- From the table, its entry and its row the next instance is the first cell. -/
theorem hits_firstCell (hsplit : places = before ++ .table T :: after) (hrows : 1 ≤ T.rows B)
    (hlt : rest < [1, 1, 1, 1]) : Hits B (T.path ++ rest) (some (T.cell B 1 1)) := by
  refine hits_cell hsplit ⟨Nat.le_refl 1, T.columns_pos⟩ ⟨Nat.le_refl 1, hrows⟩ hlt ?_
  rintro c' i' hc' hi' - -
  omega

section answer

variable {ifEmpty : Oid → Option Reply} {next : Option Reply} {left : ResObj}
  {IfEmpty IfEntry Next : Prop}

/-- Past the last column. -/
theorem hits_pastAnswer (hsplit : places = before ++ .table T :: after)
    (hnext : HitsFirst B after next ↔ Next) (hc : T.columns.length < c) :
    Hits B (T.path ++ 1 :: 1 :: c :: rest) (T.pastAnswer next left rest) ↔ Next := by
  have hT : Place.table T ∈ places := by rw [hsplit]; simp
  have hbeyond : Hits B (T.path ++ 1 :: 1 :: c :: rest) next ↔ Next := by
    rw [hits_beyond hsplit, hnext]
    intro c' i' hc' _ _ hlt
    rcases column_lt_iff.mp hlt with h | ⟨rfl, -⟩ <;> omega
  cases rest with
  | nil =>
      cases next with
      | none =>
          have hno : ¬ Next := fun h => not_hitsFirst_none (hnext.mpr h)
          exact iff_of_false (not_hits_stray (.row T hT)) hno
      | some r => exact hbeyond
  | cons i rest => cases next <;> exact hbeyond

/-- At a row of a column. -/
theorem hits_indexAnswer (hsplit : places = before ++ .table T :: after)
    (hnext : HitsFirst B after next ↔ Next) (hc : 1 ≤ c ∧ c ≤ T.columns.length) :
    Hits B (T.path ++ [1, 1, c, i]) (T.indexAnswer B next c i) ↔
      (c < T.columns.length → 1 ≤ T.rows B) ∧ (c = T.columns.length → i < T.rows B ∨ Next) := by
  rw [indexAnswer]
  by_cases hi : i < T.rows B
  · -- the row after it
    rw [if_pos hi]
    refine iff_of_true (hits_cell hsplit hc ⟨by omega, hi⟩ ?_ ?_)
      ⟨fun _ => by omega, fun _ => .inl hi⟩
    · exact column_lt_iff.mpr (.inr ⟨rfl, index_lt_iff.mpr (Nat.lt_succ_self i)⟩)
    · intro c' i' _ _ _ hlt
      rw [column_lt_iff, index_lt_iff] at hlt
      omega
  rw [if_neg hi]
  by_cases hlast : c < T.columns.length
  · rw [if_pos hlast]
    by_cases hrows : 1 ≤ T.rows B
    · -- the first row of the column after it
      rw [if_pos hrows]
      refine iff_of_true (hits_cell hsplit ⟨by omega, hlast⟩ ⟨Nat.le_refl 1, hrows⟩ ?_ ?_)
        ⟨fun _ => hrows, fun h => by omega⟩
      · exact column_lt_iff.mpr (.inl (Nat.lt_succ_self c))
      · intro c' i' _ _ _ hlt
        rw [column_lt_iff, index_lt_iff] at hlt
        omega
    · rw [if_neg hrows]
      exact iff_of_false not_hits_none fun h => hrows (h.1 hlast)
  · rw [if_neg hlast, hits_beyond hsplit, hnext]
    · constructor
      · exact fun h => ⟨fun hc' => absurd hc' hlast, fun _ => .inr h⟩
      · exact fun h => (h.2 (by omega)).resolve_left hi
    · intro c' i' _ _ _ hlt
      rw [column_lt_iff, index_lt_iff] at hlt
      omega

/-- At and below a column. -/
theorem hits_columnAnswer (hsplit : places = before ++ .table T :: after)
    (hnext : HitsFirst B after next ↔ Next) :
    Hits B (T.path ++ 1 :: 1 :: c :: rest) (T.columnAnswer B next left c rest) ↔
      T.Reaches B IfEmpty IfEntry Next (1 :: 1 :: c :: rest) := by
  have hT : Place.table T ∈ places := by rw [hsplit]; simp
  have hpast : T.columns.length < c → ∀ rest, (Hits B (T.path ++ 1 :: 1 :: c :: rest)
      (T.pastAnswer next left rest) ↔ Next) := fun hc rest => hits_pastAnswer hsplit hnext hc
  match rest with
  | [] =>
      rw [columnAnswer, Reaches]
      by_cases h0 : c = 0
      · rw [if_pos h0]
        exact iff_of_false not_hits_none fun h => by omega
      rw [if_neg h0]
      by_cases hc : T.columns.length < c
      · rw [if_pos hc, hpast hc]
        exact ⟨fun h => ⟨⟨rfl, rfl⟩, by omega, by omega, fun _ => h⟩, fun h => h.2.2.2 hc⟩
      rw [if_neg hc]
      by_cases hrows : 1 ≤ T.rows B
      · rw [if_pos hrows]
        refine iff_of_true (hits_cell hsplit ⟨by omega, by omega⟩ ⟨Nat.le_refl 1, hrows⟩ ?_ ?_)
          ⟨⟨rfl, rfl⟩, by omega, fun _ => hrows, fun h => absurd h hc⟩
        · exact column_lt_iff.mpr (.inr ⟨rfl, List.nil_lt_cons _ _⟩)
        · intro c' i' _ hi' _ hlt
          rcases column_lt_iff.mp hlt with h | ⟨rfl, -⟩
          · exact .inl h
          · exact .inr ⟨rfl, hi'⟩
      · rw [if_neg hrows]
        exact iff_of_false (not_hits_stray (.row T hT)) fun h => hrows (h.2.2.1 (by omega))
  | [i] =>
      rw [columnAnswer, Reaches]
      by_cases h0 : c = 0
      · rw [if_pos h0]
        exact iff_of_false not_hits_none fun h => by omega
      rw [if_neg h0]
      by_cases hc : T.columns.length < c
      · rw [if_pos hc, hpast hc]
        exact ⟨fun h => ⟨⟨rfl, rfl⟩, by omega, by omega, by omega, fun _ => h⟩,
          fun h => h.2.2.2.2 hc⟩
      rw [if_neg hc, hits_indexAnswer hsplit hnext ⟨by omega, by omega⟩]
      exact ⟨fun h => ⟨⟨rfl, rfl⟩, by omega, h.1, h.2, fun h' => absurd h' hc⟩,
        fun h => ⟨h.2.2.1, h.2.2.2.1⟩⟩
  | i :: j :: rest =>
      rw [columnAnswer, Reaches]
      · by_cases h0 : c = 0
        · rw [if_pos h0]
          exact iff_of_false not_hits_none fun h => by omega
        rw [if_neg h0]
        by_cases hc : T.columns.length < c
        · rw [if_pos hc, hpast hc]
          exact ⟨fun h => ⟨⟨rfl, rfl⟩, hc, h⟩, fun h => h.2.2⟩
        · rw [if_neg hc]
          exact iff_of_false not_hits_none fun h => hc h.2.1
      · rintro ⟨⟩
      · rintro i' ⟨⟩

/-- **The arcs below a table from which the next instance is reached.** -/
theorem hits_answer (hsplit : places = before ++ .table T :: after)
    (hempty : HitsFirst B after (ifEmpty []) ↔ IfEmpty)
    (hentry : HitsFirst B after (ifEmpty [1]) ↔ IfEntry)
    (hnext : HitsFirst B after next ↔ Next) :
    Hits B (T.path ++ rest) (T.answer B ifEmpty next left rest) ↔
      T.Reaches B IfEmpty IfEntry Next rest := by
  have hT : Place.table T ∈ places := by rw [hsplit]; simp
  -- a table without rows has no instances
  have hnone : ¬ 1 ≤ T.rows B → ∀ a, Hits B (T.path ++ rest) a ↔ HitsFirst B after a :=
    fun hrows a => hits_beyond hsplit (fun c' i' _ h1 h2 => by omega)
  match rest with
  | [] =>
      rw [answer, Reaches]
      by_cases hrows : 1 ≤ T.rows B
      · rw [if_pos hrows]
        exact iff_of_true (hits_firstCell hsplit hrows (List.nil_lt_cons _ _)) (.inl hrows)
      · rw [if_neg hrows, hnone hrows, hempty, or_iff_right hrows]
  | [e] =>
      rw [answer, Reaches]
      by_cases he : e = 1
      · subst he
        rw [if_neg (by simp)]
        by_cases hrows : 1 ≤ T.rows B
        · rw [if_pos hrows]
          exact iff_of_true (hits_firstCell hsplit hrows (by simp)) ⟨rfl, .inl hrows⟩
        · rw [if_neg hrows, hnone hrows, hentry, or_iff_right hrows]
          exact (and_iff_right rfl).symm
      · rw [if_pos he]
        exact iff_of_false not_hits_blank fun h => he h.1
  | [e, e'] =>
      rw [answer, Reaches]
      by_cases he : e = 1 ∧ e' = 1
      · obtain ⟨rfl, rfl⟩ := he
        rw [if_neg (by simp)]
        by_cases hrows : 1 ≤ T.rows B
        · rw [if_pos hrows]
          exact iff_of_true (hits_firstCell hsplit hrows (by simp)) ⟨⟨rfl, rfl⟩, hrows⟩
        · rw [if_neg hrows]
          exact iff_of_false (not_hits_stray (.entry T hT)) fun h => hrows h.2
      · rw [if_pos (not_and_or.mp he)]
        exact iff_of_false not_hits_blank fun h => he h.1
  | e :: e' :: c :: rest =>
      rw [answer]
      by_cases he : e = 1 ∧ e' = 1
      · obtain ⟨rfl, rfl⟩ := he
        rw [if_neg (by simp)]
        exact hits_columnAnswer hsplit hnext
      · rw [if_pos (not_and_or.mp he)]
        refine iff_of_false not_hits_blank fun h => he ?_
        cases rest with
        | nil => exact h.1
        | cons i rest => cases rest <;> exact h.1

end answer

end Table

/-! ## At and below a list of scalars -/

namespace ScalarList

variable {S : ScalarList} {before after : List Place} {s x : Nat} {up onward : Option Reply}
  {Up Onward : Prop}

/-- The arcs below a list of scalars at which GET_NEXT hits the next instance: `Up` is for the
OIDs past the last scalar, `Onward` for the instance of the last one. Further arcs have to name
the scalar after the first one. -/
def Reaches (S : ScalarList) (Up Onward : Prop) : Oid → Prop
  | [] => True
  | [s] => 1 ≤ s ∧ (S.scalars.length < s → Up)
  | s :: 0 :: _ =>
      1 ≤ s ∧ (S.scalars.length < s → Up) ∧ (s = S.scalars.length → Onward)
  | s :: a :: as =>
      1 ≤ s ∧ (S.scalars.length < s → Up) ∧
        (s ≤ S.scalars.length → chainEnd S.scalars.length s (a :: as) = (s + 1, .found) ∨
          (s = S.scalars.length ∧ (chainEnd S.scalars.length s (a :: as)).2 = .oidOverList ∧ Up))

theorem scalar_lt_iff : s :: rest < [x, 0] ↔ s < x ∨ s = x ∧ rest < [0] :=
  List.cons_lt_cons_iff

/-- The instance of a scalar is a hit when no other one comes before it. -/
theorem hits_instance (hsplit : places = before ++ .scalars S :: after)
    (hx : 1 ≤ x ∧ x ≤ S.scalars.length) (hlt : rest < [x, 0])
    (hle : ∀ x', 1 ≤ x' → rest < [x', 0] → x ≤ x') :
    Hits B (S.path ++ rest) (some (S.instanceReply B x)) := by
  refine ⟨_, rfl, isNext_of_has hsplit ⟨x, hx, rfl⟩ (lt_instance hlt) ?_⟩
  rintro z ⟨x', hx', rfl⟩ hz
  have hxx : x ≤ x' := hle x' hx'.1 ((append_lt_append_iff S.path).mp hz)
  rw [append_le_append_iff, cons_le_cons_iff]
  rcases Nat.eq_or_lt_of_le hxx with rfl | h
  · exact .inr ⟨rfl, le_refl _⟩
  · exact .inl h

/-- Past the last scalar. -/
theorem hits_beyond {a : Option Reply} (hsplit : places = before ++ .scalars S :: after)
    (hpast : ∀ x', x' ≤ S.scalars.length → ¬ rest < [x', 0]) :
    Hits B (S.path ++ rest) a ↔ HitsFirst B after a := by
  refine hits_past (p := .scalars S) hsplit ?_
  rintro z ⟨x', hx', rfl⟩ hz
  exact hpast x' hx'.2 ((append_lt_append_iff S.path).mp hz)

/-- **Further arcs** below a scalar are followed by the instance of the scalar after it. -/
theorem isNext_succ {a : Nat} {as : Oid} (hsplit : places = before ++ .scalars S :: after)
    (ha : 1 ≤ a) (hlast : s < S.scalars.length) :
    IsNext (instanceSet B) (S.path ++ s :: a :: as) (S.path ++ [s + 1, 0]) := by
  have hsucc : s :: a :: as < [s + 1, 0] := scalar_lt_iff.mpr (.inl (Nat.lt_succ_self s))
  have hle : ∀ x', 1 ≤ x' → s :: a :: as < [x', 0] → s + 1 ≤ x' := by
    intro x' _ hlt
    rcases scalar_lt_iff.mp hlt with h | ⟨-, h⟩
    · exact h
    · rcases List.cons_lt_cons_iff.mp h with h | ⟨h, -⟩ <;> omega
  obtain ⟨o, ho, hnext⟩ := hits_instance (B := B) hsplit ⟨by omega, hlast⟩ hsucc hle
  obtain rfl : S.path ++ [s + 1, 0] = o := Option.some.inj ho
  exact hnext

/-- **Further arcs** reach the next instance when the last one names the scalar after the first
one, and below the last scalar when they lead past the end of the list. -/
theorem hits_chain {a : Nat} {as : Oid} (hsplit : places = before ++ .scalars S :: after)
    (hup : HitsFirst B after up ↔ Up)
    (hother : ∀ o, up.bind Reply.oid = some o → ¬ (Place.scalars S).Has B o)
    (hs : 1 ≤ s ∧ s ≤ S.scalars.length) :
    Hits B (S.path ++ s :: (a + 1) :: as)
        (S.scalarSearch (S.instanceReply B) up onward s ((a + 1) :: as)) ↔
      chainEnd S.scalars.length s ((a + 1) :: as) = (s + 1, .found) ∨
        (s = S.scalars.length ∧ (chainEnd S.scalars.length s ((a + 1) :: as)).2 = .oidOverList ∧
          Up) := by
  have hlt_iff : ∀ {x}, s :: (a + 1) :: as < [x, 0] → s < x := by
    intro x hlt
    rcases scalar_lt_iff.mp hlt with h | ⟨-, h⟩
    · exact h
    · rcases List.cons_lt_cons_iff.mp h with h | ⟨h, -⟩ <;> omega
  have hbeyond : s = S.scalars.length → ∀ x', x' ≤ S.scalars.length →
      ¬ s :: (a + 1) :: as < [x', 0] := fun hlast x' hx' hlt => by
    have h := hlt_iff hlt
    omega
  rw [scalarSearch]
  · obtain ⟨-, -, -, -, hle, -⟩ := oidElements_chain (S := S) ((a + 1) :: as) hs.1 hs.2 0 0 [] ""
    have hstatus := chainEnd_status S.scalars.length s ((a + 1) :: as)
    generalize chainEnd S.scalars.length s ((a + 1) :: as) = e at hle hstatus ⊢
    obtain ⟨x, status⟩ := e
    simp only [List.mem_cons, List.not_mem_nil, or_false] at hle hstatus
    rcases hstatus with rfl | rfl | rfl
    · -- a scalar is found
      constructor
      · rintro ⟨o, ho, hnext⟩
        obtain rfl : S.path ++ [x, 0] = o := Option.some.inj ho
        have hsx : s < x := hlt_iff ((append_lt_append_iff S.path).mp hnext.lt)
        have hsucc : IsNext (instanceSet B) (S.path ++ s :: (a + 1) :: as)
            (S.path ++ [s + 1, 0]) := isNext_succ hsplit (by omega) (hsx.trans_le hle)
        have heq := List.append_cancel_left (hnext.unique hsucc)
        obtain rfl : x = s + 1 := (List.cons.inj heq).1
        exact .inl rfl
      · rintro (h | ⟨-, h, -⟩)
        · obtain ⟨rfl, -⟩ := Prod.mk.inj h
          exact ⟨_, rfl, isNext_succ hsplit (by omega) hle⟩
        · cases h
    · -- the search goes up, where the scalar after it is left out
      by_cases hlast : s = S.scalars.length
      · show Hits B (S.path ++ s :: (a + 1) :: as) up ↔ _
        rw [hits_beyond hsplit (hbeyond hlast), hup]
        simp [hlast]
      · refine iff_of_false ?_ ?_
        · rintro ⟨o, ho, hnext⟩
          have hmore : s < S.scalars.length := by omega
          have hz : (Place.scalars S).Has B (S.path ++ [s + 1, 0]) :=
            ⟨s + 1, ⟨by omega, hmore⟩, rfl⟩
          refine hother o ho (has_of_isNext hsplit hnext hz ?_)
          exact (isNext_succ (B := B) hsplit (Nat.le_add_left 1 a) hmore).lt
        · simp [hlast]
    · exact iff_of_false not_hits_none (by simp)
  · intro tail h
    cases h

/-- **The arcs below a list of scalars from which the next instance is reached.** -/
theorem hits_answer (hsplit : places = before ++ .scalars S :: after)
    (hup : HitsFirst B after up ↔ Up)
    (hother : ∀ o, up.bind Reply.oid = some o → ¬ (Place.scalars S).Has B o)
    (honward : ∀ tail, rest = S.scalars.length :: 0 :: tail → (HitsFirst B after onward ↔ Onward)) :
    Hits B (S.path ++ rest) (S.answer B up onward rest) ↔ S.Reaches Up Onward rest := by
  -- past the last scalar a search goes up
  have hover : ∀ {s as}, S.scalars.length < s → (Hits B (S.path ++ s :: as) up ↔ Up) := by
    intro s as hs
    rw [hits_beyond hsplit, hup]
    intro x' hx' hlt
    rcases scalar_lt_iff.mp hlt with h | ⟨rfl, -⟩ <;> omega
  match rest with
  | [] =>
      refine iff_of_true (hits_instance hsplit ⟨Nat.le_refl 1, S.scalars_pos⟩ ?_ ?_) trivial
      · exact List.nil_lt_cons _ _
      · exact fun x' hx' _ => hx'
  | [s] =>
      rw [answer, search, Reaches]
      by_cases hs : s > S.scalars.length
      · rw [if_pos hs, hover hs]
        exact ⟨fun h => ⟨by omega, fun _ => h⟩, fun h => h.2 hs⟩
      rw [if_neg hs]
      by_cases h0 : s = 0
      · rw [if_pos h0]
        exact iff_of_false not_hits_none fun h => by omega
      rw [if_neg h0]
      refine iff_of_true (hits_instance hsplit ⟨by omega, by omega⟩ ?_ ?_)
        ⟨by omega, fun h => absurd h hs⟩
      · exact scalar_lt_iff.mpr (.inr ⟨rfl, List.nil_lt_cons _ _⟩)
      · intro x' _ hlt
        rcases scalar_lt_iff.mp hlt with h | ⟨rfl, -⟩
        · exact h.le
        · exact Nat.le_refl _
  | s :: 0 :: as =>
      rw [answer, search, Reaches, scalarSearch]
      by_cases hs : s > S.scalars.length
      · rw [if_pos hs, hover hs]
        exact ⟨fun h => ⟨by omega, fun _ => h, by omega⟩, fun h => h.2.1 hs⟩
      rw [if_neg hs]
      by_cases h0 : s = 0
      · rw [if_pos h0]
        exact iff_of_false not_hits_none fun h => by omega
      rw [if_neg h0]
      -- nothing below the instance of a scalar comes before the scalar after it
      have hbelow : ∀ x', s :: 0 :: as < [x', 0] → s < x' := by
        intro x' hlt
        rcases scalar_lt_iff.mp hlt with h | ⟨-, h⟩
        · exact h
        · rcases List.cons_lt_cons_iff.mp h with h | ⟨-, h⟩
          · omega
          · exact absurd h (List.not_lt_nil _)
      by_cases hlast : s < S.scalars.length
      · rw [if_pos hlast]
        refine iff_of_true (hits_instance hsplit ⟨by omega, hlast⟩ ?_ fun x' _ => hbelow x')
          ⟨by omega, fun h => absurd h hs, by omega⟩
        exact scalar_lt_iff.mpr (.inl (Nat.lt_succ_self s))
      · obtain rfl : s = S.scalars.length := by omega
        rw [if_neg hlast, hits_beyond hsplit, honward as rfl]
        · exact ⟨fun h => ⟨by omega, fun h' => absurd h' hs, fun _ => h⟩, fun h => h.2.2 rfl⟩
        · exact fun x' hx' hlt => hx'.not_gt (hbelow x' hlt)
  | s :: (a + 1) :: as =>
      have hreaches : S.Reaches Up Onward (s :: (a + 1) :: as) ↔
          1 ≤ s ∧ (S.scalars.length < s → Up) ∧
            (s ≤ S.scalars.length → chainEnd S.scalars.length s ((a + 1) :: as) = (s + 1, .found) ∨
              (s = S.scalars.length ∧
                (chainEnd S.scalars.length s ((a + 1) :: as)).2 = .oidOverList ∧ Up)) := Iff.rfl
      rw [answer, search, hreaches]
      by_cases hs : s > S.scalars.length
      · rw [if_pos hs, hover hs]
        exact ⟨fun h => ⟨by omega, fun _ => h, by omega⟩, fun h => h.2.1 hs⟩
      rw [if_neg hs]
      by_cases h0 : s = 0
      · rw [if_pos h0]
        exact iff_of_false not_hits_none fun h => by omega
      rw [if_neg h0, hits_chain hsplit hup hother ⟨by omega, by omega⟩]
      exact ⟨fun h => ⟨by omega, fun h' => absurd h' hs, fun _ => h⟩, fun h => h.2.2 (by omega)⟩

end ScalarList

end Snmp
