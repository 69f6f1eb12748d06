import Mathlib.Data.Finset.Max
import Mathlib.Data.Fintype.EquivFin
import Mathlib.Data.List.Sort
import Mathlib.Data.Set.Finite.Basic
import Mathlib.Order.Monotone.Basic

set_option autoImplicit false

/-! # Walks through an ordered set

The elements of a finite set of a linear order are visited by asking, from each of them, for the
next one. A `next` function that gives the next element of the set walks through it in increasing
order, each element once, and then ends (`walk_complete`); a walk that does so was given the next
element each time (`next_of_walk`). `Visits` is what has been visited by a walk that ends; a walk
that only goes upwards within the set cannot go on for ever (`no_infinite_walk`).
-/

namespace OrderedWalk

variable {α : Type*} [LinearOrder α]

/-- `y` is the next element of `S` after `x`. -/
def IsNext (S : Set α) (x y : α) : Prop := IsLeast {z | z ∈ S ∧ x < z} y

variable {S : Set α} {p x y z : α}

theorem IsNext.mem (h : IsNext S x y) : y ∈ S := h.1.1

theorem IsNext.lt (h : IsNext S x y) : x < y := h.1.2

theorem IsNext.le (h : IsNext S x y) (hz : z ∈ S) (hxz : x < z) : y ≤ z := h.2 ⟨hz, hxz⟩

theorem IsNext.unique (h : IsNext S x y) (h' : IsNext S x z) : y = z := IsLeast.unique h h'

theorem isNext_of (hy : y ∈ S) (hxy : x < y) (hle : ∀ z ∈ S, x < z → y ≤ z) : IsNext S x y :=
  ⟨⟨hy, hxy⟩, fun z hz => hle z hz.1 hz.2⟩

/-- There is a next element of a finite set where there is a larger one. -/
theorem exists_isNext (S : Finset α) (hz : z ∈ S) (hxz : x < z) : ∃ y, IsNext (S : Set α) x y := by
  have hne : (S.filter (x < ·)).Nonempty := ⟨z, Finset.mem_filter.mpr ⟨hz, hxz⟩⟩
  obtain ⟨hmem, hlt⟩ := Finset.mem_filter.mp (Finset.min'_mem _ hne)
  exact ⟨_, isNext_of hmem hlt fun w hw hxw =>
    Finset.min'_le _ _ (Finset.mem_filter.mpr ⟨hw, hxw⟩)⟩

/-- The elements visited from `x`, at most `n` of them. -/
def walk (next : α → Option α) : Nat → α → List α
  | 0, _ => []
  | n + 1, x =>
      match next x with
      | none => []
      | some y => y :: walk next n y

variable {next : α → Option α}

omit [LinearOrder α] in
theorem walk_some (h : next x = some y) (n : Nat) :
    walk next (n + 1) x = y :: walk next n y := by
  simp only [walk, h]

omit [LinearOrder α] in
theorem walk_none (h : next x = none) (n : Nat) : walk next n x = [] := by
  cases n with
  | zero => rfl
  | succ n => simp only [walk, h]

/-- **A walk that is always given the next element** visits all larger elements in order. -/
theorem walk_complete {S : Finset α} {start : α}
    (hnext : ∀ x, x = start ∨ x ∈ S → ∀ y, next x = some y ↔ IsNext (S : Set α) x y) {n : Nat}
    (hx : x = start ∨ x ∈ S) (hn : (S.filter (x < ·)).card ≤ n) :
    (walk next n x).Pairwise (· < ·) ∧ ∀ y, y ∈ walk next n x ↔ y ∈ S ∧ x < y := by
  induction n generalizing x with
  | zero =>
      have hempty := Finset.card_eq_zero.mp (Nat.le_zero.mp hn)
      refine ⟨List.Pairwise.nil, fun y => ?_⟩
      constructor
      · intro hy
        cases hy
      · rintro hy
        have hmem := Finset.mem_filter.mpr hy
        rw [hempty] at hmem
        exact absurd hmem (Finset.notMem_empty y)
  | succ n ih =>
      cases hy : next x with
      | none =>
          rw [walk_none hy]
          refine ⟨List.Pairwise.nil, fun y => ?_⟩
          constructor
          · intro hmem
            cases hmem
          · rintro ⟨hmem, hlt⟩
            obtain ⟨z, hz⟩ := exists_isNext S hmem hlt
            rw [(hnext x hx z).mpr hz] at hy
            cases hy
      | some y =>
          have hstep := (hnext x hx y).mp hy
          have hyS : y ∈ S := hstep.mem
          have hless : (S.filter (y < ·)).card < (S.filter (x < ·)).card := by
            apply Finset.card_lt_card
            rw [Finset.ssubset_iff_of_subset]
            · exact ⟨y, Finset.mem_filter.mpr ⟨hyS, hstep.lt⟩,
                fun h => lt_irrefl y (Finset.mem_filter.mp h).2⟩
            · intro z hz
              obtain ⟨hzS, hyz⟩ := Finset.mem_filter.mp hz
              exact Finset.mem_filter.mpr ⟨hzS, hstep.lt.trans hyz⟩
          obtain ⟨hsorted, hmem⟩ := ih (.inr hyS) (by omega)
          rw [walk_some hy]
          refine ⟨List.pairwise_cons.mpr ⟨fun z hz => ((hmem z).mp hz).2, hsorted⟩, fun z => ?_⟩
          rw [List.mem_cons, hmem]
          constructor
          · rintro (rfl | ⟨hz, hyz⟩)
            · exact ⟨hyS, hstep.lt⟩
            · exact ⟨hz, hstep.lt.trans hyz⟩
          · rintro ⟨hz, hxz⟩
            rcases (hstep.le hz hxz).eq_or_lt with heq | hlt
            · exact .inl heq.symm
            · exact .inr ⟨hz, hlt⟩

omit [LinearOrder α] in
/-- From each element visited the walk goes on by itself. -/
theorem exists_walk_of_mem {n : Nat} (h : y ∈ walk next n x) :
    ∃ m l, walk next n x = l ++ y :: walk next m y := by
  induction n generalizing x with
  | zero => cases h
  | succ n ih =>
      cases hx : next x with
      | none =>
          rw [walk_none hx] at h
          cases h
      | some z =>
          rw [walk_some hx] at h ⊢
          rcases List.mem_cons.mp h with rfl | hmem
          · exact ⟨n, [], rfl⟩
          · obtain ⟨m, l, hl⟩ := ih hmem
            exact ⟨m, z :: l, by rw [hl]; rfl⟩

omit [LinearOrder α] in
/-- What is visited has been given. -/
theorem exists_of_mem_walk {n : Nat} (h : y ∈ walk next n x) : ∃ z, next z = some y := by
  induction n generalizing x with
  | zero => cases h
  | succ n ih =>
      cases hx : next x with
      | none =>
          rw [walk_none hx] at h
          cases h
      | some z =>
          rw [walk_some hx] at h
          rcases List.mem_cons.mp h with rfl | hmem
          · exact ⟨x, hx⟩
          · exact ih hmem

/-- The first element visited is the next one of what is visited. -/
theorem next_of_mem_walk {n : Nat} (hsorted : (walk next n x).Pairwise (· < ·))
    (hnext : IsNext S x y) (hy : y ∈ walk next n x) (hS : ∀ z ∈ walk next n x, z ∈ S ∧ x < z) :
    next x = some y := by
  cases n with
  | zero => cases hy
  | succ n =>
      cases hx : next x with
      | none =>
          rw [walk_none hx] at hy
          cases hy
      | some z =>
          rw [walk_some hx] at hy hsorted hS
          obtain ⟨hzS, hxz⟩ := hS z List.mem_cons_self
          have hle := hnext.le hzS hxz
          rcases List.mem_cons.mp hy with rfl | hmem
          · rfl
          · have hlt := (List.pairwise_cons.mp hsorted).1 y hmem
            exact absurd hle (not_le.mpr hlt)

/-- **A walk through all of `S` was given the next element each time.** -/
theorem next_of_walk {n : Nat} {start : α} (hsorted : (walk next n start).Pairwise (· < ·))
    (hmem : ∀ z, z ∈ walk next n start ↔ z ∈ S ∧ start < z)
    (hx : x = start ∨ x ∈ S ∧ start < x) (hy : IsNext S x y) : next x = some y := by
  rcases hx with rfl | hx
  · exact next_of_mem_walk hsorted hy ((hmem y).mpr ⟨hy.mem, hy.lt⟩) fun z hz => (hmem z).mp hz
  · obtain ⟨m, l, hl⟩ := exists_walk_of_mem ((hmem x).mpr hx)
    rw [hl] at hsorted hmem
    obtain ⟨-, htail, hsplit⟩ := List.pairwise_append.mp hsorted
    obtain ⟨habove, hrest⟩ := List.pairwise_cons.mp htail
    refine next_of_mem_walk hrest hy ?_ fun z hz => ⟨((hmem z).mp ?_).1, habove z hz⟩
    · -- what comes before `x` is smaller
      have hyl := (hmem y).mpr ⟨hy.mem, hx.2.trans hy.lt⟩
      rcases List.mem_append.mp hyl with hbefore | htail
      · exact absurd (hsplit y hbefore x List.mem_cons_self) (not_lt.mpr hy.lt.le)
      · rcases List.mem_cons.mp htail with rfl | hafter
        · exact absurd hy.lt (lt_irrefl _)
        · exact hafter
    · exact List.mem_append_right _ (List.mem_cons_of_mem _ hz)

/-! ## Walks that end -/

/-- The walk from `start` ends, and goes upwards through `T`. -/
def Visits (next : α → Option α) (start : α) (T : Set α) : Prop :=
  ∃ n, (∀ m, n ≤ m → walk next m start = walk next n start) ∧
    (walk next n start).Pairwise (· < ·) ∧ ∀ y, y ∈ walk next n start ↔ y ∈ T

variable {start : α} {T : Set α}

/-- A walk that is given the next element each time ends when it is at the last one. -/
theorem visits_of_next {S : Finset α}
    (hnext : ∀ x, x = start ∨ x ∈ S → ∀ y, next x = some y ↔ IsNext (S : Set α) x y)
    (hstart : ∀ y ∈ S, start < y) : Visits next start S := by
  have hwalk : ∀ m, S.card ≤ m → (walk next m start).Pairwise (· < ·) ∧
      ∀ y, y ∈ walk next m start ↔ y ∈ S := by
    intro m hm
    obtain ⟨hsorted, hmem⟩ := walk_complete hnext (.inl rfl)
      ((Finset.card_le_card (Finset.filter_subset _ S)).trans hm)
    refine ⟨hsorted, fun y => (hmem y).trans ?_⟩
    exact ⟨fun h => h.1, fun h => ⟨h, hstart y h⟩⟩
  obtain ⟨hsorted, hmem⟩ := hwalk S.card (Nat.le_refl _)
  refine ⟨S.card, fun m hm => ?_, hsorted, hmem⟩
  obtain ⟨hsorted', hmem'⟩ := hwalk m hm
  exact hsorted'.eq_of_mem_iff hsorted fun y => (hmem' y).trans (hmem y).symm

/-- What a walk visits is determined. -/
theorem Visits.unique (h : Visits next start S) (h' : Visits next start T) : S = T := by
  obtain ⟨n, hend, -, hmem⟩ := h
  obtain ⟨n', hend', -, hmem'⟩ := h'
  have hsame : walk next n start = walk next n' start :=
    calc walk next n start = walk next (max n n') start := (hend _ (le_max_left n n')).symm
      _ = walk next n' start := hend' _ (le_max_right n n')
  ext y
  rw [← hmem, ← hmem', hsame]

theorem Visits.finite (h : Visits next start S) : ∃ F : Finset α, (F : Set α) = S := by
  obtain ⟨n, -, -, hmem⟩ := h
  exact ⟨(walk next n start).toFinset, by ext y; simp [hmem]⟩

theorem Visits.exists_of_mem (h : Visits next start S) (hy : y ∈ S) : ∃ x, next x = some y := by
  obtain ⟨n, -, -, hmem⟩ := h
  exact exists_of_mem_walk ((hmem y).mpr hy)

/-- **From each element visited the next one was given.** -/
theorem Visits.next_eq (h : Visits next start S) (hstart : ∀ y ∈ S, start < y)
    (hx : x = start ∨ x ∈ S) (hy : IsNext S x y) : next x = some y := by
  obtain ⟨n, -, hsorted, hmem⟩ := h
  refine next_of_walk hsorted (fun z => (hmem z).trans ?_) ?_ hy
  · exact ⟨fun hz => ⟨hz, hstart z hz⟩, fun hz => hz.1⟩
  · exact hx.imp_right fun hx => ⟨hx, hstart x hx⟩

theorem Visits.exists_isNext (h : Visits next start S) (hz : z ∈ S) (hxz : x < z) :
    ∃ y, IsNext S x y := by
  obtain ⟨F, rfl⟩ := h.finite
  exact OrderedWalk.exists_isNext F hz hxz

/-- **A walk upwards within a finite set ends.** -/
theorem no_infinite_walk {S : Finset α} {f : Nat → α} (hmem : ∀ n, f n ∈ S)
    (hlt : ∀ n, f n < f (n + 1)) : False :=
  Set.infinite_of_injective_forall_mem (strictMono_nat_of_lt_succ hlt).injective hmem
    S.finite_toSet

end OrderedWalk
