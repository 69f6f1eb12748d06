import Mathlib.Data.List.Basic
import Mathlib.Data.List.Chain
import Mathlib.Data.List.Induction
import Mathlib.Data.List.ReduceOption

set_option autoImplicit false

/-! # Changes of a sampled signal

A signal is sampled over and over; a sample is a state, or `none` where it shows no state. A
detector that keeps nothing but the last sample emits a state where it follows another one directly
(`changes`). What it has emitted follows the signal at every point exactly when no sample without a
state stands between two states that differ (`follows_iff_unbroken`).
-/

namespace SampledSignal

variable {ε : Type} {xs : List (Option ε)} {x : Option ε} {a b : ε}

/-! ## Samples -/

/-- The last sample, `none` before the first. -/
def lastSample (xs : List (Option ε)) : Option ε := xs.getLast?.join

/-- No sample without a state stands between two states that differ. -/
def Unbroken (xs : List (Option ε)) : Prop :=
  ∀ pre a mid b post, xs = pre ++ some a :: (mid ++ some b :: post) → (∀ x ∈ mid, x = none) →
    a ≠ b → mid = []

/-- The sample `x` is no state that differs from the last one, or comes right after it. -/
def Joined (xs : List (Option ε)) (x : Option ε) : Prop :=
  ∀ a b, x = some b → xs.reduceOption.getLast? = some a → a ≠ b → lastSample xs = some a

@[simp] theorem lastSample_concat (xs : List (Option ε)) (x : Option ε) :
    lastSample (xs ++ [x]) = x := by
  rw [lastSample, List.getLast?_concat]
  rfl

@[simp] theorem reduceOption_concat_none (xs : List (Option ε)) :
    (xs ++ [none]).reduceOption = xs.reduceOption := by
  simp [List.reduceOption_append]

@[simp] theorem reduceOption_concat_some (xs : List (Option ε)) (b : ε) :
    (xs ++ [some b]).reduceOption = xs.reduceOption ++ [b] := by
  simp [List.reduceOption_append]

/-- A last sample that is a state is the last state. -/
theorem getLast?_reduceOption (h : lastSample xs = some a) :
    xs.reduceOption.getLast? = some a := by
  rcases List.eq_nil_or_concat xs with rfl | ⟨ys, y, rfl⟩
  · cases h
  · rw [List.concat_eq_append, lastSample_concat] at h
    rw [List.concat_eq_append, h, ← List.concat_eq_append, List.reduceOption_concat_of_some,
      List.concat_eq_append, List.getLast?_concat]

/-- Behind the last state no sample shows one. -/
theorem exists_last_state (h : xs.reduceOption.getLast? = some a) :
    ∃ pre mid, xs = pre ++ some a :: mid ∧ ∀ y ∈ mid, y = none := by
  induction xs using List.reverseRecOn with
  | nil => cases h
  | append_singleton xs y ih =>
      cases y with
      | none =>
          rw [reduceOption_concat_none] at h
          obtain ⟨pre, mid, rfl, hmid⟩ := ih h
          refine ⟨pre, mid ++ [none], by simp, ?_⟩
          rw [List.forall_mem_append, List.forall_mem_singleton]
          exact ⟨hmid, rfl⟩
      | some c =>
          rw [getLast?_reduceOption (lastSample_concat xs (some c))] at h
          exact ⟨xs, [], by rw [Option.some.inj h], List.forall_mem_nil _⟩

/-- A last sample that is joined to the samples before it. -/
theorem unbroken_concat_iff : Unbroken (xs ++ [x]) ↔ Unbroken xs ∧ Joined xs x := by
  constructor
  · intro h
    refine ⟨?_, ?_⟩
    · intro pre a mid b post hxs hmid hne
      exact h pre a mid b (post ++ [x]) (by simp [hxs]) hmid hne
    · rintro a b rfl hlast hne
      obtain ⟨pre, mid, rfl, hmid⟩ := exists_last_state hlast
      have hnil := h pre a mid b [] (by simp) hmid hne
      rw [hnil]
      exact lastSample_concat pre (some a)
  · rintro ⟨hxs, hjoined⟩ pre a mid b post heq hmid hne
    rcases List.eq_nil_or_concat post with rfl | ⟨post, y, rfl⟩
    · have hsplit : xs ++ [x] = (pre ++ some a :: mid) ++ [some b] := by simpa using heq
      obtain ⟨rfl, hx⟩ := List.append_inj' hsplit rfl
      rw [List.singleton_inj] at hx
      have hnone : mid.reduceOption = [] := by
        rw [List.reduceOption, List.filterMap_eq_nil_iff]
        exact hmid
      have hlast : (pre ++ some a :: mid).reduceOption.getLast? = some a := by
        rw [List.reduceOption_append, List.reduceOption_cons_of_some, hnone, List.getLast?_concat]
      have hadjacent := hjoined a b hx hlast hne
      rcases List.eq_nil_or_concat mid with rfl | ⟨mid, z, rfl⟩
      · rfl
      · have hz : z = none := hmid z (by simp)
        have hshown : pre ++ some a :: mid.concat z = (pre ++ some a :: mid) ++ [z] := by simp
        rw [hshown, lastSample_concat, hz] at hadjacent
        cases hadjacent
    · have hsplit : xs ++ [x] = (pre ++ some a :: (mid ++ some b :: post)) ++ [y] := by
        simpa using heq
      obtain ⟨rfl, -⟩ := List.append_inj' hsplit rfl
      exact hxs pre a mid b post rfl hmid hne

/-! ## Changes -/

variable [DecidableEq ε]

/-- What is emitted for a sample that comes after another. -/
def change : Option ε → Option ε → List ε
  | some a, some b => if a = b then [] else [b]
  | _, _ => []

/-- What is emitted for samples that come after `prev`. -/
def changesFrom (prev : Option ε) : List (Option ε) → List ε
  | [] => []
  | x :: xs => change prev x ++ changesFrom x xs

/-- What is emitted for the samples from the first one on. -/
def changes (xs : List (Option ε)) : List ε := changesFrom none xs

/-- **What is emitted follows the signal**: no state is emitted twice in a row, and when two
states have been sampled the last one emitted is the last one sampled. -/
structure Follows (xs : List (Option ε)) : Prop where
  alternate : (changes xs).IsChain (· ≠ ·)
  last : ∀ a ∈ xs.reduceOption, ∀ b ∈ xs.reduceOption, a ≠ b →
    (changes xs).getLast? = xs.reduceOption.getLast?

@[simp] theorem change_none (prev : Option ε) : change prev none = [] := by
  cases prev <;> rfl

theorem changesFrom_concat (prev : Option ε) (xs : List (Option ε)) (x : Option ε) :
    changesFrom prev (xs ++ [x]) = changesFrom prev xs ++ change (xs.getLast?.getD prev) x := by
  induction xs generalizing prev with
  | nil => simp [changesFrom]
  | cons y xs ih =>
      rw [List.cons_append, changesFrom, changesFrom, ih, List.append_assoc, List.getLast?_cons,
        Option.getD_some]

theorem changes_concat (xs : List (Option ε)) (x : Option ε) :
    changes (xs ++ [x]) = changes xs ++ change (lastSample xs) x := by
  have hlast : lastSample xs = xs.getLast?.getD none := by
    unfold lastSample
    cases xs.getLast? <;> rfl
  rw [changes, changesFrom_concat, hlast, changes]

/-- A change is to a state that differs from the one before it. -/
theorem exists_of_mem_changes (h : b ∈ changes xs) :
    b ∈ xs.reduceOption ∧ ∃ a ∈ xs.reduceOption, a ≠ b := by
  induction xs using List.reverseRecOn with
  | nil => cases h
  | append_singleton xs x ih =>
      rw [changes_concat, List.mem_append] at h
      rw [List.reduceOption_append]
      rcases h with h | h
      · obtain ⟨hb, a, ha, hne⟩ := ih h
        exact ⟨List.mem_append_left _ hb, a, List.mem_append_left _ ha, hne⟩
      · unfold change at h
        split at h
        · rename_i a c hlast
          split at h
          · cases h
          · rename_i hne
            rw [List.mem_singleton] at h
            subst h
            have ha := List.mem_of_getLast? (getLast?_reduceOption hlast)
            refine ⟨List.mem_append_right _ ?_, a, List.mem_append_left _ ha, hne⟩
            simp
        · cases h

/-! ## One more sample -/

/-- Nothing is emitted where there is no state in front of the sample. -/
theorem changes_concat_of_none (h : lastSample xs = none) : changes (xs ++ [x]) = changes xs := by
  rw [changes_concat, h, change, List.append_nil]
  nofun

namespace Follows

/-- Once something has been emitted, the last state emitted is the last one sampled. -/
theorem getLast?_states (h : Follows xs) (hb : (changes xs).getLast? = some b) :
    xs.reduceOption.getLast? = some b := by
  obtain ⟨hmem, a, ha, hne⟩ := exists_of_mem_changes (List.mem_of_getLast? hb)
  rw [← h.last a ha b hmem hne, hb]

theorem concat_none (h : Follows xs) : Follows (xs ++ [none]) := by
  have hquiet : changes (xs ++ [none]) = changes xs := by
    rw [changes_concat, change_none, List.append_nil]
  refine ⟨?_, ?_⟩
  · rw [hquiet]
    exact h.alternate
  · rw [hquiet, reduceOption_concat_none]
    exact h.last

/-- The first state. -/
theorem concat_first (h : Follows xs) (hnil : xs.reduceOption = []) (b : ε) :
    Follows (xs ++ [some b]) := by
  have hnone : lastSample xs = none := by
    cases hs : lastSample xs with
    | none => rfl
    | some a =>
        have hlast := getLast?_reduceOption hs
        rw [hnil] at hlast
        cases hlast
  refine ⟨?_, ?_⟩
  · rw [changes_concat_of_none hnone]
    exact h.alternate
  · intro a ha c hc hne
    rw [reduceOption_concat_some, hnil, List.nil_append, List.mem_singleton] at ha hc
    exact absurd (ha.trans hc.symm) hne

/-- The last state is sampled again. -/
theorem concat_again (h : Follows xs) (hlast : xs.reduceOption.getLast? = some a) :
    Follows (xs ++ [some a]) := by
  have hquiet : changes (xs ++ [some a]) = changes xs := by
    cases hs : lastSample xs with
    | none => exact changes_concat_of_none hs
    | some c =>
        obtain rfl : c = a := by
          rw [getLast?_reduceOption hs] at hlast
          exact Option.some.inj hlast
        rw [changes_concat, hs, change, if_pos rfl, List.append_nil]
  have hold : ∀ c ∈ xs.reduceOption ++ [a], c ∈ xs.reduceOption := by
    intro c hc
    rcases List.mem_append.mp hc with hc | hc
    · exact hc
    · exact List.mem_singleton.mp hc ▸ List.mem_of_getLast? hlast
  refine ⟨?_, ?_⟩
  · rw [hquiet]
    exact h.alternate
  · rw [hquiet, reduceOption_concat_some, List.getLast?_concat, ← hlast]
    exact fun c hc d hd => h.last c (hold c hc) d (hold d hd)

/-- The change to another state is seen. -/
theorem concat_change (h : Follows xs) (hs : lastSample xs = some a) (hne : a ≠ b) :
    Follows (xs ++ [some b]) := by
  have hemit : changes (xs ++ [some b]) = changes xs ++ [b] := by
    rw [changes_concat, hs, change, if_neg hne]
  refine ⟨?_, ?_⟩
  · rw [hemit, List.isChain_append]
    refine ⟨h.alternate, List.isChain_singleton b, ?_⟩
    intro e he c hc
    have hlast := h.getLast?_states he
    rw [getLast?_reduceOption hs] at hlast
    rw [List.head?_cons, Option.mem_some] at hc
    rw [← hc, ← Option.some.inj hlast]
    exact hne
  · rw [hemit, reduceOption_concat_some, List.getLast?_concat, List.getLast?_concat]
    exact fun _ _ _ _ _ => rfl

/-- It is not, where the sample in front of it shows no state. -/
theorem not_concat (h : Follows xs) (hs : lastSample xs = none)
    (hlast : xs.reduceOption.getLast? = some a) (hne : a ≠ b) : ¬Follows (xs ++ [some b]) := by
  intro hfollows
  have ha : a ∈ (xs ++ [some b]).reduceOption := by
    rw [reduceOption_concat_some]
    exact List.mem_append_left _ (List.mem_of_getLast? hlast)
  have hlate := hfollows.last a ha b (by simp) hne
  rw [changes_concat_of_none hs, reduceOption_concat_some, List.getLast?_concat] at hlate
  have hstate := h.getLast?_states hlate
  rw [hlast] at hstate
  exact hne (Option.some.inj hstate)

/-- **A sample keeps what is emitted along the signal exactly when it is joined to the last
state.** -/
theorem concat_iff (h : Follows xs) : Follows (xs ++ [x]) ↔ Joined xs x := by
  cases x with
  | none => exact iff_of_true h.concat_none nofun
  | some b =>
      cases hlast : xs.reduceOption.getLast? with
      | none =>
          refine iff_of_true (h.concat_first (List.getLast?_eq_none_iff.mp hlast) b) ?_
          intro a c _ ha
          rw [hlast] at ha
          cases ha
      | some a =>
          by_cases hab : a = b
          · subst hab
            refine iff_of_true (h.concat_again hlast) ?_
            intro c d hd hc hne
            rw [hlast] at hc
            exact absurd ((Option.some.inj hc).symm.trans (Option.some.inj hd)) hne
          cases hs : lastSample xs with
          | none =>
              refine iff_of_false (h.not_concat hs hlast hab) ?_
              intro hjoined
              have hseen := hjoined a b rfl hlast hab
              rw [hs] at hseen
              cases hseen
          | some c =>
              obtain rfl : c = a := by
                rw [getLast?_reduceOption hs] at hlast
                exact Option.some.inj hlast
              refine iff_of_true (h.concat_change hs hab) ?_
              intro d e _ hd _
              rw [hlast] at hd
              rw [hs, hd]

end Follows

/-- **What is emitted follows the signal at every point exactly when the signal is unbroken.** -/
theorem follows_iff_unbroken : (∀ p, p <+: xs → Follows p) ↔ Unbroken xs := by
  induction xs using List.reverseRecOn with
  | nil =>
      refine iff_of_true ?_ ?_
      · intro p hp
        rw [List.prefix_nil.mp hp]
        exact ⟨List.isChain_nil, nofun⟩
      · intro pre a mid b post heq
        simp at heq
  | append_singleton xs x ih =>
      rw [unbroken_concat_iff, ← ih]
      constructor
      · intro h
        have hxs : ∀ p, p <+: xs → Follows p := fun p hp =>
          h p (hp.trans (List.prefix_append _ _))
        exact ⟨hxs, (hxs xs (List.prefix_refl _)).concat_iff.mp (h _ (List.prefix_refl _))⟩
      · rintro ⟨hxs, hjoined⟩ p hp
        rcases List.prefix_concat_iff.mp hp with rfl | hp
        · exact (hxs xs (List.prefix_refl _)).concat_iff.mpr hjoined
        · exact hxs p hp

end SampledSignal
