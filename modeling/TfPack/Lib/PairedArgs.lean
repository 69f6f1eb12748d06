import Mathlib.Data.List.Infix
import Mathlib.Data.List.Nodup
import Mathlib.Data.List.Perm.Subperm

set_option autoImplicit false

/-! # Arguments in pairs

A command line of keys and values, and a reader that goes through it and through a list of known
keys in lockstep: a pair is taken only where its key stands at the same place in that list. Such a
reader takes some of the pairs (`inPlace_sublist`), and all of them exactly when their keys are a
prefix of the list (`inPlace_eq_iff`).
-/

namespace PairedArgs

variable {α : Type} {empty : α} {params : List α} {pairs : List (α × α)}

/-- The arguments of some pairs. -/
def arguments (pairs : List (α × α)) : List α := pairs.flatMap (fun p => [p.1, p.2])

/-- A command line of pairs: their keys are known and differ, and no value is empty. -/
structure CommandLine (params : List α) (empty : α) where
  pairs : List (α × α)
  known : ∀ p ∈ pairs, p.1 ∈ params
  distinct : (pairs.map Prod.fst).Nodup
  valued : ∀ p ∈ pairs, p.2 ≠ empty

/-- The keys of a command line. -/
def CommandLine.keys (c : CommandLine params empty) : List α := c.pairs.map Prod.fst

variable [DecidableEq α]

/-- The pairs whose key stands at its place in the list. -/
def inPlace (empty : α) : List α → List α → List (α × α)
  | param :: params, key :: value :: args =>
      if key = param ∧ value ≠ empty then (param, value) :: inPlace empty params args
      else inPlace empty params args
  | _, _ => []

/-- A reader takes the pairs of a command line: all of them, and no others. -/
def Takes (read : List α → List (α × α)) (c : CommandLine params empty) : Prop :=
  ∀ k, (read (arguments c.pairs)).lookup k = c.pairs.lookup k

/-! ## What is taken -/

theorem inPlace_nil (params : List α) : inPlace empty params [] = [] := by
  cases params <;> rfl

/-- **Only pairs of the command line are taken**, in their order. -/
theorem inPlace_sublist (empty : α) (params : List α) (pairs : List (α × α)) :
    (inPlace empty params (arguments pairs)).Sublist pairs := by
  induction pairs generalizing params with
  | nil =>
      rw [arguments, List.flatMap_nil, inPlace_nil]
  | cons p pairs ih =>
      cases params with
      | nil => exact List.nil_sublist _
      | cons param params =>
          show (inPlace empty (param :: params) (p.1 :: p.2 :: arguments pairs)).Sublist _
          rw [inPlace]
          split
          · rename_i h
            rw [← h.1]
            exact (ih params).cons_cons p
          · exact (ih params).cons p

/-- **All pairs are taken exactly when their keys are the first of the list.** -/
theorem inPlace_eq_iff (h : ∀ p ∈ pairs, p.2 ≠ empty) :
    inPlace empty params (arguments pairs) = pairs ↔ pairs.map Prod.fst <+: params := by
  induction pairs generalizing params with
  | nil =>
      rw [arguments, List.flatMap_nil, inPlace_nil]
      exact iff_of_true rfl (List.nil_prefix)
  | cons p pairs ih =>
      rw [List.forall_mem_cons] at h
      cases params with
      | nil => exact iff_of_false nofun (by simp)
      | cons param params =>
          show inPlace empty (param :: params) (p.1 :: p.2 :: arguments pairs) = _ ↔ _
          rw [inPlace, List.map_cons, List.cons_prefix_cons]
          by_cases hkey : p.1 = param
          · rw [if_pos ⟨hkey, h.1⟩, ← hkey, List.cons.injEq, ih h.2]
            exact ⟨fun hboth => ⟨rfl, hboth.2⟩, fun hboth => ⟨rfl, hboth.2⟩⟩
          · rw [if_neg (fun hboth => hkey hboth.1)]
            refine iff_of_false (fun heq => ?_) (fun hboth => hkey hboth.1)
            have hlen := (inPlace_sublist empty params pairs).length_le
            rw [heq, List.length_cons] at hlen
            omega

theorem lookup_of_mem (h : (pairs.map Prod.fst).Nodup) {p : α × α} (hp : p ∈ pairs) :
    pairs.lookup p.1 = some p.2 := by
  induction pairs with
  | nil => cases hp
  | cons q pairs ih =>
      rw [List.map_cons, List.nodup_cons] at h
      rcases List.mem_cons.mp hp with rfl | hp
      · exact List.lookup_cons_self
      · have hne : (p.1 == q.1) = false := by
          rw [beq_eq_false_iff_ne]
          intro heq
          exact h.1 (heq ▸ List.mem_map_of_mem hp)
        rw [List.lookup_cons, hne]
        exact ih h.2 hp

theorem mem_of_lookup {k v : α} (h : pairs.lookup k = some v) : (k, v) ∈ pairs := by
  induction pairs with
  | nil => cases h
  | cons q pairs ih =>
      rw [List.lookup_cons] at h
      cases hk : k == q.1 with
      | true =>
          simp only [hk, Option.some.injEq] at h
          rw [beq_iff_eq] at hk
          rw [hk, ← h]
          exact List.mem_cons_self
      | false =>
          simp only [hk] at h
          exact List.mem_cons_of_mem q (ih h)

/-- **A command line is taken exactly when its keys are the first of the list.** -/
theorem takes_inPlace_iff (c : CommandLine params empty) :
    Takes (inPlace empty params) c ↔ c.keys <+: params := by
  rw [CommandLine.keys, ← inPlace_eq_iff c.valued]
  constructor
  · intro h
    -- every pair is taken, so none can be left out
    have hall : c.pairs ⊆ inPlace empty params (arguments c.pairs) := by
      intro p hp
      refine mem_of_lookup ?_
      rw [h p.1, lookup_of_mem c.distinct hp]
    have hlen := ((List.Nodup.of_map Prod.fst c.distinct).subperm hall).length_le
    exact (inPlace_sublist empty params c.pairs).eq_of_length_le hlen
  · intro h k
    rw [h]

end PairedArgs
