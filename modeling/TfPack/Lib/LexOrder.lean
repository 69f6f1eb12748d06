import Mathlib.Data.List.Lex
import Mathlib.Order.Lattice

set_option autoImplicit false

/-! # Lists in lexicographic order

How lists with a common beginning compare, and when everything that begins with one list comes
before everything that begins with another (`Before`).
-/

namespace LexOrder

variable {α : Type*} [LinearOrder α] {p p' l l' : List α}

/-- **A common beginning does not matter.** -/
@[simp] theorem append_lt_append_iff (p : List α) : p ++ l < p ++ l' ↔ l < l' := by
  induction p with
  | nil => rfl
  | cons a p ih => simpa [List.cons_lt_cons_iff] using ih

@[simp] theorem append_le_append_iff (p : List α) : p ++ l ≤ p ++ l' ↔ l ≤ l' := by
  rw [← not_lt, append_lt_append_iff, not_lt]

theorem cons_le_cons_iff {a b : α} : a :: l ≤ b :: l' ↔ a < b ∨ a = b ∧ l ≤ l' := by
  rw [← not_lt, List.cons_lt_cons_iff, not_or, not_lt, not_and, not_lt]
  constructor
  · rintro ⟨hab, hl⟩
    rcases hab.lt_or_eq with hlt | rfl
    · exact .inl hlt
    · exact .inr ⟨rfl, hl rfl⟩
  · rintro (hlt | ⟨rfl, hl⟩)
    · exact ⟨hlt.le, fun heq => absurd heq hlt.ne'⟩
    · exact ⟨le_refl a, fun _ => hl⟩

theorem lt_append_cons (p : List α) (a : α) (l : List α) : p < p ++ a :: l := by
  have h := (append_lt_append_iff p).mpr (List.nil_lt_cons a l)
  rwa [List.append_nil] at h

/-- Everything that begins with `p` comes before everything that begins with `p'`. -/
def Before (p p' : List α) : Prop := ∀ l l', p ++ l < p' ++ l'

/-- Whether two lists differ at some place, the first one being smaller there. -/
def precedes : List α → List α → Bool
  | a :: p, b :: p' => if a = b then precedes p p' else a < b
  | _, _ => false

theorem before_of_precedes (h : precedes p p' = true) : Before p p' := by
  induction p generalizing p' with
  | nil => cases h
  | cons a p ih =>
      cases p' with
      | nil => cases h
      | cons b p' =>
          intro l l'
          rw [List.cons_append, List.cons_append, List.cons_lt_cons_iff]
          rw [precedes] at h
          by_cases hab : a = b
          · rw [if_pos hab] at h
            exact .inr ⟨hab, ih h l l'⟩
          · rw [if_neg hab] at h
            exact .inl (of_decide_eq_true h)

theorem lt_of_precedes (h : precedes p p' = true) (l : List α) : p ++ l < p' := by
  have hlt := before_of_precedes h l []
  rwa [List.append_nil] at hlt

end LexOrder
