import Mathlib.Data.List.Basic

set_option autoImplicit false

/-! # Blocks and parts of a list

A class of characters takes a block off the front of a text, and leaves what begins with another one
(`takeWhile_block`, `dropWhile_block`). `strtok` and the patterns `([^x]+)` take a whole text apart at
its separators and pass over empty parts: a part is read off where it stands (`tokens_block`), and a
text with a first part has it behind separators (`tokens_eq_cons`). What has no separators stands in
a text when it stands in one of its parts (`infix_iff_tokens`).
-/

namespace Tokens

variable {α : Type} {sep : α → Bool}

/-! ## Blocks -/

/-- A class takes a block of its characters that ends where a character is not its. -/
theorem takeWhile_block {cls : α → Bool} {x t : List α} (hx : ∀ c ∈ x, cls c = true)
    (ht : ∀ c ∈ t.head?, cls c = false) : (x ++ t).takeWhile cls = x := by
  rw [List.takeWhile_append_of_pos hx]
  cases t with
  | nil => rw [List.takeWhile_nil, List.append_nil]
  | cons c t => rw [List.takeWhile_cons, ht c rfl, if_neg Bool.false_ne_true, List.append_nil]

theorem dropWhile_block {cls : α → Bool} {x t : List α} (hx : ∀ c ∈ x, cls c = true)
    (ht : ∀ c ∈ t.head?, cls c = false) : (x ++ t).dropWhile cls = t := by
  rw [List.dropWhile_append_of_pos hx]
  cases t with
  | nil => rfl
  | cons c t => rw [List.dropWhile_cons, ht c rfl, if_neg Bool.false_ne_true]

/-- What a class takes of a string, and what it leaves. -/
theorem exists_block (cls : α → Bool) (s : List α) :
    ∃ x t, s = x ++ t ∧ (∀ c ∈ x, cls c = true) ∧ ∀ c ∈ t.head?, cls c = false := by
  refine ⟨s.takeWhile cls, s.dropWhile cls, List.takeWhile_append_dropWhile.symm, ?_, ?_⟩
  · exact List.all_eq_true.mp List.all_takeWhile
  · intro c hc
    have hnot := List.head?_dropWhile_not cls s
    rw [Option.mem_def.mp hc] at hnot
    simpa using hnot

/-! ## Parts -/

/-- The nonempty parts between separators. -/
def tokens (sep : α → Bool) (s : List α) : List (List α) :=
  (s.splitOnP sep).filter (fun p => !p.isEmpty)

theorem tokens_sep {c : α} (hc : sep c = true) (s : List α) :
    tokens sep (c :: s) = tokens sep s := by
  rw [tokens, ← List.nil_append (c :: s),
    List.splitOnP_append_cons_of_forall_mem (by simp) c hc]
  rfl

/-- Separators in front are passed over. -/
theorem tokens_append {b : List α} (hb : ∀ c ∈ b, sep c = true) (s : List α) :
    tokens sep (b ++ s) = tokens sep s := by
  induction b with
  | nil => rfl
  | cons c b ih =>
      rw [List.forall_mem_cons] at hb
      rw [List.cons_append, tokens_sep hb.1, ih hb.2]

/-- **A part ends at the next separator.** -/
theorem tokens_block {p t : List α} (hp : ∀ c ∈ p, sep c = false) (hne : p ≠ [])
    (ht : ∀ c ∈ t.head?, sep c = true) : tokens sep (p ++ t) = p :: tokens sep t := by
  have hkeep : (fun q : List α => !q.isEmpty) p = true := by simpa using hne
  cases t with
  | nil =>
      rw [List.append_nil, tokens, List.splitOnP_eq_singleton hp,
        List.filter_cons_of_pos (p := fun q : List α => !q.isEmpty) hkeep]
      rfl
  | cons c t =>
      have hc : sep c = true := ht c rfl
      rw [tokens_sep hc, tokens, List.splitOnP_append_cons_of_forall_mem hp c hc,
        List.filter_cons_of_pos (p := fun q : List α => !q.isEmpty) hkeep]
      rfl

/-- A list up to its first separator. -/
theorem exists_part (sep : α → Bool) (s : List α) :
    ∃ p t, s = p ++ t ∧ (∀ c ∈ p, sep c = false) ∧ ∀ c ∈ t.head?, sep c = true := by
  induction s with
  | nil => exact ⟨[], [], rfl, by simp, by simp⟩
  | cons c s ih =>
      cases hc : sep c with
      | true => exact ⟨[], c :: s, rfl, by simp, fun a ha => Option.some.inj ha ▸ hc⟩
      | false =>
          obtain ⟨p, t, rfl, hp, ht⟩ := ih
          exact ⟨c :: p, t, rfl, List.forall_mem_cons.mpr ⟨hc, hp⟩, ht⟩

/-- **The first part of a list** stands behind separators, and the others follow it. -/
theorem tokens_eq_cons {s w : List α} {ws : List (List α)} (h : tokens sep s = w :: ws) :
    ∃ b t, s = b ++ (w ++ t) ∧ (∀ c ∈ b, sep c = true) ∧ w ≠ [] ∧ (∀ c ∈ w, sep c = false) ∧
      (∀ c ∈ t.head?, sep c = true) ∧ tokens sep t = ws := by
  induction s with
  | nil => cases h
  | cons c s ih =>
      cases hc : sep c with
      | true =>
          rw [tokens_sep hc] at h
          obtain ⟨b, t, rfl, hb, hw⟩ := ih h
          exact ⟨c :: b, t, rfl, List.forall_mem_cons.mpr ⟨hc, hb⟩, hw⟩
      | false =>
          obtain ⟨p, t, hs, hp, ht⟩ := exists_part sep s
          have hcp : ∀ a ∈ c :: p, sep a = false := List.forall_mem_cons.mpr ⟨hc, hp⟩
          rw [hs, ← List.cons_append, tokens_block hcp (List.cons_ne_nil c p) ht,
            List.cons.injEq] at h
          obtain ⟨rfl, hws⟩ := h
          exact ⟨[], t, by rw [hs]; rfl, by simp, List.cons_ne_nil c p, hcp, ht, hws⟩

/-- A list without a part is all separators. -/
theorem tokens_eq_nil_iff {s : List α} : tokens sep s = [] ↔ ∀ c ∈ s, sep c = true := by
  constructor
  · intro h
    induction s with
    | nil => simp
    | cons c s ih =>
        cases hc : sep c with
        | true =>
            rw [tokens_sep hc] at h
            exact List.forall_mem_cons.mpr ⟨hc, ih h⟩
        | false =>
            obtain ⟨p, t, hs, hp, ht⟩ := exists_part sep s
            have hcp : ∀ a ∈ c :: p, sep a = false := List.forall_mem_cons.mpr ⟨hc, hp⟩
            rw [hs, ← List.cons_append, tokens_block hcp (List.cons_ne_nil c p) ht] at h
            cases h
  · intro h
    have hall := tokens_append h []
    rw [List.append_nil] at hall
    rw [hall]
    rfl

/-! ## What stands in a part -/

section Infix

variable {m : List α}

/-- A list without separators that begins one begins with none. -/
theorem not_prefix_cons (hm : m ≠ []) (hsep : ∀ a ∈ m, sep a = false) {c : α} (hc : sep c = true)
    (t : List α) : ¬m <+: c :: t := by
  rintro ⟨r, hr⟩
  obtain ⟨a, m, rfl⟩ := List.exists_cons_of_ne_nil hm
  rw [List.cons_append, List.cons.injEq] at hr
  rw [← hr.1, hsep a List.mem_cons_self] at hc
  cases hc

/-- A list without separators stands before a separator or behind it. -/
theorem infix_append_cons_iff (hm : m ≠ []) (hsep : ∀ a ∈ m, sep a = false) {c : α}
    (hc : sep c = true) {p t : List α} : m <:+: p ++ c :: t ↔ m <:+: p ∨ m <:+: t := by
  constructor
  · intro h
    obtain hp | ht | ⟨x, y, -, hy, rfl, -, hpre⟩ := List.infix_append_iff_ne_nil.mp h
    · exact .inl hp
    · exact .inr ((List.infix_cons_iff.mp ht).resolve_left (not_prefix_cons hm hsep hc t))
    · have hsep' : ∀ a ∈ y, sep a = false := fun a ha => hsep a (List.mem_append_right _ ha)
      exact absurd hpre (not_prefix_cons hy hsep' hc t)
  · rintro (h | h)
    · exact List.infix_append_of_infix_left h
    · exact List.infix_append_of_infix_right (List.infix_cons h)

/-- Separators hold no part of a list without separators. -/
theorem infix_append_iff (hm : m ≠ []) (hsep : ∀ a ∈ m, sep a = false) {b : List α}
    (hb : ∀ c ∈ b, sep c = true) {t : List α} : m <:+: b ++ t ↔ m <:+: t := by
  induction b with
  | nil => rfl
  | cons c b ih =>
      obtain ⟨hc, hb⟩ := List.forall_mem_cons.mp hb
      have hnil : ¬m <:+: [] := fun h => hm (List.eq_nil_of_infix_nil h)
      have hcons := infix_append_cons_iff (p := []) (t := b ++ t) hm hsep hc
      rw [List.nil_append] at hcons
      rw [List.cons_append, hcons, or_iff_right hnil, ih hb]

/-- **A text without separators stands in a text exactly when it stands in a part.** -/
theorem infix_iff_tokens (hm : m ≠ []) (hsep : ∀ a ∈ m, sep a = false) (s : List α) :
    m <:+: s ↔ ∃ w ∈ tokens sep s, m <:+: w := by
  have hnil : ¬m <:+: [] := fun h => hm (List.eq_nil_of_infix_nil h)
  induction hs : tokens sep s generalizing s with
  | nil =>
      have hall := infix_append_iff hm hsep (tokens_eq_nil_iff.mp hs) (t := [])
      rw [List.append_nil] at hall
      simp [hall, hnil]
  | cons w ws ih =>
      obtain ⟨b, t, rfl, hb, -, -, ht, hws⟩ := tokens_eq_cons hs
      have htail : m <:+: t ↔ ∃ w ∈ ws, m <:+: w := ih t hws
      rw [infix_append_iff hm hsep hb, List.exists_mem_cons_iff, ← htail]
      cases t with
      | nil => simp [hnil]
      | cons c t =>
          have hc : sep c = true := ht c rfl
          have hcons := infix_append_cons_iff (p := []) (t := t) hm hsep hc
          rw [List.nil_append, or_iff_right hnil] at hcons
          rw [infix_append_cons_iff hm hsep hc, hcons]

end Infix

end Tokens
