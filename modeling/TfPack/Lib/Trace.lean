import Mathlib.Data.List.DropRight

set_option autoImplicit false

/-! # Counting between marks of a trace

A list of events with some of them *marks*: `sinceLast r tr` is the part of `tr` after its last
mark. A count of events that is bounded after every mark, at every moment (`CountBounded`), is
bounded in every window without a mark; the bound is kept event by event. Where the last mark
itself counts, the part from it on is `fromLast r tr`.
-/

namespace EventTrace

variable {ε : Type} {r f : ε → Bool}

/-- The events after the last mark. -/
def sinceLast (r : ε → Bool) (tr : List ε) : List ε := tr.rtakeWhile (fun e => !r e)

@[simp] theorem sinceLast_nil : sinceLast r [] = [] := List.rtakeWhile_nil _

/-- A mark starts afresh. -/
theorem sinceLast_mark (tr : List ε) {e : ε} (h : r e = true) : sinceLast r (tr ++ [e]) = [] :=
  List.rtakeWhile_concat_neg _ _ _ (by simp [h])

/-- Events without a mark are added. -/
theorem sinceLast_quiet (tr : List ε) {evs : List ε} (h : ∀ e ∈ evs, r e = false) :
    sinceLast r (tr ++ evs) = sinceLast r tr ++ evs := by
  induction evs using List.reverseRecOn with
  | nil => simp
  | append_singleton es e ih =>
      have he : r e = false := h e (by simp)
      rw [← List.append_assoc, sinceLast, List.rtakeWhile_concat_pos _ _ _ (by simp [he]),
        ← List.append_assoc, ← ih (fun x hx => h x (by simp [hx]))]
      rfl

/-- After a mark only what follows it counts. -/
theorem sinceLast_restart (tr : List ε) {e : ε} {evs : List ε} (he : r e = true)
    (h : ∀ e ∈ evs, r e = false) : sinceLast r (tr ++ e :: evs) = evs := by
  have hsplit : tr ++ e :: evs = tr ++ [e] ++ evs := by simp
  rw [hsplit, sinceLast_quiet _ h, sinceLast_mark tr he, List.nil_append]

/-- There is no mark after the last one. -/
theorem not_mark_of_mem_sinceLast {tr : List ε} {e : ε} (h : e ∈ sinceLast r tr) :
    r e = false := by
  simpa using List.mem_rtakeWhile_imp h

/-- A window without a mark lies after the last mark before its end. -/
theorem suffix_sinceLast (pre : List ε) {win : List ε} (h : ∀ e ∈ win, r e = false) :
    win <:+ sinceLast r (pre ++ win) := by
  rw [sinceLast_quiet pre h]
  exact List.suffix_append _ _

/-- The last mark and the events after it; all of them when there is no mark. -/
def fromLast (r : ε → Bool) (tr : List ε) : List ε :=
  tr.foldl (fun w e => if r e then [e] else w ++ [e]) []

@[simp] theorem fromLast_nil : fromLast r [] = [] := rfl

theorem fromLast_mark (tr : List ε) {e : ε} (h : r e = true) : fromLast r (tr ++ [e]) = [e] := by
  simp [fromLast, List.foldl_append, h]

theorem fromLast_quiet (tr : List ε) {e : ε} (h : r e = false) :
    fromLast r (tr ++ [e]) = fromLast r tr ++ [e] := by
  simp [fromLast, List.foldl_append, h]

/-- An event that is not among the last ones occurs before them. -/
theorem split_before {tr evs pre post : List ε} {e : ε} (h : tr ++ evs = pre ++ e :: post)
    (he : e ∉ evs) : ∃ mid, tr = pre ++ e :: mid ∧ post = mid ++ evs := by
  rcases List.append_eq_append_iff.mp h with ⟨u, rfl, rfl⟩ | ⟨u, htr, hpost⟩
  · simp at he
  · cases u with
    | nil =>
        rw [List.nil_append] at hpost
        rw [← hpost] at he
        simp at he
    | cons x u =>
        simp only [List.cons_append, List.cons.injEq] at hpost
        obtain ⟨rfl, rfl⟩ := hpost
        exact ⟨u, htr, rfl⟩

/-- An event of a trace is its last one, or occurs before it. -/
theorem split_last {tr pre post : List ε} {x e : ε} (h : tr ++ [x] = pre ++ e :: post) :
    (pre = tr ∧ e = x ∧ post = []) ∨ ∃ mid, tr = pre ++ e :: mid ∧ post = mid ++ [x] := by
  rcases List.eq_nil_or_concat post with rfl | ⟨mid, y, rfl⟩
  · obtain ⟨rfl, he⟩ := List.append_inj' h rfl
    exact .inl ⟨rfl, (List.singleton_inj.mp he).symm, rfl⟩
  · rw [List.concat_eq_append, ← List.cons_append, ← List.append_assoc] at h
    obtain ⟨htr, hx⟩ := List.append_inj' h rfl
    exact .inr ⟨mid, htr, by rw [List.concat_eq_append, hx]⟩

/-! ## Bounded counts -/

/-- At every moment of `tr`, at most `n` events satisfying `f` have come since the last mark. -/
def CountBounded (r f : ε → Bool) (n : Nat) (tr : List ε) : Prop :=
  ∀ t, t <+: tr → (sinceLast r t).countP f ≤ n

theorem CountBounded.nil (n : Nat) : CountBounded r f n [] := by
  intro t ht
  simp [List.prefix_nil.mp ht]

theorem prefix_within_or_past {t tr evs : List ε} (h : t <+: tr ++ evs) :
    t <+: tr ∨ ∃ u, u <+: evs ∧ t = tr ++ u := by
  rcases le_total t.length tr.length with hle | hle
  · exact .inl (List.prefix_of_prefix_length_le h (List.prefix_append _ _) hle)
  · obtain ⟨u, rfl⟩ := List.prefix_of_prefix_length_le (List.prefix_append tr evs) h hle
    exact .inr ⟨u, (List.prefix_append_right_inj tr).mp h, rfl⟩

/-- A mark keeps the bound. -/
theorem CountBounded.mark {n : Nat} {tr : List ε} (h : CountBounded r f n tr) {e : ε}
    (he : r e = true) : CountBounded r f n (tr ++ [e]) := by
  intro t ht
  rcases List.prefix_concat_iff.mp ht with rfl | ht
  · simp [sinceLast_mark tr he]
  · exact h t ht

/-- Events without a mark keep the bound when they end below it. -/
theorem CountBounded.quiet {n : Nat} {tr evs : List ε} (h : CountBounded r f n tr)
    (hq : ∀ e ∈ evs, r e = false) (hle : (sinceLast r (tr ++ evs)).countP f ≤ n) :
    CountBounded r f n (tr ++ evs) := by
  intro t ht
  rcases prefix_within_or_past ht with ht | ⟨u, hu, rfl⟩
  · exact h t ht
  · have hqu : ∀ e ∈ u, r e = false := fun e he => hq e (hu.subset he)
    rw [sinceLast_quiet tr hq, List.countP_append] at hle
    rw [sinceLast_quiet tr hqu, List.countP_append]
    have := hu.sublist.countP_le (p := f)
    omega

/-- A mark with events after it keeps the bound when these are few. -/
theorem CountBounded.restart {n : Nat} {tr : List ε} (h : CountBounded r f n tr) {e : ε}
    {evs : List ε} (he : r e = true) (hq : ∀ e ∈ evs, r e = false) (hle : evs.countP f ≤ n) :
    CountBounded r f n (tr ++ e :: evs) := by
  have hsplit : tr ++ e :: evs = tr ++ [e] ++ evs := by simp
  have hend : sinceLast r (tr ++ [e] ++ evs) = evs := by
    rw [← hsplit, sinceLast_restart tr he hq]
  rw [hsplit]
  exact (h.mark he).quiet hq (hend.symm ▸ hle)

/-- **A bounded count is bounded in every window without a mark.** -/
theorem CountBounded.window {n : Nat} {tr pre win post : List ε} (h : CountBounded r f n tr)
    (htr : tr = pre ++ win ++ post) (hwin : ∀ e ∈ win, r e = false) : win.countP f ≤ n := by
  have hpre : pre ++ win <+: tr := ⟨post, htr.symm⟩
  exact ((suffix_sinceLast pre hwin).sublist.countP_le).trans (h _ hpre)

end EventTrace
