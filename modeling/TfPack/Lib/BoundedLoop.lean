import Mathlib.Data.Nat.Init

set_option autoImplicit false

/-! # Loops with a bound on their iterations

A loop body takes a state to the next one, or leaves the loop with a result. `run` iterates it at
most a given number of times. What a run gives does not change when the bound grows
(`run_mono`), a stretch of iterations is passed over as a whole (`Leads`), and a loop that always
comes back to one of a set of states gives nothing under any bound (`run_eq_none`).
-/

namespace BoundedLoop

variable {σ ρ : Type} {body : σ → σ ⊕ ρ}

/-- At most `n` iterations of `body`; `none` when it is still running after them. -/
def run (body : σ → σ ⊕ ρ) : Nat → σ → Option ρ
  | 0, _ => none
  | n + 1, s =>
      match body s with
      | .inl s' => run body n s'
      | .inr r => some r

theorem run_next {s s' : σ} (h : body s = .inl s') (n : Nat) :
    run body (n + 1) s = run body n s' := by
  simp only [run, h]

theorem run_done {s : σ} {r : ρ} (h : body s = .inr r) (n : Nat) :
    run body (n + 1) s = some r := by
  simp only [run, h]

/-- **A larger bound gives the same result.** -/
theorem run_mono {n m : Nat} (hnm : n ≤ m) {s : σ} {r : ρ} (h : run body n s = some r) :
    run body m s = some r := by
  induction n generalizing m s with
  | zero => cases h
  | succ n ih =>
      obtain ⟨m, rfl⟩ : ∃ k, m = k + 1 := ⟨m - 1, by omega⟩
      cases hs : body s with
      | inl s' =>
          rw [run_next hs] at h ⊢
          exact ih (Nat.le_of_succ_le_succ hnm) h
      | inr r' =>
          rw [run_done hs] at h ⊢
          exact h

/-- **The invariant rule**: what the iterations keep is there when the loop is left. -/
theorem run_inv {P : σ → Prop} {Q : ρ → Prop} (hnext : ∀ s s', P s → body s = .inl s' → P s')
    (hdone : ∀ s r, P s → body s = .inr r → Q r) {n : Nat} {s : σ} {r : ρ} (hs : P s)
    (h : run body n s = some r) : Q r := by
  induction n generalizing s with
  | zero => cases h
  | succ n ih =>
      cases hb : body s with
      | inl s' =>
          rw [run_next hb] at h
          exact ih (hnext s s' hs hb) h
      | inr r' =>
          rw [run_done hb] at h
          cases h
          exact hdone s r hs hb

/-- `k` iterations take `s` to `s'`. -/
def Leads (body : σ → σ ⊕ ρ) (k : Nat) (s s' : σ) : Prop :=
  ∀ n, run body (n + k) s = run body n s'

theorem Leads.refl (s : σ) : Leads body 0 s s := fun _ => rfl

theorem Leads.step {s s' : σ} (h : body s = .inl s') : Leads body 1 s s' := run_next h

theorem Leads.trans {k l : Nat} {s s' s'' : σ} (h : Leads body k s s') (h' : Leads body l s' s'') :
    Leads body (l + k) s s'' := by
  intro n
  calc run body (n + (l + k)) s = run body (n + l + k) s := by rw [Nat.add_assoc]
    _ = run body (n + l) s' := h _
    _ = run body n s'' := h' n

theorem Leads.cast {k l : Nat} {s s' : σ} (h : Leads body k s s') (hkl : k = l) :
    Leads body l s s' := hkl ▸ h

/-- **A loop that always comes back to one of its states gives nothing.** -/
theorem run_eq_none {P : σ → Prop} (h : ∀ s, P s → ∃ k s', Leads body (k + 1) s s' ∧ P s')
    {s : σ} (hs : P s) (n : Nat) : run body n s = none := by
  induction n using Nat.strongRecOn generalizing s with
  | ind n ih =>
      obtain ⟨k, s', hround, hs'⟩ := h s hs
      by_cases hn : n ≤ k
      · -- within the first round, a result would also be one of the whole round
        cases hr : run body n s with
        | none => rfl
        | some r =>
            have hmore := run_mono (show n ≤ 0 + (k + 1) by omega) hr
            rw [hround 0] at hmore
            cases hmore
      · obtain ⟨m, rfl⟩ : ∃ m, n = m + (k + 1) := ⟨n - (k + 1), by omega⟩
        rw [hround m]
        exact ih m (by omega) hs'

/-- **A loop whose iterations lower a rank ends**, within one iteration more than the rank. -/
theorem run_of_rank {P : σ → Prop} (rank : σ → Nat)
    (h : ∀ s s', P s → body s = .inl s' → P s' ∧ rank s' < rank s) {s : σ} (hs : P s) :
    ∃ r, run body (rank s + 1) s = some r := by
  induction hn : rank s using Nat.strongRecOn generalizing s with
  | ind n ih =>
      cases hb : body s with
      | inr r => exact ⟨r, run_done hb _⟩
      | inl s' =>
          obtain ⟨hs', hlt⟩ := h s s' hs hb
          obtain ⟨r, hr⟩ := ih (rank s') (hn ▸ hlt) hs' rfl
          refine ⟨r, ?_⟩
          rw [run_next hb]
          exact run_mono (by omega) hr

/-! ## Loops that may end without a result

Here a loop is left with a result or without one; a loop that is still running at its bound has
none either.
-/

variable {τ : Type} {loop : σ → σ ⊕ Option τ}

/-- From `s`, any bound of at least `k` iterations gives `o`. -/
def Gives (loop : σ → σ ⊕ Option τ) (k : Nat) (s : σ) (o : Option τ) : Prop :=
  ∀ n, (run loop (n + k) s).join = o

theorem Gives.done {s : σ} {o : Option τ} (h : loop s = .inr o) : Gives loop 1 s o := by
  intro n
  rw [run_done h]
  rfl

theorem Leads.gives {k l : Nat} {s s' : σ} {o : Option τ} (h : Leads loop k s s')
    (h' : Gives loop l s' o) : Gives loop (l + k) s o := by
  intro n
  calc (run loop (n + (l + k)) s).join = (run loop (n + l + k) s).join := by rw [Nat.add_assoc]
    _ = (run loop (n + l) s').join := by rw [h]
    _ = o := h' n

theorem Gives.step {k : Nat} {s s' : σ} {o : Option τ} (h : loop s = .inl s')
    (h' : Gives loop k s' o) : Gives loop (k + 1) s o :=
  (Leads.step h).gives h'

/-- One iteration, to a state that is named. -/
theorem Gives.through {k : Nat} {s : σ} {o : Option τ} (s' : σ) (h : loop s = .inl s')
    (h' : Gives loop k s' o) : Gives loop (k + 1) s o :=
  Gives.step h h'

theorem Gives.mono {k l : Nat} (hkl : k ≤ l) {s : σ} {o : Option τ} (h : Gives loop k s o) :
    Gives loop l s o := by
  intro n
  obtain ⟨m, rfl⟩ : ∃ m, l = m + k := ⟨l - k, by omega⟩
  rw [← Nat.add_assoc]
  exact h (n + m)

/-- **A loop that always comes back to one of its states has no result.** -/
theorem Gives.forever {P : σ → Prop} (h : ∀ s, P s → ∃ k s', Leads loop (k + 1) s s' ∧ P s')
    {s : σ} (hs : P s) : Gives loop 0 s none := by
  intro n
  rw [run_eq_none h hs]
  rfl

end BoundedLoop
