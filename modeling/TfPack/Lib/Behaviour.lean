import Mathlib.Data.Nat.Init
import TfPack.Lib.Machine

set_option autoImplicit false

/-! # Infinite runs of a step machine

A `Behaviour` is a run that never ends: the states, actions and events of all its steps. Its
finite beginnings are runs (`Behaviour.exec`), so what holds of all runs holds at every moment of
a behaviour. What is new is progress. The one rule needed for it is `Behaviour.until_next`: a
condition that only an action of some kind can end, and that finds such an action to come, still
holds when the first one is taken. Behaviours are built by putting a finite run before one that is
known (`Behaviour.exists_append`).
-/

namespace StepMachine

variable {σ α ε : Type}

/-- An infinite run of `M` from `s₀`. -/
structure Behaviour (M : Machine σ α ε) (s₀ : σ) where
  state : Nat → σ
  act : Nat → α
  evs : Nat → List ε
  start : state 0 = s₀
  step : ∀ i, M.step (state i) (act i) = some (state (i + 1), evs i)

namespace Behaviour

variable {M : Machine σ α ε} {s₀ : σ}

/-- The events before step `i`. -/
def trace (ρ : Behaviour M s₀) : Nat → List ε
  | 0 => []
  | i + 1 => ρ.trace i ++ ρ.evs i

/-- The beginnings of a behaviour are runs. -/
theorem exec (ρ : Behaviour M s₀) (i : Nat) : ∃ vs, Exec M s₀ vs (ρ.trace i) (ρ.state i) := by
  induction i with
  | zero =>
      rw [ρ.start]
      exact ⟨[], .nil⟩
  | succ i ih =>
      obtain ⟨vs, hvs⟩ := ih
      exact ⟨_, hvs.snoc (ρ.step i)⟩

/-- Events are counted once and for all. -/
theorem countP_trace_mono (ρ : Behaviour M s₀) (p : ε → Bool) {i j : Nat} (h : i ≤ j) :
    (ρ.trace i).countP p ≤ (ρ.trace j).countP p := by
  induction j, h using Nat.le_induction with
  | base => exact Nat.le_refl _
  | succ j _ ih =>
      show _ ≤ (ρ.trace j ++ ρ.evs j).countP p
      rw [List.countP_append]
      exact Nat.le_trans ih (Nat.le_add_right _ _)

/-- **What every step from `t` on keeps, holds from `t` on.** -/
theorem keeps (ρ : Behaviour M s₀) (P : σ → Prop) {t : Nat} (h : P (ρ.state t))
    (hstep : ∀ i, t ≤ i → P (ρ.state i) → P (ρ.state (i + 1))) :
    ∀ i, t ≤ i → P (ρ.state i) := by
  intro i hi
  induction i, hi using Nat.le_induction with
  | base => exact h
  | succ i hi ih => exact hstep i hi ih

/-- **What only an action of kind `A` can end, still holds when the next such action is taken.** -/
theorem until_next (ρ : Behaviour M s₀) (P : σ → Prop) (A : α → Bool) {t : Nat}
    (h : P (ρ.state t))
    (hstep : ∀ i, t ≤ i → P (ρ.state i) → A (ρ.act i) = false → P (ρ.state (i + 1)))
    (hnext : ∃ j, t ≤ j ∧ A (ρ.act j) = true) :
    ∃ j, t ≤ j ∧ P (ρ.state j) ∧ A (ρ.act j) = true := by
  obtain ⟨j, hj, hA⟩ := hnext
  induction hd : j - t generalizing t with
  | zero =>
      have hjt : j = t := by omega
      exact ⟨j, hj, hjt ▸ h, hA⟩
  | succ d ih =>
      cases hnow : A (ρ.act t) with
      | true => exact ⟨t, Nat.le_refl t, h, hnow⟩
      | false =>
          have hlater := ih (hstep t (Nat.le_refl t) h hnow)
            (fun i hi => hstep i (Nat.le_of_succ_le hi)) (by omega) (by omega)
          obtain ⟨k, hk, hP, hAk⟩ := hlater
          exact ⟨k, Nat.le_of_succ_le hk, hP, hAk⟩

/-- The behaviour given by its states and actions. -/
def ofStates (state : Nat → σ) (act : Nat → α)
    (h : ∀ i, ((M.step (state i) (act i)).map Prod.fst) = some (state (i + 1))) :
    Behaviour M (state 0) where
  state := state
  act := act
  evs i := ((M.step (state i) (act i)).map Prod.snd).getD []
  start := rfl
  step i := by
    obtain ⟨⟨s', evs⟩, hstep, hs⟩ := Option.map_eq_some_iff.mp (h i)
    have hs' : s' = state (i + 1) := hs
    rw [hstep, hs']
    rfl

/-- One step before a behaviour. -/
def cons {s s' : σ} {a : α} {evs : List ε} (h : M.step s a = some (s', evs))
    (ρ : Behaviour M s') : Behaviour M s where
  state := fun i => match i with
    | 0 => s
    | i + 1 => ρ.state i
  act := fun i => match i with
    | 0 => a
    | i + 1 => ρ.act i
  evs := fun i => match i with
    | 0 => evs
    | i + 1 => ρ.evs i
  start := rfl
  step := fun i => match i with
    | 0 => by
        show M.step s a = some (ρ.state 0, evs)
        rw [ρ.start]
        exact h
    | i + 1 => ρ.step i

/-- A finite run before a behaviour. -/
theorem exists_append {vs : List (Visit σ α ε)} {tr : List ε} {s : σ} (h : Exec M s₀ vs tr s)
    (ρ : Behaviour M s) : ∃ ρ' : Behaviour M s₀, ∀ i, ρ'.state (vs.length + i) = ρ.state i ∧
      ρ'.act (vs.length + i) = ρ.act i ∧ ρ'.evs (vs.length + i) = ρ.evs i := by
  induction h with
  | nil => exact ⟨ρ, fun i => by simp⟩
  | @snoc vs tr evs s s' a hex hs ih =>
      obtain ⟨ρ', hρ'⟩ := ih (cons hs ρ)
      refine ⟨ρ', fun i => ?_⟩
      have hlen : (vs ++ [(⟨s, tr, a⟩ : Visit σ α ε)]).length + i = vs.length + (i + 1) := by
        rw [List.length_append, List.length_singleton, Nat.add_assoc, Nat.add_comm 1 i]
      rw [hlen]
      exact hρ' (i + 1)

end Behaviour

end StepMachine
