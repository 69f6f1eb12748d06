import Mathlib.Data.List.Basic
import TfPack.Lib.BoundedLoop

set_option autoImplicit false

/-! # Automata that are asked before they run

A group of automata works on one state. An automaton can be asked, in a dry run, whether its next
move would change something, or it can be run: it makes a move and calls itself again, until it has
no move or makes one that ends the call. A round runs the whole group, one after the other, and the
group is run round by round until a dry run of all of them reports nothing (`settle`).

A call that never ends has no result under any bound on its depth. What the moves keep, the calls,
the rounds and the settled states keep (`settle_keeps`).
-/

namespace Settling

open BoundedLoop

variable {σ : Type}

/-- A move: what a dry run says of it, the state after it, and whether the call goes on. -/
structure Move (σ : Type) where
  changes : Bool
  after : σ
  again : Bool

/-- The next move, from the state in which the automaton was called and the present one. -/
abbrev Automaton (σ : Type) := σ → σ → Option (Move σ)

/-- One turn of the call that was made in the state `e`. -/
def Automaton.body (a : Automaton σ) (e s : σ) : σ ⊕ σ :=
  match a e s with
  | none => .inr s
  | some m => if m.again then .inl m.after else .inr m.after

/-- A call of the automaton; `none` when it has not ended after `depth` turns. -/
def Automaton.run (a : Automaton σ) (depth : Nat) (s : σ) : Option σ :=
  BoundedLoop.run (a.body s) depth s

/-- What the automaton answers in a dry run. -/
def Automaton.dry (a : Automaton σ) (s : σ) : Bool :=
  match a s s with
  | none => false
  | some m => m.changes

/-- One call of each automaton. -/
def round (depth : Nat) (as : List (Automaton σ)) (s : σ) : Option σ :=
  as.foldlM (fun s a => a.run depth s) s

/-- Whether some automaton answers in a dry run that it would change something. -/
def roundDry (as : List (Automaton σ)) (s : σ) : Bool := as.any (fun a => a.dry s)

/-- Rounds until the dry runs report nothing, `n` of them at most. -/
def settle (depth : Nat) (as : List (Automaton σ)) : Nat → σ → Option σ
  | 0, s => some s
  | n + 1, s => if roundDry as s then (round depth as s).bind (settle depth as n) else some s

/-! ## What is kept -/

/-- Each move keeps `I`, in a call that was made where `I` held. -/
def Automaton.Keeps (I : σ → Prop) (a : Automaton σ) : Prop :=
  ∀ e s m, I e → I s → a e s = some m → I m.after

variable {a : Automaton σ} {as : List (Automaton σ)} {I : σ → Prop} {depth : Nat} {s s' : σ}

/-- A turn that goes on is a move. -/
theorem body_eq_inl {e : σ} (h : a.body e s = .inl s') :
    ∃ m, a e s = some m ∧ m.again = true ∧ m.after = s' := by
  unfold Automaton.body at h
  split at h
  · cases h
  · rename_i m hm
    split at h
    · exact ⟨m, hm, ‹_›, Sum.inl.inj h⟩
    · cases h

/-- A turn that ends the call changes nothing or is a move. -/
theorem body_eq_inr {e : σ} (h : a.body e s = .inr s') :
    (a e s = none ∧ s' = s) ∨ ∃ m, a e s = some m ∧ m.again = false ∧ m.after = s' := by
  unfold Automaton.body at h
  split at h
  · exact .inl ⟨‹_›, (Sum.inr.inj h).symm⟩
  · rename_i m hm
    split at h
    · cases h
    · exact .inr ⟨m, hm, by simpa using ‹¬m.again = true›, Sum.inr.inj h⟩

/-- **What the moves keep, a call keeps.** -/
theorem run_keeps (h : a.Keeps I) (hs : I s) (hr : a.run depth s = some s') : I s' := by
  refine run_inv (P := I) (Q := I) ?_ ?_ hs hr
  · intro t t' ht hb
    obtain ⟨m, hm, -, rfl⟩ := body_eq_inl hb
    exact h s t m hs ht hm
  · intro t t' ht hb
    rcases body_eq_inr hb with ⟨-, rfl⟩ | ⟨m, hm, -, rfl⟩
    · exact ht
    · exact h s t m hs ht hm

theorem round_cons (a : Automaton σ) (as : List (Automaton σ)) (s : σ) :
    round depth (a :: as) s = (a.run depth s).bind (round depth as) := rfl

theorem round_append (as bs : List (Automaton σ)) (s : σ) :
    round depth (as ++ bs) s = (round depth as s).bind (round depth bs) := by
  induction as generalizing s with
  | nil => rfl
  | cons a as ih =>
      rw [List.cons_append, round_cons, round_cons, Option.bind_assoc]
      exact Option.bind_congr fun t _ => ih t

theorem round_keeps (h : ∀ a ∈ as, a.Keeps I) (hs : I s) (hr : round depth as s = some s') :
    I s' := by
  induction as generalizing s with
  | nil => exact Option.some.inj hr ▸ hs
  | cons a as ih =>
      obtain ⟨t, ht, hr⟩ := Option.bind_eq_some_iff.mp hr
      exact ih (fun b hb => h b (List.mem_cons_of_mem _ hb))
        (run_keeps (h a List.mem_cons_self) hs ht) hr

/-- **What the moves keep, the group keeps on its way to rest.** -/
theorem settle_keeps {n : Nat} (h : ∀ a ∈ as, a.Keeps I) (hs : I s)
    (hr : settle depth as n s = some s') : I s' := by
  induction n generalizing s with
  | zero => exact Option.some.inj hr ▸ hs
  | succ n ih =>
      rw [settle] at hr
      split at hr
      · obtain ⟨t, ht, hr⟩ := Option.bind_eq_some_iff.mp hr
        exact ih (round_keeps h hs ht) hr
      · exact Option.some.inj hr ▸ hs

/-! ## Rest -/

/-- A group that has been given a round is at rest from the start, or comes out of a round. -/
theorem settle_cases {n : Nat} (h : ∀ a ∈ as, a.Keeps I) (hs : I s)
    (hr : settle depth as (n + 1) s = some s') :
    (roundDry as s = false ∧ s' = s) ∨ ∃ t, I t ∧ round depth as t = some s' := by
  induction n generalizing s with
  | zero =>
      rw [settle] at hr
      split at hr
      · obtain ⟨t, ht, hr⟩ := Option.bind_eq_some_iff.mp hr
        exact .inr ⟨s, hs, ht.trans hr⟩
      · exact .inl ⟨by simpa using ‹¬roundDry as s = true›, (Option.some.inj hr).symm⟩
  | succ n ih =>
      rw [settle] at hr
      split at hr
      · obtain ⟨t, ht, hr⟩ := Option.bind_eq_some_iff.mp hr
        rcases ih (round_keeps h hs ht) hr with ⟨-, rfl⟩ | ⟨u, hu, hr⟩
        · exact .inr ⟨s, hs, ht⟩
        · exact .inr ⟨u, hu, hr⟩
      · exact .inl ⟨by simpa using ‹¬roundDry as s = true›, (Option.some.inj hr).symm⟩

/-- **What each automaton brings about and the others keep is there after all have been called.** -/
theorem round_establishes {ι : Type} {items : List ι} {f : ι → Automaton σ} {Q : ι → σ → Prop}
    (hI : ∀ i, (f i).Keeps I)
    (hest : ∀ i s s', I s → (f i).run depth s = some s' → Q i s')
    (hkeep : ∀ i j s s', I s → Q i s → (f j).run depth s = some s' → Q i s')
    (hs : I s) (hr : round depth (items.map f) s = some s') : ∀ i ∈ items, Q i s' := by
  have hround : ∀ (items : List ι) (i : ι) (s s' : σ), I s → Q i s →
      round depth (items.map f) s = some s' → Q i s' := by
    intro items i
    induction items with
    | nil => exact fun s s' _ hq hr => Option.some.inj hr ▸ hq
    | cons j items ih =>
        intro s s' hs hq hr
        obtain ⟨t, ht, hr⟩ := Option.bind_eq_some_iff.mp hr
        exact ih t s' (run_keeps (hI j) hs ht) (hkeep i j s t hs hq ht) hr
  induction items generalizing s with
  | nil => exact fun i hi => absurd hi List.not_mem_nil
  | cons j items ih =>
      obtain ⟨t, ht, hrest⟩ := Option.bind_eq_some_iff.mp hr
      intro i hi
      rcases List.mem_cons.mp hi with rfl | hi
      · exact hround items i t s' (run_keeps (hI i) hs ht) (hest i s t hs ht) hrest
      · exact ih (run_keeps (hI j) hs ht) hrest i hi

end Settling
