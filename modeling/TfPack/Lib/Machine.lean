import Mathlib.Data.List.Basic
import Mathlib.Logic.Function.Basic

set_option autoImplicit false

/-! # Step machines and their runs

A *step machine* is an executable step function: from a state and an action it gives the next
state and the list of events the step emits, or `none` when the action is not enabled. One
definition serves for replaying a concrete run (`Machine.run`) and for the proofs about all runs
(`Exec`). A run keeps every point it went through, so that a condition on steps can speak of the
state before a step and of the events before it.

The rules proved here are the ones every development over a step machine needs: the invariant
rule, with and without a condition on the steps (`Exec.inv`, `Exec.inv_where`), composition of
runs (`Exec.trans`), the refinement rule (`Exec.simulate`), and the projection of a run of an
indexed product of machines to one of its components (`Exec.proj`).
-/

namespace StepMachine

variable {σ α ε : Type}

/-- An executable step function with observable events. -/
structure Machine (σ α ε : Type) where
  step : σ → α → Option (σ × List ε)

/-- One point of a run: the state before a step, the events before it, and its action. -/
structure Visit (σ α ε : Type) where
  state : σ
  past : List ε
  act : α

/-- Runs of `M` from `s₀`: the points visited, the events emitted, the state reached. -/
inductive Exec (M : Machine σ α ε) (s₀ : σ) : List (Visit σ α ε) → List ε → σ → Prop
  | nil : Exec M s₀ [] [] s₀
  | snoc {vs : List (Visit σ α ε)} {tr evs : List ε} {s s' : σ} {a : α} :
      Exec M s₀ vs tr s → M.step s a = some (s', evs) →
      Exec M s₀ (vs ++ [⟨s, tr, a⟩]) (tr ++ evs) s'

variable {M : Machine σ α ε} {s₀ : σ}

/-- The run without a step, from a named machine and state. -/
theorem Exec.empty (M : Machine σ α ε) (s : σ) : Exec M s [] [] s := .nil

/-! ## The invariant rules -/

/-- **The invariant rule over the points of a run.** -/
theorem Exec.inv_run (I : List (Visit σ α ε) → σ → List ε → Prop) (h0 : I [] s₀ [])
    (hstep : ∀ vs s tr a s' evs, I vs s tr → M.step s a = some (s', evs) →
      I (vs ++ [⟨s, tr, a⟩]) s' (tr ++ evs))
    {vs : List (Visit σ α ε)} {tr : List ε} {s : σ} (h : Exec M s₀ vs tr s) : I vs s tr := by
  induction h with
  | nil => exact h0
  | snoc _ hs ih => exact hstep _ _ _ _ _ _ ih hs

/-- **The invariant rule under a condition on the steps.** An invariant of state and past
events that holds at the start and is kept by every step satisfying `G` holds wherever a run of
such steps ends. -/
theorem Exec.inv_where (I : σ → List ε → Prop) (G : Visit σ α ε → Prop) (h0 : I s₀ [])
    (hstep : ∀ s tr a s' evs, I s tr → G ⟨s, tr, a⟩ → M.step s a = some (s', evs) →
      I s' (tr ++ evs))
    {vs : List (Visit σ α ε)} {tr : List ε} {s : σ} (h : Exec M s₀ vs tr s)
    (hG : ∀ v ∈ vs, G v) : I s tr := by
  refine h.inv_run (fun vs s tr => (∀ v ∈ vs, G v) → I s tr) (fun _ => h0) ?_ hG
  intro vs s tr a s' evs ih hs hvs
  have hpast := ih (fun v hv => hvs v (List.mem_append_left _ hv))
  exact hstep _ _ _ _ _ hpast (hvs _ (by simp)) hs

/-- **The invariant rule.** -/
theorem Exec.inv (I : σ → List ε → Prop) (h0 : I s₀ [])
    (hstep : ∀ s tr a s' evs, I s tr → M.step s a = some (s', evs) → I s' (tr ++ evs))
    {vs : List (Visit σ α ε)} {tr : List ε} {s : σ} (h : Exec M s₀ vs tr s) : I s tr :=
  h.inv_where I (fun _ => True) h0 (fun s tr a s' evs hI _ => hstep s tr a s' evs hI)
    (fun _ _ => trivial)

/-- **The exact rule.** If `P` holds at the start and a step from a `P` state keeps `P` exactly
when it satisfies `G`, then a run stays in `P` exactly when all its steps satisfy `G`. -/
theorem Exec.inv_iff (P : σ → List ε → Prop) (G : Visit σ α ε → Prop) (h0 : P s₀ [])
    (hstep : ∀ s tr a s' evs, P s tr → M.step s a = some (s', evs) →
      (P s' (tr ++ evs) ↔ G ⟨s, tr, a⟩))
    {vs : List (Visit σ α ε)} {tr : List ε} {s : σ} (h : Exec M s₀ vs tr s) :
    ((∀ v ∈ vs, P v.state v.past) ∧ P s tr) ↔ ∀ v ∈ vs, G v := by
  induction h with
  | nil => simp [h0]
  | snoc _ hs ih =>
      simp only [List.forall_mem_append, List.forall_mem_singleton]
      constructor
      · rintro ⟨⟨hvs, hP⟩, hP'⟩
        exact ⟨ih.mp ⟨hvs, hP⟩, (hstep _ _ _ _ _ hP hs).mp hP'⟩
      · rintro ⟨hG, hG'⟩
        obtain ⟨hvs, hP⟩ := ih.mpr hG
        exact ⟨⟨hvs, hP⟩, (hstep _ _ _ _ _ hP hs).mpr hG'⟩

/-- **The exact rule for events.** If the events of a step all satisfy `R` exactly when the step
satisfies `G`, then all events of a run do exactly when all its steps do. -/
theorem Exec.forall_events_iff (R : ε → Prop) (G : Visit σ α ε → Prop)
    (hstep : ∀ s tr a s' evs, M.step s a = some (s', evs) →
      ((∀ e ∈ evs, R e) ↔ G ⟨s, tr, a⟩))
    {vs : List (Visit σ α ε)} {tr : List ε} {s : σ} (h : Exec M s₀ vs tr s) :
    (∀ e ∈ tr, R e) ↔ ∀ v ∈ vs, G v := by
  induction h with
  | nil => simp
  | snoc _ hs ih =>
      rw [List.forall_mem_append, List.forall_mem_append, List.forall_mem_singleton, ih,
        hstep _ _ _ _ _ hs]

/-- Every point of a run is where the run up to it ends. -/
theorem Exec.upTo {vs : List (Visit σ α ε)} {tr : List ε} {s : σ} (h : Exec M s₀ vs tr s) :
    ∀ {ws v us}, vs = ws ++ v :: us → Exec M s₀ ws v.past v.state := by
  induction h with
  | nil =>
      intro ws v us heq
      simp at heq
  | @snoc vs tr evs s s' a hex hs ih =>
      intro ws v us heq
      rcases us.eq_nil_or_concat with rfl | ⟨us', u, rfl⟩
      · obtain ⟨rfl, hv⟩ := List.append_inj' heq rfl
        rw [List.singleton_inj] at hv
        subst hv
        exact hex
      · have hsplit : vs ++ [⟨s, tr, a⟩] = (ws ++ v :: us') ++ [u] := by simpa using heq
        exact ih (List.append_inj' hsplit rfl).1

/-- The step taken at every visited point was enabled, and its events follow the past ones. -/
theorem Exec.visit_step {vs : List (Visit σ α ε)} {tr : List ε} {s : σ}
    (h : Exec M s₀ vs tr s) :
    ∀ v ∈ vs, ∃ s' evs, M.step v.state v.act = some (s', evs) ∧ v.past ++ evs <+: tr := by
  induction h with
  | nil => simp
  | @snoc vs tr evs s s' a hex hs ih =>
      intro v hv
      rcases List.mem_append.mp hv with hv | hv
      · obtain ⟨t, es, ht, hpre⟩ := ih v hv
        exact ⟨t, es, ht, hpre.trans (List.prefix_append _ _)⟩
      · rw [List.mem_singleton] at hv
        subst hv
        exact ⟨s', evs, hs, List.prefix_refl _⟩

/-! ## Latches

A flag of the state that some steps set, some clear, and the others keep. -/

section Latches

variable (sets clears : Visit σ α ε → Bool)

/-- After the last step that sets the flag there is none that clears it. -/
def Latched (vs : List (Visit σ α ε)) : Prop :=
  ∃ ws d ms, vs = ws ++ d :: ms ∧ sets d = true ∧ ∀ c ∈ ms, clears c = false

theorem not_latched_nil : ¬ Latched sets clears [] := by
  rintro ⟨ws, d, ms, heq, -⟩
  simp at heq

theorem latched_snoc (vs : List (Visit σ α ε)) (v : Visit σ α ε) :
    Latched sets clears (vs ++ [v]) ↔
      sets v = true ∨ (Latched sets clears vs ∧ clears v = false) := by
  constructor
  · rintro ⟨ws, d, ms, heq, hd, hms⟩
    rcases ms.eq_nil_or_concat with rfl | ⟨ms', m, rfl⟩
    · obtain ⟨-, hv⟩ := List.append_inj' heq rfl
      rw [List.singleton_inj] at hv
      exact .inl (hv ▸ hd)
    · have hsplit : vs ++ [v] = (ws ++ d :: ms') ++ [m] := by simpa using heq
      obtain ⟨hvs, hv⟩ := List.append_inj' hsplit rfl
      rw [List.singleton_inj] at hv
      exact .inr ⟨⟨ws, d, ms', hvs, hd, fun c hc => hms c (by simp [hc])⟩, hms v (by simp [hv])⟩
  · rintro (hv | ⟨⟨ws, d, ms, rfl, hd, hms⟩, hv⟩)
    · exact ⟨vs, v, [], rfl, hv, by simp⟩
    · refine ⟨ws, d, ms ++ [v], by simp, hd, ?_⟩
      rw [List.forall_mem_append, List.forall_mem_singleton]
      exact ⟨hms, hv⟩

variable {sets clears} {b : σ → Bool}

/-- **The latch rule.** A flag that is off at the start is on at the end of a run exactly when
some step has set it and none has cleared it since. -/
theorem Exec.latched_iff (h0 : b s₀ = false)
    (hstep : ∀ s tr a s' evs, M.step s a = some (s', evs) →
      b s' = (sets ⟨s, tr, a⟩ || (b s && !clears ⟨s, tr, a⟩)))
    {vs : List (Visit σ α ε)} {tr : List ε} {s : σ} (h : Exec M s₀ vs tr s) :
    b s = true ↔ Latched sets clears vs := by
  induction h with
  | nil => simp [h0, not_latched_nil]
  | snoc _ hs ih =>
      rw [hstep _ _ _ _ _ hs, latched_snoc, ← ih, Bool.or_eq_true, Bool.and_eq_true,
        Bool.not_eq_true']

/-- The flag is off at all points `g` of a run exactly when between a step that sets it and a
later point `g` there is one that clears it. -/
theorem Exec.off_at_iff (sets clears g : Visit σ α ε → Bool) (h0 : b s₀ = false)
    (hstep : ∀ s tr a s' evs, M.step s a = some (s', evs) →
      b s' = (sets ⟨s, tr, a⟩ || (b s && !clears ⟨s, tr, a⟩)))
    {vs : List (Visit σ α ε)} {tr : List ε} {s : σ} (h : Exec M s₀ vs tr s) :
    (∀ v ∈ vs, g v = true → b v.state = false) ↔
      ∀ ws d ms v us, vs = ws ++ d :: (ms ++ v :: us) → sets d = true → g v = true →
        ∃ c ∈ ms, clears c = true := by
  constructor
  · intro hoff ws d ms v us heq hd hv
    by_contra hkept
    have hsplit : vs = (ws ++ d :: ms) ++ v :: us := by simp [heq]
    have hex : Exec M s₀ (ws ++ d :: ms) v.past v.state := h.upTo hsplit
    have hon : b v.state = true := by
      rw [hex.latched_iff h0 hstep]
      refine ⟨ws, d, ms, rfl, hd, fun c hc => ?_⟩
      by_contra hclear
      exact hkept ⟨c, hc, by simpa using hclear⟩
    rw [hoff v (by simp [heq]) hv] at hon
    cases hon
  · intro hcleared v hmem hv
    obtain ⟨ws', us, heq⟩ := List.append_of_mem hmem
    by_contra hon
    have hex : Exec M s₀ ws' v.past v.state := h.upTo heq
    obtain ⟨ws, d, ms, rfl, hd, hms⟩ := (hex.latched_iff h0 hstep).mp (by simpa using hon)
    obtain ⟨c, hc, hclear⟩ := hcleared ws d ms v us (by simp [heq]) hd hv
    rw [hms c hc] at hclear
    cases hclear

end Latches

/-! ## Composition and replay -/

/-- The points of a run that starts after the events `tr`. -/
def Visit.after (tr : List ε) (v : Visit σ α ε) : Visit σ α ε := { v with past := tr ++ v.past }

/-- Runs compose. -/
theorem Exec.trans {vs vs' : List (Visit σ α ε)} {tr tr' : List ε} {s s' : σ}
    (h : Exec M s₀ vs tr s) (h' : Exec M s vs' tr' s') :
    Exec M s₀ (vs ++ vs'.map (Visit.after tr)) (tr ++ tr') s' := by
  induction h' with
  | nil => simpa using h
  | snoc _ hs ih =>
      have hnext := ih.snoc hs
      simpa [List.map_append, Visit.after, List.append_assoc] using hnext

/-- A single step is a run. -/
theorem Exec.single {s s' : σ} {a : α} {evs : List ε} (h : M.step s a = some (s', evs)) :
    Exec M s [⟨s, [], a⟩] evs s' := by
  simpa using (Exec.empty M s).snoc h

/-- Replay a list of actions; `none` if one of them is not enabled on the way. -/
def Machine.run (M : Machine σ α ε) : σ → List α → Option (σ × List ε)
  | s, [] => some (s, [])
  | s, a :: as =>
      match M.step s a with
      | none => none
      | some (s', evs) =>
          match M.run s' as with
          | none => none
          | some (t, tr) => some (t, evs ++ tr)

/-- What a replay returns is reached by a run. -/
theorem Exec.of_run {as : List α} {s t : σ} {tr : List ε} (h : M.run s as = some (t, tr)) :
    ∃ vs, Exec M s vs tr t ∧ vs.map Visit.act = as := by
  induction as generalizing s t tr with
  | nil =>
      simp only [Machine.run, Option.some.injEq, Prod.mk.injEq] at h
      obtain ⟨rfl, rfl⟩ := h
      exact ⟨[], .nil, rfl⟩
  | cons a as ih =>
      rw [Machine.run] at h
      cases hs : M.step s a with
      | none => simp [hs] at h
      | some p =>
          obtain ⟨s', evs⟩ := p
          cases hr : M.run s' as with
          | none => simp [hs, hr] at h
          | some q =>
              obtain ⟨t', tr'⟩ := q
              simp only [hs, hr, Option.some.injEq, Prod.mk.injEq] at h
              obtain ⟨rfl, rfl⟩ := h
              obtain ⟨vs, hvs, hact⟩ := ih hr
              refine ⟨_, (Exec.single hs).trans hvs, ?_⟩
              have hmap : (vs.map (Visit.after evs)).map Visit.act = vs.map Visit.act := by
                rw [List.map_map]; rfl
              rw [List.map_append, hmap, hact]
              rfl

/-- The end of a replay that succeeds, as a run. The form in which a concrete run is used: the
replay is evaluated, never named. -/
theorem Exec.replay (M : Machine σ α ε) (s : σ) (as : List α)
    (h : (M.run s as).isSome = true) :
    ∃ vs, Exec M s vs ((M.run s as).get h).2 ((M.run s as).get h).1 ∧ vs.map Visit.act = as :=
  Exec.of_run (Option.some_get h).symm

/-- A replay whose end satisfies `P`, as a run: what is to be known of the end is evaluated with the
replay. -/
theorem Exec.replay_of (M : Machine σ α ε) (s : σ) (as : List α) (P : σ → Prop) [DecidablePred P]
    (h : (M.run s as).any (fun r => decide (P r.1)) = true) :
    ∃ vs tr t, Exec M s vs tr t ∧ vs.map Visit.act = as ∧ P t := by
  cases hr : M.run s as with
  | none => simp [hr] at h
  | some r =>
      rw [hr, Option.any_some] at h
      obtain ⟨vs, hvs, hact⟩ := Exec.of_run hr
      exact ⟨vs, r.2, r.1, hvs, hact, of_decide_eq_true h⟩

/-- **Two machines that take related actions alike replay related lists alike.** -/
theorem Machine.run_congr {β : Type} {M : Machine σ α ε} {N : Machine σ β ε} {R : α → β → Prop}
    (hstep : ∀ s a b, R a b → M.step s a = N.step s b) {as : List α} {bs : List β}
    (h : List.Forall₂ R as bs) (s : σ) : M.run s as = N.run s bs := by
  induction h generalizing s with
  | nil => rfl
  | cons hab _ ih =>
      rw [Machine.run, Machine.run, hstep s _ _ hab]
      simp only [ih]

/-- A list of actions that are enabled in every state can be replayed. -/
theorem Machine.run_isSome {M : Machine σ α ε} {as : List α}
    (h : ∀ a ∈ as, ∀ s, (M.step s a).isSome = true) (s : σ) : (M.run s as).isSome = true := by
  induction as generalizing s with
  | nil => rfl
  | cons a as ih =>
      rw [List.forall_mem_cons] at h
      obtain ⟨⟨s', evs⟩, hs⟩ := Option.isSome_iff_exists.mp (h.1 s)
      obtain ⟨⟨t, tr⟩, hr⟩ := Option.isSome_iff_exists.mp (ih h.2 s')
      rw [Machine.run, hs]
      simp only [hr, Option.isSome_some]

/-- The points a list of actions goes through, after the events `past`. -/
def Machine.points (M : Machine σ α ε) : σ → List ε → List α → List (Visit σ α ε)
  | _, _, [] => []
  | s, past, a :: as =>
      match M.step s a with
      | none => []
      | some (s', evs) => ⟨s, past, a⟩ :: M.points s' (past ++ evs) as

/-- A run goes through the points of its actions. -/
theorem Exec.points_append {vs : List (Visit σ α ε)} {tr : List ε} {s : σ}
    (h : Exec M s₀ vs tr s) (as : List α) :
    M.points s₀ [] (vs.map Visit.act ++ as) = vs ++ M.points s tr as := by
  induction h generalizing as with
  | nil => rfl
  | @snoc vs tr evs s s' a _ hs ih =>
      have hrest := ih (a :: as)
      rw [Machine.points, hs] at hrest
      simpa using hrest

/-- **The actions of a run determine its points.** -/
theorem Exec.points_eq {vs : List (Visit σ α ε)} {tr : List ε} {s : σ}
    (h : Exec M s₀ vs tr s) : vs = M.points s₀ [] (vs.map Visit.act) := by
  have hpoints := h.points_append []
  rw [List.append_nil] at hpoints
  rw [hpoints]
  exact (List.append_nil vs).symm

/-! ## Refinement -/

/-- **The refinement rule.** If every step of `M` is, through the abstraction `f`, a run of `N`
with the same events, then every run of `M` is a run of `N` with the same events. -/
theorem Exec.simulate {τ β : Type} {N : Machine τ β ε} (f : σ → τ)
    (hstep : ∀ s a s' evs, M.step s a = some (s', evs) → ∃ ws, Exec N (f s) ws evs (f s'))
    {vs : List (Visit σ α ε)} {tr : List ε} {s : σ} (h : Exec M s₀ vs tr s) :
    ∃ ws, Exec N (f s₀) ws tr (f s) := by
  induction h with
  | nil => exact ⟨[], .nil⟩
  | snoc _ hs ih =>
      obtain ⟨ws, hws⟩ := ih
      obtain ⟨us, hus⟩ := hstep _ _ _ _ hs
      exact ⟨_, hws.trans hus⟩

/-! ## Indexed products -/

section Product

variable {ι : Type} [DecidableEq ι]

/-- The product of `ι` copies of `M`: a step acts on one component. -/
def Machine.pi (M : Machine σ α ε) (ι : Type) [DecidableEq ι] :
    Machine (ι → σ) (ι × α) (ι × ε) where
  step s a :=
    (M.step (s a.1) a.2).map
      (fun r => (Function.update s a.1 r.1, r.2.map (fun e => (a.1, e))))

/-- A step of the product is a step of one component. -/
theorem Machine.pi_step {s s' : ι → σ} {i : ι} {a : α} {evs : List (ι × ε)}
    (h : (M.pi ι).step s (i, a) = some (s', evs)) :
    ∃ t es, M.step (s i) a = some (t, es) ∧ s' = Function.update s i t ∧
      evs = es.map (fun e => (i, e)) := by
  simp only [Machine.pi, Option.map_eq_some_iff, Prod.mk.injEq] at h
  obtain ⟨⟨t, es⟩, hstep, rfl, rfl⟩ := h
  exact ⟨t, es, hstep, rfl, rfl⟩

/-- The events of component `i`. -/
def proj (i : ι) (tr : List (ι × ε)) : List ε :=
  tr.filterMap (fun e => if e.1 = i then some e.2 else none)

/-- The points at which component `i` takes a step. -/
def projVisits (i : ι) (vs : List (Visit (ι → σ) (ι × α) (ι × ε))) : List (Visit σ α ε) :=
  vs.filterMap (fun v =>
    if v.act.1 = i then some ⟨v.state i, proj i v.past, v.act.2⟩ else none)

theorem proj_map_self (i : ι) (evs : List ε) : proj i (evs.map (fun e => (i, e))) = evs := by
  induction evs with
  | nil => rfl
  | cons e es ih =>
      simp [proj]

theorem proj_map_ne {i j : ι} (h : j ≠ i) (evs : List ε) :
    proj i (evs.map (fun e => (j, e))) = [] := by
  simp [proj, h]

theorem proj_append (i : ι) (tr tr' : List (ι × ε)) :
    proj i (tr ++ tr') = proj i tr ++ proj i tr' := List.filterMap_append

/-- What a step of component `i` is in the points of component `i`. -/
theorem projVisits_snoc_self (i : ι) (vs : List (Visit (ι → σ) (ι × α) (ι × ε)))
    (s : ι → σ) (tr : List (ι × ε)) (a : α) :
    projVisits i (vs ++ [⟨s, tr, (i, a)⟩]) = projVisits i vs ++ [⟨s i, proj i tr, a⟩] := by
  simp [projVisits]

theorem projVisits_snoc_ne {i j : ι} (h : j ≠ i) (vs : List (Visit (ι → σ) (ι × α) (ι × ε)))
    (s : ι → σ) (tr : List (ι × ε)) (a : α) :
    projVisits i (vs ++ [⟨s, tr, (j, a)⟩]) = projVisits i vs := by
  simp [projVisits, h]

/-- A component that takes no step has no points. -/
theorem projVisits_eq_nil {i : ι} {vs : List (Visit (ι → σ) (ι × α) (ι × ε))}
    (h : ∀ v ∈ vs, v.act.1 ≠ i) : projVisits i vs = [] := by
  rw [projVisits, List.filterMap_eq_nil_iff]
  intro v hv
  simp [h v hv]

/-- **Projection.** A run of the product, seen from component `i`, is a run of that
component. -/
theorem Exec.proj {s₀ s : ι → σ} {vs : List (Visit (ι → σ) (ι × α) (ι × ε))}
    {tr : List (ι × ε)} (h : Exec (M.pi ι) s₀ vs tr s) (i : ι) :
    Exec M (s₀ i) (projVisits i vs) (StepMachine.proj i tr) (s i) := by
  induction h with
  | nil => exact .nil
  | @snoc vs tr evs s s' a hex hs ih =>
      obtain ⟨j, a⟩ := a
      obtain ⟨t, es, hstep, rfl, rfl⟩ := Machine.pi_step hs
      by_cases hj : j = i
      · subst hj
        rw [projVisits_snoc_self, proj_append, proj_map_self, Function.update_self]
        exact ih.snoc hstep
      · rw [projVisits_snoc_ne hj, proj_append, proj_map_ne hj, List.append_nil,
          Function.update_of_ne (Ne.symm hj)]
        exact ih

/-- **The exact rule for products.** If a step of `M` keeps `P` exactly when it satisfies `G`, then
all components stay in `P` along a run of the product exactly when all its steps satisfy `G`. -/
theorem Exec.pi_inv_iff (P : σ → List ε → Prop) (G : σ → α → Prop) {s₀ s : ι → σ}
    (h0 : ∀ i, P (s₀ i) [])
    (hstep : ∀ s tr a s' evs, P s tr → M.step s a = some (s', evs) →
      (P s' (tr ++ evs) ↔ G s a))
    {vs : List (Visit (ι → σ) (ι × α) (ι × ε))} {tr : List (ι × ε)}
    (h : Exec (M.pi ι) s₀ vs tr s) :
    ((∀ v ∈ vs, ∀ i, P (v.state i) (StepMachine.proj i v.past)) ∧
        ∀ i, P (s i) (StepMachine.proj i tr)) ↔
      ∀ v ∈ vs, G (v.state v.act.1) v.act.2 := by
  refine h.inv_iff (fun s tr => ∀ i, P (s i) (StepMachine.proj i tr))
    (fun v : Visit (ι → σ) (ι × α) (ι × ε) => G (v.state v.act.1) v.act.2) h0 ?_
  rintro s tr ⟨i, a⟩ s' evs hall hs
  obtain ⟨t, es, hcomp, rfl, rfl⟩ := Machine.pi_step hs
  have hself := hstep _ _ _ _ _ (hall i) hcomp
  constructor
  · intro hafter
    have hi := hafter i
    rw [Function.update_self, proj_append, proj_map_self] at hi
    exact hself.mp hi
  · intro hG j
    by_cases hj : j = i
    · subst hj
      rw [Function.update_self, proj_append, proj_map_self]
      exact hself.mpr hG
    · rw [Function.update_of_ne hj, proj_append, proj_map_ne (Ne.symm hj), List.append_nil]
      exact hall j

/-- A condition on every step of the product is one on every step of each component. -/
theorem forall_projVisits {vs : List (Visit (ι → σ) (ι × α) (ι × ε))} {i : ι}
    {G : Visit σ α ε → Prop}
    (h : ∀ v ∈ vs, v.act.1 = i → G ⟨v.state i, StepMachine.proj i v.past, v.act.2⟩) :
    ∀ w ∈ projVisits i vs, G w := by
  intro w hw
  simp only [projVisits, List.mem_filterMap] at hw
  obtain ⟨v, hv, hw⟩ := hw
  by_cases hi : v.act.1 = i
  · rw [if_pos hi, Option.some.injEq] at hw
    subst hw
    exact h v hv hi
  · rw [if_neg hi] at hw
    cases hw

end Product

end StepMachine
