import TfPack.Mstpd.Frames

set_option autoImplicit false

/-! # The spanning tree daemon: invariants of the runs

What every machine keeps when it enters a state, `br_state_machines_run` keeps (`Stable.run`); what
is kept at the beginning as well, the three `xxx_state_machines_begin` keep. The configuration is
the first of these.
-/

namespace Mstpd

open Settling

/-! ## The moves of the machines -/

section Moves

variable {p : PortRef} {t : Mstid} {e b : Bridge} {m : Move Bridge}

theorem assurance_move (h : assurance p e b = some m) :
    m.after = b.setPort p (fun prt => { prt with BaInconsistent := true }) := by
  simp only [assurance] at h
  split_ifs at h
  exact Option.some.inj h ▸ rfl

theorem prsmRun_move (h : prsmRun p e b = some m) :
    m.after = prsmToDiscard b p ∨ m.after = prsmToReceive b p := by
  simp only [prsmRun] at h
  split at h
  · exact .inl (Option.some.inj h ▸ rfl)
  · split at h
    all_goals
      split at h
      · exact .inr (Option.some.inj h ▸ rfl)
      · cases h

theorem ppmsmRun_move (h : ppmsmRun p e b = some m) :
    ∃ x, ppmsmNext b p = some x ∧ m.after = ppmsmTo x b p := by
  obtain ⟨x, hx, rfl⟩ := Option.map_eq_some_iff.mp h
  exact ⟨x, hx, rfl⟩

theorem bdsmRun_move (h : bdsmRun p e b = some m) :
    ∃ x, bdsmNext b p = some x ∧ m.after = bdsmTo x b p := by
  obtain ⟨x, hx, rfl⟩ := Option.map_eq_some_iff.mp h
  exact ⟨x, hx, rfl⟩

/-- A port that is not enabled goes to its initial state, an enabled one makes its next step. -/
theorem ptsmRun_move (h : ptsmRun p e b = some m) :
    ((b.port p).portEnabled = false ∧ m.after = ptsmTo .TRANSMIT_INIT b p) ∨
      ((b.port p).portEnabled = true ∧ ∃ x, ptsmNext b p = some x ∧ m.after = ptsmTo x b p) := by
  simp only [ptsmRun] at h
  split_ifs at h with hen
  · exact .inl ⟨by simpa using hen, Option.some.inj h ▸ rfl⟩
  · obtain ⟨x, hx, rfl⟩ := Option.map_eq_some_iff.mp h
    exact .inr ⟨by simpa using hen, x, hx, rfl⟩

theorem pismRun_move (h : pismRun p t e b = some m) :
    ∃ x, pismNext b p t = some x ∧ m.after = pismTo x b p t := by
  obtain ⟨x, hx, rfl⟩ := Option.map_eq_some_iff.mp h
  exact ⟨x, hx, rfl⟩

theorem prssmRun_move (h : prssmRun t e b = some m) : m.after = prssmToRoleSelection b t := by
  simp only [prssmRun] at h
  split at h
  · exact Option.some.inj h ▸ rfl
  · split_ifs at h
    exact Option.some.inj h ▸ rfl

theorem prtsmRun_move (h : prtsmRun p t e b = some m) :
    ∃ x, prtsmNext (prtsmTimes e p) b p t = some x ∧
      m.after = prtsmTo x (prtsmTimes e p) b p t := by
  obtain ⟨x, hx, rfl⟩ := Option.map_eq_some_iff.mp h
  exact ⟨x, hx, rfl⟩

theorem pstsmRun_move (h : pstsmRun p t e b = some m) :
    ∃ x, pstsmNext b p t = some x ∧ m.after = pstsmTo x b p t := by
  obtain ⟨x, hx, rfl⟩ := Option.map_eq_some_iff.mp h
  exact ⟨x, hx, rfl⟩

theorem tcsmRun_move (h : tcsmRun p t e b = some m) :
    ∃ x, tcsmNext b p t = some x ∧ m.after = tcsmTo x b p t := by
  obtain ⟨x, hx, rfl⟩ := Option.map_eq_some_iff.mp h
  exact ⟨x, hx, rfl⟩

end Moves

/-! ## Stable properties -/

/-- Every machine keeps `I` when it enters its next state. -/
structure Stable (I : Bridge → Prop) : Prop where
  assurance : ∀ b p, I b → I (b.setPort p (fun prt => { prt with BaInconsistent := true }))
  prsmToDiscard : ∀ b p, I b → I (prsmToDiscard b p)
  prsmToReceive : ∀ b p, I b → I (prsmToReceive b p)
  ppmsmTo : ∀ x b p, I b → I (ppmsmTo x b p)
  bdsmTo : ∀ x b p, I b → I (bdsmTo x b p)
  ptsmInit : ∀ b p, (b.port p).portEnabled = false → I b → I (ptsmTo .TRANSMIT_INIT b p)
  ptsmTo : ∀ x b p, (b.port p).portEnabled = true → ptsmNext b p = some x → I b →
    I (ptsmTo x b p)
  pismTo : ∀ x b p t, pismNext b p t = some x → I b → I (pismTo x b p t)
  prssmToRoleSelection : ∀ b t, I b → I (prssmToRoleSelection b t)
  prtsmTo : ∀ x c b p t, prtsmNext c b p t = some x → I b → I (prtsmTo x c b p t)
  pstsmTo : ∀ x b p t, pstsmNext b p t = some x → I b → I (pstsmTo x b p t)
  tcsmTo : ∀ x b p t, tcsmNext b p t = some x → I b → I (tcsmTo x b p t)

/-- The beginning of every machine keeps `I`. -/
structure StableBegin (I : Bridge → Prop) : Prop extends Stable I where
  ptsmBegin : ∀ b p, I b → I (Mstpd.ptsmTo .TRANSMIT_INIT b p)
  pismBegin : ∀ b p t, I b → I (pismBegin b p t)
  prssmBegin : ∀ b t, I b → I (prssmBegin b t)
  prtsmBegin : ∀ b p t, I b → I (prtsmBegin b p t)
  pstsmBegin : ∀ b p t, I b → I (pstsmBegin b p t)
  tcsmBegin : ∀ b p t, I b → I (tcsmBegin b p t)

section Stable

variable {I : Bridge → Prop} {b b' : Bridge} {c : Budget}

theorem Stable.prssm_keeps (h : Stable I) (t : Mstid) : (prssmRun t).Keeps I := by
  intro e s m _ hs hm
  rw [prssmRun_move hm]
  exact h.prssmToRoleSelection s t hs

/-- **Every machine of a bridge keeps a stable property.** -/
theorem Stable.machines (h : Stable I) : ∀ a ∈ b.machines, a.Keeps I := by
  intro a ha e s m _ hs hm
  simp only [Bridge.machines, List.mem_append, List.mem_map] at ha
  rcases ha with ((((((((⟨p, -, rfl⟩ | ⟨p, -, rfl⟩) | ⟨p, -, rfl⟩) | ⟨p, -, rfl⟩) | ⟨p, -, rfl⟩) |
    ⟨x, -, rfl⟩) | ⟨t, -, rfl⟩) | ⟨x, -, rfl⟩) | ⟨x, -, rfl⟩) | ⟨x, -, rfl⟩
  · rw [assurance_move hm]
    exact h.assurance s p hs
  · rcases prsmRun_move hm with hm | hm
    · exact hm ▸ h.prsmToDiscard s p hs
    · exact hm ▸ h.prsmToReceive s p hs
  · obtain ⟨x, -, hm⟩ := ppmsmRun_move hm
    exact hm ▸ h.ppmsmTo x s p hs
  · obtain ⟨x, -, hm⟩ := bdsmRun_move hm
    exact hm ▸ h.bdsmTo x s p hs
  · rcases ptsmRun_move hm with ⟨hen, hm⟩ | ⟨hen, x, hx, hm⟩
    · exact hm ▸ h.ptsmInit s p hen hs
    · exact hm ▸ h.ptsmTo x s p hen hx hs
  · obtain ⟨y, hy, hm⟩ := pismRun_move hm
    exact hm ▸ h.pismTo y s x.1 x.2 hy hs
  · rw [prssmRun_move hm]
    exact h.prssmToRoleSelection s t hs
  · obtain ⟨y, hy, hm⟩ := prtsmRun_move hm
    exact hm ▸ h.prtsmTo y _ s x.1 x.2 hy hs
  · obtain ⟨y, hy, hm⟩ := pstsmRun_move hm
    exact hm ▸ h.pstsmTo y s x.1 x.2 hy hs
  · obtain ⟨y, hy, hm⟩ := tcsmRun_move hm
    exact hm ▸ h.tcsmTo y s x.1 x.2 hy hs

/-- **A run of the machines keeps a stable property.** -/
theorem Stable.run (h : Stable I) (hb : I b) (hr : brStateMachinesRun c b = some b') : I b' := by
  rw [brStateMachinesRun] at hr
  split at hr
  · exact settle_keeps h.machines hb hr
  · exact Option.some.inj hr ▸ hb

/-- **A run of an enabled bridge ends at rest or with a round.** -/
theorem Stable.run_cases (h : Stable I) (hb : I b) (hen : b.conf.bridgeEnabled = true)
    (hr : brStateMachinesRun c b = some b') :
    (b.dryRun = false ∧ b' = b) ∨ ∃ s, I s ∧ round c.depth b.machines s = some b' := by
  rw [brStateMachinesRun, if_pos hen] at hr
  exact settle_cases h.machines hb hr

/-! ## The beginning -/

theorem forPlaces_keeps {f : Bridge → PortRef → Mstid → Bridge} (hf : ∀ b p t, I b → I (f b p t))
    (l : List (PortRef × Mstid)) (hb : I b) : I (b.forPlaces l f) := by
  induction l generalizing b with
  | nil => exact hb
  | cons x l ih => exact ih (hf b x.1 x.2 hb)

theorem forPorts_keeps {f : Bridge → PortRef → Bridge} (hf : ∀ b p, I b → I (f b p))
    (l : List PortRef) (hb : I b) : I (b.forPorts l f) := by
  induction l generalizing b with
  | nil => exact hb
  | cons p l ih => exact ih (hf b p hb)

theorem forTrees_keeps {f : Bridge → Mstid → Bridge} (hf : ∀ b t, I b → I (f b t))
    (l : List Mstid) (hb : I b) : I (b.forTrees l f) := by
  induction l generalizing b with
  | nil => exact hb
  | cons t l ih => exact ih (hf b t hb)

/-- What each call of a loop brings about and the others keep is there at its end. -/
theorem foldl_establishes {ι : Type} {f : Bridge → ι → Bridge} {Q : ι → Bridge → Prop}
    (hI : ∀ b i, I b → I (f b i)) (hest : ∀ b i, I b → Q i (f b i))
    (hkeep : ∀ b i j, I b → Q i b → Q i (f b j)) (l : List ι) (hb : I b) :
    ∀ i ∈ l, Q i (l.foldl f b) := by
  have hrest : ∀ (l : List ι) (i : ι) (b : Bridge), I b → Q i b → Q i (l.foldl f b) := by
    intro l i
    induction l with
    | nil => exact fun b _ hq => hq
    | cons j l ih => exact fun b hb hq => ih (f b j) (hI b j hb) (hkeep b i j hb hq)
  induction l generalizing b with
  | nil => exact fun i hi => absurd hi List.not_mem_nil
  | cons j l ih =>
      intro i hi
      rcases List.mem_cons.mp hi with rfl | hi
      · exact hrest l i _ (hI b i hb) (hest b i hb)
      · exact ih (hI b j hb) i hi

theorem StableBegin.portMachines (h : StableBegin I) (l : List PortRef) (hb : I b) :
    I (portMachinesBegin b l) :=
  forPorts_keeps h.ptsmBegin l
    (forPorts_keeps (fun b p => h.bdsmTo _ b p) l
      (forPorts_keeps (fun b p => h.ppmsmTo _ b p) l
        (forPorts_keeps h.prsmToDiscard l hb)))

theorem StableBegin.placeMachines (h : StableBegin I) (l : List (PortRef × Mstid)) (hb : I b) :
    I (placeMachinesBegin b l) :=
  forPlaces_keeps h.tcsmBegin l (forPlaces_keeps h.pstsmBegin l (forPlaces_keeps h.prtsmBegin l hb))

theorem StableBegin.tree (h : StableBegin I) {t : Mstid} (hb : I b)
    (hr : treeStateMachinesBegin c b t = some b') : I b' := by
  rw [treeStateMachinesBegin] at hr
  split at hr
  · exact Option.some.inj hr ▸ hb
  · exact h.run (h.placeMachines _ (h.prssmBegin _ _ (forPlaces_keeps h.pismBegin _ hb))) hr

theorem StableBegin.prt (h : StableBegin I) {p : PortRef} (hb : I b)
    (hr : prtStateMachinesBegin c b p = some b') : I b' := by
  rw [prtStateMachinesBegin] at hr
  split at hr
  · exact Option.some.inj hr ▸ hb
  · obtain ⟨s, hs, hr⟩ := Option.bind_eq_some_iff.mp hr
    refine h.run (h.placeMachines _ (round_keeps ?_ (forPlaces_keeps h.pismBegin _
      (h.portMachines _ hb)) hs)) hr
    intro a ha
    obtain ⟨t, -, rfl⟩ := List.mem_map.mp ha
    exact h.prssm_keeps t

theorem StableBegin.br (h : StableBegin I) (hb : I b)
    (hr : brStateMachinesBegin c b = some b') : I b' := by
  rw [brStateMachinesBegin] at hr
  split at hr
  · exact Option.some.inj hr ▸ hb
  · exact h.run (h.placeMachines _ (forTrees_keeps h.prssmBegin _
      (forPlaces_keeps h.pismBegin _ (h.portMachines _ hb)))) hr

end Stable

/-! ## Groups of machines -/

section Groups

variable {I : Bridge → Prop}

/-- The machines of a port do what their three kinds of steps do. -/
theorem stable_of_groups
    (hmsg : ∀ {b b' : Bridge}, Touches PerTreePort.exceptMsg b b' → I b → I b')
    (hsends : ∀ {b b' : Bridge} {p : PortRef}, Sends p b b' → I b → I b')
    (hpism : ∀ x b p t, pismNext b p t = some x → I b → I (pismTo x b p t))
    (hprssm : ∀ b t, I b → I (prssmToRoleSelection b t))
    (hprtsm : ∀ x c b p t, prtsmNext c b p t = some x → I b → I (prtsmTo x c b p t))
    (hpstsm : ∀ x b p t, pstsmNext b p t = some x → I b → I (pstsmTo x b p t))
    (htcsm : ∀ x b p t, tcsmNext b p t = some x → I b → I (tcsmTo x b p t)) : Stable I where
  assurance b p := hmsg (assurance_touches b p)
  prsmToDiscard b p := hmsg (prsmToDiscard_touches b p)
  prsmToReceive b p := hmsg (prsmToReceive_touches b p)
  ppmsmTo x b p := hmsg (ppmsmTo_touches x b p)
  bdsmTo x b p := hmsg (bdsmTo_touches x b p)
  ptsmInit b p _ := hsends (ptsmTo_sends .TRANSMIT_INIT b p)
  ptsmTo x b p _ _ := hsends (ptsmTo_sends x b p)
  pismTo := hpism
  prssmToRoleSelection := hprssm
  prtsmTo := hprtsm
  pstsmTo := hpstsm
  tcsmTo := htcsm

/-- **What is configured no machine changes.** -/
theorem stable_held (b₀ : Bridge) : StableBegin (Held b₀) where
  toStable := stable_of_groups (fun h hb => hb.trans h.toHeld) (fun h hb => hb.trans h.toHeld)
    (fun x b p t _ hb => hb.trans (pismTo_touches x b p t).toHeld)
    (fun b t hb => hb.trans (prssmToRoleSelection_touches b t).toHeld)
    (fun x c b p t _ hb => hb.trans (prtsmTo_touches x c b p t).toHeld)
    (fun x b p t _ hb => hb.trans (pstsmTo_touches x b p t).toHeld)
    (fun x b p t _ hb => hb.trans (tcsmTo_touches x b p t).toHeld)
  ptsmBegin b p hb := hb.trans (ptsmTo_sends .TRANSMIT_INIT b p).toHeld
  pismBegin b p t hb := hb.trans (pismBegin_touches b p t).toHeld
  prssmBegin b t hb := hb.trans (prssmBegin_touches b t).toHeld
  prtsmBegin b p t hb := hb.trans (prtsmTo_touches .INIT_PORT _ b p t).toHeld
  pstsmBegin b p t hb := hb.trans (pstsmTo_touches .DISCARDING b p t).toHeld
  tcsmBegin b p t hb := hb.trans (tcsmTo_touches .INACTIVE b p t).toHeld

variable {b b' : Bridge} {c : Budget}

theorem run_held (hr : brStateMachinesRun c b = some b') : Held b b' :=
  (stable_held b).run (.refl b) hr

theorem br_held (hr : brStateMachinesBegin c b = some b') : Held b b' :=
  (stable_held b).br (.refl b) hr

theorem prt_held {p : PortRef} (hr : prtStateMachinesBegin c b p = some b') : Held b b' :=
  (stable_held b).prt (.refl b) hr

theorem tree_held {t : Mstid} (hr : treeStateMachinesBegin c b t = some b') : Held b b' :=
  (stable_held b).tree (.refl b) hr

theorem Held.places (h : Held b b') : b'.places = b.places := by
  simp only [Bridge.places, h.conf]

/-- The beginning of a bridge that is on ends with that of its entries, and a run. -/
theorem br_cases (hen : b.conf.bridgeEnabled = true) (hr : brStateMachinesBegin c b = some b') :
    ∃ s, Held b s ∧ brStateMachinesRun c (placeMachinesBegin s b.places) = some b' := by
  have h := stable_held b
  rw [brStateMachinesBegin, hen, Bool.not_true, if_neg Bool.false_ne_true] at hr
  have hports := h.portMachines b.conf.ports (.refl b)
  set s₁ := portMachinesBegin b b.conf.ports
  have hplaces := forPlaces_keeps h.pismBegin s₁.places hports
  set s₂ := s₁.forPlaces s₁.places pismBegin
  have htrees := forTrees_keeps h.prssmBegin s₂.conf.trees hplaces
  exact ⟨_, htrees, htrees.places ▸ hr⟩

/-- So does that of a port. -/
theorem prt_cases {p : PortRef} (hen : b.conf.bridgeEnabled = true)
    (hr : prtStateMachinesBegin c b p = some b') :
    ∃ s, Held b s ∧ brStateMachinesRun c (placeMachinesBegin s (b.placesOfPort p)) = some b' := by
  have h := stable_held b
  rw [prtStateMachinesBegin, hen, Bool.not_true, if_neg Bool.false_ne_true] at hr
  obtain ⟨s, hs, hr⟩ := Option.bind_eq_some_iff.mp hr
  have hheld : Held b s := by
    refine round_keeps ?_ (forPlaces_keeps h.pismBegin _ (h.portMachines _ (.refl b))) hs
    intro a ha
    obtain ⟨t, -, rfl⟩ := List.mem_map.mp ha
    exact h.prssm_keeps t
  have hplaces : s.placesOfPort p = b.placesOfPort p := by
    simp only [Bridge.placesOfPort, hheld.conf]
  exact ⟨s, hheld, hplaces ▸ hr⟩

/-- So does that of a tree. -/
theorem tree_cases {t : Mstid} (hen : b.conf.bridgeEnabled = true)
    (hr : treeStateMachinesBegin c b t = some b') :
    ∃ s, Held b s ∧ brStateMachinesRun c (placeMachinesBegin s (b.placesOfTree t)) = some b' := by
  have h := stable_held b
  rw [treeStateMachinesBegin, hen, Bool.not_true, if_neg Bool.false_ne_true] at hr
  have hplaces : ∀ s, Held b s → s.placesOfTree t = b.placesOfTree t := by
    intro s hs
    rw [Bridge.placesOfTree, hs.conf]
    rfl
  have hheld := h.prssmBegin _ t (forPlaces_keeps h.pismBegin (b.placesOfTree t) (.refl b))
  set s := prssmBegin (b.forPlaces (b.placesOfTree t) pismBegin) t
  exact ⟨s, hheld, hplaces s hheld ▸ hr⟩

/-! What the beginning of the port information brings about, and all machines keep, is there after
the machines have begun. -/

section Establish

variable {Q : PortRef × Mstid → Bridge → Prop}

theorem forPlaces_establishes (hQ : ∀ x, StableBegin (Q x))
    (hest : ∀ b x, Q x (pismBegin b x.1 x.2)) (l : List (PortRef × Mstid)) :
    ∀ x ∈ l, Q x (b.forPlaces l pismBegin) :=
  foldl_establishes (I := fun _ => True) (fun _ _ _ => trivial) (fun b x _ => hest b x)
    (fun b x y _ => (hQ x).pismBegin b y.1 y.2) l trivial

theorem br_establishes (hQ : ∀ x, StableBegin (Q x)) (hest : ∀ b x, Q x (pismBegin b x.1 x.2))
    (hen : b.conf.bridgeEnabled = true) (hr : brStateMachinesBegin c b = some b') :
    ∀ x ∈ b.places, Q x b' := by
  intro x hx
  rw [brStateMachinesBegin, hen, Bool.not_true, if_neg Bool.false_ne_true] at hr
  have hports := (stable_held b).portMachines b.conf.ports (.refl b)
  rw [← hports.places] at hx
  exact (hQ x).run ((hQ x).placeMachines _ (forTrees_keeps (hQ x).prssmBegin _
    (forPlaces_establishes hQ hest _ x hx))) hr

theorem prt_establishes (hQ : ∀ x, StableBegin (Q x)) (hest : ∀ b x, Q x (pismBegin b x.1 x.2))
    {p : PortRef} (hen : b.conf.bridgeEnabled = true)
    (hr : prtStateMachinesBegin c b p = some b') : ∀ x ∈ b.placesOfPort p, Q x b' := by
  intro x hx
  rw [prtStateMachinesBegin, hen, Bool.not_true, if_neg Bool.false_ne_true] at hr
  obtain ⟨s, hs, hr⟩ := Option.bind_eq_some_iff.mp hr
  have hplaces : (portMachinesBegin b [p]).placesOfPort p = b.placesOfPort p := by
    simp only [Bridge.placesOfPort, ((stable_held b).portMachines [p] (.refl b)).conf]
  rw [← hplaces] at hx
  refine (hQ x).run ((hQ x).placeMachines _ (round_keeps ?_
    (forPlaces_establishes hQ hest _ x hx) hs)) hr
  intro a ha
  obtain ⟨t, -, rfl⟩ := List.mem_map.mp ha
  exact (hQ x).prssm_keeps t

theorem tree_establishes (hQ : ∀ x, StableBegin (Q x)) (hest : ∀ b x, Q x (pismBegin b x.1 x.2))
    {t : Mstid} (hen : b.conf.bridgeEnabled = true)
    (hr : treeStateMachinesBegin c b t = some b') : ∀ x ∈ b.placesOfTree t, Q x b' := by
  intro x hx
  rw [treeStateMachinesBegin, hen, Bool.not_true, if_neg Bool.false_ne_true] at hr
  exact (hQ x).run ((hQ x).placeMachines _ ((hQ x).prssmBegin _ _
    (forPlaces_establishes hQ hest _ x hx))) hr

end Establish

end Groups

end Mstpd
