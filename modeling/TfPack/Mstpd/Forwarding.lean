import TfPack.Mstpd.Entries
import TfPack.Mstpd.Parameters
import TfPack.Mstpd.PortStates

set_option autoImplicit false

/-! # The spanning tree daemon: what the kernel forwards

When an event is over, the kernel does on every port of a bridge that is on what the machines want
(`kernel_state`): it forwards exactly on the ports with `forward`, learns on those with `learn`
alone, blocks all others, and only ports in an active role learn or forward at all. On a bridge that
is off every port is disabled. What is called the kernel here is the state that
`driver_set_new_state` is given for each tree; the bridge of the kernel itself has one state for a
port, that of the CIST.

A port is left out from its deletion until it is taken off the list, which is before the event is
over (`not_deleted`).
-/

namespace Mstpd

open StepMachine Settling

variable {b b' : Bridge} {c : Budget}

/-! ## The kernel and the machine -/

/-- The kernel has been told the state of the machine. -/
def KernelAt (x : PortRef × Mstid) (b : Bridge) : Prop :=
  b.conf.bridgeEnabled = true → (b.port x.1).deleted = false →
    (b.ptp x.1 x.2).state = (b.ptp x.1 x.2).PSTSM_state.brState

theorem Touches.kernelAt {e : PerTreePort → PerTreePort} {x : PortRef × Mstid}
    (h : Touches e b b') (he : ∀ y, ((e y).state, (e y).PSTSM_state) = (y.state, y.PSTSM_state))
    (hb : KernelAt x b) : KernelAt x b' := by
  have hview := h.view (fun y => (y.state, y.PSTSM_state)) he x.1 x.2
  have hport := h.port x.1
  simp only [Prod.mk.injEq] at hview hport
  intro hen hdel
  rw [hview.1, hview.2]
  exact hb (h.conf ▸ hen) (hport.2.2.symm.trans hdel)

theorem Sends.kernelAt {p : PortRef} {x : PortRef × Mstid} (h : Sends p b b')
    (hb : KernelAt x b) : KernelAt x b' := by
  have hport := h.toHeld.port x.1
  simp only [Prod.mk.injEq] at hport
  intro hen hdel
  rw [h.ptp]
  exact hb (h.conf ▸ hen) (hport.2.2.symm.trans hdel)

theorem pstsmTo_held (x : PstsmState) (b : Bridge) (p : PortRef) (t : Mstid) :
    Held b (pstsmTo x b p t) :=
  (pstsmTo_touches x b p t).toHeld

/-- Entering a state tells the kernel. -/
theorem pstsmTo_kernelAt (x : PstsmState) (b : Bridge) (p : PortRef) (t : Mstid) :
    KernelAt (p, t) (pstsmTo x b p t) := by
  have hport := (pstsmTo_held x b p t).port p
  simp only [Prod.mk.injEq] at hport
  intro _ hdel
  rw [pstsmTo_ptp, setPtp_ptp_self, hport.2.2.symm.trans hdel]
  cases x <;> rfl

theorem pstsmTo_keeps_kernelAt {x : PortRef × Mstid} (y : PstsmState) (b : Bridge) (p : PortRef)
    (t : Mstid) (hb : KernelAt x b) : KernelAt x (pstsmTo y b p t) := by
  by_cases hx : x.1 = p ∧ x.2 = t
  · obtain ⟨rfl, rfl⟩ := hx
    exact pstsmTo_kernelAt y b x.1 x.2
  · have hport := (pstsmTo_held y b p t).port x.1
    simp only [Prod.mk.injEq] at hport
    intro hen hdel
    rw [pstsmTo_ptp, setPtp_ptp, if_neg hx]
    exact hb ((pstsmTo_held y b p t).conf ▸ hen) (hport.2.2.symm.trans hdel)

theorem stable_kernelAt (x : PortRef × Mstid) : StableBegin (KernelAt x) where
  toStable := stable_of_groups (fun h => h.kernelAt (fun _ => rfl)) (fun h => h.kernelAt)
    (fun x b p t _ => (pismTo_touches x b p t).kernelAt (fun _ => rfl))
    (fun b t => (prssmToRoleSelection_touches b t).kernelAt (fun _ => rfl))
    (fun x c b p t _ => (prtsmTo_touches x c b p t).kernelAt (fun _ => rfl))
    (fun y b p t _ => pstsmTo_keeps_kernelAt y b p t)
    (fun x b p t _ => (tcsmTo_touches x b p t).kernelAt (fun _ => rfl))
  ptsmBegin b p := (ptsmTo_sends .TRANSMIT_INIT b p).kernelAt
  pismBegin b p t := (pismBegin_touches b p t).kernelAt (fun _ => rfl)
  prssmBegin b t := (prssmBegin_touches b t).kernelAt (fun _ => rfl)
  prtsmBegin b p t := (prtsmTo_touches .INIT_PORT _ b p t).kernelAt (fun _ => rfl)
  pstsmBegin b p t := pstsmTo_keeps_kernelAt .DISCARDING b p t
  tcsmBegin b p t := (tcsmTo_touches .INACTIVE b p t).kernelAt (fun _ => rfl)

/-- The beginning of the machines of an entry tells the kernel. -/
theorem placeMachinesBegin_kernelAt (b : Bridge) (l : List (PortRef × Mstid)) :
    ∀ x ∈ l, KernelAt x (placeMachinesBegin b l) := by
  intro x hx
  refine forPlaces_keeps (stable_kernelAt x).tcsmBegin l ?_
  exact foldl_establishes (I := fun _ => True) (Q := KernelAt) (fun _ _ _ => trivial)
    (fun b x _ => pstsmTo_kernelAt .DISCARDING b x.1 x.2)
    (fun b x y _ => pstsmTo_keeps_kernelAt .DISCARDING b y.1 y.2) l trivial x hx

/-! ## At the end of a round -/

/-- The kernel does what is wanted. -/
def RestsAt (x : PortRef × Mstid) (b : Bridge) : Prop := pstsmNext b x.1 x.2 = none

theorem pstsmNext_congr {x : PortRef × Mstid}
    (h : ((b'.ptp x.1 x.2).PSTSM_state, (b'.ptp x.1 x.2).learn, (b'.ptp x.1 x.2).forward) =
      ((b.ptp x.1 x.2).PSTSM_state, (b.ptp x.1 x.2).learn, (b.ptp x.1 x.2).forward)) :
    pstsmNext b' x.1 x.2 = pstsmNext b x.1 x.2 := by
  simp only [Prod.mk.injEq] at h
  simp only [pstsmNext, h.1, h.2.1, h.2.2]

theorem pstsmTo_ptp_ne {x : PstsmState} {p p' : PortRef} {t t' : Mstid} (h : ¬(p' = p ∧ t' = t)) :
    (pstsmTo x b p t).ptp p' t' = b.ptp p' t' := by
  rw [pstsmTo_ptp, setPtp_ptp, if_neg h]

/-- A call of the machine leaves its own entry at rest. -/
theorem pstsmRun_rests {depth : Nat} {p : PortRef} {t : Mstid}
    (h : (pstsmRun p t).run depth b = some b') : RestsAt (p, t) b' := by
  refine BoundedLoop.run_inv (P := fun _ => True) (Q := RestsAt (p, t)) (fun _ _ _ _ => trivial)
    ?_ trivial h
  intro s s' _ hbody
  rcases body_eq_inr hbody with ⟨hnone, rfl⟩ | ⟨m, hm, hagain, rfl⟩
  · exact Option.map_eq_none_iff.mp hnone
  · -- only `FORWARDING` ends the call, and there the port is to forward
    obtain ⟨x, hx, rfl⟩ := Option.map_eq_some_iff.mp hm
    have hfwd : x = .FORWARDING := by simpa using hagain
    subst hfwd
    simp only [pstsmNext] at hx
    cases hs : (s.ptp p t).PSTSM_state <;> simp only [hs] at hx <;> split_ifs at hx <;> cases hx
    rename_i hforward
    simp [RestsAt, pstsmNext, pstsmTo_ptp, pstsmEntry, hforward]

/-- A call for one entry leaves the others at rest. -/
theorem pstsmRun_keeps_rests {depth : Nat} {x y : PortRef × Mstid} (hx : RestsAt x b)
    (h : (pstsmRun y.1 y.2).run depth b = some b') : RestsAt x b' := by
  refine run_keeps (I := RestsAt x) ?_ hx h
  intro _ s m _ hs hm
  obtain ⟨z, hz, hafter⟩ := pstsmRun_move hm
  rw [hafter]
  by_cases hxy : x.1 = y.1 ∧ x.2 = y.2
  · rw [RestsAt, hxy.1, hxy.2, hz] at hs
    cases hs
  · exact (pstsmNext_congr (by rw [pstsmTo_ptp_ne hxy])).trans hs

theorem tcsmRun_keeps_rests (x y : PortRef × Mstid) :
    (tcsmRun y.1 y.2).Keeps (RestsAt x) := by
  intro _ s m _ hs hm
  obtain ⟨z, -, hafter⟩ := tcsmRun_move hm
  rw [hafter]
  refine (pstsmNext_congr ?_).trans hs
  exact (tcsmTo_touches z s y.1 y.2).view (fun y => (y.PSTSM_state, y.learn, y.forward))
    (fun _ => rfl) x.1 x.2

/-- **After a run of the machines the kernel does what is wanted.** -/
theorem run_rests (hen : b.conf.bridgeEnabled = true) (hr : brStateMachinesRun c b = some b') :
    ∀ x ∈ b.places, RestsAt x b' := by
  have htrue : Stable (fun _ => True) := by constructor <;> intros <;> trivial
  rcases htrue.run_cases trivial hen hr with ⟨hdry, rfl⟩ | ⟨s, -, hround⟩
  · intro x hx
    have hall := List.any_eq_false.mp hdry (pstsmRun x.1 x.2) (by
      simp only [Bridge.machines, List.mem_append, List.mem_map]
      exact .inl (.inr ⟨x, hx, rfl⟩))
    by_contra hne
    obtain ⟨z, hz⟩ := Option.ne_none_iff_exists'.mp hne
    exact hall (by simp only [Automaton.dry, pstsmRun, hz, Option.map_some])
  · rw [Bridge.machines, round_append, round_append] at hround
    obtain ⟨u, hu, htc⟩ := Option.bind_eq_some_iff.mp hround
    obtain ⟨v, -, hps⟩ := Option.bind_eq_some_iff.mp hu
    intro x hx
    refine round_keeps (I := RestsAt x) ?_ ?_ htc
    · intro a ha
      obtain ⟨y, -, rfl⟩ := List.mem_map.mp ha
      exact tcsmRun_keeps_rests x y
    · exact round_establishes (I := fun _ => True) (Q := RestsAt)
        (fun _ _ _ _ _ _ _ => trivial) (fun x s s' _ h => pstsmRun_rests h)
        (fun x y s s' _ hq h => pstsmRun_keeps_rests hq h) trivial hps x hx

/-! ## Small steps -/

/-- The machines of the states of a bridge that is on are at rest. -/
abbrev Bridge.Rests (b : Bridge) : Prop := b.OnAll RestsAt

/-- The ports of a bridge that is off are disabled. -/
def Bridge.OffOk (b : Bridge) : Prop :=
  b.conf.bridgeEnabled = false → ∀ x ∈ b.places, (b.ptp x.1 x.2).state = .DISABLED

/-- Of the ports on the list only `victim` may have been deleted. -/
def Bridge.Undeleted (victim : Option PortRef) (b : Bridge) : Prop :=
  b.conf.ports.Nodup ∧ ∀ p ∈ b.conf.ports, (b.port p).deleted = true → victim = some p

section Small

variable {victim : Option PortRef}

/-- What depends on the bridge being off is kept when nothing begins. -/
theorem off_begin {P : Bridge → Prop} (hoff : b.conf.bridgeEnabled = false) (hb : P b)
    (hr : brStateMachinesBegin c b = some b') : P b' := by
  rw [brStateMachinesBegin, hoff] at hr
  exact Option.some.inj hr ▸ hb

theorem Input.kernelAt (h : Input victim b b') {x : PortRef × Mstid} (hb : KernelAt x b) :
    KernelAt x b' := by
  have hview := h.view (fun y => (y.state, y.PSTSM_state)) (fun _ => rfl) x.1 x.2
  simp only [Prod.mk.injEq] at hview
  intro hen hdel
  rw [hview.1, hview.2]
  rcases h.deleted x.1 with hd | ⟨-, hd⟩
  · exact hb (h.enabled ▸ hen) (hd ▸ hdel)
  · rw [hdel] at hd
    cases hd

/-- Whenever machines begin, the kernel is told about their ports. -/
theorem established_kernelAt : Established KernelAt where
  stable := stable_kernelAt
  br hen hr := by
    obtain ⟨s, -, hr⟩ := br_cases hen hr
    exact fun x hx => (stable_kernelAt x).run (placeMachinesBegin_kernelAt s _ x hx) hr
  prt hen hr := by
    obtain ⟨s, -, hr⟩ := prt_cases hen hr
    exact fun x hx => (stable_kernelAt x).run (placeMachinesBegin_kernelAt s _ x hx) hr
  tree hen hr := by
    obtain ⟨s, -, hr⟩ := tree_cases hen hr
    exact fun x hx => (stable_kernelAt x).run (placeMachinesBegin_kernelAt s _ x hx) hr
  input h := h.kernelAt
  entry hen hport hptp := by
    rw [KernelAt, KernelAt, hen, hport, hptp]
    exact id

/-- A run of the machines of a bridge that is on is the end of every beginning. -/
theorem rests_of_run (hr : brStateMachinesRun c b = some b') :
    b'.Rests := by
  intro hen x hx
  rw [(run_held hr).places] at hx
  exact run_rests ((run_held hr).enabled ▸ hen) hr x hx

theorem rests_of_off (h : b.conf.bridgeEnabled = false) : b.Rests := by
  intro hen
  rw [h] at hen
  cases hen

theorem br_rests (hr : brStateMachinesBegin c b = some b') : b'.Rests := by
  cases hen : b.conf.bridgeEnabled with
  | false => exact rests_of_off ((br_held hr).enabled.trans hen)
  | true =>
      obtain ⟨s, -, hr⟩ := br_cases hen hr
      exact rests_of_run hr

theorem small_rests (h : Small c victim b b') (hb : b.Rests) : b'.Rests := by
  cases h with
  | input h =>
      intro hen x hx
      refine (pstsmNext_congr ?_).trans (hb (h.enabled ▸ hen) x (h.places hx))
      exact h.view (fun y => (y.PSTSM_state, y.learn, y.forward)) (fun _ => rfl) x.1 x.2
  | run h => exact rests_of_run h
  | «begin» h => exact br_rests h
  | enable up h =>
      rcases setBridgeEnable_cases h with rfl | ⟨s, -, hr⟩
      · exact hb
      · exact br_rests hr
  | portCreate p name portno h =>
      rcases portCreate_cases h with rfl | ⟨-, hr⟩
      · exact hb
      cases hen : (newPort b p name portno).conf.bridgeEnabled with
      | false => exact rests_of_off ((prt_held hr).enabled.trans hen)
      | true =>
          obtain ⟨s, -, hr⟩ := prt_cases hen hr
          exact rests_of_run hr
  | createMsti t h =>
      rcases createMsti_cases h with rfl | ⟨trees, -, hr⟩
      · exact hb
      cases hen : (newTree b t trees).conf.bridgeEnabled with
      | false => exact rests_of_off ((tree_held hr).enabled.trans hen)
      | true =>
          obtain ⟨s, -, hr⟩ := tree_cases hen hr
          exact rests_of_run hr

/-- What a bridge that is off is not touched by: the machines are not run. -/
theorem offOk_of_held {s : Bridge} (hs : s.conf.bridgeEnabled = false → s.OffOk)
    (hheld : Held s b') (hoff : s.conf.bridgeEnabled = false → b' = s) : b'.OffOk := by
  intro hen
  have hen' := hheld.enabled ▸ hen
  rw [hoff hen']
  exact hs hen' hen'

theorem run_off (hr : brStateMachinesRun c b = some b') (hoff : b.conf.bridgeEnabled = false) :
    b' = b := by
  rw [brStateMachinesRun, hoff, if_neg Bool.false_ne_true] at hr
  exact (Option.some.inj hr).symm

theorem br_off (hr : brStateMachinesBegin c b = some b') (hoff : b.conf.bridgeEnabled = false) :
    b' = b := off_begin (P := fun s => s = b) hoff rfl hr

theorem small_offOk (h : Small c victim b b') (hb : b.OffOk) : b'.OffOk := by
  cases h with
  | input h =>
      intro hen x hx
      rw [h.view PerTreePort.state (fun _ => rfl)]
      exact hb (h.enabled ▸ hen) x (h.places hx)
  | run h => exact offOk_of_held (fun _ => hb) (run_held h) (run_off h)
  | «begin» h => exact offOk_of_held (fun _ => hb) (br_held h) (br_off h)
  | enable up h =>
      rcases setBridgeEnable_cases h with rfl | ⟨s, hs, hr⟩
      · exact hb
      · refine offOk_of_held (fun _ _ x hx => hs.state x ?_) (br_held hr) (br_off hr)
        simpa only [Bridge.places, hs.conf] using hx
  | portCreate p name portno h =>
      rcases portCreate_cases h with rfl | ⟨-, hr⟩
      · exact hb
      refine offOk_of_held (fun _ hen x hx => ?_) (prt_held hr) (fun hoff => ?_)
      · rw [newPort_ptp]
        split
        · rfl
        · rename_i hxp
          obtain ⟨hp, ht⟩ := mem_places.mp hx
          exact hb hen x (mem_places.mpr
            ⟨(List.mem_append.mp hp).resolve_right (by simpa using hxp), ht⟩)
      · rw [prtStateMachinesBegin, hoff] at hr
        exact (Option.some.inj hr).symm
  | createMsti t h =>
      rcases createMsti_cases h with rfl | ⟨trees, hcond, hr⟩
      · exact hb
      refine offOk_of_held (fun _ hen x hx => ?_) (tree_held hr) (fun hoff => ?_)
      · rw [newTree_ptp]
        split
        · rfl
        · rename_i hxt
          obtain ⟨hp, ht⟩ := mem_places.mp hx
          exact hb hen x (mem_places.mpr
            ⟨hp, (mem_insertMstid hcond.2.2.2.1 ht).resolve_left hxt⟩)
      · rw [treeStateMachinesBegin, hoff] at hr
        exact (Option.some.inj hr).symm

theorem Held.undeleted (h : Held b b') (hb : b.Undeleted victim) : b'.Undeleted victim := by
  refine ⟨h.conf ▸ hb.1, fun p hp hdel => ?_⟩
  have hport := h.port p
  simp only [Prod.mk.injEq] at hport
  exact hb.2 p (h.conf ▸ hp) (hport.2.2.symm.trans hdel)

theorem small_undeleted (h : Small c victim b b') (hb : b.Undeleted victim) :
    b'.Undeleted victim := by
  cases h with
  | input h =>
      refine ⟨hb.1.sublist h.ports, fun p hp hdel => ?_⟩
      rcases h.deleted p with hd | ⟨hv, -⟩
      · exact hb.2 p (h.ports.subset hp) (hd.symm.trans hdel)
      · exact hv
  | run h => exact (run_held h).undeleted hb
  | «begin» h => exact (br_held h).undeleted hb
  | enable up h =>
      rcases setBridgeEnable_cases h with rfl | ⟨s, hs, hr⟩
      · exact hb
      · refine (br_held hr).undeleted ⟨hs.conf ▸ hb.1, fun p hp hdel => ?_⟩
        have hport := hs.port p
        simp only [Prod.mk.injEq] at hport
        exact hb.2 p (by rwa [hs.conf] at hp) (hport.2.2.symm.trans hdel)
  | portCreate p name portno h =>
      rcases portCreate_cases h with rfl | ⟨hp, hr⟩
      · exact hb
      refine (prt_held hr).undeleted ⟨?_, fun p' hp' hdel => ?_⟩
      · exact List.nodup_append.mpr ⟨hb.1, List.pairwise_singleton _ p,
          fun q hq q' hq' => by rintro rfl; exact hp (List.mem_singleton.mp hq' ▸ hq)⟩
      · by_cases hpp : p' = p
        · simp only [newPort, if_pos hpp] at hdel
          cases hdel
        · simp only [newPort, if_neg hpp] at hdel
          exact hb.2 p' ((List.mem_append.mp hp').resolve_right (by simpa using hpp)) hdel
  | createMsti t h =>
      rcases createMsti_cases h with rfl | ⟨trees, -, hr⟩
      · exact hb
      · exact (tree_held hr).undeleted hb

end Small

/-! ## Every reachable state -/

section Reachable

variable {digest : List Mstid → Vector UInt8 16} {mac : BitVec 48} {tr : List Output}
  {vs : List (Visit Bridge (Event × Budget) Output)}

/-- What the small steps of an event keep, the event keeps. -/
theorem steps_keep {I : Bridge → Prop} {victim : Option PortRef}
    (hsmall : ∀ b b', Small c victim b b' → I b → I b') (hs : Steps c victim b b') (hb : I b) :
    I b' := by
  induction hs with
  | refl => exact hb
  | tail _ hs ih => exact hsmall _ _ hs ih

theorem handle_undeleted {e : Event} (h : e.handle digest c b = some b')
    (hb : b.Undeleted none) : b'.Undeleted none := by
  have hweak : b.Undeleted e.victim :=
    ⟨hb.1, fun p hp hdel => absurd (hb.2 p hp hdel) (Option.some_ne_none p).symm⟩
  have hb' := steps_keep (fun _ _ => small_undeleted) (handle_steps h) hweak
  refine ⟨hb'.1, fun p hp hdel => ?_⟩
  have hvictim := hb'.2 p hp hdel
  cases e with
  | deletePort q =>
      -- the deleted port has been taken off the list
      obtain rfl : q = p := Option.some.inj hvictim
      exfalso
      simp only [Event.handle, deletePort] at h
      split at h
      · obtain rfl := Option.some.inj h
        exact absurd hp ‹_›
      · obtain ⟨s, hs, hr⟩ := Option.bind_eq_some_iff.mp h
        have hconf : s.conf = b.conf := by
          split at hs
          · exact (run_held hs).conf
          · exact Option.some.inj hs ▸ rfl
        rw [(run_held hr).conf, hconf] at hp
        exact hb.1.not_mem_erase hp
  | _ => cases hvictim

/-- **No port on the list of a bridge has been deleted.** -/
theorem not_deleted (h : Exec (mstpd digest) (bridgeCreate digest mac) vs tr b) :
    b.Undeleted none := by
  refine h.inv (fun b _ => b.Undeleted none) ⟨List.nodup_nil, fun _ hp => absurd hp List.not_mem_nil⟩
    ?_
  intro s _ a s' evs hs hstep
  obtain ⟨u, hu, heq⟩ := Option.map_eq_some_iff.mp hstep
  obtain ⟨rfl, -⟩ := Prod.mk.inj heq
  have hkeep : u.Undeleted none := handle_undeleted (b := { s with out := [] }) hu hs
  exact hkeep

theorem reachable_sound (h : Exec (mstpd digest) (bridgeCreate digest mac) vs tr b) : b.Sound :=
  reachable_keeps (fun _ _ => sound_createPtp _ _) (fun _ _ => id)
    (fun _ _ _ _ => small_sound) h

/-- At rest the state of the machine is told by `learn` and `forward`. -/
theorem state_of_rest {y : PerTreePort} (hs : y.Sound)
    (hrest : (match y.PSTSM_state with
      | .DISCARDING => if y.learn then some PstsmState.LEARNING else none
      | .LEARNING =>
          if !y.learn then some .DISCARDING else if y.forward then some .FORWARDING else none
      | .FORWARDING => if !y.forward then some .DISCARDING else none) = none) :
    y.PSTSM_state = if y.forward then .FORWARDING else if y.learn then .LEARNING else .DISCARDING := by
  have hfl := hs.forward
  cases hst : y.PSTSM_state <;> simp only [hst] at hrest <;>
    cases hf : y.forward <;> cases hl : y.learn <;> simp_all

/-- On a bridge that is on, the kernel does what the machines want. -/
theorem kernel_on (h : Exec (mstpd digest) (bridgeCreate digest mac) vs tr b)
    (hen : b.conf.bridgeEnabled = true) {p : PortRef} {t : Mstid} (hp : p ∈ b.conf.ports)
    (ht : t ∈ b.conf.trees) :
    (b.ptp p t).state = (if (b.ptp p t).forward then .FORWARDING
        else if (b.ptp p t).learn then .LEARNING else .BLOCKING) ∧
      (b.ptp p t).learning = (b.ptp p t).learn ∧
      (b.ptp p t).forwarding = (b.ptp p t).forward := by
  have hnil : ∀ x, x ∉ (bridgeCreate digest mac).places := fun x => List.not_mem_nil
  have hkernel : b.OnAll KernelAt := reachable_keeps (fun _ x hx => absurd hx (hnil x))
    (fun _ _ => id) (fun _ _ _ _ => small_onAll established_kernelAt) h
  have hrests : b.Rests := reachable_keeps (fun _ x hx => absurd hx (hnil x)) (fun _ _ => id)
    (fun _ _ _ _ => small_rests) h
  have hmem : (p, t) ∈ b.places := mem_places.mpr ⟨hp, ht⟩
  have hdel : (b.port p).deleted = false := by
    by_contra hd
    exact absurd ((not_deleted h).2 p hp (by simpa using hd)) (Option.some_ne_none p).symm
  obtain ⟨hsound, hlg, hfg⟩ := reachable_sound h p t
  have hfl := hsound.forward
  have hst := state_of_rest hsound (hrests hen _ hmem)
  refine ⟨?_, ?_, ?_⟩
  · rw [hkernel hen _ hmem hen hdel, hst]
    split_ifs <;> rfl
  · rw [hlg, hst]
    cases hf : (b.ptp p t).forward <;> cases hl : (b.ptp p t).learn <;> simp_all
  · rw [hfg, hst]
    cases hf : (b.ptp p t).forward <;> cases hl : (b.ptp p t).learn <;> simp_all

/-- Only a port in an active role learns or forwards. -/
theorem active_of_learn_or_forward (h : Exec (mstpd digest) (bridgeCreate digest mac) vs tr b)
    {p : PortRef} {t : Mstid} (hwants : (b.ptp p t).learn = true ∨ (b.ptp p t).forward = true) :
    (b.ptp p t).active = true := by
  obtain ⟨⟨-, hlearn, hforward⟩, -, -⟩ := reachable_sound h p t
  rcases hwants with hl | hf
  · exact hlearn hl
  · exact hlearn (hforward hf)

/-- A port in no active role is blocked. -/
theorem blocked_of_passive (h : Exec (mstpd digest) (bridgeCreate digest mac) vs tr b)
    (hen : b.conf.bridgeEnabled = true) {p : PortRef} {t : Mstid} (hp : p ∈ b.conf.ports)
    (ht : t ∈ b.conf.trees) (hpassive : (b.ptp p t).active = false) :
    (b.ptp p t).state = .BLOCKING := by
  have hl : (b.ptp p t).learn = false := by
    by_contra hl
    rw [active_of_learn_or_forward h (.inl (by simpa using hl))] at hpassive
    cases hpassive
  have hf : (b.ptp p t).forward = false := by
    by_contra hf
    rw [active_of_learn_or_forward h (.inr (by simpa using hf))] at hpassive
    cases hpassive
  rw [(kernel_on h hen hp ht).1, hl, hf]
  rfl

/-- **What the kernel forwards.** When an event is over, every port of a bridge that is off is
disabled. On a bridge that is on, each port forwards, learns or blocks in each tree as the machines
want, and only a Root, Designated or Master Port learns or forwards. The state is the one the driver
has been told; of those only the state in the CIST is passed on to the bridge of the kernel. -/
theorem kernel_state (h : Exec (mstpd digest) (bridgeCreate digest mac) vs tr b) {p : PortRef}
    {t : Mstid} (hp : p ∈ b.conf.ports) (ht : t ∈ b.conf.trees) :
    let x := b.ptp p t
    if b.conf.bridgeEnabled then
      x.state = (if x.forward then .FORWARDING else if x.learn then .LEARNING else .BLOCKING) ∧
        x.learning = x.learn ∧ x.forwarding = x.forward ∧
        (x.learn = true ∨ x.forward = true →
          x.role = .Root ∨ x.role = .Designated ∨ x.role = .Master)
    else x.state = .DISABLED := by
  intro x
  split
  · rename_i hen
    obtain ⟨hstate, hlearning, hforwarding⟩ := kernel_on h hen hp ht
    refine ⟨hstate, hlearning, hforwarding, fun hwants => ?_⟩
    have ha := active_of_learn_or_forward h hwants
    simp only [PerTreePort.active, Bool.or_eq_true, beq_iff_eq, or_assoc] at ha
    exact ha
  · rename_i hen
    have hoff : b.OffOk := reachable_keeps (fun _ x hx => absurd hx List.not_mem_nil)
      (fun _ _ => id) (fun _ _ _ _ => small_offOk) h
    exact hoff (by simpa using hen) _ (mem_places.mpr ⟨hp, ht⟩)

end Reachable

/-! ## A run -/

/-- A RST BPDU of a Designated Port of the bridge 0x1000 02:00:00:00:00:02, which is the root. -/
def rootBpdu : Bytes :=
  [0, 0, 2, 2, 0x3c] ++ [0x10, 0, 2, 0, 0, 0, 0, 2] ++ [0, 0, 0, 0] ++ [0x10, 0, 2, 0, 0, 0, 0, 2] ++
    [0x80, 1] ++ [0, 0, 20, 0, 2, 0, 15, 0] ++ [0]

/-- Two ports go up, one of them hears of a better root, and a second passes. -/
def rootRun : List (Event × Budget) :=
  let frame := bridgeGroupAddress ++ [2, 0, 0, 0, 0, 2, 0, 39, 0x42, 0x42, 3] ++ rootBpdu
  [.portCreate 1 "lan1" 1, .portCreate 2 "lan2" 2, .setBridgeEnable true,
    .setPortEnable 1 true 1000 1, .setPortEnable 2 true 1000 1,
    .frame 1 (fun i => frame.getD i 0) 53, Event.oneSecond].map (fun e => (e, ⟨9, 30⟩))

set_option maxRecDepth 100000 in
/-- The port that leads to the root forwards at once. -/
theorem kernel_state_rootRun : ∃ vs tr b,
    Exec (mstpd noDigest) (bridgeCreate noDigest 0x020000000001) vs tr b ∧
      vs.map Visit.act = rootRun ∧ (b.ptp 1 0).state = .FORWARDING ∧
      (b.ptp 1 0).forwarding = (b.ptp 1 0).forward := by
  obtain ⟨vs, tr, b, hvs, hact, hp, ht, hon, hstate⟩ :=
    Exec.replay_of (mstpd noDigest) (bridgeCreate noDigest 0x020000000001) rootRun
      (fun b => 1 ∈ b.conf.ports ∧ 0 ∈ b.conf.trees ∧ b.conf.bridgeEnabled = true ∧
        (b.ptp 1 0).state = .FORWARDING)
      (by decide +kernel)
  have h := kernel_state hvs hp ht
  rw [if_pos hon] at h
  exact ⟨vs, tr, b, hvs, hact, hstate, h.2.2.1⟩

end Mstpd
