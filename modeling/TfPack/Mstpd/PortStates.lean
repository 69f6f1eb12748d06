import TfPack.Mstpd.Events

set_option autoImplicit false

/-! # The spanning tree daemon: the role of a port and the state of its machines

The states of the Port Role Transitions machine come in groups, one for each role, where Alternate
and Backup Ports share theirs. A port learns only in an active role and forwards only when it learns
(`Sound`); both hold in every state of the daemon, on or off, for every entry (`reachable_sound`),
whatever the other machines and the configuration do meanwhile.
-/

namespace Mstpd

open StepMachine

/-! ## The groups of states -/

/-- Whether ports in the role take part in the active topology. -/
def Role.active : Role → Bool
  | .Root => true
  | .Designated => true
  | .Master => true
  | _ => false

/-- The role for which a state is meant; Alternate and Backup Ports share their states. -/
def PrtsmState.group : PrtsmState → Role
  | .INIT_PORT | .DISABLE_PORT | .DISABLED_PORT => .Disabled
  | .MASTER_PROPOSED | .MASTER_AGREED | .MASTER_SYNCED | .MASTER_RETIRED | .MASTER_FORWARD
  | .MASTER_LEARN | .MASTER_DISCARD | .MASTER_PORT => .Master
  | .ROOT_PROPOSED | .ROOT_AGREED | .ROOT_SYNCED | .REROOT | .ROOT_FORWARD | .ROOT_LEARN
  | .REROOTED | .ROOT_PORT => .Root
  | .DESIGNATED_PROPOSE | .DESIGNATED_AGREED | .DESIGNATED_SYNCED | .DESIGNATED_RETIRED
  | .DESIGNATED_FORWARD | .DESIGNATED_LEARN | .DESIGNATED_DISCARD | .DESIGNATED_PORT => .Designated
  | .BLOCK_PORT | .BACKUP_PORT | .ALTERNATE_PROPOSED | .ALTERNATE_AGREED | .ALTERNATE_PORT =>
      .Alternate

def Role.group : Role → Role
  | .Backup => .Alternate
  | r => r

@[simp] theorem group_active (r : Role) : r.group.active = r.active := by cases r <;> rfl

theorem active_eq (x : PerTreePort) : x.active = x.role.active := by
  unfold PerTreePort.active
  cases x.role <;> rfl

/-! ## What entering a state does to a port -/

/-- The states that stop a port. -/
def PrtsmState.stops : PrtsmState → Bool
  | .INIT_PORT | .DISABLE_PORT | .MASTER_DISCARD | .DESIGNATED_DISCARD | .BLOCK_PORT => true
  | _ => false

/-- The states that make a port learn. -/
def PrtsmState.learns : PrtsmState → Bool
  | .MASTER_LEARN | .ROOT_LEARN | .DESIGNATED_LEARN => true
  | _ => false

/-- The states that make a port forward. -/
def PrtsmState.forwards : PrtsmState → Bool
  | .MASTER_FORWARD | .ROOT_FORWARD | .DESIGNATED_FORWARD => true
  | _ => false

/-- The role of a port in a state that has just been entered. -/
def PrtsmState.newRole (x : PrtsmState) (y : PerTreePort) : Role :=
  match x with
  | .INIT_PORT | .DISABLE_PORT => .Disabled
  | .MASTER_PORT => .Master
  | .ROOT_PORT => .Root
  | .DESIGNATED_PORT => .Designated
  | .BLOCK_PORT => y.selectedRole
  | _ => y.role

section Entry

variable {x : PrtsmState} {c : PrtsmTimes} {s : Bool} {y : PerTreePort}

theorem prtsmEntry_state : (prtsmEntry x c s y).PRTSM_state = x := by cases x <;> rfl

theorem prtsmEntry_role : (prtsmEntry x c s y).role = x.newRole y := by cases x <;> rfl

theorem prtsmEntry_learn :
    (prtsmEntry x c s y).learn = (x.learns || (!x.stops && y.learn)) := by
  cases x <;> rfl

theorem prtsmEntry_forward :
    (prtsmEntry x c s y).forward = (x.forwards || (!x.stops && y.forward)) := by
  cases x <;> rfl

end Entry

/-! ## Where a state comes from -/

section Next

variable {b : Bridge} {p : PortRef} {t : Mstid} {c : PrtsmTimes} {x : PrtsmState}

/-- A step within a role: the state is one of the role, and only a port that learns is made to
forward. -/
structure Within (y : PerTreePort) (x : PrtsmState) : Prop where
  group : x.group = y.PRTSM_state.group
  block : x ≠ .BLOCK_PORT
  forwards : x.forwards = true → y.learn = true

theorem prtsmFromMaster_spec (h : prtsmFromMaster b p t = some x) :
    x.group = .Master ∧ (x.forwards = true → (b.ptp p t).learn = true) := by
  simp only [prtsmFromMaster] at h
  split_ifs at h
  all_goals
    cases h
    simp_all [PrtsmState.group, PrtsmState.forwards]

theorem prtsmFromRoot_spec (h : prtsmFromRoot c b p t = some x) :
    x.group = .Root ∧ (x.forwards = true → (b.ptp p t).learn = true) := by
  simp only [prtsmFromRoot] at h
  split_ifs at h
  all_goals
    cases h
    simp_all [PrtsmState.group, PrtsmState.forwards]

theorem prtsmFromDesignated_spec (h : prtsmFromDesignated b p t = some x) :
    x.group = .Designated ∧ (x.forwards = true → (b.ptp p t).learn = true) := by
  simp only [prtsmFromDesignated] at h
  split_ifs at h
  all_goals
    cases h
    simp_all [PrtsmState.group, PrtsmState.forwards]

theorem prtsmFromAlternate_spec (h : prtsmFromAlternate c b p t = some x) :
    x.group = .Alternate ∧ x ≠ .BLOCK_PORT ∧ x.forwards = false := by
  simp only [prtsmFromAlternate] at h
  split_ifs at h
  all_goals
    cases h
    simp [PrtsmState.group, PrtsmState.forwards]

/-- How a port comes into a state: at the beginning, for a new role, or within its role. -/
def Enters (y : PerTreePort) (x : PrtsmState) : Prop :=
  x = .INIT_PORT ∨ x = y.selectedRole.prtsmState ∨ Within y x

theorem Within.of_group {y : PerTreePort} {r : Role} (hr : r ≠ .Alternate)
    (hy : y.PRTSM_state.group = r)
    (h : x.group = r ∧ (x.forwards = true → y.learn = true)) : Within y x := by
  refine ⟨h.1.trans hy.symm, ?_, h.2⟩
  rintro rfl
  exact hr h.1.symm

/-- **A step takes a port to its selected role or stays within its role.** -/
theorem prtsmNext_enters (h : prtsmNext c b p t = some x) : Enters (b.ptp p t) x := by
  have hstay : ∀ x', x' ≠ .BLOCK_PORT → x'.forwards = false →
      x'.group = (b.ptp p t).PRTSM_state.group → some x' = some x → Within (b.ptp p t) x := by
    intro x' hb hf hg heq
    cases heq
    exact ⟨hg, hb, fun hx => absurd (hf.symm.trans hx) Bool.false_ne_true⟩
  simp only [prtsmNext] at h
  split at h
  · exact .inr (.inl (Option.some.inj h).symm)
  refine .inr (.inr ?_)
  cases hs : (b.ptp p t).PRTSM_state <;> simp only [hs] at h
  case MASTER_PORT =>
    split_ifs at h
    exact .of_group (by decide) (by rw [hs]; rfl) (prtsmFromMaster_spec h)
  case ROOT_PORT =>
    split_ifs at h
    exact .of_group (by decide) (by rw [hs]; rfl) (prtsmFromRoot_spec h)
  case DESIGNATED_PORT =>
    split_ifs at h
    exact .of_group (by decide) (by rw [hs]; rfl) (prtsmFromDesignated_spec h)
  case ALTERNATE_PORT =>
    split_ifs at h
    obtain ⟨hg, hb, hf⟩ := prtsmFromAlternate_spec h
    exact hstay x hb hf (by rw [hg, hs]; rfl) rfl
  case DISABLE_PORT | DISABLED_PORT | BLOCK_PORT =>
    split_ifs at h
    exact hstay _ (by decide) rfl (by simp only [hs, PrtsmState.group]) h
  all_goals exact hstay _ (by decide) rfl (by rw [hs]; rfl) h

end Next

/-! ## Sound entries -/

/-- The role of an entry, its state, and what it is allowed to do go together. -/
structure PerTreePort.Sound (y : PerTreePort) : Prop where
  role : y.role.group = y.PRTSM_state.group
  learn : y.learn = true → y.active = true
  forward : y.forward = true → y.learn = true

theorem selectedRole_prtsmState (r : Role) :
    r.prtsmState.group = r.group ∧ r.prtsmState.forwards = false ∧ r.prtsmState.learns = false ∧
      (r.active = false → r.prtsmState.stops = true) := by
  cases r <;> decide

section Sound

variable {x : PrtsmState} {c : PrtsmTimes} {s : Bool} {y : PerTreePort}

/-- The role in a state that has just been entered is one of its group. -/
theorem newRole_group (hy : y.Sound) (hx : Enters y x) : (x.newRole y).group = x.group := by
  rcases hx with rfl | rfl | hx
  · rfl
  · cases hr : y.selectedRole <;> simp only [Role.prtsmState, PrtsmState.newRole, hr] <;> rfl
  · have hrole : y.role.group = x.group := hy.role.trans hx.group.symm
    have hblock := hx.block
    cases x <;> first | exact hrole | rfl | exact absurd rfl hblock

/-- **A step of the role transitions keeps an entry sound.** -/
theorem sound_prtsmEntry (hy : y.Sound) (hx : Enters y x) : (prtsmEntry x c s y).Sound := by
  have hgroup := newRole_group hy hx
  have hactive : (prtsmEntry x c s y).active = x.group.active := by
    rw [active_eq, prtsmEntry_role, ← group_active, hgroup]
  refine ⟨by rw [prtsmEntry_role, prtsmEntry_state, hgroup], fun hl => ?_, fun hf => ?_⟩
  · rw [hactive]
    rw [prtsmEntry_learn, Bool.or_eq_true, Bool.and_eq_true, Bool.not_eq_true'] at hl
    rcases hl with hl | ⟨hstop, hl⟩
    · cases x <;> first | rfl | exact absurd hl Bool.false_ne_true
    · rcases hx with rfl | rfl | hx
      · cases hstop
      · obtain ⟨hg, -, -, hs⟩ := selectedRole_prtsmState y.selectedRole
        rw [hg, group_active]
        by_contra hna
        rw [hs (by simpa using hna)] at hstop
        cases hstop
      · rw [hx.group, ← hy.role, group_active, ← active_eq]
        exact hy.learn hl
  · rw [prtsmEntry_forward, Bool.or_eq_true, Bool.and_eq_true, Bool.not_eq_true'] at hf
    rw [prtsmEntry_learn, Bool.or_eq_true, Bool.and_eq_true, Bool.not_eq_true']
    rcases hf with hf | ⟨hstop, hf⟩
    · rcases hx with rfl | rfl | hx
      · cases hf
      · rw [(selectedRole_prtsmState y.selectedRole).2.1] at hf
        cases hf
      · refine .inr ⟨?_, hx.forwards hf⟩
        cases x <;> first | rfl | exact absurd hf Bool.false_ne_true
    · exact .inr ⟨hstop, hy.forward hf⟩

end Sound

/-! ## The ports of the kernel -/

/-- What `PSTSM_to_XXX` assigns to the entry. -/
def pstsmEntry (x : PstsmState) (deleted : Bool) (y : PerTreePort) : PerTreePort :=
  let y := { y with PSTSM_state := x, state := if deleted then y.state else x.brState }
  match x with
  | .DISCARDING => { y with learning := false, forwarding := false }
  | .LEARNING => { y with learning := true }
  | .FORWARDING => { y with forwarding := true }

theorem pstsmTo_ptp (x : PstsmState) (b : Bridge) (p : PortRef) (t : Mstid) :
    (pstsmTo x b p t).ptp = (b.setPtp p t (pstsmEntry x (b.port p).deleted)).ptp := by
  have hout : ∀ b : Bridge,
      (if (b.port p).deleted then b else mstpOutSetState b p t x.brState).ptp =
        (b.setPtp p t (fun y =>
          { y with state := if (b.port p).deleted then y.state else x.brState })).ptp := by
    intro b
    cases hd : (b.port p).deleted with
    | false => exact mstpOutSetState_ptp b p t _
    | true =>
        funext p' t'
        simp only [setPtp_ptp, if_true, ite_self]
  have hset : ∀ (b b' : Bridge) (f : PerTreePort → PerTreePort), b.ptp = b'.ptp →
      (b.setPtp p t f).ptp = (b'.setPtp p t f).ptp := by
    intro b b' f h
    simp only [Bridge.setPtp, Bridge.setPtps, h]
  refine (hset _ _ _ (hout _)).trans ?_
  funext p' t'
  simp only [setPtp_ptp, setPtp_port]
  by_cases h : p' = p ∧ t' = t
  · simp only [if_pos h]
    cases x <;> rfl
  · simp only [if_neg h]

theorem prtsmTo_ptp (x : PrtsmState) (c : PrtsmTimes) (b : Bridge) (p p' : PortRef)
    (t t' : Mstid) :
    (prtsmTo x c b p t).ptp p' t' =
      if p' = p ∧ t' = t then
        prtsmEntry x c (b.port p).sendRSTP ((prtsmAround x b p t).ptp p' t')
      else (prtsmAround x b p t).ptp p' t' :=
  setPtp_ptp ..

/-- What an entry does is what the machine says. -/
structure PerTreePort.Actual (y : PerTreePort) : Prop where
  learning : y.learning = (y.PSTSM_state != .DISCARDING)
  forwarding : y.forwarding = (y.PSTSM_state == .FORWARDING)

/-- **A step of the state transitions keeps an entry as the machine says.** -/
theorem actual_pstsmEntry {b : Bridge} {p : PortRef} {t : Mstid} {x : PstsmState}
    (hy : (b.ptp p t).Actual) (hx : x = .DISCARDING ∨ pstsmNext b p t = some x)
    (deleted : Bool) : (pstsmEntry x deleted (b.ptp p t)).Actual := by
  rcases hx with rfl | hx
  · exact ⟨rfl, rfl⟩
  obtain ⟨hl, hf⟩ := hy
  simp only [pstsmNext] at hx
  cases hs : (b.ptp p t).PSTSM_state <;> simp only [hs] at hx hl hf <;> split_ifs at hx
  all_goals
    cases hx
    constructor <;> simp only [pstsmEntry, hl, hf] <;> rfl

/-! ## Over all runs -/

/-- All entries are sound, and do what their machines say. -/
def Bridge.Sound (b : Bridge) : Prop := ∀ p t, (b.ptp p t).Sound ∧ (b.ptp p t).Actual

/-- What `Sound` is about. -/
@[reducible] def PerTreePort.motion (y : PerTreePort) :
    PrtsmState × Role × Bool × Bool × PstsmState × Bool × Bool :=
  (y.PRTSM_state, y.role, y.learn, y.forward, y.PSTSM_state, y.learning, y.forwarding)

theorem sound_congr {y y' : PerTreePort} (h : y'.motion = y.motion) (hy : y.Sound ∧ y.Actual) :
    y'.Sound ∧ y'.Actual := by
  simp only [PerTreePort.motion, Prod.mk.injEq] at h
  obtain ⟨hst, hrole, hl, hf, hps, hlg, hfg⟩ := h
  obtain ⟨⟨h1, h2, h3⟩, h4, h5⟩ := hy
  refine ⟨⟨?_, ?_, ?_⟩, ?_, ?_⟩
  · rw [hst, hrole, h1]
  · rw [hl, active_eq, hrole, ← active_eq]
    exact h2
  · rw [hf, hl]
    exact h3
  · rw [hlg, hps, h4]
  · rw [hfg, hps, h5]

theorem sound_createPtp (tree : Tree) (prt : Port) :
    (createPtp tree prt).Sound ∧ (createPtp tree prt).Actual :=
  ⟨⟨rfl, fun h => absurd h Bool.false_ne_true, fun h => absurd h Bool.false_ne_true⟩, rfl, rfl⟩

section Runs

variable {b b' : Bridge}

theorem Touches.sound {e : PerTreePort → PerTreePort} (h : Touches e b b')
    (he : ∀ y, (e y).motion = y.motion) (hb : b.Sound) : b'.Sound :=
  fun p t => sound_congr (h.view PerTreePort.motion he p t) (hb p t)

theorem sound_prtsmTo {x : PrtsmState} {c : PrtsmTimes} {p : PortRef} {t : Mstid}
    (hx : Enters (b.ptp p t) x) (hb : b.Sound) : (prtsmTo x c b p t).Sound := by
  have haround := (prtsmAround_touches x b p t).sound (fun _ => rfl) hb
  have hview := (prtsmAround_touches x b p t).view
    (fun y => (y.PRTSM_state, y.selectedRole, y.learn)) (fun _ => rfl) p t
  simp only [Prod.mk.injEq] at hview
  obtain ⟨hst, hsel, hl⟩ := hview
  intro p' t'
  rw [prtsmTo_ptp]
  split
  · rename_i h
    obtain ⟨rfl, rfl⟩ := h
    refine ⟨sound_prtsmEntry (haround p' t').1 ?_, ?_⟩
    · rcases hx with hx | hx | hx
      · exact .inl hx
      · exact .inr (.inl (hx.trans (congrArg Role.prtsmState hsel.symm)))
      · exact .inr (.inr ⟨hx.group.trans (congrArg PrtsmState.group hst.symm), hx.block,
          fun hf => hl.trans (hx.forwards hf)⟩)
    · obtain ⟨hlg, hfg⟩ := (haround p' t').2
      cases x <;> exact ⟨hlg, hfg⟩
  · exact haround p' t'

theorem sound_pstsmTo {x : PstsmState} {p : PortRef} {t : Mstid}
    (hx : x = .DISCARDING ∨ pstsmNext b p t = some x) (hb : b.Sound) :
    (pstsmTo x b p t).Sound := by
  intro p' t'
  rw [pstsmTo_ptp, setPtp_ptp]
  split
  · rename_i h
    obtain ⟨rfl, rfl⟩ := h
    refine ⟨?_, actual_pstsmEntry (hb p' t').2 hx _⟩
    obtain ⟨h1, h2, h3⟩ := (hb p' t').1
    cases x <;> exact ⟨h1, h2, h3⟩
  · exact hb p' t'

theorem stable_sound : StableBegin Bridge.Sound where
  toStable := stable_of_groups (fun h => h.sound (fun _ => rfl))
    (fun h hb p t => h.ptp ▸ hb p t)
    (fun x b p t _ => (pismTo_touches x b p t).sound (fun _ => rfl))
    (fun b t => (prssmToRoleSelection_touches b t).sound (fun _ => rfl))
    (fun _ _ _ _ _ hx => sound_prtsmTo (prtsmNext_enters hx))
    (fun _ _ _ _ hx => sound_pstsmTo (.inr hx))
    (fun x b p t _ => (tcsmTo_touches x b p t).sound (fun _ => rfl))
  ptsmBegin b p hb := fun p' t => (ptsmTo_sends .TRANSMIT_INIT b p).ptp ▸ hb p' t
  pismBegin b p t := (pismBegin_touches b p t).sound (fun _ => rfl)
  prssmBegin b t := (prssmBegin_touches b t).sound (fun _ => rfl)
  prtsmBegin _ _ _ := sound_prtsmTo (.inl rfl)
  pstsmBegin _ _ _ := sound_pstsmTo (.inl rfl)
  tcsmBegin b p t := (tcsmTo_touches .INACTIVE b p t).sound (fun _ => rfl)

theorem small_sound {c : Budget} {victim : Option PortRef} (h : Small c victim b b')
    (hb : b.Sound) : b'.Sound := by
  cases h with
  | input h => exact fun p t => sound_congr (h.view PerTreePort.motion (fun _ => rfl) p t) (hb p t)
  | run h => exact stable_sound.run hb h
  | «begin» h => exact stable_sound.br hb h
  | enable up h =>
      rcases setBridgeEnable_cases h with rfl | ⟨s, hs, hr⟩
      · exact hb
      · refine stable_sound.br (fun p t => ?_) hr
        exact sound_congr (hs.view PerTreePort.motion (fun _ => rfl) p t) (hb p t)
  | portCreate p name portno h =>
      rcases portCreate_cases h with rfl | ⟨-, hr⟩
      · exact hb
      · refine stable_sound.prt (fun p' t => ?_) hr
        rw [newPort_ptp]
        split
        · exact sound_createPtp _ _
        · exact hb p' t
  | createMsti t h =>
      rcases createMsti_cases h with rfl | ⟨trees, -, hr⟩
      · exact hb
      · refine stable_sound.tree (fun p t' => ?_) hr
        rw [newTree_ptp]
        split
        · exact sound_createPtp _ _
        · exact hb p t'

end Runs

end Mstpd
