import TfPack.Mstpd.Forwarding
import TfPack.Mstpd.RootChoice

set_option autoImplicit false

/-! # The spanning tree daemon: a bridge at rest

When the dry run of the machines reports nothing, the roles of the enabled ports are the selected
ones, at most one of them is Root in each tree, and the ports that are not to forward do not
(`rest_roles`). Two invariants carry this: no two ports of a tree are ever selected as Root
(`reachable_uniqueRoot`), and a port of a bridge that is on which has no selected role is waiting
for one (`reachable_selects`).
-/

namespace Mstpd

open StepMachine Settling

variable {b b' : Bridge} {c : Budget}

/-! ## At most one Root -/

/-- No two ports of a tree are selected as Root. -/
def Bridge.UniqueRoot (b : Bridge) : Prop :=
  ∀ t p q, (b.ptp p t).selectedRole = .Root → (b.ptp q t).selectedRole = .Root → p = q

theorem uniqueRoot_of (hb : b.UniqueRoot)
    (h : ∀ p t, (b'.ptp p t).selectedRole = .Root → (b.ptp p t).selectedRole = .Root) :
    b'.UniqueRoot :=
  fun t p q hp hq => hb t p q (h p t hp) (h q t hq)

theorem Touches.uniqueRoot {e : PerTreePort → PerTreePort} (h : Touches e b b')
    (he : ∀ y, (e y).selectedRole = y.selectedRole) (hb : b.UniqueRoot) : b'.UniqueRoot :=
  uniqueRoot_of hb (fun p t hp => (h.view _ he p t).symm.trans hp)

/-- The selection for one tree leaves the selected roles of the others. -/
theorem updtRolesTree_selectedRole_ne (b : Bridge) (p : PortRef) {t t' : Mstid} (h : t' ≠ t) :
    ((updtRolesTree b t).ptp p t').selectedRole = (b.ptp p t').selectedRole := by
  dsimp only [updtRolesTree, assignRoles]
  rw [if_neg h]
  split_ifs <;> simp only [syncMaster, setPtps_ptp, setTree_ptp] <;> split_ifs <;> rfl

theorem prssmToRoleSelection_uniqueRoot (t : Mstid) (hb : b.UniqueRoot) :
    (prssmToRoleSelection b t).UniqueRoot := by
  set s := clearReselectTree (b.setTree t (fun tree => { tree with PRSSM_state := .ROLE_SELECTION })) t
    with hs
  have hsel : ∀ p t', ((prssmToRoleSelection b t).ptp p t').selectedRole =
      ((updtRolesTree s t).ptp p t').selectedRole := by
    intro p t'
    simp only [prssmToRoleSelection, setSelectedTree, setPtpsOfTree_ptp]
    split <;> rfl
  intro t' p q hp hq
  rw [hsel] at hp hq
  by_cases ht : t' = t
  · subst ht
    exact Option.some.inj
      ((updtRolesTree_root_ptp hp).symm.trans (updtRolesTree_root_ptp hq))
  · have hkeep : ∀ p, (s.ptp p t').selectedRole = (b.ptp p t').selectedRole := by
      intro p
      simp only [hs, clearReselectTree, setPtpsOfTree_ptp, if_neg ht, setTree_ptp]
    rw [updtRolesTree_selectedRole_ne s _ ht, hkeep] at hp hq
    exact hb t' p q hp hq

theorem stable_uniqueRoot : StableBegin Bridge.UniqueRoot where
  toStable := stable_of_groups (fun h => h.uniqueRoot (fun _ => rfl))
    (fun h hb => uniqueRoot_of hb (fun p t hp => h.ptp ▸ hp))
    (fun x b p t _ => (pismTo_touches x b p t).uniqueRoot (fun _ => rfl))
    (fun b t => prssmToRoleSelection_uniqueRoot t)
    (fun x c b p t _ => (prtsmTo_touches x c b p t).uniqueRoot (fun _ => rfl))
    (fun x b p t _ => (pstsmTo_touches x b p t).uniqueRoot (fun _ => rfl))
    (fun x b p t _ => (tcsmTo_touches x b p t).uniqueRoot (fun _ => rfl))
  ptsmBegin b p hb :=
    uniqueRoot_of hb (fun _ _ hp => (ptsmTo_sends .TRANSMIT_INIT b p).ptp ▸ hp)
  pismBegin b p t := (pismBegin_touches b p t).uniqueRoot (fun _ => rfl)
  prssmBegin b t hb := by
    refine uniqueRoot_of hb (fun p t' hp => ?_)
    simp only [prssmBegin, updtRolesDisabledTree, setPtpsOfTree_ptp] at hp
    split at hp
    · cases hp
    · exact hp
  prtsmBegin b p t := (prtsmTo_touches .INIT_PORT _ b p t).uniqueRoot (fun _ => rfl)
  pstsmBegin b p t := (pstsmTo_touches .DISCARDING b p t).uniqueRoot (fun _ => rfl)
  tcsmBegin b p t := (tcsmTo_touches .INACTIVE b p t).uniqueRoot (fun _ => rfl)

theorem small_uniqueRoot {victim : Option PortRef} (h : Small c victim b b')
    (hb : b.UniqueRoot) : b'.UniqueRoot := by
  cases h with
  | input h =>
      exact uniqueRoot_of hb
        (fun p t hp => (h.view PerTreePort.selectedRole (fun _ => rfl) p t).symm.trans hp)
  | run h => exact stable_uniqueRoot.run hb h
  | «begin» h => exact stable_uniqueRoot.br hb h
  | enable up h =>
      rcases setBridgeEnable_cases h with rfl | ⟨s, hs, hr⟩
      · exact hb
      · refine stable_uniqueRoot.br (uniqueRoot_of hb (fun p t hp => ?_)) hr
        exact (hs.view PerTreePort.selectedRole (fun _ => rfl) p t).symm.trans hp
  | portCreate p name portno h =>
      rcases portCreate_cases h with rfl | ⟨-, hr⟩
      · exact hb
      · refine stable_uniqueRoot.prt (uniqueRoot_of hb (fun q t hq => ?_)) hr
        rw [newPort_ptp] at hq
        split at hq
        · cases hq
        · exact hq
  | createMsti t h =>
      rcases createMsti_cases h with rfl | ⟨trees, -, hr⟩
      · exact hb
      · refine stable_uniqueRoot.tree (uniqueRoot_of hb (fun q t' hq => ?_)) hr
        rw [newTree_ptp] at hq
        split at hq
        · cases hq
        · exact hq

/-! ## A role is selected or waited for -/

/-- The entry has a selected role, or waits for one. -/
def SelectsAt (x : PortRef × Mstid) (b : Bridge) : Prop :=
  (b.ptp x.1 x.2).selected = true ∨ (b.ptp x.1 x.2).reselect = true

theorem selectsAt_of {x : PortRef × Mstid}
    (h : ((b'.ptp x.1 x.2).selected, (b'.ptp x.1 x.2).reselect) =
      ((b.ptp x.1 x.2).selected, (b.ptp x.1 x.2).reselect)) (hb : SelectsAt x b) :
    SelectsAt x b' := by
  simp only [Prod.mk.injEq] at h
  rw [SelectsAt, h.1, h.2]
  exact hb

theorem Touches.selectsAt {e : PerTreePort → PerTreePort} {x : PortRef × Mstid}
    (h : Touches e b b') (he : ∀ y, ((e y).selected, (e y).reselect) = (y.selected, y.reselect))
    (hb : SelectsAt x b) : SelectsAt x b' :=
  selectsAt_of (h.view (fun y => (y.selected, y.reselect)) he x.1 x.2) hb

theorem pismTo_selectsAt {x : PortRef × Mstid} (y : PismState) (b : Bridge) (p : PortRef)
    (t : Mstid) (hb : SelectsAt x b) : SelectsAt x (pismTo y b p t) := by
  cases hy : y.asks with
  | false => exact (pismTo_touches_kept hy b p t).selectsAt (fun _ => rfl) hb
  | true =>
      obtain ⟨-, hre, hother⟩ := pismTo_asks hy b p t
      by_cases hx : x.1 = p ∧ x.2 = t
      · obtain ⟨rfl, rfl⟩ := hx
        exact .inr hre
      · obtain ⟨hs, hr⟩ := hother x.1 x.2 hx
        exact selectsAt_of (by rw [hs, hr]) hb

/-- The beginning of the port information asks for a role. -/
theorem pismBegin_selectsAt (b : Bridge) (p : PortRef) (t : Mstid) :
    SelectsAt (p, t) (pismBegin b p t) :=
  .inr (pismTo_asks (x := .DISABLED) rfl _ p t).2.1

theorem pismBegin_keeps_selectsAt {x : PortRef × Mstid} (b : Bridge) (p : PortRef) (t : Mstid)
    (hb : SelectsAt x b) : SelectsAt x (pismBegin b p t) := by
  refine pismTo_selectsAt .DISABLED _ p t (selectsAt_of ?_ hb)
  rw [setPtp_ptp]
  split <;> rfl

/-- The selection for one tree takes no role and no request from the others. -/
theorem updtRolesTree_asks (b : Bridge) (p : PortRef) {t t' : Mstid} (h : t' ≠ t) :
    ((updtRolesTree b t).ptp p t').selected = (b.ptp p t').selected ∧
      ((b.ptp p t').reselect = true → ((updtRolesTree b t).ptp p t').reselect = true) := by
  dsimp only [updtRolesTree, assignRoles]
  rw [if_neg h]
  split_ifs <;> simp [syncMaster, setPtps_ptp, setTree_ptp, h] <;> split_ifs <;> simp

/-- A selection gives the ports of its tree a role; those of other trees may be asked. -/
theorem prssmToRoleSelection_selectsAt {x : PortRef × Mstid} (b : Bridge) (t : Mstid)
    (hb : SelectsAt x b) : SelectsAt x (prssmToRoleSelection b t) := by
  by_cases hx : x.2 = t
  · refine .inl ?_
    simp only [prssmToRoleSelection, setSelectedTree, setPtpsOfTree_ptp, if_pos hx]
  · set s := clearReselectTree
      (b.setTree t (fun tree => { tree with PRSSM_state := .ROLE_SELECTION })) t with hs
    have hsame : s.ptp x.1 x.2 = b.ptp x.1 x.2 := by
      simp only [hs, clearReselectTree, setPtpsOfTree_ptp, if_neg hx, setTree_ptp]
    have hsel : (prssmToRoleSelection b t).ptp x.1 x.2 = (updtRolesTree s t).ptp x.1 x.2 := by
      simp only [prssmToRoleSelection, setSelectedTree, setPtpsOfTree_ptp, if_neg hx, hs]
    obtain ⟨hkept, hasked⟩ := updtRolesTree_asks s x.1 hx
    rw [SelectsAt, hsel]
    rw [hsame] at hkept hasked
    exact hb.imp hkept.trans hasked

theorem stable_selectsAt (x : PortRef × Mstid) : StableBegin (SelectsAt x) where
  toStable := stable_of_groups (fun h => h.selectsAt (fun _ => rfl))
    (fun h hb => selectsAt_of (by rw [h.ptp]) hb)
    (fun y b p t _ => pismTo_selectsAt y b p t)
    (fun b t => prssmToRoleSelection_selectsAt b t)
    (fun y c b p t _ => (prtsmTo_touches y c b p t).selectsAt (fun _ => rfl))
    (fun y b p t _ => (pstsmTo_touches y b p t).selectsAt (fun _ => rfl))
    (fun y b p t _ => (tcsmTo_touches y b p t).selectsAt (fun _ => rfl))
  ptsmBegin b p hb := selectsAt_of (by rw [(ptsmTo_sends .TRANSMIT_INIT b p).ptp]) hb
  pismBegin b p t := pismBegin_keeps_selectsAt b p t
  prssmBegin b t hb := by
    refine selectsAt_of ?_ hb
    simp only [prssmBegin, updtRolesDisabledTree, setPtpsOfTree_ptp, setTree_ptp]
    split <;> rfl
  prtsmBegin b p t := (prtsmTo_touches .INIT_PORT _ b p t).selectsAt (fun _ => rfl)
  pstsmBegin b p t := (pstsmTo_touches .DISCARDING b p t).selectsAt (fun _ => rfl)
  tcsmBegin b p t := (tcsmTo_touches .INACTIVE b p t).selectsAt (fun _ => rfl)

theorem established_selectsAt : Established SelectsAt :=
  established_of_pism stable_selectsAt (fun b x => pismBegin_selectsAt b x.1 x.2)
    (fun {_ _ _ x} h hb => by
      rcases h.asks x.1 x.2 with ⟨hs, hr⟩ | ⟨-, hr⟩
      · exact selectsAt_of (by rw [hs, hr]) hb
      · exact .inr hr)
    (fun _ _ hptp => selectsAt_of (by rw [hptp]))

/-! ## At rest -/

section Rest

theorem dry_of_quiet (h : b.dryRun = false) {a : Automaton Bridge} (ha : a ∈ b.machines) :
    a.dry b = false := by
  simpa using List.any_eq_false.mp h a ha

/-- A machine whose every move is reported has no next state. -/
theorem next_of_dry {α : Type} {next : Option α} {f : α → Bridge} {g : α → Bool}
    {a : Automaton Bridge} (ha : a b b = next.map (fun x => ⟨true, f x, g x⟩))
    (h : a.dry b = false) : next = none := by
  cases next with
  | none => rfl
  | some x => simp [Automaton.dry, ha] at h

/-- At rest the machines of an entry have no next state, and no port of the tree asks for a
role. -/
structure Quiet (b : Bridge) (p : PortRef) (t : Mstid) : Prop where
  pism : pismNext b p t = none
  prssm : ∀ q ∈ b.conf.ports, (b.ptp q t).reselect = false
  prtsm : prtsmNext (prtsmTimes b p) b p t = none

theorem quiet_of_dryRun (h : b.dryRun = false) {p : PortRef} {t : Mstid} (hp : p ∈ b.conf.ports)
    (ht : t ∈ b.conf.trees) : Quiet b p t := by
  have hx : (p, t) ∈ b.places := mem_places.mpr ⟨hp, ht⟩
  refine ⟨?_, ?_, ?_⟩
  · have hd := dry_of_quiet h (a := pismRun p t) (by
      simp only [Bridge.machines, List.mem_append, List.mem_map]
      exact .inl (.inl (.inl (.inl (.inr ⟨_, hx, rfl⟩)))))
    exact next_of_dry rfl hd
  · have hd := dry_of_quiet h (a := prssmRun t) (by
      simp only [Bridge.machines, List.mem_append, List.mem_map]
      exact .inl (.inl (.inl (.inr ⟨_, ht, rfl⟩))))
    simp only [Automaton.dry, prssmRun] at hd
    cases hst : (b.tree t).PRSSM_state <;> simp only [hst] at hd
    · cases hd
    · split_ifs at hd with hany
      simpa using hany
  · have hd := dry_of_quiet h (a := prtsmRun p t) (by
      simp only [Bridge.machines, List.mem_append, List.mem_map]
      exact .inl (.inl (.inr ⟨_, hx, rfl⟩)))
    exact next_of_dry rfl hd

variable {p : PortRef} {t : Mstid}

/-- At rest the port information of an enabled port has nothing to record. -/
theorem updtInfo_of_quiet (h : Quiet b p t) (hen : (b.port p).portEnabled = true)
    (hsel : (b.ptp p t).selected = true) : (b.ptp p t).updtInfo = false := by
  have hnext := h.pism
  simp only [pismNext, hen, Bool.not_true, Bool.false_and, Bool.false_eq_true, if_false, if_true,
    hsel, Bool.true_and] at hnext
  cases hst : (b.ptp p t).PISM_state <;> simp only [hst] at hnext
  case AGED | CURRENT =>
    split_ifs at hnext
    rename_i hup
    simpa using hup
  all_goals cases hnext

/-- At rest the role is the selected one. -/
theorem role_of_quiet (h : Quiet b p t) (hsel : (b.ptp p t).selected = true)
    (hup : (b.ptp p t).updtInfo = false) : (b.ptp p t).role = (b.ptp p t).selectedRole := by
  have hnext := h.prtsm
  by_contra hne
  simp only [prtsmNext, hsel, hup, Bool.not_false, Bool.and_self, and_true, if_pos hne] at hnext
  cases hnext

/-- The machine of a port at rest is in the last state of its role. -/
theorem state_of_quiet (h : Quiet b p t) (hs : (b.ptp p t).Sound)
    (hsel : (b.ptp p t).selected = true) (hup : (b.ptp p t).updtInfo = false) :
    match (b.ptp p t).role with
    | .Root => prtsmFromRoot (prtsmTimes b p) b p t = none
    | .Designated => prtsmFromDesignated b p t = none
    | .Master => prtsmFromMaster b p t = none
    | _ => True := by
  have hnext := h.prtsm
  have hrole := role_of_quiet h hsel hup
  have hgroup := hs.role
  simp only [prtsmNext, hrole, ne_eq, not_true_eq_false, false_and, if_false, hsel, hup,
    Bool.not_false, Bool.and_self, if_true] at hnext
  cases hst : (b.ptp p t).PRTSM_state <;> simp only [hst] at hnext hgroup <;>
    cases hr : (b.ptp p t).role <;> simp only [hr, Role.group, PrtsmState.group] at hgroup ⊢ <;>
    first | exact hnext | cases hnext | cases hgroup

/-- A Root Port at rest that may forward does. -/
theorem forward_of_root (h : prtsmFromRoot (prtsmTimes b p) b p t = none)
    (hready : (b.ptp p t).fdWhile = 0 ∨
      b.reRooted p t = true ∧ (b.ptp p t).rbWhile = 0 ∧ b.rstpVersion = true) :
    (b.ptp p t).forward = true := by
  simp only [prtsmFromRoot] at h
  split_ifs at h with h1 h2 h3 h4 h5 h6
  simp only [Bool.and_eq_true, Bool.or_eq_true, beq_iff_eq, Bool.not_eq_true', not_and,
    Bool.not_eq_false] at h6
  rcases hready with hdelay | ⟨hre, hrb, hv⟩
  · exact h6 (Or.inl hdelay)
  · exact h6 (Or.inr ⟨⟨hre, hrb⟩, hv⟩)

/-- What keeps a Designated Port from forwarding. -/
def Bridge.heldBack (b : Bridge) (p : PortRef) (t : Mstid) : Prop :=
  let x := b.ptp p t
  (x.sync = true ∧ x.synced = false) ∨ (x.reRoot = true ∧ x.rrWhile ≠ 0) ∨ x.disputed = true ∨
    (b.port p).BaInconsistent = true

/-- A Designated Port at rest that may forward does, and one that is held back neither forwards nor
learns. -/
theorem forward_of_designated (h : prtsmFromDesignated b p t = none) :
    (((b.ptp p t).fdWhile = 0 ∨ (b.ptp p t).agreed = true ∨ (b.port p).operEdge = true) →
      ((b.ptp p t).rrWhile = 0 ∨ (b.ptp p t).reRoot = false) → (b.ptp p t).sync = false →
      (b.port p).BaInconsistent = false → (b.ptp p t).forward = true) ∧
    ((b.port p).operEdge = false → b.heldBack p t →
      (b.ptp p t).forward = false ∧ (b.ptp p t).learn = false) := by
  simp only [prtsmFromDesignated] at h
  split_ifs at h with h1 h2 h3 h4 h5 h6 h7
  constructor
  · intro hready hrr hsync hba
    by_contra hf
    simp_all
  · intro hedge hheld
    simp only [Bool.and_eq_true, Bool.or_eq_true, Bool.not_eq_true', bne_iff_ne, ne_eq, hedge,
      and_true, not_and, not_or, Bool.not_eq_true] at h7
    simp only [Bridge.heldBack] at hheld
    exact (h7 (by tauto)).symm

end Rest

section Reachable

variable {digest : List Mstid → Vector UInt8 16} {mac : BitVec 48} {tr : List Output}
  {vs : List (Visit Bridge (Event × Budget) Output)}

theorem reachable_uniqueRoot (h : Exec (mstpd digest) (bridgeCreate digest mac) vs tr b) :
    b.UniqueRoot :=
  reachable_keeps (fun _ _ _ hp => by cases hp) (fun _ _ => id)
    (fun _ _ _ _ => small_uniqueRoot) h

theorem reachable_selects (h : Exec (mstpd digest) (bridgeCreate digest mac) vs tr b) :
    b.OnAll SelectsAt :=
  reachable_keeps (fun _ _ hx => absurd hx List.not_mem_nil) (fun _ _ => id)
    (fun _ _ _ _ => small_onAll established_selectsAt) h

/-- At rest every enabled port has the role that was selected for it. -/
theorem selected_of_rest (h : Exec (mstpd digest) (bridgeCreate digest mac) vs tr b)
    (hen : b.conf.bridgeEnabled = true) (hq : b.dryRun = false) {p : PortRef} {t : Mstid}
    (hp : p ∈ b.conf.ports) (ht : t ∈ b.conf.trees) (hup : (b.port p).portEnabled = true) :
    (b.ptp p t).selected = true ∧ (b.ptp p t).updtInfo = false ∧
      (b.ptp p t).role = (b.ptp p t).selectedRole := by
  have hquiet := quiet_of_dryRun hq hp ht
  have hsel : (b.ptp p t).selected = true := by
    rcases reachable_selects h hen (p, t) (mem_places.mpr ⟨hp, ht⟩) with hs | hr
    · exact hs
    · rw [hquiet.prssm p hp] at hr
      cases hr
  have hinfo := updtInfo_of_quiet hquiet hup hsel
  exact ⟨hsel, hinfo, role_of_quiet hquiet hsel hinfo⟩

/-- **The roles at rest.** When the dry run of the machines of a bridge that is on reports nothing,
each enabled port has, in each tree, the role that was selected for it; the ports in no active role
are blocked, whether they are enabled or not; and at most one enabled port of a tree is its Root
Port. -/
theorem rest_roles (h : Exec (mstpd digest) (bridgeCreate digest mac) vs tr b)
    (hen : b.conf.bridgeEnabled = true) (hq : b.dryRun = false) {t : Mstid}
    (ht : t ∈ b.conf.trees) :
    (∀ p ∈ b.conf.ports, (b.port p).portEnabled = true →
      let x := b.ptp p t
      x.selected = true ∧ x.updtInfo = false ∧ x.role = x.selectedRole) ∧
    (∀ p ∈ b.conf.ports, ¬((b.ptp p t).role = .Root ∨ (b.ptp p t).role = .Designated ∨
        (b.ptp p t).role = .Master) → (b.ptp p t).state = .BLOCKING) ∧
    (∀ p ∈ b.conf.ports, ∀ q ∈ b.conf.ports, (b.port p).portEnabled = true →
      (b.port q).portEnabled = true → (b.ptp p t).role = .Root → (b.ptp q t).role = .Root →
      p = q) := by
  refine ⟨fun p hp hup => selected_of_rest h hen hq hp ht hup, fun p hp hpassive => ?_,
    fun p hp q hq' hup hup' hr hr' => ?_⟩
  · refine blocked_of_passive h hen hp ht ?_
    simpa [PerTreePort.active, not_or, and_assoc] using hpassive
  · obtain ⟨-, -, hp'⟩ := selected_of_rest h hen hq hp ht hup
    obtain ⟨-, -, hq''⟩ := selected_of_rest h hen hq hq' ht hup'
    exact reachable_uniqueRoot h t p q (hp' ▸ hr) (hq'' ▸ hr')

end Reachable

set_option maxRecDepth 100000 in
/-- The port that heard of the better root is the Root Port; a port that went down is blocked. -/
theorem rest_roles_rootRun : ∃ vs tr b,
    Exec (mstpd noDigest) (bridgeCreate noDigest 0x020000000001) vs tr b ∧
      vs.map Visit.act = rootRun ++ [(.setPortEnable 2 false 1000 1, ⟨9, 30⟩)] ∧
      (b.ptp 1 0).role = .Root ∧ (b.ptp 2 0).state = .BLOCKING ∧
      (∀ q ∈ b.conf.ports, (b.port q).portEnabled = true → (b.ptp q 0).role = .Root → 1 = q) := by
  obtain ⟨vs, tr, b, hvs, hact, hen, hq, ht, hp, hp', hroot, hup, hdown⟩ :=
    Exec.replay_of (mstpd noDigest) (bridgeCreate noDigest 0x020000000001)
      (rootRun ++ [(.setPortEnable 2 false 1000 1, ⟨9, 30⟩)])
      (fun b => b.conf.bridgeEnabled = true ∧ b.dryRun = false ∧ 0 ∈ b.conf.trees ∧
        1 ∈ b.conf.ports ∧ 2 ∈ b.conf.ports ∧ (b.ptp 1 0).role = .Root ∧
        (b.port 1).portEnabled = true ∧ (b.ptp 2 0).role = .Disabled)
      (by decide +kernel)
  obtain ⟨-, hblocked, hunique⟩ := rest_roles hvs hen hq ht
  refine ⟨vs, tr, b, hvs, hact, hroot, hblocked 2 hp' (by rw [hdown]; decide), ?_⟩
  exact fun q hq' hup' hr => hunique 1 hp q hq' hup hup' hroot hr

section Reachable

variable {digest : List Mstid → Vector UInt8 16} {mac : BitVec 48} {tr : List Output}
  {vs : List (Visit Bridge (Event × Budget) Output)}

/-- **What is forwarded at rest.** When the dry run of the machines of a bridge that is on reports
nothing, an enabled Root Port forwards if its delay is over, or if all other ports of the tree have
left their time as Root Ports behind and it has not been a Backup Port recently; an enabled
Designated Port forwards if its delay is over, its neighbour has agreed or it is an edge port,
unless it is to synchronize, to wait for the new root or is inconsistent; and an enabled Designated
Port that is held back is blocked unless it is an edge port. -/
theorem rest_forwards (h : Exec (mstpd digest) (bridgeCreate digest mac) vs tr b)
    (hen : b.conf.bridgeEnabled = true) (hq : b.dryRun = false) {p : PortRef} {t : Mstid}
    (hp : p ∈ b.conf.ports) (ht : t ∈ b.conf.trees) (hup : (b.port p).portEnabled = true) :
    let x := b.ptp p t
    let prt := b.port p
    (x.role = .Root →
      x.fdWhile = 0 ∨ (b.reRooted p t = true ∧ x.rbWhile = 0 ∧ b.rstpVersion = true) →
      x.state = .FORWARDING) ∧
    (x.role = .Designated → (x.fdWhile = 0 ∨ x.agreed = true ∨ prt.operEdge = true) →
      (x.rrWhile = 0 ∨ x.reRoot = false) → x.sync = false → prt.BaInconsistent = false →
      x.state = .FORWARDING) ∧
    (x.role = .Designated → prt.operEdge = false → b.heldBack p t → x.state = .BLOCKING) := by
  intro x prt
  obtain ⟨hsel, hinfo, -⟩ := selected_of_rest h hen hq hp ht hup
  have hstate := state_of_quiet (quiet_of_dryRun hq hp ht) (reachable_sound h p t).1 hsel hinfo
  have hkernel := (kernel_on h hen hp ht).1
  refine ⟨fun hr hready => ?_, fun hr hready hrr hsync hba => ?_, fun hr hedge hheld => ?_⟩
  · rw [hr] at hstate
    rw [hkernel, forward_of_root hstate hready]
    rfl
  · rw [hr] at hstate
    rw [hkernel, (forward_of_designated hstate).1 hready hrr hsync hba]
    rfl
  · rw [hr] at hstate
    obtain ⟨hf, hl⟩ := (forward_of_designated hstate).2 hedge hheld
    rw [hkernel, hf, hl]
    rfl

end Reachable

set_option maxRecDepth 100000 in
/-- The Root Port forwards although its delay has not passed; the other port is asked. -/
theorem rest_forwards_rootRun : ∃ vs tr b,
    Exec (mstpd noDigest) (bridgeCreate noDigest 0x020000000001) vs tr b ∧
      vs.map Visit.act = rootRun ∧ (b.ptp 1 0).state = .FORWARDING := by
  obtain ⟨vs, tr, b, hvs, hact, hen, hq, hp, ht, hup, hroot, hready⟩ :=
    Exec.replay_of (mstpd noDigest) (bridgeCreate noDigest 0x020000000001) rootRun
      (fun b => b.conf.bridgeEnabled = true ∧ b.dryRun = false ∧ 1 ∈ b.conf.ports ∧
        0 ∈ b.conf.trees ∧ (b.port 1).portEnabled = true ∧ (b.ptp 1 0).role = .Root ∧
        ((b.ptp 1 0).fdWhile = 0 ∨
          (b.reRooted 1 0 = true ∧ (b.ptp 1 0).rbWhile = 0 ∧ b.rstpVersion = true)))
      (by decide +kernel)
  exact ⟨vs, tr, b, hvs, hact, (rest_forwards hvs hen hq hp ht hup).1 hroot hready⟩

end Mstpd
