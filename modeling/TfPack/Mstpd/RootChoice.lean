import TfPack.Mstpd.Frames

set_option autoImplicit false

/-! # The spanning tree daemon: the root of a tree

The root priority vector that `updtRolesTree` stores is the best, in the lexicographic order of the
components, of the bridge's own vector and the root path priority vectors of the ports with
information from elsewhere (`updtRolesTree_root`). At most one port is selected as Root: the one the
best vector comes from. In the CIST there is one exactly when some port offers a vector that is not
worse than the bridge's own.
-/

namespace Mstpd

variable {b : Bridge} {t : Mstid} {p q : PortRef}

/-! ## The best vector -/

def RootChoice.key (c : RootChoice) (cist : Bool) : List Nat := c.rootPriority.key c.rootPortId cist

/-- The choice before any port has been looked at. -/
def ownChoice (b : Bridge) (t : Mstid) : RootChoice := ⟨(b.tree t).BridgePriority, 0, none⟩

/-- What a port offers. -/
def portChoice (b : Bridge) (t : Mstid) (p : PortRef) : RootChoice :=
  ⟨rootPathPriority b t p, (b.ptp p t).portId, some p⟩

/-- The choice is the best of the bridge's own vector and those of the ports `l`. -/
structure Best (b : Bridge) (t : Mstid) (l : List PortRef) (c : RootChoice) : Prop where
  own : c.key (t == 0) ≤ (ownChoice b t).key (t == 0)
  ports : ∀ p ∈ l, candidate b t p = true → c.key (t == 0) ≤ (portChoice b t p).key (t == 0)
  source : (c = ownChoice b t ∧
      ∀ p ∈ l, candidate b t p = true → ¬(portChoice b t p).key (t == 0) ≤ c.key (t == 0)) ∨
    ∃ p ∈ l, candidate b t p = true ∧ c = portChoice b t p

theorem chooseRoot_eq (c : RootChoice) :
    chooseRoot b t c p =
      if candidate b t p = true ∧ (portChoice b t p).key (t == 0) ≤ c.key (t == 0) then
        portChoice b t p
      else c := by
  simp only [chooseRoot, Bool.and_eq_true, betterorsamePriority_iff]
  rfl

/-- One more port is looked at. -/
theorem Best.snoc {l : List PortRef} {c : RootChoice} (h : Best b t l c) :
    Best b t (l ++ [p]) (chooseRoot b t c p) := by
  rw [chooseRoot_eq]
  split
  · rename_i hp
    refine ⟨hp.2.trans h.own, fun q hq hcand => ?_, .inr ⟨p, by simp, hp.1, rfl⟩⟩
    rcases List.mem_append.mp hq with hq | hq
    · exact hp.2.trans (h.ports q hq hcand)
    · rw [List.mem_singleton.mp hq]
  · rename_i hp
    refine ⟨h.own, fun q hq hcand => ?_, ?_⟩
    · rcases List.mem_append.mp hq with hq | hq
      · exact h.ports q hq hcand
      · rw [List.mem_singleton.mp hq] at hcand ⊢
        exact (le_total _ _).resolve_right (fun hle => hp ⟨hcand, hle⟩)
    · rcases h.source with ⟨hown, hnone⟩ | ⟨q, hq, hsrc⟩
      · refine .inl ⟨hown, fun q hq hcand hle => ?_⟩
        rcases List.mem_append.mp hq with hq | hq
        · exact hnone q hq hcand hle
        · rw [List.mem_singleton.mp hq] at hcand hle
          exact hp ⟨hcand, hle⟩
      · exact .inr ⟨q, List.mem_append_left _ hq, hsrc⟩

/-- **The selected vector is the best one.** -/
theorem selectRoot_spec (b : Bridge) (t : Mstid) : Best b t b.conf.ports (selectRoot b t) := by
  have hfold : ∀ l, Best b t l (l.foldl (chooseRoot b t) (ownChoice b t)) := by
    intro l
    rw [← List.reverse_reverse l]
    induction l.reverse with
    | nil =>
        exact ⟨le_rfl, fun _ hp => absurd hp List.not_mem_nil,
          .inl ⟨rfl, fun _ hp => absurd hp List.not_mem_nil⟩⟩
    | cons p l ih =>
        rw [List.reverse_cons, List.foldl_append, List.foldl_cons, List.foldl_nil]
        exact ih.snoc
  exact hfold b.conf.ports

/-- The port that the choice names is the one it comes from. -/
theorem Best.root_ptp {l : List PortRef} {c : RootChoice} (h : Best b t l c)
    (hp : c.root_ptp = some p) : p ∈ l ∧ candidate b t p = true ∧ c = portChoice b t p := by
  rcases h.source with ⟨rfl, -⟩ | ⟨q, hq, hcand, rfl⟩
  · cases hp
  · obtain rfl : q = p := Option.some.inj hp
    exact ⟨hq, hcand, rfl⟩

/-! ## The selected roles -/

/-- Only the port of the choice can become Root. -/
theorem selectRole_root {r : Option PortRef} (h : (selectRole b t r p).1 = .Root) : r = some p := by
  simp only [selectRole] at h
  split at h
  · cases h
  split at h
  · split at h
    · cases h
    · exact absurd h ‹_›
  split at h
  · cases h
  · cases h
  · cases h
  · split at h
    · assumption
    · split at h
      · split at h <;> cases h
      · cases h

/-- In the CIST the port of the choice becomes Root. -/
theorem selectRole_cist {r : Option PortRef} (hinfo : (b.ptp p 0).infoIs = .ioReceived)
    (hr : r = some p) : (selectRole b 0 r p).1 = .Root := by
  simp [selectRole, hinfo, hr]

/-- The bridge when the vectors of a tree are computed. -/
def withVectors (b : Bridge) (t : Mstid) : Bridge :=
  let c := selectRoot b t
  let b := b.setTree t (fun tree =>
    { tree with
      rootPriority := c.rootPriority
      rootPortId := c.rootPortId
      rootTimes := selectTimes b t c.root_ptp })
  { b with ptp := fun p t' => if t' = t then designate b t p (b.ptp p t') else b.ptp p t' }

/-- The roles are assigned by the vectors, the flags of the MSTIs apart. -/
theorem updtRolesTree_eq (b : Bridge) (t : Mstid) :
    ∃ s : Bridge, s.tree = (withVectors b t).tree ∧
      (∀ p t', ((s.ptp p t').infoIs, (s.ptp p t').designatedPriority, (s.ptp p t').designatedTimes) =
        (((withVectors b t).ptp p t').infoIs, ((withVectors b t).ptp p t').designatedPriority,
          ((withVectors b t).ptp p t').designatedTimes)) ∧
      updtRolesTree b t = assignRoles s t (selectRoot b t).root_ptp := by
  by_cases hsync : t = 0 ∧
      (selectRoot b t).rootPriority.RRootID ≠ (b.tree t).rootPriority.RRootID ∧
      ((selectRoot b t).rootPriority.ExtRootPathCost ≠ 0 ∨
        (b.tree t).rootPriority.ExtRootPathCost ≠ 0)
  · refine ⟨syncMaster (withVectors b t), rfl, fun p t' => ?_, ?_⟩
    · rw [syncMaster, setPtps_ptp]
      split <;> rfl
    · rw [updtRolesTree, if_pos hsync]
      rfl
  · refine ⟨withVectors b t, rfl, fun _ _ => rfl, ?_⟩
    rw [updtRolesTree, if_neg hsync]
    rfl

theorem assignRoles_selectedRole (s : Bridge) (r : Option PortRef) (p : PortRef) :
    ((assignRoles s t r).ptp p t).selectedRole = (selectRole s t r p).1 := by
  simp only [assignRoles, if_true]

theorem withVectors_infoIs (b : Bridge) (t t' : Mstid) (p : PortRef) :
    ((withVectors b t).ptp p t').infoIs = (b.ptp p t').infoIs := by
  simp only [withVectors]
  split <;> rfl

theorem updtRolesTree_root_ptp (h : ((updtRolesTree b t).ptp p t).selectedRole = .Root) :
    (selectRoot b t).root_ptp = some p := by
  obtain ⟨s, -, -, heq⟩ := updtRolesTree_eq b t
  rw [heq, assignRoles_selectedRole] at h
  exact selectRole_root h

/-- **The selection of the root.** The root priority vector of the tree, with its port identifier,
is the best of the bridge's own and of those the candidates offer: it is no worse than any, and is
one of them. At most one port is selected as Root, a candidate that offers this vector; and in the
CIST one is exactly when some candidate offers a vector that is not worse than the bridge's own. -/
theorem updtRolesTree_root (b : Bridge) (t : Mstid) :
    let b' := updtRolesTree b t
    let root := (b'.tree t).rootPriority.key (b'.tree t).rootPortId (t == 0)
    let offered := fun p => (rootPathPriority b t p).key (b.ptp p t).portId (t == 0)
    let own := (b.tree t).BridgePriority.key 0 (t == 0)
    (root ≤ own ∧ (∀ p ∈ b.conf.ports, candidate b t p = true → root ≤ offered p) ∧
      (((b'.tree t).rootPriority = (b.tree t).BridgePriority ∧ (b'.tree t).rootPortId = 0) ∨
        ∃ p ∈ b.conf.ports, candidate b t p = true ∧
          (b'.tree t).rootPriority = rootPathPriority b t p ∧
          (b'.tree t).rootPortId = (b.ptp p t).portId)) ∧
      (∀ p q, (b'.ptp p t).selectedRole = .Root → (b'.ptp q t).selectedRole = .Root → p = q) ∧
      (∀ p, (b'.ptp p t).selectedRole = .Root →
        p ∈ b.conf.ports ∧ candidate b t p = true ∧ root = offered p) ∧
      (t = 0 → ((∃ p, (b'.ptp p t).selectedRole = .Root) ↔
        ∃ p ∈ b.conf.ports, candidate b t p = true ∧ offered p ≤ own)) := by
  intro b' root offered own
  have hbest := selectRoot_spec b t
  obtain ⟨s, htree, hinfo, heq⟩ := updtRolesTree_eq b t
  have hstored : (b'.tree t).rootPriority = (selectRoot b t).rootPriority ∧
      (b'.tree t).rootPortId = (selectRoot b t).rootPortId := by
    simp only [b', heq, assignRoles, htree, withVectors, setTree_tree_self, and_self]
  have hroot : root = (selectRoot b t).key (t == 0) := by
    simp only [root, hstored, RootChoice.key]
  have hfrom : ∀ p, (b'.ptp p t).selectedRole = .Root →
      p ∈ b.conf.ports ∧ candidate b t p = true ∧ root = offered p := by
    intro p hp
    obtain ⟨hmem, hcand, hsrc⟩ := hbest.root_ptp (updtRolesTree_root_ptp hp)
    refine ⟨hmem, hcand, ?_⟩
    rw [hroot, hsrc]
    rfl
  refine ⟨⟨hroot ▸ hbest.own, fun p hp hcand => hroot ▸ hbest.ports p hp hcand, ?_⟩,
    fun p q hp hq => ?_, hfrom, fun ht => ⟨?_, ?_⟩⟩
  · rw [hstored.1, hstored.2]
    rcases hbest.source with ⟨hown, -⟩ | ⟨p, hp, hcand, hsrc⟩
    · exact .inl (hown ▸ ⟨rfl, rfl⟩)
    · exact .inr ⟨p, hp, hcand, hsrc ▸ ⟨rfl, rfl⟩⟩
  · exact Option.some.inj
      ((updtRolesTree_root_ptp hp).symm.trans (updtRolesTree_root_ptp hq))
  · rintro ⟨p, hp⟩
    obtain ⟨hmem, hcand, hoff⟩ := hfrom p hp
    exact ⟨p, hmem, hcand, hoff ▸ hroot ▸ hbest.own⟩
  · rintro ⟨p, hp, hcand, hle⟩
    rcases hbest.source with ⟨hown, hnone⟩ | ⟨q, -, hcandq, hsrc⟩
    · exact absurd (hown ▸ hle) (hnone p hp hcand)
    · refine ⟨q, ?_⟩
      subst ht
      have hq := hinfo q 0
      simp only [Prod.mk.injEq, withVectors_infoIs] at hq
      simp only [candidate, Bool.and_eq_true, beq_iff_eq] at hcandq
      rw [show b' = updtRolesTree b 0 from rfl, heq, assignRoles_selectedRole]
      exact selectRole_cist (hq.1.trans hcandq.1.1) (by rw [hsrc]; rfl)

end Mstpd
