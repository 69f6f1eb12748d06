import TfPack.Lib.Machine
import TfPack.Vlan.Sections

set_option autoImplicit false

/-! # The VLANs that must not be deleted

A VLAN that an interface is based on should stay when it is deleted, be the interface in the staged
configuration or in the one that runs. What keeps it is the mark: an interface that runs and has the
VLAN in its staged device. So a staged interface that does not run yet does not keep its VLAN, nor
does one that runs when its staged device was changed or is deleted.
-/

namespace Vlan

open SectionStore StepMachine

/-! ## Every command keeps a sound configuration -/

/-- A command leaves what runs, and keeps what is staged sound. -/
structure Keeps (s s' : Net) : Prop where
  staged : Sound s.staged → Sound s'.staged
  running : s'.running = s.running

theorem Keeps.refl (s : Net) : Keeps s s := ⟨id, rfl⟩

theorem Keeps.trans {s s' s'' : Net} (h : Keeps s s') (h' : Keeps s' s'') : Keeps s s'' :=
  ⟨h'.staged ∘ h.staged, h'.running.trans h.running⟩

/-- Commands that are run one after the other. -/
theorem Keeps.foldl {α : Type} {f : Net → α → Net} (hf : ∀ s a, Keeps s (f s a)) (l : List α)
    (s : Net) : Keeps s (l.foldl f s) := by
  induction l generalizing s with
  | nil => exact .refl s
  | cons a l ih => exact (hf s a).trans (ih (f s a))

theorem keeps_delete (id : Text) (s : Net) : Keeps s (s.delete id) := by
  rw [Net.delete]
  split
  · exact ⟨fun h => h.of_tame (named_delete h.named) tame_delete, rfl⟩
  · exact .refl s

theorem keeps_runDelete (vlans : VlanRange) (s : Net) : Keeps s (runDelete vlans s) := by
  rw [runDelete]
  split
  · refine Keeps.foldl (fun s v => ?_) _ s
    split
    · exact keeps_delete v.id s
    · exact .refl s
  · exact .refl s

theorem ports_ne_vlan : "ports".toList ≠ "vlan".toList := by decide
theorem device_ne_vlan : "device".toList ≠ "vlan".toList := by decide

theorem keeps_setPortsOption (id : Text) (ports : PortTable) (s : Net) :
    Keeps s (setPortsOption id ports s) := by
  have hunset : Keeps s (s.unset id "ports".toList) := by
    rw [Net.unset]
    split
    · exact ⟨fun h => h.of_tame (named_unset h.named) (tame_unset ports_ne_vlan), rfl⟩
    · exact .refl s
  rw [setPortsOption]
  cases namesOf ports with
  | nil => exact hunset
  | cons x names =>
      exact hunset.trans
        ⟨fun h => h.of_tame (named_set h.named) (tame_set ports_ne_vlan), rfl⟩

theorem keeps_runPortsOn (c : Command) (first last : Nat) (vlanArr : List VlanEntry) (s : Net) :
    Keeps s (runPortsOn c first last vlanArr s) := by
  rw [runPortsOn]
  split
  · refine Keeps.foldl (fun s p => ?_) _ s
    cases entryOf vlanArr p.1 with
    | none => exact .refl s
    | some v => exact keeps_setPortsOption v.id p.2 s
  · exact .refl s

/-- An entry is there for each VLAN, so those without one are missing. -/
theorem not_hasVlan_of_all {s : Net} {vlanArr : List VlanInfo} {deleted : List Text}
    (harr : getVlanArr s = some (vlanArr, deleted)) {n : Nat}
    (hall : vlanArr.all (fun v => v.num != n) = true) : ¬ HasVlan s.staged n := by
  rintro ⟨sec, hsec, hvlan⟩
  obtain ⟨v, hv, -, hnum⟩ := (getVlanArr_entries harr).1 sec hsec n hvlan
  have hne := List.all_eq_true.mp hall v hv
  simp [hnum] at hne

theorem keeps_runVlanId (c : Command) (s : Net) : Keeps s (runVlanId c s) := by
  rw [runVlanId]
  cases c.vlans.check with
  | none => exact .refl s
  | some range =>
      obtain ⟨first, last⟩ := range
      cases harr : getVlanArr s with
      | none => exact .refl s
      | some r =>
          obtain ⟨vlanArr, deleted⟩ := r
          -- sections are added only for the VLANs that have none
          have hcreate : Keeps s (createSections c vlanArr s) := by
            rw [createSections]
            cases c.cmd with
            | edit => exact .refl s
            | add =>
                refine ⟨fun h => ?_, rfl⟩
                dsimp only
                rw [addMissingSections_eq]
                exact (h.addVlans ((nodup_created c.vlans).filter _) fun n hn =>
                  not_hasVlan_of_all harr (List.mem_filter.mp hn).2).1
          dsimp only
          cases getVlanArr (createSections c vlanArr s) with
          | none => exact hcreate
          | some r' => exact hcreate.trans (keeps_runPortsOn c first last _ _)

theorem interface_ne_bridge : "interface".toList ≠ "bridge-vlan".toList := by decide

/-- What `mngt_vlan` can do: nothing, add an interface, give one a device, or delete one. -/
theorem runMngtVlan_cases (action : Action) (ifName : Text) (vlanId : Nat) (s : Net) :
    runMngtVlan action ifName vlanId s = s ∨
    (∃ options, runMngtVlan action ifName vlanId s =
      { s with staged := addSection "interface".toList ifName options s.staged }) ∨
    (∃ device, runMngtVlan action ifName vlanId s =
      { s with staged := SectionStore.set ifName "device".toList device s.staged }) ∨
    runMngtVlan action ifName vlanId s = s.delete ifName := by
  rw [runMngtVlan]
  split
  · exact .inl rfl
  · cases getVlanArr s with
    | none => exact .inl rfl
    | some r =>
        obtain ⟨vlanArr, deleted⟩ := r
        cases getIfList (dump s.running) with
        | none => exact .inl rfl
        | some ifs =>
            dsimp only
            unfold mngtVlanHandler
            generalize checkVlanIsValid vlanArr vlanId ifName deleted ifs = r
            obtain ⟨vid, status⟩ := r
            cases action with
            | add =>
                cases vid <;> cases status <;> try exact .inl rfl
                dsimp only
                split
                · exact .inr (.inl ⟨_, rfl⟩)
                · exact .inl rfl
            | edit =>
                cases vid <;> cases status <;> try exact .inl rfl
                exact .inr (.inr (.inl ⟨_, rfl⟩))
            | delete =>
                cases vid <;> cases status <;> first
                  | exact .inl rfl
                  | exact .inr (.inr (.inr rfl))

theorem keeps_runMngtVlan (action : Action) (ifName : Text) (vlanId : Nat) (s : Net) :
    Keeps s (runMngtVlan action ifName vlanId s) := by
  rcases runMngtVlan_cases action ifName vlanId s with
    heq | ⟨options, heq⟩ | ⟨device, heq⟩ | heq <;> rw [heq]
  · exact .refl s
  · exact ⟨fun h => h.of_tame (named_addSection h.named)
      (tame_addSection h.named interface_ne_bridge), rfl⟩
  · exact ⟨fun h => h.of_tame (named_set h.named) (tame_set device_ne_vlan), rfl⟩
  · exact keeps_delete ifName s

/-! ## Runs -/

/-- The commands; what is staged can be saved, and then runs, or be reverted. -/
inductive NetStep
  | vlanId (c : Command)
  | delete (vlans : VlanRange)
  | mngtVlan (action : Action) (ifName : Text) (num : Nat)
  | save
  | revert

def NetStep.run : NetStep → Net → Net
  | .vlanId c, s => runVlanId c s
  | .delete vlans, s => runDelete vlans s
  | .mngtVlan action ifName num, s => runMngtVlan action ifName num s
  | .save, s => { s with running := s.staged, removed := [] }
  | .revert, s => { s with staged := s.running, removed := [] }

def netMachine : Machine Net NetStep Empty where
  step s a := some (a.run s, [])

/-- The configuration that is staged and the one that runs are sound. -/
structure Net.Sound (s : Net) : Prop where
  staged : Vlan.Sound s.staged
  running : Vlan.Sound s.running

theorem Net.Sound.of_keeps {s s' : Net} (h : s.Sound) (hkeeps : Keeps s s') : s'.Sound :=
  ⟨hkeeps.staged h.staged, hkeeps.running ▸ h.running⟩

/-- **Every step keeps the configurations sound.** -/
theorem Net.Sound.step {s : Net} (h : s.Sound) (a : NetStep) : (a.run s).Sound := by
  cases a with
  | vlanId c => exact h.of_keeps (keeps_runVlanId c s)
  | delete vlans => exact h.of_keeps (keeps_runDelete vlans s)
  | mngtVlan action ifName num => exact h.of_keeps (keeps_runMngtVlan action ifName num s)
  | save => exact ⟨h.staged, h.staged⟩
  | revert => exact ⟨h.running, h.running⟩

/-! ## Protection -/

/-- The section is that of an interface based on the VLAN. -/
def BasedOn (sec : Section Text Value) (n : Nat) : Prop :=
  sec.type = "interface".toList ∧ sec.options "device".toList = some (.text (vlanDevice n))

/-- Some interface, staged or running, is based on the VLAN. -/
def Based (s : Net) (n : Nat) : Prop :=
  (∃ sec ∈ s.staged, BasedOn sec n) ∨ ∃ sec ∈ s.running, BasedOn sec n

/-- **A step protects**: of the VLANs of a range that is deleted those with an interface stay, and
the others go. -/
def Protects (s : Net) : NetStep → Prop
  | .delete vlans => ∀ n, vlans.Has n → HasVlan s.staged n →
      (HasVlan (runDelete vlans s).staged n ↔ Based s n)
  | _ => True

/-- **The VLAN is marked as it should be.** -/
structure RightlyMarked (s : Net) (n : Nat) : Prop where
  /-- When a staged interface based on it is not shown, another one that is shown names it. -/
  unshown : ∀ sec ∈ s.staged, BasedOn sec n → ¬ Shown s sec.name → Marked s n
  /-- When one that runs on it has another staged device or none, another one names it. -/
  moved : ∀ sec ∈ s.running, BasedOn sec n → stagedOn s sec.name n = false → Marked s n
  /-- A shown interface whose staged device names it does so as `switch.N`. -/
  spelled : Marked s n → Based s n

/-- The VLANs of the range can be deleted: the marks are right, or, where the configuration cannot
be read, there is nothing to delete. -/
def Deletable (s : Net) : NetStep → Prop
  | .delete vlans => ∀ n, vlans.Has n → HasVlan s.staged n →
      (Readable s → RightlyMarked s n) ∧ (¬ Readable s → Based s n)
  | _ => True

/-- A staged interface that is based on a VLAN has it in its staged device. -/
theorem stagedOn_of_basedOn {s : Net} (h : Sound s.staged) {sec : Section Text Value} {n : Nat}
    (hsec : sec ∈ s.staged) (hbased : BasedOn sec n) : stagedOn s sec.name n = true := by
  rw [stagedOn, deviceOf, valueOf, find_of_mem h.named hsec, Option.bind_some, hbased.2]
  exact namesVlan_vlanDevice.mpr rfl

/-- An interface that runs on a VLAN is shown. -/
theorem shown_of_basedOn {s : Net} {sec : Section Text Value} {n : Nat} (hsec : sec ∈ s.running)
    (hbased : BasedOn sec n) : Shown s sec.name := by
  refine ⟨vlanDevice n, List.mem_map.mpr ⟨sec, ?_, ?_⟩, ?_⟩
  · exact List.mem_filter.mpr ⟨hsec, by simpa using hbased.1⟩
  · rw [hbased.2]
  · exact ⟨'.' :: decimal n, rfl⟩

/-- The marks are right exactly when the marked VLANs are those with an interface. -/
theorem rightlyMarked_iff {s : Net} (h : Sound s.staged) (n : Nat) :
    RightlyMarked s n ↔ (Marked s n ↔ Based s n) := by
  constructor
  · intro hright
    refine ⟨hright.spelled, ?_⟩
    rintro (⟨sec, hsec, hbased⟩ | ⟨sec, hsec, hbased⟩)
    · -- a shown interface is marked by its staged device
      by_cases hshown : Shown s sec.name
      · exact ⟨sec.name, hshown, stagedOn_of_basedOn h hsec hbased⟩
      · exact hright.unshown sec hsec hbased hshown
    · cases hon : stagedOn s sec.name n with
      | true => exact ⟨sec.name, shown_of_basedOn hsec hbased, hon⟩
      | false => exact hright.moved sec hsec hbased hon
  · intro hiff
    exact ⟨fun sec hsec hbased _ => hiff.mpr (.inl ⟨sec, hsec, hbased⟩),
      fun sec hsec hbased _ => hiff.mpr (.inr ⟨sec, hsec, hbased⟩), hiff.mp⟩

/-- One step protects exactly when what it deletes is deletable. -/
theorem protects_iff_deletable {s : Net} (h : s.Sound) (a : NetStep) :
    Protects s a ↔ Deletable s a := by
  cases a with
  | delete vlans =>
      refine forall_congr' fun n => forall_congr' fun hin => forall_congr' fun hhas => ?_
      -- an unreadable configuration makes the command give up before it deletes anything
      by_cases hread : Readable s
      · rw [hasVlan_runDelete_iff h.staged.named hread, rightlyMarked_iff h.staged]
        have hleft : HasVlan s.staged n ∧ (vlans.Has n → Marked s n) ↔ Marked s n :=
          ⟨fun hboth => hboth.2 hin, fun hmark => ⟨hhas, fun _ => hmark⟩⟩
        rw [hleft]
        exact ⟨fun hiff => ⟨fun _ => hiff, fun hno => absurd hread hno⟩, fun hboth => hboth.1 hread⟩
      · rw [runDelete_unreadable hread]
        exact ⟨fun hiff => ⟨fun hyes => absurd hyes hread, fun _ => hiff.mp hhas⟩,
          fun hboth => iff_of_true hhas (hboth.2 hread)⟩
  | vlanId c => exact Iff.rfl
  | mngtVlan action ifName num => exact Iff.rfl
  | save => exact Iff.rfl
  | revert => exact Iff.rfl

/-- **In every run all deletions protect the VLANs with an interface, and only those, exactly when
each of them is made where the marks are right.** -/
theorem protects_iff {s₀ s : Net} (h₀ : s₀.Sound) {vs : List (Visit Net NetStep Empty)}
    {tr : List Empty} (h : Exec netMachine s₀ vs tr s) :
    (∀ v ∈ vs, Protects v.state v.act) ↔ ∀ v ∈ vs, Deletable v.state v.act := by
  -- soundness is kept by every step, and then one step protects exactly when it may delete
  have hsound := (h.inv_iff (fun s _ => s.Sound) (fun _ => True) h₀ (by
    rintro s tr a s' evs hs hstep
    obtain ⟨rfl, -⟩ := Prod.mk.inj (Option.some.inj hstep)
    exact iff_of_true (hs.step a) trivial)).mpr (fun _ _ => trivial)
  exact forall_congr' fun v => forall_congr' fun hv =>
    protects_iff_deletable (hsound.1 v hv) v.act

/-- The VLANs 1 and 2, and the interface `lan` on VLAN 1. -/
def lanConfig : Config :=
  addSection "interface".toList "lan".toList [("device".toList, .text (vlanDevice 1))]
    (uciAddVlanSections 2 (uciAddVlanSections 1 []))

def lanNet : Net := ⟨lanConfig, [], lanConfig⟩

theorem lanNet_sound : lanNet.Sound := by
  have hempty : ∀ n, ¬ HasVlan [] n := by
    rintro n ⟨sec, hsec, -⟩
    cases hsec
  have hsound : Sound [] := ⟨List.nodup_nil, fun sec hsec => (by cases hsec),
    fun n sec hsec => (by cases hsec)⟩
  obtain ⟨hone, hvlans⟩ := hsound.uciAddVlanSections (hempty 1)
  have hmissing : ¬ HasVlan (uciAddVlanSections 1 []) 2 := by
    intro hhas
    rcases hvlans 2 hhas with heq | hhas
    · omega
    · exact hempty 2 hhas
  obtain ⟨htwo, -⟩ := hone.uciAddVlanSections hmissing
  have hlan : Sound lanConfig := htwo.of_tame (named_addSection htwo.named)
    (tame_addSection htwo.named interface_ne_bridge)
  exact ⟨hlan, hlan⟩

theorem lanNet_unmarked : ¬ Marked lanNet 2 ∧ ¬ Based lanNet 2 := by
  have hifs : getIfList (dump lanConfig) = some ["lan".toList] := by decide +kernel
  have hon : stagedOn lanNet "lan".toList 2 = false := by decide +kernel
  have hdevice : lanConfig.all (fun sec => sec.type != "interface".toList ||
      sec.options "device".toList != some (.text (vlanDevice 2))) = true := by decide +kernel
  have hbased : ¬ ∃ sec ∈ lanConfig, BasedOn sec 2 := by
    rintro ⟨sec, hsec, htype, hdev⟩
    have hne := List.all_eq_true.mp hdevice sec hsec
    rw [Bool.or_eq_true, bne_iff_ne, bne_iff_ne] at hne
    exact hne.elim (fun hne => hne htype) (fun hne => hne hdev)
  refine ⟨?_, fun h => hbased (h.elim id id)⟩
  rintro ⟨i, hshown, honTwo⟩
  have hi := (mem_getIfList hifs i).mpr hshown
  rw [List.mem_singleton] at hi
  rw [hi, hon] at honTwo
  cases honTwo

theorem protects_iff_deleteTwo : ∃ vs tr s, Exec netMachine lanNet vs tr s ∧
    vs.map (fun v => v.act) = [.delete (.once 2)] ∧ ∀ v ∈ vs, Protects v.state v.act := by
  have hrun : Exec netMachine lanNet _ _ _ :=
    (Exec.empty netMachine lanNet).snoc (a := .delete (.once 2)) rfl
  refine ⟨_, _, _, hrun, rfl, (protects_iff lanNet_sound hrun).mpr ?_⟩
  intro v hv
  obtain rfl := List.mem_singleton.mp hv
  rintro n ⟨first, last, hcheck, hfirst, hlast⟩ -
  obtain ⟨rfl, rfl⟩ := Prod.mk.inj (Option.some.inj hcheck)
  obtain rfl : n = 2 := by omega
  have hread : Readable lanNet := by
    have hsome : (getVlanArr lanNet).isSome = true := by decide +kernel
    exact hsome
  refine ⟨fun _ => (rightlyMarked_iff lanNet_sound.staged 2).mpr ?_, fun hno => absurd hread hno⟩
  exact iff_of_false lanNet_unmarked.1 lanNet_unmarked.2

/-- **When `lan` is moved to VLAN 2 and nothing saved yet, the VLAN 1 that it runs on is deleted.**
-/
theorem moveThenDelete_not_protected :
    ¬ ∀ (s₀ s : Net) (vs : List (Visit Net NetStep Empty)) (tr : List Empty),
      s₀.Sound → Exec netMachine s₀ vs tr s → ∀ v ∈ vs, Protects v.state v.act := by
  intro h
  have hrun : Exec netMachine lanNet _ _ _ := (Exec.empty netMachine lanNet).snoc
    (a := .mngtVlan .edit "lan".toList 2) rfl |>.snoc (a := .delete (.once 1)) rfl
  have hprotects := h lanNet _ _ _ lanNet_sound hrun _ (List.mem_append_right _ List.mem_cons_self)
  have hhas := List.any_eq_true.mp
    (by decide +kernel : (NetStep.run (.mngtVlan .edit "lan".toList 2) lanNet).staged.any
      (fun sec => sec.type == "bridge-vlan".toList &&
        sec.options "vlan".toList == some (.num 1)) = true)
  have hgone : (NetStep.run (.delete (.once 1))
      (NetStep.run (.mngtVlan .edit "lan".toList 2) lanNet)).staged.all
      (fun sec => sec.type != "bridge-vlan".toList ||
        sec.options "vlan".toList != some (.num 1)) = true := by decide +kernel
  have hlan := List.any_eq_true.mp
    (by decide +kernel : lanConfig.any (fun sec => sec.type == "interface".toList &&
      sec.options "device".toList == some (.text (vlanDevice 1))) = true)
  obtain ⟨sec, hsec, htwo⟩ := hhas
  obtain ⟨sec', hsec', hbased⟩ := hlan
  rw [Bool.and_eq_true, beq_iff_eq, beq_iff_eq] at htwo hbased
  have hstays := (hprotects 1 ⟨1, 1, rfl, le_refl 1, le_refl 1⟩ ⟨sec, hsec, htwo⟩).mpr
    (.inr ⟨sec', hsec', hbased⟩)
  obtain ⟨t, ht, htype, hvlan⟩ := hstays
  have hnone := List.all_eq_true.mp hgone t ht
  rw [Bool.or_eq_true, bne_iff_ne, bne_iff_ne] at hnone
  exact hnone.elim (fun hne => hne htype) (fun hne => hne hvlan)

end Vlan
