import TfPack.Vlan.Marks

set_option autoImplicit false

/-! # What the commands do to the sections

A configuration is sound when its names are apart and each VLAN has one section. Every command
keeps that: an `add` makes sections for VLANs that are not there, and all other commands change or
remove sections without giving a VLAN to another one (`Tame`).
-/

namespace Vlan

open SectionStore

/-! ## Sections that are added -/

/-- What is found after a section is added with its options. -/
theorem find_addSection (type name : Text) (options : List (Text × Value)) (m : Text)
    (cfg : Config) : find m (addSection type name options cfg) =
      if m = name then some ⟨name, type, writeOptions options (optionsOf name cfg)⟩
      else find m cfg := by
  rw [addSection, find_setAll_add]

theorem named_addSection {type name : Text} {options : List (Text × Value)} {cfg : Config}
    (h : Store.Named cfg) : Store.Named (addSection type name options cfg) :=
  named_setAll (named_add h)

theorem device_ne_bridge : "device".toList ≠ "bridge-vlan".toList := by decide

theorem vlanName_ne_deviceName (n m : Nat) : vlanName n ≠ deviceName m := by
  intro h
  have hhead : some 'v' = some 's' := congrArg List.head? h
  exact absurd (Option.some.inj hhead) (by decide)

/-- What is found after a VLAN is added. -/
theorem find_uciAddVlanSections (n : Nat) (m : Text) (cfg : Config) :
    find m (uciAddVlanSections n cfg) =
      if m = vlanName n then
        some ⟨vlanName n, "bridge-vlan".toList,
          writeOptions (vlanOptions n) (optionsOf (vlanName n) cfg)⟩
      else if m = deviceName n then
        some ⟨deviceName n, "device".toList,
          writeOptions (deviceOptions n) (optionsOf (deviceName n) cfg)⟩
      else find m cfg := by
  have hoptions : optionsOf (deviceName n)
      (addSection "bridge-vlan".toList (vlanName n) (vlanOptions n) cfg) =
        optionsOf (deviceName n) cfg := by
    rw [optionsOf, optionsOf, find_addSection, if_neg (vlanName_ne_deviceName n n).symm]
  rw [uciAddVlanSections, find_addSection, find_addSection, hoptions]
  by_cases hvlan : m = vlanName n
  · rw [if_neg (fun h => vlanName_ne_deviceName n n (hvlan.symm.trans h)), if_pos hvlan,
      if_pos hvlan]
  · rw [if_neg hvlan, if_neg hvlan]

theorem named_uciAddVlanSections {n : Nat} {cfg : Config} (h : Store.Named cfg) :
    Store.Named (uciAddVlanSections n cfg) :=
  named_addSection (named_addSection h)

/-! ## Sound configurations -/

/-- The names are apart, and each section `bridge-vlan` has a VLAN of its own. -/
structure Sound (cfg : Config) : Prop where
  named : Store.Named cfg
  numbered : ∀ sec ∈ cfg, sec.type = "bridge-vlan".toList → ∃ n, IsVlan sec n
  unique : ∀ n, ∀ sec ∈ cfg, ∀ sec' ∈ cfg, IsVlan sec n → IsVlan sec' n → sec = sec'

/-- Each VLAN of the new configuration is one of the old, in the section of the same name. -/
def Tame (cfg cfg' : Config) : Prop :=
  ∀ sec' ∈ cfg', sec'.type = "bridge-vlan".toList → ∃ sec ∈ cfg, sec.name = sec'.name ∧
    sec.type = "bridge-vlan".toList ∧ sec.options "vlan".toList = sec'.options "vlan".toList

theorem Tame.refl (cfg : Config) : Tame cfg cfg :=
  fun sec hsec htype => ⟨sec, hsec, rfl, htype, rfl⟩

theorem Tame.trans {cfg cfg' cfg'' : Config} (h : Tame cfg cfg') (h' : Tame cfg' cfg'') :
    Tame cfg cfg'' := by
  intro sec'' hsec'' htype
  obtain ⟨sec', hsec', hname', htype', hvlan'⟩ := h' sec'' hsec'' htype
  obtain ⟨sec, hsec, hname, htype, hvlan⟩ := h sec' hsec' htype'
  exact ⟨sec, hsec, hname.trans hname', htype, hvlan.trans hvlan'⟩

/-- A configuration stays sound when it is tamely changed. -/
theorem Sound.of_tame {cfg cfg' : Config} (h : Sound cfg) (hnamed : Store.Named cfg')
    (htame : Tame cfg cfg') : Sound cfg' := by
  refine ⟨hnamed, ?_, ?_⟩
  · intro sec' hsec' htype'
    obtain ⟨sec, hsec, -, htype, hvlan⟩ := htame sec' hsec' htype'
    obtain ⟨n, -, hn⟩ := h.numbered sec hsec htype
    exact ⟨n, htype', hvlan.symm.trans hn⟩
  · rintro n sec' hsec' t' ht' ⟨htype', hn'⟩ ⟨httype', htn'⟩
    obtain ⟨sec, hsec, hname, htype, hvlan⟩ := htame sec' hsec' htype'
    obtain ⟨t, ht, htname, httype, htvlan⟩ := htame t' ht' httype'
    have heq := h.unique n sec hsec t ht ⟨htype, hvlan.trans hn'⟩ ⟨httype, htvlan.trans htn'⟩
    exact eq_of_name hnamed hsec' ht' (hname.symm.trans ((congrArg _ heq).trans htname))

/-- Changing sections is tame when it keeps names and VLANs, or makes them something else. -/
theorem tame_modify {name : Text} {f : Section Text Value → Section Text Value} {cfg : Config}
    (hf : ∀ s, (f s).name = s.name ∧ ((f s).type = "bridge-vlan".toList →
      s.type = "bridge-vlan".toList ∧ s.options "vlan".toList = (f s).options "vlan".toList)) :
    Tame cfg (modify name f cfg) := by
  intro sec' hsec' htype'
  obtain ⟨sec, hsec, rfl⟩ := List.mem_map.mp hsec'
  by_cases hname : sec.name = name
  · rw [if_pos hname] at htype' ⊢
    obtain ⟨htype, hvlan⟩ := (hf sec).2 htype'
    exact ⟨sec, hsec, (hf sec).1.symm, htype, hvlan⟩
  · rw [if_neg hname] at htype' ⊢
    exact ⟨sec, hsec, rfl, htype', rfl⟩

theorem tame_set {name option : Text} {value : Value} {cfg : Config}
    (hoption : option ≠ "vlan".toList) : Tame cfg (SectionStore.set name option value cfg) :=
  tame_modify (fun _ => ⟨rfl, fun htype =>
    ⟨htype, (Function.update_of_ne hoption.symm _ _).symm⟩⟩)

theorem tame_unset {name option : Text} {cfg : Config} (hoption : option ≠ "vlan".toList) :
    Tame cfg (SectionStore.unset name option cfg) :=
  tame_modify (fun _ => ⟨rfl, fun htype =>
    ⟨htype, (Function.update_of_ne hoption.symm _ _).symm⟩⟩)

theorem tame_delete {name : Text} {cfg : Config} : Tame cfg (SectionStore.delete name cfg) :=
  fun sec hsec htype => ⟨sec, (mem_delete.mp hsec).1, rfl, htype, rfl⟩

/-- A section of another type takes no VLAN. -/
theorem tame_addSection {type name : Text} {options : List (Text × Value)} {cfg : Config}
    (hnamed : Store.Named cfg) (htype : type ≠ "bridge-vlan".toList) :
    Tame cfg (addSection type name options cfg) := by
  intro sec' hsec' htype'
  have hfind := find_of_mem (named_addSection hnamed) hsec'
  rw [find_addSection] at hfind
  by_cases hname : sec'.name = name
  · rw [if_pos hname, Option.some.injEq] at hfind
    rw [← hfind] at htype'
    exact absurd htype' htype
  · rw [if_neg hname] at hfind
    exact ⟨sec', mem_of_find hfind, rfl, htype', rfl⟩

/-- The number that a new VLAN has. -/
theorem vlan_writeOptions (n : Nat) (f : Text → Option Value) :
    writeOptions (vlanOptions n) f "vlan".toList = some (.num n) := by
  simp only [writeOptions, vlanOptions, List.foldl_cons, List.foldl_nil]
  rw [Function.update_of_ne (by decide), Function.update_self]

/-- **A VLAN that is missing is added soundly.** -/
theorem Sound.uciAddVlanSections {cfg : Config} (h : Sound cfg) {n : Nat}
    (hmissing : ¬ HasVlan cfg n) : Sound (uciAddVlanSections n cfg) ∧
      ∀ m, HasVlan (uciAddVlanSections n cfg) m → m = n ∨ HasVlan cfg m := by
  have hnamed := named_uciAddVlanSections (n := n) h.named
  have hsections : ∀ sec ∈ Vlan.uciAddVlanSections n cfg, sec.type = "bridge-vlan".toList →
      (sec.name = vlanName n ∧ IsVlan sec n) ∨ sec ∈ cfg := by
    intro sec hsec htype
    have hfind := find_of_mem hnamed hsec
    rw [find_uciAddVlanSections] at hfind
    by_cases hvlan : sec.name = vlanName n
    · rw [if_pos hvlan, Option.some.injEq] at hfind
      refine .inl ⟨hvlan, htype, ?_⟩
      rw [← hfind]
      exact vlan_writeOptions n (optionsOf (vlanName n) cfg)
    · rw [if_neg hvlan] at hfind
      by_cases hdevice : sec.name = deviceName n
      · rw [if_pos hdevice, Option.some.injEq] at hfind
        rw [← hfind] at htype
        exact absurd htype device_ne_bridge
      · rw [if_neg hdevice] at hfind
        exact .inr (mem_of_find hfind)
  have hnum : ∀ {sec : Section Text Value} {m k : Nat}, IsVlan sec m → IsVlan sec k → m = k := by
    intro sec m k hm hk
    simpa using hm.2.symm.trans hk.2
  refine ⟨⟨hnamed, ?_, ?_⟩, ?_⟩
  · intro sec hsec htype
    rcases hsections sec hsec htype with ⟨-, hvlan⟩ | hsec
    · exact ⟨n, hvlan⟩
    · exact h.numbered sec hsec htype
  · intro m sec hsec t ht hm hm'
    rcases hsections sec hsec hm.1 with ⟨hname, hvlan⟩ | hold
    · rcases hsections t ht hm'.1 with ⟨hname', -⟩ | hold'
      · exact eq_of_name hnamed hsec ht (hname.trans hname'.symm)
      · exact absurd ⟨t, hold', hnum hm hvlan ▸ hm'⟩ hmissing
    · rcases hsections t ht hm'.1 with ⟨-, hvlan'⟩ | hold'
      · exact absurd ⟨sec, hold, hnum hm' hvlan' ▸ hm⟩ hmissing
      · exact h.unique m sec hold t hold' hm hm'
  · rintro m ⟨sec, hsec, hm⟩
    rcases hsections sec hsec hm.1 with ⟨-, hvlan⟩ | hold
    · exact .inl (hnum hm hvlan)
    · exact .inr ⟨sec, hold, hm⟩

/-- The VLANs are added one after the other. -/
def addVlans (nums : List Nat) (cfg : Config) : Config :=
  nums.foldl (fun cfg n => uciAddVlanSections n cfg) cfg

theorem addMissingSections_eq (vlanArr : List VlanInfo) (nums : List Nat) (cfg : Config) :
    addMissingSections vlanArr nums cfg =
      addVlans (nums.filter (fun n => vlanArr.all (fun v => v.num != n))) cfg := by
  rw [addMissingSections, addVlans, List.foldl_filter]

/-- **VLANs that are missing are added soundly**, and there are no others after that. -/
theorem Sound.addVlans {nums : List Nat} (hnums : nums.Nodup) {cfg : Config} (h : Sound cfg)
    (hmissing : ∀ n ∈ nums, ¬ HasVlan cfg n) : Sound (addVlans nums cfg) ∧
      ∀ m, HasVlan (addVlans nums cfg) m → m ∈ nums ∨ HasVlan cfg m := by
  rw [Vlan.addVlans]
  induction nums generalizing cfg with
  | nil => exact ⟨h, fun m hhas => .inr hhas⟩
  | cons n nums ih =>
      obtain ⟨hn, hnums⟩ := List.nodup_cons.mp hnums
      obtain ⟨hsound, hvlans⟩ := h.uciAddVlanSections (hmissing n List.mem_cons_self)
      have htail : ∀ m ∈ nums, ¬ HasVlan (Vlan.uciAddVlanSections n cfg) m := by
        intro m hm hhas
        rcases hvlans m hhas with rfl | hhas
        · exact hn hm
        · exact hmissing m (List.mem_cons_of_mem n hm) hhas
      obtain ⟨hsound', hvlans'⟩ := ih hnums hsound htail
      refine ⟨hsound', fun m hhas => ?_⟩
      rcases hvlans' m hhas with hm | hhas
      · exact .inl (List.mem_cons_of_mem n hm)
      · rcases hvlans m hhas with rfl | hhas
        · exact .inl List.mem_cons_self
        · exact .inr hhas

end Vlan
