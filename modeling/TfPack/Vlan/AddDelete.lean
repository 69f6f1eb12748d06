import TfPack.Vlan.Protection

set_option autoImplicit false

/-! # Adding VLANs and deleting them again

An `add` makes a section `bridge-vlan` and a section `device` for each VLAN, and `delete` removes
the first only. So the configuration is as before exactly when the device sections were there, just
as `add` writes them, the names of the VLAN sections were free, and nothing keeps the VLANs
(`restores_iff`).
-/

namespace Vlan

open SectionStore

/-! ## The sections that are made -/

theorem deviceName_injective {n m : Nat} (h : deviceName n = deviceName m) : n = m :=
  decimal_injective (List.append_cancel_left h)

/-- A section of another name than those of the VLANs is as it was. -/
theorem find_addVlans_of_ne {nums : List Nat} {m : Text} (cfg : Config)
    (hm : ∀ n ∈ nums, m ≠ vlanName n ∧ m ≠ deviceName n) :
    find m (addVlans nums cfg) = find m cfg := by
  rw [addVlans]
  induction nums generalizing cfg with
  | nil => rfl
  | cons n nums ih =>
      obtain ⟨hvlan, hdevice⟩ := hm n List.mem_cons_self
      rw [List.foldl_cons, ih _ fun k hk => hm k (List.mem_cons_of_mem n hk),
        find_uciAddVlanSections, if_neg hvlan, if_neg hdevice]

/-- The two sections of a VLAN that is added. -/
theorem find_addVlans {nums : List Nat} (hnums : nums.Nodup) (cfg : Config) {n : Nat}
    (hn : n ∈ nums) :
    find (vlanName n) (addVlans nums cfg) = some ⟨vlanName n, "bridge-vlan".toList,
      writeOptions (vlanOptions n) (optionsOf (vlanName n) cfg)⟩ ∧
    find (deviceName n) (addVlans nums cfg) = some ⟨deviceName n, "device".toList,
      writeOptions (deviceOptions n) (optionsOf (deviceName n) cfg)⟩ := by
  induction nums generalizing cfg with
  | nil => cases hn
  | cons k nums ih =>
      obtain ⟨hk, hnums⟩ := List.nodup_cons.mp hnums
      have hcons : addVlans (k :: nums) cfg = addVlans nums (uciAddVlanSections k cfg) := rfl
      rw [hcons]
      rcases List.mem_cons.mp hn with rfl | hn
      · -- the VLANs after it have other names
        have hne : ∀ m ∈ nums, (vlanName n ≠ vlanName m ∧ vlanName n ≠ deviceName m) ∧
            deviceName n ≠ vlanName m ∧ deviceName n ≠ deviceName m := by
          intro m hm
          have hnm : n ≠ m := fun heq => hk (heq ▸ hm)
          exact ⟨⟨fun h => hnm (vlanName_injective h), vlanName_ne_deviceName n m⟩,
            (vlanName_ne_deviceName m n).symm, fun h => hnm (deviceName_injective h)⟩
        rw [find_addVlans_of_ne _ fun m hm => (hne m hm).1,
          find_addVlans_of_ne _ fun m hm => (hne m hm).2, find_uciAddVlanSections,
          find_uciAddVlanSections, if_pos rfl, if_neg (vlanName_ne_deviceName n n).symm, if_pos rfl]
        exact ⟨rfl, rfl⟩
      · have hkn : n ≠ k := fun heq => hk (heq ▸ hn)
        have hvlan : find (vlanName n) (uciAddVlanSections k cfg) = find (vlanName n) cfg := by
          rw [find_uciAddVlanSections, if_neg (fun h => hkn (vlanName_injective h)),
            if_neg (vlanName_ne_deviceName n k)]
        have hdevice : find (deviceName n) (uciAddVlanSections k cfg) =
            find (deviceName n) cfg := by
          rw [find_uciAddVlanSections, if_neg (vlanName_ne_deviceName k n).symm,
            if_neg (fun h => hkn (deviceName_injective h))]
        obtain ⟨hv, hd⟩ := ih hnums (uciAddVlanSections k cfg) hn
        rw [hv, hd, optionsOf_congr hvlan, optionsOf_congr hdevice]
        exact ⟨rfl, rfl⟩

/-- The VLANs that are made are in the range. -/
theorem has_of_created {vlans : VlanRange} {n : Nat} (hn : n ∈ vlans.created) : vlans.Has n := by
  cases vlans with
  | once num =>
      obtain rfl := List.mem_singleton.mp hn
      exact ⟨n, n, rfl, le_refl n, le_refl n⟩
  | range first last =>
      obtain ⟨hfirst, hlast⟩ := List.mem_range'_1.mp hn
      have hle : first ≤ last := by omega
      exact ⟨first, last, if_neg (by omega), hfirst, by omega⟩
  | all => cases hn

/-! ## The ports of a new VLAN -/

/-- The sections differ in their ports only, and the new ports can be read. -/
structure PortsChanged (sec sec' : Section Text Value) : Prop where
  name : sec'.name = sec.name
  type : sec'.type = sec.type
  options : ∀ o, o ≠ "ports".toList → sec'.options o = sec.options o
  ports : sec'.options "ports".toList = none ∨
    ∃ names, sec'.options "ports".toList = some (.list names) ∧ (setPorts names).isSome

theorem PortsChanged.trans {sec sec' sec'' : Section Text Value} (h : PortsChanged sec sec')
    (h' : PortsChanged sec' sec'') : PortsChanged sec sec'' :=
  ⟨h'.name.trans h.name, h'.type.trans h.type,
    fun o ho => (h'.options o ho).trans (h.options o ho), h'.ports⟩

theorem PortsChanged.isVlan {sec sec' : Section Text Value} (h : PortsChanged sec sec') {n : Nat}
    (hvlan : IsVlan sec n) : IsVlan sec' n :=
  ⟨h.type.trans hvlan.1, (h.options _ ports_ne_vlan.symm).trans hvlan.2⟩

/-- The section of a name is there, and its ports are changed. -/
def PortsChangedAt (m : Text) (cfg cfg' : Config) : Prop :=
  ∃ sec sec', find m cfg = some sec ∧ find m cfg' = some sec' ∧ PortsChanged sec sec'

theorem setPorts_namesOf (t : PortTable) : (setPorts (namesOf t)).isSome := by
  have hlisted : Listed (namesOf t) := by
    intro x hx
    obtain ⟨p, -, rfl⟩ := List.mem_map.mp hx
    exact ⟨p.1, p.2, rfl⟩
  rw [setPorts_listed hlisted]
  rfl

theorem find_netUnset (id option : Text) (s : Net) (m : Text) :
    find m (s.unset id option).staged =
      if m = id then (find m s.staged).map (fun sec =>
        { sec with options := Function.update sec.options option none })
      else find m s.staged := by
  rw [Net.unset]
  split
  · exact find_unset option
  · next hnone =>
      by_cases hm : m = id
      · subst hm
        rw [if_pos rfl]
        cases hfind : find m s.staged with
        | none => rfl
        | some sec =>
            rw [Option.not_isSome_iff_eq_none, valueOf, hfind, Option.bind_some] at hnone
            rw [Option.map_some, Function.update_eq_self_iff.mpr hnone.symm]
      · rw [if_neg hm]

/-- What is found after the ports of a VLAN are written. -/
theorem find_setPortsOption (id : Text) (ports : PortTable) (s : Net) : ∃ value,
    (value = none ∨ ∃ names, value = some (Value.list names) ∧ (setPorts names).isSome) ∧
    ∀ m, find m (setPortsOption id ports s).staged =
      if m = id then (find m s.staged).map (fun sec =>
        { sec with options := Function.update sec.options "ports".toList value })
      else find m s.staged := by
  rw [setPortsOption]
  have hread := setPorts_namesOf ports
  cases hnames : namesOf ports with
  | nil => exact ⟨none, .inl rfl, find_netUnset id _ s⟩
  | cons x names =>
      rw [hnames] at hread
      refine ⟨some (.list (x :: names)), .inr ⟨_, rfl, hread⟩, fun m => ?_⟩
      dsimp only
      rw [find_set, find_netUnset]
      by_cases hm : m = id
      · rw [if_pos hm, if_pos hm, if_pos hm, Option.map_map]
        refine congrArg (fun f => Option.map f (find m s.staged)) (funext fun sec => ?_)
        rw [Function.comp_apply, Function.update_idem]
      · rw [if_neg hm, if_neg hm, if_neg hm]

/-- **The ports step** changes the ports of VLANs it has copies of, and nothing else. -/
theorem find_uciSetPorts (vlanArr : List VlanEntry) (busy : List (Nat × PortTable)) (s : Net)
    (m : Text) : find m (uciSetPorts vlanArr busy s).staged = find m s.staged ∨
      (∃ p ∈ busy, ∃ v, entryOf vlanArr p.1 = some v ∧ m = v.id) ∧
        PortsChangedAt m s.staged (uciSetPorts vlanArr busy s).staged := by
  rw [uciSetPorts]
  induction busy generalizing s with
  | nil => exact .inl rfl
  | cons p busy ih =>
      rw [List.foldl_cons]
      cases hentry : entryOf vlanArr p.1 with
      | none =>
          rcases ih s with hsame | ⟨⟨q, hq, hv⟩, hchanged⟩
          · exact .inl hsame
          · exact .inr ⟨⟨q, List.mem_cons_of_mem p hq, hv⟩, hchanged⟩
      | some v =>
          dsimp only
          obtain ⟨value, hvalue, hfind⟩ := find_setPortsOption v.id p.2 s
          have hfirst : find m (setPortsOption v.id p.2 s).staged = find m s.staged ∨
              m = v.id ∧ PortsChangedAt m s.staged (setPortsOption v.id p.2 s).staged := by
            by_cases hm : m = v.id
            · cases hsec : find m s.staged with
              | none => exact .inl (by rw [hfind, if_pos hm, hsec, Option.map_none])
              | some sec =>
                  have hthere := hfind m
                  rw [if_pos hm, hsec, Option.map_some] at hthere
                  refine .inr ⟨hm, sec, _, hsec, hthere, rfl, rfl,
                    fun o ho => Function.update_of_ne ho _ _, ?_⟩
                  dsimp only
                  rw [Function.update_self]
                  exact hvalue
            · exact .inl (by rw [hfind, if_neg hm])
          rcases ih (setPortsOption v.id p.2 s) with hsame | ⟨⟨q, hq, hv⟩, hlater⟩
          · rw [PortsChangedAt, hsame]
            rcases hfirst with hsame' | ⟨hm, hchanged⟩
            · exact .inl hsame'
            · exact .inr ⟨⟨p, List.mem_cons_self, v, hentry, hm⟩, hchanged⟩
          · refine .inr ⟨⟨q, List.mem_cons_of_mem p hq, hv⟩, ?_⟩
            obtain ⟨sec', sec'', hsec', hsec'', hchanged'⟩ := hlater
            rcases hfirst with hsame' | ⟨-, sec, t, hsec, ht, hchanged⟩
            · exact ⟨sec', sec'', hsame' ▸ hsec', hsec'', hchanged'⟩
            · obtain rfl := Option.some.inj (ht.symm.trans hsec')
              exact ⟨sec, sec'', hsec, hsec'', hchanged.trans hchanged'⟩

/-- The copies are those of VLANs of the range. -/
theorem mem_written_of_loop {c : Command} {first last : Nat} {vlanArr : List VlanEntry}
    {p : Nat × PortTable} (hp : p ∈ (c.loop first last vlanArr).1) : p.1 ∈ c.written first last := by
  rw [Command.loop, portLoop_fst] at hp
  obtain ⟨q, hq, rfl⟩ := List.mem_map.mp hp
  obtain ⟨num, hnum, hentry⟩ := List.mem_filterMap.mp hq
  obtain ⟨v, -, rfl⟩ := Option.map_eq_some_iff.mp hentry
  exact hnum

/-! ## An add of new VLANs -/

section Add

variable {c : Command} {s : Net}

theorem created_of_no_check {vlans : VlanRange} (h : vlans.check = none) : vlans.created = [] := by
  cases vlans with
  | once num => cases h
  | range first last =>
      rw [VlanRange.check] at h
      split at h
      · next hlt =>
          rw [VlanRange.created, show last + 1 - first = 0 by omega]
          rfl
      · cases h
  | all => cases h

/-- The sections of the VLANs of the range are those that were made. -/
theorem section_of_created (h : Sound s.staged)
    (hmissing : ∀ n, c.vlans.Has n → ¬ HasVlan s.staged n) {sec : Section Text Value} {n : Nat}
    (hsec : sec ∈ addVlans c.vlans.created s.staged) (hvlan : IsVlan sec n) (hin : c.vlans.Has n) :
    n ∈ c.vlans.created ∧ sec.name = vlanName n := by
  obtain ⟨hsound, hvlans⟩ := h.addVlans (nodup_created c.vlans)
    fun n hn => hmissing n (has_of_created hn)
  have hcreated : n ∈ c.vlans.created := by
    rcases hvlans n ⟨sec, hsec, hvlan⟩ with hcreated | hhas
    · exact hcreated
    · exact absurd hhas (hmissing n hin)
  obtain ⟨hfind, -⟩ := find_addVlans (nodup_created c.vlans) s.staged hcreated
  have heq := hsound.unique n _ hsec _ (mem_of_find hfind) hvlan
    ⟨rfl, vlan_writeOptions n (optionsOf (vlanName n) s.staged)⟩
  exact ⟨hcreated, congrArg Section.name heq⟩

/-- **After an add of new VLANs** the configuration has their sections, with some ports. -/
theorem find_runVlanId (h : Sound s.staged) (hadd : c.cmd = .add)
    (hmissing : ∀ n, c.vlans.Has n → ¬ HasVlan s.staged n) (hread : Readable s) (m : Text) :
    find m (runVlanId c s).staged = find m (addVlans c.vlans.created s.staged) ∨
      (∃ n ∈ c.vlans.created, m = vlanName n) ∧
        PortsChangedAt m (addVlans c.vlans.created s.staged) (runVlanId c s).staged := by
  rw [runVlanId]
  cases hcheck : c.vlans.check with
  | none =>
      rw [created_of_no_check hcheck]
      exact .inl rfl
  | some range =>
      obtain ⟨first, last⟩ := range
      obtain ⟨⟨vlanArr, deleted⟩, harr⟩ := Option.isSome_iff_exists.mp hread
      rw [harr]
      have hnew : ∀ n ∈ c.vlans.created, ¬ HasVlan s.staged n :=
        fun n hn => hmissing n (has_of_created hn)
      have hall : c.vlans.created.filter (fun n => vlanArr.all (fun v => v.num != n)) =
          c.vlans.created := by
        rw [List.filter_eq_self]
        intro n hn
        rw [List.all_eq_true]
        intro v hv
        obtain ⟨sec, hsec, hvlan, -⟩ := (getVlanArr_entries harr).2.1 v hv
        rw [bne_iff_ne]
        rintro rfl
        exact hnew _ hn ⟨sec, hsec, hvlan⟩
      have hcreate : createSections c vlanArr s =
          { s with staged := addVlans c.vlans.created s.staged } := by
        rw [createSections, hadd]
        dsimp only
        rw [addMissingSections_eq, hall]
      dsimp only
      rw [hcreate]
      cases harr' : getVlanArr { s with staged := addVlans c.vlans.created s.staged } with
      | none => exact .inl rfl
      | some r =>
          obtain ⟨vlanArr', deleted'⟩ := r
          dsimp only
          rw [runPortsOn]
          split
          · rcases find_uciSetPorts (vlanArr'.map VlanInfo.toVlanEntry) _ _ m with
              hsame | ⟨⟨p, hp, v, hentry, hm⟩, hchanged⟩
            · exact .inl hsame
            · obtain ⟨w, hw, rfl⟩ := List.mem_map.mp (List.mem_of_find?_eq_some hentry)
              have hnum : w.num = p.1 := by simpa using List.find?_some hentry
              obtain ⟨sec, hsec, hvlan, hname⟩ := (getVlanArr_entries harr').2.1 w hw
              have hin := has_of_written hcheck (mem_written_of_loop hp)
              obtain ⟨hcreated, hvlanName⟩ :=
                section_of_created h hmissing hsec (hnum ▸ hvlan) hin
              exact .inr ⟨⟨p.1, hcreated, hm.trans (hname.symm.trans hvlanName)⟩, hchanged⟩
          · exact .inl rfl

end Add

/-! ## A delete -/

/-- **What a delete leaves under a name**: what was there, unless it is an unmarked VLAN of the
range. -/
theorem find_runDelete {s : Net} (h : Sound s.staged) (vlans : VlanRange) (m : Text) :
    find m (runDelete vlans s).staged = find m s.staged ∨
      find m (runDelete vlans s).staged = none ∧ ∃ sec n, find m s.staged = some sec ∧
        IsVlan sec n ∧ vlans.Has n ∧ ¬ Marked s n := by
  have hnamed := ((keeps_runDelete vlans s).staged h).named
  rw [runDelete] at hnamed ⊢
  cases hcheck : vlans.check with
  | none => exact .inl rfl
  | some range =>
      obtain ⟨first, last⟩ := range
      cases harr : getVlanArr s with
      | none => exact .inl rfl
      | some r =>
          obtain ⟨vlanArr, deleted⟩ := r
          rw [hcheck, harr] at hnamed
          dsimp only at hnamed ⊢
          cases hfind : find m s.staged with
          | none =>
              left
              rw [find_eq_none] at hfind ⊢
              exact fun sec hsec => hfind sec ((mem_vlanDelete_iff _ _ _ _ _).mp hsec).1
          | some sec =>
              have hsec := mem_of_find hfind
              obtain rfl := name_of_find hfind
              by_cases hkept : sec ∈ (vlanDelete vlanArr first last s).staged
              · exact .inl (find_of_mem hnamed hkept)
              · right
                refine ⟨find_eq_none.mpr fun t ht hname => ?_, ?_⟩
                · have hold := ((mem_vlanDelete_iff _ _ _ _ _).mp ht).1
                  exact hkept (eq_of_name h.named hold hsec hname ▸ ht)
                · rw [mem_vlanDelete_iff] at hkept
                  push Not at hkept
                  obtain ⟨v, hv, ⟨hfirst, hlast, hnil⟩, hid⟩ := hkept hsec
                  obtain ⟨-, hfrom, hmarked⟩ := getVlanArr_entries harr
                  obtain ⟨sec', hsec', hvlan, hname⟩ := hfrom v hv
                  obtain rfl := eq_of_name h.named hsec hsec' (hid.trans hname.symm)
                  exact ⟨sec, v.num, rfl, hvlan, ⟨first, last, hcheck, hfirst, hlast⟩,
                    fun hmark => (hmarked v hv).mpr hmark hnil⟩

/-! ## What can be read -/

theorem mapM_isSome {α β : Type} {f : α → Option β} {l : List α} :
    (l.mapM f).isSome ↔ ∀ a ∈ l, (f a).isSome := by
  induction l with
  | nil => simp
  | cons a l ih =>
      rw [List.forall_mem_cons, ← ih, List.mapM_cons]
      cases f a with
      | none => simp
      | some b => cases l.mapM f <;> simp

/-- The number and the ports of a section can be read. -/
def SectionReadable (sec : Section Text Value) : Prop :=
  ((bridgeVlan sec).bind (fun b => setPorts b.ports)).isSome

theorem sectionReadable_of {sec : Section Text Value} {n : Nat}
    (hvlan : sec.options "vlan".toList = some (.num n))
    (hports : sec.options "ports".toList = none ∨
      ∃ names, sec.options "ports".toList = some (.list names) ∧ (setPorts names).isSome) :
    SectionReadable sec := by
  rw [SectionReadable, bridgeVlan, hvlan]
  rcases hports with hnone | ⟨names, hnames, hports⟩
  · rw [hnone]
    rfl
  · rw [hnames]
    exact hports

/-- The configuration can be read when each of its VLANs can, and the interfaces have devices. -/
theorem readable_iff (s : Net) : Readable s ↔
    (∀ sec ∈ s.staged, sec.type = "bridge-vlan".toList → SectionReadable sec) ∧
      (getIfList (dump s.running)).isSome := by
  have hsections : ((bridgeVlans s.staged).bind getBridgeVlanList).isSome ↔
      ∀ sec ∈ s.staged, sec.type = "bridge-vlan".toList → SectionReadable sec := by
    constructor
    · intro hsome sec hsec htype
      obtain ⟨arr, harr⟩ := Option.isSome_iff_exists.mp hsome
      obtain ⟨net, hnet, hlist⟩ := Option.bind_eq_some_iff.mp harr
      obtain ⟨b, hb, hread⟩ := (mem_of_mapM hnet).1 sec
        (List.mem_filter.mpr ⟨hsec, by simpa using htype⟩)
      obtain ⟨v, -, hentry⟩ := (mem_of_mapM hlist).1 b hb
      obtain ⟨ports, hports, -⟩ := Option.map_eq_some_iff.mp hentry
      rw [SectionReadable, hread, Option.bind_some, hports, Option.isSome_some]
    · intro hall
      have hnet : (bridgeVlans s.staged).isSome := by
        rw [bridgeVlans, mapM_isSome]
        intro sec hsec
        obtain ⟨hmem, htype⟩ := List.mem_filter.mp hsec
        have hread := hall sec hmem (by simpa using htype)
        rw [SectionReadable] at hread
        exact Option.isSome_of_isSome_bind hread
      obtain ⟨net, hnet⟩ := Option.isSome_iff_exists.mp hnet
      rw [hnet, Option.bind_some, getBridgeVlanList, mapM_isSome]
      intro b hb
      obtain ⟨sec, hsec, hb⟩ := (mem_of_mapM hnet).2 b hb
      obtain ⟨hmem, htype⟩ := List.mem_filter.mp hsec
      have hread := hall sec hmem (by simpa using htype)
      rw [SectionReadable, hb, Option.bind_some] at hread
      rw [Option.isSome_map]
      exact hread
  rw [← hsections, Readable, getVlanArr]
  cases (bridgeVlans s.staged).bind getBridgeVlanList with
  | none => simp
  | some arr => cases getIfList (dump s.running) <;> simp

/-! ## Adding and deleting -/

/-- **Adding the VLANs of a range and deleting them restores the configuration.** -/
def Restores (c : Command) (s : Net) : Prop :=
  ∀ m, find m (runDelete c.vlans (runVlanId c s)).staged = find m s.staged

/-- The VLAN leaves nothing: its name is free, its device section is already as `uci_addVlan` makes
it, and no interface that is shown has it in its staged device. -/
structure LeavesNothing (s : Net) (n : Nat) : Prop where
  free : find (vlanName n) s.staged = none
  device : ∃ sec, find (deviceName n) s.staged = some sec ∧ sec.type = "device".toList ∧
    ∀ o ∈ deviceOptions n, sec.options o.1 = some o.2
  unmarked : ¬ Marked s n

theorem names_vlanOptions (n : Nat) : ((vlanOptions n).map Prod.fst).Nodup := by
  have hfst : (vlanOptions n).map Prod.fst = ["device".toList, "vlan".toList, "state".toList] := rfl
  rw [hfst]
  decide

theorem names_deviceOptions (n : Nat) : ((deviceOptions n).map Prod.fst).Nodup := by
  have hfst : (deviceOptions n).map Prod.fst = ["name".toList, "type".toList, "ifname".toList,
      "vid".toList, "macaddr".toList] := rfl
  rw [hfst]
  decide

/-- The device section is as before exactly when it was as it is made. -/
theorem device_same_iff {nums : List Nat} (hnums : nums.Nodup) (cfg : Config) {n : Nat}
    (hn : n ∈ nums) : find (deviceName n) (addVlans nums cfg) = find (deviceName n) cfg ↔
      ∃ sec, find (deviceName n) cfg = some sec ∧ sec.type = "device".toList ∧
        ∀ o ∈ deviceOptions n, sec.options o.1 = some o.2 := by
  obtain ⟨-, hfind⟩ := find_addVlans hnums cfg hn
  rw [hfind]
  constructor
  · intro hsame
    exact ⟨_, hsame.symm, rfl, fun o ho => writeOptions_of_mem (names_deviceOptions n) _ ho⟩
  · rintro ⟨sec, hsec, htype, hoptions⟩
    have hname := name_of_find hsec
    rw [optionsOf, hsec, Option.elim_some, writeOptions_eq_self hoptions, ← hname, ← htype]

section Both

variable {c : Command} {s : Net}

/-- The new section of a VLAN, with its ports. -/
theorem find_new (h : Sound s.staged) (hadd : c.cmd = .add)
    (hmissing : ∀ n, c.vlans.Has n → ¬ HasVlan s.staged n) (hread : Readable s) {n : Nat}
    (hn : n ∈ c.vlans.created) : ∃ sec, find (vlanName n) (runVlanId c s).staged = some sec ∧
      IsVlan sec n ∧ sec.options "device".toList = some (.text "switch".toList) ∧
      (find (vlanName n) s.staged = none → SectionReadable sec) := by
  obtain ⟨hfind, -⟩ := find_addVlans (nodup_created c.vlans) s.staged hn
  have hdevice : writeOptions (vlanOptions n) (optionsOf (vlanName n) s.staged) "device".toList =
      some (.text "switch".toList) := by
    have hmem : ("device".toList, Value.text "switch".toList) ∈ vlanOptions n :=
      List.mem_cons_self
    exact writeOptions_of_mem (names_vlanOptions n) _ hmem
  have hnew := vlan_writeOptions n (optionsOf (vlanName n) s.staged)
  rcases find_runVlanId h hadd hmissing hread (vlanName n) with
    hsame | ⟨-, sec, sec', hsec, hsec', hchanged⟩
  · refine ⟨_, hsame.trans hfind, ⟨rfl, hnew⟩, hdevice, fun hfree => ?_⟩
    have hports : writeOptions (vlanOptions n) (optionsOf (vlanName n) s.staged) "ports".toList =
        none := by
      rw [optionsOf, hfree]
      rfl
    exact sectionReadable_of hnew (.inl hports)
  · obtain rfl := Option.some.inj (hfind.symm.trans hsec)
    have hvlan := hchanged.isVlan ⟨rfl, hnew⟩
    have hports : "device".toList ≠ "ports".toList := by decide
    exact ⟨sec', hsec', hvlan, (hchanged.options _ hports).trans hdevice,
      fun _ => sectionReadable_of hvlan.2 hchanged.ports⟩

/-- When the devices were there, the add makes the sections of the VLANs and nothing else. -/
theorem find_others (h : Sound s.staged) (hadd : c.cmd = .add)
    (hmissing : ∀ n, c.vlans.Has n → ¬ HasVlan s.staged n) (hread : Readable s)
    (hdevices : ∀ n ∈ c.vlans.created,
      find (deviceName n) (addVlans c.vlans.created s.staged) = find (deviceName n) s.staged)
    {m : Text} (hm : ∀ n ∈ c.vlans.created, m ≠ vlanName n) :
    find m (runVlanId c s).staged = find m s.staged := by
  have hcreate : find m (addVlans c.vlans.created s.staged) = find m s.staged := by
    by_cases hdev : ∃ n ∈ c.vlans.created, m = deviceName n
    · obtain ⟨n, hn, rfl⟩ := hdev
      exact hdevices n hn
    · push Not at hdev
      exact find_addVlans_of_ne s.staged fun n hn => ⟨hm n hn, hdev n hn⟩
  rcases find_runVlanId h hadd hmissing hread m with hsame | ⟨⟨n, hn, heq⟩, -⟩
  · exact hsame.trans hcreate
  · exact absurd heq (hm n hn)

/-- Then the same VLANs are marked as before. -/
theorem marked_runVlanId_iff (h : Sound s.staged) (hadd : c.cmd = .add)
    (hmissing : ∀ n, c.vlans.Has n → ¬ HasVlan s.staged n) (hread : Readable s)
    (hdevices : ∀ n ∈ c.vlans.created,
      find (deviceName n) (addVlans c.vlans.created s.staged) = find (deviceName n) s.staged)
    (hfree : ∀ n ∈ c.vlans.created, find (vlanName n) s.staged = none) (n : Nat) :
    Marked (runVlanId c s) n ↔ Marked s n := by
  have hrunning := (keeps_runVlanId c s).running
  refine exists_congr fun i => and_congr ?_ ?_
  · rw [Shown, Shown, hrunning]
  · by_cases hi : ∃ k ∈ c.vlans.created, i = vlanName k
    · obtain ⟨k, hk, rfl⟩ := hi
      obtain ⟨sec, hsec, -, hdevice, -⟩ := find_new h hadd hmissing hread hk
      -- the section of a VLAN is on the switch itself
      have hafter : stagedOn (runVlanId c s) (vlanName k) n = false := by
        rw [stagedOn, deviceOf, valueOf, hsec, Option.bind_some, hdevice]
        rfl
      have hbefore : stagedOn s (vlanName k) n = false := by
        rw [stagedOn, deviceOf, valueOf, hfree k hk]
        rfl
      rw [hafter, hbefore]
    · push Not at hi
      rw [stagedOn, stagedOn, deviceOf, deviceOf, valueOf, valueOf,
        find_others h hadd hmissing hread hdevices hi]

/-- What the configuration becomes when the devices were there and the names free can be read. -/
theorem readable_runVlanId (h : Sound s.staged) (hadd : c.cmd = .add)
    (hmissing : ∀ n, c.vlans.Has n → ¬ HasVlan s.staged n) (hread : Readable s)
    (hdevices : ∀ n ∈ c.vlans.created,
      find (deviceName n) (addVlans c.vlans.created s.staged) = find (deviceName n) s.staged)
    (hfree : ∀ n ∈ c.vlans.created, find (vlanName n) s.staged = none) :
    Readable (runVlanId c s) := by
  have hsound := (keeps_runVlanId c s).staged h
  obtain ⟨hsections, hifs⟩ := (readable_iff s).mp hread
  refine (readable_iff _).mpr ⟨fun sec hsec htype => ?_, (keeps_runVlanId c s).running ▸ hifs⟩
  have hfind := find_of_mem hsound.named hsec
  by_cases hname : ∃ n ∈ c.vlans.created, sec.name = vlanName n
  · obtain ⟨n, hn, hname⟩ := hname
    obtain ⟨sec', hsec', -, -, hreadable⟩ := find_new h hadd hmissing hread hn
    rw [hname, hsec', Option.some.injEq] at hfind
    exact hfind ▸ hreadable (hfree n hn)
  · push Not at hname
    rw [find_others h hadd hmissing hread hdevices hname] at hfind
    exact hsections sec (mem_of_find hfind) htype

end Both

/-- **Adding the VLANs of a range, none of which is there, and deleting the range restores the
configuration exactly when each of them leaves nothing.** -/
theorem restores_iff {c : Command} {s : Net} (h : Sound s.staged) (hadd : c.cmd = .add)
    (hmissing : ∀ n, c.vlans.Has n → ¬ HasVlan s.staged n) :
    Restores c s ↔ (Readable s → ∀ n ∈ c.vlans.created, LeavesNothing s n) := by
  by_cases hread : Readable s
  · have hsound := (keeps_runVlanId c s).staged h
    constructor
    · intro hrestores _
      have hnodup := nodup_created c.vlans
      have hfree : ∀ n ∈ c.vlans.created, find (vlanName n) s.staged = none := by
        intro n hn
        obtain ⟨sec, hsec, hvlan, -⟩ := find_new h hadd hmissing hread hn
        rw [← hrestores (vlanName n)]
        rcases find_runDelete hsound c.vlans (vlanName n) with hsame | ⟨hnone, -⟩
        · -- a VLAN that stays was not there before
          rw [hrestores, hsec] at hsame
          exact absurd ⟨sec, mem_of_find hsame, hvlan⟩ (hmissing n (has_of_created hn))
        · exact hnone
      have hdevices : ∀ n ∈ c.vlans.created,
          find (deviceName n) (addVlans c.vlans.created s.staged) =
            find (deviceName n) s.staged := by
        intro n hn
        obtain ⟨-, hfind⟩ := find_addVlans hnodup s.staged hn
        have hafter : find (deviceName n) (runVlanId c s).staged =
            find (deviceName n) (addVlans c.vlans.created s.staged) := by
          rcases find_runVlanId h hadd hmissing hread (deviceName n) with
            hsame | ⟨⟨k, -, heq⟩, -⟩
          · exact hsame
          · exact absurd heq.symm (vlanName_ne_deviceName k n)
        rw [← hrestores (deviceName n), ← hafter]
        rcases find_runDelete hsound c.vlans (deviceName n) with
          hsame | ⟨-, sec, k, hsec, hvlan, -⟩
        · exact hsame.symm
        · -- it is of another type, and not deleted
          rw [hafter, hfind, Option.some.injEq] at hsec
          rw [← hsec] at hvlan
          exact absurd hvlan.1 device_ne_bridge
      intro n hn
      refine ⟨hfree n hn, (device_same_iff hnodup s.staged hn).mp (hdevices n hn), fun hmark => ?_⟩
      obtain ⟨sec, hsec, hvlan, -⟩ := find_new h hadd hmissing hread hn
      rw [← marked_runVlanId_iff h hadd hmissing hread hdevices hfree] at hmark
      rcases find_runDelete hsound c.vlans (vlanName n) with
        hsame | ⟨-, sec', k, hsec', hvlan', -, hunmarked⟩
      · rw [hrestores, hfree n hn, hsec] at hsame
        cases hsame
      · obtain rfl := Option.some.inj (hsec.symm.trans hsec')
        have hnum : n = k := by simpa using hvlan.2.symm.trans hvlan'.2
        exact hunmarked (hnum ▸ hmark)
    · intro hleaves m
      have hleaves := hleaves hread
      have hfree := fun n hn => (hleaves n hn).free
      have hdevices := fun n hn =>
        (device_same_iff (nodup_created c.vlans) s.staged hn).mpr (hleaves n hn).device
      by_cases hm : ∃ n ∈ c.vlans.created, m = vlanName n
      · obtain ⟨n, hn, rfl⟩ := hm
        obtain ⟨sec, hsec, hvlan, -⟩ := find_new h hadd hmissing hread hn
        rw [hfree n hn]
        rcases find_runDelete hsound c.vlans (vlanName n) with hsame | ⟨hnone, -⟩
        · have hread' := readable_runVlanId h hadd hmissing hread hdevices hfree
          obtain ⟨-, hmarked⟩ := (hasVlan_runDelete_iff hsound.named hread' c.vlans n).mp
            ⟨sec, mem_of_find (hsame.trans hsec), hvlan⟩
          have hmark := (marked_runVlanId_iff h hadd hmissing hread hdevices hfree n).mp
            (hmarked (has_of_created hn))
          exact absurd hmark (hleaves n hn).unmarked
        · exact hnone
      · push Not at hm
        have hothers := find_others h hadd hmissing hread hdevices hm
        rcases find_runDelete hsound c.vlans m with hsame | ⟨-, sec, k, hsec, hvlan, hin, -⟩
        · exact hsame.trans hothers
        · exact absurd ⟨sec, mem_of_find (hothers ▸ hsec), hvlan⟩ (hmissing k hin)
  · refine iff_of_true (fun m => ?_) (fun hyes => absurd hyes hread)
    have hsame : runVlanId c s = s := by
      rw [Readable, Option.not_isSome_iff_eq_none] at hread
      rw [runVlanId, hread]
      cases c.vlans.check <;> rfl
    rw [hsame, runDelete_unreadable hread]

/-- VLAN 3, with port 10. -/
def addVlanThree : Command := ⟨.add, .untagged, .once 3, portTen⟩

/-- What is left after VLAN 3 was added and deleted: its device. -/
def afterVlanThree : Net := runDelete (.once 3) (runVlanId addVlanThree lanNet)

theorem afterVlanThree_sound : Sound afterVlanThree.staged :=
  (keeps_runDelete (.once 3) _).staged ((keeps_runVlanId addVlanThree lanNet).staged
    lanNet_sound.staged)

theorem missing_of_all {cfg : Config} (h : cfg.all (fun sec =>
      sec.type != "bridge-vlan".toList || sec.options "vlan".toList != some (.num 3)) = true)
    (n : Nat) (hn : addVlanThree.vlans.Has n) : ¬ HasVlan cfg n := by
  obtain ⟨first, last, hcheck, hfirst, hlast⟩ := hn
  obtain ⟨rfl, rfl⟩ := Prod.mk.inj (Option.some.inj hcheck)
  obtain rfl : n = 3 := by omega
  rintro ⟨sec, hsec, htype, hvlan⟩
  have hne := List.all_eq_true.mp h sec hsec
  rw [Bool.or_eq_true, bne_iff_ne, bne_iff_ne] at hne
  exact hne.elim (fun hne => hne htype) (fun hne => hne hvlan)

/-- A second round leaves what the first has left. -/
theorem restores_iff_afterVlanThree : Restores addVlanThree afterVlanThree := by
  have hmissing : afterVlanThree.staged.all (fun sec => sec.type != "bridge-vlan".toList ||
      sec.options "vlan".toList != some (.num 3)) = true := by decide +kernel
  refine (restores_iff afterVlanThree_sound rfl (missing_of_all hmissing)).mpr fun _ n hn => ?_
  obtain rfl := List.mem_singleton.mp hn
  have hfree : (find (vlanName 3) afterVlanThree.staged).isNone = true := by decide +kernel
  have hdevice : (find (deviceName 3) afterVlanThree.staged).any (fun sec =>
      sec.type == "device".toList &&
        (deviceOptions 3).all (fun o => sec.options o.1 == some o.2)) = true := by decide +kernel
  have hifs : getIfList (dump afterVlanThree.running) = some ["lan".toList] := by decide +kernel
  have hon : stagedOn afterVlanThree "lan".toList 3 = false := by decide +kernel
  refine ⟨Option.isNone_iff_eq_none.mp hfree, ?_, ?_⟩
  · obtain ⟨sec, hsec, hsame⟩ := (Option.any_eq_true _ _).mp hdevice
    rw [Bool.and_eq_true, beq_iff_eq, List.all_eq_true] at hsame
    exact ⟨sec, hsec, hsame.1, fun o ho => beq_iff_eq.mp (hsame.2 o ho)⟩
  · rintro ⟨i, hshown, honThree⟩
    have hi := (mem_getIfList hifs i).mpr hshown
    rw [List.mem_singleton] at hi
    rw [hi, hon] at honThree
    cases honThree

/-- **The device of VLAN 3 stays when VLAN 3 is added and deleted.** -/
theorem addVlanThree_not_restored :
    ¬ ∀ (c : Command) (s : Net), Sound s.staged → c.cmd = .add →
      (∀ n, c.vlans.Has n → ¬ HasVlan s.staged n) → Restores c s := by
  intro h
  have hmissing : lanConfig.all (fun sec => sec.type != "bridge-vlan".toList ||
      sec.options "vlan".toList != some (.num 3)) = true := by decide +kernel
  have hrestores := h addVlanThree lanNet lanNet_sound.staged rfl (missing_of_all hmissing)
    (deviceName 3)
  have hafter : (find (deviceName 3) (runDelete addVlanThree.vlans
      (runVlanId addVlanThree lanNet)).staged).isSome = true := by decide +kernel
  have hbefore : (find (deviceName 3) lanNet.staged).isSome = false := by decide +kernel
  rw [hrestores, hbefore] at hafter
  cases hafter

end Vlan
