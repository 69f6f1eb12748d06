import TfPack.Lib.Machine
import TfPack.Vlan.Ports

set_option autoImplicit false

/-! # Untagged ports stay in one VLAN

A port that is untagged in a VLAN should be in no other. Each command that adds a port checks that
on the decoded ports, where a tagged port 10 is a port 0. So an untagged port 10 can be added to a
VLAN while it is tagged in another; no other step breaks the separation, for any VLANs and ports
(`separated_iff`).
-/

namespace Vlan

open StepMachine

/-! ## Configurations -/

/-- The port is in no other VLAN than the one in which it is untagged. -/
def SeparatedAt (net : Network) (n : Nat) : Prop :=
  ∀ s ∈ net, portStr n .untagged ∈ s.ports →
    ∀ s' ∈ net, ∀ st, portStr n st ∈ s'.ports → s'.vlan = s.vlan

/-- **No port of the device that is untagged in a VLAN is in another one**, untagged or tagged. -/
def Separated (net : Network) : Prop := ∀ n, 1 ≤ n → n ≤ 10 → SeparatedAt net n

/-- A configuration has one section for each VLAN; `vlanN` is the name of VLAN `N` only; and each
section names ports of the device, each of them once. -/
structure WellFormed (net : Network) : Prop where
  names : (net.map BridgeVlan.name).Nodup
  vlans : (net.map BridgeVlan.vlan).Nodup
  named : ∀ s ∈ net, ∀ num, s.name = vlanName num → s.vlan = num
  plain : ∀ s ∈ net, Plain s.ports

/-- The same for any condition on the ports of a section. -/
structure Sectioned (P : List Text → Prop) (net : Network) : Prop where
  names : (net.map BridgeVlan.name).Nodup
  vlans : (net.map BridgeVlan.vlan).Nodup
  named : ∀ s ∈ net, ∀ num, s.name = vlanName num → s.vlan = num
  ports : ∀ s ∈ net, P s.ports

theorem WellFormed.sectioned {net : Network} (h : WellFormed net) : Sectioned Plain net :=
  ⟨h.names, h.vlans, h.named, h.plain⟩

theorem Sectioned.wellFormed {net : Network} (h : Sectioned Plain net) : WellFormed net :=
  ⟨h.names, h.vlans, h.named, h.ports⟩

section Sections

variable {P : List Text → Prop} {net : Network}

/-- The section is the only one of its VLAN. -/
theorem Sectioned.eq_of_vlan (h : Sectioned P net) {s s' : BridgeVlan}
    (hs : s ∈ net) (hs' : s' ∈ net) (heq : s.vlan = s'.vlan) : s = s' :=
  List.inj_on_of_nodup_map h.vlans hs hs' heq

theorem Sectioned.eq_of_name (h : Sectioned P net) {s s' : BridgeVlan}
    (hs : s ∈ net) (hs' : s' ∈ net) (heq : s.name = s'.name) : s = s' :=
  List.inj_on_of_nodup_map h.names hs hs' heq

end Sections

/-- `vlanArr` of a configuration. -/
def vlanArrOf (net : Network) : List VlanEntry :=
  net.map (fun s => ⟨s.name, s.vlan, tableOf s.ports⟩)

theorem getBridgeVlanList_eq {net : Network}
    (h : ∀ s ∈ net, setPorts s.ports = some (tableOf s.ports)) :
    getBridgeVlanList net = some (vlanArrOf net) := by
  induction net with
  | nil => rfl
  | cons s net ih =>
      rw [List.forall_mem_cons] at h
      have hrest := ih h.2
      rw [getBridgeVlanList] at hrest ⊢
      rw [List.mapM_cons, h.1, hrest]
      rfl

/-- The entry of a VLAN is that of its section. -/
theorem entryOf_vlanArrOf {P : List Text → Prop} {net : Network} (h : Sectioned P net)
    {s : BridgeVlan} (hs : s ∈ net) :
    entryOf (vlanArrOf net) s.vlan = some ⟨s.name, s.vlan, tableOf s.ports⟩ := by
  rw [entryOf, vlanArrOf, List.find?_map]
  cases hfind : net.find? ((fun v : VlanEntry => v.num == s.vlan) ∘
      fun s => ⟨s.name, s.vlan, tableOf s.ports⟩) with
  | none =>
      rw [List.find?_eq_none] at hfind
      exact absurd (hfind s hs) (by simp)
  | some s' =>
      have hvlan : s'.vlan = s.vlan := by simpa using List.find?_some hfind
      rw [h.eq_of_vlan (List.mem_of_find?_eq_some hfind) hs hvlan]
      rfl

theorem entryOf_eq_none_iff {net : Network} {num : Nat} :
    entryOf (vlanArrOf net) num = none ↔ ∀ s ∈ net, s.vlan ≠ num := by
  simp [entryOf, vlanArrOf]

/-! ## What is written -/

/-- A section of some VLANs with other ports. -/
def rewriteSection (nums : List Nat) (f : PortTable → PortTable) (s : BridgeVlan) : BridgeVlan :=
  if s.vlan ∈ nums then { s with ports := namesOf (f (tableOf s.ports)) } else s

/-- The sections of some VLANs with other ports. -/
def rewrite (nums : List Nat) (f : PortTable → PortTable) (net : Network) : Network :=
  net.map (rewriteSection nums f)

/-- The copy of a VLAN is written to its section. -/
theorem setSectionPorts_map {P : List Text → Prop} {net : Network} (h : Sectioned P net)
    {g : BridgeVlan → BridgeVlan}
    (hg : ∀ s ∈ net, (g s).name = s.name) {s₀ : BridgeVlan} (hs₀ : s₀ ∈ net) (t : PortTable) :
    setSectionPorts s₀.name t (net.map g) =
      net.map (fun s => if s.vlan = s₀.vlan then { g s with ports := namesOf t } else g s) := by
  rw [setSectionPorts, List.map_map]
  apply List.map_congr_left
  intro s hs
  have hiff : (g s).name = s₀.name ↔ s.vlan = s₀.vlan := by
    rw [hg s hs]
    constructor
    · exact fun heq => congrArg BridgeVlan.vlan (h.eq_of_name hs hs₀ heq)
    · exact fun heq => congrArg BridgeVlan.name (h.eq_of_vlan hs hs₀ heq)
  by_cases hvlan : s.vlan = s₀.vlan
  · simp [hiff, hvlan, namesOf]
  · simp [hiff, hvlan]

/-- The copies of some VLANs are written to the sections of these VLANs. -/
theorem uciSetVlanParam_eq {P : List Text → Prop} {net : Network} (h : Sectioned P net)
    (f : PortTable → PortTable)
    {nums : List Nat} (hnums : nums.Nodup) :
    uciSetVlanParam (vlanArrOf net)
        ((saveVlans (vlanArrOf net) nums).map (fun p => (p.1, f p.2))) net =
      rewrite nums f net := by
  -- the copies are written one by one; `g` is what has been written so far
  have hfold : ∀ g : BridgeVlan → BridgeVlan, (∀ s ∈ net, (g s).name = s.name) →
      uciSetVlanParam (vlanArrOf net)
          ((saveVlans (vlanArrOf net) nums).map (fun p => (p.1, f p.2))) (net.map g) =
        net.map (fun s => if s.vlan ∈ nums then
          { g s with ports := namesOf (f (tableOf s.ports)) } else g s) := by
    induction nums with
    | nil =>
        intro g _
        simp [saveVlans, uciSetVlanParam]
    | cons k nums ih =>
        rw [List.nodup_cons] at hnums
        intro g hg
        by_cases hk : ∃ s ∈ net, s.vlan = k
        · obtain ⟨s₀, hs₀, rfl⟩ := hk
          have hentry := entryOf_vlanArrOf h hs₀
          have hwrite := setSectionPorts_map h hg hs₀ (f (tableOf s₀.ports))
          have hsave : saveVlans (vlanArrOf net) (s₀.vlan :: nums) =
              (s₀.vlan, tableOf s₀.ports) :: saveVlans (vlanArrOf net) nums := by
            rw [saveVlans, List.filterMap_cons, hentry]
            rfl
          have hrest := ih hnums.2 (fun s => if s.vlan = s₀.vlan then
            { g s with ports := namesOf (f (tableOf s₀.ports)) } else g s) (by
              intro s hs
              split
              · exact hg s hs
              · exact hg s hs)
          rw [hsave, List.map_cons, uciSetVlanParam, List.foldl_cons, hentry]
          show uciSetVlanParam _ _ (setSectionPorts s₀.name _ _) = _
          rw [hwrite, hrest]
          apply List.map_congr_left
          intro s hs
          by_cases hvlan : s.vlan = s₀.vlan
          · obtain rfl := h.eq_of_vlan hs hs₀ hvlan
            simp
          · simp [hvlan]
        · have hnone : entryOf (vlanArrOf net) k = none :=
            entryOf_eq_none_iff.mpr (fun s hs heq => hk ⟨s, hs, heq⟩)
          have hsave : saveVlans (vlanArrOf net) (k :: nums) = saveVlans (vlanArrOf net) nums := by
            rw [saveVlans, List.filterMap_cons, hnone]
            rfl
          rw [hsave, ih hnums.2 g hg]
          apply List.map_congr_left
          intro s hs
          have hvlan : s.vlan ≠ k := fun heq => hk ⟨s, hs, heq⟩
          simp [hvlan]
  have hid := hfold id (fun _ _ => rfl)
  rw [List.map_id] at hid
  exact hid

/-! ## What is decoded of the ports 1 to 10 -/

/-- What is decoded is there. -/
theorem mem_of_lookup {ports : List Text} (h : Plain ports) {n : Nat} {st : PortState}
    (hn : 1 ≤ n) (hlookup : (tableOf ports).lookup n = some st) : portStr n st ∈ ports := by
  obtain ⟨m, hmem, hnum⟩ := (lookup_tableOf h n st).mp hlookup
  have hle : m ≤ 10 := (h.isPort hmem).1
  have heq : m = n := by
    cases st with
    | untagged => exact hnum
    | tagged =>
        have hmod : m % 10 = n := hnum
        omega
  exact heq ▸ hmem

/-- What is there is decoded, but for the tagged port 10. -/
theorem lookup_of_mem {ports : List Text} (h : Plain ports) {n : Nat} {st : PortState}
    (hn : n ≤ 10) (hten : ¬(n = 10 ∧ st = .tagged)) (hmem : portStr n st ∈ ports) :
    (tableOf ports).lookup n = some st := by
  apply (lookup_tableOf h n st).mpr
  refine ⟨n, hmem, ?_⟩
  cases st with
  | untagged => rfl
  | tagged =>
      have hne : n ≠ 10 := fun heq => hten ⟨heq, rfl⟩
      show n % 10 = n
      omega

theorem lookup_ten {ports : List Text} (h : Plain ports) :
    (tableOf ports).lookup 10 ≠ some .tagged := by
  intro hlookup
  obtain ⟨m, -, hnum⟩ := (lookup_tableOf h 10 .tagged).mp hlookup
  have hmod : m % 10 = 10 := hnum
  omega

/-! ## What a rewrite keeps -/

section Rewrite

variable {net : Network} {nums : List Nat} {free : Nat → Bool} {change : Change}
  {ports : List Nat}

theorem rewriteSection_name (nums : List Nat) (f : PortTable → PortTable) (s : BridgeVlan) :
    (rewriteSection nums f s).name = s.name ∧ (rewriteSection nums f s).vlan = s.vlan := by
  unfold rewriteSection
  split <;> exact ⟨rfl, rfl⟩

theorem mem_rewriteSection (hports : ports.Nodup) (s : BridgeVlan) (n : Nat) (st : PortState) :
    portStr n st ∈ (rewriteSection nums (changePorts free change ports) s).ports ↔
      if s.vlan ∈ nums then
        (if n ∈ ports ∧ free n = true then
          (change ((tableOf s.ports).lookup n)).getD ((tableOf s.ports).lookup n)
        else (tableOf s.ports).lookup n) = some st
      else portStr n st ∈ s.ports := by
  unfold rewriteSection
  split
  · rw [mem_namesOf, lookup_changePorts hports]
  · rfl

/-- A port that is not changed is not added anywhere. -/
theorem mem_of_rewriteSection (h : ∀ s ∈ net, Plain s.ports) (hports : ports.Nodup)
    {s : BridgeVlan} (hs : s ∈ net) {n : Nat} {st : PortState} (hn : 1 ≤ n)
    (hfree : ¬(n ∈ ports ∧ free n = true))
    (hmem : portStr n st ∈ (rewriteSection nums (changePorts free change ports) s).ports) :
    portStr n st ∈ s.ports := by
  rw [mem_rewriteSection hports, if_neg hfree] at hmem
  split at hmem
  · exact mem_of_lookup (h s hs) hn hmem
  · exact hmem

/-- **A rewrite gives a well-formed configuration.** -/
theorem WellFormed.rewrite (h : WellFormed net) (hports : ports.Nodup)
    (hrange : ∀ n ∈ ports, 1 ≤ n ∧ n ≤ 10) :
    WellFormed (rewrite nums (changePorts free change ports) net) := by
  unfold Vlan.rewrite
  refine ⟨?_, ?_, ?_, ?_⟩
  · rw [List.map_map]
    have hnames := h.names
    rwa [← List.map_congr_left (fun s _ => (rewriteSection_name nums
      (changePorts free change ports) s).1)] at hnames
  · rw [List.map_map]
    have hvlans := h.vlans
    rwa [← List.map_congr_left (fun s _ => (rewriteSection_name nums
      (changePorts free change ports) s).2)] at hvlans
  · intro s' hs' num hname
    obtain ⟨s, hs, rfl⟩ := List.mem_map.mp hs'
    rw [(rewriteSection_name _ _ s).1] at hname
    rw [(rewriteSection_name _ _ s).2]
    exact h.named s hs num hname
  · intro s' hs'
    obtain ⟨s, hs, rfl⟩ := List.mem_map.mp hs'
    have hplain := h.plain s hs
    unfold rewriteSection
    split
    · apply plain_namesOf
      intro n st hlookup
      rw [lookup_changePorts hports] at hlookup
      by_cases hn : n ∈ ports
      · exact ⟨(hrange n hn).2, fun _ => (hrange n hn).1⟩
      · rw [if_neg (fun hmem => hn hmem.1)] at hlookup
        obtain ⟨m, hmem, hnum⟩ := (lookup_tableOf hplain n st).mp hlookup
        obtain ⟨hle, hpos⟩ := hplain.isPort hmem
        cases st with
        | untagged => exact hnum ▸ ⟨hle, hpos⟩
        | tagged =>
            have hmod : m % 10 = n := hnum
            exact ⟨show n ≤ 10 by omega, fun heq => by cases heq⟩
    · exact hplain

/-- Only the ports that are changed matter. -/
theorem separatedAt_rewrite (h : WellFormed net) (hports : ports.Nodup) {n : Nat} (hn : 1 ≤ n)
    (hsep : SeparatedAt net n)
    (hfree : n ∈ ports → free n = true →
      SeparatedAt (rewrite nums (changePorts free change ports) net) n) :
    SeparatedAt (rewrite nums (changePorts free change ports) net) n := by
  by_cases hchanged : n ∈ ports ∧ free n = true
  · exact hfree hchanged.1 hchanged.2
  · intro t ht huntagged t' ht' st hmem
    obtain ⟨s, hs, rfl⟩ := List.mem_map.mp ht
    obtain ⟨s', hs', rfl⟩ := List.mem_map.mp ht'
    rw [(rewriteSection_name _ _ s).2, (rewriteSection_name _ _ s').2]
    exact hsep s hs (mem_of_rewriteSection h.plain hports hs hn hchanged huntagged) s' hs' st
      (mem_of_rewriteSection h.plain hports hs' hn hchanged hmem)

/-- The copies are written back, or nothing changes. -/
theorem writeChanges_eq {P : List Text → Prop} (h : Sectioned P net) (hnums : nums.Nodup) :
    writeChanges (vlanArrOf net)
        (portLoop free change (saveVlans (vlanArrOf net) nums) ports) net =
      if 0 < (portLoop free change (saveVlans (vlanArrOf net) nums) ports).2 then
        rewrite nums (changePorts free change ports) net
      else net := by
  rw [writeChanges, portLoop_fst, uciSetVlanParam_eq h _ hnums]

/-- A command gives a well-formed configuration. -/
theorem writeChanges_wellFormed (h : WellFormed net) (hnums : nums.Nodup) (hports : ports.Nodup)
    (hrange : ∀ n ∈ ports, 1 ≤ n ∧ n ≤ 10) :
    WellFormed (writeChanges (vlanArrOf net)
      (portLoop free change (saveVlans (vlanArrOf net) nums) ports) net) := by
  rw [writeChanges_eq h.sectioned hnums]
  split
  · exact h.rewrite hports hrange
  · exact h

/-- A command keeps the separation if it does for the ports it changes. -/
theorem writeChanges_separated (h : WellFormed net) (hsep : Separated net) (hnums : nums.Nodup)
    (hports : ports.Nodup)
    (hfree : ∀ n ∈ ports, free n = true →
      SeparatedAt (rewrite nums (changePorts free change ports) net) n) :
    Separated (writeChanges (vlanArrOf net)
      (portLoop free change (saveVlans (vlanArrOf net) nums) ports) net) := by
  rw [writeChanges_eq h.sectioned hnums]
  split
  · exact fun n hn hle => separatedAt_rewrite h hports hn (hsep n hn hle) (fun hmem => hfree n hmem)
  · exact hsep

end Rewrite

/-! ## The commands -/

section Commands

variable {net : Network}

theorem nodup_ports (r : PortRange) : r.ports.Nodup := List.nodup_range'

theorem mem_ports {r : PortRange} {n : Nat} (h : n ∈ r.ports) : 1 ≤ n ∧ n ≤ 10 := by
  have hone := r.one_le
  have hfirst := r.first_le
  have hten := r.le_ten
  rw [PortRange.ports, List.mem_range'_1] at h
  omega

/-- An untagged port is decoded. -/
theorem lookup_untagged {ports : List Text} (h : Plain ports) {n : Nat} (hn : n ≤ 10)
    (hmem : portStr n .untagged ∈ ports) : (tableOf ports).lookup n = some .untagged :=
  lookup_of_mem h hn (fun hten => by cases hten.2) hmem

theorem all_vlanArrOf (p : VlanEntry → Bool) :
    (vlanArrOf net).all p = true ↔
      ∀ s ∈ net, p ⟨s.name, s.vlan, tableOf s.ports⟩ = true := by
  simp [vlanArrOf]

theorem addTagged_wellFormed (h : WellFormed net) (first last : Nat) (r : PortRange) (cmd : Cmd) :
    WellFormed (addTagged (vlanArrOf net) first last r cmd net) :=
  writeChanges_wellFormed h List.nodup_range' (nodup_ports r) (fun _ => mem_ports)

theorem addNotMemberPorts_wellFormed (h : WellFormed net) (first last : Nat) (r : PortRange) :
    WellFormed (addNotMemberPorts (vlanArrOf net) first last r net) :=
  writeChanges_wellFormed h List.nodup_range' (nodup_ports r) (fun _ => mem_ports)

theorem addUntagged_wellFormed (h : WellFormed net) (num : Nat) (r : PortRange) (cmd : Cmd) :
    WellFormed (addUntagged (vlanArrOf net) num r cmd net) :=
  writeChanges_wellFormed h (List.nodup_singleton num) (nodup_ports r) (fun _ => mem_ports)

/-- `add_tagged` keeps the separation: a port that is untagged anywhere is not free. -/
theorem addTagged_kept (h : WellFormed net) (hsep : Separated net) (first last : Nat)
    (r : PortRange) : Separated (addTagged (vlanArrOf net) first last r .add net) := by
  apply writeChanges_separated h hsep List.nodup_range' (nodup_ports r)
  intro n hn hfree t ht huntagged
  obtain ⟨-, hten⟩ := mem_ports hn
  rw [all_vlanArrOf] at hfree
  obtain ⟨s, hs, rfl⟩ := List.mem_map.mp ht
  have hnot : (tableOf s.ports).lookup n ≠ some .untagged := by simpa using hfree s hs
  rw [mem_rewriteSection (nodup_ports r)] at huntagged
  split at huntagged
  · rw [if_pos ⟨hn, (all_vlanArrOf _).mpr hfree⟩] at huntagged
    cases hlookup : (tableOf s.ports).lookup n with
    | none =>
        rw [hlookup] at huntagged
        cases huntagged
    | some st =>
        rw [hlookup] at huntagged hnot
        exact absurd huntagged hnot
  · exact absurd (lookup_untagged (h.plain s hs) hten huntagged) hnot

/-- `add_notMemberPorts` keeps the separation. -/
theorem addNotMemberPorts_kept (h : WellFormed net) (hsep : Separated net) (first last : Nat)
    (r : PortRange) : Separated (addNotMemberPorts (vlanArrOf net) first last r net) := by
  apply writeChanges_separated h hsep List.nodup_range' (nodup_ports r)
  intro n hn _ t ht huntagged t' ht' st hmem
  obtain ⟨hone, hten⟩ := mem_ports hn
  have hremove : ∀ o : Option PortState, (removePort o).getD o = none := by
    rintro (_ | _) <;> rfl
  have hkept : ∀ s ∈ net, ∀ st,
      portStr n st ∈ (rewriteSection (List.range' first (last + 1 - first))
        (changePorts (fun _ => true) removePort r.ports) s).ports → portStr n st ∈ s.ports := by
    intro s hs st hmem
    rw [mem_rewriteSection (nodup_ports r), if_pos (c := n ∈ r.ports ∧ _) ⟨hn, rfl⟩, hremove]
      at hmem
    split at hmem
    · cases hmem
    · exact hmem
  obtain ⟨s, hs, rfl⟩ := List.mem_map.mp ht
  obtain ⟨s', hs', rfl⟩ := List.mem_map.mp ht'
  rw [(rewriteSection_name _ _ s).2, (rewriteSection_name _ _ s').2]
  exact hsep n hone hten s hs (hkept s hs _ huntagged) s' hs' st (hkept s' hs' st hmem)

/-- The port 10 is tagged in another VLAN, where the commands do not see it. -/
def TenTaggedElsewhere (net : Network) (num : Nat) : Prop :=
  ∃ s ∈ net, s.vlan ≠ num ∧ portStr 10 .tagged ∈ s.ports

/-- What is there and not decoded is the tagged port 10. -/
theorem ten_of_not_decoded {ports : List Text} (h : Plain ports) {n : Nat} (hn : n ≤ 10)
    {st : PortState} (hmem : portStr n st ∈ ports) (hnone : (tableOf ports).lookup n = none) :
    n = 10 ∧ st = .tagged := by
  by_contra hnot
  rw [lookup_of_mem h hn hnot hmem] at hnone
  cases hnone

/-- `add_untagged` with `edit` keeps the separation. -/
theorem editUntagged_kept (h : WellFormed net) (hsep : Separated net) (num : Nat)
    (r : PortRange) : Separated (addUntagged (vlanArrOf net) num r .edit net) := by
  apply writeChanges_separated h hsep (List.nodup_singleton num) (nodup_ports r)
  intro n hn hfree t ht huntagged t' ht' st hmem
  obtain ⟨hone, hten⟩ := mem_ports hn
  have hfree' := (all_vlanArrOf _).mp hfree
  obtain ⟨s, hs, rfl⟩ := List.mem_map.mp ht
  obtain ⟨s', hs', rfl⟩ := List.mem_map.mp ht'
  rw [(rewriteSection_name _ _ s).2, (rewriteSection_name _ _ s').2]
  by_contra hne
  -- what is untagged now was decoded before, and so is in this VLAN
  have hdecoded : ∃ x, (tableOf s.ports).lookup n = some x := by
    rw [mem_rewriteSection (nodup_ports r)] at huntagged
    split at huntagged
    · rw [if_pos ⟨hn, hfree⟩] at huntagged
      cases hlookup : (tableOf s.ports).lookup n with
      | none =>
          rw [hlookup] at huntagged
          cases huntagged
      | some x => exact ⟨x, rfl⟩
    · exact ⟨_, lookup_untagged (h.plain s hs) hten huntagged⟩
  obtain ⟨x, hx⟩ := hdecoded
  have hvlan : s.vlan = num := by simpa [hx] using hfree' s hs
  have hnone : (tableOf s'.ports).lookup n = none := by
    have hfree'' := hfree' s' hs'
    have hother : s'.vlan ≠ num := fun heq => hne (heq.trans hvlan.symm)
    simpa [hother] using hfree''
  rw [mem_rewriteSection (nodup_ports r), if_neg (by simpa using fun heq => hne (heq.trans
    hvlan.symm))] at hmem
  obtain ⟨rfl, -⟩ := ten_of_not_decoded (h.plain s' hs') hten hmem hnone
  cases x with
  | tagged => exact lookup_ten (h.plain s hs) hx
  | untagged =>
      exact hne (hsep 10 hone hten s hs (mem_of_lookup (h.plain s hs) hone hx) s' hs' st hmem)

/-- `add_untagged` with `add` keeps the separation unless it adds a port 10 that is tagged
elsewhere. -/
theorem addUntagged_kept (h : WellFormed net) (hsep : Separated net) (num : Nat) (r : PortRange)
    (hten : ¬(10 ∈ r.ports ∧ TenTaggedElsewhere net num)) :
    Separated (addUntagged (vlanArrOf net) num r .add net) := by
  apply writeChanges_separated h hsep (List.nodup_singleton num) (nodup_ports r)
  intro n hn hfree t ht huntagged t' ht' st hmem
  obtain ⟨-, hle⟩ := mem_ports hn
  have hfree' := (all_vlanArrOf _).mp hfree
  have hnone : ∀ s ∈ net, (tableOf s.ports).lookup n = none := fun s hs => by
    simpa using hfree' s hs
  obtain ⟨s, hs, rfl⟩ := List.mem_map.mp ht
  obtain ⟨s', hs', rfl⟩ := List.mem_map.mp ht'
  rw [(rewriteSection_name _ _ s).2, (rewriteSection_name _ _ s').2]
  have hvlan : s.vlan = num := by
    by_contra hne
    rw [mem_rewriteSection (nodup_ports r), if_neg (by simpa using hne)] at huntagged
    have hlookup := lookup_untagged (h.plain s hs) hle huntagged
    rw [hnone s hs] at hlookup
    cases hlookup
  by_contra hne
  have hother : s'.vlan ≠ num := fun heq => hne (heq.trans hvlan.symm)
  rw [mem_rewriteSection (nodup_ports r), if_neg (by simpa using hother)] at hmem
  obtain ⟨rfl, rfl⟩ := ten_of_not_decoded (h.plain s' hs') hle hmem (hnone s' hs')
  exact hten ⟨hn, s', hs', hother, hmem⟩

/-- **A port 10 that is tagged elsewhere is added untagged.** -/
theorem addUntagged_breaks (h : WellFormed net) (hsep : Separated net) {num : Nat}
    {r : PortRange} (hten : 10 ∈ r.ports) {s : BridgeVlan} (hs : s ∈ net) (hvlan : s.vlan = num)
    (helse : TenTaggedElsewhere net num) :
    ¬ Separated (addUntagged (vlanArrOf net) num r .add net) := by
  obtain ⟨s', hs', hother, htagged⟩ := helse
  -- nothing with the number 10 is decoded
  have hnone : ∀ t ∈ net, (tableOf t.ports).lookup 10 = none := by
    intro t ht
    cases hlookup : (tableOf t.ports).lookup 10 with
    | none => rfl
    | some x =>
        cases x with
        | tagged => exact absurd hlookup (lookup_ten (h.plain t ht))
        | untagged =>
            have hmem := mem_of_lookup (h.plain t ht) (by omega) hlookup
            have hsame := hsep 10 (by omega) (by omega) t ht hmem s' hs' _ htagged
            obtain rfl := h.sectioned.eq_of_vlan hs' ht hsame
            exact absurd ((h.plain s' hs').state_eq htagged hmem) (by decide)
  let free : Nat → Bool := fun i => (vlanArrOf net).all (fun v =>
    (v.ports.lookup i).isNone || false)
  have hfree : free 10 = true := by
    show (vlanArrOf net).all _ = true
    rw [all_vlanArrOf]
    intro t ht
    simp [hnone t ht]
  have hsave : saveVlans (vlanArrOf net) [num] = [(num, tableOf s.ports)] := by
    rw [saveVlans, List.filterMap_cons, ← hvlan, entryOf_vlanArrOf h.sectioned hs]
    rfl
  have hcount := portLoop_snd_pos free (addPort .untagged) (saveVlans (vlanArrOf net) [num])
    (nodup_ports r) hten hfree (p := (num, tableOf s.ports)) (by simp [hsave])
    (by rw [hnone s hs]; rfl)
  have hnet : addUntagged (vlanArrOf net) num r .add net =
      rewrite [num] (changePorts free (addPort .untagged) r.ports) net := by
    show writeChanges _ (portLoop free (addPort .untagged) _ _) net = _
    rw [writeChanges_eq h.sectioned (List.nodup_singleton num), if_pos hcount]
  rw [hnet]
  intro hafter
  have huntagged : portStr 10 .untagged ∈
      (rewriteSection [num] (changePorts free (addPort .untagged) r.ports) s).ports := by
    rw [mem_rewriteSection (nodup_ports r), if_pos (by simp [hvlan]), if_pos ⟨hten, hfree⟩,
      hnone s hs]
    rfl
  have hstays : portStr 10 .tagged ∈
      (rewriteSection [num] (changePorts free (addPort .untagged) r.ports) s').ports := by
    rwa [mem_rewriteSection (nodup_ports r), if_neg (by simpa using hother)]
  have hsame := hafter 10 (by omega) (by omega) _ (List.mem_map_of_mem hs) huntagged _
    (List.mem_map_of_mem hs') _ hstays
  rw [(rewriteSection_name _ _ s).2, (rewriteSection_name _ _ s').2, hvlan] at hsame
  exact hother hsame

/-- Nothing is added to a VLAN that is not there. -/
theorem addUntagged_missing (h : WellFormed net) {num : Nat} (hnone : ∀ s ∈ net, s.vlan ≠ num)
    (r : PortRange) : addUntagged (vlanArrOf net) num r .add net = net := by
  have hrewrite : ∀ f, rewrite [num] f net = net := by
    intro f
    refine (List.map_congr_left (fun s hs => ?_)).trans (List.map_id net)
    exact if_neg (by simpa using hnone s hs)
  have hwrite := @writeChanges_eq net [num] (fun i => (vlanArrOf net).all (fun v =>
    (v.ports.lookup i).isNone || false)) (addPort .untagged) r.ports Plain h.sectioned
    (List.nodup_singleton num)
  rw [hrewrite, ite_self] at hwrite
  exact hwrite

end Commands

/-! ## New VLANs -/

theorem vlanName_injective {n m : Nat} (h : vlanName n = vlanName m) : n = m :=
  decimal_injective (List.append_cancel_left h)

/-- A configuration with some more VLANs, without ports. -/
def Extends (net net' : Network) : Prop := ∃ l, net' = net ++ l ∧ ∀ s ∈ l, s.ports = []

theorem Extends.mem_ports {net net' : Network} (h : Extends net net') {s : BridgeVlan} {x : Text}
    (hs : s ∈ net') (hx : x ∈ s.ports) : s ∈ net := by
  obtain ⟨l, rfl, hempty⟩ := h
  rcases List.mem_append.mp hs with hs | hs
  · exact hs
  · rw [hempty s hs] at hx
    cases hx

theorem Extends.mem {net net' : Network} (h : Extends net net') {s : BridgeVlan} (hs : s ∈ net) :
    s ∈ net' := by
  obtain ⟨l, rfl, -⟩ := h
  exact List.mem_append_left l hs

theorem Extends.separated {net net' : Network} (h : Extends net net') (hsep : Separated net) :
    Separated net' := fun n hn hle s hs huntagged s' hs' st hmem =>
  hsep n hn hle s (h.mem_ports hs huntagged) huntagged s' (h.mem_ports hs' hmem) st hmem

theorem Extends.tenTaggedElsewhere_iff {net net' : Network} (h : Extends net net') (num : Nat) :
    TenTaggedElsewhere net' num ↔ TenTaggedElsewhere net num := by
  constructor
  · rintro ⟨s, hs, hne, hmem⟩
    exact ⟨s, h.mem_ports hs hmem, hne, hmem⟩
  · rintro ⟨s, hs, hne, hmem⟩
    exact ⟨s, h.mem hs, hne, hmem⟩

/-- A VLAN that is added is the last section. -/
theorem uciAddVlan_new {P : List Text → Prop} (hP : P []) {net : Network} (h : Sectioned P net)
    {num : Nat} (hnone : ∀ s ∈ net, s.vlan ≠ num) :
    uciAddVlan num net = net ++ [⟨vlanName num, num, []⟩] ∧
      Sectioned P (net ++ [⟨vlanName num, num, []⟩]) := by
  have hname : ∀ s ∈ net, s.name ≠ vlanName num := fun s hs heq =>
    hnone s hs (h.named s hs num heq)
  refine ⟨if_neg (by simpa using hname), ?_, ?_, ?_, ?_⟩
  · rw [List.map_append, List.nodup_append]
    refine ⟨h.names, List.nodup_singleton _, ?_⟩
    intro x hx y hy heq
    obtain ⟨s, hs, rfl⟩ := List.mem_map.mp hx
    rw [List.map_singleton, List.mem_singleton] at hy
    exact hname s hs (heq.trans hy)
  · rw [List.map_append, List.nodup_append]
    refine ⟨h.vlans, List.nodup_singleton _, ?_⟩
    intro x hx y hy heq
    obtain ⟨s, hs, rfl⟩ := List.mem_map.mp hx
    rw [List.map_singleton, List.mem_singleton] at hy
    exact hnone s hs (heq.trans hy)
  · intro s hs m hm
    rcases List.mem_append.mp hs with hs | hs
    · exact h.named s hs m hm
    · obtain rfl := List.mem_singleton.mp hs
      exact vlanName_injective hm
  · intro s hs
    rcases List.mem_append.mp hs with hs | hs
    · exact h.ports s hs
    · obtain rfl := List.mem_singleton.mp hs
      exact hP

/-- **The missing VLANs are added, without ports.** -/
theorem addMissing_extends {P : List Text → Prop} (hP : P []) {net : Network}
    (h : Sectioned P net) {nums : List Nat} (hnums : nums.Nodup) :
    Sectioned P (addMissing (vlanArrOf net) nums net) ∧
      Extends net (addMissing (vlanArrOf net) nums net) ∧
      ∀ num ∈ nums, ∃ s ∈ addMissing (vlanArrOf net) nums net, s.vlan = num := by
  -- so far `cur` has been made of `net`, and none of the VLANs that are still to be added
  have hfold : ∀ cur : Network, Sectioned P cur → Extends net cur →
      (∀ num ∈ nums, (∀ s ∈ net, s.vlan ≠ num) → ∀ s ∈ cur, s.vlan ≠ num) →
      Sectioned P (addMissing (vlanArrOf net) nums cur) ∧
        Extends cur (addMissing (vlanArrOf net) nums cur) ∧
        ∀ num ∈ nums, ∃ s ∈ addMissing (vlanArrOf net) nums cur, s.vlan = num := by
    induction nums with
    | nil => exact fun cur hcur _ _ => ⟨hcur, ⟨[], (List.append_nil cur).symm, by simp⟩, by simp⟩
    | cons k nums ih =>
        intro cur hcur hext hmissing
        rw [List.nodup_cons] at hnums
        rw [List.forall_mem_cons] at hmissing
        by_cases hk : ∀ s ∈ net, s.vlan ≠ k
        · obtain ⟨hnew, hwell⟩ := uciAddVlan_new hP hcur (hmissing.1 hk)
          have hstep : addMissing (vlanArrOf net) (k :: nums) cur =
              addMissing (vlanArrOf net) nums (cur ++ [⟨vlanName k, k, []⟩]) := by
            rw [addMissing, List.foldl_cons, entryOf_eq_none_iff.mpr hk, ← hnew]
            rfl
          have hext' : Extends cur (cur ++ [⟨vlanName k, k, []⟩]) := ⟨_, rfl, by simp⟩
          obtain ⟨hwell', hrest, hthere⟩ := ih hnums.2 _ hwell
            (by
              obtain ⟨l, rfl, hl⟩ := hext
              refine ⟨l ++ [⟨vlanName k, k, []⟩], List.append_assoc _ _ _, ?_⟩
              rw [List.forall_mem_append]
              exact ⟨hl, by simp⟩)
            (by
              intro num hnum hnone s hs
              rcases List.mem_append.mp hs with hs | hs
              · exact hmissing.2 num hnum hnone s hs
              · obtain rfl := List.mem_singleton.mp hs
                rintro rfl
                exact hnums.1 hnum)
          rw [hstep]
          obtain ⟨l, hl, hempty⟩ := hrest
          refine ⟨hwell', ⟨⟨vlanName k, k, []⟩ :: l, by rw [hl]; simp, ?_⟩, ?_⟩
          · rw [List.forall_mem_cons]
            exact ⟨rfl, hempty⟩
          · rw [List.forall_mem_cons]
            refine ⟨⟨⟨vlanName k, k, []⟩, ?_, rfl⟩, hthere⟩
            rw [hl]
            simp
        · have hsome : (entryOf (vlanArrOf net) k).isNone = false := by
            rw [← Bool.not_eq_true, Option.isNone_iff_eq_none, entryOf_eq_none_iff]
            exact hk
          have hstep : addMissing (vlanArrOf net) (k :: nums) cur =
              addMissing (vlanArrOf net) nums cur := by
            rw [addMissing, List.foldl_cons, hsome]
            rfl
          rw [hstep]
          obtain ⟨hwell', hrest, hthere⟩ := ih hnums.2 cur hcur hext hmissing.2
          refine ⟨hwell', hrest, ?_⟩
          rw [List.forall_mem_cons]
          refine ⟨?_, hthere⟩
          push Not at hk
          obtain ⟨s, hs, hvlan⟩ := hk
          exact ⟨s, hrest.mem (hext.mem hs), hvlan⟩
  exact hfold net h ⟨[], (List.append_nil net).symm, by simp⟩ (fun num _ hnone => hnone)

/-! ## Runs -/

/-- The VLAN to which a command adds untagged ports. -/
def VlanRange.target (net : Network) : VlanRange → Option Nat
  | .once num => some num
  | .range _ _ => none
  | .all => if net.any (fun s => s.vlan == 1) then some 1 else none

/-- **The command adds the port 10 untagged while it is tagged in another VLAN.** -/
def AddsHiddenTen (net : Network) (c : Command) : Prop :=
  c.cmd = .add ∧ c.type = .untagged ∧ 10 ∈ c.ports.ports ∧
    ∃ num, c.vlans.target net = some num ∧ TenTaggedElsewhere net num

/-- The untagged ports of one VLAN. -/
theorem addUntagged_separated_iff {net : Network} (h : WellFormed net) (hsep : Separated net)
    {num : Nat} (hnum : ∃ s ∈ net, s.vlan = num) (cmd : Cmd) (r : PortRange) :
    Separated (addUntagged (vlanArrOf net) num r cmd net) ↔
      ¬(cmd = .add ∧ 10 ∈ r.ports ∧ TenTaggedElsewhere net num) := by
  obtain ⟨s, hs, hvlan⟩ := hnum
  cases cmd with
  | edit => exact iff_of_true (editUntagged_kept h hsep num r) (fun hadd => by cases hadd.1)
  | add =>
      by_cases hten : 10 ∈ r.ports ∧ TenTaggedElsewhere net num
      · exact iff_of_false (addUntagged_breaks h hsep hten.1 hs hvlan hten.2)
          (fun hnot => hnot ⟨rfl, hten⟩)
      · exact iff_of_true (addUntagged_kept h hsep num r hten) (fun hadd => hten hadd.2)

theorem nodup_created (vlans : VlanRange) : vlans.created.Nodup := by
  cases vlans with
  | once num => exact List.nodup_singleton num
  | range first last => exact List.nodup_range'
  | all => exact List.nodup_nil

/-- The configuration before the ports are changed. -/
theorem createVlans_sectioned {P : List Text → Prop} (hP : P []) {net : Network}
    (h : Sectioned P net) (c : Command) :
    Sectioned P (createVlans c (vlanArrOf net) net) ∧
      Extends net (createVlans c (vlanArrOf net) net) := by
  unfold createVlans
  split
  · obtain ⟨hwell, hext, -⟩ := addMissing_extends hP h (nodup_created c.vlans)
    exact ⟨hwell, hext⟩
  · exact ⟨h, ⟨[], (List.append_nil net).symm, by simp⟩⟩

theorem plain_nil : Plain [] := ⟨[], rfl, List.nodup_nil, by simp⟩

theorem createVlans_extends {net : Network} (h : WellFormed net) (c : Command) :
    WellFormed (createVlans c (vlanArrOf net) net) ∧
      Extends net (createVlans c (vlanArrOf net) net) := by
  obtain ⟨hwell, hext⟩ := createVlans_sectioned plain_nil h.sectioned c
  exact ⟨hwell.wellFormed, hext⟩

/-- What a command does: VLANs are created, and the ports are changed. -/
theorem runConfigVlan_sectioned {P : List Text → Prop} (hP : P [])
    (hread : ∀ ports, P ports → setPorts ports = some (tableOf ports)) {net : Network}
    (h : Sectioned P net) (c : Command) {first last : Nat}
    (hcheck : c.vlans.check = some (first, last)) :
    runConfigVlan c net =
      runPorts c first last (vlanArrOf (createVlans c (vlanArrOf net) net))
        (createVlans c (vlanArrOf net) net) := by
  have hnet := getBridgeVlanList_eq fun s hs => hread _ (h.ports s hs)
  have hnet' := getBridgeVlanList_eq fun s hs =>
    hread _ ((createVlans_sectioned hP h c).1.ports s hs)
  simp only [runConfigVlan, hcheck, hnet, hnet']

theorem runConfigVlan_eq {net : Network} (h : WellFormed net) (c : Command) {first last : Nat}
    (hcheck : c.vlans.check = some (first, last)) :
    runConfigVlan c net =
      runPorts c first last (vlanArrOf (createVlans c (vlanArrOf net) net))
        (createVlans c (vlanArrOf net) net) := by
  exact runConfigVlan_sectioned plain_nil (fun _ => setPorts_plain) h.sectioned c hcheck

theorem runConfigVlan_wellFormed {net : Network} (h : WellFormed net) (c : Command) :
    WellFormed (runConfigVlan c net) := by
  cases hcheck : c.vlans.check with
  | none =>
      simp only [runConfigVlan, hcheck]
      exact h
  | some r =>
      obtain ⟨first, last⟩ := r
      rw [runConfigVlan_eq h c hcheck, runPorts]
      obtain ⟨hwell, -⟩ := createVlans_extends h c
      split
      · exact addTagged_wellFormed hwell first last c.ports .add
      · split
        · exact hwell
        · exact addUntagged_wellFormed hwell first c.ports c.cmd
      · exact addNotMemberPorts_wellFormed hwell first last c.ports

/-- The commands that do not add untagged ports to one VLAN keep the separation. -/
theorem runConfigVlan_kept {net : Network} (h : WellFormed net) (hsep : Separated net)
    (c : Command) (hc : c.type ≠ .untagged ∨ ∃ first last, c.vlans = .range first last) :
    Separated (runConfigVlan c net) := by
  cases hcheck : c.vlans.check with
  | none =>
      simp only [runConfigVlan, hcheck]
      exact hsep
  | some r =>
      obtain ⟨first, last⟩ := r
      obtain ⟨hwell, hext⟩ := createVlans_extends h c
      have hsep' := hext.separated hsep
      rw [runConfigVlan_eq h c hcheck, runPorts]
      split
      · exact addTagged_kept hwell hsep' first last c.ports
      · rename_i htype
        rcases hc with hc | ⟨first', last', hc⟩
        · exact absurd htype hc
        · rw [hc]
          exact hsep'
      · exact addNotMemberPorts_kept hwell hsep' first last c.ports

/-- An untagged port for one VLAN. -/
theorem runConfigVlan_once_iff {net : Network} (h : WellFormed net) (hsep : Separated net)
    (cmd : Cmd) (num : Nat) (r : PortRange) :
    Separated (runConfigVlan ⟨cmd, .untagged, .once num, r⟩ net) ↔
      ¬(cmd = .add ∧ 10 ∈ r.ports ∧ TenTaggedElsewhere net num) := by
  rw [runConfigVlan_eq h _ rfl]
  cases cmd with
  | edit => exact iff_of_true (editUntagged_kept h hsep num r) (fun hadd => by cases hadd.1)
  | add =>
      obtain ⟨hwell, hext, hthere⟩ := addMissing_extends plain_nil h.sectioned (List.nodup_singleton num)
      rw [← hext.tenTaggedElsewhere_iff num]
      exact addUntagged_separated_iff hwell.wellFormed (hext.separated hsep)
        (hthere num List.mem_cons_self) .add r

/-- An untagged port for `all` VLANs, which is VLAN 1. -/
theorem runConfigVlan_all_iff {net : Network} (h : WellFormed net) (hsep : Separated net)
    (cmd : Cmd) (r : PortRange) :
    Separated (runConfigVlan ⟨cmd, .untagged, .all, r⟩ net) ↔
      ¬(cmd = .add ∧ 10 ∈ r.ports ∧ (∃ s ∈ net, s.vlan = 1) ∧ TenTaggedElsewhere net 1) := by
  have hrun : runConfigVlan ⟨cmd, .untagged, .all, r⟩ net =
      addUntagged (vlanArrOf net) 1 r cmd net := by
    rw [runConfigVlan_eq h _ rfl]
    cases cmd <;> rfl
  rw [hrun]
  by_cases hone : ∃ s ∈ net, s.vlan = 1
  · rw [addUntagged_separated_iff h hsep hone]
    simp only [hone, true_and]
  · apply iff_of_true
    · cases cmd with
      | edit => exact editUntagged_kept h hsep 1 r
      | add =>
          rw [addUntagged_missing h (fun s hs heq => hone ⟨s, hs, heq⟩)]
          exact hsep
    · exact fun hadd => hone hadd.2.2.1

/-- **A command keeps the separation unless it adds a hidden port 10.** -/
theorem runConfigVlan_separated_iff {net : Network} (h : WellFormed net) (hsep : Separated net)
    (c : Command) : Separated (runConfigVlan c net) ↔ ¬ AddsHiddenTen net c := by
  obtain ⟨cmd, type, vlans, r⟩ := c
  by_cases htype : type = .untagged
  · subst htype
    cases vlans with
    | once num =>
        rw [runConfigVlan_once_iff h hsep]
        simp [AddsHiddenTen, VlanRange.target]
    | range first last =>
        apply iff_of_true (runConfigVlan_kept h hsep _ (.inr ⟨first, last, rfl⟩))
        rintro ⟨-, -, -, num, htarget, -⟩
        cases htarget
    | all =>
        rw [runConfigVlan_all_iff h hsep]
        simp [AddsHiddenTen, VlanRange.target]
  · exact iff_of_true (runConfigVlan_kept h hsep _ (.inl htype)) (fun hadd => htype hadd.2.1)

/-! ## Runs of commands -/

/-- The commands, each on the configuration that the one before has left. -/
def vlanMachine : Machine Network Command Empty where
  step net c := some (runConfigVlan c net, [])

/-- **In every run from a well-formed configuration the ports stay separated exactly when no
command adds the port 10 untagged while it is tagged in another VLAN.** -/
theorem separated_iff {net₀ net : Network} (hwell : WellFormed net₀) (hsep : Separated net₀)
    {vs : List (Visit Network Command Empty)} {tr : List Empty}
    (h : Exec vlanMachine net₀ vs tr net) :
    ((∀ v ∈ vs, Separated v.state) ∧ Separated net) ↔ ∀ v ∈ vs, ¬ AddsHiddenTen v.state v.act := by
  have hwells := (h.inv_iff (fun net _ => WellFormed net) (fun _ => True) hwell (by
    rintro s tr c s' evs hw hstep
    obtain ⟨rfl, -⟩ := Prod.mk.inj (Option.some.inj hstep)
    exact iff_of_true (runConfigVlan_wellFormed hw c) trivial)).mpr (fun _ _ => trivial)
  have hboth := h.inv_iff (fun net _ => WellFormed net ∧ Separated net)
    (fun v => ¬ AddsHiddenTen v.state v.act) ⟨hwell, hsep⟩ (by
      rintro s tr c s' evs ⟨hw, hs⟩ hstep
      obtain ⟨rfl, -⟩ := Prod.mk.inj (Option.some.inj hstep)
      rw [runConfigVlan_separated_iff hw hs]
      exact and_iff_right (runConfigVlan_wellFormed hw c))
  rw [← hboth]
  constructor
  · exact fun hall => ⟨fun v hv => ⟨hwells.1 v hv, hall.1 v hv⟩, hwells.2, hall.2⟩
  · exact fun hall => ⟨fun v hv => (hall.1 v hv).2, hall.2.2⟩

/-- The configuration with two VLANs and no ports. -/
def twoVlans : Network := [⟨vlanName 2, 2, []⟩, ⟨vlanName 3, 3, []⟩]

/-- The port 10. -/
def portTen : PortRange := ⟨10, 10, by decide, by decide, by decide⟩

theorem twoVlans_wellFormed : WellFormed twoVlans := by
  have hempty : WellFormed [] := ⟨by simp, by simp, by simp, by simp⟩
  obtain ⟨-, hone⟩ := @uciAddVlan_new Plain plain_nil [] hempty.sectioned 2 (by simp)
  exact (@uciAddVlan_new Plain plain_nil _ hone 3 (by simp)).2.wellFormed

theorem twoVlans_separated : Separated twoVlans := by
  intro n _ _ s hs hmem
  have hempty : ∀ s ∈ twoVlans, s.ports = [] := by simp [twoVlans]
  rw [hempty s hs] at hmem
  cases hmem

/-- The port 10 is tagged in VLAN 2, and then untagged in VLAN 3. -/
def tagThenUntag : List Command :=
  [⟨.add, .tagged, .once 2, portTen⟩, ⟨.add, .untagged, .once 3, portTen⟩]

/-- The port 10 is untagged in VLAN 3, and then tagged in VLAN 2: that is refused. -/
def untagThenTag : List Command :=
  [⟨.add, .untagged, .once 3, portTen⟩, ⟨.add, .tagged, .once 2, portTen⟩]

theorem separated_iff_untagThenTag : ∃ vs tr net, Exec vlanMachine twoVlans vs tr net ∧
    vs.map (fun v => v.act) = untagThenTag ∧
    (∀ v ∈ vs, Separated v.state) ∧ Separated net := by
  obtain ⟨vs, hvs, hact⟩ := Exec.replay vlanMachine twoVlans untagThenTag rfl
  refine ⟨vs, _, _, hvs, hact, (separated_iff twoVlans_wellFormed twoVlans_separated hvs).mpr ?_⟩
  have hpoints := hvs.points_eq
  rw [hact] at hpoints
  have hnone : (vlanMachine.points twoVlans [] untagThenTag).all (fun v =>
      v.state.all (fun s => !s.ports.contains (portStr 10 .tagged))) = true := by decide +kernel
  rw [hpoints]
  rintro v hv ⟨-, -, -, num, -, s, hs, -, hmem⟩
  have hstate := List.all_eq_true.mp (List.all_eq_true.mp hnone v hv) s hs
  simp [hmem] at hstate

/-- **A tagged port 10 does not keep it from being untagged in another VLAN.** -/
theorem tagThenUntag_not_separated :
    ¬ ∀ (net₀ net : Network) (vs : List (Visit Network Command Empty)) (tr : List Empty),
      WellFormed net₀ → Separated net₀ → Exec vlanMachine net₀ vs tr net → Separated net := by
  intro h
  have hrun : Exec vlanMachine twoVlans _ _ _ := (Exec.empty vlanMachine twoVlans).snoc
    (a := ⟨.add, .tagged, .once 2, portTen⟩) rfl |>.snoc
    (a := ⟨.add, .untagged, .once 3, portTen⟩) rfl
  have hsep := h twoVlans _ _ _ twoVlans_wellFormed twoVlans_separated hrun
  obtain ⟨s, hs, huntagged⟩ := List.any_eq_true.mp
    (by decide +kernel : (tagThenUntag.foldl (fun net c => runConfigVlan c net) twoVlans).any
      (fun s => s.vlan == 3 && s.ports.contains (portStr 10 .untagged)) = true)
  obtain ⟨s', hs', htagged⟩ := List.any_eq_true.mp
    (by decide +kernel : (tagThenUntag.foldl (fun net c => runConfigVlan c net) twoVlans).any
      (fun s => s.vlan == 2 && s.ports.contains (portStr 10 .tagged)) = true)
  simp only [Bool.and_eq_true, beq_iff_eq, List.contains_iff_mem] at huntagged htagged
  have hsame := hsep 10 (by decide) (by decide) s hs huntagged.2 s' hs' _ htagged.2
  omega

end Vlan
