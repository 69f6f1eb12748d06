import TfPack.Vlan.Confined

set_option autoImplicit false

/-! # Editing the ports of VLANs

`edit` should change ports that are there. `main_vlan.lua` has one function for the tagged ports of
`add` and `edit`, and it passes on `add` for both: `edit ... tagged` adds the ports that are missing
and leaves the others as they are. `edit ... untagged` adds only what is read wrong. What a command
leaves in a section depends on how the section is read (`member_runConfigVlan_iff`), and so do the
exact conditions (`editRight_iff`).
-/

namespace Vlan

/-! ## What editing should do -/

/-- The port is in the VLAN, in some state. -/
def InVlan (net : Network) (v n : Nat) : Prop := ∃ st, Member net v n st

/-- The command adds no port to a VLAN. -/
def AddsNoPort (c : Command) (net : Network) : Prop :=
  ∀ v n, InVlan (runConfigVlan c net) v n → InVlan net v n

/-- The port is untagged in no VLAN outside the range. -/
def FreeOutside (vlans : VlanRange) (net : Network) (n : Nat) : Prop :=
  ∀ w, ¬vlans.Has w → ¬Member net w n .untagged

/-- Each port of the range that is in a VLAN of the range is tagged there afterwards, unless it is
untagged in a VLAN outside. -/
def TagsMembers (c : Command) (net : Network) : Prop :=
  ∀ v n, c.vlans.Has v → n ∈ c.ports.ports → InVlan net v n → FreeOutside c.vlans net n →
    ∀ st, Member (runConfigVlan c net) v n st ↔ st = .tagged

/-- `edit <ports> tagged`. -/
def editTagged (vlans : VlanRange) (ports : PortRange) : Command := ⟨.edit, .tagged, vlans, ports⟩

/-- `edit <ports> untagged`. -/
def editUntagged (vlans : VlanRange) (ports : PortRange) : Command :=
  ⟨.edit, .untagged, vlans, ports⟩

/-! ## When it does -/

/-- No name of the section is read as the port. -/
def Unread (s : BridgeVlan) (n : Nat) : Prop := lastReadAs s.ports n = none

/-- The port is named by the section. -/
def Named (s : BridgeVlan) (n : Nat) : Prop := ∃ st, portStr n st ∈ s.ports

/-- The port is given to `add_tagged`, and no VLAN is read with the port untagged. -/
def Given (ports : PortRange) (net : Network) (n : Nat) : Prop :=
  n ∈ ports.ports ∧ ∀ s ∈ net, lastReadAs s.ports n ≠ some .untagged

/-- A VLAN of the range is read without one of the ports: then the VLANs of the range are
written. -/
def FindsNew (vlans : VlanRange) (ports : PortRange) (net : Network) : Prop :=
  ∃ s ∈ net, vlans.Has s.vlan ∧ ∃ n, Given ports net n ∧ Unread s n

/-- The ports to be tagged in a section: those of the range that the section names and that are
untagged in no VLAN outside. -/
def ToTag (vlans : VlanRange) (ports : PortRange) (net : Network) (s : BridgeVlan) (n : Nat) :
    Prop :=
  n ∈ ports.ports ∧ Named s n ∧ FreeOutside vlans net n

/-- With nothing to add, all ports to be tagged are tagged already. Otherwise each section of the
range is written as it is read, with the ports given: it names them all, and the ports to be tagged
are read as tagged ones or not read and given. -/
def TaggedFits (vlans : VlanRange) (ports : PortRange) (net : Network) : Prop :=
  ∀ s ∈ net, vlans.Has s.vlan →
    (¬FindsNew vlans ports net → ∀ n, ToTag vlans ports net s n →
      ∀ st, portStr n st ∈ s.ports ↔ st = .tagged) ∧
    (FindsNew vlans ports net →
      (∀ n, ¬Unread s n ∨ Given ports net n → Named s n) ∧
      ∀ n, ToTag vlans ports net s n →
        lastReadAs s.ports n = some .tagged ∨ Unread s n ∧ Given ports net n)

/-- The one VLAN that `add_untagged` works on. -/
def VlanRange.single : VlanRange → Option Nat
  | .once num => some num
  | .range _ _ => none
  | .all => some 1

/-- The VLAN is read with one of the ports, and no other VLAN with that port: then it is
written. -/
def FindsMember (ports : PortRange) (net : Network) (s : BridgeVlan) : Prop :=
  ∃ n ∈ ports.ports, ¬Unread s n ∧ ∀ s' ∈ net, s'.vlan ≠ s.vlan → Unread s' n

/-- When the VLAN is written, all ports it is read with are ports it names. -/
def UntaggedFits (vlans : VlanRange) (ports : PortRange) (net : Network) : Prop :=
  ∀ s ∈ net, vlans.single = some s.vlan → FindsMember ports net s → ∀ n, ¬Unread s n → Named s n

/-! ## What editing leaves -/

section Edit

variable {net : Network} {c : Command} {first last : Nat}

/-- What a port is in a section of a VLAN that is written. -/
def Command.after (c : Command) (first : Nat) (net : Network) (s : BridgeVlan) (n : Nat) :
    Option PortState :=
  if n ∈ c.ports.ports ∧ c.free first (vlanArrOf net) n = true then
    (c.change (lastReadAs s.ports n)).getD (lastReadAs s.ports n)
  else lastReadAs s.ports n

theorem runConfigVlan_edit (h : Sectioned Listed net) (hedit : c.cmd = .edit)
    (hcheck : c.vlans.check = some (first, last)) :
    runConfigVlan c net = if 0 < (c.loop first last (vlanArrOf net)).2 then
      rewrite (c.written first last)
        (changePorts (c.free first (vlanArrOf net)) c.change c.ports.ports) net
    else net := by
  have hcreate : createVlans c (vlanArrOf net) net = net := by rw [createVlans, hedit]
  rw [runConfigVlan_sectioned listed_nil (fun _ => setPorts_listed) h c hcheck, hcreate,
    runPorts_eq, Command.loop, writeChanges_eq h (nodup_written c first last)]

/-- **What a command leaves in a section.** -/
theorem member_runConfigVlan_iff (h : Sectioned Listed net) (hedit : c.cmd = .edit)
    (hcheck : c.vlans.check = some (first, last)) {s : BridgeVlan} (hs : s ∈ net) (n : Nat)
    (st : PortState) :
    (c.Writes first last net ∧ s.vlan ∈ c.written first last →
      (Member (runConfigVlan c net) s.vlan n st ↔ c.after first net s n = some st)) ∧
    (¬(c.Writes first last net ∧ s.vlan ∈ c.written first last) →
      (Member (runConfigVlan c net) s.vlan n st ↔ portStr n st ∈ s.ports)) := by
  have hrun := runConfigVlan_edit h hedit hcheck
  by_cases hwrites : c.Writes first last net
  · have hpos : 0 < (c.loop first last (vlanArrOf net)).2 := hwrites
    rw [if_pos hpos] at hrun
    rw [hrun, member_rewrite_iff h hs, mem_rewriteSection (nodup_ports c.ports),
      lookup_tableOf_listed (h.ports s hs)]
    constructor
    · rintro ⟨-, hwritten⟩
      rw [if_pos hwritten, Command.after]
    · intro hnot
      rw [if_neg (fun hwritten => hnot ⟨hwrites, hwritten⟩)]
  · have hzero : ¬0 < (c.loop first last (vlanArrOf net)).2 := hwrites
    rw [if_neg hzero] at hrun
    rw [hrun]
    exact ⟨fun hboth => absurd hboth.1 hwrites, fun _ => h.member_iff hs n st⟩

/-- No VLAN appears that was not there. -/
theorem section_of_member (h : Sectioned Listed net) (hedit : c.cmd = .edit)
    (hcheck : c.vlans.check = some (first, last)) {v n : Nat} {st : PortState}
    (hmem : Member (runConfigVlan c net) v n st) : ∃ s ∈ net, s.vlan = v := by
  rw [runConfigVlan_edit h hedit hcheck] at hmem
  split at hmem
  · exact section_of_rewrite hmem
  · obtain ⟨s, hs, hvlan, -⟩ := hmem
    exact ⟨s, hs, hvlan⟩

theorem inVlan_iff {P : List Text → Prop} (h : Sectioned P net) {s : BridgeVlan} (hs : s ∈ net)
    (n : Nat) : InVlan net s.vlan n ↔ Named s n :=
  exists_congr fun st => h.member_iff hs n st

/-- **A command adds no port** when the sections it writes name all they are left with. -/
theorem addsNoPort_iff (h : Sectioned Listed net) (hedit : c.cmd = .edit)
    (hcheck : c.vlans.check = some (first, last)) : AddsNoPort c net ↔
      (c.Writes first last net → ∀ s ∈ net, s.vlan ∈ c.written first last →
        ∀ n, c.after first net s n ≠ none → Named s n) := by
  constructor
  · intro hadds hwrites s hs hwritten n hafter
    obtain ⟨st, hst⟩ := Option.ne_none_iff_exists'.mp hafter
    rw [← inVlan_iff h hs]
    exact hadds _ _ ⟨st, ((member_runConfigVlan_iff h hedit hcheck hs n st).1
      ⟨hwrites, hwritten⟩).mpr hst⟩
  · rintro hnamed v n ⟨st, hst⟩
    obtain ⟨s, hs, rfl⟩ := section_of_member h hedit hcheck hst
    obtain ⟨hchanged, hkept⟩ := member_runConfigVlan_iff h hedit hcheck hs n st
    rw [inVlan_iff h hs]
    by_cases hboth : c.Writes first last net ∧ s.vlan ∈ c.written first last
    · have hafter := (hchanged hboth).mp hst
      refine hnamed hboth.1 s hs hboth.2 n ?_
      rw [hafter]
      exact Option.some_ne_none st
    · exact ⟨st, (hkept hboth).mp hst⟩

end Edit

/-! ## Tagged ports -/

section Tagged

variable {net : Network} {vlans : VlanRange} {ports : PortRange} {first last : Nat}

theorem has_iff (hcheck : vlans.check = some (first, last)) {v : Nat} :
    vlans.Has v ↔ first ≤ v ∧ v ≤ last := by
  constructor
  · rintro ⟨first', last', hcheck', hv⟩
    rw [hcheck, Option.some.injEq, Prod.mk.injEq] at hcheck'
    obtain ⟨rfl, rfl⟩ := hcheck'
    exact hv
  · exact fun hv => ⟨first, last, hcheck, hv⟩

theorem written_editTagged (hcheck : vlans.check = some (first, last)) {v : Nat} :
    v ∈ (editTagged vlans ports).written first last ↔ vlans.Has v := by
  have hwritten : (editTagged vlans ports).written first last =
      List.range' first (last + 1 - first) := by
    cases vlans <;> rfl
  rw [hwritten, List.mem_range'_1, has_iff hcheck]
  omega

theorem free_editTagged {n : Nat} : (editTagged vlans ports).free first (vlanArrOf net) n = true ↔
    ∀ s ∈ net, (tableOf s.ports).lookup n ≠ some .untagged := by
  rw [Command.free, editTagged, all_vlanArrOf]
  simp

variable (vlans first) in
theorem given_iff (h : Sectioned Listed net) {n : Nat} : Given ports net n ↔
    n ∈ ports.ports ∧ (editTagged vlans ports).free first (vlanArrOf net) n = true := by
  rw [free_editTagged, Given]
  refine and_congr_right fun _ => forall₂_congr fun s hs => ?_
  rw [lookup_tableOf_listed (h.ports s hs)]

/-- A port that is given is tagged when it is not read; the others are left as they are read. -/
theorem after_editTagged (h : Sectioned Listed net) {s : BridgeVlan} {n : Nat} {st : PortState} :
    (editTagged vlans ports).after first net s n = some st ↔
      lastReadAs s.ports n = some st ∨ Unread s n ∧ Given ports net n ∧ st = .tagged := by
  have hchange : (editTagged vlans ports).change = addPort .tagged := rfl
  have hports : (editTagged vlans ports).ports = ports := rfl
  rw [Command.after, hchange, hports]
  by_cases hgiven : Given ports net n
  · rw [if_pos ((given_iff vlans first h).mp hgiven), Unread]
    cases lastReadAs s.ports n with
    | none => simp [addPort, hgiven, eq_comm]
    | some r => simp [addPort]
  · rw [if_neg (fun hmem => hgiven ((given_iff vlans first h).mpr hmem))]
    simp [hgiven]

/-- `add_tagged` writes the VLANs when one is read without a port it is given. -/
theorem writes_editTagged (h : Sectioned Listed net) (hcheck : vlans.check = some (first, last)) :
    (editTagged vlans ports).Writes first last net ↔ FindsNew vlans ports net := by
  have hnew : ∀ o : Option PortState, addPort .tagged o ≠ none ↔ o = none := by
    intro o
    cases o <;> simp [addPort]
  have hchange : (editTagged vlans ports).change = addPort .tagged := rfl
  have hports : (editTagged vlans ports).ports = ports := rfl
  rw [writes_iff h, hchange, hports, FindsNew]
  refine exists_congr fun s => and_congr_right fun _ => ?_
  rw [written_editTagged hcheck]
  refine and_congr_right fun _ => exists_congr fun n => ?_
  rw [hnew, given_iff vlans first h, Unread, and_assoc]

/-- **`edit tagged` adds no port** exactly when the sections of its range, once they are written,
name all they are read with and all ports given. -/
theorem addsNoPort_editTagged (h : Sectioned Listed net)
    (hcheck : vlans.check = some (first, last)) : AddsNoPort (editTagged vlans ports) net ↔
      (FindsNew vlans ports net → ∀ s ∈ net, vlans.Has s.vlan →
        ∀ n, ¬Unread s n ∨ Given ports net n → Named s n) := by
  have hleft : ∀ s n, (editTagged vlans ports).after first net s n ≠ none ↔
      ¬Unread s n ∨ Given ports net n := by
    intro s n
    rw [Option.ne_none_iff_exists']
    constructor
    · rintro ⟨st, hst⟩
      rcases (after_editTagged h).mp hst with hread | ⟨-, hgiven, -⟩
      · exact .inl (fun hnone => Option.some_ne_none st (hread.symm.trans hnone))
      · exact .inr hgiven
    · intro hor
      by_cases hread : Unread s n
      · have hgiven := hor.resolve_left (not_not_intro hread)
        exact ⟨.tagged, (after_editTagged h).mpr (.inr ⟨hread, hgiven, rfl⟩)⟩
      · obtain ⟨st, hst⟩ := Option.ne_none_iff_exists'.mp hread
        exact ⟨st, (after_editTagged h).mpr (.inl hst)⟩
  rw [addsNoPort_iff h rfl hcheck, writes_editTagged h hcheck]
  refine imp_congr_right fun _ => forall₂_congr fun s _ => ?_
  rw [written_editTagged hcheck]
  exact imp_congr_right fun _ => forall_congr' fun n => by rw [hleft]

/-- **`edit tagged` tags the ports** exactly when they are tagged already, or the sections are
written and the ports are read as tagged ones or given. -/
theorem tagsMembers_editTagged (h : Sectioned Listed net)
    (hcheck : vlans.check = some (first, last)) : TagsMembers (editTagged vlans ports) net ↔
      ∀ s ∈ net, vlans.Has s.vlan → ∀ n, ToTag vlans ports net s n →
        (¬FindsNew vlans ports net → ∀ st, portStr n st ∈ s.ports ↔ st = .tagged) ∧
        (FindsNew vlans ports net →
          lastReadAs s.ports n = some .tagged ∨ Unread s n ∧ Given ports net n) := by
  have hedit : (editTagged vlans ports).cmd = .edit := rfl
  have hwrites : ∀ {s : BridgeVlan}, vlans.Has s.vlan → (FindsNew vlans ports net ↔
      (editTagged vlans ports).Writes first last net ∧
        s.vlan ∈ (editTagged vlans ports).written first last) := by
    intro s hhas
    rw [writes_editTagged h hcheck, written_editTagged hcheck, and_iff_left hhas]
  constructor
  · rintro htags s hs hhas n ⟨hn, hnamed, hfree⟩
    have hiff := htags s.vlan n hhas hn ((inVlan_iff h hs n).mpr hnamed) hfree
    refine ⟨fun hnone st => ?_, fun hnew => ?_⟩
    · rw [← (member_runConfigVlan_iff h hedit hcheck hs n st).2 (fun hboth =>
        hnone ((hwrites hhas).mpr hboth))]
      exact hiff st
    · have hafter := ((member_runConfigVlan_iff h hedit hcheck hs n .tagged).1
        ((hwrites hhas).mp hnew)).mp ((hiff .tagged).mpr rfl)
      rcases (after_editTagged h).mp hafter with hread | ⟨hread, hgiven, -⟩
      · exact .inl hread
      · exact .inr ⟨hread, hgiven⟩
  · rintro hfits v n hhas hn hin hfree st
    obtain ⟨s, hs, rfl⟩ : ∃ s ∈ net, s.vlan = v := by
      obtain ⟨-, s, hs, hvlan, -⟩ := hin
      exact ⟨s, hs, hvlan⟩
    obtain ⟨hidle, hnew⟩ := hfits s hs hhas n ⟨hn, (inVlan_iff h hs n).mp hin, hfree⟩
    obtain ⟨hchanged, hkept⟩ := member_runConfigVlan_iff h hedit hcheck hs n st
    by_cases hfinds : FindsNew vlans ports net
    · rw [hchanged ((hwrites hhas).mp hfinds), after_editTagged h]
      rcases hnew hfinds with hread | ⟨hread, hgiven⟩
      · simp [hread, Unread, eq_comm]
      · rw [Unread] at hread
        simp [hread, hgiven, Unread]
    · rw [hkept (fun hboth => hfinds ((hwrites hhas).mpr hboth))]
      exact hidle hfinds st

end Tagged

/-! ## Untagged ports -/

section Untagged

variable {net : Network} {vlans : VlanRange} {ports : PortRange} {first last : Nat}

theorem written_editUntagged (hcheck : vlans.check = some (first, last)) {v : Nat} :
    v ∈ (editUntagged vlans ports).written first last ↔ vlans.single = some v := by
  cases vlans with
  | once num =>
      obtain ⟨rfl, rfl⟩ := Prod.mk.inj (Option.some.inj hcheck)
      simp [Command.written, editUntagged, VlanRange.single, eq_comm]
  | range a b => simp [Command.written, editUntagged, VlanRange.single]
  | all =>
      obtain ⟨rfl, rfl⟩ := Prod.mk.inj (Option.some.inj hcheck)
      simp [Command.written, editUntagged, VlanRange.single, eq_comm]

theorem free_editUntagged (h : Sectioned Listed net) {n : Nat} :
    (editUntagged vlans ports).free first (vlanArrOf net) n = true ↔
      ∀ s ∈ net, s.vlan ≠ first → Unread s n := by
  rw [Command.free, editUntagged, all_vlanArrOf]
  refine forall₂_congr fun s hs => ?_
  rw [Unread, ← lookup_tableOf_listed (h.ports s hs)]
  simp only [Bool.or_eq_true, Option.isNone_iff_eq_none, beq_iff_eq]
  exact ⟨fun hor hne => hor.resolve_right hne, fun himp => (em _).symm.imp himp id⟩

/-- A port that is read stays, and no other comes. -/
theorem after_editUntagged {s : BridgeVlan} {n : Nat} :
    (editUntagged vlans ports).after first net s n ≠ none ↔ ¬Unread s n := by
  have hchange : (editUntagged vlans ports).change = editPort .untagged := rfl
  rw [Command.after, hchange, Unread]
  cases lastReadAs s.ports n with
  | none => simp [editPort]
  | some st => split <;> simp [editPort]

/-- The one VLAN is the first of the range. -/
theorem eq_of_single (hcheck : vlans.check = some (first, last)) {v : Nat}
    (hsingle : vlans.single = some v) : v = first := by
  cases vlans with
  | once num =>
      obtain ⟨rfl, rfl⟩ := Prod.mk.inj (Option.some.inj hcheck)
      exact (Option.some.inj hsingle).symm
  | range a b => cases hsingle
  | all =>
      obtain ⟨rfl, rfl⟩ := Prod.mk.inj (Option.some.inj hcheck)
      exact (Option.some.inj hsingle).symm

theorem writes_editUntagged (h : Sectioned Listed net)
    (hcheck : vlans.check = some (first, last)) :
    (editUntagged vlans ports).Writes first last net ↔
      ∃ s ∈ net, vlans.single = some s.vlan ∧ FindsMember ports net s := by
  have hmember : ∀ o : Option PortState, editPort .untagged o ≠ none ↔ ¬o = none := by
    intro o
    cases o <;> simp [editPort]
  have hchange : (editUntagged vlans ports).change = editPort .untagged := rfl
  have hports : (editUntagged vlans ports).ports = ports := rfl
  rw [writes_iff h, hchange, hports]
  refine exists_congr fun s => and_congr_right fun _ => ?_
  rw [written_editUntagged hcheck, FindsMember]
  refine and_congr_right fun hsingle => exists_congr fun n => and_congr_right fun _ => ?_
  rw [free_editUntagged h, hmember, Unread, eq_of_single hcheck hsingle]
  exact and_comm

/-- **`edit untagged` adds no port** exactly when the section it writes names all it is read
with. -/
theorem addsNoPort_editUntagged (h : Sectioned Listed net)
    (hcheck : vlans.check = some (first, last)) :
    AddsNoPort (editUntagged vlans ports) net ↔ UntaggedFits vlans ports net := by
  rw [addsNoPort_iff h rfl hcheck, writes_editUntagged h hcheck, UntaggedFits]
  simp only [written_editUntagged hcheck, after_editUntagged]
  constructor
  · exact fun hnamed s hs hsingle hfinds => hnamed ⟨s, hs, hsingle, hfinds⟩ s hs hsingle
  · rintro hnamed ⟨s, hs, hsingle, hfinds⟩ s' hs' hsingle'
    obtain rfl := h.eq_of_vlan hs hs' (Option.some.inj (hsingle.symm.trans hsingle'))
    exact hnamed s hs hsingle hfinds

end Untagged

/-- In sections that are legible every port that is read is named. -/
theorem untaggedFits_of_legible {net : Network} (h : Sectioned Listed net)
    (hlegible : ∀ s ∈ net, Legible s.ports) (vlans : VlanRange) (ports : PortRange) :
    UntaggedFits vlans ports net := by
  intro s hs _ _ n hread
  obtain ⟨st, hst⟩ := Option.ne_none_iff_exists'.mp hread
  exact ⟨st, ((hlegible s hs).rightlyRead (h.ports s hs) n st).mp hst⟩

/-! ## Both commands -/

/-- **`edit tagged` tags the ports that are there and adds none**, and **`edit untagged` adds
none**, exactly under these conditions. -/
theorem editRight_iff {net : Network} (h : Sectioned Listed net) (vlans : VlanRange)
    (ports : PortRange) :
    (TagsMembers (editTagged vlans ports) net ∧ AddsNoPort (editTagged vlans ports) net ↔
        TaggedFits vlans ports net) ∧
      (AddsNoPort (editUntagged vlans ports) net ↔ UntaggedFits vlans ports net) := by
  cases hcheck : vlans.check with
  | none =>
      have hhas : ∀ v, ¬vlans.Has v := by
        rintro v ⟨first, last, hsome, -⟩
        rw [hcheck] at hsome
        cases hsome
      have hsingle : vlans.single = none := by
        cases vlans with
        | range a b => rfl
        | once num => cases hcheck
        | all => cases hcheck
      have hadds : ∀ c : Command, c.vlans = vlans → AddsNoPort c net := by
        rintro c rfl v n hin
        rwa [runConfigVlan_refused hcheck] at hin
      refine ⟨iff_of_true ⟨fun v n hv => absurd hv (hhas v), hadds _ rfl⟩
        (fun s _ hv => absurd hv (hhas s.vlan)), iff_of_true (hadds _ rfl) ?_⟩
      intro s _ hsome
      rw [hsingle] at hsome
      cases hsome
  | some range =>
      obtain ⟨first, last⟩ := range
      refine ⟨?_, addsNoPort_editUntagged h hcheck⟩
      rw [tagsMembers_editTagged h hcheck, addsNoPort_editTagged h hcheck]
      constructor
      · rintro ⟨htags, hadds⟩ s hs hhas
        exact ⟨fun hnone n hn => (htags s hs hhas n hn).1 hnone,
          fun hnew => ⟨hadds hnew s hs hhas, fun n hn => (htags s hs hhas n hn).2 hnew⟩⟩
      · intro hfits
        refine ⟨fun s hs hhas n hn => ?_, fun hnew s hs hhas => ((hfits s hs hhas).2 hnew).1⟩
        exact ⟨fun hnone => (hfits s hs hhas).1 hnone n hn,
          fun hnew => ((hfits s hs hhas).2 hnew).2 n hn⟩

/-- The port 3 is untagged in VLAN 2. -/
def threeUntagged : Network := [⟨vlanName 2, 2, [portStr 3 .untagged]⟩]

theorem threeUntagged_sectioned : Sectioned Listed threeUntagged :=
  sectioned_singleton (fun _ hx => ⟨3, .untagged, List.mem_singleton.mp hx⟩)

def portFour : PortRange := ⟨4, 4, by decide, by decide, by decide⟩

theorem editRight_iff_threeUntagged :
    AddsNoPort (editUntagged (.once 2) addThree.ports) threeUntagged := by
  refine (editRight_iff threeUntagged_sectioned (.once 2) addThree.ports).2.mpr
    (untaggedFits_of_legible threeUntagged_sectioned ?_ _ _)
  intro s hs n htagged
  obtain rfl := List.mem_singleton.mp hs
  cases (portStr_injective (List.mem_singleton.mp htagged)).2

/-- **Editing the port 3 as tagged leaves it untagged, and editing the port 4 adds it.** -/
theorem editTagged_adds :
    ¬TagsMembers (editTagged (.once 2) addThree.ports) threeUntagged ∧
      ¬AddsNoPort (editTagged (.once 2) portFour) threeUntagged := by
  constructor
  · intro htags
    have hhas : (VlanRange.once 2).Has 2 := ⟨2, 2, rfl, Nat.le_refl 2, Nat.le_refl 2⟩
    have hin : InVlan threeUntagged 2 3 :=
      ⟨.untagged, _, List.mem_singleton_self _, rfl, List.mem_singleton_self _⟩
    have hfree : FreeOutside (.once 2) threeUntagged 3 := by
      rintro w hw ⟨s, hs, rfl, -⟩
      obtain rfl := List.mem_singleton.mp hs
      exact hw hhas
    obtain ⟨s, hs, -, hmem⟩ := (htags 2 3 hhas (by decide) hin hfree .tagged).mpr rfl
    have hnone : (runConfigVlan (editTagged (.once 2) addThree.ports) threeUntagged).all
        (fun s => !s.ports.contains (portStr 3 .tagged)) = true := by decide +kernel
    have hlost := List.all_eq_true.mp hnone s hs
    simp [hmem] at hlost
  · intro hadds
    obtain ⟨s, hs, hadded⟩ := List.any_eq_true.mp
      (by decide +kernel : (runConfigVlan (editTagged (.once 2) portFour) threeUntagged).any
        (fun s => s.vlan == 2 && s.ports.contains (portStr 4 .tagged)) = true)
    simp only [Bool.and_eq_true, beq_iff_eq, List.contains_iff_mem] at hadded
    obtain ⟨st, t, ht, -, hmem⟩ := hadds 2 4 ⟨.tagged, s, hs, hadded⟩
    obtain rfl := List.mem_singleton.mp ht
    have hsame := (portStr_injective (List.mem_singleton.mp hmem)).1
    exact absurd hsame (by decide)

end Vlan
