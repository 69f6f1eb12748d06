import TfPack.Vlan.Separation

set_option autoImplicit false

/-! # What a command leaves alone

Each command decodes the ports of all VLANs of its range and writes them back, those it was not
given with them. A port comes back as it was when the last name that is read as its number is its
own (`readsBack_iff_legible`): `lan13:t` is read as port 3, which then is written in its place.
Nothing is written when no change applies (`applies_iff`). Otherwise a command changes no other
ports than its own exactly when the sections it writes are read right there.
-/

namespace Vlan

/-! ## Reading a section back -/

/-- The names are those of ports, of any numbers. -/
def Listed (ports : List Text) : Prop := ∀ x ∈ ports, ∃ n st, x = portStr n st

theorem listed_nil : Listed [] := fun _ hx => absurd hx List.not_mem_nil

/-- The state of the last name that is read as the port. -/
def lastReadAs (ports : List Text) (n : Nat) : Option PortState :=
  ((ports.filterMap getPortType).reverse.find? (fun p => p.1 == n)).map Prod.snd

/-- **A port is read right**: as what it is listed as, and as nothing when it is not listed. -/
def RightlyRead (ports : List Text) (n : Nat) : Prop :=
  ∀ st, lastReadAs ports n = some st ↔ portStr n st ∈ ports

/-- The names are decoded one by one. -/
theorem mapM_of_listed {ports : List Text} (h : Listed ports) :
    ports.mapM getPortType = some (ports.filterMap getPortType) := by
  induction ports with
  | nil => rfl
  | cons x ports ih =>
      obtain ⟨n, st, hx⟩ := h x List.mem_cons_self
      have hread : getPortType x = some (decodedNum n st, st) := by rw [hx, getPortType_portStr]
      rw [List.mapM_cons, ih fun y hy => h y (List.mem_cons_of_mem x hy),
        List.filterMap_cons_some hread, hread]
      rfl

theorem setPorts_listed {ports : List Text} (h : Listed ports) :
    setPorts ports = some (tableOf ports) := by
  rw [tableOf, setPorts, mapM_of_listed h]
  rfl

/-- **In a table the last pair of a key counts.** -/
theorem lookup_foldl_last (l : List (Nat × PortState)) (k : Nat) :
    (l.foldl (fun t p => t.insert p.1 p.2) (∅ : PortTable)).lookup k =
      (l.reverse.find? (fun p => p.1 == k)).map Prod.snd := by
  induction l using List.reverseRecOn with
  | nil => rfl
  | append_singleton l p ih =>
      rw [List.foldl_append, List.foldl_cons, List.foldl_nil, List.reverse_append,
        List.reverse_singleton, List.singleton_append, List.find?_cons]
      by_cases hk : p.1 = k
      · subst hk
        rw [AList.lookup_insert, beq_self_eq_true]
        rfl
      · rw [AList.lookup_insert_ne (Ne.symm hk), ih, beq_eq_false_iff_ne.mpr hk]

theorem lookup_tableOf_listed {ports : List Text} (h : Listed ports) (n : Nat) :
    (tableOf ports).lookup n = lastReadAs ports n := by
  have htable : tableOf ports =
      (ports.filterMap getPortType).foldl (fun t p => t.insert p.1 p.2) ∅ := by
    rw [tableOf, setPorts, mapM_of_listed h]
    rfl
  rw [htable, lookup_foldl_last, lastReadAs]

/-- A port is read as some state when a name is read so. -/
theorem exists_of_lastReadAs {ports : List Text} {n : Nat} {st : PortState} (h : Listed ports)
    (hread : lastReadAs ports n = some st) :
    ∃ m, portStr m st ∈ ports ∧ decodedNum m st = n := by
  rw [lastReadAs, Option.map_eq_some_iff] at hread
  obtain ⟨⟨k, r⟩, hfind, rfl⟩ := hread
  have hk : k = n := by simpa using List.find?_some hfind
  have hmem := List.mem_reverse.mp (List.mem_of_find?_eq_some hfind)
  obtain ⟨x, hx, hget⟩ := List.mem_filterMap.mp hmem
  obtain ⟨m, st, rfl⟩ := h x hx
  rw [getPortType_portStr, Option.some.injEq, Prod.mk.injEq] at hget
  obtain ⟨hnum, rfl⟩ := hget
  exact ⟨m, hx, hnum.trans hk⟩

/-- **A section is legible** when its tagged ports have one digit and no port is in two states. -/
def Legible (ports : List Text) : Prop :=
  ∀ n, portStr n .tagged ∈ ports → n < 10 ∧ portStr n .untagged ∉ ports

theorem Legible.rightlyRead {ports : List Text} (h : Listed ports) (hlegible : Legible ports)
    (n : Nat) : RightlyRead ports n := by
  have hown : ∀ st, lastReadAs ports n = some st → portStr n st ∈ ports := by
    intro st hread
    obtain ⟨m, hm, hnum⟩ := exists_of_lastReadAs h hread
    cases st with
    | untagged =>
        obtain rfl : m = n := hnum
        exact hm
    | tagged =>
        have hlt := (hlegible m hm).1
        have hmod : m % 10 = n := hnum
        obtain rfl : m = n := by omega
        exact hm
  intro st
  refine ⟨hown st, fun hmem => ?_⟩
  -- something is read as the port, and it is listed in one state only
  have hnum : decodedNum n st = n := by
    cases st with
    | untagged => rfl
    | tagged => exact Nat.mod_eq_of_lt (hlegible n hmem).1
  have hsome : (lastReadAs ports n).isSome := by
    rw [lastReadAs, Option.isSome_map, List.find?_isSome]
    refine ⟨(n, st), List.mem_reverse.mpr (List.mem_filterMap.mpr ⟨_, hmem, ?_⟩), by simp⟩
    rw [getPortType_portStr, hnum]
  obtain ⟨r, hr⟩ := Option.isSome_iff_exists.mp hsome
  have hother := hown r hr
  rw [hr]
  cases st with
  | untagged =>
      cases r with
      | untagged => rfl
      | tagged => exact absurd hmem (hlegible n hother).2
  | tagged =>
      cases r with
      | untagged => exact absurd hother (hlegible n hmem).2
      | tagged => rfl

theorem rightlyRead_nil (n : Nat) : RightlyRead [] n := by
  intro st
  constructor
  · intro h
    cases h
  · intro h
    cases h

/-- The ports of a section, read and written back, are the same. -/
def ReadsBack (ports : List Text) : Prop :=
  ∃ t, setPorts ports = some t ∧ ∀ n st, portStr n st ∈ namesOf t ↔ portStr n st ∈ ports

/-- **What is read and written back** has the ports of the section exactly when it is legible. -/
theorem readsBack_iff_legible {ports : List Text} (h : Listed ports) :
    ReadsBack ports ↔ Legible ports := by
  have hread : ReadsBack ports ↔ ∀ n st, lastReadAs ports n = some st ↔ portStr n st ∈ ports := by
    constructor
    · rintro ⟨t, ht, hsame⟩
      rw [setPorts_listed h, Option.some.injEq] at ht
      intro n st
      rw [← lookup_tableOf_listed h, ht, ← mem_namesOf, hsame]
    · intro hsame
      refine ⟨_, setPorts_listed h, fun n st => ?_⟩
      rw [mem_namesOf, lookup_tableOf_listed h, hsame]
  rw [hread]
  constructor
  · intro hsame n htagged
    have hread := (hsame n .tagged).mpr htagged
    obtain ⟨m, -, hnum⟩ := exists_of_lastReadAs h hread
    have hmod : m % 10 = n := hnum
    refine ⟨by omega, fun huntagged => ?_⟩
    have hread' := (hsame n .untagged).mpr huntagged
    rw [hread] at hread'
    cases hread'
  · exact fun hlegible n st => hlegible.rightlyRead h n st

/-! ## Commands -/

/-- The VLANs whose sections a command writes. -/
def Command.written (c : Command) (first last : Nat) : List Nat :=
  match c.type, c.vlans with
  | .untagged, .range _ _ => []
  | .untagged, _ => [first]
  | _, _ => List.range' first (last + 1 - first)

/-- The ports a command may change. -/
def Command.free (c : Command) (first : Nat) (vlanArr : List VlanEntry) (i : Nat) : Bool :=
  match c.type with
  | .tagged => vlanArr.all (fun v => v.ports.lookup i != some .untagged || false)
  | .untagged => vlanArr.all (fun v => (v.ports.lookup i).isNone ||
      (match c.cmd with
        | .add => false
        | .edit => v.num == first))
  | .not_memb => true

/-- What a command makes of a port. -/
def Command.change (c : Command) : Change :=
  match c.type, c.cmd with
  | .tagged, _ => addPort .tagged
  | .untagged, .add => addPort .untagged
  | .untagged, .edit => editPort .untagged
  | .not_memb, _ => removePort

/-- The copies of a command after its loop, and the number of its changes. -/
def Command.loop (c : Command) (first last : Nat) (vlanArr : List VlanEntry) :
    List (Nat × PortTable) × Nat :=
  portLoop (c.free first vlanArr) c.change (saveVlans vlanArr (c.written first last))
    c.ports.ports

theorem runPorts_eq (c : Command) (first last : Nat) (vlanArr : List VlanEntry) (net : Network) :
    runPorts c first last vlanArr net = writeChanges vlanArr (c.loop first last vlanArr) net := by
  obtain ⟨cmd, type, vlans, r⟩ := c
  cases type with
  | tagged => cases vlans <;> rfl
  | not_memb => cases vlans <;> rfl
  | untagged =>
      cases vlans with
      | once num => cases cmd <;> rfl
      | all => cases cmd <;> rfl
      | range a b =>
          have hcount :
              ¬0 < (Command.loop ⟨cmd, .untagged, .range a b, r⟩ first last vlanArr).2 := by
            rw [Command.loop, portLoop_pos_iff (nodup_ports r)]
            rintro ⟨i, -, -, p, hp, -⟩
            cases hp
          rw [writeChanges, if_neg hcount]
          rfl

theorem nodup_written (c : Command) (first last : Nat) : (c.written first last).Nodup := by
  rw [Command.written]
  split
  · exact List.nodup_nil
  · exact List.nodup_singleton _
  · exact List.nodup_range'

/-! ## When the copies are written -/

theorem mem_saveVlans_iff {P : List Text → Prop} {net : Network} (h : Sectioned P net)
    {nums : List Nat} {p : Nat × PortTable} : p ∈ saveVlans (vlanArrOf net) nums ↔
      ∃ s ∈ net, s.vlan ∈ nums ∧ p = (s.vlan, tableOf s.ports) := by
  rw [saveVlans, List.mem_filterMap]
  constructor
  · rintro ⟨num, hnum, hp⟩
    by_cases hs : ∃ s ∈ net, s.vlan = num
    · obtain ⟨s, hs, rfl⟩ := hs
      rw [entryOf_vlanArrOf h hs, Option.map_some, Option.some.injEq] at hp
      exact ⟨s, hs, hnum, hp.symm⟩
    · rw [entryOf_eq_none_iff.mpr (fun s hmem heq => hs ⟨s, hmem, heq⟩)] at hp
      cases hp
  · rintro ⟨s, hs, hnum, rfl⟩
    exact ⟨s.vlan, hnum, by rw [entryOf_vlanArrOf h hs]; rfl⟩

/-- The command writes the VLANs it works on. -/
def Command.Writes (c : Command) (first last : Nat) (net : Network) : Prop :=
  0 < (c.loop first last (vlanArrOf net)).2

theorem writes_iff {net : Network} (h : Sectioned Listed net) {c : Command} {first last : Nat} :
    c.Writes first last net ↔
    ∃ s ∈ net, s.vlan ∈ c.written first last ∧ ∃ n ∈ c.ports.ports,
      c.free first (vlanArrOf net) n = true ∧ c.change (lastReadAs s.ports n) ≠ none := by
  rw [Command.Writes, Command.loop, portLoop_pos_iff (nodup_ports c.ports)]
  constructor
  · rintro ⟨n, hn, hfree, p, hp, hchange⟩
    obtain ⟨s, hs, hwritten, rfl⟩ := (mem_saveVlans_iff h).mp hp
    rw [lookup_tableOf_listed (h.ports s hs)] at hchange
    exact ⟨s, hs, hwritten, n, hn, hfree, hchange⟩
  · rintro ⟨s, hs, hwritten, n, hn, hfree, hchange⟩
    refine ⟨n, hn, hfree, _, (mem_saveVlans_iff h).mpr ⟨s, hs, hwritten, rfl⟩, ?_⟩
    rwa [lookup_tableOf_listed (h.ports s hs)]

/-- The port is free for the command: it is untagged in no VLAN, or in no VLAN at all, but for the
one that is edited. What counts is how the sections are read. -/
def Command.Free (c : Command) (first : Nat) (net : Network) (n : Nat) : Prop :=
  match c.type, c.cmd with
  | .tagged, _ => ∀ s ∈ net, lastReadAs s.ports n ≠ some .untagged
  | .untagged, .add => ∀ s ∈ net, lastReadAs s.ports n = none
  | .untagged, .edit => ∀ s ∈ net, lastReadAs s.ports n = none ∨ s.vlan = first
  | .not_memb, _ => True

/-- A change applies: a free port of the range is read in such a state in a VLAN that is written,
or is added to one that is not there yet. -/
def Command.Applies (c : Command) (first last : Nat) (net : Network) : Prop :=
  ∃ n ∈ c.ports.ports, c.Free first net n ∧
    ((∃ s ∈ net, s.vlan ∈ c.written first last ∧ c.change (lastReadAs s.ports n) ≠ none) ∨
      (c.cmd = .add ∧ c.change none ≠ none ∧
        ∃ v ∈ c.vlans.created, v ∈ c.written first last ∧ ∀ s ∈ net, s.vlan ≠ v))

theorem free_iff {net : Network} (h : Sectioned Listed net) {c : Command} {first n : Nat} :
    c.free first (vlanArrOf net) n = true ↔ c.Free first net n := by
  rw [Command.free, Command.Free]
  have hread : ∀ s ∈ net, (tableOf s.ports).lookup n = lastReadAs s.ports n :=
    fun s hs => lookup_tableOf_listed (h.ports s hs) n
  cases c.type with
  | not_memb => exact iff_of_true rfl trivial
  | tagged =>
      rw [all_vlanArrOf]
      refine forall₂_congr fun s hs => ?_
      simp [hread s hs]
  | untagged =>
      rw [all_vlanArrOf]
      cases c.cmd <;> refine forall₂_congr fun s hs => ?_ <;> simp [hread s hs]

/-- The sections a command makes are read with no port. -/
theorem Extends.free_iff {net net' : Network} (h : Extends net net') {c : Command}
    {first n : Nat} : c.Free first net' n ↔ c.Free first net n := by
  obtain ⟨l, rfl, hl⟩ := h
  have hnone : ∀ s ∈ l, lastReadAs s.ports n = none := by
    intro s hs
    rw [hl s hs]
    rfl
  have hall : ∀ (P : BridgeVlan → Prop), (∀ s ∈ l, P s) →
      ((∀ s ∈ net ++ l, P s) ↔ ∀ s ∈ net, P s) := by
    intro P hP
    rw [List.forall_mem_append]
    exact and_iff_left hP
  unfold Command.Free
  cases c.type with
  | not_memb => exact Iff.rfl
  | tagged => exact hall _ (fun s hs => by simp [hnone s hs])
  | untagged =>
      cases c.cmd with
      | add => exact hall _ hnone
      | edit => exact hall _ (fun s hs => .inl (hnone s hs))

/-- A VLAN that is written is one that `add` would make, but for the range of all VLANs. -/
theorem created_of_written {c : Command} {first last v : Nat}
    (hcheck : c.vlans.check = some (first, last)) (hv : v ∈ c.written first last) :
    c.vlans = .all ∨ v ∈ c.vlans.created := by
  obtain ⟨cmd, type, vlans, r⟩ := c
  cases vlans with
  | all => exact .inl rfl
  | once num =>
      cases hcheck
      refine .inr ?_
      cases type <;> simpa [Command.written, VlanRange.created] using hv
  | range a b =>
      simp only [VlanRange.check] at hcheck
      split at hcheck
      · cases hcheck
      · cases hcheck
        refine .inr ?_
        cases type with
        | tagged => exact hv
        | untagged => cases hv
        | not_memb => exact hv

/-- A VLAN that is written was there, or the command made it. -/
theorem createVlans_written {net : Network} (h : Sectioned Listed net) {c : Command}
    {first last : Nat} (hcheck : c.vlans.check = some (first, last)) {s : BridgeVlan}
    (hs : s ∈ createVlans c (vlanArrOf net) net) (hwritten : s.vlan ∈ c.written first last) :
    s ∈ net ∨ s.ports = [] ∧ c.cmd = .add ∧ s.vlan ∈ c.vlans.created ∧
      ∀ t ∈ net, t.vlan ≠ s.vlan := by
  obtain ⟨hsec, hext⟩ := createVlans_sectioned listed_nil h c
  by_cases hold : s ∈ net
  · exact .inl hold
  · have hmissing : ∀ t ∈ net, t.vlan ≠ s.vlan := by
      intro t ht hvlan
      obtain rfl := hsec.eq_of_vlan (hext.mem ht) hs hvlan
      exact hold ht
    have hports : s.ports = [] := by
      by_contra hne
      obtain ⟨x, hx⟩ := List.exists_mem_of_ne_nil _ hne
      exact hold (hext.mem_ports hs hx)
    rw [createVlans] at hs
    cases hcmd : c.cmd with
    | edit => exact absurd (by rwa [hcmd] at hs) hold
    | add =>
        rw [hcmd] at hs
        rcases created_of_written hcheck hwritten with hall | hcreated
        · rw [hall] at hs
          exact absurd hs hold
        · exact .inr ⟨hports, rfl, hcreated, hmissing⟩

/-- **When the sections are written**, from the configuration before the command. -/
theorem applies_iff {net : Network} (h : Sectioned Listed net) {c : Command} {first last : Nat}
    (hcheck : c.vlans.check = some (first, last)) :
    c.Writes first last (createVlans c (vlanArrOf net) net) ↔ c.Applies first last net := by
  obtain ⟨hsec, hext⟩ := createVlans_sectioned listed_nil h c
  rw [writes_iff hsec]
  constructor
  · rintro ⟨s, hs, hwritten, n, hn, hfree, hchange⟩
    rw [free_iff hsec, hext.free_iff] at hfree
    refine ⟨n, hn, hfree, ?_⟩
    rcases createVlans_written h hcheck hs hwritten with hold | ⟨hports, hadd, hcreated, hmissing⟩
    · exact .inl ⟨s, hold, hwritten, hchange⟩
    · rw [hports] at hchange
      exact .inr ⟨hadd, hchange, s.vlan, hcreated, hwritten, hmissing⟩
  · rintro ⟨n, hn, hfree, happlies⟩
    rw [← hext.free_iff, ← free_iff hsec] at hfree
    rcases happlies with ⟨s, hs, hwritten, hchange⟩ | ⟨hadd, hchange, v, hv, hwritten, hmissing⟩
    · exact ⟨s, hext.mem hs, hwritten, n, hn, hfree, hchange⟩
    · have hmade : ∃ s ∈ createVlans c (vlanArrOf net) net, s.vlan = v := by
        rw [createVlans, hadd]
        exact (addMissing_extends listed_nil h (nodup_created c.vlans)).2.2 v hv
      obtain ⟨s, hs, rfl⟩ := hmade
      refine ⟨s, hs, hwritten, n, hn, hfree, ?_⟩
      rcases createVlans_written h hcheck hs hwritten with hold | ⟨hports, -⟩
      · exact absurd rfl (hmissing s hold)
      · rwa [hports]

/-- A VLAN is in a range. -/
def VlanRange.Has (r : VlanRange) (v : Nat) : Prop :=
  ∃ first last, r.check = some (first, last) ∧ first ≤ v ∧ v ≤ last

/-- A command writes VLANs of its range. -/
theorem has_of_written {c : Command} {first last v : Nat}
    (hcheck : c.vlans.check = some (first, last)) (hv : v ∈ c.written first last) :
    c.vlans.Has v := by
  have hle : first ≤ last := by
    cases hvlans : c.vlans with
    | once num =>
        rw [hvlans] at hcheck
        cases hcheck
        exact Nat.le_refl _
    | range a b =>
        rw [hvlans, VlanRange.check] at hcheck
        split at hcheck
        · cases hcheck
        · cases hcheck
          omega
    | all =>
        rw [hvlans] at hcheck
        cases hcheck
        decide
  refine ⟨first, last, hcheck, ?_⟩
  rw [Command.written] at hv
  split at hv
  · cases hv
  · rw [List.mem_singleton] at hv
    omega
  · rw [List.mem_range'_1] at hv
    omega

/-- The port is in the VLAN. -/
def Member (net : Network) (v n : Nat) (st : PortState) : Prop :=
  ∃ s ∈ net, s.vlan = v ∧ portStr n st ∈ s.ports

/-- **A command is confined** to the ports and the VLANs it is given. -/
def Confined (c : Command) (net : Network) : Prop :=
  ∀ v n st, ¬(c.vlans.Has v ∧ n ∈ c.ports.ports) →
    (Member (runConfigVlan c net) v n st ↔ Member net v n st)

/-- **No change of the command applies, or it writes only sections that are read right** but for the
ports it is given. -/
def Careful (c : Command) (net : Network) : Prop :=
  ∀ first last, c.vlans.check = some (first, last) → c.Applies first last net →
    ∀ s ∈ net, s.vlan ∈ c.written first last → ∀ n, n ∉ c.ports.ports → RightlyRead s.ports n

theorem Extends.member_iff {net net' : Network} (h : Extends net net') (v n : Nat)
    (st : PortState) : Member net' v n st ↔ Member net v n st := by
  constructor
  · rintro ⟨s, hs, hv, hmem⟩
    exact ⟨s, h.mem_ports hs hmem, hv, hmem⟩
  · rintro ⟨s, hs, hv, hmem⟩
    exact ⟨s, h.mem hs, hv, hmem⟩

/-- In the only section of its VLAN. -/
theorem Sectioned.member_iff {P : List Text → Prop} {net : Network} (h : Sectioned P net)
    {s : BridgeVlan} (hs : s ∈ net) (n : Nat) (st : PortState) :
    Member net s.vlan n st ↔ portStr n st ∈ s.ports := by
  constructor
  · rintro ⟨s', hs', hv, hmem⟩
    rwa [← h.eq_of_vlan hs' hs hv]
  · exact fun hmem => ⟨s, hs, rfl, hmem⟩

/-- What is in a VLAN after its sections were written. -/
theorem member_rewrite_iff {P : List Text → Prop} {net : Network} (h : Sectioned P net)
    {nums ports : List Nat} {free : Nat → Bool} {change : Change}
    {s : BridgeVlan} (hs : s ∈ net) (n : Nat) (st : PortState) :
    Member (rewrite nums (changePorts free change ports) net) s.vlan n st ↔
      portStr n st ∈ (rewriteSection nums (changePorts free change ports) s).ports := by
  constructor
  · rintro ⟨t, ht, hv, hmem⟩
    obtain ⟨s', hs', rfl⟩ := List.mem_map.mp ht
    rw [(rewriteSection_name _ _ s').2] at hv
    rwa [← h.eq_of_vlan hs' hs hv]
  · exact fun hmem => ⟨_, List.mem_map.mpr ⟨s, hs, rfl⟩, (rewriteSection_name _ _ s).2, hmem⟩

/-- A range that is refused leaves the configuration as it is. -/
theorem runConfigVlan_refused {c : Command} (hcheck : c.vlans.check = none) (net : Network) :
    runConfigVlan c net = net := by
  simp only [runConfigVlan, hcheck]

/-- Writing sections makes no VLAN. -/
theorem section_of_rewrite {net : Network} {nums : List Nat} {f : PortTable → PortTable}
    {v n : Nat} {st : PortState} (hmem : Member (rewrite nums f net) v n st) :
    ∃ s ∈ net, s.vlan = v := by
  obtain ⟨t, ht, hvlan, -⟩ := hmem
  obtain ⟨s, hs, rfl⟩ := List.mem_map.mp ht
  rw [(rewriteSection_name _ _ s).2] at hvlan
  exact ⟨s, hs, hvlan⟩

/-- A command that writes its sections is confined when these are read right. -/
theorem confined_iff_of_rewrite {net net' : Network} (h : Sectioned Listed net)
    (hsec : Sectioned Listed net') (hext : Extends net net') {c : Command} {first last : Nat}
    (hcheck : c.vlans.check = some (first, last)) {free : Nat → Bool}
    (hrun : runConfigVlan c net =
      rewrite (c.written first last) (changePorts free c.change c.ports.ports) net') :
    Confined c net ↔ ∀ s ∈ net, s.vlan ∈ c.written first last →
      ∀ n, n ∉ c.ports.ports → RightlyRead s.ports n := by
  have hnodup := nodup_ports c.ports
  constructor
  · intro hconfined s hs hwritten n hn st
    have hsame := hconfined s.vlan n st (fun hgiven => hn hgiven.2)
    rw [hrun, member_rewrite_iff hsec (hext.mem hs), mem_rewriteSection hnodup,
      if_pos hwritten, if_neg (fun hmem => hn hmem.1), h.member_iff hs,
      lookup_tableOf_listed (h.ports s hs)] at hsame
    exact hsame
  · intro hread v n st hgiven
    rw [hrun, ← hext.member_iff]
    by_cases hv : ∃ s ∈ net', s.vlan = v
    · obtain ⟨s, hs, rfl⟩ := hv
      rw [member_rewrite_iff hsec hs, mem_rewriteSection hnodup, hsec.member_iff hs]
      by_cases hwritten : s.vlan ∈ c.written first last
      · have hn : n ∉ c.ports.ports := fun hn => hgiven ⟨has_of_written hcheck hwritten, hn⟩
        rw [if_pos hwritten, if_neg (fun hmem => hn hmem.1),
          lookup_tableOf_listed (hsec.ports s hs)]
        by_cases hempty : s.ports = []
        · rw [hempty]
          exact rightlyRead_nil n st
        · obtain ⟨x, hx⟩ := List.exists_mem_of_ne_nil _ hempty
          exact hread s (hext.mem_ports hs hx) hwritten n hn st
      · rw [if_neg hwritten]
    · constructor
      · exact fun hmem => absurd (section_of_rewrite hmem) hv
      · rintro ⟨s, hs, hvlan, -⟩
        exact absurd ⟨s, hs, hvlan⟩ hv

/-- The range of a command is checked once. -/
theorem careful_iff {net : Network} {c : Command} {first last : Nat}
    (hcheck : c.vlans.check = some (first, last)) : Careful c net ↔
      (c.Applies first last net → ∀ s ∈ net, s.vlan ∈ c.written first last →
        ∀ n, n ∉ c.ports.ports → RightlyRead s.ports n) := by
  constructor
  · exact fun hcareful => hcareful first last hcheck
  · intro hread first' last' hcheck'
    rw [hcheck, Option.some.injEq, Prod.mk.injEq] at hcheck'
    obtain ⟨rfl, rfl⟩ := hcheck'
    exact hread

/-- **A command is confined exactly when it is careful.** -/
theorem confined_iff_careful {net : Network} (h : Sectioned Listed net) (c : Command) :
    Confined c net ↔ Careful c net := by
  cases hcheck : c.vlans.check with
  | none =>
      refine iff_of_true (fun v n st _ => by rw [runConfigVlan_refused hcheck]) ?_
      intro first last hsome
      rw [hcheck] at hsome
      cases hsome
  | some range =>
      obtain ⟨first, last⟩ := range
      obtain ⟨hsec, hext⟩ := createVlans_sectioned listed_nil h c
      have hrun := runConfigVlan_sectioned listed_nil (fun _ => setPorts_listed) h c hcheck
      rw [runPorts_eq, Command.loop, writeChanges_eq hsec (nodup_written c first last)] at hrun
      rw [careful_iff hcheck, ← applies_iff h hcheck, Command.Writes, Command.loop]
      split at hrun
      · rename_i hcount
        rw [confined_iff_of_rewrite h hsec hext hcheck hrun]
        exact ⟨fun hread _ => hread, fun hread => hread hcount⟩
      · rename_i hcount
        refine iff_of_true (fun v n st _ => ?_) (fun hpos => absurd hpos hcount)
        rw [hrun]
        exact hext.member_iff v n st

/-- **A section comes back as it was** exactly when it is legible, and a command is confined to
its ports and VLANs exactly when it is careful. -/
theorem confined_iff {ports : List Text} (hports : Listed ports) {net : Network}
    (hnet : Sectioned Listed net) (c : Command) :
    (ReadsBack ports ↔ Legible ports) ∧ (Confined c net ↔ Careful c net) :=
  ⟨readsBack_iff_legible hports, confined_iff_careful hnet c⟩

/-- A configuration with one VLAN. -/
theorem sectioned_singleton {num : Nat} {ports : List Text} (h : Listed ports) :
    Sectioned Listed [⟨vlanName num, num, ports⟩] := by
  refine ⟨by simp, by simp, ?_, ?_⟩
  · intro s hs k hname
    obtain rfl := List.mem_singleton.mp hs
    exact vlanName_injective hname
  · intro s hs
    obtain rfl := List.mem_singleton.mp hs
    exact h

/-- The port 10 is tagged in VLAN 2. -/
def tenTagged : Network := [⟨vlanName 2, 2, [portStr 10 .tagged]⟩]

theorem tenTagged_listed : Listed [portStr 10 .tagged] := by
  intro x hx
  exact ⟨10, .tagged, List.mem_singleton.mp hx⟩

theorem tenTagged_sectioned : Sectioned Listed tenTagged := sectioned_singleton tenTagged_listed

/-- Port 3 is added to VLAN 2. -/
def addThree : Command := ⟨.add, .tagged, .once 2, ⟨3, 3, by decide, by decide, by decide⟩⟩

/-- The port 5 is tagged in VLAN 2. -/
def fiveTagged : Network := [⟨vlanName 2, 2, [portStr 5 .tagged]⟩]

theorem fiveTagged_listed : Listed [portStr 5 .tagged] := by
  intro x hx
  exact ⟨5, .tagged, List.mem_singleton.mp hx⟩

theorem fiveTagged_legible : Legible [portStr 5 .tagged] := by
  intro n htagged
  obtain ⟨rfl, -⟩ := portStr_injective (List.mem_singleton.mp htagged)
  exact ⟨by decide, by decide⟩

theorem addThree_careful : Careful addThree fiveTagged := by
  intro first last _ _ s hs _ n _
  obtain rfl := List.mem_singleton.mp hs
  exact fiveTagged_legible.rightlyRead fiveTagged_listed n

theorem addThree_not_careful : ¬ Careful addThree tenTagged := by
  intro hcareful
  have hfree : addThree.Free 2 tenTagged 3 := by
    intro s hs
    obtain rfl := List.mem_singleton.mp hs
    decide
  have happlies : addThree.Applies 2 2 tenTagged :=
    ⟨3, by decide, hfree, .inl ⟨_, List.mem_singleton_self _, by decide, by decide⟩⟩
  have hread := hcareful 2 2 rfl happlies _ (List.mem_singleton_self _) (by decide) 10 (by decide)
    .tagged
  exact absurd (hread.mpr (List.mem_singleton_self _)) (by decide)

/-- Port 5 stays tagged when port 3 is added, port 10 does not. -/
theorem confined_iff_addThree :
    (ReadsBack [portStr 5 .tagged] ∧ Confined addThree fiveTagged) ∧
      ¬ Confined addThree tenTagged := by
  obtain ⟨hback, hfive⟩ :=
    confined_iff fiveTagged_listed (sectioned_singleton fiveTagged_listed) addThree
  have hten := confined_iff tenTagged_listed tenTagged_sectioned addThree
  exact ⟨⟨hback.mpr fiveTagged_legible, hfive.mpr addThree_careful⟩,
    fun hconfined => addThree_not_careful (hten.2.mp hconfined)⟩

/-- **Adding port 3 to a VLAN moves its tagged port 10 to port 0.** -/
theorem addThree_not_confined :
    ¬ ∀ (c : Command) (net : Network), Sectioned Listed net → Confined c net := by
  intro h
  have hout : ¬(addThree.vlans.Has 2 ∧ 10 ∈ addThree.ports.ports) := by
    rintro ⟨-, hmem⟩
    exact absurd hmem (by decide)
  have hsame := h addThree tenTagged tenTagged_sectioned 2 10 .tagged hout
  have hbefore : Member tenTagged 2 10 .tagged :=
    ⟨_, List.mem_singleton_self _, rfl, List.mem_singleton_self _⟩
  obtain ⟨s, hs, -, hmem⟩ := hsame.mpr hbefore
  have hnone : (runConfigVlan addThree tenTagged).all
      (fun s => !s.ports.contains (portStr 10 .tagged)) = true := by decide +kernel
  have hlost := List.all_eq_true.mp hnone s hs
  simp [hmem] at hlost

end Vlan
