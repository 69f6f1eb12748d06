import TfPack.Vlan.Config

set_option autoImplicit false

/-! # Which VLANs are marked

`getVlanArr` has an entry for each section `bridge-vlan` (`getVlanArr_entries`), and marks it with
the interfaces that are shown on the switch and have the VLAN in their staged device. A VLAN stays
when it is deleted exactly when it is marked (`hasVlan_runDelete_iff`).
-/

namespace Vlan

open SectionStore

/-! ## Devices -/

theorem dot_not_mem_decimal (n : Nat) : '.' ∉ decimal n := by
  intro hmem
  have hdigit := isDigit_decimal hmem
  exact absurd hdigit (by decide)

/-- The device of a VLAN is read as the VLAN. -/
theorem pieces_vlanDevice (n : Nat) : pieces (vlanDevice n) = ["switch".toList, decimal n] := by
  have hsplit : vlanDevice n = "switch".toList ++ '.' :: decimal n := rfl
  have hne : (decimal n).isEmpty = false := by
    rw [List.isEmpty_eq_false_iff]
    exact decimal_ne_nil n
  rw [pieces, hsplit, List.splitOn_append_cons_self_of_not_mem (by decide),
    List.splitOn_eq_singleton (dot_not_mem_decimal n), List.filter_cons_of_pos (by decide),
    List.filter_cons_of_pos (by simp [hne]), List.filter_nil]

theorem namesVlan_vlanDevice {m n : Nat} : namesVlan (vlanDevice m) n = true ↔ m = n := by
  rw [namesVlan, pieces_vlanDevice]
  simp only [beq_self_eq_true, Bool.true_and, beq_iff_eq]
  exact ⟨decimal_injective, congrArg decimal⟩

/-! ## What is shown -/

/-- The interface runs on the switch. -/
def Shown (s : Net) (ifName : Text) : Prop :=
  ∃ device, (ifName, some device) ∈ dump s.running ∧ "switch".toList <+: device

/-- The staged device of the interface names the VLAN. -/
def stagedOn (s : Net) (ifName : Text) (num : Nat) : Bool :=
  (deviceOf ifName s.staged).any (fun device => namesVlan device num)

/-- **A VLAN is marked** when an interface that is shown has it in its staged device. -/
def Marked (s : Net) (num : Nat) : Prop :=
  ∃ ifName, Shown s ifName ∧ stagedOn s ifName num = true

theorem mem_getIfList {l : List (Text × Option Text)} {ifs : List Text}
    (h : getIfList l = some ifs) (ifName : Text) :
    ifName ∈ ifs ↔ ∃ device, (ifName, some device) ∈ l ∧ "switch".toList <+: device := by
  induction l generalizing ifs with
  | nil =>
      cases h
      simp
  | cons p l ih =>
      obtain ⟨i, _ | device⟩ := p
      · cases h
      · obtain ⟨ifs', hifs', rfl⟩ := Option.map_eq_some_iff.mp h
        have ih := ih hifs'
        by_cases hswitch : "switch".toList <+: device
        · rw [if_pos hswitch, List.mem_cons, ih]
          constructor
          · rintro (rfl | ⟨d, hd, hpre⟩)
            · exact ⟨device, List.mem_cons_self, hswitch⟩
            · exact ⟨d, List.mem_cons_of_mem _ hd, hpre⟩
          · rintro ⟨d, hd, hpre⟩
            rcases List.mem_cons.mp hd with heq | hd
            · exact .inl (Prod.mk.inj heq).1
            · exact .inr ⟨d, hd, hpre⟩
        · rw [if_neg hswitch, ih]
          constructor
          · rintro ⟨d, hd, hpre⟩
            exact ⟨d, List.mem_cons_of_mem _ hd, hpre⟩
          · rintro ⟨d, hd, hpre⟩
            rcases List.mem_cons.mp hd with heq | hd
            · obtain rfl := Option.some.inj (Prod.mk.inj heq).2
              exact absurd hpre hswitch
            · exact ⟨d, hd, hpre⟩

/-- One interface is added to the entries of its VLAN. -/
theorem getMngmntVlan_fst (s : Net) (vlanArr : List VlanInfo) (ifName : Text) :
    (getMngmntVlan s vlanArr ifName).1 = vlanArr.map (fun v =>
      { v with ifname := v.ifname ++ [ifName].filter (fun i => stagedOn s i v.num) }) := by
  have hkeep : ∀ v : VlanInfo, ({ v with ifname := v.ifname ++ [] } : VlanInfo) = v := by
    intro v
    rw [List.append_nil]
  rw [getMngmntVlan]
  cases hdev : deviceOf ifName s.staged with
  | none =>
      symm
      calc vlanArr.map (fun v => { v with
              ifname := v.ifname ++ [ifName].filter (fun i => stagedOn s i v.num) })
          = vlanArr.map id := by
            refine List.map_congr_left (fun v _ => ?_)
            rw [List.filter_cons_of_neg (by simp [stagedOn, hdev]), List.filter_nil, hkeep, id]
        _ = vlanArr := List.map_id _
  | some device =>
      refine List.map_congr_left (fun v _ => ?_)
      by_cases hnames : namesVlan device v.num = true
      · rw [if_pos hnames, List.filter_cons_of_pos (by simp [stagedOn, hdev, hnames]),
          List.filter_nil]
      · rw [if_neg hnames, List.filter_cons_of_neg (by simp [stagedOn, hdev, hnames]),
          List.filter_nil, hkeep]

/-- The entries after all interfaces. -/
theorem markVlans_fst (s : Net) (ifs : List Text) (vlanArr : List VlanInfo) :
    (markVlans s ifs vlanArr).1 = vlanArr.map (fun v =>
      { v with ifname := v.ifname ++ ifs.filter (fun i => stagedOn s i v.num) }) := by
  have hfold : ∀ acc : List VlanInfo × List Text,
      (ifs.foldl (fun acc ifName =>
        let r := getMngmntVlan s acc.1 ifName
        (r.1, if r.2 then acc.2 ++ [ifName] else acc.2)) acc).1 = acc.1.map (fun v =>
          { v with ifname := v.ifname ++ ifs.filter (fun i => stagedOn s i v.num) }) := by
    induction ifs with
    | nil =>
        intro acc
        simp only [List.filter_nil, List.append_nil, List.map_id', List.foldl_nil]
    | cons i ifs ih =>
        intro acc
        rw [List.foldl_cons, ih, getMngmntVlan_fst, List.map_map]
        refine List.map_congr_left (fun v _ => ?_)
        simp only [Function.comp_apply, List.append_assoc, ← List.filter_append,
          List.singleton_append]
  exact hfold (vlanArr, [])

/-! ## The entries -/

/-- The section is the one of a VLAN. -/
def IsVlan (sec : Section Text Value) (num : Nat) : Prop :=
  sec.type = "bridge-vlan".toList ∧ sec.options "vlan".toList = some (.num num)

/-- The VLAN is in the configuration. -/
def HasVlan (cfg : Config) (num : Nat) : Prop := ∃ sec ∈ cfg, IsVlan sec num

/-- What `bridgeVlan` reads. -/
theorem bridgeVlan_eq_some {sec : Section Text Value} {b : BridgeVlan}
    (h : bridgeVlan sec = some b) :
    b.name = sec.name ∧ sec.options "vlan".toList = some (.num b.vlan) := by
  rw [bridgeVlan] at h
  split at h
  · next n hvlan hports =>
      cases h
      exact ⟨rfl, hvlan⟩
  · next n ports hvlan hports =>
      cases h
      exact ⟨rfl, hvlan⟩
  · cases h

theorem mem_of_mapM {α β : Type} {f : α → Option β} {l : List α} {r : List β}
    (h : l.mapM f = some r) : (∀ a ∈ l, ∃ b ∈ r, f a = some b) ∧ ∀ b ∈ r, ∃ a ∈ l, f a = some b := by
  induction l generalizing r with
  | nil =>
      cases h
      simp
  | cons a l ih =>
      rw [List.mapM_cons] at h
      obtain ⟨b, hb, h⟩ := Option.bind_eq_some_iff.mp h
      obtain ⟨r', hr', h⟩ := Option.bind_eq_some_iff.mp h
      obtain rfl := Option.some.inj h
      obtain ⟨hto, hfrom⟩ := ih hr'
      constructor
      · intro x hx
        rcases List.mem_cons.mp hx with rfl | hx
        · exact ⟨b, List.mem_cons_self, hb⟩
        · obtain ⟨y, hy, hxy⟩ := hto x hx
          exact ⟨y, List.mem_cons_of_mem _ hy, hxy⟩
      · intro y hy
        rcases List.mem_cons.mp hy with rfl | hy
        · exact ⟨a, List.mem_cons_self, hb⟩
        · obtain ⟨x, hx, hxy⟩ := hfrom y hy
          exact ⟨x, List.mem_cons_of_mem _ hx, hxy⟩

/-- The entries that are read are those of the sections. -/
theorem entries_of_read {cfg : Config} {vlanArr : List VlanEntry}
    (h : (bridgeVlans cfg).bind getBridgeVlanList = some vlanArr) :
    (∀ sec ∈ cfg, ∀ n, IsVlan sec n → ∃ v ∈ vlanArr, v.id = sec.name ∧ v.num = n) ∧
    ∀ v ∈ vlanArr, ∃ sec ∈ cfg, IsVlan sec v.num ∧ sec.name = v.id := by
  obtain ⟨net, hnet, hlist⟩ := Option.bind_eq_some_iff.mp h
  obtain ⟨hto, hfrom⟩ := mem_of_mapM hnet
  obtain ⟨hto', hfrom'⟩ := mem_of_mapM hlist
  constructor
  · rintro sec hsec n ⟨htype, hvlan⟩
    obtain ⟨b, hb, hread⟩ := hto sec (List.mem_filter.mpr ⟨hsec, by simpa using htype⟩)
    obtain ⟨hname, hnum⟩ := bridgeVlan_eq_some hread
    obtain ⟨v, hv, hentry⟩ := hto' b hb
    obtain ⟨ports, -, rfl⟩ := Option.map_eq_some_iff.mp hentry
    refine ⟨_, hv, hname, ?_⟩
    rw [hvlan, Option.some.injEq, Value.num.injEq] at hnum
    exact hnum.symm
  · intro v hv
    obtain ⟨b, hb, hentry⟩ := hfrom' v hv
    obtain ⟨ports, -, rfl⟩ := Option.map_eq_some_iff.mp hentry
    obtain ⟨sec, hsec, hread⟩ := hfrom b hb
    obtain ⟨hname, hnum⟩ := bridgeVlan_eq_some hread
    obtain ⟨hmem, htype⟩ := List.mem_filter.mp hsec
    exact ⟨sec, hmem, ⟨by simpa using htype, hnum⟩, hname.symm⟩

/-- **The entries of `vlanArr`**: one for each VLAN, and it has interfaces when it is marked. -/
theorem getVlanArr_entries {s : Net} {vlanArr : List VlanInfo} {deleted : List Text}
    (h : getVlanArr s = some (vlanArr, deleted)) :
    (∀ sec ∈ s.staged, ∀ n, IsVlan sec n → ∃ v ∈ vlanArr, v.id = sec.name ∧ v.num = n) ∧
    (∀ v ∈ vlanArr, ∃ sec ∈ s.staged, IsVlan sec v.num ∧ sec.name = v.id) ∧
    ∀ v ∈ vlanArr, v.ifname ≠ [] ↔ Marked s v.num := by
  rw [getVlanArr] at h
  split at h
  · next entries ifs hread hifs =>
      obtain ⟨hto, hfrom⟩ := entries_of_read hread
      have harr := markVlans_fst s ifs (entries.map (fun v => (⟨v, []⟩ : VlanInfo)))
      rw [Option.some.injEq] at h
      rw [h] at harr
      have hmem : ∀ v, v ∈ vlanArr ↔
          ∃ e ∈ entries, ⟨e, ifs.filter (fun i => stagedOn s i e.num)⟩ = v := by
        intro v
        have harr' : vlanArr = _ := harr
        rw [harr', List.map_map, List.mem_map]
        rfl
      refine ⟨?_, ?_, ?_⟩
      · intro sec hsec n hvlan
        obtain ⟨e, he, hid, hnum⟩ := hto sec hsec n hvlan
        exact ⟨_, (hmem _).mpr ⟨e, he, rfl⟩, hid, hnum⟩
      · intro v hv
        obtain ⟨e, he, rfl⟩ := (hmem v).mp hv
        exact hfrom e he
      · intro v hv
        obtain ⟨e, he, rfl⟩ := (hmem v).mp hv
        constructor
        · intro hne
          obtain ⟨i, hi⟩ := List.exists_mem_of_ne_nil _ hne
          obtain ⟨hi, hon⟩ := List.mem_filter.mp hi
          exact ⟨i, (mem_getIfList hifs i).mp hi, hon⟩
        · rintro ⟨i, hshown, hon⟩ hnil
          have hi : i ∈ ifs.filter (fun i => stagedOn s i e.num) :=
            List.mem_filter.mpr ⟨(mem_getIfList hifs i).mpr hshown, hon⟩
          rw [show ifs.filter (fun i => stagedOn s i e.num) = [] from hnil] at hi
          cases hi
  · cases h

/-! ## What is deleted -/

theorem mem_delete_iff {id : Text} {s : Net} {sec : Section Text Value} :
    sec ∈ (s.delete id).staged ↔ sec ∈ s.staged ∧ sec.name ≠ id := by
  rw [Net.delete]
  split
  · exact mem_delete
  · next hnone =>
      rw [Option.not_isSome_iff_eq_none, find_eq_none] at hnone
      exact ⟨fun hmem => ⟨hmem, hnone sec hmem⟩, And.left⟩

/-- The entry is deleted with a range: it is in it and has no interface. -/
def VlanInfo.goes (first last : Nat) (v : VlanInfo) : Prop :=
  first ≤ v.num ∧ v.num ≤ last ∧ v.ifname = []

theorem mem_vlanDelete_iff (vlanArr : List VlanInfo) (first last : Nat) (s : Net)
    (sec : Section Text Value) : sec ∈ (vlanDelete vlanArr first last s).staged ↔
      sec ∈ s.staged ∧ ∀ v ∈ vlanArr, v.goes first last → sec.name ≠ v.id := by
  rw [vlanDelete]
  induction vlanArr generalizing s with
  | nil => simp
  | cons v vlanArr ih =>
      have hgoes : (first ≤ v.num && v.num ≤ last && v.ifname.isEmpty) = true ↔
          v.goes first last := by
        simp [VlanInfo.goes, and_assoc]
      rw [List.foldl_cons, ih, List.forall_mem_cons]
      by_cases hv : v.goes first last
      · rw [if_pos (hgoes.mpr hv), mem_delete_iff, and_assoc]
        exact and_congr_right fun _ => and_congr_left fun _ =>
          ⟨fun hne _ => hne, fun hne => hne hv⟩
      · rw [if_neg (fun hg => hv (hgoes.mp hg))]
        exact and_congr_right fun _ => ⟨fun hall => ⟨fun hg => absurd hg hv, hall⟩, And.right⟩

/-- The command can read the configuration. -/
def Readable (s : Net) : Prop := (getVlanArr s).isSome

/-- **What is left after a range is deleted**: the VLANs outside of it, and those marked. -/
theorem hasVlan_runDelete_iff {s : Net} (hnamed : Store.Named s.staged) (hread : Readable s)
    (vlans : VlanRange) (n : Nat) : HasVlan (runDelete vlans s).staged n ↔
      HasVlan s.staged n ∧ (vlans.Has n → Marked s n) := by
  obtain ⟨⟨vlanArr, deleted⟩, harr⟩ := Option.isSome_iff_exists.mp hread
  obtain ⟨hto, hfrom, hmarked⟩ := getVlanArr_entries harr
  rw [runDelete, harr]
  cases hcheck : vlans.check with
  | none =>
      have hout : ¬ vlans.Has n := by
        rintro ⟨first, last, hsome, -⟩
        rw [hcheck] at hsome
        cases hsome
      exact ⟨fun h => ⟨h, fun hin => absurd hin hout⟩, And.left⟩
  | some range =>
      obtain ⟨first, last⟩ := range
      have hin : vlans.Has n ↔ first ≤ n ∧ n ≤ last := by
        constructor
        · rintro ⟨first', last', hsome, hle⟩
          rw [hcheck, Option.some.injEq, Prod.mk.injEq] at hsome
          obtain ⟨rfl, rfl⟩ := hsome
          exact hle
        · exact fun hle => ⟨first, last, hcheck, hle⟩
      rw [hin]
      constructor
      · rintro ⟨sec, hsec, hvlan⟩
        obtain ⟨hsec, hkept⟩ := (mem_vlanDelete_iff _ _ _ _ _).mp hsec
        refine ⟨⟨sec, hsec, hvlan⟩, fun hle => ?_⟩
        obtain ⟨v, hv, hid, hnum⟩ := hto sec hsec n hvlan
        subst hnum
        rw [← hmarked v hv]
        exact fun hnil => hkept v hv ⟨hle.1, hle.2, hnil⟩ hid.symm
      · rintro ⟨⟨sec, hsec, hvlan⟩, hmark⟩
        refine ⟨sec, (mem_vlanDelete_iff _ _ _ _ _).mpr ⟨hsec, ?_⟩, hvlan⟩
        rintro v hv ⟨hfirst, hlast, hnil⟩ hid
        -- the entry is that of the section, which is marked
        obtain ⟨sec', hsec', hvlan', hname⟩ := hfrom v hv
        obtain rfl := eq_of_name hnamed hsec hsec' (hid.trans hname.symm)
        have hnum : v.num = n := by
          have heq := hvlan'.2.symm.trans hvlan.2
          simpa using heq
        subst hnum
        exact (hmarked v hv).mpr (hmark ⟨hfirst, hlast⟩) hnil

theorem runDelete_unreadable {s : Net} (hread : ¬ Readable s) (vlans : VlanRange) :
    runDelete vlans s = s := by
  rw [Readable, Option.not_isSome_iff_eq_none] at hread
  rw [runDelete, hread]
  cases vlans.check with
  | none => rfl
  | some range => rfl

end Vlan
