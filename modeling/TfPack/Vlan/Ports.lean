import Mathlib.Data.List.Induction
import TfPack.Vlan.Commands

set_option autoImplicit false

/-! # Ports as the commands see them

A section is plain when it names each port of the device once. The table that is decoded from it
has the untagged ports as they are, and the tagged ports with the last digit of their numbers
(`lookup_tableOf`); a table that is written gives a plain section with the same ports
(`mem_namesOf`).
-/

namespace Vlan

/-! ## Names -/

theorem decimal_injective {n m : Nat} (h : decimal n = decimal m) : n = m := by
  have hvalue := congrArg (fun l => Nat.ofDigitChars 10 l 0) h
  simpa [decimal] using hvalue

/-- The number under which a port is decoded. -/
def decodedNum (num : Nat) : PortState → Nat
  | .untagged => num
  | .tagged => num % 10

theorem getPortType_portStr (num : Nat) (state : PortState) :
    getPortType (portStr num state) = some (decodedNum num state, state) := by
  cases state with
  | tagged => exact getPortType_tagged num
  | untagged => exact getPortType_untagged num

theorem portStr_injective {n m : Nat} {s r : PortState} (h : portStr n s = portStr m r) :
    n = m ∧ s = r := by
  have hdecoded := congrArg getPortType h
  rw [getPortType_portStr, getPortType_portStr, Option.some.injEq, Prod.mk.injEq] at hdecoded
  obtain ⟨-, rfl⟩ := hdecoded
  refine ⟨?_, rfl⟩
  cases s with
  | untagged => exact decimal_injective (List.append_cancel_left h)
  | tagged => exact decimal_injective (List.append_cancel_right (List.append_cancel_left h))

/-! ## Tables -/

/-- **A table filled with pairs has these pairs**, when they agree on each key. -/
theorem lookup_foldl_insert {l : List (Nat × PortState)}
    (h : ∀ p ∈ l, ∀ q ∈ l, p.1 = q.1 → p.2 = q.2) (k : Nat) (v : PortState) :
    (l.foldl (fun t p => t.insert p.1 p.2) (∅ : PortTable)).lookup k = some v ↔ (k, v) ∈ l := by
  induction l using List.reverseRecOn with
  | nil => simp
  | append_singleton l p ih =>
      have hl : ∀ q ∈ l, ∀ r ∈ l, q.1 = r.1 → q.2 = r.2 := fun q hq r hr =>
        h q (List.mem_append_left _ hq) r (List.mem_append_left _ hr)
      rw [List.foldl_append, List.foldl_cons, List.foldl_nil, List.mem_append,
        List.mem_singleton]
      by_cases hk : k = p.1
      · subst hk
        rw [AList.lookup_insert, Option.some.injEq]
        constructor
        · rintro rfl
          exact .inr rfl
        · rintro (hmem | heq)
          · exact h p (by simp) (p.1, v) (by simp [hmem]) rfl
          · exact (congrArg Prod.snd heq).symm
      · rw [AList.lookup_insert_ne hk, ih hl]
        constructor
        · exact .inl
        · rintro (hmem | heq)
          · exact hmem
          · exact absurd (congrArg Prod.fst heq) hk

/-- One port of a table changed. -/
theorem lookup_changePort (change : Change) (i : Nat) (t : PortTable) (n : Nat) :
    (changePort change i t).lookup n =
      if n = i then (change (t.lookup i)).getD (t.lookup i) else t.lookup n := by
  unfold changePort
  by_cases hn : n = i
  · subst hn
    rw [if_pos rfl]
    cases hc : change (t.lookup n) with
    | none => rfl
    | some o =>
        cases o with
        | none => rw [AList.lookup_erase, Option.getD_some]
        | some state => rw [AList.lookup_insert, Option.getD_some]
  · rw [if_neg hn]
    cases hc : change (t.lookup i) with
    | none => rfl
    | some o =>
        cases o with
        | none => exact AList.lookup_erase_ne hn
        | some state => exact AList.lookup_insert_ne hn

/-- The copy of a VLAN after the loop. -/
def changePorts (free : Nat → Bool) (change : Change) (ports : List Nat) (t : PortTable) :
    PortTable :=
  ports.foldl (fun t i => if free i then changePort change i t else t) t

/-- **The loop changes each free port once.** -/
theorem lookup_changePorts {free : Nat → Bool} {change : Change} {ports : List Nat}
    (h : ports.Nodup) (t : PortTable) (n : Nat) :
    (changePorts free change ports t).lookup n =
      if n ∈ ports ∧ free n = true then (change (t.lookup n)).getD (t.lookup n)
      else t.lookup n := by
  induction ports generalizing t with
  | nil => simp [changePorts]
  | cons i ports ih =>
      rw [List.nodup_cons] at h
      have hstep : changePorts free change (i :: ports) t =
          changePorts free change ports (if free i then changePort change i t else t) := rfl
      rw [hstep, ih h.2]
      by_cases hn : n = i
      · subst hn
        by_cases hfree : free n = true
        · rw [if_neg (fun hmem => h.1 hmem.1), if_pos hfree, lookup_changePort, if_pos rfl,
            if_pos ⟨List.mem_cons_self, hfree⟩]
        · rw [if_neg (fun hmem => h.1 hmem.1), if_neg hfree, if_neg (fun hmem => hfree hmem.2)]
      · have hlookup : (if free i then changePort change i t else t).lookup n = t.lookup n := by
          split
          · rw [lookup_changePort, if_neg hn]
          · rfl
        have hmem : n ∈ i :: ports ↔ n ∈ ports := by simp [hn]
        rw [hlookup]
        simp only [hmem]

theorem portLoop_fst (free : Nat → Bool) (change : Change) (busy : List (Nat × PortTable))
    (ports : List Nat) :
    (portLoop free change busy ports).1 =
      busy.map (fun p => (p.1, changePorts free change ports p.2)) := by
  have hfold : ∀ (acc : List (Nat × PortTable) × Nat),
      (ports.foldl (fun acc i =>
        if free i then
          (acc.1.map (fun p => (p.1, changePort change i p.2)),
            acc.2 + acc.1.countP (fun p => (change (p.2.lookup i)).isSome))
        else acc) acc).1 = acc.1.map (fun p => (p.1, changePorts free change ports p.2)) := by
    induction ports with
    | nil =>
        intro acc
        exact (List.map_id acc.1).symm
    | cons i ports ih =>
        intro acc
        rw [List.foldl_cons, ih]
        by_cases hfree : free i = true
        · rw [if_pos hfree, List.map_map]
          apply List.map_congr_left
          intro p _
          simp [changePorts, hfree]
        · rw [if_neg hfree]
          apply List.map_congr_left
          intro p _
          simp [changePorts, hfree]
  exact hfold (busy, 0)

/-- A port that is free and changes a copy is counted. -/
theorem portLoop_snd_pos (free : Nat → Bool) (change : Change) (busy : List (Nat × PortTable))
    {ports : List Nat} (h : ports.Nodup) {i : Nat} (hi : i ∈ ports) (hfree : free i = true)
    {p : Nat × PortTable} (hp : p ∈ busy) (hchange : (change (p.2.lookup i)).isSome = true) :
    0 < (portLoop free change busy ports).2 := by
  have hmono : ∀ (ports : List Nat) (acc : List (Nat × PortTable) × Nat), acc.2 ≤
      (ports.foldl (fun acc i =>
        if free i then
          (acc.1.map (fun p => (p.1, changePort change i p.2)),
            acc.2 + acc.1.countP (fun p => (change (p.2.lookup i)).isSome))
        else acc) acc).2 := by
    intro ports
    induction ports with
    | nil => exact fun acc => Nat.le_refl _
    | cons j ports ih =>
        intro acc
        rw [List.foldl_cons]
        refine le_trans ?_ (ih _)
        split
        · exact Nat.le_add_right _ _
        · exact Nat.le_refl _
  -- until its turn comes the port is as it was in the copy
  obtain ⟨before, after, rfl⟩ := List.append_of_mem hi
  have hsame : (changePorts free change before p.2).lookup i = p.2.lookup i := by
    rw [List.nodup_append] at h
    rw [lookup_changePorts h.1, if_neg]
    exact fun hmem => h.2.2 i hmem.1 i List.mem_cons_self rfl
  have hfst := portLoop_fst free change busy before
  rw [portLoop, List.foldl_append, List.foldl_cons, if_pos hfree]
  refine lt_of_lt_of_le ?_ (hmono after _)
  have hcount : 0 < (portLoop free change busy before).1.countP
      (fun p => (change (p.2.lookup i)).isSome) := by
    rw [List.countP_pos_iff, hfst]
    exact ⟨_, List.mem_map.mpr ⟨p, hp, rfl⟩, by rw [hsame, hchange]⟩
  exact Nat.add_pos_right _ hcount

theorem changePort_of_none {change : Change} {i : Nat} {t : PortTable}
    (h : change (t.lookup i) = none) : changePort change i t = t := by
  rw [changePort, h]

/-- **The copies are written exactly when a free port changes one of them.** -/
theorem portLoop_pos_iff {free : Nat → Bool} {change : Change} {busy : List (Nat × PortTable)}
    {ports : List Nat} (h : ports.Nodup) : 0 < (portLoop free change busy ports).2 ↔
      ∃ i ∈ ports, free i = true ∧ ∃ p ∈ busy, change (p.2.lookup i) ≠ none := by
  constructor
  · intro hpos
    by_contra hnone
    have hstill : ∀ i ∈ ports, free i = true → ∀ p ∈ busy, change (p.2.lookup i) = none := by
      intro i hi hfree p hp
      by_contra hchange
      exact hnone ⟨i, hi, hfree, p, hp, hchange⟩
    -- then no iteration changes the copies or the count
    have hfold : portLoop free change busy ports = (busy, 0) := by
      clear hpos hnone h
      rw [portLoop]
      induction ports with
      | nil => rfl
      | cons i ports ih =>
          have hrest := ih (fun j hj => hstill j (List.mem_cons_of_mem i hj))
          rw [List.foldl_cons]
          by_cases hfree : free i = true
          · have hsame := hstill i List.mem_cons_self hfree
            have hmap : busy.map (fun p => (p.1, changePort change i p.2)) = busy := by
              refine (List.map_congr_left fun p hp => ?_).trans (List.map_id busy)
              rw [changePort_of_none (hsame p hp)]
              rfl
            have hcount : busy.countP (fun p => (change (p.2.lookup i)).isSome) = 0 := by
              rw [List.countP_eq_zero]
              intro p hp
              rw [hsame p hp]
              exact Bool.false_ne_true
            rw [if_pos hfree, hmap, hcount]
            exact hrest
          · rw [if_neg hfree]
            exact hrest
    rw [hfold] at hpos
    exact absurd hpos (Nat.lt_irrefl 0)
  · rintro ⟨i, hi, hfree, p, hp, hchange⟩
    exact portLoop_snd_pos free change busy h hi hfree hp (Option.isSome_iff_ne_none.mpr hchange)

/-! ## Plain sections -/

/-- The ports of the device; port 0 is what is written for a tagged port 10. -/
def IsPort (p : Nat × PortState) : Prop := p.1 ≤ 10 ∧ (p.2 = .untagged → 1 ≤ p.1)

/-- **The ports are those of the device, each of them once.** -/
def Plain (ports : List Text) : Prop :=
  ∃ entries : List (Nat × PortState), ports = entries.map (fun p => portStr p.1 p.2) ∧
    (entries.map Prod.fst).Nodup ∧ ∀ p ∈ entries, IsPort p

/-- The table of a section. -/
def tableOf (ports : List Text) : PortTable := (setPorts ports).getD ∅

/-- The names of a table. -/
def namesOf (t : PortTable) : List Text := t.entries.map (fun p => portStr p.1 p.2)

theorem mem_portStr_iff {entries : List (Nat × PortState)} {n : Nat} {st : PortState} :
    portStr n st ∈ entries.map (fun p => portStr p.1 p.2) ↔ (n, st) ∈ entries := by
  rw [List.mem_map]
  constructor
  · rintro ⟨⟨m, r⟩, hmem, heq⟩
    obtain ⟨rfl, rfl⟩ := portStr_injective heq
    exact hmem
  · exact fun hmem => ⟨(n, st), hmem, rfl⟩

/-- A plain section has each port in one state. -/
theorem Plain.state_eq {ports : List Text} (h : Plain ports) {n : Nat} {s r : PortState}
    (hs : portStr n s ∈ ports) (hr : portStr n r ∈ ports) : s = r := by
  obtain ⟨entries, rfl, hnodup, -⟩ := h
  rw [mem_portStr_iff] at hs hr
  exact congrArg Prod.snd (List.inj_on_of_nodup_map hnodup hs hr rfl)

theorem Plain.isPort {ports : List Text} (h : Plain ports) {n : Nat} {s : PortState}
    (hs : portStr n s ∈ ports) : IsPort (n, s) := by
  obtain ⟨entries, rfl, -, hports⟩ := h
  exact hports _ (mem_portStr_iff.mp hs)

/-- The decoded pairs of some ports. -/
theorem mapM_getPortType (entries : List (Nat × PortState)) :
    (entries.map (fun p => portStr p.1 p.2)).mapM getPortType =
      some (entries.map (fun p => (decodedNum p.1 p.2, p.2))) := by
  induction entries with
  | nil => rfl
  | cons p entries ih =>
      rw [List.map_cons, List.mapM_cons, getPortType_portStr, ih]
      rfl

/-- Ports that are decoded as one are in one state. -/
theorem decodedNum_eq {p q : Nat × PortState} (hp : IsPort p) (hq : IsPort q)
    (h : decodedNum p.1 p.2 = decodedNum q.1 q.2) : p.1 = q.1 ∨ p.2 = q.2 := by
  obtain ⟨n, s⟩ := p
  obtain ⟨m, r⟩ := q
  cases s with
  | tagged =>
      cases r with
      | tagged => exact .inr rfl
      | untagged =>
          have hle : n ≤ 10 := hp.1
          have hpos : 1 ≤ m := hq.2 rfl
          have hmod : n % 10 = m := h
          refine .inl ?_
          show n = m
          omega
  | untagged =>
      cases r with
      | untagged => exact .inr rfl
      | tagged =>
          have hle : m ≤ 10 := hq.1
          have hpos : 1 ≤ n := hp.2 rfl
          have hmod : n = m % 10 := h
          refine .inl ?_
          show n = m
          omega

theorem setPorts_plain {ports : List Text} (h : Plain ports) :
    setPorts ports = some (tableOf ports) := by
  obtain ⟨entries, rfl, -, -⟩ := h
  rw [tableOf, setPorts, mapM_getPortType]
  rfl

/-- **What is decoded**: each port, a tagged one under the last digit of its number. -/
theorem lookup_tableOf {ports : List Text} (h : Plain ports) (k : Nat) (st : PortState) :
    (tableOf ports).lookup k = some st ↔ ∃ n, portStr n st ∈ ports ∧ decodedNum n st = k := by
  obtain ⟨entries, rfl, hnodup, hports⟩ := h
  have hagree : ∀ p ∈ entries.map (fun p => (decodedNum p.1 p.2, p.2)),
      ∀ q ∈ entries.map (fun p => (decodedNum p.1 p.2, p.2)), p.1 = q.1 → p.2 = q.2 := by
    intro p hp q hq heq
    obtain ⟨p', hp', rfl⟩ := List.mem_map.mp hp
    obtain ⟨q', hq', rfl⟩ := List.mem_map.mp hq
    rcases decodedNum_eq (hports p' hp') (hports q' hq') heq with hnum | hstate
    · rw [List.inj_on_of_nodup_map hnodup hp' hq' hnum]
    · exact hstate
  have htable : tableOf (entries.map (fun p => portStr p.1 p.2)) =
      (entries.map (fun p => (decodedNum p.1 p.2, p.2))).foldl
        (fun t p => t.insert p.1 p.2) ∅ := by
    rw [tableOf, setPorts, mapM_getPortType]
    rfl
  rw [htable, lookup_foldl_insert hagree, List.mem_map]
  constructor
  · rintro ⟨⟨n, r⟩, hmem, heq⟩
    cases heq
    exact ⟨n, mem_portStr_iff.mpr hmem, rfl⟩
  · rintro ⟨n, hmem, rfl⟩
    exact ⟨(n, st), mem_portStr_iff.mp hmem, rfl⟩

/-- What is written. -/
theorem mem_namesOf (t : PortTable) (n : Nat) (st : PortState) :
    portStr n st ∈ namesOf t ↔ t.lookup n = some st := by
  rw [namesOf, List.mem_map, ← Option.mem_def, AList.mem_lookup_iff]
  constructor
  · rintro ⟨⟨m, r⟩, hmem, heq⟩
    obtain ⟨rfl, rfl⟩ := portStr_injective heq
    exact hmem
  · exact fun hmem => ⟨⟨n, st⟩, hmem, rfl⟩

/-- A table of ports of the device is written as a plain section. -/
theorem plain_namesOf {t : PortTable} (h : ∀ n st, t.lookup n = some st → IsPort (n, st)) :
    Plain (namesOf t) := by
  refine ⟨t.entries.map (fun p => (p.1, p.2)), ?_, ?_, ?_⟩
  · rw [List.map_map]
    rfl
  · rw [List.map_map]
    exact t.keys_nodup
  · intro p hp
    obtain ⟨⟨n, st⟩, hmem, rfl⟩ := List.mem_map.mp hp
    exact h n st (AList.mem_lookup_iff.mpr hmem)

end Vlan
