import Mathlib.Data.List.Nodup
import Mathlib.Logic.Function.Basic

set_option autoImplicit false

/-! # Configurations of named sections

A configuration is a list of *sections*; a section has a name, a type, and options with values. It
is changed by adding a section, by setting or removing an option, and by deleting a section. A
section that is added under a name that is taken is the old section with the new type. Each
change of an option is characterised by what is found afterwards under each name (`find_add`,
`find_set`, `find_unset`), and each operation keeps the names apart.
-/

namespace SectionStore

variable {K V : Type}

/-- A section of a configuration. -/
structure Section (K V : Type) where
  name : K
  type : K
  options : K → Option V

/-- A configuration. -/
abbrev Store (K V : Type) := List (Section K V)

/-- The names of a configuration are those of one section each. -/
def Store.Named (p : Store K V) : Prop := (p.map Section.name).Nodup

variable [DecidableEq K]

/-! ## The operations -/

/-- The section of a name. -/
def find (name : K) (p : Store K V) : Option (Section K V) := p.find? (fun s => s.name == name)

/-- The sections of a name are changed. -/
def modify (name : K) (f : Section K V → Section K V) (p : Store K V) : Store K V :=
  p.map (fun s => if s.name = name then f s else s)

/-- A section of a type and a name, after the others when the name is new. -/
def add (type name : K) (p : Store K V) : Store K V :=
  if (find name p).isSome then modify name (fun s => { s with type := type }) p
  else p ++ [⟨name, type, fun _ => none⟩]

/-- An option is set. -/
def set (name option : K) (value : V) : Store K V → Store K V :=
  modify name (fun s => { s with options := Function.update s.options option (some value) })

/-- An option is removed. -/
def unset (name option : K) : Store K V → Store K V :=
  modify name (fun s => { s with options := Function.update s.options option none })

/-- Options are set one after the other. -/
def setAll (name : K) (options : List (K × V)) (p : Store K V) : Store K V :=
  options.foldl (fun p o => set name o.1 o.2 p) p

/-- A section is deleted. -/
def delete (name : K) (p : Store K V) : Store K V := p.filter (fun s => s.name != name)

/-- The value of an option of a section. -/
def valueOf (name option : K) (p : Store K V) : Option V :=
  (find name p).bind (fun s => s.options option)

/-- The options of the section of a name, none when it is not there. -/
def optionsOf (name : K) (p : Store K V) : K → Option V :=
  (find name p).elim (fun _ => none) Section.options

/-- Options written over others. -/
def writeOptions (options : List (K × V)) (f : K → Option V) : K → Option V :=
  options.foldl (fun f o => Function.update f o.1 (some o.2)) f

/-! ## What is found -/

section Find

variable {p : Store K V} {name m : K} {s : Section K V}

theorem mem_of_find (h : find name p = some s) : s ∈ p := List.mem_of_find?_eq_some h

theorem name_of_find (h : find name p = some s) : s.name = name := by
  simpa using List.find?_some h

theorem find_eq_none : find name p = none ↔ ∀ s ∈ p, s.name ≠ name := by
  rw [find, List.find?_eq_none]
  simp

/-- A section is the one of its name. -/
theorem find_of_mem (hp : p.Named) (hs : s ∈ p) : find s.name p = some s := by
  induction p with
  | nil => cases hs
  | cons t p ih =>
      obtain ⟨hnew, hp⟩ := List.nodup_cons.mp hp
      rcases List.mem_cons.mp hs with rfl | hs
      · exact List.find?_cons_of_pos (by simp)
      · have hne : t.name ≠ s.name := by
          intro heq
          exact hnew (heq ▸ List.mem_map_of_mem hs)
        rw [find, List.find?_cons_of_neg (by simpa using hne)]
        exact ih hp hs

/-- Sections of one name are the same. -/
theorem eq_of_name {t : Section K V} (hp : p.Named) (hs : s ∈ p) (ht : t ∈ p)
    (heq : s.name = t.name) : s = t := by
  have hfind := find_of_mem hp hs
  rw [heq, find_of_mem hp ht] at hfind
  exact (Option.some.inj hfind).symm

/-- A change that keeps the names is seen under its name only. -/
theorem find_modify (name : K) {f : Section K V → Section K V} (hf : ∀ s, (f s).name = s.name) :
    find m (modify name f p) = if m = name then (find m p).map f else find m p := by
  induction p with
  | nil => simp [find, modify]
  | cons t p ih =>
      have hname : (if t.name = name then f t else t).name = t.name := by
        split
        · exact hf t
        · rfl
      rw [modify, List.map_cons, ← modify, find, find, List.find?_cons, List.find?_cons, hname]
      by_cases hm : t.name = m
      · subst hm
        by_cases hn : t.name = name <;> simp [hn]
      · have hbeq : (t.name == m) = false := by simpa using hm
        rw [hbeq]
        exact ih

theorem find_set (option : K) (value : V) : find m (set name option value p) =
    if m = name then (find m p).map (fun s =>
      { s with options := Function.update s.options option (some value) }) else find m p :=
  find_modify name (fun _ => rfl)

theorem find_unset (option : K) : find m (unset name option p) =
    if m = name then (find m p).map (fun s =>
      { s with options := Function.update s.options option none }) else find m p :=
  find_modify name (fun _ => rfl)

theorem mem_delete : s ∈ delete name p ↔ s ∈ p ∧ s.name ≠ name := by
  rw [delete, List.mem_filter, bne_iff_ne]

/-- What is found after a section is added: the old one of that name with the type, or a new one. -/
theorem find_add (type : K) : find m (add type name p) =
    if m = name then
      some ((find name p).elim ⟨name, type, fun _ => none⟩ (fun s => { s with type := type }))
    else find m p := by
  rw [add]
  cases hfind : find name p with
  | some s =>
      have hchanged := find_modify (p := p) (m := m) name
        (f := fun s => { s with type := type }) (fun _ => rfl)
      rw [Option.isSome_some, if_pos rfl, hchanged]
      by_cases hm : m = name
      · rw [if_pos hm, if_pos hm, hm, hfind, Option.map_some, Option.elim_some]
      · rw [if_neg hm, if_neg hm]
  | none =>
      rw [Option.isSome_none, if_neg Bool.false_ne_true, find, List.find?_append]
      by_cases hm : m = name
      · subst hm
        have hnone : p.find? (fun s => s.name == m) = none := hfind
        simp [hnone]
      · have hbeq : (name == m) = false := by simpa using Ne.symm hm
        simp [hm, hbeq, find]

theorem find_setAll (name : K) (options : List (K × V)) (p : Store K V) (m : K) :
    find m (setAll name options p) = if m = name then
      (find m p).map (fun s => { s with options := writeOptions options s.options })
    else find m p := by
  rw [setAll]
  induction options generalizing p with
  | nil => simp [writeOptions]
  | cons o options ih =>
      rw [List.foldl_cons, ih, find_set]
      by_cases hm : m = name
      · rw [if_pos hm, if_pos hm, if_pos hm, Option.map_map]
        rfl
      · rw [if_neg hm, if_neg hm, if_neg hm]

/-- What is found after a section is added with its options. -/
theorem find_setAll_add (type name : K) (options : List (K × V)) (p : Store K V) (m : K) :
    find m (setAll name options (add type name p)) = if m = name then
      some ⟨name, type, writeOptions options (optionsOf name p)⟩
    else find m p := by
  rw [find_setAll, find_add]
  by_cases hm : m = name
  · rw [if_pos hm, if_pos hm, if_pos hm, optionsOf]
    cases hfind : find name p with
    | none => rfl
    | some s => rw [Option.elim_some, Option.map_some, Option.elim_some, name_of_find hfind]
  · rw [if_neg hm, if_neg hm, if_neg hm]

theorem optionsOf_congr {q : Store K V} (h : find m p = find m q) : optionsOf m p = optionsOf m q := by
  rw [optionsOf, optionsOf, h]

end Find

/-! ## Options that are written -/

/-- Options that are there with these values are as before when they are written. -/
theorem writeOptions_eq_self {options : List (K × V)} {f : K → Option V}
    (h : ∀ o ∈ options, f o.1 = some o.2) : writeOptions options f = f := by
  rw [writeOptions]
  induction options with
  | nil => rfl
  | cons o options ih =>
      rw [List.foldl_cons, ← h o List.mem_cons_self, Function.update_eq_self]
      exact ih fun p hp => h p (List.mem_cons_of_mem o hp)

theorem writeOptions_of_not_mem {options : List (K × V)} {k : K}
    (hk : k ∉ options.map Prod.fst) (f : K → Option V) : writeOptions options f k = f k := by
  rw [writeOptions]
  induction options generalizing f with
  | nil => rfl
  | cons o options ih =>
      rw [List.map_cons, List.mem_cons, not_or] at hk
      rw [List.foldl_cons, ih hk.2, Function.update_of_ne hk.1]

/-- Options that are written have their values when each is written once. -/
theorem writeOptions_of_mem {options : List (K × V)} (hnames : (options.map Prod.fst).Nodup)
    (f : K → Option V) {o : K × V} (ho : o ∈ options) : writeOptions options f o.1 = some o.2 := by
  induction options generalizing f with
  | nil => cases ho
  | cons p options ih =>
      obtain ⟨hp, hnames⟩ := List.nodup_cons.mp hnames
      rw [writeOptions, List.foldl_cons, ← writeOptions]
      rcases List.mem_cons.mp ho with rfl | ho
      · rw [writeOptions_of_not_mem hp, Function.update_self]
      · exact ih hnames _ ho

/-- A section that is new stands behind the others, with the options that are set. -/
theorem setAll_append_of_new {p : Store K V} {name type : K} (hnew : find name p = none)
    (options : List (K × V)) (f : K → Option V) :
    setAll name options (p ++ [⟨name, type, f⟩]) = p ++ [⟨name, type, writeOptions options f⟩] := by
  have hkeep : ∀ g : Section K V → Section K V, modify name g p = p := by
    intro g
    have hid : ∀ s ∈ p, (if s.name = name then g s else s) = id s :=
      fun s hs => if_neg (find_eq_none.mp hnew s hs)
    rw [modify, List.map_congr_left hid, List.map_id]
  induction options generalizing f with
  | nil => rfl
  | cons o options ih =>
      have hset : set name o.1 o.2 (p ++ [⟨name, type, f⟩]) =
          p ++ [⟨name, type, Function.update f o.1 (some o.2)⟩] := by
        rw [set, modify, List.map_append, ← modify, hkeep, List.map_singleton, if_pos rfl]
      rw [setAll, List.foldl_cons, ← setAll, hset, ih]
      rfl

theorem setAll_add_of_new {p : Store K V} {name : K} (hnew : find name p = none) (type : K)
    (options : List (K × V)) : setAll name options (add type name p) =
      p ++ [⟨name, type, writeOptions options (fun _ => none)⟩] := by
  rw [add, hnew, Option.isSome_none, if_neg Bool.false_ne_true, setAll_append_of_new hnew]

/-! ## The names -/

section Named

variable {p : Store K V}

theorem named_modify {name : K} {f : Section K V → Section K V} (hf : ∀ s, (f s).name = s.name)
    (hp : p.Named) : Store.Named (modify name f p) := by
  have hnames : (modify name f p).map Section.name = p.map Section.name := by
    rw [modify, List.map_map]
    refine List.map_congr_left (fun s _ => ?_)
    rw [Function.comp_apply]
    split
    · exact hf s
    · rfl
  rw [Store.Named, hnames]
  exact hp

theorem named_set {name option : K} {value : V} (hp : p.Named) :
    Store.Named (set name option value p) :=
  named_modify (fun _ => rfl) hp

theorem named_setAll {name : K} {options : List (K × V)} (hp : p.Named) :
    Store.Named (setAll name options p) := by
  rw [setAll]
  induction options generalizing p with
  | nil => exact hp
  | cons o options ih => exact ih (named_set hp)

theorem named_unset {name option : K} (hp : p.Named) : Store.Named (unset name option p) :=
  named_modify (fun _ => rfl) hp

theorem named_delete {name : K} (hp : p.Named) : Store.Named (delete name p) :=
  List.Nodup.sublist (List.Sublist.map _ List.filter_sublist) hp

theorem named_add {type name : K} (hp : p.Named) : Store.Named (add type name p) := by
  rw [add]
  cases hfind : find name p with
  | some s => exact named_modify (f := fun s => { s with type := type }) (fun _ => rfl) hp
  | none =>
      have hnew : ∀ s ∈ p, s.name ≠ name := find_eq_none.mp hfind
      rw [Option.isSome_none, if_neg Bool.false_ne_true, Store.Named, List.map_append]
      refine List.Nodup.append hp (List.nodup_singleton _) ?_
      intro k hk hk'
      obtain ⟨s, hs, rfl⟩ := List.mem_map.mp hk
      exact hnew s hs (List.mem_singleton.mp hk')

end Named

end SectionStore
