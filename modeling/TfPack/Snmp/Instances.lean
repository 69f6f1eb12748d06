import TfPack.Lib.LexOrder
import TfPack.Lib.OrderedWalk
import TfPack.Snmp.GetNext

set_option autoImplicit false

/-! # The instances of the tree

What the agent is there to serve: each scalar of the tree as `<oid>.0`, and each column with one
instance for each row that the backend has. The leaves stand in ten places, six tables and four
lists of scalars, and in the order of the tree everything below one place comes before everything
below the next (`places_ordered`).
-/

namespace Snmp

open LexOrder OrderedWalk

/-! ## The instances -/

mutual

/-- The nodes below which there are no others. -/
def leaves : Node → List Node
  | ⟨oid, name, [], nodetype⟩ => [⟨oid, name, [], nodetype⟩]
  | ⟨_, _, n :: ns, _⟩ => leaves n ++ leavesOf ns

def leavesOf : List Node → List Node
  | [] => []
  | n :: ns => leaves n ++ leavesOf ns

end

/-- How many rows a source has. -/
def Backend.rowsOf (B : Backend) : UbusType → Nat
  | .arConfig => B.arConfig - 2
  | .poeConfig => B.poeConfig - 2
  | .poeStatus => B.poeStatus
  | .arStatus => B.arStatus
  | .i2c => i2cSensorList.length
  | .spf => 2
  | .fw => 0

/-- The instances of a leaf. -/
def instancesOf (B : Backend) (leaf : Node) : List Oid :=
  match leaf.nodetype, (mibOf leaf.oid).ubusType with
  | .scalar, _ => [leaf.oid ++ [0]]
  | .column, some ubusType =>
      (List.range (B.rowsOf ubusType)).map (fun i => leaf.oid ++ [i + 1])
  | _, _ => []

/-- The instances of the tree. -/
def instances (B : Backend) : List Oid := (leavesOf mainList).flatMap (instancesOf B)

/-- The instances as a set. -/
def instanceSet (B : Backend) : Set Oid := {o | o ∈ instances B}

/-! ## The places -/

/-- A table or a list of scalars. -/
inductive Place where
  | table (T : Table)
  | scalars (S : ScalarList)

def Place.path : Place → Oid
  | .table T => T.path
  | .scalars S => S.path

/-- The instances of a place. -/
def Place.Has (B : Backend) : Place → Oid → Prop
  | .table T, o => ∃ c i, (1 ≤ c ∧ c ≤ T.columns.length) ∧ (1 ≤ i ∧ i ≤ T.rows B) ∧
      o = T.cellOid c i
  | .scalars S, o => ∃ s, (1 ≤ s ∧ s ≤ S.scalars.length) ∧ o = S.path ++ [s, 0]

/-- The places in the order of the tree. -/
def places : List Place :=
  [.table autoRestart, .table portPoe, .scalars outStatePSW, .scalars upsStatus,
   .table inputStatus, .scalars fwStatus, .table poeStatus, .table autoRestartErrors,
   .table sfpStatus, .scalars sensorEntry]

theorem places_ordered : places.Pairwise (fun a b => Before a.path b.path) := by
  have h : places.Pairwise (fun a b => precedes a.path b.path = true) := by decide
  exact h.imp before_of_precedes

theorem leaves_eq : leavesOf mainList =
    [notDefined [1] "empty", notDefined [2] "empty", notDefined [3, 1] "empty",
      notDefined [3, 2, 1, 1] "comfortStart"] ++ autoRestartEntry ++ portPoeEntry ++
    outStatePSWList ++ upsStatusList ++ inputStatusEntry ++ fwStatusList ++
    [notDefined [3, 2, 2, 4] "empty"] ++ poeStatusEntry ++ autoRestartErrorsEntry ++
    sfpStatusEntry ++ sensorList ++ [notDefined [4] "integrations"] := rfl

/-! ## Which OIDs are instances -/

variable {B : Backend} {o : Oid}

theorem instancesOf_column {oid : Oid} {name : String} {ubusType : UbusType}
    (h : (mibOf oid).ubusType = some ubusType) :
    o ∈ instancesOf B (column oid name) ↔
      ∃ i, (1 ≤ i ∧ i ≤ B.rowsOf ubusType) ∧ o = oid ++ [i] := by
  have hlist : instancesOf B (column oid name) =
      (List.range (B.rowsOf ubusType)).map (fun i => oid ++ [i + 1]) := by
    simp [instancesOf, column, h]
  rw [hlist, List.mem_map]
  constructor
  · rintro ⟨i, hi, rfl⟩
    rw [List.mem_range] at hi
    exact ⟨i + 1, ⟨by omega, by omega⟩, rfl⟩
  · rintro ⟨i, ⟨h1, hi⟩, rfl⟩
    refine ⟨i - 1, List.mem_range.mpr (by omega), ?_⟩
    rw [Nat.sub_add_cancel h1]

/-- The columns of a table have the instances of its place. -/
theorem Table.mem_columns {T : Table}
    (hrows : ∀ c, 1 ≤ c → c ≤ T.columns.length →
      ∃ u, (mibOf (T.columnOid c)).ubusType = some u ∧ B.rowsOf u = T.rows B) :
    o ∈ T.columns.flatMap (instancesOf B) ↔ (Place.table T).Has B o := by
  rw [List.mem_flatMap]
  constructor
  · rintro ⟨col, hcol, ho⟩
    obtain ⟨n, hn, hget⟩ := List.getElem_of_mem hcol
    obtain ⟨name, hname⟩ := T.column_at (n + 1) (by omega) hn
    obtain ⟨u, hu, hur⟩ := hrows (n + 1) (by omega) hn
    rw [Nat.add_sub_cancel, List.getElem?_eq_getElem hn, hget, Option.some.injEq] at hname
    rw [hname, instancesOf_column hu] at ho
    obtain ⟨i, hi, rfl⟩ := ho
    rw [hur] at hi
    exact ⟨n + 1, i, ⟨by omega, hn⟩, hi, T.columnOid_append (n + 1) i⟩
  · rintro ⟨c, i, ⟨h1, hc⟩, hi, rfl⟩
    obtain ⟨name, hname⟩ := T.column_at c h1 hc
    obtain ⟨u, hu, hur⟩ := hrows c h1 hc
    refine ⟨column (T.columnOid c) name, List.mem_of_getElem? hname, ?_⟩
    rw [instancesOf_column hu, hur]
    exact ⟨i, hi, (T.columnOid_append c i).symm⟩

theorem ScalarList.mem_scalars {S : ScalarList} :
    o ∈ S.scalars.flatMap (instancesOf B) ↔ (Place.scalars S).Has B o := by
  have hlist : ∀ s name, instancesOf B (scalar (S.path ++ [s]) name) = [S.path ++ [s, 0]] := by
    intro s name
    simp [instancesOf, scalar]
  rw [List.mem_flatMap]
  constructor
  · rintro ⟨leaf, hleaf, ho⟩
    obtain ⟨n, hn, hget⟩ := List.getElem_of_mem hleaf
    obtain ⟨name, hname⟩ := S.scalar_at (n + 1) (by omega) hn
    rw [Nat.add_sub_cancel, List.getElem?_eq_getElem hn, hget, Option.some.injEq] at hname
    rw [hname, hlist, List.mem_singleton] at ho
    exact ⟨n + 1, ⟨by omega, hn⟩, ho⟩
  · rintro ⟨s, ⟨h1, hs⟩, rfl⟩
    obtain ⟨name, hname⟩ := S.scalar_at s h1 hs
    refine ⟨_, List.mem_of_getElem? hname, ?_⟩
    rw [hlist]
    exact List.mem_singleton_self _

/-- **The instances stand in the places.** -/
theorem mem_instances : o ∈ instances B ↔ ∃ p ∈ places, p.Has B o := by
  have hundefined : ∀ oid name, instancesOf B (notDefined oid name) = [] := fun _ _ => rfl
  have h1 : o ∈ autoRestartEntry.flatMap (instancesOf B) ↔ (Place.table autoRestart).Has B o := by
    refine Table.mem_columns (T := autoRestart) fun c h1 hc => ?_
    change c ≤ 9 at hc
    interval_cases c <;> exact ⟨_, rfl, rfl⟩
  have h2 : o ∈ portPoeEntry.flatMap (instancesOf B) ↔ (Place.table portPoe).Has B o := by
    refine Table.mem_columns (T := portPoe) fun c h1 hc => ?_
    change c ≤ 2 at hc
    interval_cases c <;> exact ⟨_, rfl, rfl⟩
  have h3 : o ∈ inputStatusEntry.flatMap (instancesOf B) ↔
      (Place.table inputStatus).Has B o := by
    refine Table.mem_columns (T := inputStatus) fun c h1 hc => ?_
    change c ≤ 4 at hc
    interval_cases c <;> exact ⟨_, rfl, rfl⟩
  have h4 : o ∈ poeStatusEntry.flatMap (instancesOf B) ↔ (Place.table poeStatus).Has B o := by
    refine Table.mem_columns (T := poeStatus) fun c h1 hc => ?_
    change c ≤ 3 at hc
    interval_cases c <;> exact ⟨_, rfl, rfl⟩
  have h5 : o ∈ autoRestartErrorsEntry.flatMap (instancesOf B) ↔
      (Place.table autoRestartErrors).Has B o := by
    refine Table.mem_columns (T := autoRestartErrors) fun c h1 hc => ?_
    change c ≤ 2 at hc
    interval_cases c <;> exact ⟨_, rfl, rfl⟩
  have h6 : o ∈ sfpStatusEntry.flatMap (instancesOf B) ↔ (Place.table sfpStatus).Has B o := by
    refine Table.mem_columns (T := sfpStatus) fun c h1 hc => ?_
    change c ≤ 14 at hc
    interval_cases c <;> exact ⟨_, rfl, rfl⟩
  have h7 : o ∈ outStatePSWList.flatMap (instancesOf B) ↔ (Place.scalars outStatePSW).Has B o :=
    ScalarList.mem_scalars (S := outStatePSW)
  have h8 : o ∈ upsStatusList.flatMap (instancesOf B) ↔ (Place.scalars upsStatus).Has B o :=
    ScalarList.mem_scalars (S := upsStatus)
  have h9 : o ∈ fwStatusList.flatMap (instancesOf B) ↔ (Place.scalars fwStatus).Has B o :=
    ScalarList.mem_scalars (S := fwStatus)
  have h10 : o ∈ sensorList.flatMap (instancesOf B) ↔ (Place.scalars sensorEntry).Has B o :=
    ScalarList.mem_scalars (S := sensorEntry)
  rw [instances, leaves_eq]
  simp only [List.flatMap_append, List.mem_append, List.flatMap_cons, List.flatMap_nil,
    hundefined, List.append_nil, List.not_mem_nil, or_false, false_or, h1, h2, h3, h4, h5, h6, h7,
    h8, h9, h10, places, List.mem_cons, exists_eq_or_imp, exists_eq_left, or_assoc]

end Snmp
