import TfPack.Snmp.Moves

set_option autoImplicit false

/-! # The tables of the tree

A `Table` is a table of the tree with what the agent relies on: where it stands, that its columns
are the leaves of their OIDs, how many rows the backend has for it, and where a search goes on
that runs past its last column. What the agent does at or below a table depends on nothing else.
-/

namespace Snmp

open BoundedLoop

/-- The nodes of a table: the table, its entry and its row. -/
structure TableNodes where
  path : Oid
  name : String
  entryName : String
  rowName : String
  columns : List Node

namespace TableNodes

variable (T : TableNodes)

/-- The OID of a column. -/
def columnOid (c : Nat) : Oid := T.path ++ [1, 1, c]

/-- The OID of a row of a column. -/
def cellOid (c i : Nat) : Oid := T.path ++ [1, 1, c, i]

def row : Node := ⟨T.path ++ [1, 1], T.rowName, T.columns, .row⟩

def entry : Node := ⟨T.path ++ [1], T.entryName, [T.row], .entry⟩

def table : Node := ⟨T.path, T.name, [T.entry], .table⟩

end TableNodes

/-- A table of the tree. -/
structure Table extends TableNodes where
  /-- The nodes above the table. -/
  above : List Node
  parent : Node
  siblings : List Node
  num : Nat
  /-- How many rows the backend has. -/
  rows : Backend → Nat
  /-- What is left of a value past the last row. -/
  overRes : Option String
  /-- Where a search goes on that runs past the last column. -/
  next : Oid
  columns_pos : 0 < columns.length
  num_pos : 0 < num
  table_at : siblings[num - 1]? = some toTableNodes.table
  lookup : ∀ rest, getOidElement (path ++ rest) =
    oidElements (rest.length + path.length) siblings path.length (above ++ [parent]) (num :: rest)
  column_at : ∀ c, 1 ≤ c → c ≤ columns.length →
    ∃ name, columns[c - 1]? = some (column (toTableNodes.columnOid c) name)
  leaf : ∀ c, 1 ≤ c → c ≤ columns.length → IsLeaf (toTableNodes.columnOid c) .column
  fetch_row : ∀ c, 1 ≤ c → c ≤ columns.length → ∀ B i, 1 ≤ i → i ≤ rows B →
    fetch B (mibOf (toTableNodes.columnOid c)) i =
      some (B.read (mibOf (toTableNodes.columnOid c)) i, .ok)
  fetch_over : ∀ c, 1 ≤ c → c ≤ columns.length → ∀ B i, 1 ≤ i → rows B < i →
    fetch B (mibOf (toTableNodes.columnOid c)) i = some (overRes, .overIndex)
  past : ∀ rest below r, onOidOverList (path ++ rest) (after .oidOverList
      (above ++ [parent, toTableNodes.table] ++ below) r) =
    .inl (attempt (above ++ [parent, toTableNodes.table] ++ below) r next)

namespace Table

variable (T : Table) {B : Backend} {q : Oid} {st : State} {r : ResObj} {c i : Nat}

/-! ## Searches -/

/-- The elements found down to the table, to its entry and to its row. -/
def atTable : List Node := T.above ++ [T.parent, T.table]

def atEntry : List Node := T.above ++ [T.parent] ++ [T.table, T.entry]

def atRow : List Node := T.above ++ [T.parent, T.table] ++ [T.entry, T.row]

theorem num_le : ¬ T.num > T.siblings.length := by
  have hlt := (List.getElem?_eq_some_iff.mp T.table_at).1
  have hpos := T.num_pos
  omega

theorem lookup_table : getOidElement T.path = (T.atTable, .found) := by
  have h := T.lookup []
  rw [List.append_nil] at h
  rw [h]
  simp [oidElements, T.num_le, Nat.ne_of_gt T.num_pos, T.table_at, TableNodes.table, atTable]

/-- **The entry below a table has the arc 1**, and so has the row below the entry. -/
theorem lookup_entry_ne {e : Nat} (he : e ≠ 1) (rest : Oid) :
    getOidElement (T.path ++ e :: rest) = (T.atTable, .failed) := by
  rw [T.lookup]
  simp [oidElements, T.num_le, Nat.ne_of_gt T.num_pos, T.table_at, TableNodes.table,
    TableNodes.entry, tableHandler, Ne.symm he, atTable]

theorem lookup_entry : getOidElement (T.path ++ [1]) = (T.atEntry, .found) := by
  rw [T.lookup]
  simp [oidElements, T.num_le, Nat.ne_of_gt T.num_pos, T.table_at, TableNodes.table,
    TableNodes.entry, tableHandler, atEntry]

theorem lookup_row_ne {e : Nat} (he : e ≠ 1) (rest : Oid) :
    getOidElement (T.path ++ 1 :: e :: rest) = (T.atEntry, .failed) := by
  rw [T.lookup]
  simp [oidElements, T.num_le, Nat.ne_of_gt T.num_pos, T.table_at, TableNodes.table,
    TableNodes.entry, TableNodes.row, tableHandler, Ne.symm he, atEntry]

theorem lookup_columns (rest : Oid) :
    getOidElement (T.path ++ 1 :: 1 :: rest) =
      oidElements (rest.length + (T.path.length + 2)) T.columns (T.path.length + 3) T.atRow
        rest := by
  have hlen : (1 :: 1 :: rest).length + T.path.length = rest.length + (T.path.length + 2) := by
    rw [List.length_cons, List.length_cons]
    omega
  rw [T.lookup, hlen]
  simp [oidElements, T.num_le, Nat.ne_of_gt T.num_pos, T.table_at, TableNodes.table,
    TableNodes.entry, TableNodes.row, tableHandler, atRow]

theorem lookup_row : getOidElement (T.path ++ [1, 1]) = (T.atRow, .found) :=
  T.lookup_columns []

theorem lookup_zero (rest : Oid) :
    getOidElement (T.path ++ 1 :: 1 :: 0 :: rest) = (T.atRow, .zeroIndex) := by
  rw [T.lookup_columns]
  simp [oidElements]

theorem lookup_past {c : Nat} (hc : T.columns.length < c) (rest : Oid) :
    getOidElement (T.path ++ 1 :: 1 :: c :: rest) = (T.atRow, .oidOverList) := by
  rw [T.lookup_columns]
  simp [oidElements, hc]

/-- A search that comes to a column of the table. -/
theorem oidElements_column {c : Nat} (h1 : 1 ≤ c) (hc : c ≤ T.columns.length) :
    ∃ name, ∀ len index objs rest, oidElements len T.columns index objs (c :: rest) =
      if len > T.path.length + 4 then (objs ++ [column (T.columnOid c) name], .oidOver)
      else if len = T.path.length + 4 then
        (objs ++ [column (T.columnOid c) name, ⟨rest.take 1, name, [], .index⟩], .found)
      else (objs ++ [column (T.columnOid c) name], .found) := by
  obtain ⟨name, hname⟩ := T.column_at c h1 hc
  have hlen : (T.columnOid c).length = T.path.length + 3 := by simp [TableNodes.columnOid]
  refine ⟨name, fun len index objs rest => ?_⟩
  simp [oidElements, Nat.not_lt.mpr hc, Nat.ne_of_gt h1, hname, column, hlen]

/-- **At a column of the table** a search ends with the column, with a row of it, or fails. -/
theorem lookup_column {c : Nat} (h1 : 1 ≤ c) (hc : c ≤ T.columns.length) :
    ∃ name, getOidElement (T.columnOid c) =
        (T.atRow ++ [column (T.columnOid c) name], .found) ∧
      (∀ i, getOidElement (T.cellOid c i) =
        (T.atRow ++ [column (T.columnOid c) name, ⟨[i], name, [], .index⟩], .found)) ∧
      ∀ i j rest, getOidElement (T.path ++ 1 :: 1 :: c :: i :: j :: rest) =
        (T.atRow ++ [column (T.columnOid c) name], .oidOver) := by
  obtain ⟨name, hname⟩ := T.oidElements_column h1 hc
  refine ⟨name, ?_, fun i => ?_, fun i j rest => ?_⟩
  · have h := T.lookup_columns [c]
    rw [hname, List.length_singleton, if_neg (by omega), if_neg (by omega)] at h
    exact h
  · have h := T.lookup_columns [c, i]
    rw [hname, List.length_cons, List.length_singleton, if_neg (by omega),
      if_pos (by omega)] at h
    exact h
  · have h := T.lookup_columns (c :: i :: j :: rest)
    rw [hname, List.length_cons, List.length_cons, List.length_cons, if_pos (by omega)] at h
    exact h

/-! ## GET_NEXT at a table -/

/-- The answer with a cell of the table. -/
def cell (B : Backend) (c i : Nat) : Reply := valueReply B (T.columnOid c) i (T.cellOid c i)

/-- What is left of a cell that is not there. -/
def noCell (c i : Nat) : ResObj := leafObj (T.columnOid c) (T.cellOid c i) T.overRes

theorem columnOid_append (c i : Nat) : T.columnOid c ++ [i] = T.cellOid c i := by
  simp [TableNodes.columnOid, TableNodes.cellOid]

variable {T}

theorem proceed_cell (h1 : 1 ≤ c) (hc : c ≤ T.columns.length) (objs : List Node) (i : Nat) :
    proceed ⟨false, .ok, objs, leafObj (T.columnOid c) (T.columnOid c ++ [i])
      (B.read (mibOf (T.columnOid c)) i)⟩ = .inr (some (T.cell B c i)) := by
  rw [columnOid_append]
  exact proceed_value (T.leaf c h1 hc) false

theorem proceed_noCell (objs : List Node) (c i : Nat) :
    proceed ⟨false, .overIndex, objs, leafObj (T.columnOid c) (T.columnOid c ++ [i]) T.overRes⟩ =
      .inl (after .overIndex objs (T.noCell c i)) := by
  rw [columnOid_append]
  rfl

/-- The nodes down to a column. -/
theorem atRow_append (n : Node) :
    T.atRow ++ [n] = T.above ++ [T.parent, T.table, T.entry] ++ [T.row, n] := by
  simp [atRow]

/-- **A column with rows is answered with its first one.** -/
theorem column_gives (h1 : 1 ≤ c) (hc : c ≤ T.columns.length) (hrows : 1 ≤ T.rows B)
    (hst : Tries B .getNext q st (T.columnOid c) r) :
    Gives (iteration B .getNext q) 2 st (some (T.cell B c 1)) := by
  obtain ⟨name, hcol, -, -⟩ := T.lookup_column h1 hc
  have hv := T.fetch_row c h1 hc B 1 (Nat.le_refl 1) hrows
  apply Gives.step (hst _ _ hcol (by decide))
  apply Gives.done
  rw [atRow_append, getNext_column rfl (T.leaf c h1 hc) hv]
  exact proceed_cell h1 hc _ 1

/-- A column without rows is left as over its index. -/
theorem column_leads (h1 : 1 ≤ c) (hc : c ≤ T.columns.length) (hrows : T.rows B = 0)
    (hst : Tries B .getNext q st (T.columnOid c) r) :
    ∃ objs, Leads (iteration B .getNext q) 2 st (after .overIndex objs (T.noCell c 1)) := by
  obtain ⟨name, hcol, -, -⟩ := T.lookup_column h1 hc
  have hv := T.fetch_over c h1 hc B 1 (Nat.le_refl 1) (by omega)
  refine ⟨T.above ++ [T.parent, T.table, T.entry] ++ [T.row, column (T.columnOid c) name],
    (Leads.step (hst _ _ hcol (by decide))).trans (Leads.step ?_)⟩
  rw [atRow_append, getNext_column rfl (T.leaf c h1 hc) hv]
  exact proceed_noCell _ c 1

/-- **A row is answered with the row after it**, as long as there is one. -/
theorem index_gives (h1 : 1 ≤ c) (hc : c ≤ T.columns.length) (hi : i < T.rows B)
    (hst : Tries B .getNext q st (T.cellOid c i) r) :
    Gives (iteration B .getNext q) 2 st (some (T.cell B c (i + 1))) := by
  obtain ⟨name, -, hrow, -⟩ := T.lookup_column h1 hc
  have hv := T.fetch_row c h1 hc B (i + 1) (Nat.le_add_left 1 i) hi
  apply Gives.step (hst _ _ (hrow i) (by decide))
  apply Gives.done
  rw [getNext_index (m := column (T.columnOid c) name) (T.leaf c h1 hc) hv]
  exact proceed_cell h1 hc _ (i + 1)

theorem index_leads (h1 : 1 ≤ c) (hc : c ≤ T.columns.length) (hi : T.rows B ≤ i)
    (hst : Tries B .getNext q st (T.cellOid c i) r) :
    ∃ objs, Leads (iteration B .getNext q) 2 st (after .overIndex objs (T.noCell c (i + 1))) := by
  obtain ⟨name, -, hrow, -⟩ := T.lookup_column h1 hc
  have hv := T.fetch_over c h1 hc B (i + 1) (Nat.le_add_left 1 i) (by omega)
  refine ⟨T.atRow ++ [column (T.columnOid c) name, ⟨[i], name, [], .index⟩],
    (Leads.step (hst _ _ (hrow i) (by decide))).trans (Leads.step ?_)⟩
  rw [getNext_index (m := column (T.columnOid c) name) (T.leaf c h1 hc) hv]
  exact proceed_noCell _ c (i + 1)

/-- From the row, the entry and the table itself the agent descends to the first column. -/
theorem row_leads (hst : Tries B .getNext q st (T.path ++ [1, 1]) r) :
    Leads (iteration B .getNext q) 2 st (attempt T.atRow {} (T.columnOid 1)) := by
  refine (Leads.step (hst _ _ T.lookup_row (by decide))).trans (Leads.step ?_)
  rw [atRow, getNext_descends (n := T.row) (by simp [TableNodes.row])]
  simp [TableNodes.row, TableNodes.columnOid]

theorem entry_leads (hst : Tries B .getNext q st (T.path ++ [1]) r) :
    Leads (iteration B .getNext q) 4 st (attempt T.atRow {} (T.columnOid 1)) := by
  have hdown : Leads (iteration B .getNext q) 2 st (attempt T.atEntry {} (T.path ++ [1, 1])) := by
    refine (Leads.step (hst _ _ T.lookup_entry (by decide))).trans (Leads.step ?_)
    rw [atEntry, getNext_descends (n := T.entry) (by simp [TableNodes.entry])]
    simp [TableNodes.entry]
  exact hdown.trans (row_leads (tries_attempt _ _ _ _ _ _))

theorem table_leads (hst : Tries B .getNext q st T.path r) :
    Leads (iteration B .getNext q) 6 st (attempt T.atRow {} (T.columnOid 1)) := by
  have hdown : Leads (iteration B .getNext q) 2 st (attempt T.atTable {} (T.path ++ [1])) := by
    refine (Leads.step (hst _ _ T.lookup_table (by decide))).trans (Leads.step ?_)
    rw [atTable, getNext_descends (n := T.table) (by simp [TableNodes.table])]
    simp [TableNodes.table]
  exact hdown.trans (entry_leads (tries_attempt _ _ _ _ _ _))

end Table

end Snmp
