import TfPack.Snmp.Walks

set_option autoImplicit false

/-! # GET

GET answers a cell of a table with the line GET_NEXT prints for it. The instance `.0` of a scalar
is redirected to the next scalar instead, and a scalar itself is answered without its `.0`. All
other requests are answered with a blank line or with nothing.
-/

namespace Snmp

open BoundedLoop

variable {B : Backend} {req : RequestType} {q t : Oid} {pre : List Node} {n : Node} {st : State}
  {r : ResObj} {a : Option Reply}

/-! ## Single iterations -/

theorem iteration_get {objs : List Node} {resObj : ResObj} {status : Status}
    (h : getRequestHandler B objs = some (resObj, status)) :
    iteration B .get q (after .found objs r) = proceed ⟨false, status, objs, resObj⟩ := by
  simp [iteration, after, onFound, h]

/-- **A node that has no value** is answered with a blank line. -/
theorem get_other (hindex : n.nodetype ≠ .index) (hscalar : n.nodetype ≠ .scalar) :
    Gives (iteration B .get q) 2 (after .found (pre ++ [n]) r) (some blank) := by
  have hnone : getRequestHandler B (pre ++ [n]) = some ({}, .failed) := by
    cases hn : n.nodetype <;> simp_all [getRequestHandler]
  have hfailed : iteration B .get q (after .found (pre ++ [n]) r) =
      .inl (after .failed (pre ++ [n]) {}) := by
    rw [iteration_get hnone]
    rfl
  exact Gives.step hfailed (Gives.done rfl)

theorem get_lands (h : getOidElement t = (pre ++ [n], .found)) (hindex : n.nodetype ≠ .index)
    (hscalar : n.nodetype ≠ .scalar) (hst : Tries B .get q st t r) :
    Gives (iteration B .get q) 3 st (some blank) :=
  Gives.step (hst _ _ h (by decide)) (get_other hindex hscalar)

theorem get_index {m : Node} {name : String} {i : Nat} {status : Status} {v : Option String}
    (h : IsLeaf m.oid .column) (hv : fetch B (mibOf m.oid) i = some (v, status)) :
    iteration B .get q (after .found (pre ++ [m, ⟨[i], name, [], .index⟩]) r) =
      proceed ⟨false, status, pre ++ [m, ⟨[i], name, [], .index⟩],
        leafObj m.oid (m.oid ++ [i]) v⟩ := by
  apply iteration_get
  simpa [getRequestHandler] using getResult_leaf h (.inl rfl) hv

/-- A value that cannot be read ends the script. -/
theorem get_index_error {m : Node} {name : String} {i : Nat} (h : IsLeaf m.oid .column)
    (hv : fetch B (mibOf m.oid) i = none) :
    iteration B .get q (after .found (pre ++ [m, ⟨[i], name, [], .index⟩]) r) = .inr none := by
  have hnone : getRequestHandler B (pre ++ [m, ⟨[i], name, [], .index⟩]) = none := by
    have hty : (mibOf m.oid).nodetype = some .column ∨ (mibOf m.oid).nodetype = some .scalar :=
      .inl h.nodetype
    simp [getRequestHandler, getResult, h.mib, if_pos hty, hv]
  simp [iteration, after, onFound, hnone, luaError]

theorem get_scalar {status : Status} {v : Option String} (hn : n.nodetype = .scalar)
    (h : IsLeaf n.oid .scalar) (hv : fetch B (mibOf n.oid) 0 = some (v, status)) :
    iteration B .get q (after .found (pre ++ [n]) r) =
      proceed ⟨false, status, pre ++ [n], leafObj n.oid n.oid v⟩ := by
  apply iteration_get
  simpa [getRequestHandler, hn] using getResult_leaf h (.inr rfl) hv

/-! ## At a table -/

/-- An OID printed is the one asked for. -/
def Faithful (q : Oid) (a : Option Reply) : Prop := ∀ r o, a = some r → r.oid = some o → o = q

theorem faithful_none : Faithful q none := by
  intro r o h
  cases h

theorem faithful_blank : Faithful q (some blank) := by
  intro r o h ho
  cases h
  cases ho

/-- What GET prints, if anything, has the OID asked for. -/
def Gets (B : Backend) (k : Nat) (q : Oid) : Prop :=
  ∃ a, Gives (iteration B .get q) k start a ∧ Faithful q a

namespace Table

variable {T : Table} {rest : Oid} {c i : Nat}

/-- Past a table there is another table or a list. -/
theorem next_lands (hT : .table T ∈ places) :
    ∃ pre n, getOidElement T.next = (pre ++ [n], .found) ∧ n.nodetype ≠ .index ∧
      n.nodetype ≠ .scalar := by
  simp only [places, List.mem_cons, List.not_mem_nil, or_false, Place.table.injEq, reduceCtorEq,
    false_or] at hT
  rcases hT with rfl | rfl | rfl | rfl | rfl | rfl
  · exact ⟨[switch, psw, configPSW], _, rfl, by decide, by decide⟩
  · exact ⟨[switch, psw, configPSW], _, rfl, by decide, by decide⟩
  · exact ⟨[switch, psw, statusPSW], _, rfl, by decide, by decide⟩
  · exact ⟨[switch, psw, statusPSW], _, rfl, by decide, by decide⟩
  · exact ⟨[switch, psw, statusPSW], _, rfl, by decide, by decide⟩
  · exact ⟨[switch, psw, statusPSW], _, rfl, by decide, by decide⟩

/-- What may be read at an index: a value, or why there is none. -/
inductive ReadAs (B : Backend) (m : MibObj) (i : Nat) : Fetched → Prop
  | error : ReadAs B m i none
  | zero (v : Option String) : ReadAs B m i (some (v, .zeroIndex))
  | past (v : Option String) : ReadAs B m i (some (v, .overIndex))
  | read : ReadAs B m i (some (B.read m i, .ok))

theorem portValue_zero (B : Backend) (count : Int) (m : MibObj) :
    ReadAs B m 0 (portValue B count m 0) := by
  rw [portValue]
  split
  · exact .past none
  split
  · exact .zero none
  · exact .read

theorem i2cHandler_zero {B : Backend} {m : MibObj}
    (hm : m.name ∈ [some "inputState", some "inputType", some "inputAlarm", some "inputIndex"]) :
    ReadAs B m 0 (i2cHandler B m 0) := by
  rw [i2cHandler, if_pos hm, if_neg (by decide), if_pos rfl]
  exact .error

/-- **At index 0** a table has no row; only the SFP slots are read. -/
theorem fetch_zero (hT : .table T ∈ places) (h1 : 1 ≤ c) (hc : c ≤ T.columns.length)
    (B : Backend) : ReadAs B (mibOf (T.columnOid c)) 0 (fetch B (mibOf (T.columnOid c)) 0) := by
  simp only [places, List.mem_cons, List.not_mem_nil, or_false, Place.table.injEq, reduceCtorEq,
    false_or] at hT
  have hport : ∀ count m, ReadAs B m 0 (portValue B count m 0) := portValue_zero B
  rcases hT with rfl | rfl | rfl | rfl | rfl | rfl
  · change c ≤ 9 at hc
    interval_cases c <;> exact hport (B.arConfig - 2) _
  · change c ≤ 2 at hc
    interval_cases c <;> exact hport (B.poeConfig - 2) _
  · change c ≤ 4 at hc
    interval_cases c <;> exact i2cHandler_zero (by decide)
  · change c ≤ 3 at hc
    interval_cases c <;> exact hport B.poeStatus _
  · change c ≤ 2 at hc
    interval_cases c <;> exact hport B.arStatus _
  · change c ≤ 14 at hc
    interval_cases c <;> exact .read

/-- An attempt past the last column goes on with what follows the table. -/
theorem get_past (hT : .table T ∈ places) {rest rest' : Oid} (hq : q = T.path ++ rest)
    (hc : T.columns.length < c) (hst : Tries B .get q st (T.path ++ 1 :: 1 :: c :: rest') r) :
    Gives (iteration B .get q) 5 st (some blank) := by
  obtain ⟨pre, n, hnext, hindex, hscalar⟩ := next_lands hT
  have hover := hst _ _ (T.lookup_past hc rest') (by decide)
  have hpast : iteration B .get q (after .oidOverList T.atRow r) =
      .inl (attempt T.atRow r T.next) := by
    rw [hq]
    exact T.past rest [T.entry, T.row] r
  exact Gives.step hover (Gives.step hpast
    (get_lands hnext hindex hscalar (tries_attempt _ _ _ _ _ _)))

/-- **A row that is read** is answered as GET_NEXT answers with it. -/
theorem get_read (h1 : 1 ≤ c) (hc : c ≤ T.columns.length)
    (hv : fetch B (mibOf (T.columnOid c)) i = some (B.read (mibOf (T.columnOid c)) i, .ok)) :
    Gives (iteration B .get (T.cellOid c i)) 2 start (some (T.cell B c i)) := by
  obtain ⟨name, -, hrow, -⟩ := T.lookup_column h1 hc
  apply Gives.step (tries_start B .get _ _ _ (hrow i) (by decide))
  apply Gives.done
  rw [get_index (m := column (T.columnOid c) name) (T.leaf c h1 hc) hv]
  exact proceed_cell h1 hc _ i

/-- **An index of a column** is answered with the value read there, if there is one. -/
theorem get_index_gives (hT : .table T ∈ places) (h1 : 1 ≤ c) (hc : c ≤ T.columns.length)
    (h : ReadAs B (mibOf (T.columnOid c)) i (fetch B (mibOf (T.columnOid c)) i)) :
    Gets B 9 (T.cellOid c i) := by
  obtain ⟨name, hcol, hrow, -⟩ := T.lookup_column h1 hc
  obtain ⟨objs, hobjs⟩ : ∃ objs,
      objs = T.atRow ++ [column (T.columnOid c) name, ⟨[i], name, [], .index⟩] := ⟨_, rfl⟩
  have hfound : getOidElement (T.cellOid c i) = (objs, .found) := by rw [hobjs, hrow]
  have hstart := tries_start B .get (T.cellOid c i) _ _ hfound (by decide)
  have hindex : ∀ {v status} (r : ResObj),
      fetch B (mibOf (T.columnOid c)) i = some (v, status) →
      iteration B .get (T.cellOid c i) (after .found objs r) =
        proceed ⟨false, status, objs, leafObj (T.columnOid c) (T.columnOid c ++ [i]) v⟩ := by
    intro v status r hv
    rw [hobjs]
    exact get_index (T.leaf c h1 hc) hv
  rw [T.columnOid_append] at hindex
  generalize hv : fetch B (mibOf (T.columnOid c)) i = f at h
  cases h with
  | error =>
      have herror : iteration B .get (T.cellOid c i) (after .found objs {}) = .inr none := by
        rw [hobjs]
        exact get_index_error (T.leaf c h1 hc) hv
      exact ⟨none, (Gives.step hstart (Gives.done herror)).mono (by omega), faithful_none⟩
  | zero v =>
      -- the row is tried again for ever
      refine ⟨none, (Gives.step hstart (Gives.forever
        (P := fun st => ∃ r, st = after .found objs r) ?_ ⟨_, rfl⟩)).mono (by omega),
        faithful_none⟩
      rintro st ⟨r, rfl⟩
      have hagain := tries_attempt B .get (T.cellOid c i) objs
        (leafObj (T.columnOid c) (T.cellOid c i) v) (T.cellOid c i) _ _ hfound (by decide)
      have hzero : iteration B .get (T.cellOid c i) (after .zeroIndex objs
          (leafObj (T.columnOid c) (T.cellOid c i) v)) =
          .inl (attempt objs (leafObj (T.columnOid c) (T.cellOid c i) v) (T.cellOid c i)) := by
        rw [hobjs]
        show onZeroIndex _ = _
        simp [onZeroIndex, after, attempt, proceed, leafObj]
      exact ⟨2, _, (Leads.step (hindex r hv)).trans
        ((Leads.step hzero).trans (Leads.step hagain)), _, rfl⟩
  | past v =>
      have hq : T.cellOid c i = (T.path ++ [1, 1]) ++ [c, i] := by simp [TableNodes.cellOid]
      have hoid : (T.path ++ [1, 1]) ++ [c + 1] = T.path ++ 1 :: 1 :: (c + 1) :: [] := by simp
      have hback := iteration_overIndex B .get objs (leafObj (T.columnOid c) (T.cellOid c i) v) hq
      rw [hoid] at hback
      have hst := tries_attempt B .get (T.cellOid c i) objs
        (leafObj (T.columnOid c) (T.cellOid c i) v) (T.path ++ 1 :: 1 :: (c + 1) :: [])
      have hnext : Gives (iteration B .get (T.cellOid c i)) 5
          (attempt objs (leafObj (T.columnOid c) (T.cellOid c i) v)
            (T.path ++ 1 :: 1 :: (c + 1) :: [])) (some blank) := by
        by_cases hlast : c + 1 ≤ T.columns.length
        · obtain ⟨name', hcol', -, -⟩ := T.lookup_column (show 1 ≤ c + 1 by omega) hlast
          rw [atRow_append] at hcol'
          have hcolumn : getOidElement (T.path ++ 1 :: 1 :: (c + 1) :: []) =
              (T.above ++ [T.parent, T.table, T.entry, T.row] ++
                [column (T.columnOid (c + 1)) name'], .found) := by
            simpa [TableNodes.columnOid] using hcol'
          exact (get_lands hcolumn (by simp [column]) (by simp [column]) hst).mono (by omega)
        · exact get_past hT (show T.cellOid c i = T.path ++ [1, 1, c, i] from rfl) (by omega) hst
      exact ⟨some blank, (Gives.step hstart (Gives.step (hindex {} hv)
        (Gives.step hback hnext))).mono (by omega), faithful_blank⟩
  | read =>
      refine ⟨_, (get_read h1 hc hv).mono (by omega), ?_⟩
      intro r o hr ho
      cases hr
      cases ho
      rfl

theorem gets_blank {k : Nat} (h : getOidElement q = (pre ++ [n], .found))
    (hindex : n.nodetype ≠ .index) (hscalar : n.nodetype ≠ .scalar) (hk : 3 ≤ k) : Gets B k q :=
  ⟨some blank, (get_lands h hindex hscalar (tries_start B .get q)).mono hk, faithful_blank⟩

theorem gets_failed {k : Nat} {objs : List Node} (h : getOidElement q = (objs, .failed))
    (hk : 2 ≤ k) : Gets B k q :=
  ⟨some blank, (blank_gives h).mono hk, faithful_blank⟩

theorem gets_none {k l : Nat} (h : Gives (iteration B .get q) l start none) (hk : l ≤ k) :
    Gets B k q := ⟨none, h.mono hk, faithful_none⟩

/-- **GET at and below a column.** -/
theorem get_column (hT : .table T ∈ places) (h1 : 1 ≤ c) (hc : c ≤ T.columns.length) :
    Gets B 9 (T.path ++ 1 :: 1 :: c :: rest) := by
  obtain ⟨name, hcol, hrow, hdeep⟩ := T.lookup_column h1 hc
  rcases rest with _ | ⟨i, _ | ⟨j, rest⟩⟩
  · have hfound : getOidElement (T.path ++ [1, 1, c]) =
        (T.atRow ++ [column (T.columnOid c) name], .found) := hcol
    exact gets_blank hfound (by simp [column]) (by simp [column]) (by omega)
  · apply get_index_gives hT h1 hc
    by_cases hi0 : i = 0
    · subst hi0
      exact fetch_zero hT h1 hc B
    by_cases hi : i ≤ T.rows B
    · rw [T.fetch_row c h1 hc B i (by omega) hi]
      exact .read
    · rw [T.fetch_over c h1 hc B i (by omega) (by omega)]
      exact .past _
  · have hover := tries_start B .get _ _ _ (hdeep i j rest) (by decide)
    exact gets_none (Gives.step hover oidOver_gives) (by omega)

/-- **GET at and below the row of a table.** -/
theorem get_row (hT : .table T ∈ places) : Gets B 9 (T.path ++ 1 :: 1 :: rest) := by
  have hrow : T.atRow = T.above ++ [T.parent, T.table, T.entry] ++ [T.row] := by simp [atRow]
  rcases rest with _ | ⟨c, rest⟩
  · have hfound := T.lookup_row
    rw [hrow] at hfound
    exact gets_blank hfound (by simp [TableNodes.row]) (by simp [TableNodes.row]) (by omega)
  by_cases h0 : c = 0
  · subst h0
    have hzero := T.lookup_zero rest
    rw [hrow] at hzero
    exact gets_none (Snmp.zero_gives _ hzero (by simp [TableNodes.row])) (by omega)
  by_cases hpast : T.columns.length < c
  · exact ⟨some blank, (get_past hT rfl hpast (tries_start B .get _)).mono (by omega),
      faithful_blank⟩
  · exact get_column hT (by omega) (by omega)

/-- **GET at and below a table** prints no other OID. -/
theorem get_faithful (hT : .table T ∈ places) (rest : Oid) : Gets B 9 (T.path ++ rest) := by
  rcases rest with _ | ⟨e, rest⟩
  · have hfound : getOidElement (T.path ++ []) = (T.above ++ [T.parent] ++ [T.table], .found) := by
      rw [List.append_nil, T.lookup_table]
      simp [atTable]
    exact gets_blank hfound (by simp [TableNodes.table]) (by simp [TableNodes.table]) (by omega)
  by_cases he : e = 1
  · subst he
    rcases rest with _ | ⟨e', rest⟩
    · have hfound : getOidElement (T.path ++ [1]) =
          (T.above ++ [T.parent, T.table] ++ [T.entry], .found) := by
        rw [T.lookup_entry]
        simp [atEntry]
      exact gets_blank hfound (by simp [TableNodes.entry]) (by simp [TableNodes.entry]) (by omega)
    by_cases he' : e' = 1
    · subst he'
      exact get_row hT
    · exact gets_failed (T.lookup_row_ne he' rest) (by omega)
  · exact gets_failed (T.lookup_entry_ne he rest) (by omega)

end Table

/-! ## At a list of scalars -/

/-- The requests that GET answers with another OID. -/
inductive PastScalar : Oid → Prop
  /-- The instance of a scalar is redirected to the next scalar of the list. -/
  | next (S : ScalarList) (hS : .scalars S ∈ places) (s : Nat)
      (hs : 1 ≤ s ∧ s < S.scalars.length) (as : Oid) : PastScalar (S.path ++ s :: 0 :: as)
  /-- The instance of the last sensor is redirected to the end of the tree. -/
  | last (as : Oid) : PastScalar (3 :: 2 :: 2 :: 8 :: 7 :: 0 :: as)
  /-- Arcs below a scalar choose another scalar of the list. -/
  | chain (S : ScalarList) (hS : .scalars S ∈ places) (s x : Nat) (as : Oid)
      (hs : 1 ≤ s ∧ s ≤ S.scalars.length) (has : as ≠ [])
      (hend : chainEnd S.scalars.length s as = (x, .found)) : PastScalar (S.path ++ s :: as)

namespace ScalarList

variable {S : ScalarList} {rest : Oid} {s x : Nat}

/-- GET answers a scalar without its `.0`. -/
def scalarReply (S : ScalarList) (B : Backend) (s : Nat) : Reply :=
  valueReply B (S.path ++ [s]) 0 (S.path ++ [s])

theorem get_found (h1 : 1 ≤ s) (hs : s ≤ S.scalars.length) (pre : List Node) (m : Node)
    (name : String) (r : ResObj) :
    Gives (iteration B .get q) 1 (after .found (pre ++ [m, scalar (S.path ++ [s]) name]) r)
      (some (S.scalarReply B s)) := by
  apply Gives.done
  have hpre : pre ++ [m, scalar (S.path ++ [s]) name] =
      pre ++ [m] ++ [scalar (S.path ++ [s]) name] := by simp
  rw [hpre, get_scalar rfl (S.leaf s h1 hs) (S.fetch_scalar s h1 hs B)]
  exact proceed_value (S.leaf s h1 hs) false

/-- What GET prints after the instance of the last scalar. -/
def getOnward (S : ScalarList) : Option Reply :=
  if S.path = sensorEntry.path then some (stray {} [3, 2, 2, 9]) else some blank

variable (pre) in
/-- A node of the tree that is landed on has no value. -/
theorem lands_blank {objs : List Node} (r : ResObj) (h : getOidElement t = (pre ++ [n], .found))
    (hindex : n.nodetype ≠ .index) (hscalar : n.nodetype ≠ .scalar) :
    Gives (iteration B .get q) 3 (attempt objs r t) (some blank) :=
  get_lands h hindex hscalar (tries_attempt B .get q objs r t)

/-- A search past the end of a list goes on with what follows the list. -/
theorem get_up (hS : .scalars S ∈ places) (rest : Oid) (below : List Node) :
    Gives (iteration B .get (S.path ++ rest)) 4 (after .oidOverList (S.atList ++ below) {})
      (some blank) := by
  simp only [places, List.mem_cons, List.not_mem_nil, or_false, Place.scalars.injEq, reduceCtorEq,
    false_or] at hS
  rcases hS with rfl | rfl | rfl | rfl
  · exact Gives.through (attempt (outStatePSW.atList ++ below) {} [3, 2, 2]) rfl
      (lands_blank [switch, psw] {} rfl (by decide) (by decide))
  · exact Gives.through (attempt (upsStatus.atList ++ below) {} [3, 2, 2, 2]) rfl
      (lands_blank [switch, psw, statusPSW] {} rfl (by decide) (by decide))
  · exact Gives.through (attempt (fwStatus.atList ++ below) {} [3, 2, 2, 4]) rfl
      (lands_blank [switch, psw, statusPSW] {} rfl (by decide) (by decide))
  · exact Gives.mono (show 1 ≤ 4 by omega) (Gives.done rfl)

theorem get_onward (hS : .scalars S ∈ places) (tail : Oid) (objs : List Node) :
    Gives (iteration B .get (S.path ++ S.scalars.length :: 0 :: tail)) 8
      (attempt objs {} (splitNextOid S.path)) S.getOnward := by
  simp only [places, List.mem_cons, List.not_mem_nil, or_false, Place.scalars.injEq, reduceCtorEq,
    false_or] at hS
  rcases hS with rfl | rfl | rfl | rfl
  · -- the node after the list is not there
    apply Gives.mono (show 5 ≤ 8 by omega)
    exact Gives.through (after .oidOverList [switch, psw, configPSW] ⟨some [3, 2, 1, 5], _, _⟩) rfl
      (Gives.through (attempt [switch, psw, configPSW] {} [3, 2, 2]) rfl
        (lands_blank [switch, psw] {} rfl (by decide) (by decide)))
  · exact (lands_blank [switch, psw, statusPSW] {} rfl (by decide) (by decide)).mono
      (by omega)
  · exact (lands_blank [switch, psw, statusPSW] {} rfl (by decide) (by decide)).mono
      (by omega)
  · apply Gives.mono (show 2 ≤ 8 by omega)
    exact Gives.through (after .oidOverList [switch, psw, statusPSW] ⟨some [3, 2, 2, 9], _, _⟩)
      rfl (Gives.done rfl)

/-- **GET at and below a list of scalars.** -/
theorem get_gives (hS : .scalars S ∈ places) (rest : Oid) :
    Gives (iteration B .get (S.path ++ rest)) 12 start
      (S.search (S.scalarReply B) (some blank) (some blank) S.getOnward rest) := by
  apply Gives.mono (show 8 + 4 ≤ 12 by omega)
  refine search_gives rest (fun _ h1 hs pre m name r => get_found h1 hs pre m name r)
    (fun hst => ?_) (fun below _ => ?_) (fun tail hrest objs => ?_)
  · exact (get_lands lookup_list (by simp [node]) (by simp [node]) hst).mono (by omega)
  · exact (get_up hS rest below).mono (by omega)
  · subst hrest
    exact get_onward hS tail objs

theorem getOnward_eq (hS : .scalars S ∈ places) :
    S = sensorEntry ∧ S.getOnward = some (stray {} [3, 2, 2, 9]) ∨ S.getOnward = some blank := by
  simp only [places, List.mem_cons, List.not_mem_nil, or_false, Place.scalars.injEq, reduceCtorEq,
    false_or] at hS
  rcases hS with rfl | rfl | rfl | rfl
  · exact .inr (if_neg (by decide))
  · exact .inr (if_neg (by decide))
  · exact .inr (if_neg (by decide))
  · exact .inl ⟨rfl, if_pos rfl⟩

/-- What a search below a scalar prints: nothing, or the cases of `PastScalar`. -/
theorem search_below (hS : .scalars S ∈ places) {as : Oid} (has : as ≠ []) (B : Backend) :
    (S.search (S.scalarReply B) (some blank) (some blank) S.getOnward (s :: as) = none ∨
      S.search (S.scalarReply B) (some blank) (some blank) S.getOnward (s :: as) = some blank) ∨
    PastScalar (S.path ++ s :: as) ∧
      ((∃ x, S.search (S.scalarReply B) (some blank) (some blank) S.getOnward (s :: as) =
        some (S.scalarReply B x)) ∨
      S = sensorEntry ∧ S.search (S.scalarReply B) (some blank) (some blank) S.getOnward
        (s :: as) = some (stray {} [3, 2, 2, 9])) := by
  rw [search]
  by_cases hlarge : s > S.scalars.length
  · rw [if_pos hlarge]
    exact .inl (.inr rfl)
  rw [if_neg hlarge]
  by_cases h0 : s = 0
  · rw [if_pos h0]
    exact .inl (.inl rfl)
  rw [if_neg h0]
  have hs : 1 ≤ s ∧ s ≤ S.scalars.length := ⟨by omega, by omega⟩
  obtain ⟨a, as, rfl⟩ := List.exists_cons_of_ne_nil has
  cases a with
  | zero =>
      rw [scalarSearch]
      by_cases hlast : s < S.scalars.length
      · rw [if_pos hlast]
        exact .inr ⟨.next S hS s ⟨hs.1, hlast⟩ as, .inl ⟨_, rfl⟩⟩
      obtain rfl : s = S.scalars.length := by omega
      rw [if_neg hlast]
      rcases getOnward_eq hS with ⟨rfl, hend⟩ | hblank
      · exact .inr ⟨.last as, .inr ⟨rfl, hend⟩⟩
      · exact .inl (.inr hblank)
  | succ a =>
      rw [scalarSearch]
      · have hstatus := chainEnd_status S.scalars.length s ((a + 1) :: as)
        generalize hend : chainEnd S.scalars.length s ((a + 1) :: as) = e at hstatus
        obtain ⟨x, status⟩ := e
        simp only [List.mem_cons, List.not_mem_nil, or_false] at hstatus
        rcases hstatus with rfl | rfl | rfl
        · exact .inr ⟨.chain S hS s x _ hs has hend, .inl ⟨x, rfl⟩⟩
        · exact .inl (.inr rfl)
        · exact .inl (.inl rfl)
      · intro tail h
        cases h

theorem scalarReply_ne {as : Oid} (has : as ≠ []) : S.path ++ [x] ≠ S.path ++ s :: as := by
  intro h
  have hlen := congrArg List.length (List.append_cancel_left h)
  have hpos := List.length_pos_iff.mpr has
  simp only [List.length_cons, List.length_nil] at hlen
  omega

/-- **Below a scalar** no OID is answered with itself. -/
theorem ne_of_below (hS : .scalars S ∈ places) {as : Oid} (has : as ≠ []) {r : Reply} {o : Oid}
    (hr : S.search (S.scalarReply B) (some blank) (some blank) S.getOnward (s :: as) = some r)
    (ho : r.oid = some o) : o ≠ S.path ++ s :: as := by
  rcases search_below (s := s) hS has B with (hnone | hblank) | ⟨-, ⟨x, hx⟩ | ⟨rfl, hend⟩⟩
  · rw [hnone] at hr
    cases hr
  · rw [hblank] at hr
    cases hr
    cases ho
  · rw [hx] at hr
    cases hr
    cases ho
    exact scalarReply_ne has
  · rw [hend] at hr
    cases hr
    cases ho
    simp [sensorEntry]

theorem search_faithful (hS : .scalars S ∈ places) (hq : ¬ PastScalar (S.path ++ rest)) :
    Faithful (S.path ++ rest)
      (S.search (S.scalarReply B) (some blank) (some blank) S.getOnward rest) := by
  match rest with
  | [] => exact faithful_blank
  | [s] =>
      rw [search]
      split
      · exact faithful_blank
      split
      · exact faithful_none
      · intro r o hr ho
        cases hr
        cases ho
        rfl
  | s :: a :: as =>
      rcases search_below (s := s) hS (List.cons_ne_nil a as) B with (hnone | hblank) | ⟨hpast, -⟩
      · rw [hnone]
        exact faithful_none
      · rw [hblank]
        exact faithful_blank
      · exact absurd hpast hq

end ScalarList

/-! ## The whole tree -/

theorem mainHandler_of_gives {k : Nat} (h : Gives (iteration B req q) k start a) (hk : k ≤ 50) :
    mainHandler B req q = a := h.mono hk 0

/-- **GET redirects** the instance of a scalar and what lies below it. -/
theorem get_of_pastScalar (h : PastScalar q) :
    ∃ r o, mainHandler B .get q = some r ∧ r.oid = some o ∧ o ≠ q := by
  cases h with
  | next S hS s hs as =>
      have hsearch : S.search (S.scalarReply B) (some blank) (some blank) S.getOnward
          (s :: 0 :: as) = some (S.scalarReply B (s + 1)) := by
        rw [ScalarList.search, if_neg (by omega), if_neg (by omega), ScalarList.scalarSearch,
          if_pos hs.2]
      have hgives := ScalarList.get_gives (B := B) hS (s :: 0 :: as)
      rw [hsearch] at hgives
      exact ⟨_, _, mainHandler_of_gives hgives (by omega), rfl,
        ScalarList.scalarReply_ne (List.cons_ne_nil 0 as)⟩
  | last as =>
      have hgives := ScalarList.get_gives (B := B) (S := sensorEntry) (by simp [places])
        (7 :: 0 :: as)
      exact ⟨stray {} [3, 2, 2, 9], _, mainHandler_of_gives hgives (by omega), rfl, by simp⟩
  | chain S hS s x as hs has hend =>
      have hsearch : S.search (S.scalarReply B) (some blank) (some blank) S.getOnward
          (s :: as) = some (S.scalarReply B x) := by
        obtain ⟨a, as, rfl⟩ := List.exists_cons_of_ne_nil has
        have ha := (ScalarList.chainEnd_found hend).1.1
        obtain ⟨a, rfl⟩ : ∃ k, a = k + 1 := ⟨a - 1, by omega⟩
        rw [ScalarList.search, if_neg (by omega), if_neg (by omega), ScalarList.scalarSearch, hend]
        intro tail h
        cases h
      have hgives := ScalarList.get_gives (B := B) hS (s :: as)
      rw [hsearch] at hgives
      exact ⟨_, _, mainHandler_of_gives hgives (by omega), rfl, ScalarList.scalarReply_ne has⟩

/-- What GET prints is the OID asked for, or there is nothing. -/
def GetsOnly (B : Backend) (q : Oid) : Prop :=
  ∃ a, Gives (iteration B .get q) 12 start a ∧ (¬ PastScalar q → Faithful q a)

variable (pre) in
theorem getsOnly_blank (h : getOidElement q = (pre ++ [n], .found)) (hindex : n.nodetype ≠ .index)
    (hscalar : n.nodetype ≠ .scalar) : GetsOnly B q :=
  ⟨some blank, (get_lands h hindex hscalar (tries_start B .get q)).mono (by omega),
    fun _ => faithful_blank⟩

variable (pre) in
theorem getsOnly_zero (h : getOidElement q = (pre ++ [n], .zeroIndex))
    (hn : n.nodetype ≠ .scalar) : GetsOnly B q :=
  ⟨none, (zero_gives pre h hn).mono (by omega), fun _ => faithful_none⟩

theorem getsOnly_beyond (objs : List Node) (h : getOidElement q = (objs, .oidOverList))
    (hobjs : objs.length < 2) : GetsOnly B q :=
  ⟨none, (beyond_gives h hobjs).mono (by omega), fun _ => faithful_none⟩

variable (pre) in
/-- A search past the end of a list that goes on at a node without a value. -/
theorem getsOnly_past {objs : List Node} (h : getOidElement q = (objs, .oidOverList))
    (hpast : onOidOverList q (after .oidOverList objs {}) = .inl (attempt objs {} t))
    (ht : getOidElement t = (pre ++ [n], .found)) (hindex : n.nodetype ≠ .index)
    (hscalar : n.nodetype ≠ .scalar) : GetsOnly B q := by
  have hstart := tries_start B .get q _ _ h (by decide)
  have hnext : Gives (iteration B .get q) 3 (attempt objs {} t) (some blank) :=
    get_lands ht hindex hscalar (tries_attempt B .get q objs {} t)
  exact ⟨some blank, (Gives.step hstart (Gives.step hpast hnext)).mono (by omega),
    fun _ => faithful_blank⟩

theorem getsOnly_table {T : Table} (hT : .table T ∈ places) (rest : Oid) :
    GetsOnly B (T.path ++ rest) := by
  obtain ⟨a, hgives, hfaithful⟩ := T.get_faithful (B := B) hT rest
  exact ⟨a, hgives.mono (by omega), fun _ => hfaithful⟩

theorem getsOnly_scalars {S : ScalarList} (hS : .scalars S ∈ places) (rest : Oid) :
    GetsOnly B (S.path ++ rest) :=
  ⟨_, ScalarList.get_gives hS rest, ScalarList.search_faithful hS⟩

theorem getsOnly_config (rest : Oid) : GetsOnly B (3 :: 2 :: 1 :: rest) := by
  match rest with
  | [] => exact getsOnly_blank [switch, psw] rfl (by decide) (by decide)
  | 0 :: rest => exact getsOnly_zero [switch, psw] rfl (by decide)
  | 1 :: rest => exact getsOnly_blank [switch, psw, configPSW] rfl (by decide) (by decide)
  | 2 :: rest => exact getsOnly_table (T := autoRestart) (by simp [places]) rest
  | 3 :: rest => exact getsOnly_table (T := portPoe) (by simp [places]) rest
  | 4 :: rest => exact getsOnly_scalars (S := outStatePSW) (by simp [places]) rest
  | (a + 5) :: rest =>
      exact getsOnly_past (t := [3, 2, 2]) [switch, psw] rfl rfl rfl (by decide)
        (by decide)

theorem getsOnly_status (rest : Oid) : GetsOnly B (3 :: 2 :: 2 :: rest) := by
  match rest with
  | [] => exact getsOnly_blank [switch, psw] rfl (by decide) (by decide)
  | 0 :: rest => exact getsOnly_zero [switch, psw] rfl (by decide)
  | 1 :: rest => exact getsOnly_scalars (S := upsStatus) (by simp [places]) rest
  | 2 :: rest => exact getsOnly_table (T := inputStatus) (by simp [places]) rest
  | 3 :: rest => exact getsOnly_scalars (S := fwStatus) (by simp [places]) rest
  | 4 :: rest =>
      exact getsOnly_blank [switch, psw, statusPSW] rfl (by decide) (by decide)
  | 5 :: rest => exact getsOnly_table (T := poeStatus) (by simp [places]) rest
  | [6] => exact getsOnly_blank [switch, psw, statusPSW] rfl (by decide) (by decide)
  | 6 :: 0 :: rest =>
      exact getsOnly_zero _ (lookup_special_zero rest) (by decide)
  | 6 :: 1 :: rest => exact getsOnly_table (T := autoRestartErrors) (by simp [places]) rest
  | 6 :: (a + 2) :: rest =>
      exact getsOnly_past (t := [3, 2, 2, 7]) [switch, psw, statusPSW] rfl rfl rfl
        (by decide) (by decide)
  | 7 :: rest => exact getsOnly_table (T := sfpStatus) (by simp [places]) rest
  | 8 :: rest => exact getsOnly_scalars (S := sensorEntry) (by simp [places]) rest
  | (a + 9) :: rest =>
      have hlookup : getOidElement (3 :: 2 :: 2 :: (a + 9) :: rest) =
          ([switch, psw, statusPSW], .oidOverList) := rfl
      have hend : iteration B .get (3 :: 2 :: 2 :: (a + 9) :: rest)
          (after .oidOverList [switch, psw, statusPSW] {}) = .inr (some blank) := rfl
      exact ⟨some blank, (Gives.step (iteration_start hlookup (by decide))
        (Gives.done hend)).mono (by omega), fun _ => faithful_blank⟩

theorem getsOnly (q : Oid) : GetsOnly B q := by
  match q with
  | [] => exact ⟨none, Gives.mono (show 2 ≤ 12 by omega)
      (Gives.through (after .found [] {}) rfl (Gives.done rfl)), fun _ => faithful_none⟩
  | 0 :: rest => exact ⟨none, Gives.mono (show 2 ≤ 12 by omega)
      (Gives.through (after .zeroIndex [] {}) rfl (Gives.done rfl)), fun _ => faithful_none⟩
  | 1 :: rest => exact getsOnly_blank [] rfl (by decide) (by decide)
  | 2 :: rest => exact getsOnly_blank [] rfl (by decide) (by decide)
  | [3] => exact getsOnly_blank [] rfl (by decide) (by decide)
  | 3 :: 0 :: rest => exact getsOnly_zero [] rfl (by decide)
  | 3 :: 1 :: rest => exact getsOnly_blank [switch] rfl (by decide) (by decide)
  | [3, 2] => exact getsOnly_blank [switch] rfl (by decide) (by decide)
  | 3 :: 2 :: 0 :: rest => exact getsOnly_zero [switch] rfl (by decide)
  | 3 :: 2 :: 1 :: rest => exact getsOnly_config rest
  | 3 :: 2 :: 2 :: rest => exact getsOnly_status rest
  | [3, 2, a + 3] =>
      have hlookup : getOidElement [3, 2, a + 3] = ([switch, psw], .oidOverList) := rfl
      have hend : iteration B .get [3, 2, a + 3] (after .oidOverList [switch, psw] {}) =
          .inr (some blank) := rfl
      exact ⟨some blank, (Gives.step (iteration_start hlookup (by decide))
        (Gives.done hend)).mono (by omega), fun _ => faithful_blank⟩
  | 3 :: 2 :: (a + 3) :: b :: rest =>
      have hlookup : getOidElement (3 :: 2 :: (a + 3) :: b :: rest) =
          ([switch, psw], .oidOverList) := rfl
      exact ⟨none, (Gives.step (iteration_start hlookup (by decide))
        (Gives.done (beyond_error {} (by decide) (by simp)))).mono (by omega),
        fun _ => faithful_none⟩
  | 3 :: (a + 3) :: rest => exact getsOnly_beyond [switch] rfl (by decide)
  | 4 :: rest => exact getsOnly_blank [] rfl (by decide) (by decide)
  | (a + 5) :: rest => exact getsOnly_beyond [] rfl (by decide)

end Snmp
