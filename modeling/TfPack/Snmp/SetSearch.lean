import TfPack.Snmp.Get
import TfPack.Snmp.SetRequest

set_option autoImplicit false

/-! # What SET makes of an OID

A SET request searches for its OID as the other requests do. It is refused where the search fails,
and at a node that is no row of a column and no scalar; at a scalar, and at a row whose setter
returns no status, the loop runs into its guard. `Refused` are the OIDs that are refused, and
`set_ends` says that no other is.
-/

namespace Snmp

open BoundedLoop

variable {L : LuaNumbers} {B : Backend} {p : SetParam} {q t : Oid} {pre objs objs' : List Node}
  {n : Node} {r : ResObj} {st st' : State}

/-! ## Single iterations -/

/-- **A search** is that of the other requests. -/
theorem setIteration_search (hfound : st.status ≠ .found) (hnot : st.status ≠ .notDefined) :
    setIteration L B p q st.forSet =
      (iteration B .get q st).map State.forSet
        (Option.map (fun reply => ⟨.failed, reply, []⟩)) := by
  obtain ⟨first, status, objArr, resObj⟩ := st
  cases status with
  | found => exact absurd rfl hfound
  | notDefined => exact absurd rfl hnot
  | _ => rfl

/-- A status that a search goes on at. -/
abbrev Searching (status : Status) : Prop := status ≠ .found ∧ status ≠ .notDefined

theorem set_next (hs : Searching st.status) (h : iteration B .get q st = .inl st') :
    setIteration L B p q st.forSet = .inl st'.forSet := by
  rw [setIteration_search hs.1 hs.2, h]
  rfl

theorem set_error (hs : Searching st.status) (h : iteration B .get q st = .inr none) :
    Gives (setIteration L B p q) 1 st.forSet none := by
  apply Gives.done
  rw [setIteration_search hs.1 hs.2, h]
  rfl

/-- **A search that fails** refuses the request. -/
theorem set_left {reply : Reply} (hs : Searching st.status)
    (h : iteration B .get q st = .inr (some reply)) :
    Gives (setIteration L B p q) 1 st.forSet (some ⟨.failed, reply, []⟩) := by
  apply Gives.done
  rw [setIteration_search hs.1 hs.2, h]
  rfl

/-- The next iteration at `st` resolves `oid`, with `r` for its object. -/
def SetTries (L : LuaNumbers) (B : Backend) (p : SetParam) (q : Oid) (st : State) (oid : Oid)
    (r : ResObj) : Prop :=
  ∀ objs status, getOidElement oid = (objs, status) → status ≠ .ok →
    setIteration L B p q st.forSet = .inl (after status objs r).forSet

variable (L B p q) in
theorem setTries_start : SetTries L B p q start q {} :=
  fun _ _ h hs => set_next (by decide) (iteration_start h hs)

variable (L B p q objs r) in
theorem setTries_attempt (oid : Oid) :
    SetTries L B p q (attempt objs r oid) oid { r with oid := some oid } :=
  fun _ _ h hs => set_next (show Searching .inProgress by decide) (iteration_attempt h hs)

/-- **A status that no branch knows** stays until the guard ends the loop. -/
theorem unknown_gives (first : Bool) (objArr : List Node) (resObj : ResObj)
    (effects : List Effect) :
    Gives (setIteration L B p q) 0 ⟨first, none, objArr, resObj, effects⟩ none := by
  refine Gives.forever (P := fun st => st.status = none) ?_ rfl
  rintro ⟨first, status, objArr, resObj, effects⟩ rfl
  exact ⟨0, _, Leads.step rfl, rfl⟩

/-! ## Nodes that are found -/

/-- **A node that has no value** is refused. -/
theorem set_other (hindex : n.nodetype ≠ .index) (hscalar : n.nodetype ≠ .scalar) :
    Gives (setIteration L B p q) 2 (after .found (pre ++ [n]) r).forSet
      (some ⟨.failed, blank, []⟩) := by
  have hrefused : setRequestHandler L B (pre ++ [n]) p = some ({}, some .failed, []) := by
    cases hn : n.nodetype <;> simp_all [setRequestHandler]
  have hfailed : setIteration L B p q (after .found (pre ++ [n]) r).forSet =
      .inl (after .failed (pre ++ [n]) {}).forSet := by
    show onSetFound L B p ⟨false, some .found, pre ++ [n], r, []⟩ = _
    rw [onSetFound, hrefused]
    rfl
  exact Gives.step hfailed (set_left (show Searching .failed by decide) iteration_failed)

variable (pre) in
theorem set_lands (h : getOidElement t = (pre ++ [n], .found)) (hindex : n.nodetype ≠ .index)
    (hscalar : n.nodetype ≠ .scalar) (hst : SetTries L B p q st t r) :
    Gives (setIteration L B p q) 3 st.forSet (some ⟨.failed, blank, []⟩) :=
  Gives.step (hst _ _ h (by decide)) (set_other hindex hscalar)

/-- **At a scalar** the status is lost, whatever `setValue` has done. -/
theorem set_scalar (hn : n.nodetype = .scalar) :
    Gives (setIteration L B p q) 1 (after .found (pre ++ [n]) r).forSet none := by
  have hhandler : setRequestHandler L B (pre ++ [n]) p =
      (setValue L B n.oid 0 p).map (fun r => ({}, none, r.1.effects)) := by
    simp [setRequestHandler, hn]
  have hfound : setIteration L B p q (after .found (pre ++ [n]) r).forSet =
      onSetFound L B p ⟨false, some .found, pre ++ [n], r, []⟩ := rfl
  cases hv : setValue L B n.oid 0 p with
  | none =>
      apply Gives.done
      rw [hfound, onSetFound, hhandler, hv]
      rfl
  | some v =>
      refine Gives.through ⟨false, none, pre ++ [n], {}, [] ++ v.1.effects⟩ ?_
        (unknown_gives _ _ _ _)
      rw [hfound, onSetFound, hhandler, hv]
      rfl

variable (pre r) in
/-- **At a row of a column** the status is that of the setter. -/
theorem set_index (m : Node) (name : String) {i : Nat} {res : SetResult} {mibObj : MibObj}
    (hv : setValue L B m.oid i p = some (res, mibObj)) :
    setIteration L B p q (after .found (pre ++ [m, ⟨[i], name, [], .index⟩]) r).forSet =
      if res.status = some .ok then
        .inr (some ⟨.ok, sendGetResult ⟨some (m.oid ++ [i]), some mibObj, res.res⟩, res.effects⟩)
      else .inl ⟨false, res.status, pre ++ [m, ⟨[i], name, [], .index⟩],
        ⟨some (m.oid ++ [i]), some mibObj, res.res⟩, res.effects⟩ := by
  have hhandler : setRequestHandler L B (pre ++ [m, ⟨[i], name, [], .index⟩]) p =
      some (⟨some (m.oid ++ [i]), some mibObj, res.res⟩, res.status, res.effects) := by
    simp [setRequestHandler, hv]
  show onSetFound L B p
    ⟨false, some .found, pre ++ [m, ⟨[i], name, [], .index⟩], r, []⟩ = _
  rw [onSetFound, hhandler]
  rfl

/-! ## Outcomes -/

/-- The request is refused: it ends with `failed`, and nothing has been done. -/
def Refuses (L : LuaNumbers) (B : Backend) (p : SetParam) (q : Oid) : Prop :=
  ∃ reply, Gives (setIteration L B p q) 12 start.forSet (some ⟨.failed, reply, []⟩)

/-- The request does not end, or it ends with OK and nothing has been done. -/
def Fails (L : LuaNumbers) (B : Backend) (p : SetParam) (q : Oid) : Prop :=
  ∃ o, Gives (setIteration L B p q) 12 start.forSet o ∧
    ∀ run, o = some run → run.status = .ok ∧ run.effects = []

/-- The request is refused, or fails, as the condition says. -/
def EndsAs (L : LuaNumbers) (B : Backend) (p : SetParam) (q : Oid) (condition : Prop) : Prop :=
  condition ∧ Refuses L B p q ∨ ¬condition ∧ Fails L B p q

theorem Fails.of_none {k : Nat} (h : Gives (setIteration L B p q) k start.forSet none)
    (hk : k ≤ 12) : Fails L B p q :=
  ⟨none, h.mono hk, fun _ hrun => by cases hrun⟩

variable (pre) in
theorem refuses_lands (h : getOidElement q = (pre ++ [n], .found)) (hindex : n.nodetype ≠ .index)
    (hscalar : n.nodetype ≠ .scalar) : Refuses L B p q :=
  ⟨blank, (set_lands pre h hindex hscalar (setTries_start L B p q)).mono (by omega)⟩

theorem refuses_failed (h : getOidElement q = (objs, .failed)) : Refuses L B p q :=
  ⟨blank, (Gives.step (setTries_start L B p q _ _ h (by decide))
    (set_left (show Searching .failed by decide) iteration_failed)).mono (by omega)⟩

variable (pre) in
/-- A search past the end of a list that goes on at a node without a value. -/
theorem refuses_past (h : getOidElement q = (objs, .oidOverList))
    (hpast : onOidOverList q (after .oidOverList objs {}) = .inl (attempt objs {} t))
    (ht : getOidElement t = (pre ++ [n], .found)) (hindex : n.nodetype ≠ .index)
    (hscalar : n.nodetype ≠ .scalar) : Refuses L B p q := by
  have hnext : setIteration L B p q (after .oidOverList objs {}).forSet =
      .inl (attempt objs {} t).forSet := set_next (show Searching .oidOverList by decide) hpast
  exact ⟨blank, (Gives.step (setTries_start L B p q _ _ h (by decide)) (Gives.step hnext
    (set_lands _ ht hindex hscalar (setTries_attempt L B p q objs {} t)))).mono (by omega)⟩

/-- A search past the end of a list that is given up. -/
theorem refuses_left (reply : Reply) (h : getOidElement q = (objs, .oidOverList))
    (hleft : onOidOverList q (after .oidOverList objs {}) = .inr (some reply)) :
    Refuses L B p q :=
  ⟨reply, (Gives.step (setTries_start L B p q _ _ h (by decide))
    (set_left (show Searching .oidOverList by decide) hleft)).mono (by omega)⟩

/-- Without an element there is nothing to set. -/
theorem set_nothing : Gives (setIteration L B p q) 1 (after .found [] r).forSet none :=
  Gives.done rfl

/-- **An arc 0 below a node that is no scalar** makes the agent search without an OID. -/
theorem set_zero (hn : n.nodetype ≠ .scalar) :
    Gives (setIteration L B p q) 3 (after .zeroIndex (pre ++ [n]) {}).forSet none := by
  have hzero : iteration B .get q (after .zeroIndex (pre ++ [n]) {}) =
      .inl ⟨false, .inProgress, pre ++ [n], {}⟩ := by
    simp [iteration, after, onZeroIndex, hn, proceed]
  have hagain : setIteration L B p q (State.forSet ⟨false, .inProgress, pre ++ [n], {}⟩) =
      .inl (after .found [] {}).forSet := rfl
  exact Gives.step (set_next (show Searching .zeroIndex by decide) hzero)
    (Gives.step hagain set_nothing)

variable (pre) in
theorem fails_zero (h : getOidElement q = (pre ++ [n], .zeroIndex)) (hn : n.nodetype ≠ .scalar) :
    Fails L B p q :=
  .of_none (Gives.step (setTries_start L B p q _ _ h (by decide)) (set_zero hn)) (by omega)

variable (objs) in
/-- **A search that leaves the list of the enterprise or its first list** comes to nothing. -/
theorem fails_beyond (h : getOidElement q = (objs, .oidOverList)) (hobjs : objs.length < 2) :
    Fails L B p q := by
  refine .of_none (k := 2) (Gives.step (setTries_start L B p q _ _ h (by decide)) ?_) (by omega)
  have hsearch : Searching (after .oidOverList objs {}).status :=
    show Searching .oidOverList by decide
  by_cases h3 : q.length > 3
  · exact set_error hsearch (beyond_error {} (by omega) h3)
  by_cases h2 : q.length > 2
  · refine set_error hsearch ?_
    show onOidOverList q (after .oidOverList objs {}) = _
    rw [onOidOverList, if_neg h3, if_pos h2]
    simp only [after, listAt_none hobjs, luaError]
  · -- with at most two arcs the status never changes
    have hagain : iteration B .get q (after .oidOverList objs {}) =
        .inl (after .oidOverList objs {}) := by
      show onOidOverList q (after .oidOverList objs {}) = _
      rw [onOidOverList, if_neg h3, if_neg h2]
      rfl
    refine (Gives.forever (P := fun st => st = (after .oidOverList objs {}).forSet) ?_ rfl).mono
      (by omega)
    rintro st rfl
    exact ⟨0, _, Leads.step (set_next hsearch hagain), rfl⟩

/-- An OID with too many arcs is searched for ever. -/
theorem fails_over (h : getOidElement q = (objs, .oidOver)) : Fails L B p q := by
  have hsearch : Searching (after .oidOver objs {}).status := show Searching .oidOver by decide
  have hagain : iteration B .get q (after .oidOver objs {}) = .inl (after .oidOver objs {}) := rfl
  refine .of_none (k := 1) (Gives.step (setTries_start L B p q _ _ h (by decide))
    (Gives.forever (P := fun st => st = (after .oidOver objs {}).forSet) ?_ rfl)) (by omega)
  rintro st rfl
  exact ⟨0, _, Leads.step (set_next hsearch hagain), rfl⟩

/-! ## At a table -/

/-- The OIDs at and below a table that are refused: all but the arc 0 in the place of a column, and
what lies below a column. -/
def Table.Refused (T : Table) : Oid → Prop
  | 1 :: 1 :: c :: rest => T.columns.length < c ∨ (c ≠ 0 ∧ rest = [])
  | _ => True

namespace Table

variable {T : Table} {rest : Oid} {c i : Nat}

/-- A setter that returns no status, or OK without having done anything. -/
structure NoSetter (r : SetResult) : Prop where
  status : r.status = none ∨ r.status = some .ok
  effects : r.effects = []

/-- **No column but `portPoeState`** has a setter that does what it says. -/
theorem setValue_column (hT : .table T ∈ places) (h1 : 1 ≤ c) (hc : c ≤ T.columns.length)
    (hstate : T.path = portPoe.path → c ≠ 2) :
    ∃ r m, setValue L B (T.columnOid c) i p = some (r, m) ∧ NoSetter r := by
  simp only [places, List.mem_cons, List.not_mem_nil, or_false, Place.table.injEq, reduceCtorEq,
    false_or] at hT
  have hempty : NoSetter ⟨some "", none, []⟩ := ⟨.inl rfl, rfl⟩
  rcases hT with rfl | rfl | rfl | rfl | rfl | rfl
  · change c ≤ 9 at hc
    interval_cases c <;> exact ⟨_, _, rfl, hempty⟩
  · change c ≤ 2 at hc
    obtain rfl : c = 1 := by
      have hne := hstate rfl
      omega
    have hindex : ∀ m : MibObj, m.name ≠ some "portPoeState" →
        NoSetter (snmpSetPoeState L B m i p) := by
      intro m hm
      rw [snmpSetPoeState, if_neg hm]
      exact ⟨.inr rfl, rfl⟩
    exact ⟨_, _, rfl, hindex _ (by decide)⟩
  · change c ≤ 4 at hc
    have hrelay : ∀ m : MibObj, m.name ≠ some "relay" → NoSetter (snmpSetOutPutState L m p) := by
      intro m hm
      rw [snmpSetOutPutState, if_neg hm]
      exact ⟨.inl rfl, rfl⟩
    interval_cases c <;> exact ⟨_, _, rfl, hrelay _ (by decide)⟩
  · change c ≤ 3 at hc
    interval_cases c <;> exact ⟨_, _, rfl, hempty⟩
  · change c ≤ 2 at hc
    interval_cases c <;> exact ⟨_, _, rfl, hempty⟩
  · change c ≤ 14 at hc
    interval_cases c <;> exact ⟨_, _, rfl, hempty⟩

/-- **An index of a column** that has no setter. -/
theorem fails_index (hT : .table T ∈ places) (h1 : 1 ≤ c) (hc : c ≤ T.columns.length)
    (hstate : T.path = portPoe.path → c ≠ 2) : Fails L B p (T.cellOid c i) := by
  obtain ⟨name, -, hrow, -⟩ := T.lookup_column h1 hc
  obtain ⟨res, m, hv, hres⟩ := setValue_column (L := L) (B := B) (p := p) (i := i) hT h1 hc hstate
  have hstart := setTries_start L B p (T.cellOid c i) _ _ (hrow i) (by decide)
  have hindex : setIteration L B p (T.cellOid c i) _ = _ :=
    set_index T.atRow {} (column (T.columnOid c) name) name hv
  rcases hres.status with hnone | hok
  · rw [hnone, if_neg (by decide)] at hindex
    exact .of_none (Gives.step hstart (Gives.step hindex (unknown_gives _ _ _ _))) (by omega)
  · rw [if_pos hok] at hindex
    refine ⟨_, (Gives.step hstart (Gives.done hindex)).mono (by omega), ?_⟩
    rintro run hrun
    cases hrun
    exact ⟨rfl, hres.effects⟩

/-- **SET at and below a row of a table.** -/
theorem set_column (hT : .table T ∈ places) (c : Nat) (rest : Oid)
    (hstate : T.path = portPoe.path → ∀ i, c :: rest ≠ [2, i]) :
    EndsAs L B p (T.path ++ 1 :: 1 :: c :: rest) (T.columns.length < c ∨ (c ≠ 0 ∧ rest = [])) := by
  by_cases h0 : c = 0
  · subst h0
    have hzero := T.lookup_zero rest
    have hrow : T.atRow = T.above ++ [T.parent, T.table, T.entry] ++ [T.row] := by simp [atRow]
    rw [hrow] at hzero
    exact .inr ⟨by simp, fails_zero _ hzero (by simp [TableNodes.row])⟩
  by_cases hpast : T.columns.length < c
  · obtain ⟨pre, n, hnext, hindex, hscalar⟩ := next_lands hT
    exact .inl ⟨.inl hpast, refuses_past pre (T.lookup_past hpast rest)
      (T.past (1 :: 1 :: c :: rest) [T.entry, T.row] {}) hnext hindex hscalar⟩
  have h1 : 1 ≤ c := Nat.pos_of_ne_zero h0
  have hc : c ≤ T.columns.length := Nat.not_lt.mp hpast
  obtain ⟨name, hcol, -, hdeep⟩ := T.lookup_column h1 hc
  cases rest with
  | nil => exact .inl ⟨.inr ⟨h0, rfl⟩, refuses_lands _ hcol (by simp [column]) (by simp [column])⟩
  | cons i rest =>
      cases rest with
      | nil =>
          refine .inr ⟨by simp [hpast], fails_index (i := i) hT h1 hc (fun h h2 => hstate h i ?_)⟩
          rw [h2]
      | cons j rest => exact .inr ⟨by simp [hpast], fails_over (hdeep i j rest)⟩

/-- **SET at and below a table.** -/
theorem set_ends (hT : .table T ∈ places) (rest : Oid)
    (hstate : T.path = portPoe.path → ∀ i, rest ≠ [1, 1, 2, i]) :
    EndsAs L B p (T.path ++ rest) (T.Refused rest) := by
  match rest with
  | [] =>
      have hfound : getOidElement (T.path ++ []) =
          (T.above ++ [T.parent] ++ [T.table], .found) := by
        rw [List.append_nil, T.lookup_table]
        simp [atTable]
      exact .inl ⟨trivial, refuses_lands _ hfound (by simp [TableNodes.table])
        (by simp [TableNodes.table])⟩
  | [1] =>
      have hfound : getOidElement (T.path ++ [1]) =
          (T.above ++ [T.parent, T.table] ++ [T.entry], .found) := by
        rw [T.lookup_entry]
        simp [atEntry]
      exact .inl ⟨trivial, refuses_lands _ hfound (by simp [TableNodes.entry])
        (by simp [TableNodes.entry])⟩
  | [1, 1] =>
      have hfound : getOidElement (T.path ++ [1, 1]) =
          (T.above ++ [T.parent, T.table, T.entry] ++ [T.row], .found) := by
        rw [T.lookup_row]
        simp [atRow]
      exact .inl ⟨trivial, refuses_lands _ hfound (by simp [TableNodes.row])
        (by simp [TableNodes.row])⟩
  | 1 :: 1 :: c :: rest => exact set_column hT c rest (fun h i heq => hstate h i (by rw [heq]))
  | 0 :: rest => exact .inl ⟨trivial, refuses_failed (T.lookup_entry_ne (by decide) rest)⟩
  | (e + 2) :: rest => exact .inl ⟨trivial, refuses_failed (T.lookup_entry_ne (by omega) rest)⟩
  | 1 :: 0 :: rest => exact .inl ⟨trivial, refuses_failed (T.lookup_row_ne (by decide) rest)⟩
  | 1 :: (e + 2) :: rest =>
      exact .inl ⟨trivial, refuses_failed (T.lookup_row_ne (by omega) rest)⟩

end Table

/-! ## At a list of scalars -/

namespace ScalarList

variable {S : ScalarList} {rest : Oid} {s x : Nat}

/-- The OIDs at and below a list of scalars that are refused: the list, what is past its end, and
the arc 0 below its last scalar. -/
def Refused (S : ScalarList) (rest : Oid) : Prop :=
  rest = [] ∨ (∃ as, rest = S.scalars.length :: 0 :: as) ∨
    (chainEnd S.scalars.length 0 rest).2 = .oidOverList

/-- A search past the end of a list that goes on at a node without a value. -/
theorem set_past (pre : List Node) (t : Oid) (r : ResObj)
    (ht : getOidElement t = (pre ++ [n], .found)) (hindex : n.nodetype ≠ .index)
    (hscalar : n.nodetype ≠ .scalar)
    (hpast : iteration B .get q (after .oidOverList objs r) = .inl (attempt objs r t)) :
    Gives (setIteration L B p q) 4 (after .oidOverList objs r).forSet
      (some ⟨.failed, blank, []⟩) :=
  Gives.step (set_next (show Searching .oidOverList by decide) hpast)
    (set_lands _ ht hindex hscalar (setTries_attempt L B p q objs r t))

/-- A search past the end of a list goes on with what follows the list. -/
theorem set_up (hS : .scalars S ∈ places) (rest : Oid) (below : List Node) :
    ∃ reply, Gives (setIteration L B p (S.path ++ rest)) 4
      (after .oidOverList (S.atList ++ below) {}).forSet (some ⟨.failed, reply, []⟩) := by
  simp only [places, List.mem_cons, List.not_mem_nil, or_false, Place.scalars.injEq, reduceCtorEq,
    false_or] at hS
  rcases hS with rfl | rfl | rfl | rfl
  · exact ⟨blank, set_past [switch, psw] [3, 2, 2] {} rfl (by decide) (by decide) rfl⟩
  · exact ⟨blank, set_past [switch, psw, statusPSW] [3, 2, 2, 2] {} rfl (by decide) (by decide)
      rfl⟩
  · exact ⟨blank, set_past [switch, psw, statusPSW] [3, 2, 2, 4] {} rfl (by decide) (by decide)
      rfl⟩
  · exact ⟨blank, (set_left (show Searching .oidOverList by decide) rfl).mono (by omega)⟩

/-- **The arc 0 below the last scalar** goes on with what follows the list. -/
theorem set_onward (hS : .scalars S ∈ places) (tail : Oid) (objs : List Node) :
    ∃ reply, Gives (setIteration L B p (S.path ++ S.scalars.length :: 0 :: tail)) 8
      (attempt objs {} (splitNextOid S.path)).forSet (some ⟨.failed, reply, []⟩) := by
  have htries := setTries_attempt L B p (S.path ++ S.scalars.length :: 0 :: tail) objs {}
  simp only [places, List.mem_cons, List.not_mem_nil, or_false, Place.scalars.injEq, reduceCtorEq,
    false_or] at hS
  rcases hS with rfl | rfl | rfl | rfl
  · -- the node after the list is not there
    exact ⟨blank, (Gives.step (htries [3, 2, 1, 5] [switch, psw, configPSW] _ rfl (by decide))
      (set_past [switch, psw] [3, 2, 2] _ rfl (by decide) (by decide) rfl)).mono (by omega)⟩
  · exact ⟨blank, (set_lands [switch, psw, statusPSW] rfl (by decide) (by decide)
      (htries [3, 2, 2, 2])).mono (by omega)⟩
  · exact ⟨blank, (set_lands [switch, psw, statusPSW] rfl (by decide) (by decide)
      (htries [3, 2, 2, 4])).mono (by omega)⟩
  · exact ⟨_, (Gives.step (htries [3, 2, 2, 9] [switch, psw, statusPSW] _ rfl (by decide))
      (set_left (show Searching .oidOverList by decide) rfl)).mono (by omega)⟩

theorem chainEnd_at {len a : Nat} (h1 : 1 ≤ a) (ha : a ≤ len) (s : Nat) (as : Oid) :
    chainEnd len s (a :: as) = chainEnd len a as := by
  rw [chainEnd, if_neg (Nat.not_lt.mpr ha), if_neg (Nat.ne_of_gt h1)]

/-- A search that ends past the end of the list is refused. -/
theorem set_over (hS : .scalars S ∈ places)
    (hover : (chainEnd S.scalars.length 0 rest).2 = .oidOverList) :
    EndsAs L B p (S.path ++ rest) (S.Refused rest) := by
  obtain ⟨below, hlookup⟩ := S.lookup_status rest
  rw [hover] at hlookup
  obtain ⟨reply, hup⟩ := set_up (L := L) (B := B) (p := p) hS rest below
  exact .inl ⟨.inr (.inr hover), reply,
    (Gives.step (setTries_start L B p _ _ _ hlookup (by decide)) hup).mono (by omega)⟩

/-- **SET at a scalar.** -/
theorem set_at (h1 : 1 ≤ s) (hs : s ≤ S.scalars.length) :
    EndsAs L B p (S.path ++ [s]) (S.Refused [s]) := by
  obtain ⟨name, hname⟩ := lookup_scalar (S := S) h1 hs
  have hfound : getOidElement (S.path ++ [s]) =
      (S.atList ++ [scalar (S.path ++ [s]) name], .found) := by
    rw [hname]
    rfl
  refine .inr ⟨?_, .of_none (Gives.step (setTries_start L B p _ _ _ hfound (by decide))
    (set_scalar rfl)) (by omega)⟩
  rintro (h | ⟨as, h⟩ | h)
  · cases h
  · cases h
  · rw [chainEnd_at h1 hs] at h
    cases h

/-- **SET at the arc 0 below a scalar** goes on with the next one, and from the last one with what
follows the list. -/
theorem set_instance (hS : .scalars S ∈ places) (h1 : 1 ≤ s) (hs : s ≤ S.scalars.length)
    (tail : Oid) : EndsAs L B p (S.path ++ s :: 0 :: tail) (S.Refused (s :: 0 :: tail)) := by
  obtain ⟨objs, hzero, hnext⟩ := zero_step (S := S) h1 hs tail
  have hstart := setTries_start L B p (S.path ++ s :: 0 :: tail) _ _ hzero (by decide)
  have hstep := set_next (L := L) (p := p) (show Searching .zeroIndex by decide)
    (hnext B .get (S.path ++ s :: 0 :: tail) {})
  by_cases hlast : s < S.scalars.length
  · rw [if_pos hlast] at hstep
    obtain ⟨name, hname⟩ := lookup_scalar (S := S) (show 1 ≤ s + 1 by omega) hlast
    have hfound : getOidElement (S.path ++ [s + 1]) =
        (S.atList ++ [scalar (S.path ++ [s + 1]) name], .found) := by
      rw [hname]
      rfl
    refine .inr ⟨?_, .of_none (Gives.step hstart (Gives.step hstep (Gives.step
      (setTries_attempt L B p _ objs {} _ _ _ hfound (by decide)) (set_scalar rfl)))) (by omega)⟩
    rintro (h | ⟨as, h⟩ | h)
    · cases h
    · have hhead := List.head_eq_of_cons_eq h
      omega
    · rw [chainEnd_at h1 hs] at h
      simp [chainEnd] at h
  · obtain rfl : s = S.scalars.length := by omega
    rw [if_neg hlast] at hstep
    obtain ⟨reply, hon⟩ := set_onward (L := L) (B := B) (p := p) hS tail objs
    exact .inl ⟨.inr (.inl ⟨tail, rfl⟩), reply,
      (Gives.step hstart (Gives.step hstep hon)).mono (by omega)⟩

/-- **SET below a scalar** searches on in the same list. -/
theorem set_chain (hS : .scalars S ∈ places) {a : Nat} (h1 : 1 ≤ s) (hs : s ≤ S.scalars.length)
    (ha : 1 ≤ a) (as : Oid) :
    EndsAs L B p (S.path ++ s :: a :: as) (S.Refused (s :: a :: as)) := by
  by_cases hover : (chainEnd S.scalars.length 0 (s :: a :: as)).2 = .oidOverList
  · exact set_over hS hover
  have hnot : ¬S.Refused (s :: a :: as) := by
    rintro (h | ⟨as', h⟩ | h)
    · cases h
    · have hhead := List.head_eq_of_cons_eq (List.tail_eq_of_cons_eq h)
      omega
    · exact hover h
  have hlen : a ≤ S.scalars.length := by
    by_contra hlarge
    exact hover (by rw [chainEnd_at h1 hs, chainEnd, if_pos (Nat.not_le.mp hlarge)])
  rw [chainEnd_at h1 hs, chainEnd_at ha hlen] at hover
  obtain ⟨pre, below, oid, nm, nm', hlookup, -⟩ := lookup_chain as h1 hs ha hlen
  have hstart := setTries_start L B p (S.path ++ s :: a :: as)
  have hstatus := chainEnd_status S.scalars.length a as
  simp only [List.mem_cons, List.not_mem_nil, or_false] at hstatus
  rcases hstatus with hfound | hlist | hzero
  · rw [hfound] at hlookup
    have hlast := List.append_cons pre (scalar oid nm)
      [scalar (S.path ++ [(chainEnd S.scalars.length a as).1]) nm']
    rw [hlast] at hlookup
    exact .inr ⟨hnot, .of_none (Gives.step (hstart _ _ hlookup (by decide)) (set_scalar rfl))
      (by omega)⟩
  · exact absurd hlist hover
  · rw [hzero] at hlookup
    exact .inr ⟨hnot, .of_none (Gives.step (hstart _ _ hlookup (by decide))
      (set_error (show Searching .zeroIndex by decide) (iteration_zeroIndex_none rfl rfl)))
      (by omega)⟩

/-- **SET at and below a list of scalars.** -/
theorem set_ends (hS : .scalars S ∈ places) (rest : Oid) :
    EndsAs L B p (S.path ++ rest) (S.Refused rest) := by
  cases rest with
  | nil =>
      have hfound : getOidElement (S.path ++ []) = (S.above ++ [S.parent] ++ [S.node], .found) := by
        rw [List.append_nil, S.lookup_list]
      exact .inl ⟨.inl rfl, refuses_lands _ hfound (by simp [node]) (by simp [node])⟩
  | cons s as =>
      by_cases hlarge : s > S.scalars.length
      · exact set_over hS (by simp [chainEnd, hlarge])
      by_cases h0 : s = 0
      · subst h0
        have hlookup : getOidElement (S.path ++ 0 :: as) =
            (S.above ++ [S.parent] ++ [S.node], .zeroIndex) := by
          rw [S.lookup]
          simp [oidElements, node]
        have hpos := S.scalars_pos
        refine .inr ⟨?_, fails_zero _ hlookup (by simp [node])⟩
        rintro (h | ⟨as', h⟩ | h)
        · cases h
        · have hhead := List.head_eq_of_cons_eq h
          omega
        · simp [chainEnd] at h
      have h1 : 1 ≤ s := Nat.pos_of_ne_zero h0
      have hs : s ≤ S.scalars.length := Nat.not_lt.mp hlarge
      cases as with
      | nil => exact set_at h1 hs
      | cons a as =>
          cases a with
          | zero => exact set_instance hS h1 hs as
          | succ a => exact set_chain hS h1 hs (Nat.le_add_left 1 a) as

end ScalarList

end Snmp
