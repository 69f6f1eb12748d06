import TfPack.Snmp.Main

set_option autoImplicit false

/-! # Single iterations of the agent

What one iteration does, for each status: an attempt resolves its OID, a node found is answered
on or descended into, and the statuses of a failed search choose the next attempt.
-/

namespace Snmp

open BoundedLoop

variable {B : Backend} {req : RequestType} {q : Oid} {objs objs' pre : List Node} {r : ResObj}

/-- The state that resolves `oid` next. -/
def attempt (objs : List Node) (r : ResObj) (oid : Oid) : State :=
  ⟨false, .inProgress, objs, { r with oid := some oid }⟩

/-- The state after a search. -/
def after (status : Status) (objs : List Node) (r : ResObj) : State := ⟨false, status, objs, r⟩

@[simp] theorem splitNextOid_append (oid : Oid) (a : Nat) :
    splitNextOid (oid ++ [a]) = oid ++ [a + 1] := by
  simp [splitNextOid]

@[simp] theorem prevElement_append (pre : List Node) (m n : Node) :
    prevElement (pre ++ [m, n]) = some m := by
  simp [prevElement, List.dropLast_append_of_ne_nil]

/-! ## Resolving -/

theorem iteration_start {status : Status} (h : getOidElement q = (objs, status))
    (hs : status ≠ .ok) : iteration B req q start = .inl (after status objs {}) := by
  simp [iteration, start, h, proceed, hs, after]

theorem iteration_attempt {oid : Oid} {status : Status} (h : getOidElement oid = (objs', status))
    (hs : status ≠ .ok) :
    iteration B req q (attempt objs r oid) =
      .inl (after status objs' { r with oid := some oid }) := by
  simp [iteration, attempt, h, proceed, hs, after]

/-- The next iteration at `st` resolves `oid`, with `r` for its object. -/
def Tries (B : Backend) (req : RequestType) (q : Oid) (st : State) (oid : Oid) (r : ResObj) :
    Prop :=
  ∀ objs status, getOidElement oid = (objs, status) → status ≠ .ok →
    iteration B req q st = .inl (after status objs r)

variable (B req q) in
theorem tries_start : Tries B req q start q {} := fun _ _ h hs => iteration_start h hs

variable (B req q objs r) in
theorem tries_attempt (oid : Oid) :
    Tries B req q (attempt objs r oid) oid { r with oid := some oid } :=
  fun _ _ h hs => iteration_attempt h hs

/-! ## Searches that fail -/

/-- What is printed when nothing was found: no OID, `nil` and an empty line. -/
def blank : Reply := ⟨none, [none, some ""]⟩

/-- What is printed when a search fails after an answer was prepared. -/
def stray (left : ResObj) (oid : Oid) : Reply := sendGetResult { left with oid := some oid }

variable (B req objs r) in
/-- **A search over the index of a column goes on after its last arc but one.** -/
theorem iteration_overIndex {oid : Oid} {a b : Nat} (hq : q = oid ++ [a, b]) :
    iteration B req q (after .overIndex objs r) = .inl (attempt objs r (oid ++ [a + 1])) := by
  have hlen : ¬ (oid ++ [a, b]).length < 2 := by simp
  have hdrop : (oid ++ [a, b]).dropLast = oid ++ [a] := by
    simp [List.dropLast_append_of_ne_nil]
  subst hq
  show onOverIndex (oid ++ [a, b]) (after .overIndex objs r) = _
  rw [onOverIndex, if_neg hlen, hdrop, splitNextOid_append]
  rfl

theorem iteration_failed :
    iteration B req q (after .failed objs r) = .inr (some (sendGetResult r)) := rfl

/-- **An OID with too many arcs is searched for ever.** -/
theorem oidOver_gives : Gives (iteration B req q) 0 (after .oidOver objs r) none := by
  refine Gives.forever (P := fun st => st = after .oidOver objs r) ?_ rfl
  rintro st rfl
  exact ⟨0, _, Leads.step rfl, rfl⟩

/-- Without an element GET_NEXT has nothing to answer on. -/
theorem nothing_gives : Gives (iteration B .getNext q) 0 (after .found [] r) none := by
  refine Gives.forever (P := fun st => st = after .found [] r) ?_ rfl
  rintro st rfl
  exact ⟨0, _, Leads.step rfl, rfl⟩

/-- **An arc 0 below a node that is no scalar** makes the agent search without an OID, which
finds nothing. -/
theorem zeroIndex_gives {n : Node} (hn : n.nodetype ≠ .scalar) :
    Gives (iteration B req q) 3 (after .zeroIndex (pre ++ [n]) {}) none := by
  have hzero : iteration B req q (after .zeroIndex (pre ++ [n]) {}) =
      .inl ⟨false, .inProgress, pre ++ [n], {}⟩ := by
    simp [iteration, after, onZeroIndex, hn, proceed]
  have hnothing : Gives (iteration B req q) 1 (after .found [] {}) none := by
    cases req with
    | get => exact Gives.done rfl
    | getNext => exact nothing_gives.mono (Nat.zero_le 1)
  exact Gives.step hzero (Gives.step rfl hnothing)

variable (B req q pre r) in
/-- **An arc 0 below a scalar** goes on with the next node of the list, or after the list. -/
theorem iteration_zeroIndex {m n : Node} {l : List Node} (hn : n.nodetype = .scalar)
    (hl : m.list? = some l) :
    iteration B req q (after .zeroIndex (pre ++ [m, n]) r) =
      .inl (attempt (pre ++ [m, n]) r
        (if n.oid.getLastD 0 + 1 ≤ l.length then splitNextOid n.oid else splitNextOid m.oid)) := by
  show onZeroIndex (after .zeroIndex (pre ++ [m, n]) r) = _
  simp only [onZeroIndex, after, List.getLast?_append, List.getLast?_cons_cons,
    List.getLast?_singleton, Option.some_or, prevElement_append, hn, hl, if_true]
  split <;> rfl

/-- An arc 0 after several scalars is an error. -/
theorem iteration_zeroIndex_none {m n : Node} (hn : n.nodetype = .scalar) (hm : m.list? = none) :
    iteration B req q (after .zeroIndex (pre ++ [m, n]) r) = .inr none := by
  show onZeroIndex (after .zeroIndex (pre ++ [m, n]) r) = _
  simp only [onZeroIndex, after, List.getLast?_append, List.getLast?_cons_cons,
    List.getLast?_singleton, Option.some_or, prevElement_append, hn, hm, if_true]
  rfl

/-! ## Answering GET_NEXT -/

theorem iteration_getNext {m n : Node} {resObj : ResObj} {status : Status}
    (h : getNextRequestHandler B (pre ++ [m, n]) = some (resObj, status)) :
    iteration B .getNext q (after .found (pre ++ [m, n]) r) =
      proceed ⟨false, status, pre ++ [m, n], resObj⟩ := by
  simp [iteration, after, onFound, h]

/-- **A list, a table, an entry or a row is descended into.** -/
theorem getNext_descends {m n : Node} (h : n.nodetype ∈ [.list, .table, .entry, .row]) :
    iteration B .getNext q (after .found (pre ++ [m, n]) r) =
      .inl (attempt (pre ++ [m, n]) {} (n.oid ++ [1])) := by
  have hn : getNextRequestHandler B (pre ++ [m, n]) =
      some ({ oid := some (n.oid ++ [1]) }, .inProgress) := by
    simp only [List.mem_cons, List.not_mem_nil, or_false] at h
    rcases h with h | h | h | h <;> simp [getNextRequestHandler, h]
  rw [iteration_getNext hn]
  rfl

/-! ## Values -/

/-- The MIB entry of a leaf. -/
def mibOf (oid : Oid) : MibObj := (getMibObj oid).getD {}

/-- The entry of a leaf is of its type, and its values have a type that is printed. -/
structure IsLeaf (oid : Oid) (nodetype : Nodetype) : Prop where
  mib : getMibObj oid = some (mibOf oid)
  nodetype : (mibOf oid).nodetype = some nodetype
  typed : (mibOf oid).valueType ≠ none
  plain : (mibOf oid).valueType ≠ some "DisplayString"

/-- The answer with the value of a leaf. -/
def valueReply (B : Backend) (leaf : Oid) (index : Nat) (oid : Oid) : Reply :=
  ⟨some oid, [(mibOf leaf).valueType, B.read (mibOf leaf) index]⟩

/-- The object of an answer about a leaf. -/
def leafObj (leaf oid : Oid) (res : Option String) : ResObj := ⟨some oid, some (mibOf leaf), res⟩

variable {leaf oid : Oid} {ty : Nodetype} {index : Nat} {v : Option String}

/-- A value that was read is printed. -/
theorem proceed_value (h : IsLeaf leaf ty) (first : Bool) :
    proceed ⟨first, .ok, objs, leafObj leaf oid (B.read (mibOf leaf) index)⟩ =
      .inr (some (valueReply B leaf index oid)) := by
  simp [proceed, sendGetResult, leafObj, h.plain, valueReply]

theorem getResult_leaf (h : IsLeaf leaf ty) (ht : ty = .column ∨ ty = .scalar) {status : Status}
    (hv : fetch B (mibOf leaf) index = some (v, status)) :
    (getResult B leaf index).map (answerWith oid) = some (leafObj leaf oid v, status) := by
  have hty : (mibOf leaf).nodetype = some .column ∨ (mibOf leaf).nodetype = some .scalar := by
    rw [h.nodetype, Option.some.injEq, Option.some.injEq]
    exact ht
  simp [getResult, h.mib, if_pos hty, hv, answerWith, leafObj]

/-- **GET_NEXT on a column reads its first row.** -/
theorem getNext_column {m n : Node} {status : Status} (hn : n.nodetype = .column)
    (h : IsLeaf n.oid .column) (hv : fetch B (mibOf n.oid) 1 = some (v, status)) :
    iteration B .getNext q (after .found (pre ++ [m, n]) r) =
      proceed ⟨false, status, pre ++ [m, n], leafObj n.oid (n.oid ++ [1]) v⟩ := by
  apply iteration_getNext
  simpa [getNextRequestHandler, hn] using getResult_leaf h (.inl rfl) hv

/-- **GET_NEXT on a row of a column reads the row after it.** -/
theorem getNext_index {m : Node} {name : String} {i : Nat} {status : Status}
    (h : IsLeaf m.oid .column) (hv : fetch B (mibOf m.oid) (i + 1) = some (v, status)) :
    iteration B .getNext q (after .found (pre ++ [m, ⟨[i], name, [], .index⟩]) r) =
      proceed ⟨false, status, pre ++ [m, ⟨[i], name, [], .index⟩],
        leafObj m.oid (m.oid ++ [i + 1]) v⟩ := by
  apply iteration_getNext
  simpa [getNextRequestHandler] using getResult_leaf h (.inl rfl) hv

/-- **GET_NEXT on a scalar reads it.** -/
theorem getNext_scalar {m n : Node} {status : Status} (hn : n.nodetype = .scalar)
    (h : IsLeaf n.oid .scalar) (hv : fetch B (mibOf n.oid) 0 = some (v, status)) :
    iteration B .getNext q (after .found (pre ++ [m, n]) r) =
      proceed ⟨false, status, pre ++ [m, n], leafObj n.oid (n.oid ++ [0]) v⟩ := by
  apply iteration_getNext
  simpa [getNextRequestHandler, hn] using getResult_leaf h (.inr rfl) hv

end Snmp
