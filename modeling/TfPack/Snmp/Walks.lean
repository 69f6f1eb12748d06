import TfPack.Snmp.Increasing

set_option autoImplicit false

/-! # Walks end

What GET_NEXT prints is a cell of a table, an instance of a scalar, a line for nothing or an OID
that is in no place of the tree (`Prints`). It goes forward from each of these, where it prints
an OID at all, so that no walk goes on for ever.
-/

namespace Snmp

open LexOrder OrderedWalk

variable {B : Backend} {q o rest : Oid} {r : Reply}

/-! ## What is printed -/

/-- The OIDs printed that are in no place of the tree. -/
inductive Stray : Oid → Prop
  | entry (T : Table) (hT : .table T ∈ places) : Stray (T.path ++ [2])
  | row (T : Table) (hT : .table T ∈ places) : Stray (T.path ++ [1, 2])
  | status : Stray [3, 2, 2, 9]

/-- The lines GET_NEXT prints. -/
inductive Prints (B : Backend) : Reply → Prop
  | cell (T : Table) (hT : .table T ∈ places) (c i : Nat) (hc : 1 ≤ c ∧ c ≤ T.columns.length)
      (hi : 1 ≤ i ∧ i ≤ T.rows B) : Prints B (T.cell B c i)
  | scalar (S : ScalarList) (hS : .scalars S ∈ places) (s : Nat)
      (hs : 1 ≤ s ∧ s ≤ S.scalars.length) : Prints B (S.instanceReply B s)
  | stray (left : ResObj) (oid : Oid) (h : Stray oid) : Prints B (stray left oid)
  | blank : Prints B blank

/-- The answer, if there is one, is one of these. -/
def Printing (B : Backend) : Option Reply → Prop
  | none => True
  | some r => Prints B r

theorem printing_first {T : Table} (hT : .table T ∈ places) : Printing B (T.first B) := by
  rw [Table.first]
  split
  · exact .cell T hT 1 1 ⟨Nat.le_refl 1, T.columns_pos⟩ ⟨Nat.le_refl 1, ‹_›⟩
  · trivial

theorem printing_scalar {S : ScalarList} (hS : .scalars S ∈ places) {s : Nat} (h1 : 1 ≤ s)
    (hs : s ≤ S.scalars.length) : Printing B (some (S.instanceReply B s)) :=
  .scalar S hS s ⟨h1, hs⟩

theorem Table.printing_answer {T : Table} (hT : .table T ∈ places) {ifEmpty : Oid → Option Reply}
    {next : Option Reply} {left : ResObj} (hnext : Printing B next)
    (hempty : ∀ u, Printing B (ifEmpty u)) :
    Printing B (T.answer B ifEmpty next left rest) := by
  have hrow : Stray (T.path ++ [1, 2]) := .row T hT
  have hcell : ∀ {c i : Nat}, 1 ≤ c → c ≤ T.columns.length → 1 ≤ i → i ≤ T.rows B →
      Printing B (some (T.cell B c i)) := fun h1 hc h2 hi => .cell T hT _ _ ⟨h1, hc⟩ ⟨h2, hi⟩
  have hfirst : 1 ≤ T.rows B → Printing B (some (T.cell B 1 1)) := fun hrows =>
    hcell (Nat.le_refl 1) T.columns_pos (Nat.le_refl 1) hrows
  have hpast : ∀ rest, Printing B (T.pastAnswer next left rest) := by
    intro rest
    rcases Table.pastAnswer_eq T next left rest with h | h
    · rw [h]
      exact hnext
    · rw [h]
      exact .stray _ _ hrow
  match rest with
  | [] =>
      rw [answer]
      split
      · exact hfirst ‹_›
      · exact hempty []
  | [e] =>
      rw [answer]
      split
      · exact .blank
      split
      · exact hfirst ‹_›
      · exact hempty [1]
  | [e, e'] =>
      rw [answer]
      split
      · exact .blank
      split
      · exact hfirst ‹_›
      · exact .stray _ _ (.entry T hT)
  | [e, e', c] =>
      rw [answer]
      split
      · exact .blank
      rw [columnAnswer]
      split
      · trivial
      split
      · exact hpast []
      split
      · exact hcell (by omega) (by omega) (Nat.le_refl 1) ‹_›
      · exact .stray _ _ hrow
  | [e, e', c, i] =>
      rw [answer]
      split
      · exact .blank
      rw [columnAnswer]
      split
      · trivial
      split
      · exact hpast [i]
      rw [indexAnswer]
      split
      · exact hcell (by omega) (by omega) (by omega) ‹_›
      split
      · split
        · exact hcell (by omega) (by omega) (Nat.le_refl 1) ‹_›
        · trivial
      · exact hnext
  | e :: e' :: c :: i :: j :: rest =>
      rw [answer]
      split
      · exact .blank
      rw [columnAnswer]
      split
      · trivial
      split
      · exact hpast _
      · trivial

theorem ScalarList.printing_answer {S : ScalarList} (hS : .scalars S ∈ places)
    {up onward : Option Reply} (hup : Printing B up) (honward : Printing B onward) :
    Printing B (S.answer B up onward rest) := by
  cases rest with
  | nil => exact printing_scalar hS (Nat.le_refl 1) S.scalars_pos
  | cons s as =>
      rw [answer, search]
      split
      · exact hup
      split
      · trivial
      obtain ⟨below, name, -, hpos, hle, -⟩ := oidElements_chain (S := S) (s := s) as (by omega)
        (by omega) 0 0 [] ""
      cases as with
      | nil => exact printing_scalar hS (by omega) (by omega)
      | cons a as =>
          cases a with
          | zero =>
              rw [scalarSearch]
              split
              · exact printing_scalar hS (by omega) ‹_›
              · exact honward
          | succ a =>
              rw [scalarSearch]
              · have hstatus := chainEnd_status S.scalars.length s ((a + 1) :: as)
                generalize chainEnd S.scalars.length s ((a + 1) :: as) = e at hpos hle hstatus
                obtain ⟨x, status⟩ := e
                simp only [List.mem_cons, List.not_mem_nil, or_false] at hstatus
                rcases hstatus with rfl | rfl | rfl
                · exact printing_scalar hS hpos hle
                · exact hup
                · trivial
              · intro tail h
                cases h

/-! ## The answer in each place -/

/-- An answer to requests below `p` that goes forward from all of them. -/
def Onward (B : Backend) (p : Oid) (a : Option Reply) : Prop :=
  (∀ rest, Goes (p ++ rest) a) ∧ Printing B a

theorem onward_none (p : Oid) : Onward B p none := ⟨fun _ => trivial, trivial⟩

theorem onward_first {T : Table} {p : Oid} (hT : .table T ∈ places)
    (h : precedes p T.path = true) : Onward B p (T.first B) :=
  ⟨fun rest => goes_first (lt_of_precedes h rest), printing_first hT⟩

theorem onward_scalar {S : ScalarList} {p : Oid} (hS : .scalars S ∈ places)
    (h : precedes p S.path = true) : Onward B p (some (S.instanceReply B 1)) :=
  ⟨fun rest => goes_scalar (lt_of_precedes h rest) 1,
    printing_scalar hS (Nat.le_refl 1) S.scalars_pos⟩

/-- **At and below a table** the answer is the one of the table, whose further search goes
forward. -/
theorem exists_tableAnswer {T : Table} (hT : .table T ∈ places) (B : Backend) :
    ∃ ifEmpty next left,
      (∀ rest, getNextAnswer B (T.path ++ rest) = T.answer B ifEmpty next left rest) ∧
      Onward B T.path next ∧ ∀ u, Onward B T.path (ifEmpty u) := by
  have hups : ∀ {p : Oid}, precedes p upsStatus.path = true →
      Onward B p (some (upsStatus.instanceReply B 1)) := onward_scalar (by simp [places])
  have hout : ∀ {p : Oid}, precedes p outStatePSW.path = true →
      Onward B p (some (outStatePSW.instanceReply B 1)) := onward_scalar (by simp [places])
  have herrors : ∀ {p : Oid}, precedes p autoRestartErrors.path = true →
      Onward B p (autoRestartErrors.first B) := onward_first (by simp [places])
  have hpoe : ∀ {p : Oid}, precedes p portPoe.path = true → Onward B p (portPoe.first B) :=
    onward_first (by simp [places])
  have hsfp : ∀ {p : Oid}, precedes p sfpStatus.path = true → Onward B p (sfpStatus.first B) :=
    onward_first (by simp [places])
  simp only [places, List.mem_cons, List.not_mem_nil, or_false, Place.table.injEq, reduceCtorEq,
    false_or] at hT
  rcases hT with rfl | rfl | rfl | rfl | rfl | rfl
  · refine ⟨fun u => if u = [] then some (upsStatus.instanceReply B 1) else portPoe.first B,
      portPoe.first B, portPoe.noCell 1 1, fun rest => rfl, hpoe (by decide), fun u => ?_⟩
    dsimp only
    split
    · exact hups (by decide)
    · exact hpoe (by decide)
  · refine ⟨fun u => if u = [] then some (upsStatus.instanceReply B 1)
        else some (outStatePSW.instanceReply B 1),
      some (outStatePSW.instanceReply B 1), {}, fun rest => rfl, hout (by decide), fun u => ?_⟩
    dsimp only
    split
    · exact hups (by decide)
    · exact hout (by decide)
  · exact ⟨fun _ => none, some (fwStatus.instanceReply B 1), {}, fun rest => rfl,
      onward_scalar (by simp [places]) (by decide), fun _ => onward_none _⟩
  · refine ⟨fun u => if u = [] then none else autoRestartErrors.first B,
      autoRestartErrors.first B, autoRestartErrors.noCell 1 1, fun rest => rfl,
      herrors (by decide), fun u => ?_⟩
    dsimp only
    split
    · exact onward_none _
    · exact herrors (by decide)
  · exact ⟨fun _ => sfpStatus.first B, sfpStatus.first B, {}, fun rest => rfl,
      hsfp (by decide), fun _ => hsfp (by decide)⟩
  · exact ⟨fun _ => none, some (sensorEntry.instanceReply B 1), {}, fun rest => rfl,
      onward_scalar (by simp [places]) (by decide), fun _ => onward_none _⟩

/-- **At and below a list of scalars** the answer is the one of the list. -/
theorem exists_scalarsAnswer {S : ScalarList} (hS : .scalars S ∈ places) (B : Backend) :
    ∃ (up : Option Reply) (onward : Oid → Option Reply),
      (∀ rest, getNextAnswer B (S.path ++ rest) = S.answer B up (onward rest) rest) ∧
      (Printing B up ∧ ∀ rest, Printing B (onward rest)) ∧
      Goes (S.path ++ [S.scalars.length, 0]) (onward [S.scalars.length, 0]) := by
  have hups : Printing B (some (upsStatus.instanceReply B 1)) :=
    printing_scalar (by simp [places]) (Nat.le_refl 1) (by decide)
  have hinputs : Printing B (inputStatus.first B) := printing_first (by simp [places])
  have hpoe : Printing B (poeStatus.first B) := printing_first (by simp [places])
  have hfw : Printing B (some (fwStatus.instanceReply B 1)) :=
    printing_scalar (by simp [places]) (Nat.le_refl 1) (by decide)
  simp only [places, List.mem_cons, List.not_mem_nil, or_false, Place.scalars.injEq, reduceCtorEq,
    false_or] at hS
  rcases hS with rfl | rfl | rfl | rfl
  · exact ⟨some (upsStatus.instanceReply B 1), fun _ => some (upsStatus.instanceReply B 1),
      fun rest => rfl, ⟨hups, fun _ => hups⟩, goes_scalar (by decide) 1⟩
  · exact ⟨inputStatus.first B, fun _ => inputStatus.first B, fun rest => rfl,
      ⟨hinputs, fun _ => hinputs⟩, goes_first (by decide)⟩
  · have hlast : Goes (fwStatus.path ++ [1, 0]) (fwOnward B [1, 0]) := by
      rw [fwOnward]
      · exact goes_first (by decide)
      · rintro a b c - h
        cases h
    refine ⟨poeStatus.first B, fwOnward B, fun rest => rfl, ⟨hpoe, fun rest => ?_⟩, hlast⟩
    by_cases hback : poeStatus.first B = none ∧ ∃ a b c, rest = [a, b, c]
    · obtain ⟨hnone, a, b, c, rfl⟩ := hback
      rw [fwOnward]
      · exact hfw
      · exact hnone
    · rw [fwOnward]
      · exact hpoe
      · exact fun a b c h hrest => hback ⟨h, a, b, c, hrest⟩
  · exact ⟨some blank, fun _ => some (stray {} [3, 2, 2, 9]), fun rest => rfl,
      ⟨.blank, fun _ => .stray _ _ .status⟩, goes_stray (by decide)⟩

/-- **What is printed at and below a place.** -/
theorem printing_place {p : Place} (hp : p ∈ places) :
    Printing B (getNextAnswer B (p.path ++ rest)) := by
  cases p with
  | table T =>
      obtain ⟨ifEmpty, next, left, hanswer, hnext, hempty⟩ := exists_tableAnswer hp B
      rw [show (Place.table T).path = T.path from rfl, hanswer]
      exact Table.printing_answer hp hnext.2 fun u => (hempty u).2
  | scalars S =>
      obtain ⟨up, onward, hanswer, ⟨hup, honward⟩, -⟩ := exists_scalarsAnswer hp B
      rw [show (Place.scalars S).path = S.path from rfl, hanswer]
      exact ScalarList.printing_answer hp hup (honward rest)

theorem printing_autoRestart : Printing B (autoRestart.first B) :=
  printing_first (by simp [places])

theorem printing_upsStatus : Printing B (some (upsStatus.instanceReply B 1)) :=
  printing_scalar (by simp [places]) (Nat.le_refl 1) (by decide)

theorem printing_config : Printing B (configAnswer B rest) := by
  have hat : ∀ {p : Place} {rest : Oid}, p ∈ places →
      Printing B (getNextAnswer B (p.path ++ rest)) := printing_place
  match rest with
  | [] => exact printing_autoRestart
  | 0 :: rest => trivial
  | 1 :: rest =>
      by_cases hnone : autoRestart.first B = none ∧ rest = []
      · rw [hnone.2, configAnswer]
        · exact printing_upsStatus
        · exact hnone.1
      · rw [configAnswer]
        · exact printing_autoRestart
        · exact fun h h' => hnone ⟨h, h'⟩
  | 2 :: rest => exact hat (p := .table autoRestart) (by simp [places])
  | 3 :: rest => exact hat (p := .table portPoe) (by simp [places])
  | 4 :: rest => exact hat (p := .scalars outStatePSW) (by simp [places])
  | (a + 5) :: rest => exact printing_upsStatus

theorem printing_status : Printing B (statusAnswer B rest) := by
  have hat : ∀ {p : Place} {rest : Oid}, p ∈ places →
      Printing B (getNextAnswer B (p.path ++ rest)) := printing_place
  match rest with
  | [] => exact printing_upsStatus
  | 0 :: rest => trivial
  | 1 :: rest => exact hat (p := .scalars upsStatus) (by simp [places])
  | 2 :: rest => exact hat (p := .table inputStatus) (by simp [places])
  | 3 :: rest => exact hat (p := .scalars fwStatus) (by simp [places])
  | 4 :: rest => exact printing_first (T := poeStatus) (by simp [places])
  | 5 :: rest => exact hat (p := .table poeStatus) (by simp [places])
  | [6] => exact printing_first (T := autoRestartErrors) (by simp [places])
  | 6 :: 0 :: rest => trivial
  | 6 :: 1 :: rest => exact hat (p := .table autoRestartErrors) (by simp [places])
  | 6 :: (a + 2) :: rest => exact printing_first (T := sfpStatus) (by simp [places])
  | 7 :: rest => exact hat (p := .table sfpStatus) (by simp [places])
  | 8 :: rest => exact hat (p := .scalars sensorEntry) (by simp [places])
  | (a + 9) :: rest => exact .blank

/-- **What GET_NEXT prints.** -/
theorem printing_getNextAnswer (q : Oid) : Printing B (getNextAnswer B q) := by
  match q with
  | [] => trivial
  | 0 :: rest => trivial
  | 1 :: rest => exact printing_autoRestart
  | 2 :: rest => exact printing_autoRestart
  | [3] => exact printing_autoRestart
  | 3 :: 0 :: rest => trivial
  | 3 :: 1 :: rest => exact printing_autoRestart
  | [3, 2] => exact printing_autoRestart
  | 3 :: 2 :: 0 :: rest => trivial
  | 3 :: 2 :: 1 :: rest => exact printing_config
  | 3 :: 2 :: 2 :: rest => exact printing_status
  | [3, 2, a + 3] => exact .blank
  | 3 :: 2 :: (a + 3) :: b :: rest => trivial
  | 3 :: (a + 3) :: rest => trivial
  | 4 :: rest => exact printing_autoRestart
  | (a + 5) :: rest => trivial

theorem goes_table {T : Table} (hT : .table T ∈ places) (h : ¬ OffTable rest) :
    Goes (T.path ++ rest) (getNextAnswer B (T.path ++ rest)) := by
  obtain ⟨ifEmpty, next, left, hanswer, hnext, hempty⟩ := exists_tableAnswer hT B
  rw [hanswer]
  refine Table.goes_answer h ?_ (hnext.1 rest)
  rintro u -
  exact (hempty u).1 u

/-! ## Which requests are answered with an OID before them -/

theorem first_some {T : Table} (h : 1 ≤ T.rows B) : T.first B = some (T.cell B 1 1) := if_pos h

theorem back_of_returns (h : Returns B q) :
    ∃ r o, getNextAnswer B q = some r ∧ r.oid = some o ∧ ¬ q < o := by
  cases h with
  | integrations rest h =>
      refine ⟨_, _, first_some h, rfl, not_lt.mpr ?_⟩
      exact (List.cons_lt_cons_iff.mpr (.inl (by decide))).le
  | scalar S hS s x as hs has hend hx =>
      obtain ⟨up, onward, hanswer, -, -⟩ := exists_scalarsAnswer hS B
      refine ⟨_, _, (hanswer _).trans (ScalarList.answer_found hs.1 hs.2 hend), rfl, fun hlt => ?_⟩
      have hsx := (ScalarList.goes_chain (B := B) hend has).mp (goes_instance hlt)
      omega
  | firmware x h =>
      have hnone : poeStatus.first B = none := if_neg (show ¬ 1 ≤ B.poeStatus by omega)
      have hanswer : getNextAnswer B [3, 2, 2, 3, 1, 0, x] = some (fwStatus.instanceReply B 1) := by
        show fwOnward B [1, 0, x] = _
        simp only [fwOnward, hnone]
      exact ⟨_, _, hanswer, rfl, by simp [fwStatus]⟩

theorem blank_of_nowhere (h : Nowhere q) : getNextAnswer B q = some blank := by
  cases h with
  | offTable T hT rest h =>
      obtain ⟨ifEmpty, next, left, hanswer, -, -⟩ := exists_tableAnswer hT B
      rw [hanswer, Table.answer_offTable h]
  | pastPsw k => rfl
  | pastStatus k rest => rfl
  | pastSensors rest h =>
      rw [show getNextAnswer B (3 :: 2 :: 2 :: 8 :: rest) = sensorEntry.answer B (some blank)
        (some (stray {} [3, 2, 2, 9])) rest from rfl, ScalarList.answer_over (S := sensorEntry) h]

/-- Below a list of scalars further arcs go on where no scalar comes back. -/
theorem chain_lt {S : ScalarList} (hS : .scalars S ∈ places)
    (hq : ¬ Returns B (S.path ++ rest)) :
    ∀ s x as, rest = s :: as → (1 ≤ s ∧ s ≤ S.scalars.length) → as ≠ [] →
      chainEnd S.scalars.length s as = (x, .found) → s < x := by
  rintro s x as rfl hs has hend
  by_contra hx
  exact hq (.scalar S hS s x as hs has hend (by omega))

theorem offTable_not {T : Table} (hT : .table T ∈ places) (hq : ¬ Nowhere (T.path ++ rest)) :
    ¬ OffTable rest := fun h => hq (.offTable T hT rest h)

theorem goes_config (hq : ¬ Returns B (3 :: 2 :: 1 :: rest))
    (hq' : ¬ Nowhere (3 :: 2 :: 1 :: rest)) :
    Goes (3 :: 2 :: 1 :: rest) (configAnswer B rest) := by
  match rest with
  | [] => exact goes_first (by decide)
  | 0 :: rest => trivial
  | 1 :: rest =>
      have hfirst : Goes (3 :: 2 :: 1 :: 1 :: rest) (autoRestart.first B) :=
        goes_first (T := autoRestart) (lt_of_precedes (p := [3, 2, 1, 1]) (by decide) rest)
      by_cases hnone : autoRestart.first B = none ∧ rest = []
      · rw [hnone.2, configAnswer]
        · exact goes_scalar (by decide) 1
        · exact hnone.1
      · rw [configAnswer]
        · exact hfirst
        · exact fun h h' => hnone ⟨h, h'⟩
  | 2 :: rest =>
      have hT : Place.table autoRestart ∈ places := by simp [places]
      exact goes_table hT (offTable_not hT hq')
  | 3 :: rest =>
      have hT : Place.table portPoe ∈ places := by simp [places]
      exact goes_table hT (offTable_not hT hq')
  | 4 :: rest =>
      have hup : Goes (outStatePSW.path ++ rest) (some (upsStatus.instanceReply B 1)) :=
        goes_scalar (lt_of_precedes (by decide) rest) 1
      exact ScalarList.goes_answer (S := outStatePSW) (chain_lt (by simp [places]) hq)
        (fun _ => hup) (fun _ _ => hup)
  | (a + 5) :: rest =>
      exact goes_scalar (by simp [upsStatus, List.cons_lt_cons_iff]) 1

theorem goes_fw (hq : ¬ Returns B (3 :: 2 :: 2 :: 3 :: rest)) :
    Goes (3 :: 2 :: 2 :: 3 :: rest) (fwStatus.answer B (poeStatus.first B) (fwOnward B rest)
      rest) := by
  have hnext : Goes (fwStatus.path ++ rest) (poeStatus.first B) :=
    goes_first (lt_of_precedes (by decide) rest)
  refine ScalarList.goes_answer (S := fwStatus) (chain_lt (by simp [places]) hq) (fun _ => hnext) ?_
  rintro tail rfl
  by_cases hback : poeStatus.first B = none ∧ ∃ x, tail = [x]
  · obtain ⟨hnone, x, rfl⟩ := hback
    exact absurd (.firmware x (first_eq_none hnone)) hq
  · rw [fwOnward]
    · exact hnext
    · rintro a b c h htail
      cases htail
      exact hback ⟨h, _, rfl⟩

theorem goes_status (hq : ¬ Returns B (3 :: 2 :: 2 :: rest))
    (hq' : ¬ Nowhere (3 :: 2 :: 2 :: rest)) :
    Goes (3 :: 2 :: 2 :: rest) (statusAnswer B rest) := by
  match rest with
  | [] => exact goes_scalar (by decide) 1
  | 0 :: rest => trivial
  | 1 :: rest =>
      have hnext : Goes (upsStatus.path ++ rest) (inputStatus.first B) :=
        goes_first (lt_of_precedes (by decide) rest)
      exact ScalarList.goes_answer (S := upsStatus) (chain_lt (by simp [places]) hq)
        (fun _ => hnext) (fun _ _ => hnext)
  | 2 :: rest =>
      have hT : Place.table inputStatus ∈ places := by simp [places]
      exact goes_table hT (offTable_not hT hq')
  | 3 :: rest => exact goes_fw hq
  | 4 :: rest =>
      exact goes_first (T := poeStatus) (lt_of_precedes (p := [3, 2, 2, 4]) (by decide) rest)
  | 5 :: rest =>
      have hT : Place.table poeStatus ∈ places := by simp [places]
      exact goes_table hT (offTable_not hT hq')
  | [6] => exact goes_first (by decide)
  | 6 :: 0 :: rest => trivial
  | 6 :: 1 :: rest =>
      have hT : Place.table autoRestartErrors ∈ places := by simp [places]
      exact goes_table hT (offTable_not hT hq')
  | 6 :: (a + 2) :: rest =>
      exact goes_first (T := sfpStatus) (lt_of_precedes (p := [3, 2, 2, 6]) (by decide) _)
  | 7 :: rest =>
      have hT : Place.table sfpStatus ∈ places := by simp [places]
      exact goes_table hT (offTable_not hT hq')
  | 8 :: rest =>
      refine ScalarList.goes_answer (S := sensorEntry) (chain_lt (by simp [places]) hq)
        (fun hover => absurd (.pastSensors rest hover) hq') (fun _ _ => goes_stray ?_)
      exact lt_of_precedes (by decide) rest
  | (a + 9) :: rest => exact absurd (.pastStatus a rest) hq'

theorem goes_of_not (hq : ¬ Returns B q) (hq' : ¬ Nowhere q) : Goes q (getNextAnswer B q) := by
  have hfirst : ∀ {q : Oid}, q < autoRestart.path → Goes q (autoRestart.first B) := goes_first
  match q with
  | [] => trivial
  | 0 :: rest => trivial
  | 1 :: rest => exact hfirst (lt_of_precedes (p := [1]) (by decide) rest)
  | 2 :: rest => exact hfirst (lt_of_precedes (p := [2]) (by decide) rest)
  | [3] => exact hfirst (by decide)
  | 3 :: 0 :: rest => trivial
  | 3 :: 1 :: rest => exact hfirst (lt_of_precedes (p := [3, 1]) (by decide) rest)
  | [3, 2] => exact hfirst (by decide)
  | 3 :: 2 :: 0 :: rest => trivial
  | 3 :: 2 :: 1 :: rest => exact goes_config hq hq'
  | 3 :: 2 :: 2 :: rest => exact goes_status hq hq'
  | [3, 2, a + 3] => exact absurd (.pastPsw a) hq'
  | 3 :: 2 :: (a + 3) :: b :: rest => trivial
  | 3 :: (a + 3) :: rest => trivial
  | 4 :: rest =>
      have hnone : autoRestart.first B = none :=
        if_neg fun hrows => hq (.integrations rest hrows)
      rw [show getNextAnswer B (4 :: rest) = autoRestart.first B from rfl, hnone]
      trivial
  | (a + 5) :: rest => trivial

/-! ## Walks -/

theorem goes_instanceOid {S : ScalarList} (hS : .scalars S ∈ places) {s : Nat}
    (hs : 1 ≤ s ∧ s ≤ S.scalars.length) :
    Goes (S.path ++ [s, 0]) (getNextAnswer B (S.path ++ [s, 0])) := by
  obtain ⟨up, onward, hanswer, -, hlast⟩ := exists_scalarsAnswer hS B
  rw [hanswer, ScalarList.answer, ScalarList.search, if_neg (by omega), if_neg (by omega),
    ScalarList.scalarSearch]
  by_cases hmore : s < S.scalars.length
  · rw [if_pos hmore]
    exact goes_instance (ScalarList.lt_instance
      (List.cons_lt_cons_iff.mpr (.inl (Nat.lt_succ_self s))))
  · obtain rfl : s = S.scalars.length := by omega
    rw [if_neg hmore]
    exact hlast

/-- **An OID that was printed** is an instance, from which GET_NEXT goes forward, or one for which
it prints a blank line. -/
theorem printed_next (h : Prints B r) (ho : r.oid = some o) :
    o ≠ [] ∧ (o ∈ instances B ∧ Goes o (getNextAnswer B o) ∨ getNextAnswer B o = some blank) := by
  cases h with
  | cell T hT c i hc hi =>
      obtain rfl : T.cellOid c i = o := Option.some.inj ho
      have hrow : ¬ OffTable [1, 1, c, i] := by simp [OffTable]
      have hgoes := goes_table (B := B) hT hrow
      exact ⟨by simp [TableNodes.cellOid],
        .inl ⟨mem_instances.mpr ⟨_, hT, c, i, hc, hi, rfl⟩, hgoes⟩⟩
  | scalar S hS s hs =>
      obtain rfl : S.path ++ [s, 0] = o := Option.some.inj ho
      exact ⟨by simp, .inl ⟨mem_instances.mpr ⟨_, hS, s, hs, rfl⟩, goes_instanceOid hS hs⟩⟩
  | stray left oid h =>
      obtain rfl : oid = o := Option.some.inj ((stray_oid left oid).symm.trans ho)
      cases h with
      | entry T hT =>
          exact ⟨by simp, .inr (blank_of_nowhere (.offTable T hT [2] (by simp [OffTable])))⟩
      | row T hT =>
          exact ⟨by simp, .inr (blank_of_nowhere (.offTable T hT [1, 2] (by simp [OffTable])))⟩
      | status => exact ⟨by simp, .inr (blank_of_nowhere (.pastStatus 0 []))⟩
  | blank => cases ho

theorem tfRunSnmp_getNext (B : Backend) (q : Oid) :
    tfRunSnmp B .getNext q = getNextAnswer B (if q = [] then [getFirstOidIndex] else q) :=
  mainHandler_getNext _

theorem tfRunSnmp_of_ne (B : Backend) (hq : q ≠ []) :
    tfRunSnmp B .getNext q = getNextAnswer B q := by
  rw [tfRunSnmp_getNext, if_neg hq]

/-- **No walk goes on for ever.** -/
theorem walk_ends (B : Backend) (f : Nat → Oid)
    (hf : ∀ n, ∃ r, tfRunSnmp B .getNext (f n) = some r ∧ r.oid = some (f (n + 1))) : False := by
  have hprinted : ∀ n, ∃ r, Prints B r ∧ r.oid = some (f (n + 1)) := by
    intro n
    obtain ⟨r, hr, ho⟩ := hf n
    have hprint := printing_getNextAnswer (B := B) (if f n = [] then [getFirstOidIndex] else f n)
    rw [← tfRunSnmp_getNext, hr] at hprint
    exact ⟨r, hprint, ho⟩
  -- from the second OID on, each is an instance, and the next one comes after it
  have hstep : ∀ n, f (n + 1) ∈ (instances B).toFinset ∧ f (n + 1) < f (n + 2) := by
    intro n
    obtain ⟨r, hprints, ho⟩ := hprinted n
    obtain ⟨hne, hnext⟩ := printed_next hprints ho
    obtain ⟨r', hr', ho'⟩ := hf (n + 1)
    rw [tfRunSnmp_of_ne B hne] at hr'
    rcases hnext with ⟨hmem, hgoes⟩ | hblank
    · rw [hr'] at hgoes
      obtain ⟨o, hro, hlt⟩ := hgoes
      rw [ho', Option.some.injEq] at hro
      rw [← hro] at hlt
      exact ⟨List.mem_toFinset.mpr hmem, hlt⟩
    · rw [hblank, Option.some.injEq] at hr'
      rw [← hr'] at ho'
      cases ho'
  exact no_infinite_walk (f := fun n => f (n + 1)) (fun n => (hstep n).1) (fun n => (hstep n).2)

/-- **GET_NEXT goes forward** exactly for the requests that are neither answered with what lies
before them nor with nothing, and every walk ends. -/
theorem goesForward_iff (B : Backend) :
    (∀ q, (∀ r o, tfRunSnmp B .getNext q = some r → r.oid = some o → q < o) ↔ ¬ Returns B q) ∧
    (∀ q, Goes q (tfRunSnmp B .getNext q) ↔ ¬ Returns B q ∧ ¬ Nowhere q) ∧
    ¬ ∃ f : Nat → Oid, ∀ n, ∃ r, tfRunSnmp B .getNext (f n) = some r ∧
      r.oid = some (f (n + 1)) := by
  -- the root itself is answered as its first list
  have hback : ∀ {q}, Returns B q → ∃ r o, tfRunSnmp B .getNext q = some r ∧ r.oid = some o ∧
      ¬ q < o := by
    intro q h
    obtain ⟨r, o, hr, ho, hlt⟩ := back_of_returns h
    have hq : q ≠ [] := by
      rintro rfl
      cases hr
    exact ⟨r, o, (tfRunSnmp_of_ne B hq).trans hr, ho, hlt⟩
  have hblank : ∀ {q}, Nowhere q → tfRunSnmp B .getNext q = some blank := by
    intro q h
    have hr : getNextAnswer B q = some blank := blank_of_nowhere h
    have hq : q ≠ [] := by
      rintro rfl
      cases hr
    exact (tfRunSnmp_of_ne B hq).trans hr
  have hgoes : ∀ {q}, ¬ Returns B q → ¬ Nowhere q → Goes q (tfRunSnmp B .getNext q) := by
    intro q h h'
    by_cases hq : q = []
    · have hroot : ([] : Oid) < autoRestart.path := by decide
      rw [hq, tfRunSnmp_getNext]
      exact goes_first hroot
    · rw [tfRunSnmp_of_ne B hq]
      exact goes_of_not h h'
  refine ⟨fun q => ⟨fun h hreturns => ?_, fun h r o hr ho => ?_⟩,
    fun q => ⟨fun h => ⟨fun hreturns => ?_, fun hno => ?_⟩, fun h => hgoes h.1 h.2⟩, ?_⟩
  · obtain ⟨r, o, hr, ho, hlt⟩ := hback hreturns
    exact hlt (h r o hr ho)
  · by_cases hno : Nowhere q
    · rw [hblank hno, Option.some.injEq] at hr
      rw [← hr] at ho
      cases ho
    · have h := hgoes h hno
      rw [hr] at h
      obtain ⟨o', ho', hlt⟩ := h
      rw [ho, Option.some.injEq] at ho'
      exact ho' ▸ hlt
  · obtain ⟨r, o, hr, ho, hlt⟩ := hback hreturns
    rw [hr] at h
    obtain ⟨o', ho', hlt'⟩ := h
    rw [ho, Option.some.injEq] at ho'
    exact hlt (ho' ▸ hlt')
  · rw [hblank hno] at h
    exact not_goes_blank h
  · rintro ⟨f, hf⟩
    exact walk_ends B f hf

/-- A walk from `sensorHumidityMax` with an arc too many comes back to the first sensor. -/
theorem sensor_comes_back :
    let B : Backend := ⟨10, 10, 8, 8, fun _ _ => some "0"⟩
    (tfRunSnmp B .getNext [3, 2, 2, 8, 7, 1]).map Reply.oid = some (some [3, 2, 2, 8, 1, 0]) ∧
      ¬ [3, 2, 2, 8, 7, 1] < [3, 2, 2, 8, 1, 0] := by
  decide +kernel

end Snmp
