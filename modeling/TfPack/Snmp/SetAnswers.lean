import Mathlib.Tactic.Linarith
import TfPack.Snmp.SetSearch

set_option autoImplicit false

/-! # The answers to SET

A request is answered right when OK stands for an effect on the backend and everything else ends
with an error and without an effect. That is so for the OIDs that are refused, and for the rows of
`portPoeState`, unless the value is a number other than 1 and 2 for a port that is there
(`setRight_iff`).
-/

namespace Snmp

open BoundedLoop

variable {L : LuaNumbers} {B : Backend} {p : SetParam} {q : Oid}

/-! ## The whole tree -/

/-- The OIDs below `configPSW` that are refused. -/
def RefusedConfig : Oid → Prop
  | 0 :: _ => False
  | 2 :: rest => autoRestart.Refused rest
  | 3 :: rest => portPoe.Refused rest
  | 4 :: rest => outStatePSW.Refused rest
  | _ => True

/-- The OIDs below `statusPSW` that are refused. -/
def RefusedStatus : Oid → Prop
  | 0 :: _ => False
  | 1 :: rest => upsStatus.Refused rest
  | 2 :: rest => inputStatus.Refused rest
  | 3 :: rest => fwStatus.Refused rest
  | 5 :: rest => poeStatus.Refused rest
  | 6 :: 0 :: _ => False
  | 6 :: 1 :: rest => autoRestartErrors.Refused rest
  | 7 :: rest => sfpStatus.Refused rest
  | 8 :: rest => sensorEntry.Refused rest
  | _ => True

/-- The OIDs that are refused: where the search fails, or ends at a node without a value. -/
def RefusedOid : Oid → Prop
  | 3 :: 2 :: 1 :: rest => RefusedConfig rest
  | 3 :: 2 :: 2 :: rest => RefusedStatus rest
  | [3, 2, a] => a ≠ 0
  | [3, 2] | [3] => True
  | 3 :: 1 :: _ => True
  | 1 :: _ | 2 :: _ | 4 :: _ => True
  | _ => False

/-- The row of `portPoeState` for a port. -/
def stateOid (port : Nat) : Oid := portPoe.cellOid 2 port

theorem endsAs_config (rest : Oid) (hstate : ∀ port, 3 :: 2 :: 1 :: rest ≠ stateOid port) :
    EndsAs L B p (3 :: 2 :: 1 :: rest) (RefusedConfig rest) := by
  match rest with
  | [] => exact .inl ⟨trivial, refuses_lands [switch, psw] rfl (by decide) (by decide)⟩
  | 0 :: rest => exact .inr ⟨not_false, fails_zero [switch, psw] rfl (by decide)⟩
  | 1 :: rest =>
      exact .inl ⟨trivial, refuses_lands [switch, psw, configPSW] rfl (by decide) (by decide)⟩
  | 2 :: rest =>
      exact Table.set_ends (T := autoRestart) (by simp [places]) rest (fun h => by cases h)
  | 3 :: rest =>
      refine Table.set_ends (T := portPoe) (by simp [places]) rest (fun _ i h => hstate i ?_)
      rw [h]
      rfl
  | 4 :: rest => exact ScalarList.set_ends (S := outStatePSW) (by simp [places]) rest
  | (a + 5) :: rest =>
      exact .inl ⟨trivial, refuses_past [switch, psw] (t := [3, 2, 2]) rfl rfl rfl (by decide)
        (by decide)⟩

theorem endsAs_status (rest : Oid) : EndsAs L B p (3 :: 2 :: 2 :: rest) (RefusedStatus rest) := by
  match rest with
  | [] => exact .inl ⟨trivial, refuses_lands [switch, psw] rfl (by decide) (by decide)⟩
  | 0 :: rest => exact .inr ⟨not_false, fails_zero [switch, psw] rfl (by decide)⟩
  | 1 :: rest => exact ScalarList.set_ends (S := upsStatus) (by simp [places]) rest
  | 2 :: rest =>
      exact Table.set_ends (T := inputStatus) (by simp [places]) rest (fun h => by cases h)
  | 3 :: rest => exact ScalarList.set_ends (S := fwStatus) (by simp [places]) rest
  | 4 :: rest =>
      exact .inl ⟨trivial, refuses_lands [switch, psw, statusPSW] rfl (by decide) (by decide)⟩
  | 5 :: rest =>
      exact Table.set_ends (T := poeStatus) (by simp [places]) rest (fun h => by cases h)
  | [6] => exact .inl ⟨trivial, refuses_lands [switch, psw, statusPSW] rfl (by decide) (by decide)⟩
  | 6 :: 0 :: rest =>
      exact .inr ⟨not_false, fails_zero _ (lookup_special_zero rest) (by decide)⟩
  | 6 :: 1 :: rest =>
      exact Table.set_ends (T := autoRestartErrors) (by simp [places]) rest (fun h => by cases h)
  | 6 :: (a + 2) :: rest =>
      exact .inl ⟨trivial, refuses_past [switch, psw, statusPSW] (t := [3, 2, 2, 7]) rfl rfl rfl
        (by decide) (by decide)⟩
  | 7 :: rest =>
      exact Table.set_ends (T := sfpStatus) (by simp [places]) rest (fun h => by cases h)
  | 8 :: rest => exact ScalarList.set_ends (S := sensorEntry) (by simp [places]) rest
  | (a + 9) :: rest => exact .inl ⟨trivial, refuses_left blank rfl rfl⟩

/-- **SET at every OID** but those of `portPoeState`. -/
theorem endsAs_tree (hq : q ≠ []) (hstate : ∀ port, q ≠ stateOid port) :
    EndsAs L B p q (RefusedOid q) := by
  match q with
  | [] => exact absurd rfl hq
  | 0 :: rest =>
      refine .inr ⟨not_false, .of_none (k := 2) ?_ (by omega)⟩
      exact Gives.step (setTries_start L B p _ _ _ rfl (by decide))
        (set_error (show Searching .zeroIndex by decide) rfl)
  | 1 :: rest => exact .inl ⟨trivial, refuses_lands [] rfl (by decide) (by decide)⟩
  | 2 :: rest => exact .inl ⟨trivial, refuses_lands [] rfl (by decide) (by decide)⟩
  | [3] => exact .inl ⟨trivial, refuses_lands [] rfl (by decide) (by decide)⟩
  | 3 :: 0 :: rest => exact .inr ⟨not_false, fails_zero [] rfl (by decide)⟩
  | 3 :: 1 :: rest => exact .inl ⟨trivial, refuses_lands [switch] rfl (by decide) (by decide)⟩
  | [3, 2] => exact .inl ⟨trivial, refuses_lands [switch] rfl (by decide) (by decide)⟩
  | [3, 2, 0] => exact .inr ⟨by simp [RefusedOid], fails_zero [switch] rfl (by decide)⟩
  | 3 :: 2 :: 0 :: b :: rest => exact .inr ⟨not_false, fails_zero [switch] rfl (by decide)⟩
  | 3 :: 2 :: 1 :: rest => exact endsAs_config rest hstate
  | 3 :: 2 :: 2 :: rest => exact endsAs_status rest
  | [3, 2, a + 3] =>
      exact .inl ⟨by simp [RefusedOid], refuses_left blank rfl rfl⟩
  | 3 :: 2 :: (a + 3) :: b :: rest =>
      refine .inr ⟨not_false, .of_none (k := 2) ?_ (by omega)⟩
      exact Gives.step (setTries_start L B p _ _ _ rfl (by decide))
        (set_error (show Searching .oidOverList by decide)
          (beyond_error {} (show [switch, psw].length < 3 by decide) (by simp)))
  | 3 :: (a + 3) :: rest => exact .inr ⟨not_false, fails_beyond [switch] rfl (by decide)⟩
  | 4 :: rest => exact .inl ⟨trivial, refuses_lands [] rfl (by decide) (by decide)⟩
  | (a + 5) :: rest => exact .inr ⟨not_false, fails_beyond [] rfl (by decide)⟩

/-! ## The rows of `portPoeState` -/

/-- The value is 1 or 2, when it is a number of the right type for a port that is there. -/
def AcceptedState (L : LuaNumbers) (B : Backend) (p : SetParam) (port : Nat) : Prop :=
  1 ≤ port → port ≤ portPoe.rows B → p.isInteger = true →
    ∀ v, L.tonumber p.value = some v → v = 1 ∨ v = 2

/-- What the setter makes of a row: the request is refused, the value is out of range, or it is
passed on. -/
inductive PoeSetter (L : LuaNumbers) (B : Backend) (p : SetParam) (port : Nat) : SetResult → Prop
  | refused (h : ¬(1 ≤ port ∧ port ≤ portPoe.rows B) ∨ p.isInteger = false ∨
      L.tonumber p.value = none) : PoeSetter L B p port .refused
  | outside (hport : 1 ≤ port ∧ port ≤ portPoe.rows B) (hint : p.isInteger = true) (v : ℚ)
      (hv : L.tonumber p.value = some v) (hout : v < 1 ∨ 2 < v) :
      PoeSetter L B p port ⟨none, some .ok, []⟩
  | passed (hport : 1 ≤ port ∧ port ≤ portPoe.rows B) (hint : p.isInteger = true) (v : ℚ)
      (hv : L.tonumber p.value = some v) (hin : 1 ≤ v ∧ v ≤ 2) :
      PoeSetter L B p port ⟨some (L.tostring v), some .ok, [.managePoE port p.value]⟩

theorem poeSetter (m : MibObj) (hm : m.name = some "portPoeState") (port : Nat) :
    PoeSetter L B p port (snmpSetPoeState L B m port p) := by
  have hrows : portPoe.rows B = B.poeConfig - 2 := rfl
  rw [snmpSetPoeState, if_pos hm]
  by_cases hover : (port : Int) > (B.poeConfig : Int) - 2
  · rw [if_pos hover]
    exact .refused (.inl (by omega))
  by_cases hzero : port < 1
  · rw [if_neg hover, if_pos hzero]
    exact .refused (.inl (by omega))
  have hport : 1 ≤ port ∧ port ≤ portPoe.rows B := by omega
  by_cases hint : p.isInteger = false
  · rw [if_neg hover, if_neg hzero, if_pos hint]
    exact .refused (.inr (.inl hint))
  rw [if_neg hover, if_neg hzero, if_neg hint]
  have hint' : p.isInteger = true := by simpa using hint
  cases hv : L.tonumber p.value with
  | none => exact .refused (.inr (.inr hv))
  | some v =>
      by_cases hout : v < 1 ∨ 2 < v
      · simp only [if_pos hout]
        exact .outside hport hint' v hv hout
      · simp only [if_neg hout]
        push Not at hout
        exact .passed hport hint' v hv hout

/-- **SET at a row of `portPoeState`** ends with what the setter returns. -/
theorem set_state (port : Nat) :
    ∃ res reply, PoeSetter L B p port res ∧
      Gives (setIteration L B p (stateOid port)) 3 start.forSet
        (some ⟨if res.status = some .ok then .ok else .failed, reply, res.effects⟩) := by
  obtain ⟨name, -, hrow, -⟩ := portPoe.lookup_column (c := 2) (by decide) (by decide)
  have hstart := setTries_start L B p (stateOid port) _ _ (hrow port) (by decide)
  have hsetter : PoeSetter L B p port
      (snmpSetPoeState L B (mibOf (portPoe.columnOid 2)) port p) := poeSetter _ (by decide) port
  generalize hres : snmpSetPoeState L B (mibOf (portPoe.columnOid 2)) port p = res at hsetter
  have hvalue : setValue L B (portPoe.columnOid 2) port p =
      some (res, mibOf (portPoe.columnOid 2)) := by
    rw [← hres]
    rfl
  have hindex : setIteration L B p (stateOid port) _ = _ :=
    set_index portPoe.atRow {} (column (portPoe.columnOid 2) name) name hvalue
  cases hsetter with
  | refused h =>
      have hfailed : setIteration L B p (stateOid port) _ =
          .inl (after .failed (portPoe.atRow ++ [column (portPoe.columnOid 2) name,
            ⟨[port], name, [], .index⟩]) _).forSet := hindex
      exact ⟨_, _, .refused h, Gives.step hstart (Gives.step hfailed
        (set_left (show Searching .failed by decide) iteration_failed))⟩
  | outside hport hint v hv hout =>
      rw [if_pos rfl] at hindex
      exact ⟨_, _, .outside hport hint v hv hout,
        (Gives.step hstart (Gives.done hindex)).mono (by omega)⟩
  | passed hport hint v hv hin =>
      rw [if_pos rfl] at hindex
      exact ⟨_, _, .passed hport hint v hv hin,
        (Gives.step hstart (Gives.done hindex)).mono (by omega)⟩

/-! ## Right answers -/

/-- The OID of the relay. -/
def relayOid : Oid := [3, 2, 1, 4, 1]

/-- What a request does to the backend when its value is applied: the PoE state 1 or 2 of a port
that is there, or the state 0 or 1 of the relay, with an integer type. -/
inductive Writes (L : LuaNumbers) (B : Backend) (p : SetParam) : Oid → List Effect → Prop
  | poe (port : Nat) (hport : 1 ≤ port ∧ port ≤ portPoe.rows B) (hint : p.isInteger = true)
      (hvalue : L.tonumber p.value = some 1 ∨ L.tonumber p.value = some 2) :
      Writes L B p (stateOid port) [.managePoE port p.value]
  | relay (oid : Oid) (hoid : oid = relayOid ∨ oid = relayOid ++ [0]) (hint : p.isInteger = true)
      (hvalue : L.tonumber p.value = some 0 ∨ L.tonumber p.value = some 1) :
      Writes L B p oid [.executeCommand ("tf_hwsys_ctrl relay set ".toList ++ p.value)]

/-- A request is answered right: it ends, with OK exactly when its value was applied, and without
an effect when the status is another one. -/
def SetRight (L : LuaNumbers) (B : Backend) (p : SetParam) (q : Oid) : Prop :=
  ∃ run, tfRunSnmpSet L B p q = some run ∧
    (run.status = .ok ↔ Writes L B p q run.effects) ∧ (run.status ≠ .ok → run.effects = [])

theorem not_writes_nil : ¬Writes L B p q [] := by
  intro h
  cases h

theorem setMainHandler_of_gives {k : Nat} {o : Option SetRun}
    (h : Gives (setIteration L B p q) k start.forSet o) (hk : k ≤ 50) :
    setMainHandler L B p q = o := h.mono hk 0

/-- What the loop is run for. -/
theorem tfRunSnmpSet_eq (htype : p.valueType ≠ []) (hvalue : p.value ≠ []) (q : Oid) :
    tfRunSnmpSet L B p q = setMainHandler L B p (if q = [] then [getFirstOidIndex] else q) :=
  if_neg (fun h => h.elim htype hvalue)

/-- A request that is refused is answered right. -/
theorem right_of_refuses (reply : Reply)
    (h : tfRunSnmpSet L B p q = some ⟨.failed, reply, []⟩) : SetRight L B p q :=
  ⟨_, h, iff_of_false nofun not_writes_nil, fun _ => rfl⟩

theorem not_right_of_fails (h : ∀ run, tfRunSnmpSet L B p q = some run →
    run.status = .ok ∧ run.effects = []) : ¬SetRight L B p q := by
  rintro ⟨run, hrun, hok, -⟩
  obtain ⟨hstatus, heffects⟩ := h run hrun
  have hwrites := hok.mp hstatus
  rw [heffects] at hwrites
  exact not_writes_nil hwrites

theorem stateOid_injective {port port' : Nat} (h : stateOid port = stateOid port') :
    port = port' := by
  simpa [stateOid, TableNodes.cellOid] using h

/-- A row of `portPoeState` is no other OID of the cases. -/
theorem stateOid_spec (port : Nat) :
    stateOid port ≠ [] ∧ ¬RefusedOid (stateOid port) ∧ stateOid port ≠ relayOid ∧
      stateOid port ≠ relayOid ++ [0] := by
  refine ⟨List.cons_ne_nil _ _, ?_, nofun, nofun⟩
  show ¬(2 < 2 ∨ (2 ≠ 0 ∧ [port] = []))
  simp

/-- **When a row of `portPoeState` is answered right.** -/
theorem right_state_iff (htype : p.valueType ≠ []) (hvalue : p.value ≠ []) (port : Nat) :
    SetRight L B p (stateOid port) ↔ AcceptedState L B p port := by
  obtain ⟨hne, -, hrelay, hrelay'⟩ := stateOid_spec port
  obtain ⟨res, reply, hsetter, hgives⟩ := set_state (L := L) (B := B) (p := p) port
  have hrun : tfRunSnmpSet L B p (stateOid port) =
      some ⟨if res.status = some .ok then .ok else .failed, reply, res.effects⟩ := by
    rw [tfRunSnmpSet_eq htype hvalue, if_neg hne]
    exact setMainHandler_of_gives hgives (by omega)
  cases hsetter with
  | refused h =>
      refine iff_of_true (right_of_refuses _ hrun) ?_
      intro h1 hrows hint v hv
      rcases h with hport | hint' | hnone
      · exact absurd ⟨h1, hrows⟩ hport
      · rw [hint] at hint'
        cases hint'
      · rw [hv] at hnone
        cases hnone
  | outside hport hint v hv hout =>
      refine iff_of_false (not_right_of_fails ?_) ?_
      · intro run hrun'
        rw [hrun] at hrun'
        cases hrun'
        exact ⟨rfl, rfl⟩
      · intro haccepted
        rcases haccepted hport.1 hport.2 hint v hv with rfl | rfl <;>
          rcases hout with hout | hout <;> linarith
  | passed hport hint v hv hin =>
      constructor
      · rintro ⟨run, hrun', hok, -⟩ - - - w hw
        rw [hrun] at hrun'
        cases hrun'
        have hwrites : Writes L B p (stateOid port) [.managePoE port p.value] := hok.mp rfl
        rw [hv] at hw
        cases hw
        generalize hoid : stateOid port = oid at hwrites
        cases hwrites with
        | poe port' _ _ hvalue' =>
            rw [hv, Option.some.injEq, Option.some.injEq] at hvalue'
            exact hvalue'
      · intro haccepted
        have hone := haccepted hport.1 hport.2 hint v hv
        refine ⟨_, hrun, iff_of_true rfl (.poe port hport hint ?_), fun h => absurd rfl h⟩
        rw [hv, Option.some.injEq, Option.some.injEq]
        exact hone

/-- A request without a type or without a value is not answered. -/
theorem not_right_of_empty (h : p.valueType = [] ∨ p.value = []) : ¬SetRight L B p q := by
  rintro ⟨run, hrun, -⟩
  rw [tfRunSnmpSet, if_pos h] at hrun
  cases hrun

/-- **When a request for another OID is answered right.** -/
theorem right_other_iff (htype : p.valueType ≠ []) (hvalue : p.value ≠ []) (hq : q ≠ [])
    (hstate : ∀ port, q ≠ stateOid port) : SetRight L B p q ↔ RefusedOid q := by
  have hmain : tfRunSnmpSet L B p q = setMainHandler L B p q := by
    rw [tfRunSnmpSet_eq htype hvalue, if_neg hq]
  rcases endsAs_tree (L := L) (B := B) (p := p) hq hstate with
    ⟨hrefused, reply, hgives⟩ | ⟨hnot, o, hgives, ho⟩
  · refine iff_of_true (right_of_refuses reply ?_) hrefused
    rw [hmain]
    exact setMainHandler_of_gives hgives (by omega)
  · refine iff_of_false (not_right_of_fails ?_) hnot
    intro run hrun
    rw [hmain, setMainHandler_of_gives hgives (by omega)] at hrun
    exact ho run hrun

/-- The root stands for its first list, which is refused. -/
theorem right_root (htype : p.valueType ≠ []) (hvalue : p.value ≠ []) : SetRight L B p [] := by
  obtain ⟨reply, hgives⟩ : Refuses L B p [3] := refuses_lands [] rfl (by decide) (by decide)
  refine right_of_refuses reply ?_
  rw [tfRunSnmpSet_eq htype hvalue, if_pos rfl]
  exact setMainHandler_of_gives hgives (by omega)

/-- **When a SET request is answered right**: when it has a type and a value, and its OID is
refused, or is a row of `portPoeState` whose value is passed on as 1 or 2 if at all. -/
theorem setRight_iff (L : LuaNumbers) (B : Backend) (p : SetParam) (q : Oid) :
    SetRight L B p q ↔ p.valueType ≠ [] ∧ p.value ≠ [] ∧
      (q = [] ∨ RefusedOid q ∨ ∃ port, q = stateOid port ∧ AcceptedState L B p port) := by
  by_cases hempty : p.valueType = [] ∨ p.value = []
  · exact iff_of_false (not_right_of_empty hempty)
      (fun h => hempty.elim h.1 h.2.1)
  push Not at hempty
  obtain ⟨htype, hvalue⟩ := hempty
  rw [and_iff_right htype, and_iff_right hvalue]
  by_cases hq : q = []
  · subst hq
    exact iff_of_true (right_root htype hvalue) (.inl rfl)
  by_cases hstate : ∃ port, q = stateOid port
  · obtain ⟨port, rfl⟩ := hstate
    obtain ⟨hne, hnot, -, -⟩ := stateOid_spec port
    rw [right_state_iff htype hvalue port]
    constructor
    · exact fun h => .inr (.inr ⟨port, rfl, h⟩)
    · rintro (h | h | ⟨port', hport, h⟩)
      · exact absurd h hne
      · exact absurd h hnot
      · rwa [stateOid_injective hport]
  · push Not at hstate
    rw [right_other_iff htype hvalue hq hstate]
    constructor
    · exact fun h => .inr (.inl h)
    · rintro (h | h | ⟨port, hport, -⟩)
      · exact absurd h hq
      · exact h
      · exact absurd hport (hstate port)

/-! ## The relay -/

theorem not_refused_relay : ¬RefusedOid relayOid := by
  rintro (h | ⟨as, h⟩ | h)
  · cases h
  · cases h
  · cases h

/-- **The relay is switched, but the request does not end.** -/
theorem relay_switched (B : Backend) (hint : p.isInteger = true)
    (hvalue : L.tonumber p.value = some 0 ∨ L.tonumber p.value = some 1) :
    (∃ st, Leads (setIteration L B p relayOid) 2 start.forSet st ∧
      st.effects = [.executeCommand ("tf_hwsys_ctrl relay set ".toList ++ p.value)]) ∧
    setMainHandler L B p relayOid = none := by
  have hsetter : ∀ m : MibObj, m.name = some "relay" → snmpSetOutPutState L m p =
      ⟨none, none, [.executeCommand ("tf_hwsys_ctrl relay set ".toList ++ p.value)]⟩ := by
    intro m hm
    rw [snmpSetOutPutState, if_pos hm]
    simp only [if_pos hvalue, if_pos hint]
  have hset : setRequestHandler L B [switch, psw, configPSW, outStatePSW.node,
      scalar relayOid "outState"] p = some ({}, none,
        [.executeCommand ("tf_hwsys_ctrl relay set ".toList ++ p.value)]) := by
    show some (({} : ResObj), (none : Option Status), (snmpSetOutPutState L _ p).effects) = _
    rw [hsetter _ rfl]
  have hfound : setIteration L B p relayOid (after .found [switch, psw, configPSW,
      outStatePSW.node, scalar relayOid "outState"] {}).forSet =
      .inl ⟨false, none, [switch, psw, configPSW, outStatePSW.node, scalar relayOid "outState"],
        {}, [.executeCommand ("tf_hwsys_ctrl relay set ".toList ++ p.value)]⟩ := by
    show onSetFound L B p ⟨false, some .found, [switch, psw, configPSW, outStatePSW.node,
      scalar relayOid "outState"], {}, []⟩ = _
    rw [onSetFound, hset]
    rfl
  have hstart := setTries_start L B p relayOid _ _ rfl (by decide)
  exact ⟨⟨_, (Leads.step hstart).trans (Leads.step hfound), rfl⟩,
    setMainHandler_of_gives (Gives.step hstart (Gives.step hfound (unknown_gives _ _ _ _)))
      (by omega)⟩

theorem relay_not_answered : ¬∀ L B p q, SetRight L B p q := by
  intro h
  have hright := h ⟨⟨id, monotone_id, fun _ _ => rfl⟩, fun _ => "1"⟩
    ⟨10, 10, 8, 8, fun _ _ => some "1"⟩ ⟨"integer".toList, "1".toList⟩ relayOid
  rw [right_other_iff (by decide) (by decide) (by decide)
    (fun port heq => (stateOid_spec port).2.2.1 heq.symm)] at hright
  exact not_refused_relay hright

end Snmp
