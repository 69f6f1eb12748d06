import TfPack.Snmp.Sites

set_option autoImplicit false

/-! # What GET_NEXT prints

`getNextAnswer` is what the agent prints for a GET_NEXT request, in closed form: a case for each
place of the tree the OID may point to. The search that leads there is a chain of attempts at
fixed OIDs (`Arrives`), which ends at a first value or over the index of an empty table; from
there the request itself says where the search goes on.
-/

namespace Snmp

open BoundedLoop

/-! ## The closed form -/

/-- GET_NEXT at and below the configuration. -/
def configAnswer (B : Backend) : Oid → Option Reply
  | [] => autoRestart.first B
  | 0 :: _ => none
  | 1 :: rest =>
      match autoRestart.first B, rest with
      | none, [] => some (upsStatus.instanceReply B 1)
      | o, _ => o
  | 2 :: rest =>
      autoRestart.answer B
        (fun u => if u = [] then some (upsStatus.instanceReply B 1) else portPoe.first B)
        (portPoe.first B) (portPoe.noCell 1 1) rest
  | 3 :: rest =>
      portPoe.answer B
        (fun u => if u = [] then some (upsStatus.instanceReply B 1)
          else some (outStatePSW.instanceReply B 1))
        (some (outStatePSW.instanceReply B 1)) {} rest
  | 4 :: rest =>
      outStatePSW.answer B (some (upsStatus.instanceReply B 1))
        (some (upsStatus.instanceReply B 1)) rest
  | (_ + 5) :: _ => some (upsStatus.instanceReply B 1)

/-- GET_NEXT below the arc 0 of the firmware version; without PoE ports it may come back. -/
def fwOnward (B : Backend) (rest : Oid) : Option Reply :=
  match poeStatus.first B, rest with
  | none, [_, _, _] => some (fwStatus.instanceReply B 1)
  | o, _ => o

/-- GET_NEXT at and below the status. -/
def statusAnswer (B : Backend) : Oid → Option Reply
  | [] => some (upsStatus.instanceReply B 1)
  | 0 :: _ => none
  | 1 :: rest => upsStatus.answer B (inputStatus.first B) (inputStatus.first B) rest
  | 2 :: rest =>
      inputStatus.answer B (fun _ => none) (some (fwStatus.instanceReply B 1)) {} rest
  | 3 :: rest => fwStatus.answer B (poeStatus.first B) (fwOnward B rest) rest
  | 4 :: _ => poeStatus.first B
  | 5 :: rest =>
      poeStatus.answer B (fun u => if u = [] then none else autoRestartErrors.first B)
        (autoRestartErrors.first B) (autoRestartErrors.noCell 1 1) rest
  | [6] => autoRestartErrors.first B
  | 6 :: 0 :: _ => none
  | 6 :: 1 :: rest =>
      autoRestartErrors.answer B (fun _ => sfpStatus.first B) (sfpStatus.first B) {} rest
  | 6 :: (_ + 2) :: _ => sfpStatus.first B
  | 7 :: rest =>
      sfpStatus.answer B (fun _ => none) (some (sensorEntry.instanceReply B 1)) {} rest
  | 8 :: rest => sensorEntry.answer B (some blank) (some (stray {} [3, 2, 2, 9])) rest
  | (_ + 9) :: _ => some blank

/-- What GET_NEXT prints. -/
def getNextAnswer (B : Backend) : Oid → Option Reply
  | [] => none
  | 0 :: _ => none
  | 1 :: _ => autoRestart.first B
  | 2 :: _ => autoRestart.first B
  | [3] => autoRestart.first B
  | 3 :: 0 :: _ => none
  | 3 :: 1 :: _ => autoRestart.first B
  | [3, 2] => autoRestart.first B
  | 3 :: 2 :: 0 :: _ => none
  | 3 :: 2 :: 1 :: rest => configAnswer B rest
  | 3 :: 2 :: 2 :: rest => statusAnswer B rest
  | [3, 2, _ + 3] => some blank
  | 3 :: 2 :: (_ + 3) :: _ :: _ => none
  | 3 :: (_ + 3) :: _ => none
  | 4 :: _ => autoRestart.first B
  | (_ + 5) :: _ => none

/-! ## Chains of attempts -/

variable {B : Backend}

/-- Leads to a table or a list through nodes that are not asked for. -/
theorem arrives_autoRestart : Arrives B 8 [3, 2, 1, 2] (autoRestart.first B)
    (autoRestart.noCell 1 1) := Table.arrives

theorem arrives_comfortStart : Arrives B 10 [3, 2, 1, 1] (autoRestart.first B)
    (autoRestart.noCell 1 1) :=
  arrives_autoRestart.of_leads 2 (fun _ _ _ => ⟨_, {}, fun _ => rfl⟩)

theorem arrives_configPSW : Arrives B 12 [3, 2, 1] (autoRestart.first B)
    (autoRestart.noCell 1 1) :=
  arrives_comfortStart.of_leads 2 (fun _ _ _ => ⟨_, {}, fun _ => rfl⟩)

theorem arrives_psw : Arrives B 14 [3, 2] (autoRestart.first B) (autoRestart.noCell 1 1) :=
  arrives_configPSW.of_leads 2 (fun _ _ _ => ⟨_, {}, fun _ => rfl⟩)

theorem arrives_switch : Arrives B 16 [3, 1] (autoRestart.first B) (autoRestart.noCell 1 1) :=
  arrives_psw.of_leads 2 (fun _ _ _ => ⟨_, {}, fun _ => rfl⟩)

theorem arrives_portPoe : Arrives B 8 [3, 2, 1, 3] (portPoe.first B) (portPoe.noCell 1 1) :=
  Table.arrives

theorem arrives_poeStatus : Arrives B 8 [3, 2, 2, 5] (poeStatus.first B) (poeStatus.noCell 1 1) :=
  Table.arrives

theorem arrives_empty : Arrives B 10 [3, 2, 2, 4] (poeStatus.first B) (poeStatus.noCell 1 1) :=
  arrives_poeStatus.of_leads 2 (fun _ _ _ => ⟨_, {}, fun _ => rfl⟩)

theorem arrives_specialStatus : Arrives B 10 [3, 2, 2, 6] (autoRestartErrors.first B)
    (autoRestartErrors.noCell 1 1) :=
  (Table.arrives (T := autoRestartErrors)).of_leads 2 (fun _ _ _ => ⟨_, {}, fun _ => rfl⟩)

/-- Landing on a list of scalars. -/
theorem ScalarList.arrives (S : ScalarList) (left : ResObj) :
    Arrives B 4 S.path (some (S.instanceReply B 1)) left :=
  fun _ _ _ => ScalarList.list_gives (tries_attempt _ _ _ _ _ _)

theorem arrives_statusPSW : Arrives B 6 [3, 2, 2] (some (upsStatus.instanceReply B 1)) {} :=
  (upsStatus.arrives {}).of_leads 2 (fun _ _ _ => ⟨_, {}, fun _ => rfl⟩)

/-! ## Above the configuration and the status -/

/-- An attempt that ends with one node goes on with the first list. -/
theorem single_leads {n : Node} {oid : Oid} (h : getOidElement oid = ([n], .found)) (q : Oid)
    (objs : List Node) (r : ResObj) :
    ∃ r', Leads (iteration B .getNext q) 2 (attempt objs r oid) (attempt [n] r' [3, 1]) :=
  ⟨_, (Leads.step (iteration_attempt h (by decide))).trans (Leads.step rfl)⟩

/-- **A request below a node that is not defined** is answered with the first autorestart port. -/
theorem single_gives {a : Nat} (hsingle : ∀ rest, ∃ n, getOidElement (a :: rest) = ([n], .found))
    (hraise : (∃ n, getOidElement [a + 1] = ([n], .found)) ∨
      getOidElement [a + 1] = ([], .oidOverList)) (rest : Oid) :
    Gives (iteration B .getNext (a :: rest)) 40 start (autoRestart.first B) := by
  obtain ⟨n, hn⟩ := hsingle rest
  have hstart : Leads (iteration B .getNext (a :: rest)) 2 start (attempt [n] {} [3, 1]) :=
    (Leads.step (iteration_start hn (by decide))).trans (Leads.step rfl)
  refine (hstart.gives (arrives_switch.gives (l := 30) (by omega) (fun hnone => ?_) _ _)).mono
    (by omega)
  have harrive := arrives_switch (B := B)
  rw [hnone] at harrive
  match rest with
  | [] => exact fun objs r => (harrive.error (by simp) objs r).mono (by omega)
  | [b] =>
      rcases hraise with ⟨n', hn'⟩ | hover
      · refine fun objs r => (harrive.forever (p := []) rfl (fun objs' r' => ?_) objs r).mono
          (by omega)
        obtain ⟨r'', hleads⟩ := single_leads hn' [a, b] objs' r'
        exact ⟨2, _, r'', hleads⟩
      · refine fun objs r => (harrive.back (p := []) (l := 1) rfl (fun objs' r' => ?_) objs r).mono
          (by omega)
        refine Gives.step (iteration_attempt hover (by decide)) (Gives.forever
          (P := fun st => ∃ r, st = after .oidOverList [] r) ?_ ⟨_, rfl⟩)
        rintro st ⟨r, rfl⟩
        exact ⟨0, _, Leads.step rfl, r, rfl⟩
  | b :: c :: rest =>
      have hlong : 2 ≤ (b :: c :: rest).length := by simp
      obtain ⟨p, x, y, hrest⟩ := exists_append_pair hlong
      rw [hrest]
      refine fun objs r => (harrive.forever (p := a :: p) rfl (fun objs' r' => ?_) objs r).mono
        (by omega)
      obtain ⟨n', hn'⟩ := hsingle (p ++ [x + 1])
      obtain ⟨r'', hleads⟩ := single_leads hn' (a :: (p ++ [x, y])) objs' r'
      exact ⟨2, _, r'', hleads⟩

/-- The first list itself. -/
theorem switch_gives : Gives (iteration B .getNext [3]) 40 start (autoRestart.first B) := by
  have hstart : Leads (iteration B .getNext [3]) 2 start (attempt [switch] {} [3, 1]) :=
    fun _ => rfl
  refine (hstart.gives (arrives_switch.gives (l := 30) (by omega) (fun hnone => ?_) _ _)).mono
    (by omega)
  have harrive := arrives_switch (B := B)
  rw [hnone] at harrive
  exact fun objs r => (harrive.error (by simp) objs r).mono (by omega)

/-- The node that is not defined before the switch. -/
theorem emptySwitch_gives (rest : Oid) :
    Gives (iteration B .getNext (3 :: 1 :: rest)) 40 start (autoRestart.first B) := by
  have hstart : Leads (iteration B .getNext (3 :: 1 :: rest)) 2 start
      (attempt [switch, notDefined [3, 1] "empty"] {} [3, 2]) := fun _ => rfl
  refine (hstart.gives (arrives_psw.gives (l := 30) (by omega) (fun hnone => ?_) _ _)).mono
    (by omega)
  have harrive := arrives_psw (B := B)
  rw [hnone] at harrive
  match rest with
  | [] =>
      exact fun objs r => (harrive.forever (p := []) rfl (fun objs r => ⟨4, _, {}, fun _ => rfl⟩)
        objs r).mono (by omega)
  | [b] =>
      exact fun objs r => (harrive.forever (p := [3]) rfl
        (fun objs r => ⟨0, objs, r, Leads.refl _⟩) objs r).mono (by omega)
  | b :: c :: rest =>
      have hlong : 2 ≤ (b :: c :: rest).length := by simp
      obtain ⟨p, x, y, hrest⟩ := exists_append_pair hlong
      rw [hrest]
      exact fun objs r => (harrive.forever (p := 3 :: 1 :: p) rfl
        (fun objs r => ⟨2, _, {}, fun _ => rfl⟩) objs r).mono (by omega)

theorem psw_gives : Gives (iteration B .getNext [3, 2]) 40 start (autoRestart.first B) := by
  have hstart : Leads (iteration B .getNext [3, 2]) 2 start (attempt [switch, psw] {} [3, 2, 1]) :=
    fun _ => rfl
  refine (hstart.gives (arrives_configPSW.gives (l := 30) (by omega) (fun hnone => ?_) _ _)).mono
    (by omega)
  have harrive := arrives_configPSW (B := B)
  rw [hnone] at harrive
  exact fun objs r => (harrive.forever (p := []) rfl (fun objs r => ⟨6, _, {}, fun _ => rfl⟩)
    objs r).mono (by omega)

/-- There is no list below an element that was not found. -/
theorem listAt_none {objs : List Node} {n : Nat} (h : objs.length < n) : listAt objs n = none := by
  rw [listAt, List.getElem?_eq_none (by omega)]
  rfl

/-- **A search that leaves a list above the fourth arc** finds no list to go on in. -/
theorem beyond_error {req : RequestType} {q : Oid} {objs : List Node} (r : ResObj)
    (hobjs : objs.length < 3) (hq : q.length > 3) :
    iteration B req q (after .oidOverList objs r) = .inr none := by
  show onOidOverList q (after .oidOverList objs r) = _
  rw [onOidOverList, if_pos hq]
  simp only [after, listAt_none hobjs, luaError]

/-- **A search that leaves the list of the enterprise or its first list** comes to nothing. -/
theorem beyond_gives {req : RequestType} {q : Oid} {objs : List Node}
    (h : getOidElement q = (objs, .oidOverList)) (hobjs : objs.length < 2) :
    Gives (iteration B req q) 2 start none := by
  refine Gives.step (iteration_start h (by decide)) ?_
  by_cases h3 : q.length > 3
  · exact Gives.done (beyond_error {} (by omega) h3)
  by_cases h2 : q.length > 2
  · apply Gives.done
    show onOidOverList q (after .oidOverList objs {}) = _
    rw [onOidOverList, if_neg h3, if_pos h2]
    simp only [after, listAt_none hobjs, luaError]
  · -- with at most two arcs the status never changes
    refine (Gives.forever (P := fun st => st = after .oidOverList objs {}) ?_ rfl).mono
      (Nat.zero_le 1)
    rintro st rfl
    refine ⟨0, _, Leads.step ?_, rfl⟩
    show onOidOverList q (after .oidOverList objs {}) = _
    rw [onOidOverList, if_neg h3, if_neg h2]
    rfl

/-- A first arc 0 below a list. -/
theorem zero_gives {req : RequestType} {q : Oid} (pre : List Node) {n : Node}
    (h : getOidElement q = (pre ++ [n], .zeroIndex)) (hn : n.nodetype ≠ .scalar) :
    Gives (iteration B req q) 4 start none :=
  Gives.step (iteration_start h (by decide)) (zeroIndex_gives hn)

/-! ## The configuration -/

/-- The node that is not defined before the autorestart table. -/
theorem comfortStart_gives (rest : Oid) :
    Gives (iteration B .getNext (3 :: 2 :: 1 :: 1 :: rest)) 40 start
      (configAnswer B (1 :: rest)) := by
  have hstart : Leads (iteration B .getNext (3 :: 2 :: 1 :: 1 :: rest)) 2 start
      (attempt [switch, psw, configPSW, notDefined [3, 2, 1, 1] "comfortStart"] {}
        [3, 2, 1, 2]) := fun _ => rfl
  have harrive := arrives_autoRestart (B := B)
  cases hfirst : autoRestart.first B with
  | some rep =>
      rw [hfirst] at harrive
      have hanswer : configAnswer B (1 :: rest) = some rep := by
        simp only [configAnswer, hfirst]
      rw [hanswer]
      exact (hstart.gives (harrive _ _ _)).mono (by omega)
  | none =>
      rw [hfirst] at harrive
      match rest with
      | [] =>
          have hanswer : configAnswer B [1] = some (upsStatus.instanceReply B 1) := by
            simp only [configAnswer, hfirst]
          rw [hanswer]
          exact (hstart.gives (harrive.back (p := [3, 2]) rfl (arrives_statusPSW _) _ _)).mono
            (by omega)
      | [b] =>
          have hanswer : configAnswer B [1, b] = none := by
            simp only [configAnswer, hfirst]
          rw [hanswer]
          exact (hstart.gives (harrive.forever (p := [3, 2, 1]) rfl
            (fun objs r => ⟨0, objs, r, Leads.refl _⟩) _ _)).mono (by omega)
      | b :: c :: rest =>
          have hanswer : configAnswer B (1 :: b :: c :: rest) = none := by
            simp only [configAnswer, hfirst]
          have hlong : 2 ≤ (b :: c :: rest).length := by simp
          obtain ⟨p, x, y, hrest⟩ := exists_append_pair hlong
          rw [hanswer]
          rw [hrest] at hstart ⊢
          exact (hstart.gives (harrive.forever (p := 3 :: 2 :: 1 :: 1 :: p) rfl
            (fun objs r => ⟨2, _, {}, fun _ => rfl⟩) _ _)).mono (by omega)

/-- The first scalar of the status, which is landed on from several places. -/
theorem statusPSW_gives (q : Oid) (objs : List Node) (r : ResObj) :
    Gives (iteration B .getNext q) 6 (attempt objs r [3, 2, 2])
      (some (upsStatus.instanceReply B 1)) := arrives_statusPSW q objs r

theorem outStatePSW_gives (q : Oid) (objs : List Node) (r : ResObj) :
    Gives (iteration B .getNext q) 4 (attempt objs r [3, 2, 1, 4])
      (some (outStatePSW.instanceReply B 1)) := outStatePSW.arrives {} q objs r

/-- GET_NEXT at the table itself or at its entry, without rows. -/
theorem Table.empty_gives {T : Table} {u t p : Oid} {a b k l : Nat} {o : Option Reply}
    (hu : u = [] ∨ u = [1]) (hrows : T.rows B = 0) (hq : T.path ++ u = p ++ [a, b])
    (ht : p ++ [a + 1] = t)
    (hback : ∀ objs r, Gives (iteration B .getNext (T.path ++ u)) k (attempt objs r t) o)
    (hk : k + 9 ≤ l) :
    Gives (iteration B .getNext (T.path ++ u)) l start o := by
  have hst := tries_start B .getNext (T.path ++ u)
  have hdown : ∃ m, m ≤ 6 ∧ Leads (iteration B .getNext (T.path ++ u)) m start
      (attempt T.atRow {} (T.columnOid 1)) := by
    rcases hu with rfl | rfl
    · rw [List.append_nil] at hst ⊢
      exact ⟨6, Nat.le_refl 6, table_leads hst⟩
    · exact ⟨4, by omega, entry_leads hst⟩
  obtain ⟨m, hm, hdown⟩ := hdown
  obtain ⟨objs, hover⟩ := column_leads (Nat.le_refl 1) T.columns_pos hrows
    (tries_attempt B .getNext (T.path ++ u) T.atRow {} (T.columnOid 1))
  have hretry := iteration_overIndex B .getNext objs (T.noCell 1 1) hq
  rw [ht] at hretry
  exact ((hdown.trans hover).gives (Gives.step hretry (hback _ _))).mono (by omega)

theorem first_eq_none {T : Table} (h : T.first B = none) : T.rows B = 0 := by
  rw [Table.first] at h
  by_cases hrows : 1 ≤ T.rows B
  · rw [if_pos hrows] at h
    cases h
  · omega

/-- **At and below the autorestart table.** -/
theorem autoRestart_gives (rest : Oid) :
    Gives (iteration B .getNext (3 :: 2 :: 1 :: 2 :: rest)) 40 start
      (configAnswer B (2 :: rest)) := by
  rw [configAnswer]
  apply Gives.mono (show 8 + 16 ≤ 40 by omega)
  refine Table.answer_gives (T := autoRestart) arrives_portPoe (fun hrows u hu => ?_) rest
  simp only [List.mem_cons, List.not_mem_nil, or_false] at hu
  rcases hu with rfl | rfl
  · exact Table.empty_gives (p := [3, 2]) (.inl rfl) hrows rfl rfl (statusPSW_gives _) (by omega)
  · refine Table.empty_gives (p := [3, 2, 1]) (.inr rfl) hrows rfl rfl
      (arrives_portPoe.gives (Nat.le_refl 8) (fun hnone objs r => ?_)) (by omega)
    have harrive := arrives_portPoe (B := B)
    rw [hnone] at harrive
    exact (harrive.forever (p := [3, 2, 1]) rfl (fun objs r => ⟨0, objs, r, Leads.refl _⟩)
      _ _).mono (by omega)

/-- **At and below the PoE table.** -/
theorem portPoe_gives (rest : Oid) :
    Gives (iteration B .getNext (3 :: 2 :: 1 :: 3 :: rest)) 40 start
      (configAnswer B (3 :: rest)) := by
  rw [configAnswer]
  apply Gives.mono (show 4 + 16 ≤ 40 by omega)
  refine Table.answer_gives (T := portPoe) (outStatePSW.arrives {}) (fun hrows u hu => ?_) rest
  simp only [List.mem_cons, List.not_mem_nil, or_false] at hu
  rcases hu with rfl | rfl
  · exact Table.empty_gives (p := [3, 2]) (.inl rfl) hrows rfl rfl (statusPSW_gives _) (by omega)
  · exact Table.empty_gives (p := [3, 2, 1]) (.inr rfl) hrows rfl rfl (outStatePSW_gives _)
      (by omega)

/-- A search past the end of the configuration goes on in the status. -/
theorem pastConfig_gives (rest : Oid) (below : List Node) (r : ResObj) :
    Gives (iteration B .getNext (3 :: 2 :: 1 :: 4 :: rest)) 7
      (after .oidOverList (outStatePSW.atList ++ below) r)
      (some (upsStatus.instanceReply B 1)) :=
  Gives.through (attempt (outStatePSW.atList ++ below) r [3, 2, 2]) rfl
    (statusPSW_gives _ _ _)

/-- **At and below the state of the output.** -/
theorem outStatePSW_answer (rest : Oid) :
    Gives (iteration B .getNext (3 :: 2 :: 1 :: 4 :: rest)) 40 start
      (configAnswer B (4 :: rest)) := by
  rw [configAnswer]
  apply Gives.mono (show 8 + 4 ≤ 40 by omega)
  refine ScalarList.answer_gives (S := outStatePSW) rest
    (fun below _ => (pastConfig_gives rest below {}).mono (by omega)) (fun tail _ objs => ?_)
  -- the node after the list is not there
  exact Gives.through (after .oidOverList [switch, psw, configPSW] ⟨some [3, 2, 1, 5], _, _⟩) rfl
    (Gives.through (attempt [switch, psw, configPSW] {} [3, 2, 2]) rfl
      (statusPSW_gives _ _ _))

/-- **At and below the configuration.** -/
theorem configPSW_gives (rest : Oid) :
    Gives (iteration B .getNext (3 :: 2 :: 1 :: rest)) 40 start (configAnswer B rest) := by
  match rest with
  | [] =>
      have hstart : Leads (iteration B .getNext [3, 2, 1]) 2 start
          (attempt [switch, psw, configPSW] {} [3, 2, 1, 1]) := fun _ => rfl
      refine (hstart.gives (arrives_comfortStart.gives (l := 30) (by omega) (fun hnone => ?_)
        _ _)).mono (by omega)
      have harrive := arrives_comfortStart (B := B)
      rw [hnone] at harrive
      refine fun objs r => (harrive.back (p := [3]) (l := 2) rfl (fun objs r => ?_) objs r).mono
        (by omega)
      exact Gives.through (after .oidOverList [switch] ⟨some [3, 3], _, _⟩) rfl
        (Gives.done rfl)
  | 0 :: rest =>
      exact (zero_gives [switch, psw] (n := configPSW) rfl (by decide)).mono (by omega)
  | 1 :: rest => exact comfortStart_gives rest
  | 2 :: rest => exact autoRestart_gives rest
  | 3 :: rest => exact portPoe_gives rest
  | 4 :: rest => exact outStatePSW_answer rest
  | (a + 5) :: rest =>
      have hlookup : getOidElement (3 :: 2 :: 1 :: (a + 5) :: rest) =
          ([switch, psw, configPSW], .oidOverList) := rfl
      have hpast : iteration B .getNext (3 :: 2 :: 1 :: (a + 5) :: rest)
          (after .oidOverList [switch, psw, configPSW] {}) =
          .inl (attempt [switch, psw, configPSW] {} [3, 2, 2]) := rfl
      exact (Gives.step (iteration_start hlookup (by decide))
        (Gives.step hpast (statusPSW_gives _ _ _))).mono (by omega)

/-! ## The status -/

/-- **At and below the UPS.** -/
theorem upsStatus_gives (rest : Oid) :
    Gives (iteration B .getNext (3 :: 2 :: 2 :: 1 :: rest)) 40 start
      (statusAnswer B (1 :: rest)) := by
  rw [statusAnswer]
  apply Gives.mono (show 9 + 4 ≤ 40 by omega)
  have hnext : ∀ objs r, Gives (iteration B .getNext (3 :: 2 :: 2 :: 1 :: rest)) 8
      (attempt objs r [3, 2, 2, 2]) (inputStatus.first B) :=
    fun objs r => Table.arrives (T := inputStatus) _ objs r
  refine ScalarList.answer_gives (S := upsStatus) rest (fun below _ => ?_)
    (fun tail _ objs => (hnext objs {}).mono (by omega))
  exact Gives.through (attempt (upsStatus.atList ++ below) {} [3, 2, 2, 2]) rfl (hnext _ _)

/-- **At and below the inputs.** -/
theorem inputStatus_gives (rest : Oid) :
    Gives (iteration B .getNext (3 :: 2 :: 2 :: 2 :: rest)) 40 start
      (statusAnswer B (2 :: rest)) := by
  rw [statusAnswer]
  apply Gives.mono (show 4 + 16 ≤ 40 by omega)
  exact Table.answer_gives (T := inputStatus) (fwStatus.arrives {})
    (fun hrows => absurd hrows (show 4 ≠ 0 by decide)) rest

/-- **At and below the SFP slots.** -/
theorem sfpStatus_gives (rest : Oid) :
    Gives (iteration B .getNext (3 :: 2 :: 2 :: 7 :: rest)) 40 start
      (statusAnswer B (7 :: rest)) := by
  rw [statusAnswer]
  apply Gives.mono (show 4 + 16 ≤ 40 by omega)
  exact Table.answer_gives (T := sfpStatus) (sensorEntry.arrives {})
    (fun hrows => absurd hrows (show 2 ≠ 0 by decide)) rest

/-- **At and below the sensors**, the end of the tree. -/
theorem sensorEntry_gives (rest : Oid) :
    Gives (iteration B .getNext (3 :: 2 :: 2 :: 8 :: rest)) 40 start
      (statusAnswer B (8 :: rest)) := by
  rw [statusAnswer]
  apply Gives.mono (show 2 + 4 ≤ 40 by omega)
  refine ScalarList.answer_gives (S := sensorEntry) rest (fun below _ => ?_)
    (fun tail _ objs => ?_)
  · have hend : iteration B .getNext (3 :: 2 :: 2 :: 8 :: rest)
        (after .oidOverList (sensorEntry.atList ++ below) {}) = .inr (some blank) := rfl
    exact (Gives.done hend).mono (by omega)
  · exact Gives.through (after .oidOverList [switch, psw, statusPSW] ⟨some [3, 2, 2, 9], _, _⟩)
      rfl (Gives.done rfl)

/-- An attempt above the fourth arc that is not in the tree. -/
theorem beyondStatus_gives {q : Oid} (hq : q.length > 3) (objs : List Node) (r : ResObj) :
    Gives (iteration B .getNext q) 2 (attempt objs r [3, 2, 3]) none :=
  Gives.through (after .oidOverList [switch, psw] ⟨some [3, 2, 3], _, _⟩) rfl
    (Gives.done (beyond_error _ (by decide) hq))

/-- **At and below the status of the PoE ports.** -/
theorem poeStatus_gives (rest : Oid) :
    Gives (iteration B .getNext (3 :: 2 :: 2 :: 5 :: rest)) 40 start
      (statusAnswer B (5 :: rest)) := by
  rw [statusAnswer]
  apply Gives.mono (show 10 + 16 ≤ 40 by omega)
  refine Table.answer_gives (T := poeStatus) arrives_specialStatus (fun hrows u hu => ?_) rest
  simp only [List.mem_cons, List.not_mem_nil, or_false] at hu
  rcases hu with rfl | rfl
  · exact Table.empty_gives (p := [3, 2]) (.inl rfl) hrows rfl rfl
      (beyondStatus_gives (by decide)) (by omega)
  · refine Table.empty_gives (p := [3, 2, 2]) (.inr rfl) hrows rfl rfl
      (arrives_specialStatus.gives (Nat.le_refl 10) (fun hnone objs r => ?_)) (by omega)
    have harrive := arrives_specialStatus (B := B)
    rw [hnone] at harrive
    exact (harrive.forever (p := [3, 2, 2]) rfl (fun objs r => ⟨0, objs, r, Leads.refl _⟩)
      _ _).mono (by omega)

/-- **At and below the errors of the autorestart ports.** -/
theorem autoRestartErrors_gives (rest : Oid) :
    Gives (iteration B .getNext (3 :: 2 :: 2 :: 6 :: 1 :: rest)) 40 start
      (statusAnswer B (6 :: 1 :: rest)) := by
  rw [statusAnswer]
  apply Gives.mono (show 8 + 16 ≤ 40 by omega)
  have harrive : Arrives B 8 [3, 2, 2, 7] (sfpStatus.first B) {} :=
    fun q objs r => Table.arrives (T := sfpStatus) q objs r
  have hnext : ∀ q objs r, Gives (iteration B .getNext q) 8 (attempt objs r [3, 2, 2, 7])
      (sfpStatus.first B) := Table.arrives (T := sfpStatus)
  refine Table.answer_gives (T := autoRestartErrors) harrive (fun hrows u hu => ?_) rest
  simp only [List.mem_cons, List.not_mem_nil, or_false] at hu
  rcases hu with rfl | rfl
  · exact Table.empty_gives (p := [3, 2, 2]) (.inl rfl) hrows rfl rfl (hnext _) (by omega)
  · refine Table.empty_gives (p := [3, 2, 2, 6]) (k := 10) (.inr rfl) hrows rfl rfl
      (fun objs r => ?_) (by omega)
    exact Gives.through (after .oidOverList [switch, psw, statusPSW, specialStatus]
      ⟨some [3, 2, 2, 6, 2], _, _⟩) rfl
      (Gives.through (attempt [switch, psw, statusPSW, specialStatus] _ [3, 2, 2, 7]) rfl
        (hnext _ _ _))

/-- A search past the only scalar of a list is one after its last arcs are raised. -/
theorem chainEnd_raise {s t : Nat} {p : Oid} {a b : Nat}
    (h : (chainEnd 1 s (p ++ [a, b])).2 = .oidOverList) :
    (chainEnd 1 t (p ++ [a + 1])).2 = .oidOverList := by
  induction p generalizing s t with
  | nil =>
      have ha : a ≠ 0 := by
        rintro rfl
        simp [chainEnd] at h
      have hraised : a + 1 > 1 := by omega
      simp [chainEnd, hraised]
  | cons c p ih =>
      rw [List.cons_append, chainEnd] at h ⊢
      by_cases hc : c > 1
      · rw [if_pos hc]
      rw [if_neg hc] at h ⊢
      by_cases h0 : c = 0
      · rw [if_pos h0] at h
        cases h
      rw [if_neg h0] at h ⊢
      exact ih h

theorem pastFw_eq (rest : Oid) (below : List Node) (r : ResObj) :
    iteration B .getNext (3 :: 2 :: 2 :: 3 :: rest) (after .oidOverList (fwStatus.atList ++ below) r)
      = .inl (attempt (fwStatus.atList ++ below) r [3, 2, 2, 4]) := rfl

/-- **A search past the firmware version** goes on with the PoE ports, or never ends. -/
theorem pastFw_gives {rest : Oid} {below : List Node}
    (h : getOidElement (3 :: 2 :: 2 :: 3 :: rest) = (fwStatus.atList ++ below, .oidOverList)) :
    Gives (iteration B .getNext (3 :: 2 :: 2 :: 3 :: rest)) 11
      (after .oidOverList (fwStatus.atList ++ below) {}) (poeStatus.first B) := by
  refine Gives.step (pastFw_eq rest below {}) (arrives_empty.gives (Nat.le_refl 10)
    (fun hnone objs r => ?_) _ _)
  have harrive := arrives_empty (B := B)
  rw [hnone] at harrive
  obtain ⟨below', hstatus⟩ := fwStatus.lookup_status rest
  have hover : (chainEnd 1 0 rest).2 = .oidOverList := by
    have hpair := h.symm.trans hstatus
    exact (congrArg Prod.snd hpair).symm
  match rest with
  | [] => cases hover
  | [s] =>
      exact (harrive.forever (p := [3, 2, 2]) rfl (fun objs r => ⟨0, objs, r, Leads.refl _⟩)
        _ _).mono (by omega)
  | s :: t :: rest =>
      have hlong : 2 ≤ (s :: t :: rest).length := by simp
      obtain ⟨p, x, y, hrest⟩ := exists_append_pair hlong
      rw [hrest] at hover ⊢
      obtain ⟨below'', hraised⟩ := fwStatus.lookup_status (p ++ [x + 1])
      have hagain := chainEnd_raise (t := 0) hover
      rw [show fwStatus.scalars.length = 1 from rfl, hagain] at hraised
      refine (harrive.forever (p := 3 :: 2 :: 2 :: 3 :: p) rfl (fun objs r => ?_) _ _).mono
        (by omega)
      exact ⟨2, _, _, (Leads.step (iteration_attempt hraised (by decide))).trans
        (Leads.step (pastFw_eq _ below'' _))⟩

/-- **The arc 0 below the firmware version.** -/
theorem fwOnward_gives (tail : Oid) (objs : List Node) :
    Gives (iteration B .getNext (3 :: 2 :: 2 :: 3 :: 1 :: 0 :: tail)) 14
      (attempt objs {} [3, 2, 2, 4]) (fwOnward B (1 :: 0 :: tail)) := by
  have harrive := arrives_empty (B := B)
  cases hfirst : poeStatus.first B with
  | some rep =>
      have hanswer : fwOnward B (1 :: 0 :: tail) = some rep := by simp only [fwOnward, hfirst]
      rw [hfirst] at harrive
      rw [hanswer]
      exact Gives.mono (by omega) (harrive _ objs {})
  | none =>
      rw [hfirst] at harrive
      match tail with
      | [] =>
          have hanswer : fwOnward B [1, 0] = none := by simp only [fwOnward, hfirst]
          rw [hanswer]
          refine (harrive.forever (p := [3, 2, 2, 3]) rfl (fun objs r => ?_) objs {}).mono
            (by omega)
          have hlookup : getOidElement [3, 2, 2, 3, 2] = (fwStatus.atList ++ [], .oidOverList) :=
            rfl
          exact ⟨2, _, _, (Leads.step (iteration_attempt hlookup (by decide))).trans
            (Leads.step (pastFw_eq _ [] _))⟩
      | [x] =>
          -- the search comes back to the scalar, with the arc 1 in place of 0
          have hanswer : fwOnward B [1, 0, x] = some (fwStatus.instanceReply B 1) := by
            simp only [fwOnward, hfirst]
          rw [hanswer]
          refine (harrive.back (p := [3, 2, 2, 3, 1]) (l := 2) rfl (fun objs r => ?_) objs {}).mono
            (by omega)
          have hlookup : getOidElement [3, 2, 2, 3, 1, 1] = (fwStatus.atList ++
              [scalar [3, 2, 2, 3, 1] "fwVersion", scalar [3, 2, 2, 3, 1] "fwVersion"], .found) :=
            rfl
          exact Gives.step (iteration_attempt hlookup (by decide)) (ScalarList.found_gives
            (S := fwStatus) (Nat.le_refl 1) (Nat.le_refl 1) _ _ "fwVersion" _)
      | x :: y :: tail =>
          have hanswer : fwOnward B (1 :: 0 :: x :: y :: tail) = none := by
            simp only [fwOnward, hfirst]
          have hlong : 2 ≤ (x :: y :: tail).length := by simp
          obtain ⟨p, a, b, htail⟩ := exists_append_pair hlong
          rw [hanswer, htail]
          refine (harrive.forever (p := 3 :: 2 :: 2 :: 3 :: 1 :: 0 :: p) rfl (fun objs r => ?_)
            objs {}).mono (by omega)
          obtain ⟨objs', hzero⟩ := ScalarList.zero_leads (S := fwStatus) (s := 1) (Nat.le_refl 1)
            (Nat.le_refl 1) (p ++ [a + 1]) (tries_attempt B .getNext
              (3 :: 2 :: 2 :: 3 :: 1 :: 0 :: (p ++ [a, b])) objs r _)
          exact ⟨2, objs', _, hzero⟩

/-- **At and below the firmware version.** -/
theorem fwStatus_gives (rest : Oid) :
    Gives (iteration B .getNext (3 :: 2 :: 2 :: 3 :: rest)) 40 start
      (statusAnswer B (3 :: rest)) := by
  rw [statusAnswer]
  apply Gives.mono (show 14 + 4 ≤ 40 by omega)
  refine ScalarList.answer_gives (S := fwStatus) rest
    (fun below h => (pastFw_gives h).mono (by omega)) (fun tail hrest objs => ?_)
  subst hrest
  exact fwOnward_gives tail objs

/-- The node that is not defined before the PoE ports. -/
theorem empty_gives (rest : Oid) :
    Gives (iteration B .getNext (3 :: 2 :: 2 :: 4 :: rest)) 40 start
      (statusAnswer B (4 :: rest)) := by
  have hstart : Leads (iteration B .getNext (3 :: 2 :: 2 :: 4 :: rest)) 2 start
      (attempt [switch, psw, statusPSW, notDefined [3, 2, 2, 4] "empty"] {} [3, 2, 2, 5]) :=
    fun _ => rfl
  rw [statusAnswer]
  refine (hstart.gives (arrives_poeStatus.gives (l := 30) (by omega) (fun hnone => ?_) _ _)).mono
    (by omega)
  have harrive := arrives_poeStatus (B := B)
  rw [hnone] at harrive
  match rest with
  | [] =>
      exact fun objs r => (harrive.back (p := [3, 2]) rfl (beyondStatus_gives (by decide)) objs
        r).mono (by omega)
  | [b] =>
      exact fun objs r => (harrive.forever (p := [3, 2, 2]) rfl
        (fun objs r => ⟨0, objs, r, Leads.refl _⟩) objs r).mono (by omega)
  | b :: c :: rest =>
      have hlong : 2 ≤ (b :: c :: rest).length := by simp
      obtain ⟨p, x, y, hrest⟩ := exists_append_pair hlong
      rw [hrest]
      exact fun objs r => (harrive.forever (p := 3 :: 2 :: 2 :: 4 :: p) rfl
        (fun objs r => ⟨2, _, {}, fun _ => rfl⟩) objs r).mono (by omega)

/-- **At and below the special status**, which has one table. -/
theorem specialStatus_gives (rest : Oid) :
    Gives (iteration B .getNext (3 :: 2 :: 2 :: 6 :: rest)) 40 start
      (statusAnswer B (6 :: rest)) := by
  match rest with
  | [] =>
      have hstart : Leads (iteration B .getNext [3, 2, 2, 6]) 2 start
          (attempt [switch, psw, statusPSW, specialStatus] {} [3, 2, 2, 6, 1]) := fun _ => rfl
      have harrive : Arrives B 8 [3, 2, 2, 6, 1] (autoRestartErrors.first B)
          (autoRestartErrors.noCell 1 1) := Table.arrives (T := autoRestartErrors)
      refine (hstart.gives (harrive.gives (l := 30) (by omega) (fun hnone => ?_) _ _)).mono
        (by omega)
      rw [hnone] at harrive
      exact fun objs r => (harrive.back (p := [3, 2]) rfl (beyondStatus_gives (by decide)) objs
        r).mono (by omega)
  | 0 :: rest =>
      exact (zero_gives _ (lookup_special_zero rest) (by decide)).mono (by omega)
  | 1 :: rest => exact autoRestartErrors_gives rest
  | (a + 2) :: rest =>
      have hlookup : getOidElement (3 :: 2 :: 2 :: 6 :: (a + 2) :: rest) =
          ([switch, psw, statusPSW, specialStatus], .oidOverList) := rfl
      have hpast : iteration B .getNext (3 :: 2 :: 2 :: 6 :: (a + 2) :: rest)
          (after .oidOverList [switch, psw, statusPSW, specialStatus] {}) =
          .inl (attempt [switch, psw, statusPSW, specialStatus] {} [3, 2, 2, 7]) := rfl
      have harrive : Gives (iteration B .getNext (3 :: 2 :: 2 :: 6 :: (a + 2) :: rest)) 8
          (attempt [switch, psw, statusPSW, specialStatus] {} [3, 2, 2, 7])
          (sfpStatus.first B) := Table.arrives (T := sfpStatus) _ _ _
      exact (Gives.step (iteration_start hlookup (by decide)) (Gives.step hpast harrive)).mono
        (by omega)

/-- **At and below the status.** -/
theorem status_gives (rest : Oid) :
    Gives (iteration B .getNext (3 :: 2 :: 2 :: rest)) 40 start (statusAnswer B rest) := by
  match rest with
  | [] =>
      have hstart : Leads (iteration B .getNext [3, 2, 2]) 2 start
          (attempt [switch, psw, statusPSW] {} [3, 2, 2, 1]) := fun _ => rfl
      exact (hstart.gives (upsStatus.arrives {} _ _ _)).mono (by omega)
  | 0 :: rest =>
      exact (zero_gives [switch, psw] (n := statusPSW) rfl (by decide)).mono (by omega)
  | 1 :: rest => exact upsStatus_gives rest
  | 2 :: rest => exact inputStatus_gives rest
  | 3 :: rest => exact fwStatus_gives rest
  | 4 :: rest => exact empty_gives rest
  | 5 :: rest => exact poeStatus_gives rest
  | 6 :: rest => exact specialStatus_gives rest
  | 7 :: rest => exact sfpStatus_gives rest
  | 8 :: rest => exact sensorEntry_gives rest
  | (a + 9) :: rest =>
      have hlookup : getOidElement (3 :: 2 :: 2 :: (a + 9) :: rest) =
          ([switch, psw, statusPSW], .oidOverList) := rfl
      have hend : iteration B .getNext (3 :: 2 :: 2 :: (a + 9) :: rest)
          (after .oidOverList [switch, psw, statusPSW] {}) = .inr (some blank) := rfl
      exact (Gives.step (iteration_start hlookup (by decide)) (Gives.done hend)).mono (by omega)

/-! ## The whole tree -/

/-- **What GET_NEXT prints**, for every OID of the enterprise and every backend. -/
theorem getNext_gives (q : Oid) :
    Gives (iteration B .getNext q) 40 start (getNextAnswer B q) := by
  match q with
  | [] =>
      have hstart : iteration B .getNext [] start = .inl (after .found [] {}) := rfl
      exact (Gives.step hstart nothing_gives).mono (by omega)
  | 0 :: rest =>
      have hstart : iteration B .getNext (0 :: rest) start = .inl (after .zeroIndex [] {}) := rfl
      exact (Gives.step hstart (Gives.done rfl)).mono (by omega)
  | 1 :: rest => exact single_gives (fun _ => ⟨_, rfl⟩) (.inl ⟨_, rfl⟩) rest
  | 2 :: rest => exact single_gives (fun _ => ⟨_, rfl⟩) (.inl ⟨_, rfl⟩) rest
  | [3] => exact switch_gives
  | 3 :: 0 :: rest =>
      exact (zero_gives [] (n := switch) rfl (by decide)).mono (by omega)
  | 3 :: 1 :: rest => exact emptySwitch_gives rest
  | [3, 2] => exact psw_gives
  | 3 :: 2 :: 0 :: rest =>
      exact (zero_gives [switch] (n := psw) rfl (by decide)).mono (by omega)
  | 3 :: 2 :: 1 :: rest => exact configPSW_gives rest
  | 3 :: 2 :: 2 :: rest => exact status_gives rest
  | [3, 2, a + 3] =>
      have hlookup : getOidElement [3, 2, a + 3] = ([switch, psw], .oidOverList) := rfl
      have hend : iteration B .getNext [3, 2, a + 3] (after .oidOverList [switch, psw] {}) =
          .inr (some blank) := rfl
      exact (Gives.step (iteration_start hlookup (by decide)) (Gives.done hend)).mono (by omega)
  | 3 :: 2 :: (a + 3) :: b :: rest =>
      have hlookup : getOidElement (3 :: 2 :: (a + 3) :: b :: rest) =
          ([switch, psw], .oidOverList) := rfl
      exact (Gives.step (iteration_start hlookup (by decide))
        (Gives.done (beyond_error {} (by decide) (by simp)))).mono (by omega)
  | 3 :: (a + 3) :: rest =>
      have hlookup : getOidElement (3 :: (a + 3) :: rest) = ([switch], .oidOverList) := rfl
      exact (beyond_gives hlookup (by decide)).mono (by omega)
  | 4 :: rest => exact single_gives (fun _ => ⟨_, rfl⟩) (.inr rfl) rest
  | (a + 5) :: rest =>
      have hlookup : getOidElement ((a + 5) :: rest) = ([], .oidOverList) := rfl
      exact (beyond_gives hlookup (by decide)).mono (by omega)

theorem mainHandler_getNext (q : Oid) : mainHandler B .getNext q = getNextAnswer B q :=
  (getNext_gives q).mono (show 40 ≤ 50 by omega) 0

end Snmp
