import TfPack.Snmp.NextInstance

set_option autoImplicit false

/-! # Which walks are complete

`Reached` is the requests for which GET_NEXT prints the next instance, in terms of their arcs and
of which tables have rows (`hits_iff`). A walk from the root comes to every instance when the four
tables of the ports have rows, and no value it reads ends with an error of Lua, which a `Backend`
does not have; it does not end there, but one line later.
-/

namespace Snmp

open LexOrder OrderedWalk

variable {B : Backend} {q o rest : Oid} {a : Option Reply}

/-! ## The requests that are answered with the next instance -/

/-- At and below the configuration. -/
def ReachedConfig (B : Backend) : Oid → Prop
  | [] => 1 ≤ autoRestart.rows B
  | 0 :: _ => False
  | 1 :: _ => 1 ≤ autoRestart.rows B
  | 2 :: rest => autoRestart.Reaches B False (1 ≤ portPoe.rows B) (1 ≤ portPoe.rows B) rest
  | 3 :: rest => portPoe.Reaches B False True True rest
  | 4 :: rest => outStatePSW.Reaches True True rest
  | (_ + 5) :: _ => True

/-- At and below the status. -/
def ReachedStatus (B : Backend) : Oid → Prop
  | [] => True
  | 0 :: _ => False
  | 1 :: rest => upsStatus.Reaches True True rest
  | 2 :: rest => inputStatus.Reaches B False False True rest
  | 3 :: rest => fwStatus.Reaches (1 ≤ poeStatus.rows B) (1 ≤ poeStatus.rows B) rest
  | 4 :: _ => 1 ≤ poeStatus.rows B
  | 5 :: rest =>
      poeStatus.Reaches B False (1 ≤ autoRestartErrors.rows B) (1 ≤ autoRestartErrors.rows B) rest
  | [6] => 1 ≤ autoRestartErrors.rows B
  | 6 :: 0 :: _ => False
  | 6 :: 1 :: rest => autoRestartErrors.Reaches B True True True rest
  | 6 :: (_ + 2) :: _ => True
  | 7 :: rest => sfpStatus.Reaches B False False True rest
  | 8 :: rest => sensorEntry.Reaches False False rest
  | (_ + 9) :: _ => False

/-- The requests for which GET_NEXT prints the next instance. -/
def Reached (B : Backend) : Oid → Prop
  | [] => 1 ≤ autoRestart.rows B
  | 1 :: _ => 1 ≤ autoRestart.rows B
  | 2 :: _ => 1 ≤ autoRestart.rows B
  | [3] => 1 ≤ autoRestart.rows B
  | 3 :: 1 :: _ => 1 ≤ autoRestart.rows B
  | [3, 2] => 1 ≤ autoRestart.rows B
  | 3 :: 2 :: 1 :: rest => ReachedConfig B rest
  | 3 :: 2 :: 2 :: rest => ReachedStatus B rest
  | _ => False

/-! ## Between the places -/

theorem split_at {p : Place} {k : Nat} (h : places[k]? = some p) :
    places = places.take k ++ p :: places.drop (k + 1) := by
  obtain ⟨hk, hp⟩ := List.getElem?_eq_some_iff.mp h
  rw [← hp, ← List.drop_eq_getElem_cons hk, List.take_append_drop]

/-- The first cell of a table is the first instance from there on when there is one. -/
theorem hitsFirst_drop_table {T : Table} {k : Nat} (h : places[k]? = some (.table T)) :
    HitsFirst B (places.drop k) (T.first B) ↔ 1 ≤ T.rows B := by
  obtain ⟨hk, hp⟩ := List.getElem?_eq_some_iff.mp h
  rw [List.drop_eq_getElem_cons hk, hp]
  exact hitsFirst_table (split_at h)

theorem hitsFirst_drop_scalars {S : ScalarList} {k : Nat} (h : places[k]? = some (.scalars S)) :
    HitsFirst B (places.drop k) (some (S.instanceReply B 1)) := by
  obtain ⟨hk, hp⟩ := List.getElem?_eq_some_iff.mp h
  rw [List.drop_eq_getElem_cons hk, hp]
  exact hitsFirst_scalars (split_at h)

/-- An OID that has an instance of the places before it is not their first one. -/
theorem not_hitsFirst_of_lt {ps : List Place} {p : Place} {z : Oid} (ha : a.bind Reply.oid = some o)
    (hp : p ∈ ps) (hz : p.Has B z) (hlt : z < o) : ¬ HitsFirst B ps a := by
  rintro ⟨o', ho', hfirst⟩
  obtain rfl : o = o' := Option.some.inj (ha.symm.trans ho')
  exact absurd (hfirst.2 ⟨p, hp, hz⟩) hlt.not_ge

/-- An OID before all of the places is none of their instances. -/
theorem not_hitsFirst_of_before {ps : List Place} (ha : a.bind Reply.oid = some o)
    (hps : ∀ p ∈ ps, o < p.path) : ¬ HitsFirst B ps a := by
  rintro ⟨o', ho', ⟨p, hp, hz⟩, -⟩
  obtain rfl : o = o' := Option.some.inj (ha.symm.trans ho')
  obtain ⟨l, rfl⟩ := hz.exists_append
  cases l with
  | nil => exact (hps p hp).ne (List.append_nil _)
  | cons b l => exact lt_asymm (hps p hp) (lt_append_cons p.path b l)

/-- **At an OID between two places** the next instance is the first one from there on. -/
theorem hits_at (k : Nat) (hbefore : ∀ p ∈ places.take k, precedes p.path q = true)
    (hafter : ∀ p ∈ places.drop k, q < p.path) :
    Hits B q a ↔ HitsFirst B (places.drop k) a := by
  refine hits_iff_first (List.take_append_drop k places).symm ?_ ?_
  · intro p hp o ho
    obtain ⟨l, rfl⟩ := ho.exists_append
    exact (lt_of_precedes (hbefore p hp) l).not_gt
  · intro p hp o ho
    obtain ⟨l, rfl⟩ := ho.exists_append
    cases l with
    | nil => simpa using hafter p hp
    | cons b l => exact (hafter p hp).trans (lt_append_cons p.path b l)

theorem hits_below {u : Oid} (k : Nat) (hbefore : ∀ p ∈ places.take k, precedes p.path u = true)
    (hafter : ∀ p ∈ places.drop k, precedes u p.path = true) :
    Hits B (u ++ rest) a ↔ HitsFirst B (places.drop k) a := by
  refine hits_iff_first (List.take_append_drop k places).symm ?_ ?_
  · intro p hp o ho
    obtain ⟨l, rfl⟩ := ho.exists_append
    exact (before_of_precedes (hbefore p hp) l rest).not_gt
  · intro p hp o ho
    obtain ⟨l, rfl⟩ := ho.exists_append
    exact before_of_precedes (hafter p hp) rest l

/-! ## The requests at each place -/

theorem hits_config :
    Hits B (3 :: 2 :: 1 :: rest) (configAnswer B rest) ↔ ReachedConfig B rest := by
  have hfirst : HitsFirst B (places.drop 0) (autoRestart.first B) ↔ 1 ≤ autoRestart.rows B :=
    hitsFirst_drop_table rfl
  have hpoe : HitsFirst B (places.drop 1) (portPoe.first B) ↔ 1 ≤ portPoe.rows B :=
    hitsFirst_drop_table rfl
  have hout : HitsFirst B (places.drop 2) (some (outStatePSW.instanceReply B 1)) :=
    hitsFirst_drop_scalars rfl
  have hups : HitsFirst B (places.drop 3) (some (upsStatus.instanceReply B 1)) :=
    hitsFirst_drop_scalars rfl
  -- `upsStatus` is not where the next instance is while `outStatePSW` is before it
  have hskip : ∀ k, Place.scalars outStatePSW ∈ places.drop k →
      (HitsFirst B (places.drop k) (some (upsStatus.instanceReply B 1)) ↔ False) := by
    intro k hk
    refine iff_false_intro (not_hitsFirst_of_lt (z := [3, 2, 1, 4, 1, 0]) rfl hk
      ⟨1, ⟨Nat.le_refl 1, Nat.le_refl 1⟩, rfl⟩ ?_)
    decide
  match rest with
  | [] => exact (hits_at (q := [3, 2, 1]) 0 (by decide) (by decide)).trans hfirst
  | 0 :: rest => exact iff_of_false not_hits_none id
  | 1 :: rest =>
      rw [ReachedConfig, ← hfirst]
      have hbelow : ∀ a, Hits B (3 :: 2 :: 1 :: 1 :: rest) a ↔ HitsFirst B (places.drop 0) a :=
        fun a => hits_below (u := [3, 2, 1, 1]) 0 (by decide) (by decide)
      by_cases hnone : autoRestart.first B = none ∧ rest = []
      · rw [hnone.2, configAnswer, ← hnone.2, hbelow, hskip 0 (by simp [places]), hnone.1]
        · exact iff_of_false id not_hitsFirst_none
        · exact hnone.1
      · rw [configAnswer, hbelow]
        exact fun h h' => hnone ⟨h, h'⟩
  | 2 :: rest =>
      rw [configAnswer, ReachedConfig]
      refine Table.hits_answer (T := autoRestart) (split_at (k := 0) rfl) ?_ ?_ hpoe
      · exact hskip 1 (by simp [places])
      · exact hpoe
  | 3 :: rest =>
      rw [configAnswer, ReachedConfig]
      refine Table.hits_answer (T := portPoe) (split_at (k := 1) rfl) ?_ ?_ (iff_true_intro hout)
      · exact hskip 2 (by simp [places])
      · exact iff_true_intro hout
  | 4 :: rest =>
      refine ScalarList.hits_answer (S := outStatePSW) (split_at (k := 2) rfl)
        (iff_true_intro hups) ?_ fun _ _ => iff_true_intro hups
      rintro o ⟨⟩ ⟨s, -, h⟩
      cases h
  | (a + 5) :: rest =>
      refine iff_of_true ((hits_below (u := [3, 2, 1, a + 5]) 3 ?_ ?_).mpr hups) trivial
      · simp [places, precedes, Place.path, autoRestart, portPoe, outStatePSW]
      · simp [places, precedes, Place.path, upsStatus, inputStatus, fwStatus, poeStatus,
          autoRestartErrors, sfpStatus, sensorEntry]

/-- Below the firmware version a search goes on to the PoE ports, if there are any. -/
theorem hitsFirst_fwOnward (tail : Oid) :
    HitsFirst B (places.drop 6) (fwOnward B (1 :: 0 :: tail)) ↔ 1 ≤ poeStatus.rows B := by
  have hpoe : HitsFirst B (places.drop 6) (poeStatus.first B) ↔ 1 ≤ poeStatus.rows B :=
    hitsFirst_drop_table rfl
  by_cases hback : poeStatus.first B = none ∧ ∃ x, tail = [x]
  · obtain ⟨hnone, x, rfl⟩ := hback
    rw [fwOnward]
    · rw [← hpoe, hnone]
      refine iff_of_false (not_hitsFirst_of_before (o := [3, 2, 2, 3, 1, 0]) rfl ?_)
        not_hitsFirst_none
      decide
    · exact hnone
  · rw [fwOnward]
    · exact hpoe
    · rintro x y z h ⟨⟩
      exact hback ⟨h, _, rfl⟩

theorem hits_status :
    Hits B (3 :: 2 :: 2 :: rest) (statusAnswer B rest) ↔ ReachedStatus B rest := by
  have hups : HitsFirst B (places.drop 3) (some (upsStatus.instanceReply B 1)) :=
    hitsFirst_drop_scalars rfl
  have hinputs : HitsFirst B (places.drop 4) (inputStatus.first B) :=
    (hitsFirst_drop_table rfl).mpr (by simp [inputStatus])
  have hfw : HitsFirst B (places.drop 5) (some (fwStatus.instanceReply B 1)) :=
    hitsFirst_drop_scalars rfl
  have hpoe : HitsFirst B (places.drop 6) (poeStatus.first B) ↔ 1 ≤ poeStatus.rows B :=
    hitsFirst_drop_table rfl
  have herrors : HitsFirst B (places.drop 7) (autoRestartErrors.first B) ↔
      1 ≤ autoRestartErrors.rows B := hitsFirst_drop_table rfl
  have hsfp : HitsFirst B (places.drop 8) (sfpStatus.first B) :=
    (hitsFirst_drop_table rfl).mpr (by simp [sfpStatus])
  have hsensors : HitsFirst B (places.drop 9) (some (sensorEntry.instanceReply B 1)) :=
    hitsFirst_drop_scalars rfl
  have hend : ∀ a, HitsFirst B (places.drop 10) a ↔ False :=
    fun a => iff_false_intro fun ⟨o, _, h⟩ => not_first_nil h
  match rest with
  | [] =>
      exact iff_of_true ((hits_at (q := [3, 2, 2]) 3 (by decide) (by decide)).mpr hups) trivial
  | 0 :: rest => exact iff_of_false not_hits_none id
  | 1 :: rest =>
      refine ScalarList.hits_answer (S := upsStatus) (split_at (k := 3) rfl)
        (iff_true_intro hinputs) ?_ fun _ _ => iff_true_intro hinputs
      rintro o ⟨⟩ ⟨s, -, h⟩
      cases h
  | 2 :: rest =>
      rw [statusAnswer, ReachedStatus]
      refine Table.hits_answer (T := inputStatus) (split_at (k := 4) rfl) ?_ ?_
        (iff_true_intro hfw)
      · exact iff_false_intro not_hitsFirst_none
      · exact iff_false_intro not_hitsFirst_none
  | 3 :: rest =>
      refine ScalarList.hits_answer (S := fwStatus) (split_at (k := 5) rfl) hpoe ?_ ?_
      · rintro o ho ⟨s, -, rfl⟩
        rw [Table.first] at ho
        split at ho <;> cases ho
      · rintro tail rfl
        exact hitsFirst_fwOnward tail
  | 4 :: rest =>
      exact (hits_below (u := [3, 2, 2, 4]) 6 (by decide) (by decide)).trans hpoe
  | 5 :: rest =>
      rw [statusAnswer, ReachedStatus]
      refine Table.hits_answer (T := poeStatus) (split_at (k := 6) rfl) ?_ ?_ herrors
      · exact iff_false_intro not_hitsFirst_none
      · exact herrors
  | [6] => exact (hits_at (q := [3, 2, 2, 6]) 7 (by decide) (by decide)).trans herrors
  | 6 :: 0 :: rest => exact iff_of_false not_hits_none id
  | 6 :: 1 :: rest =>
      rw [statusAnswer, ReachedStatus]
      refine Table.hits_answer (T := autoRestartErrors) (split_at (k := 7) rfl) ?_ ?_
        (iff_true_intro hsfp)
      · exact iff_true_intro hsfp
      · exact iff_true_intro hsfp
  | 6 :: (a + 2) :: rest =>
      refine iff_of_true ((hits_below (u := [3, 2, 2, 6, a + 2]) 8 ?_ ?_).mpr hsfp) trivial
      · simp [places, precedes, Place.path, autoRestart, portPoe, outStatePSW, upsStatus,
          inputStatus, fwStatus, poeStatus, autoRestartErrors]
      · simp [places, precedes, Place.path, sfpStatus, sensorEntry]
  | 7 :: rest =>
      rw [statusAnswer, ReachedStatus]
      refine Table.hits_answer (T := sfpStatus) (split_at (k := 8) rfl) ?_ ?_
        (iff_true_intro hsensors)
      · exact iff_false_intro not_hitsFirst_none
      · exact iff_false_intro not_hitsFirst_none
  | 8 :: rest =>
      refine ScalarList.hits_answer (S := sensorEntry) (split_at (k := 9) rfl) (hend _) ?_
        fun _ _ => hend _
      rintro o ⟨⟩
  | (a + 9) :: rest => exact iff_of_false not_hits_blank id

/-- **GET_NEXT prints the next instance** for these requests and no others. -/
theorem hits_iff (q : Oid) : Hits B q (tfRunSnmp B .getNext q) ↔ Reached B q := by
  have hfirst : HitsFirst B (places.drop 0) (autoRestart.first B) ↔ 1 ≤ autoRestart.rows B :=
    hitsFirst_drop_table rfl
  -- past the switch there is no instance
  have hpast : ∀ rest, ¬ Hits B (4 :: rest) (autoRestart.first B) := by
    intro rest h
    obtain ⟨o, -, hfirst⟩ := (hits_below (u := [4]) 10 (by decide) (by decide)).mp h
    exact not_first_nil hfirst
  rw [tfRunSnmp_getNext]
  match q with
  | [] => exact (hits_at 0 (by decide) (by decide)).trans hfirst
  | 0 :: rest => exact iff_of_false not_hits_none id
  | 1 :: rest => exact (hits_below (u := [1]) 0 (by decide) (by decide)).trans hfirst
  | 2 :: rest => exact (hits_below (u := [2]) 0 (by decide) (by decide)).trans hfirst
  | [3] => exact (hits_at 0 (by decide) (by decide)).trans hfirst
  | 3 :: 0 :: rest => exact iff_of_false not_hits_none id
  | 3 :: 1 :: rest => exact (hits_below (u := [3, 1]) 0 (by decide) (by decide)).trans hfirst
  | [3, 2] => exact (hits_at 0 (by decide) (by decide)).trans hfirst
  | 3 :: 2 :: 0 :: rest => exact iff_of_false not_hits_none id
  | 3 :: 2 :: 1 :: rest => exact hits_config
  | 3 :: 2 :: 2 :: rest => exact hits_status
  | [3, 2, a + 3] => exact iff_of_false not_hits_blank id
  | 3 :: 2 :: (a + 3) :: b :: rest => exact iff_of_false not_hits_none id
  | 3 :: (a + 3) :: rest => exact iff_of_false not_hits_none id
  | 4 :: rest => exact iff_of_false (hpast rest) id
  | (a + 5) :: rest => exact iff_of_false not_hits_none id

/-! ## Walks from the root -/

/-- The OID that GET_NEXT prints. -/
def answered (B : Backend) (q : Oid) : Option Oid := (tfRunSnmp B .getNext q).bind Reply.oid

/-- The walk from the root ends, and goes upwards through the OIDs of `S`, among them all
instances. -/
def WalksThrough (B : Backend) (S : Set Oid) : Prop :=
  Visits (answered B) [] S ∧ instanceSet B ⊆ S

/-- The tables of the ports have rows. -/
def HasRows (B : Backend) : Prop :=
  1 ≤ autoRestart.rows B ∧ 1 ≤ portPoe.rows B ∧ 1 ≤ poeStatus.rows B ∧
    1 ≤ autoRestartErrors.rows B

/-- The last instance of the tree. -/
def lastOid : Oid := [3, 2, 2, 8, 7, 0]

/-- The OID that is printed after it. -/
def pastOid : Oid := [3, 2, 2, 9]

theorem lastOid_mem : lastOid ∈ instances B :=
  mem_instances.mpr ⟨.scalars sensorEntry, by simp [places], 7, ⟨by decide, by decide⟩, rfl⟩

theorem le_lastOid (ho : o ∈ instances B) : o ≤ lastOid := by
  have hbefore : ∀ p ∈ places.take 9, precedes p.path lastOid = true := by decide
  obtain ⟨p, hp, hz⟩ := mem_instances.mp ho
  rw [show places = places.take 9 ++ [.scalars sensorEntry] from rfl] at hp
  rcases List.mem_append.mp hp with hp | hp
  · obtain ⟨l, rfl⟩ := hz.exists_append
    exact (lt_of_precedes (hbefore p hp) l).le
  · rw [List.mem_singleton] at hp
    subst hp
    obtain ⟨s, ⟨-, hs⟩, rfl⟩ := hz
    have hs7 : s ≤ 7 := hs
    show sensorEntry.path ++ [s, 0] ≤ sensorEntry.path ++ [7, 0]
    rw [append_le_append_iff, cons_le_cons_iff]
    rcases Nat.eq_or_lt_of_le hs7 with rfl | hlt
    · exact .inr ⟨rfl, le_refl _⟩
    · exact .inl hlt

theorem lt_pastOid (ho : o ∈ instances B) : o < pastOid := by
  obtain ⟨p, hp, hz⟩ := mem_instances.mp ho
  obtain ⟨l, rfl⟩ := hz.exists_append
  have hbefore : ∀ p ∈ places, precedes p.path pastOid = true := by decide
  exact lt_of_precedes (hbefore p hp) l

theorem nil_lt_instance (ho : o ∈ instances B) : [] < o := by
  obtain ⟨p, hp, hz⟩ := mem_instances.mp ho
  obtain ⟨l, rfl⟩ := hz.exists_append
  have hpath : ∀ p ∈ places, [] < p.path := by decide
  cases l with
  | nil => simpa using hpath p hp
  | cons b l => exact (hpath p hp).trans (lt_append_cons p.path b l)

theorem Table.reaches_cell {T : Table} {c i : Nat} {Next : Prop} (IfEmpty IfEntry : Prop)
    (hc : 1 ≤ c ∧ c ≤ T.columns.length) (hi : 1 ≤ i ∧ i ≤ T.rows B) (hnext : Next) :
    T.Reaches B IfEmpty IfEntry Next [1, 1, c, i] :=
  ⟨⟨rfl, rfl⟩, hc.1, fun _ => by omega, fun _ => .inr hnext, fun _ => hnext⟩

/-- The last cell reaches what comes after the table. -/
theorem Table.Reaches.next {T : Table} {IfEmpty IfEntry Next : Prop}
    (h : T.Reaches B IfEmpty IfEntry Next [1, 1, T.columns.length, T.rows B]) : Next :=
  (h.2.2.2.1 rfl).resolve_left (Nat.lt_irrefl _)

theorem ScalarList.reaches_instance {S : ScalarList} {s : Nat} {Up Onward : Prop}
    (hs : 1 ≤ s ∧ s ≤ S.scalars.length) (honward : s = S.scalars.length → Onward) :
    S.Reaches Up Onward [s, 0] :=
  ⟨hs.1, fun h => absurd h (Nat.not_lt.mpr hs.2), honward⟩

/-- **From every instance but the last one** the next one is reached. -/
theorem reached_instance (h : HasRows B) (ho : o ∈ instances B) (hne : o ≠ lastOid) :
    Reached B o := by
  obtain ⟨-, hpoe, hstatus, herrors⟩ := h
  obtain ⟨p, hp, hz⟩ := mem_instances.mp ho
  simp only [places, List.mem_cons, List.not_mem_nil, or_false] at hp
  rcases hp with rfl | rfl | rfl | rfl | rfl | rfl | rfl | rfl | rfl | rfl
  · obtain ⟨c, i, hc, hi, rfl⟩ := hz
    exact Table.reaches_cell (T := autoRestart) False (1 ≤ portPoe.rows B) hc hi hpoe
  · obtain ⟨c, i, hc, hi, rfl⟩ := hz
    exact Table.reaches_cell (T := portPoe) False True hc hi trivial
  · obtain ⟨s, hs, rfl⟩ := hz
    exact ScalarList.reaches_instance (S := outStatePSW) hs fun _ => trivial
  · obtain ⟨s, hs, rfl⟩ := hz
    exact ScalarList.reaches_instance (S := upsStatus) hs fun _ => trivial
  · obtain ⟨c, i, hc, hi, rfl⟩ := hz
    exact Table.reaches_cell (T := inputStatus) False False hc hi trivial
  · obtain ⟨s, hs, rfl⟩ := hz
    exact ScalarList.reaches_instance (S := fwStatus) hs fun _ => hstatus
  · obtain ⟨c, i, hc, hi, rfl⟩ := hz
    exact Table.reaches_cell (T := poeStatus) False (1 ≤ autoRestartErrors.rows B) hc hi herrors
  · obtain ⟨c, i, hc, hi, rfl⟩ := hz
    exact Table.reaches_cell (T := autoRestartErrors) True True hc hi trivial
  · obtain ⟨c, i, hc, hi, rfl⟩ := hz
    exact Table.reaches_cell (T := sfpStatus) False False hc hi trivial
  · obtain ⟨s, hs, rfl⟩ := hz
    refine ScalarList.reaches_instance (S := sensorEntry) hs fun hlast => hne ?_
    rw [hlast]
    rfl

theorem answered_lastOid : answered B lastOid = some pastOid := by
  rw [answered, tfRunSnmp_of_ne B (by decide)]
  exact stray_oid {} pastOid

theorem answered_pastOid : answered B pastOid = none := by
  rw [answered, tfRunSnmp_of_ne B (by decide)]
  rfl

/-- **With rows in the tables of the ports** the walk from the root comes to every instance, and
prints one more OID. -/
theorem visits_of_hasRows (h : HasRows B) :
    Visits (answered B) [] (insert pastOid (instanceSet B)) := by
  have hset : ((insert pastOid (instances B).toFinset : Finset Oid) : Set Oid) =
      insert pastOid (instanceSet B) := by
    ext o
    simp [instanceSet]
  rw [← hset]
  refine visits_of_next (fun x hx y => ?_) fun y hy => ?_
  · rw [hset]
    -- the next instance is the next OID
    have hnext : Reached B x →
        ∃ o, answered B x = some o ∧ IsNext (insert pastOid (instanceSet B)) x o := by
      intro hreached
      obtain ⟨o, ho, hnext⟩ := (hits_iff x).mpr hreached
      refine ⟨o, ho, isNext_of (.inr hnext.mem) hnext.lt ?_⟩
      rintro z (rfl | hz) hxz
      · exact (lt_pastOid hnext.mem).le
      · exact hnext.le hz hxz
    have hiff : (∃ o, answered B x = some o ∧ IsNext (insert pastOid (instanceSet B)) x o) →
        (answered B x = some y ↔ IsNext (insert pastOid (instanceSet B)) x y) := by
      rintro ⟨o, ho, hnext⟩
      rw [ho, Option.some.injEq]
      exact ⟨fun h => h ▸ hnext, fun h => hnext.unique h⟩
    rcases hx with rfl | hx
    · exact hiff (hnext h.1)
    rcases Finset.mem_insert.mp hx with rfl | hx
    · -- nothing comes after the OID past the last instance
      rw [answered_pastOid]
      refine iff_of_false nofun fun hnext => ?_
      rcases hnext.mem with rfl | hmem
      · exact lt_irrefl _ hnext.lt
      · exact lt_asymm hnext.lt (lt_pastOid hmem)
    have hmem : x ∈ instances B := List.mem_toFinset.mp hx
    by_cases hlast : x = lastOid
    · subst hlast
      refine hiff ⟨_, answered_lastOid, isNext_of (.inl rfl) (lt_pastOid hmem) ?_⟩
      rintro z (rfl | hz) hxz
      · exact le_refl _
      · exact absurd hxz (le_lastOid hz).not_gt
    · exact hiff (hnext (reached_instance h hmem hlast))
  · rcases Finset.mem_insert.mp hy with rfl | hy
    · exact List.nil_lt_cons _ _
    · exact nil_lt_instance (List.mem_toFinset.mp hy)

/-- What GET_NEXT prints is an instance or is followed by nothing. -/
theorem answered_mem {x y : Oid} (h : answered B x = some y) :
    y ≠ [] ∧ (y ∈ instances B ∨ answered B y = none) := by
  obtain ⟨r, hr, ho⟩ := Option.bind_eq_some_iff.mp h
  have hprint := printing_getNextAnswer (B := B) (if x = [] then [getFirstOidIndex] else x)
  rw [← tfRunSnmp_getNext, hr] at hprint
  obtain ⟨hne, ⟨hmem, -⟩ | hblank⟩ := printed_next hprint ho
  · exact ⟨hne, .inl hmem⟩
  · refine ⟨hne, .inr ?_⟩
    rw [answered, tfRunSnmp_of_ne B hne, hblank]
    rfl

/-- **A walk that comes to every instance** was given the next one each time. -/
theorem WalksThrough.reached {S : Set Oid} {x z : Oid} (h : WalksThrough B S)
    (hx : x = [] ∨ x ∈ instances B) (hz : z ∈ instances B) (hxz : x < z) : Reached B x := by
  obtain ⟨hvisits, hS⟩ := h
  have hstart : ∀ y ∈ S, [] < y := by
    intro y hy
    obtain ⟨x, hx⟩ := hvisits.exists_of_mem hy
    obtain ⟨b, l, rfl⟩ := List.exists_cons_of_ne_nil (answered_mem hx).1
    exact List.nil_lt_cons b l
  have hnext : ∀ {x y}, x = [] ∨ x ∈ S → IsNext S x y → answered B x = some y :=
    fun hx hy => hvisits.next_eq hstart hx hy
  obtain ⟨y, hy⟩ := hvisits.exists_isNext (hS hz) hxz
  have hxS : x = [] ∨ x ∈ S := hx.imp_right fun h => hS h
  have hanswer := hnext hxS hy
  -- a walk does not end before `z`
  have hmem : y ∈ instances B := by
    rcases (answered_mem hanswer).2 with hmem | hnone
    · exact hmem
    · rcases (hy.le (hS hz) hxz).eq_or_lt with rfl | hyz
      · exact hz
      · obtain ⟨w, hw⟩ := hvisits.exists_isNext (hS hz) hyz
        rw [hnext (.inr hy.mem) hw] at hnone
        cases hnone
  exact (hits_iff x).mp ⟨y, hanswer, isNext_of hmem hy.lt fun w hw hxw => hy.le (hS hw) hxw⟩

/-- From the instances before the tables of the ports their rows are reached. -/
theorem WalksThrough.hasRows {S : Set Oid} (h : WalksThrough B S) : HasRows B := by
  have hreached : ∀ {x}, x = [] ∨ x ∈ instances B → x < lastOid → Reached B x :=
    fun hx hlt => h.reached hx lastOid_mem hlt
  have hconfig : 1 ≤ autoRestart.rows B := hreached (.inl rfl) (List.nil_lt_cons _ _)
  -- the last cell of a table with rows is an instance
  have hcell : ∀ T : Table, .table T ∈ places → 1 ≤ T.rows B →
      T.cellOid T.columns.length (T.rows B) ∈ instances B := fun T hT hrows =>
    mem_instances.mpr ⟨_, hT, _, _, ⟨T.columns_pos, Nat.le_refl _⟩, ⟨hrows, Nat.le_refl _⟩, rfl⟩
  have hpoe : 1 ≤ portPoe.rows B := by
    have hbefore : Before autoRestart.path [3, 2, 2, 8] := before_of_precedes (by decide)
    have hlast : autoRestart.Reaches B False (1 ≤ portPoe.rows B) (1 ≤ portPoe.rows B)
        [1, 1, autoRestart.columns.length, autoRestart.rows B] :=
      hreached (.inr (hcell autoRestart (by simp [places]) hconfig)) (hbefore _ _)
    exact hlast.next
  have hstatus : 1 ≤ poeStatus.rows B := by
    have hfw : [3, 2, 2, 3, 1, 0] ∈ instances B :=
      mem_instances.mpr ⟨.scalars fwStatus, by simp [places], 1, ⟨by decide, by decide⟩, rfl⟩
    have h : fwStatus.Reaches (1 ≤ poeStatus.rows B) (1 ≤ poeStatus.rows B) [1, 0] :=
      hreached (.inr hfw) (by decide)
    exact h.2.2 rfl
  have herrors : 1 ≤ autoRestartErrors.rows B := by
    have hbefore : Before poeStatus.path [3, 2, 2, 8] := before_of_precedes (by decide)
    have hlast : poeStatus.Reaches B False (1 ≤ autoRestartErrors.rows B)
        (1 ≤ autoRestartErrors.rows B) [1, 1, poeStatus.columns.length, poeStatus.rows B] :=
      hreached (.inr (hcell poeStatus (by simp [places]) hstatus)) (hbefore _ _)
    exact hlast.next
  exact ⟨hconfig, hpoe, hstatus, herrors⟩

/-- **GET_NEXT prints the next instance** exactly for the requests of `Reached`, and the walk from
the root goes upwards through all instances exactly when the tables of the ports have rows; it then
prints one OID more, and ends. -/
theorem completeWalk_iff (B : Backend) :
    (∀ q, Hits B q (tfRunSnmp B .getNext q) ↔ Reached B q) ∧
    ((∃ S, WalksThrough B S) ↔ HasRows B) ∧
    ∀ S, WalksThrough B S → S = insert pastOid (instanceSet B) := by
  refine ⟨hits_iff, ⟨fun ⟨S, h⟩ => h.hasRows, fun h => ?_⟩, fun S h => ?_⟩
  · exact ⟨_, visits_of_hasRows h, Set.subset_insert _ _⟩
  · exact h.1.unique (visits_of_hasRows h.hasRows)

/-- With ten ports everywhere the column index 0 is answered with nothing, and without PoE ports
in the configuration the walk ends at the last cell of the first table. -/
theorem columnZero_unanswered :
    let full : Backend := ⟨10, 10, 8, 8, fun _ _ => some "0"⟩
    let noPoe : Backend := ⟨10, 2, 8, 8, fun _ _ => some "0"⟩
    ([3, 2, 1, 2, 1, 1, 1, 1] ∈ instances full ∧
      ([3, 2, 1, 2, 1, 1, 0] : Oid) < [3, 2, 1, 2, 1, 1, 1, 1] ∧
      tfRunSnmp full .getNext [3, 2, 1, 2, 1, 1, 0] = none) ∧
    ([3, 2, 1, 4, 1, 0] ∈ instances noPoe ∧
      tfRunSnmp noPoe .getNext [3, 2, 1, 2, 1, 1, 9, 8] = none) := by
  decide +kernel

end Snmp
