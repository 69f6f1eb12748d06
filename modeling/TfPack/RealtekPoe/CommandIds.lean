import TfPack.RealtekPoe.Frame

set_option autoImplicit false

/-! # Command ids in both dialects: `close_map`

`close_map` enters the inverse of each entry into the table it reads the entries from. What it
reads of an inverse it has entered itself leads back to the entry (`closed_closeMap`). The table
says `0` where there is no entry, so the inverse of the entry of the id `0` is none: an id comes
back from the other dialect exactly when that entry is empty (`translates_iff`).
-/

namespace RealtekPoe

/-! ## Tables -/

/-- A table from the Broadcom to the Realtek dialect; `0` is no entry. -/
abbrev IdMap := UInt8 → UInt8

/-- `bcm_to_rtl_cmd_id`, with any table. -/
def IdMap.cmdId (map : IdMap) (id : UInt8) : UInt8 := if map id = 0 then id else map id

theorem bcmToRtlCmdId_cmdId (id : UInt8) : bcmToRtlCmdId id = IdMap.cmdId closedMap id := rfl

/-- What is assumed above `close_map`: the dialects share no id, and no two ids have the same. -/
structure IdMap.Apart (map : IdMap) : Prop where
  disjoint : ∀ i j, map i ≠ 0 → map j ≠ 0 → map i ≠ j
  injective : ∀ i j, map i ≠ 0 → map i = map j → i = j

/-- The id stands in no entry. -/
def IdMap.Free (map : IdMap) (x : UInt8) : Prop := map x = 0 ∧ ∀ i, map i ≠ 0 → map i ≠ x

/-- **The closed table translates there and back**, and leaves what it does not know. -/
structure IdMap.Translates (map : IdMap) : Prop where
  back : ∀ x, IdMap.cmdId (closeMap map) (IdMap.cmdId (closeMap map) x) = x
  free : ∀ x, map.Free x → IdMap.cmdId (closeMap map) x = x

/-! ## The loop -/

/-- A table of which the entries below `n` are closed: the entries are there, and the inverses. -/
structure Closed (map : IdMap) (n : Nat) (m : IdMap) : Prop where
  entry : ∀ x, map x ≠ 0 → m x = map x
  inverse : ∀ i, i.toNat < n → map i ≠ 0 → m (map i) = i
  free : ∀ x, map x = 0 → (∀ i, i.toNat < n → map i ≠ 0 → map i ≠ x) → m x = 0

variable {map m : IdMap} {n : Nat}

theorem Closed.start (map : IdMap) : Closed map 0 map where
  entry _ _ := rfl
  inverse _ hi := absurd hi (Nat.not_lt_zero _)
  free _ hx _ := hx

/-- What is below the next number is below this one, or this one. -/
theorem toNat_lt_succ {i : UInt8} (h : i.toNat < n + 1) : i.toNat < n ∨ i = UInt8.ofNat n := by
  obtain hlt | heq := Nat.lt_succ_iff_lt_or_eq.mp h
  · exact .inl hlt
  · exact .inr (by rw [← heq, UInt8.ofNat_toNat])

/-- An entry is written where its inverse belongs. -/
theorem Closed.write (hap : map.Apart) (h : Closed map n m)
    (hcmd : map (UInt8.ofNat n) ≠ 0) :
    Closed map (n + 1) (Function.update m (map (UInt8.ofNat n)) (UInt8.ofNat n)) where
  entry x hx := by
    rw [Function.update_of_ne (hap.disjoint _ x hcmd hx).symm]
    exact h.entry x hx
  inverse i hi hne := by
    by_cases heq : i = UInt8.ofNat n
    · rw [heq, Function.update_self]
    · have hlt : i.toNat < n := (toNat_lt_succ hi).resolve_right heq
      have hother : map i ≠ map (UInt8.ofNat n) := fun hmap => heq (hap.injective i _ hne hmap)
      rw [Function.update_of_ne hother]
      exact h.inverse i hlt hne
  free x hx hnone := by
    have hself : (UInt8.ofNat n).toNat < n + 1 :=
      Nat.lt_succ_of_le ((UInt8.toNat_ofNat' (n := n)).trans_le (Nat.mod_le n _))
    rw [Function.update_of_ne (hnone _ hself hcmd).symm]
    exact h.free x hx (fun i hi => hnone i (Nat.lt_succ_of_lt hi))

/-- Without an entry of its own a number adds nothing to what is closed. -/
theorem Closed.skip (hcmd : map (UInt8.ofNat n) = 0) (h : Closed map n m) :
    Closed map (n + 1) m where
  entry := h.entry
  inverse i hi hne := by
    refine h.inverse i ((toNat_lt_succ hi).resolve_right ?_) hne
    rintro rfl
    exact hne hcmd
  free x hx hnone := h.free x hx (fun i hi => hnone i (Nat.lt_succ_of_lt hi))

/-- An inverse that is read leads back to its entry, which is written again as it is. -/
theorem Closed.rewrite (h : Closed map n m) (hcmd : map (UInt8.ofNat n) = 0)
    (hread : m (UInt8.ofNat n) ≠ 0) :
    Function.update m (m (UInt8.ofNat n)) (UInt8.ofNat n) = m := by
  have hsome : ∃ i, i.toNat < n ∧ map i ≠ 0 ∧ map i = UInt8.ofNat n := by
    by_contra hnone
    exact hread (h.free _ hcmd (fun i hi hne hmap => hnone ⟨i, hi, hne, hmap⟩))
  obtain ⟨i, hi, hne, hmap⟩ := hsome
  have hback : m (UInt8.ofNat n) = i := by rw [← hmap, h.inverse i hi hne]
  rw [hback, ← hmap, ← h.entry i hne, Function.update_eq_self]

/-- One round of the loop. -/
theorem Closed.closeEntry (hap : map.Apart) (h : Closed map n m) :
    Closed map (n + 1) (closeEntry m n) := by
  by_cases hcmd : map (UInt8.ofNat n) = 0
  · by_cases hread : m (UInt8.ofNat n) = 0
    · rw [RealtekPoe.closeEntry, if_pos hread]
      exact h.skip hcmd
    · rw [RealtekPoe.closeEntry, if_neg hread, h.rewrite hcmd hread]
      exact h.skip hcmd
  · have hread : m (UInt8.ofNat n) = map (UInt8.ofNat n) := h.entry _ hcmd
    rw [RealtekPoe.closeEntry, hread, if_neg hcmd]
    exact h.write hap hcmd

/-- **All entries are closed in the end.** -/
theorem closed_closeMap (hap : map.Apart) : Closed map 0x100 (closeMap map) := by
  have hloop : ∀ n, Closed map n ((List.range n).foldl RealtekPoe.closeEntry map) := by
    intro n
    induction n with
    | zero => exact Closed.start map
    | succ n ih =>
        rw [List.range_succ, List.foldl_append]
        exact ih.closeEntry hap
  exact hloop 0x100

/-! ## Translations -/

section Translations

variable {x i : UInt8}

theorem closeMap_entry (hap : map.Apart) (hx : map x ≠ 0) : closeMap map x = map x :=
  (closed_closeMap hap).entry x hx

theorem closeMap_inverse (hap : map.Apart) (hi : map i ≠ 0) : closeMap map (map i) = i :=
  (closed_closeMap hap).inverse i i.toNat_lt hi

theorem closeMap_free (hap : map.Apart) (hx : map.Free x) : closeMap map x = 0 :=
  (closed_closeMap hap).free x hx.1 (fun i _ hi => hx.2 i hi)

theorem cmdId_of_ne {id : UInt8} (h : m id ≠ 0) : IdMap.cmdId m id = m id := if_neg h

theorem cmdId_of_eq {id : UInt8} (h : m id = 0) : IdMap.cmdId m id = id := if_pos h

/-- What stands in no entry is left as it is. -/
theorem cmdId_free (hap : map.Apart) (hx : map.Free x) : IdMap.cmdId (closeMap map) x = x :=
  cmdId_of_eq (closeMap_free hap hx)

theorem cmdId_entry (hap : map.Apart) (hx : map x ≠ 0) :
    IdMap.cmdId (closeMap map) x = map x := by
  have hentry : closeMap map x = map x := closeMap_entry hap hx
  rw [cmdId_of_ne (hentry ▸ hx), hentry]

/-- An id of the other dialect is translated back, except to `0`. -/
theorem cmdId_inverse (hap : map.Apart) (hi : map i ≠ 0) :
    IdMap.cmdId (closeMap map) (map i) = if i = 0 then map i else i := by
  rw [IdMap.cmdId, closeMap_inverse hap hi]

/-- An id has an entry, is the translation of one, or stands in no entry. -/
theorem entry_or_inverse_or_free (map : IdMap) (x : UInt8) :
    map x ≠ 0 ∨ (∃ i, map i ≠ 0 ∧ map i = x) ∨ map.Free x := by
  by_cases hx : map x = 0
  · by_cases hsome : ∃ i, map i ≠ 0 ∧ map i = x
    · exact .inr (.inl hsome)
    · exact .inr (.inr ⟨hx, fun i hi hmap => hsome ⟨i, hi, hmap⟩⟩)
  · exact .inl hx

/-- There and back, when `0` has no entry. -/
theorem cmdId_cmdId (hap : map.Apart) (hzero : map 0 = 0) (x : UInt8) :
    IdMap.cmdId (closeMap map) (IdMap.cmdId (closeMap map) x) = x := by
  have hnonzero : ∀ {i}, map i ≠ 0 → i ≠ 0 := by
    rintro i hi rfl
    exact hi hzero
  obtain hx | ⟨i, hi, rfl⟩ | hfree := entry_or_inverse_or_free map x
  · rw [cmdId_entry hap hx, cmdId_inverse hap hx, if_neg (hnonzero hx)]
  · rw [cmdId_inverse hap hi, if_neg (hnonzero hi), cmdId_entry hap hi]
  · rw [cmdId_free hap hfree, cmdId_free hap hfree]

end Translations

/-- The translation of `0` is taken for one of its own. -/
theorem zero_of_translates (hap : map.Apart) (h : map.Translates) : map 0 = 0 := by
  by_contra hzero
  have hback := h.back 0
  rw [cmdId_entry hap hzero, cmdId_inverse hap hzero, if_pos rfl] at hback
  exact hzero hback

/-- **A closed table translates there and back exactly when `0` has no entry.** -/
theorem translates_iff (hap : map.Apart) : map.Translates ↔ map 0 = 0 := by
  constructor
  · exact zero_of_translates hap
  · intro hzero
    exact ⟨cmdId_cmdId hap hzero, fun x hfree => cmdId_free hap hfree⟩

/-! ## Tables with one entry -/

/-- The table with one entry. -/
def oneEntry (bcm rtl : UInt8) : IdMap := Function.update (fun _ => 0) bcm rtl

section OneEntry

variable {bcm rtl i : UInt8}

theorem oneEntry_self : oneEntry bcm rtl bcm = rtl := Function.update_self _ _ _

theorem oneEntry_of_ne (h : i ≠ bcm) : oneEntry bcm rtl i = 0 := Function.update_of_ne h _ _

theorem eq_of_oneEntry (h : oneEntry bcm rtl i ≠ 0) : i = bcm := by
  by_contra hne
  exact h (oneEntry_of_ne hne)

theorem apart_oneEntry (hne : rtl ≠ bcm) : (oneEntry bcm rtl).Apart where
  disjoint i j hi hj := by
    rw [eq_of_oneEntry hi, eq_of_oneEntry hj, oneEntry_self]
    exact hne
  injective i j hi heq := by
    have hj : oneEntry bcm rtl j ≠ 0 := heq ▸ hi
    rw [eq_of_oneEntry hi, eq_of_oneEntry hj]

end OneEntry

/-- `Set port detection type`, an entry of the table that is commented out. -/
theorem detectionType_translates : (oneEntry 0x10 0x09).Translates :=
  (translates_iff (apart_oneEntry (by decide))).mpr (oneEntry_of_ne (by decide))

/-- **`Set port enable` does not come back**: the id `0` becomes `1`, and `1` stays `1`. -/
theorem portEnable_not_translates : ¬ ∀ map : IdMap, map.Apart → map.Translates := by
  intro h
  have hap : (oneEntry 0x00 0x01).Apart := apart_oneEntry (by decide)
  have hzero := zero_of_translates hap (h _ hap)
  rw [oneEntry_self] at hzero
  exact absurd hzero (by decide)

end RealtekPoe
