import Mathlib.Logic.Relation
import TfPack.Hwsys.TlvDump

set_option autoImplicit false

/-! # The hardware daemon: dumps that are not well formed

`i2c_parse_tlv` takes the length of a dump from the microcontroller, the length of a record from
the dump, and the entry from a lookup that need not find one; it compares none of them with what
there is. Only an address above `MAX_SENSORS` is refused. `tlvSafe_iff` says for which lengths and
bytes the loop stays within the dump and the raw data all the same: those that are whole records
of known registers, up to the end or to an address it refuses.
-/

namespace Hwsys

open BoundedLoop

section Safe

variable (raw : RawData) (len : UInt16)

/-- The loop comes from one state to another. -/
def TlvReaches : TlvState → TlvState → Prop :=
  Relation.ReflTransGen (fun s s' => tlvBody raw len s = .inl s')

/-- The record the loop stands at is of no register of the table, or runs past the dump. -/
def BadRecord (s : TlvState) : Prop :=
  s.offset < len ∧
    ((∃ regaddr, rawByte raw s.offset.toNat = some regaddr ∧
        getIdByAddr s.sock_msgArr regaddr.toUInt32 = none) ∨
      len.toNat ≤ s.offset.toNat + 1 ∨
      ∃ n, rawByte raw (s.offset.toNat + 1) = some n ∧ len.toNat < s.offset.toNat + 2 + n.toNat)

/-- What an iteration should do. -/
structure SafeIteration (s : TlvState) : Prop where
  reads : ∀ k ∈ (tlvIteration raw len s).1, k < min len.toNat RAW_LEN
  defined : tlvBody raw len s ≠ .inr none
  writes : ∀ s', tlvBody raw len s = .inl s' →
    ∀ id, ∃ v, s'.sock_msgArr id = { s.sock_msgArr id with value := v }
  rejects : BadRecord raw len s → tlvBody raw len s = .inr (some (s.sock_msgArr, EXIT_FAILURE))

/-- What the parser should do with a dump: come to an end, and never leave its bounds. -/
structure TlvSafe (t : Table) : Prop where
  terminates : ∃ n r, run (tlvBody raw len) n ⟨0, t⟩ = some r
  safe : ∀ s, TlvReaches raw len ⟨0, t⟩ s → SafeIteration raw len s

/-- From an offset on, the dump is records of registers of the table: whole, and as far as the
parser reads them in the raw data, up to the end or to an address above `MAX_SENSORS`. -/
inductive WholeRecords (t : Table) : Nat → Prop
  | done : WholeRecords t len.toNat
  | refused {o : Nat} {regaddr : UInt8} :
      o < len.toNat → rawByte raw o = some regaddr → MAX_SENSORS < regaddr.toNat →
      WholeRecords t o
  | record {o : Nat} {regaddr n : UInt8} {id : Fin MAX_SENSORS} :
      rawByte raw o = some regaddr → regaddr.toNat ≤ MAX_SENSORS →
      getIdByAddr t regaddr.toUInt32 = some id → rawByte raw (o + 1) = some n →
      o + 2 + n.toNat ≤ len.toNat → (n.toNat < VALUE_LEN → o + 2 + n.toNat ≤ RAW_LEN) →
      WholeRecords t (o + 2 + n.toNat) → WholeRecords t o

end Safe

section Iteration

variable {raw : RawData} {len : UInt16} {s : TlvState}

theorem lt_of_rawByte {k : Nat} {b : UInt8} (h : rawByte raw k = some b) : k < RAW_LEN := by
  by_contra hk
  rw [rawByte_eq_none (Nat.le_of_not_lt hk)] at h
  cases h

/-- The loop is left at an address above `MAX_SENSORS`. -/
theorem tlvIteration_refused {regaddr : UInt8} (hlt : s.offset < len)
    (hr : rawByte raw s.offset.toNat = some regaddr) (hmax : MAX_SENSORS < regaddr.toNat) :
    tlvIteration raw len s = ([s.offset.toNat], .inr (some (s.sock_msgArr, EXIT_FAILURE))) := by
  unfold tlvIteration
  simp only [hlt, hr, hmax, if_true]

theorem tlvIteration_done (h : ¬ s.offset < len) :
    tlvIteration raw len s = ([], .inr (some (s.sock_msgArr, EXIT_SUCCESS))) := by
  unfold tlvIteration
  simp only [h, if_false]

/-- The bytes read at the header of a record of a register of the table. -/
theorem reads_header {regaddr n : UInt8} {id : Fin MAX_SENSORS} (hlt : s.offset < len)
    (hr : rawByte raw s.offset.toNat = some regaddr) (hmax : regaddr.toNat ≤ MAX_SENSORS)
    (hid : getIdByAddr s.sock_msgArr regaddr.toUInt32 = some id)
    (hn : rawByte raw (s.offset.toNat + 1) = some n) :
    (tlvIteration raw len s).1 = s.offset.toNat :: (s.offset.toNat + 1) ::
      (if n.toNat < VALUE_LEN then List.range' (s.offset.toNat + 2) n.toNat else []) := by
  unfold tlvIteration
  simp only [hlt, hr, Nat.not_lt.mpr hmax, hid, hn, if_true, if_false]
  by_cases hshort : n.toNat < VALUE_LEN
  · rw [if_pos hshort, if_pos hshort]
    split <;> rfl
  · rw [if_neg hshort, if_neg hshort]

/-- The loop is left with a result at the end, or at an address it refuses. -/
theorem left_at {r : Table × UInt8} (h : tlvBody raw len s = .inr (some r)) :
    ¬ s.offset < len ∨
      ∃ regaddr, rawByte raw s.offset.toNat = some regaddr ∧ MAX_SENSORS < regaddr.toNat := by
  unfold tlvBody tlvIteration at h
  grind

/-- Every iteration reads the byte it stands at. -/
theorem mem_reads (hlt : s.offset < len) : s.offset.toNat ∈ (tlvIteration raw len s).1 := by
  unfold tlvIteration
  grind

/-- The offset does not wrap at a header in the raw data. -/
theorem toNat_offset_add {n : UInt8} (h : s.offset.toNat < RAW_LEN) :
    (s.offset + (n.toUInt16 + 2)).toNat = s.offset.toNat + 2 + n.toNat := by
  have htwo : (2 : UInt16).toNat = 2 := rfl
  have hlt : s.offset.toNat < 1000 := h
  have hbyte := n.toNat_lt
  rw [UInt16.toNat_add, UInt16.toNat_add, UInt8.toNat_toUInt16]
  omega

/-- **An iteration comes closer to the end of the raw data.** -/
theorem offset_lt_of_body {s' : TlvState} (h : tlvBody raw len s = .inl s') :
    s.offset.toNat < RAW_LEN ∧ s.offset.toNat < len.toNat ∧ s.offset.toNat < s'.offset.toNat := by
  obtain ⟨hlt, regaddr, n, id, hr, -, -, -, -, rfl⟩ := tlvBody_eq_inl h
  have ho := lt_of_rawByte hr
  refine ⟨ho, UInt16.lt_iff_toNat_lt.mp hlt, ?_⟩
  rw [toNat_offset_add ho]
  omega

/-- **The loop ends**: an iteration for every byte of the dump and one more are enough. -/
theorem run_tlvBody_isSome (n : Nat) {s : TlvState} (h : len.toNat ≤ s.offset.toNat + n) :
    ∃ r, run (tlvBody raw len) (n + 1) s = some r := by
  -- on the bytes that are left, of which an iteration takes at least one
  induction n generalizing s with
  | zero =>
      have hend : ¬ s.offset < len := by
        rw [UInt16.lt_iff_toNat_lt]
        omega
      exact ⟨_, run_done (congrArg Prod.snd (tlvIteration_done hend)) 0⟩
  | succ n ih =>
      cases hb : tlvBody raw len s with
      | inl s' =>
          obtain ⟨-, -, hmore⟩ := offset_lt_of_body hb
          rw [run_next hb]
          exact ih (by omega)
      | inr r => exact ⟨r, run_done hb _⟩

end Iteration

section Bounds

variable {raw : RawData} {len : UInt16} {t : Table}

/-- A state of the loop whose table finds the registers where `t` does. -/
def SameAddrs (t : Table) (s : TlvState) : Prop := ∀ id, (s.sock_msgArr id).addr = (t id).addr

theorem SameAddrs.next {s s' : TlvState} (h : SameAddrs t s)
    (hb : tlvBody raw len s = .inl s') : SameAddrs t s' := by
  obtain ⟨-, regaddr, n, id, -, -, -, -, -, rfl⟩ := tlvBody_eq_inl hb
  intro j
  dsimp only
  split
  · rw [storeValue, ← h j]
    by_cases hj : j = id
    · subst hj
      rw [Function.update_self]
    · rw [Function.update_of_ne hj]
  · exact h j

/-- An iteration that goes on has changed nothing but a value. -/
theorem values_only {s s' : TlvState} (hb : tlvBody raw len s = .inl s')
    (j : Fin MAX_SENSORS) : ∃ v, s'.sock_msgArr j = { s.sock_msgArr j with value := v } := by
  obtain ⟨-, regaddr, n, id, -, -, -, -, -, rfl⟩ := tlvBody_eq_inl hb
  dsimp only
  split
  · by_cases hj : j = id
    · subst hj
      rw [storeValue, Function.update_self]
      exact ⟨_, rfl⟩
    · rw [storeValue, Function.update_of_ne hj]
      exact ⟨_, rfl⟩
  · exact ⟨_, rfl⟩

/-- The loop is left at the end of the dump, and at an address it refuses, as it should. -/
theorem safe_of_end {s : TlvState} (h : ¬ s.offset < len) : SafeIteration raw len s := by
  have hit : tlvIteration raw len s = ([], .inr (some (s.sock_msgArr, EXIT_SUCCESS))) :=
    tlvIteration_done h
  have hb : tlvBody raw len s = .inr (some (s.sock_msgArr, EXIT_SUCCESS)) := congrArg Prod.snd hit
  refine ⟨fun k hk => ?_, ?_, ?_, fun hbad => absurd hbad.1 h⟩
  · rw [hit] at hk
    cases hk
  · rw [hb]
    exact fun heq => nomatch heq
  · intro s' hs'
    rw [hb] at hs'
    cases hs'

theorem safe_of_refused {s : TlvState} {regaddr : UInt8} (hlt : s.offset < len)
    (hr : rawByte raw s.offset.toNat = some regaddr) (hmax : MAX_SENSORS < regaddr.toNat) :
    SafeIteration raw len s := by
  have hit := tlvIteration_refused hlt hr hmax
  have hb : tlvBody raw len s = .inr (some (s.sock_msgArr, EXIT_FAILURE)) := congrArg Prod.snd hit
  refine ⟨fun k hk => ?_, ?_, ?_, fun _ => hb⟩
  · rw [hit, List.mem_singleton] at hk
    subst hk
    exact lt_min (UInt16.lt_iff_toNat_lt.mp hlt) (lt_of_rawByte hr)
  · rw [hb]
    exact fun heq => nomatch heq
  · intro s' hs'
    rw [hb] at hs'
    cases hs'

/-- **A whole record of a register of the table is read as it should be.** -/
theorem safe_of_record {s : TlvState} {regaddr n : UInt8} {id : Fin MAX_SENSORS}
    (hr : rawByte raw s.offset.toNat = some regaddr) (hmax : regaddr.toNat ≤ MAX_SENSORS)
    (hid : getIdByAddr s.sock_msgArr regaddr.toUInt32 = some id)
    (hn : rawByte raw (s.offset.toNat + 1) = some n)
    (hlen : s.offset.toNat + 2 + n.toNat ≤ len.toNat)
    (hfits : n.toNat < VALUE_LEN → s.offset.toNat + 2 + n.toNat ≤ RAW_LEN) :
    SafeIteration raw len s := by
  have hlt : s.offset < len := by
    rw [UInt16.lt_iff_toNat_lt]
    omega
  have hbody := tlvBody_header hlt hr hmax hid hn
  rw [if_neg (fun h => Nat.not_lt.mpr (hfits h.1) h.2)] at hbody
  refine ⟨fun k hk => lt_min ?_ ?_, ?_, fun s' hs' => values_only hs', ?_⟩
  · rw [reads_header hlt hr hmax hid hn] at hk
    grind
  · -- a record of 32 bytes or more is passed over, and its data not read
    have hraw := lt_of_rawByte hn
    rw [reads_header hlt hr hmax hid hn] at hk
    grind
  · rw [hbody]
    exact fun heq => nomatch heq
  · -- neither of the two faults is there
    rintro ⟨-, ⟨regaddr', hr', hnone⟩ | hcut | ⟨n', hn', hrun⟩⟩
    · rw [hr] at hr'
      cases hr'
      rw [hid] at hnone
      cases hnone
    · omega
    · rw [hn] at hn'
      cases hn'
      omega

/-- **Over whole records every iteration is as it should be**: by induction on them. -/
theorem safe_of_wholeRecords {o : Nat} (h : WholeRecords raw len t o) {s s' : TlvState}
    (ho : s.offset.toNat = o) (haddr : SameAddrs t s) (hreach : TlvReaches raw len s s') :
    SafeIteration raw len s' := by
  -- the loop stands where a record begins, and finds registers as the first table does
  induction h generalizing s with
  | done =>
      have hend : ¬ s.offset < len := by
        rw [UInt16.lt_iff_toNat_lt]
        omega
      rcases hreach.cases_head with rfl | ⟨s₁, hb, -⟩
      · exact safe_of_end hend
      · exact absurd (tlvBody_eq_inl hb).1 hend
  | refused hlt hr hmax =>
      subst ho
      have hlt' := UInt16.lt_iff_toNat_lt.mpr hlt
      rcases hreach.cases_head with rfl | ⟨s₁, hb, -⟩
      · exact safe_of_refused hlt' hr hmax
      · rw [tlvBody, tlvIteration_refused hlt' hr hmax] at hb
        cases hb
  | record hr hmax hid hn hlen hfits _ ih =>
      subst ho
      rw [← getIdByAddr_congr haddr] at hid
      rcases hreach.cases_head with rfl | ⟨s₁, hb, hreach'⟩
      · exact safe_of_record hr hmax hid hn hlen hfits
      · refine ih ?_ (haddr.next hb) hreach'
        have hlt : s.offset < len := by
          rw [UInt16.lt_iff_toNat_lt]
          omega
        rw [tlvBody_header hlt hr hmax hid hn,
          if_neg (fun h => Nat.not_lt.mpr (hfits h.1) h.2), Sum.inl.injEq] at hb
        rw [← hb]
        exact toNat_offset_add (lt_of_rawByte hr)

/-- **A dump over which every iteration is as it should be** is one of whole records: by induction
on the iterations the loop still makes. -/
theorem wholeRecords_of_safe (n : Nat) {s : TlvState} (hn : len.toNat ≤ s.offset.toNat + n)
    (hle : s.offset.toNat ≤ len.toNat) (haddr : SameAddrs t s)
    (hsafe : ∀ s', TlvReaches raw len s s' → SafeIteration raw len s') :
    WholeRecords raw len t s.offset.toNat := by
  -- the byte an iteration reads first is in the raw data, so there is a header to look at
  induction n generalizing s with
  | zero =>
      rw [Nat.le_antisymm hle hn]
      exact .done
  | succ n ih =>
      by_cases hlt : s.offset < len
      · have hs := hsafe s .refl
        have ho := lt_of_lt_of_le (hs.reads _ (mem_reads hlt)) (Nat.min_le_right _ _)
        obtain ⟨regaddr, hr⟩ : ∃ regaddr, rawByte raw s.offset.toNat = some regaddr :=
          ⟨_, dif_pos ho⟩
        by_cases hmax : MAX_SENSORS < regaddr.toNat
        · exact .refused (UInt16.lt_iff_toNat_lt.mp hlt) hr hmax
        · have hmax' := Nat.le_of_not_lt hmax
          cases hb : tlvBody raw len s with
          | inl s₁ =>
              -- an iteration that goes on has refused nothing, so the record is a whole one
              have hbad : ¬ BadRecord raw len s := by
                intro hbad
                rw [hs.rejects hbad] at hb
                cases hb
              obtain ⟨-, regaddr', n', id, hr', -, hn', hid, hfits, rfl⟩ := tlvBody_eq_inl hb
              rw [hr] at hr'
              cases hr'
              have hwhole : s.offset.toNat + 2 + n'.toNat ≤ len.toNat := by
                by_contra hrun
                exact hbad ⟨hlt, .inr (.inr ⟨n', hn', Nat.lt_of_not_le hrun⟩)⟩
              have hrest := ih (s := ⟨s.offset + (n'.toUInt16 + 2), _⟩)
                (by rw [toNat_offset_add ho]; omega) (by rw [toNat_offset_add ho]; exact hwhole)
                (haddr.next hb) (fun s' hs' => hsafe s' (.head hb hs'))
              rw [toNat_offset_add ho] at hrest
              rw [getIdByAddr_congr haddr] at hid
              exact .record hr hmax' hid hn' hwhole hfits hrest
          | inr o =>
              cases o with
              | none => exact absurd hb hs.defined
              | some r =>
                  rcases left_at hb with hend | ⟨regaddr', hr', hmax''⟩
                  · exact absurd hlt hend
                  · rw [hr] at hr'
                    cases hr'
                    exact absurd hmax'' hmax
      · rw [UInt16.lt_iff_toNat_lt] at hlt
        rw [Nat.le_antisymm hle (Nat.le_of_not_lt hlt)]
        exact .done

/-- **When the parser stays within the dump and the raw data, and refuses what it should.** -/
theorem tlvSafe_iff : TlvSafe raw len t ↔ WholeRecords raw len t 0 := by
  constructor
  · intro h
    exact wholeRecords_of_safe len.toNat (s := ⟨0, t⟩) (Nat.le_add_left _ _) (Nat.zero_le _)
      (fun _ => rfl) h.safe
  · intro h
    refine ⟨⟨_, run_tlvBody_isSome len.toNat (s := ⟨0, t⟩) (Nat.le_add_left _ _)⟩, fun s hs => ?_⟩
    exact safe_of_wholeRecords h (s := ⟨0, t⟩) rfl (fun _ => rfl) hs

/-- A dump of one byte: the parser reads the length of the record behind it. -/
theorem short_dump_overread : ¬∀ (raw : RawData) (len : UInt16) (t : Table), TlvSafe raw len t := by
  intro h
  have hsafe := (h (rawOf [4]) 1 (sockMsgArr fun _ => 0)).safe _ .refl
  exact absurd (hsafe.reads 1 (by decide +kernel)) (by decide)

end Bounds

end Hwsys
