import TfPack.Hwsys.Daemon

set_option autoImplicit false

/-! # The hardware daemon: the registers after a dump

The microcontroller answers with its registers one after the other, each as a record of address,
length and data (`i2c_tlv`); `i2c_parse_tlv` takes the data into the table. It stores a record
only when `len < sizeof(value)`, so that the registers of exactly 32 bytes are passed over, and a
record that is shorter than an earlier one of its register leaves the end of that one behind.
`refreshed` is the table a dump describes, and `parse_refreshed_iff` says for which dumps the
parser ends with it.
-/

namespace Hwsys

open BoundedLoop

/-! ## Records -/

/-- `i2c_tlv`, with the data that goes with it: no more than a value holds. -/
structure TlvRecord where
  regaddr : UInt8
  data : Bytes
  data_le : data.length ≤ VALUE_LEN

namespace TlvRecord

variable (r : TlvRecord)

def bytes : Bytes := r.regaddr :: UInt8.ofNat r.data.length :: r.data

def byte (i : Nat) : UInt8 := r.data.getD i 0

/-- The address is one of the registers of a table. -/
def Known (t : Table) : Prop :=
  r.regaddr.toNat ≤ MAX_SENSORS ∧ ∃ id, getIdByAddr t r.regaddr.toUInt32 = some id

/-- The record is of the register of an entry. -/
def names (t : Table) (id : Fin MAX_SENSORS) : Bool :=
  getIdByAddr t r.regaddr.toUInt32 == some id

/-- The guard `tlv->len < sizeof(sock_msgArr[id].value)`. -/
def taken : Bool := decide (r.data.length < VALUE_LEN)

/-- The record is of the register of an entry, and is stored over a byte of its value. -/
def stores (t : Table) (id : Fin MAX_SENSORS) (i : Fin VALUE_LEN) : Bool :=
  r.names t id && r.taken && decide ((i : Nat) < r.data.length)

/-- How much of the record the parser reads. -/
def readLen : Nat := if r.taken then r.data.length + 2 else 2

theorem length_bytes : r.bytes.length = r.data.length + 2 := rfl

theorem toNat_length : (UInt8.ofNat r.data.length).toNat = r.data.length := by
  have hle : r.data.length ≤ 32 := r.data_le
  rw [UInt8.toNat_ofNat']
  omega

end TlvRecord

/-- The bytes of a dump. -/
def dump (rs : List TlvRecord) : Bytes := rs.flatMap TlvRecord.bytes

theorem dump_cons (r : TlvRecord) (rs : List TlvRecord) :
    dump (r :: rs) = r.bytes ++ dump rs := rfl

theorem length_le_dump (rs : List TlvRecord) : rs.length ≤ (dump rs).length := by
  induction rs with
  | nil => exact Nat.zero_le _
  | cons r rs ih =>
      rw [dump_cons, List.length_append, r.length_bytes, List.length_cons]
      omega

/-- The raw data holds the bytes `bs` from `o` on, as far as it reaches. -/
def InBuffer (raw : RawData) (o : Nat) (bs : Bytes) : Prop :=
  ∀ k, k < bs.length → o + k < RAW_LEN → rawByte raw (o + k) = bs[k]?

/-- What the parser reads of the records is in the raw data. -/
def Fits : Nat → List TlvRecord → Prop
  | _, [] => True
  | o, r :: rs => o + r.readLen ≤ RAW_LEN ∧ Fits (o + r.bytes.length) rs

/-! ## The table a dump describes and the one the parser leaves -/

/-- The table a dump describes: its register's value begins with the data of the last record. -/
def refreshed (t : Table) (rs : List TlvRecord) : Table := fun id =>
  { t id with
    value := fun i => (rs.findRev? (fun r => r.names t id)).elim ((t id).value i)
      (fun r => if (i : Nat) < r.data.length then r.byte i else (t id).value i) }

/-- The table after a record. -/
def storeRecord (t : Table) (r : TlvRecord) : Table := fun id =>
  { t id with
    value := fun i => if r.stores t id i then r.byte i else (t id).value i }

/-- The parser's bytes of the entries that a dump names are those of the last records. -/
structure LastKept (t : Table) (rs : List TlvRecord) : Prop where
  /-- A last record of 32 bytes repeats what the shorter ones, or else the entry, say. -/
  whole : ∀ id r, rs.findRev? (fun r => r.names t id) = some r → r.taken = false →
    ∀ i : Fin VALUE_LEN, (rs.findRev? (fun r => r.stores t id i)).elim ((t id).value i)
      (fun r' => r'.byte i) = r.byte i
  /-- Behind the last record the stored ones repeat what the entry says. -/
  behind : ∀ id r, rs.findRev? (fun r => r.names t id) = some r → ∀ i : Fin VALUE_LEN,
    r.data.length ≤ i → ∀ r', rs.findRev? (fun r => r.stores t id i) = some r' →
      r'.byte i = (t id).value i

section Stored

variable (t : Table)

theorem storeRecord_addr (r : TlvRecord) (id : Fin MAX_SENSORS) :
    (storeRecord t r id).addr = (t id).addr := rfl

theorem names_storeRecord (r r' : TlvRecord) (id : Fin MAX_SENSORS) :
    r'.names (storeRecord t r) id = r'.names t id := by
  rw [TlvRecord.names, TlvRecord.names, getIdByAddr_congr (storeRecord_addr t r)]

theorem Known_storeRecord {r r' : TlvRecord} (h : r'.Known t) : r'.Known (storeRecord t r) := by
  rw [TlvRecord.Known, getIdByAddr_congr (storeRecord_addr t r)]
  exact h

/-- **What the records leave**: each byte is that of the last record stored over it. -/
theorem foldl_storeRecord (rs : List TlvRecord) (id : Fin MAX_SENSORS) :
    rs.foldl storeRecord t id = { t id with
      value := fun i =>
        (rs.findRev? (fun r => r.stores t id i)).elim ((t id).value i) (fun r => r.byte i) } := by
  induction rs generalizing t with
  | nil => rfl
  | cons r rs ih =>
      have hstores : ∀ i, (fun r' : TlvRecord => r'.stores (storeRecord t r) id i) =
          fun r' => r'.stores t id i := by
        intro i
        funext r'
        rw [TlvRecord.stores, TlvRecord.stores, names_storeRecord]
      rw [List.foldl_cons, ih (storeRecord t r)]
      simp only [hstores, List.findRev?]
      simp only [storeRecord]
      congr 1
      funext i
      cases rs.findRev? (fun r => r.stores t id i) with
      | some r' => rfl
      | none =>
          simp only [Option.elim_none]
          split <;> rfl

end Stored

/-- A last record with `q` that has `p` too is the last one with `p`, when `p` implies `q`. -/
theorem findRev?_of_imp {α : Type} {p q : α → Bool} (hpq : ∀ x, p x → q x) {x : α} (hx : p x)
    {xs : List α} (h : xs.findRev? q = some x) : xs.findRev? p = some x := by
  rw [List.findRev?_eq_find?_reverse, List.find?_eq_some_iff_append] at h ⊢
  obtain ⟨-, as, bs, hxs, has⟩ := h
  refine ⟨hx, as, bs, hxs, fun a ha => ?_⟩
  have hq := has a ha
  cases hp : p a with
  | false => rfl
  | true => simp [hpq a hp] at hq

theorem findRev?_eq_none {α : Type} {p q : α → Bool} (hpq : ∀ x, p x → q x) {xs : List α}
    (h : xs.findRev? q = none) : xs.findRev? p = none := by
  rw [List.findRev?_eq_find?_reverse, List.find?_eq_none] at h ⊢
  exact fun x hx hp => h x hx (hpq x hp)

theorem findRev?_some {α : Type} {p : α → Bool} {xs : List α} {x : α}
    (h : xs.findRev? p = some x) : p x := by
  rw [List.findRev?_eq_find?_reverse] at h
  exact List.find?_some h

section LastKept

variable {t : Table} {rs : List TlvRecord}

theorem names_of_stores {id : Fin MAX_SENSORS} {i : Fin VALUE_LEN} (r : TlvRecord)
    (h : r.stores t id i) : r.names t id := by
  simp only [TlvRecord.stores, Bool.and_eq_true] at h
  exact h.1.1

/-- **When the parser's table is the one the dump describes.** -/
theorem foldl_eq_refreshed_iff : rs.foldl storeRecord t = refreshed t rs ↔ LastKept t rs := by
  have hbyte : rs.foldl storeRecord t = refreshed t rs ↔ ∀ id (i : Fin VALUE_LEN),
      (rs.findRev? (fun r => r.stores t id i)).elim ((t id).value i) (fun r => r.byte i) =
        (rs.findRev? (fun r => r.names t id)).elim ((t id).value i)
          (fun r => if (i : Nat) < r.data.length then r.byte i else (t id).value i) := by
    rw [funext_iff]
    refine forall_congr' fun id => ?_
    rw [foldl_storeRecord, refreshed]
    simp only [I2cData.mk.injEq, true_and]
    exact funext_iff
  rw [hbyte]
  constructor
  · intro h
    refine ⟨fun id r hr hfull i => ?_, fun id r hr i hi r' hr' => ?_⟩
    · have hlen : (i : Nat) < r.data.length := by
        simp only [TlvRecord.taken, decide_eq_false_iff_not] at hfull
        omega
      rw [h id i, hr, Option.elim_some, if_pos hlen]
    · have hi' := h id i
      rw [hr', hr, Option.elim_some, Option.elim_some, if_neg (Nat.not_lt.mpr hi)] at hi'
      exact hi'
  · intro h id i
    cases hr : rs.findRev? (fun r => r.names t id) with
    | none => rw [findRev?_eq_none names_of_stores hr, Option.elim_none, Option.elim_none]
    | some r =>
        rw [Option.elim_some]
        by_cases hi : (i : Nat) < r.data.length
        · rw [if_pos hi]
          cases htaken : r.taken with
          | false => exact h.whole id r hr htaken i
          | true =>
              -- the last record is stored over the byte
              have hstores : r.stores t id i := by
                simp [TlvRecord.stores, htaken, hi, findRev?_some hr]
              rw [findRev?_of_imp names_of_stores hstores hr, Option.elim_some]
        · rw [if_neg hi]
          cases hr' : rs.findRev? (fun r => r.stores t id i) with
          | none => rfl
          | some r' => exact h.behind id r hr i (Nat.le_of_not_lt hi) r' hr'

end LastKept

/-! ## The parser over a dump -/

section Parse

variable {raw : RawData} {len : UInt16}

theorem rawByte_eq_none {k : Nat} (h : RAW_LEN ≤ k) : rawByte raw k = none :=
  dif_neg (Nat.not_lt.mpr h)

/-- An iteration at the header of a record of a register of the table. -/
theorem tlvBody_header {s : TlvState} {regaddr n : UInt8} {id : Fin MAX_SENSORS}
    (hlt : s.offset < len) (hr : rawByte raw s.offset.toNat = some regaddr)
    (hmax : regaddr.toNat ≤ MAX_SENSORS)
    (hid : getIdByAddr s.sock_msgArr regaddr.toUInt32 = some id)
    (hn : rawByte raw (s.offset.toNat + 1) = some n) :
    tlvBody raw len s =
      if n.toNat < VALUE_LEN ∧ RAW_LEN < s.offset.toNat + 2 + n.toNat then .inr none
      else .inl ⟨s.offset + (n.toUInt16 + 2), if n.toNat < VALUE_LEN
        then storeValue s.sock_msgArr id raw (s.offset.toNat + 2) n.toNat else s.sock_msgArr⟩ := by
  unfold tlvBody tlvIteration
  simp only [hlt, hr, Nat.not_lt.mpr hmax, hid, hn, if_true, if_false]
  by_cases hshort : n.toNat < VALUE_LEN
  · by_cases hfits : s.offset.toNat + 2 + n.toNat ≤ RAW_LEN
    · simp only [hshort, hfits, Nat.not_lt.mpr hfits, if_true, and_false, if_false]
    · simp only [hshort, hfits, Nat.lt_of_not_le hfits, if_true, and_true, if_false]
  · simp only [hshort, if_false, false_and]

/-- An iteration at the end of the raw data. -/
theorem tlvBody_past {s : TlvState} (hlt : s.offset < len) (h : RAW_LEN ≤ s.offset.toNat) :
    tlvBody raw len s = .inr none := by
  unfold tlvBody tlvIteration
  simp only [hlt, if_true, rawByte_eq_none h]

/-- An iteration at a header that is cut by the end of the raw data. -/
theorem tlvBody_cut {s : TlvState} {regaddr : UInt8} {id : Fin MAX_SENSORS}
    (hlt : s.offset < len) (hr : rawByte raw s.offset.toNat = some regaddr)
    (hmax : regaddr.toNat ≤ MAX_SENSORS)
    (hid : getIdByAddr s.sock_msgArr regaddr.toUInt32 = some id)
    (h : RAW_LEN ≤ s.offset.toNat + 1) : tlvBody raw len s = .inr none := by
  unfold tlvBody tlvIteration
  simp only [hlt, hr, Nat.not_lt.mpr hmax, hid, rawByte_eq_none h, if_true, if_false]

theorem InBuffer.tail {o : Nat} {bs bs' : Bytes} (h : InBuffer raw o (bs ++ bs')) :
    InBuffer raw (o + bs.length) bs' := by
  intro k hk ho
  rw [Nat.add_assoc] at ho ⊢
  rw [h (bs.length + k) (by rw [List.length_append]; omega) ho,
    List.getElem?_append_right (Nat.le_add_right _ _), Nat.add_sub_cancel_left]

/-- The bytes of a record in the raw data. -/
theorem InBuffer.record {o : Nat} {r : TlvRecord} {bs : Bytes}
    (h : InBuffer raw o (r.bytes ++ bs)) :
    (o < RAW_LEN → rawByte raw o = some r.regaddr) ∧
      (o + 1 < RAW_LEN → rawByte raw (o + 1) = some (UInt8.ofNat r.data.length)) ∧
      ∀ i < r.data.length, o + 2 + i < RAW_LEN → rawByte raw (o + 2 + i) = some (r.byte i) := by
  have hlength : (r.bytes ++ bs).length = r.data.length + 2 + bs.length := by
    rw [List.length_append, r.length_bytes]
  refine ⟨fun ho => h 0 (by omega) ho, fun ho => h 1 (by omega) ho, fun i hi ho => ?_⟩
  rw [Nat.add_assoc] at ho ⊢
  rw [h (2 + i) (by omega) ho, List.getElem?_append_left (by rw [r.length_bytes]; omega),
    Nat.add_comm 2 i]
  show r.data[i]? = _
  rw [TlvRecord.byte, List.getD_eq_getElem?_getD, List.getElem?_eq_getElem hi, Option.getD_some]

/-- What the parser stores of a record that lies in the raw data. -/
theorem storeValue_record {o : Nat} {r : TlvRecord} {bs : Bytes} {t : Table}
    {id : Fin MAX_SENSORS} (h : InBuffer raw o (r.bytes ++ bs)) (htaken : r.taken = true)
    (hid : getIdByAddr t r.regaddr.toUInt32 = some id) (hfits : o + 2 + r.data.length ≤ RAW_LEN) :
    storeValue t id raw (o + 2) r.data.length = storeRecord t r := by
  funext j
  have hnames : r.names t j = decide (id = j) := by
    rw [TlvRecord.names, hid]
    simp [beq_eq_decide]
  by_cases hj : id = j
  · subst hj
    rw [storeValue, Function.update_self, storeRecord]
    simp only [I2cData.mk.injEq, true_and]
    funext i
    simp only [TlvRecord.stores, hnames, htaken, decide_true, Bool.and_true, Bool.true_and,
      decide_eq_true_eq]
    by_cases hi : (i : Nat) < r.data.length
    · rw [if_pos hi, if_pos hi, (h.record).2.2 i hi (by omega)]
      rfl
    · rw [if_neg hi, if_neg hi]
  · rw [storeValue, Function.update_of_ne (Ne.symm hj), storeRecord]
    simp [TlvRecord.stores, hnames, hj]

/-- Nothing is stored of a record that fills a value. -/
theorem storeRecord_of_not_taken {t : Table} {r : TlvRecord} (h : r.taken = false) :
    storeRecord t r = t := by
  funext id
  simp [storeRecord, TlvRecord.stores, h]

/-- **The parser at a record**: it stores it when what it reads of it is in the raw data. -/
theorem tlvBody_record {o : UInt16} {r : TlvRecord} {bs : Bytes} {t : Table} (hlt : o < len)
    (hraw : InBuffer raw o.toNat (r.bytes ++ bs)) (hknown : r.Known t) :
    tlvBody raw len ⟨o, t⟩ =
      if o.toNat + r.readLen ≤ RAW_LEN
      then .inl ⟨o + ((UInt8.ofNat r.data.length).toUInt16 + 2), storeRecord t r⟩
      else .inr none := by
  obtain ⟨hmax, id, hid⟩ := hknown
  obtain ⟨haddr, hn, -⟩ := hraw.record
  have hread : 2 ≤ r.readLen := by
    unfold TlvRecord.readLen
    split <;> omega
  by_cases hhead : o.toNat + 2 ≤ RAW_LEN
  · have hbody := tlvBody_header (s := ⟨o, t⟩) hlt (haddr (by omega)) hmax hid (hn (by omega))
    rw [r.toNat_length] at hbody
    rw [hbody]
    cases htaken : r.taken with
    | true =>
        have hshort : r.data.length < VALUE_LEN := of_decide_eq_true htaken
        have hlen : r.readLen = r.data.length + 2 := if_pos htaken
        by_cases hfits : o.toNat + r.readLen ≤ RAW_LEN
        · have hfits' : o.toNat + 2 + r.data.length ≤ RAW_LEN := by omega
          rw [if_neg (fun h => Nat.not_lt.mpr hfits' h.2), if_pos hfits, if_pos hshort,
            storeValue_record hraw htaken hid hfits']
        · have hcut : RAW_LEN < o.toNat + 2 + r.data.length := by omega
          rw [if_pos ⟨hshort, hcut⟩, if_neg hfits]
    | false =>
        have hlong : ¬ r.data.length < VALUE_LEN := of_decide_eq_false htaken
        have hlen : r.readLen = 2 := if_neg (by rw [htaken]; exact Bool.false_ne_true)
        rw [if_neg (fun h => hlong h.1), if_neg hlong, if_pos (by omega),
          storeRecord_of_not_taken htaken]
  · rw [if_neg (by omega)]
    by_cases ho : o.toNat < RAW_LEN
    · exact tlvBody_cut (s := ⟨o, t⟩) hlt (haddr ho) hmax hid (by simp only; omega)
    · exact tlvBody_past (s := ⟨o, t⟩) hlt (Nat.le_of_not_lt ho)

/-- **The parser over the records of a dump**: it ends with all of them stored when what it reads
of them is in the raw data, and else reads past its end. -/
theorem gives_dump (rs : List TlvRecord) {o : UInt16} {t : Table}
    (hlen : o.toNat + (dump rs).length = len.toNat) (hraw : InBuffer raw o.toNat (dump rs))
    (hknown : ∀ r ∈ rs, r.Known t) :
    (Fits o.toNat rs → Gives (tlvBody raw len) (rs.length + 1) ⟨o, t⟩
      (some (rs.foldl storeRecord t, EXIT_SUCCESS))) ∧
    (¬ Fits o.toNat rs → Gives (tlvBody raw len) (rs.length + 1) ⟨o, t⟩ none) := by
  induction rs generalizing o t with
  | nil =>
      refine ⟨fun _ => Gives.done ?_, fun h => absurd trivial h⟩
      have hend : ¬ o < len := by
        rw [UInt16.lt_iff_toNat_lt]
        simp only [dump, List.flatMap_nil, List.length_nil] at hlen
        omega
      simp only [tlvBody, tlvIteration, hend, if_false, List.foldl_nil]
  | cons r rs ih =>
      rw [dump_cons, List.length_append, r.length_bytes] at hlen
      rw [dump_cons] at hraw
      have hlt : o < len := by
        rw [UInt16.lt_iff_toNat_lt]
        omega
      have hbody := tlvBody_record hlt hraw (hknown r (List.mem_cons_self ..))
      by_cases hfits : o.toNat + r.readLen ≤ RAW_LEN
      · rw [if_pos hfits] at hbody
        -- the offset does not wrap: the dump is as long as its length says
        have hsmall := len.toNat_lt
        have hnext : (o + ((UInt8.ofNat r.data.length).toUInt16 + 2)).toNat =
            o.toNat + r.bytes.length := by
          have htwo : (2 : UInt16).toNat = 2 := rfl
          have hle : r.data.length ≤ 32 := r.data_le
          rw [UInt16.toNat_add, UInt16.toNat_add, UInt8.toNat_toUInt16, r.toNat_length,
            r.length_bytes]
          omega
        have hrest := ih (o := o + ((UInt8.ofNat r.data.length).toUInt16 + 2))
          (t := storeRecord t r) (by rw [hnext, r.length_bytes]; omega)
          (by rw [hnext]; exact hraw.tail)
          (fun r' hr' => Known_storeRecord t (hknown r' (List.mem_cons_of_mem _ hr')))
        rw [hnext] at hrest
        refine ⟨fun h => Gives.step hbody (hrest.1 h.2), fun h => Gives.step hbody (hrest.2 ?_)⟩
        exact fun h' => h ⟨hfits, h'⟩
      · rw [if_neg hfits] at hbody
        refine ⟨fun h => absurd h.1 hfits, fun _ => ?_⟩
        exact (Gives.done hbody).mono (Nat.le_add_left _ _)

/-- **What the parser makes of a dump.** -/
theorem i2cParseTlv_dump {rs : List TlvRecord} {t : Table}
    (hlen : (dump rs).length = len.toNat) (hraw : InBuffer raw 0 (dump rs))
    (hknown : ∀ r ∈ rs, r.Known t) :
    (Fits 0 rs → i2cParseTlv raw len t = some (rs.foldl storeRecord t, EXIT_SUCCESS)) ∧
      (¬ Fits 0 rs → i2cParseTlv raw len t = none) := by
  have hgives := gives_dump rs (o := 0) (t := t) (by rw [← hlen]; exact Nat.zero_add _) hraw hknown
  have hmany := length_le_dump rs
  obtain ⟨extra, hextra⟩ : ∃ extra, len.toNat + 1 = extra + (rs.length + 1) :=
    ⟨len.toNat - rs.length, by omega⟩
  rw [i2cParseTlv, hextra]
  exact ⟨fun h => hgives.1 h extra, fun h => hgives.2 h extra⟩

/-- **When a dump leaves the table it describes**: what the parser reads of it lies in the raw
data, no register's last record has 32 bytes, unless it says nothing new, and none is shorter than
one before it, unless that one said nothing new behind it. -/
theorem parse_refreshed_iff {rs : List TlvRecord} {t : Table}
    (hlen : (dump rs).length = len.toNat) (hraw : InBuffer raw 0 (dump rs))
    (hknown : ∀ r ∈ rs, r.Known t) :
    i2cParseTlv raw len t = some (refreshed t rs, EXIT_SUCCESS) ↔ Fits 0 rs ∧ LastKept t rs := by
  obtain ⟨hfits, hcut⟩ := i2cParseTlv_dump hlen hraw hknown
  by_cases h : Fits 0 rs
  · rw [hfits h, Option.some.injEq, Prod.mk.injEq, ← foldl_eq_refreshed_iff]
    simp only [h, true_and, and_true]
  · rw [hcut h]
    simp [h]

/-- Raw data with a dump at its start. -/
def rawOf (bs : Bytes) : RawData := fun i => bs.getD i 0

theorem inBuffer_rawOf (bs : Bytes) : InBuffer (rawOf bs) 0 bs := by
  intro k hk ho
  rw [Nat.zero_add] at ho ⊢
  rw [rawByte, dif_pos ho, rawOf, List.getD_eq_getElem?_getD, List.getElem?_eq_getElem hk,
    Option.getD_some]

/-- The readings of `REG_ADC_CH1` and `REG_TAMPER`. -/
def readings : List TlvRecord := [⟨4, [0xE4, 0x0C], by decide⟩, ⟨10, [1], by decide⟩]

/-- A dump of two readings. -/
theorem parse_refreshed_iff_readings :
    (i2cParseTlv (rawOf (dump readings)) 7 (sockMsgArr fun _ => 0) =
      some (refreshed (sockMsgArr fun _ => 0) readings, EXIT_SUCCESS) ↔
        Fits 0 readings ∧ LastKept (sockMsgArr fun _ => 0) readings) ∧ Fits 0 readings := by
  refine ⟨parse_refreshed_iff rfl (inBuffer_rawOf _) (fun r hr => ?_), by decide, by decide, trivial⟩
  rcases List.mem_pair.mp hr with rfl | rfl
  · exact ⟨by decide, 4, by decide +kernel⟩
  · exact ⟨by decide, 7, by decide +kernel⟩

/-- The record of `REG_SFP1_FIBER_TEC`, of 32 bytes. -/
def fiberTec : TlvRecord := ⟨70, List.replicate 32 1, by decide⟩

/-- The value of a register of 32 bytes is not stored. -/
theorem whole_value_skipped : ¬∀ (raw : RawData) (len : UInt16) (rs : List TlvRecord) (t : Table),
    (dump rs).length = len.toNat → InBuffer raw 0 (dump rs) → (∀ r ∈ rs, r.Known t) →
      i2cParseTlv raw len t = some (refreshed t rs, EXIT_SUCCESS) := by
  intro h
  have hknown : ∀ r ∈ [fiberTec], r.Known (sockMsgArr fun _ => 0) := by
    intro r hr
    cases List.mem_singleton.mp hr
    exact ⟨by decide, 49, by decide +kernel⟩
  have hraw := inBuffer_rawOf (dump [fiberTec])
  have hparse := h _ 34 [fiberTec] _ rfl hraw hknown
  rw [(i2cParseTlv_dump rfl hraw hknown).1 ⟨by decide, trivial⟩, Option.some.injEq,
    Prod.mk.injEq] at hparse
  have hvalue := congrArg (fun m => m.value 0) (congrFun hparse.1 49)
  exact absurd hvalue (by decide +kernel)

end Parse

end Hwsys
