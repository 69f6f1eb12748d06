import TfPack.Lib.BigEndian
import TfPack.Mstpd.State

set_option autoImplicit false

/-! # The spanning tree daemon: BPDUs in memory

`bpdu_t` is a packed structure that the daemon lays over the received frame and sends as it is. A
received BPDU is read from memory (`Bpdu.read`), all of it, whatever the length of the frame; a BPDU
that is sent is the beginning of its bytes (`Bpdu.bytes`). Memory that begins with the bytes of a
BPDU gives back those of its fields that were sent (`read_config`, `read_mst`).
-/

namespace Mstpd

open BigEndian

/-! ## The layout -/

def BridgeIdentifier.bytes (id : BridgeIdentifier) : Bytes :=
  encode 2 id.priority.toNat ++ encode 6 id.mac_address.toNat

def BridgeIdentifier.read (mem : Nat → UInt8) (off : Nat) : BridgeIdentifier :=
  ⟨.ofNat (field mem off 2), .ofNat 48 (field mem (off + 2) 6)⟩

def MstConfigId.bytes (id : MstConfigId) : Bytes :=
  [id.selector] ++ id.configuration_name.toList ++ encode 2 id.revision_level.toNat ++
    id.configuration_digest.toList

def MstConfigId.read (mem : Nat → UInt8) (off : Nat) : MstConfigId :=
  ⟨mem off, .ofFn (fun i => mem (off + 1 + i)), .ofNat (field mem (off + 33) 2),
    .ofFn (fun i => mem (off + 35 + i))⟩

def MstiMessage.bytes (m : MstiMessage) : Bytes :=
  [m.flags] ++ m.mstiRRootID.bytes ++ encode 4 m.mstiIntRootPathCost.toNat ++
    [m.bridgeIdentifierPriority] ++ [m.portIdentifierPriority] ++ [m.remainingHops]

def MstiMessage.read (mem : Nat → UInt8) (off : Nat) : MstiMessage :=
  ⟨mem off, .read mem (off + 1), .ofNat (field mem (off + 9) 4), mem (off + 13), mem (off + 14),
    mem (off + 15)⟩

/-- The bytes before the field `flags`. -/
def Bpdu.tcnBytes (b : Bpdu) : Bytes :=
  encode 2 b.protocolIdentifier.toNat ++ [b.protocolVersion] ++ [b.bpduType]

/-- The bytes from `flags` to the field `version1_len`. -/
def Bpdu.configBytes (b : Bpdu) : Bytes :=
  [b.flags] ++ b.cistRootID.bytes ++ encode 4 b.cistExtRootPathCost.toNat ++
    b.cistRRootID.bytes ++ encode 2 b.cistPortID.toNat ++ [b.MessageAge.1, b.MessageAge.2] ++
    [b.MaxAge.1, b.MaxAge.2] ++ [b.HelloTime.1, b.HelloTime.2] ++
    [b.ForwardDelay.1, b.ForwardDelay.2]

/-- The bytes from `version3_len` to the messages of the MSTIs. -/
def Bpdu.mstBytes (b : Bpdu) : Bytes :=
  encode 2 b.version3_len.toNat ++ b.mstConfigurationIdentifier.bytes ++
    encode 4 b.cistIntRootPathCost.toNat ++ b.cistBridgeID.bytes ++ [b.cistRemainingHops]

def Bpdu.bytes (b : Bpdu) : Bytes :=
  b.tcnBytes ++ (b.configBytes ++ ([b.version1_len] ++ (b.mstBytes ++
    b.mstConfiguration.flatMap MstiMessage.bytes)))

/-- `bpdu_t` laid over the memory. -/
def Bpdu.read (mem : Nat → UInt8) : Bpdu where
  protocolIdentifier := .ofNat (field mem 0 2)
  protocolVersion := mem 2
  bpduType := mem 3
  flags := mem 4
  cistRootID := .read mem 5
  cistExtRootPathCost := .ofNat (field mem 13 4)
  cistRRootID := .read mem 17
  cistPortID := .ofNat (field mem 25 2)
  MessageAge := (mem 27, mem 28)
  MaxAge := (mem 29, mem 30)
  HelloTime := (mem 31, mem 32)
  ForwardDelay := (mem 33, mem 34)
  version1_len := mem 35
  version3_len := .ofNat (field mem 36 2)
  mstConfigurationIdentifier := .read mem 38
  cistIntRootPathCost := .ofNat (field mem 89 4)
  cistBridgeID := .read mem 93
  cistRemainingHops := mem 101
  mstConfiguration := (List.range MAX_STANDARD_MSTIS).map
    (fun i => .read mem (MST_BPDU_SIZE_WO_MSTI_MSGS + MSTI_MESSAGE_SIZE * i))

/-! ## Reading what was written -/

section Layout

variable {mem : Nat → UInt8} {off : Nat}

@[simp] theorem length_identifier_bytes (id : BridgeIdentifier) : id.bytes.length = 8 := by
  simp [BridgeIdentifier.bytes]

@[simp] theorem length_configId_bytes (id : MstConfigId) : id.bytes.length = 51 := by
  simp [MstConfigId.bytes]

@[simp] theorem length_message_bytes (m : MstiMessage) : m.bytes.length = MSTI_MESSAGE_SIZE := by
  simp [MstiMessage.bytes, MSTI_MESSAGE_SIZE]

@[simp] theorem length_tcnBytes (b : Bpdu) : b.tcnBytes.length = 4 := by simp [Bpdu.tcnBytes]

@[simp] theorem length_configBytes (b : Bpdu) : b.configBytes.length = 31 := by
  simp [Bpdu.configBytes]

@[simp] theorem length_mstBytes (b : Bpdu) : b.mstBytes.length = 66 := by simp [Bpdu.mstBytes]

@[simp] theorem length_messages (ms : List MstiMessage) :
    (ms.flatMap MstiMessage.bytes).length = MSTI_MESSAGE_SIZE * ms.length := by
  induction ms with
  | nil => rfl
  | cons m ms ih =>
      rw [List.flatMap_cons, List.length_append, length_message_bytes, ih, List.length_cons]
      ring

theorem holds_singleton {d : UInt8} : Holds mem off [d] ↔ mem off = d := by
  simp [Holds]

theorem holds_pair {d e : UInt8} : Holds mem off [d, e] ↔ mem off = d ∧ mem (off + 1) = e := by
  rw [show [d, e] = [d] ++ [e] from rfl, holds_append, holds_singleton, holds_singleton]
  rfl

theorem read_u16 {x : UInt16} (h : Holds mem off (encode 2 x.toNat)) :
    UInt16.ofNat (field mem off 2) = x := by
  rw [field_of_holds_lt h x.toNat_lt, UInt16.ofNat_toNat]

theorem read_u32 {x : UInt32} (h : Holds mem off (encode 4 x.toNat)) :
    UInt32.ofNat (field mem off 4) = x := by
  rw [field_of_holds_lt h x.toNat_lt, UInt32.ofNat_toNat]

theorem read_identifier {id : BridgeIdentifier} (h : Holds mem off id.bytes) :
    BridgeIdentifier.read mem off = id := by
  obtain ⟨hpri, hmac⟩ := holds_append.mp h
  rw [length_encode] at hmac
  rw [BridgeIdentifier.read, read_u16 hpri, field_of_holds_lt hmac id.mac_address.isLt]
  simp

theorem read_vector {n : Nat} {v : Vector UInt8 n} (h : Holds mem off v.toList) :
    Vector.ofFn (fun i : Fin n => mem (off + i)) = v := by
  ext i hi
  rw [Vector.getElem_ofFn, h i (by simpa using hi)]
  simp

theorem read_configId {id : MstConfigId} (h : Holds mem off id.bytes) :
    MstConfigId.read mem off = id := by
  simp only [MstConfigId.bytes, holds_append, holds_singleton, List.length_append,
    length_encode, List.length_singleton, Vector.length_toList, ← Nat.add_assoc] at h
  obtain ⟨⟨⟨hsel, hname⟩, hrev⟩, hdig⟩ := h
  rw [MstConfigId.read, hsel, read_vector hname, read_u16 hrev, read_vector hdig]

theorem read_message {m : MstiMessage} (h : Holds mem off m.bytes) :
    MstiMessage.read mem off = m := by
  simp only [MstiMessage.bytes, holds_append, holds_singleton, List.length_append,
    length_encode, List.length_singleton, length_identifier_bytes] at h
  obtain ⟨⟨⟨⟨⟨hflags, hroot⟩, hcost⟩, hbpri⟩, hppri⟩, hhops⟩ := h
  rw [MstiMessage.read, hflags, read_identifier hroot, read_u32 hcost, hbpri, hppri, hhops]

/-- The messages in memory one after the other. -/
theorem read_messages {ms : List MstiMessage}
    (h : Holds mem off (ms.flatMap MstiMessage.bytes)) {i : Nat} (hi : i < ms.length) :
    MstiMessage.read mem (off + MSTI_MESSAGE_SIZE * i) = ms[i] := by
  induction ms generalizing off i with
  | nil => cases hi
  | cons m ms ih =>
      rw [List.flatMap_cons, holds_append, length_message_bytes] at h
      cases i with
      | zero => exact read_message h.1
      | succ i =>
          have hat := ih h.2 (Nat.lt_of_succ_lt_succ hi)
          rw [List.getElem_cons_succ, ← hat]
          congr 1
          ring

end Layout

/-! ## The fields of a received BPDU -/

/-- The fields of a Configuration BPDU are those of `b`. -/
structure Bpdu.SameConfig (r b : Bpdu) : Prop where
  protocolIdentifier : r.protocolIdentifier = b.protocolIdentifier
  protocolVersion : r.protocolVersion = b.protocolVersion
  bpduType : r.bpduType = b.bpduType
  flags : r.flags = b.flags
  cistRootID : r.cistRootID = b.cistRootID
  cistExtRootPathCost : r.cistExtRootPathCost = b.cistExtRootPathCost
  cistRRootID : r.cistRRootID = b.cistRRootID
  cistPortID : r.cistPortID = b.cistPortID
  MessageAge : r.MessageAge = b.MessageAge
  MaxAge : r.MaxAge = b.MaxAge
  HelloTime : r.HelloTime = b.HelloTime
  ForwardDelay : r.ForwardDelay = b.ForwardDelay

/-- The fields of an MST BPDU are those of `b`. -/
structure Bpdu.SameMst (r b : Bpdu) : Prop extends Bpdu.SameConfig r b where
  version1_len : r.version1_len = b.version1_len
  version3_len : r.version3_len = b.version3_len
  mstConfigurationIdentifier : r.mstConfigurationIdentifier = b.mstConfigurationIdentifier
  cistIntRootPathCost : r.cistIntRootPathCost = b.cistIntRootPathCost
  cistBridgeID : r.cistBridgeID = b.cistBridgeID
  cistRemainingHops : r.cistRemainingHops = b.cistRemainingHops
  mstConfiguration : r.mstConfiguration.take b.mstConfiguration.length = b.mstConfiguration

theorem read_tcn {mem : Nat → UInt8} {b : Bpdu} (h : Holds mem 0 b.tcnBytes) :
    (Bpdu.read mem).protocolIdentifier = b.protocolIdentifier ∧
      (Bpdu.read mem).protocolVersion = b.protocolVersion ∧
      (Bpdu.read mem).bpduType = b.bpduType := by
  simp only [Bpdu.tcnBytes, holds_append, holds_singleton, List.length_append, length_encode,
    List.length_singleton, Nat.zero_add] at h
  exact ⟨read_u16 h.1.1, h.1.2, h.2⟩

/-- **Whatever follows the bytes of a Configuration BPDU, its fields are read back.** -/
theorem read_config {mem : Nat → UInt8} {b : Bpdu}
    (h : Holds mem 0 (b.tcnBytes ++ b.configBytes)) : (Bpdu.read mem).SameConfig b := by
  rw [holds_append, length_tcnBytes, Nat.zero_add] at h
  obtain ⟨hid, hversion, htype⟩ := read_tcn h.1
  have hconfig := h.2
  simp only [Bpdu.configBytes, holds_append, holds_singleton, holds_pair, List.length_append,
    length_encode, length_identifier_bytes, List.length_cons, List.length_nil] at hconfig
  obtain ⟨⟨⟨⟨⟨⟨⟨⟨hflags, hroot⟩, hext⟩, hrroot⟩, hport⟩, hage⟩, hmax⟩, hhello⟩, hfwd⟩ := hconfig
  exact
    { protocolIdentifier := hid
      protocolVersion := hversion
      bpduType := htype
      flags := hflags
      cistRootID := read_identifier hroot
      cistExtRootPathCost := read_u32 hext
      cistRRootID := read_identifier hrroot
      cistPortID := read_u16 hport
      MessageAge := Prod.ext hage.1 hage.2
      MaxAge := Prod.ext hmax.1 hmax.2
      HelloTime := Prod.ext hhello.1 hhello.2
      ForwardDelay := Prod.ext hfwd.1 hfwd.2 }

/-- **Whatever follows the bytes of an MST BPDU, its fields are read back.** -/
theorem read_mst {mem : Nat → UInt8} {b : Bpdu} (h : Holds mem 0 b.bytes)
    (hlen : b.mstConfiguration.length ≤ MAX_STANDARD_MSTIS) : (Bpdu.read mem).SameMst b := by
  rw [Bpdu.bytes, ← List.append_assoc, holds_append] at h
  have hconfig := read_config h.1
  have hmst := h.2
  simp only [Bpdu.mstBytes, holds_append, holds_singleton, List.length_append, length_tcnBytes,
    length_configBytes, length_encode, length_identifier_bytes, length_configId_bytes,
    List.length_cons, List.length_nil, Nat.zero_add, Nat.reduceAdd] at hmst
  obtain ⟨hv1, ⟨⟨⟨⟨hv3, hconfId⟩, hcost⟩, hbridge⟩, hhops⟩, hms⟩ := hmst
  refine
    { hconfig with
      version1_len := hv1
      version3_len := read_u16 hv3
      mstConfigurationIdentifier := read_configId hconfId
      cistIntRootPathCost := read_u32 hcost
      cistBridgeID := read_identifier hbridge
      cistRemainingHops := hhops
      mstConfiguration := ?_ }
  refine List.ext_getElem (by simp [Bpdu.read, hlen]) ?_
  intro i hi hi'
  rw [List.getElem_take]
  simpa [Bpdu.read, MST_BPDU_SIZE_WO_MSTI_MSGS] using read_messages hms hi'

end Mstpd
