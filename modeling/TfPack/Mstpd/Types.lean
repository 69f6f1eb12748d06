import Mathlib.Data.List.Basic
import Mathlib.Logic.Function.Basic

set_option autoImplicit false

/-! # The spanning tree daemon: its data

The types of `mstp.h`. Numbers that the C code keeps in network order and compares with `memcmp`
are the unsigned numbers they stand for, so that `<` on them is the comparison of the code. A timer
is a `Nat`: it is set to a small number and counted down.

A `port_t *` is the interface index of the port, a `tree_t *` the MSTID of the tree, a
`per_tree_port_t *` the pair of them. The CIST is the tree 0.
-/

namespace Mstpd

abbrev Bytes := List UInt8

/-- The number of a port in the bridge's list. -/
abbrev PortRef := Nat

abbrev Mstid := UInt16

def MAX_VID : Nat := 4094
def MAX_FID : Nat := 4095
def MAX_MSTID : Nat := 4094
def MAX_STANDARD_MSTIS : Nat := 64
def MAX_IMPLEMENTATION_MSTIS : Nat := 63
def MAX_PATH_COST : UInt32 := 200000000

/-! ## Identifiers, priority vectors, times -/

structure BridgeIdentifier where
  priority : UInt16
  mac_address : BitVec 48
  deriving DecidableEq, Repr

/-- `GET_PRIORITY_FROM_IDENTIFIER`, on the first two octets of the identifier. -/
def getPriority (id : UInt16) : UInt8 := (id >>> 8).toUInt8 &&& 0xF0

/-- `SET_PRIORITY_IN_IDENTIFIER`, on the first two octets of the identifier. -/
def setPriority (pri : UInt8) (id : UInt16) : UInt16 :=
  (id &&& (0x0FFF : UInt16)) ||| ((pri &&& 0xF0).toUInt16 <<< 8)

/-- `mst_configuration_identifier_t`. -/
structure MstConfigId where
  selector : UInt8
  configuration_name : Vector UInt8 32
  revision_level : UInt16
  configuration_digest : Vector UInt8 16
  deriving DecidableEq

/-- `port_priority_vector_t`. -/
structure PriorityVector where
  RRootID : BridgeIdentifier
  IntRootPathCost : UInt32
  DesignatedBridgeID : BridgeIdentifier
  DesignatedPortID : UInt16
  RootID : BridgeIdentifier
  ExtRootPathCost : UInt32
  deriving DecidableEq, Repr

/-- `times_t`. -/
structure Times where
  remainingHops : UInt8
  Forward_Delay : UInt8
  Max_Age : UInt8
  Message_Age : UInt8
  Hello_Time : UInt8
  deriving DecidableEq, Repr

def BridgeIdentifier.zero : BridgeIdentifier := ⟨0, 0⟩

def PriorityVector.zero : PriorityVector := ⟨.zero, 0, .zero, 0, .zero, 0⟩

def Times.zero : Times := ⟨0, 0, 0, 0, 0⟩

/-! ## BPDUs -/

/-- `msti_configuration_message_t`. -/
structure MstiMessage where
  flags : UInt8
  mstiRRootID : BridgeIdentifier
  mstiIntRootPathCost : UInt32
  bridgeIdentifierPriority : UInt8
  portIdentifierPriority : UInt8
  remainingHops : UInt8
  deriving DecidableEq, Repr

/-- `bpdu_t`; a time is its two octets. -/
structure Bpdu where
  protocolIdentifier : UInt16
  protocolVersion : UInt8
  bpduType : UInt8
  flags : UInt8
  cistRootID : BridgeIdentifier
  cistExtRootPathCost : UInt32
  cistRRootID : BridgeIdentifier
  cistPortID : UInt16
  MessageAge : UInt8 × UInt8
  MaxAge : UInt8 × UInt8
  HelloTime : UInt8 × UInt8
  ForwardDelay : UInt8 × UInt8
  version1_len : UInt8
  version3_len : UInt16
  mstConfigurationIdentifier : MstConfigId
  cistIntRootPathCost : UInt32
  cistBridgeID : BridgeIdentifier
  cistRemainingHops : UInt8
  mstConfiguration : List MstiMessage
  deriving DecidableEq

def MstiMessage.zero : MstiMessage := ⟨0, .zero, 0, 0, 0, 0⟩

def MstConfigId.zero : MstConfigId := ⟨0, Vector.replicate 32 0, 0, Vector.replicate 16 0⟩

def Bpdu.zero : Bpdu :=
  ⟨0, 0, 0, 0, .zero, 0, .zero, 0, (0, 0), (0, 0), (0, 0), (0, 0), 0, 0, .zero, 0, .zero, 0, []⟩

def TCN_BPDU_SIZE : Nat := 4
def CONFIG_BPDU_SIZE : Nat := 35
def RST_BPDU_SIZE : Nat := 36
def MST_BPDU_SIZE_WO_MSTI_MSGS : Nat := 102
def MST_BPDU_VER3LEN_WO_MSTI_MSGS : Nat := 64

/-- `sizeof(msti_configuration_message_t)`. -/
def MSTI_MESSAGE_SIZE : Nat := 16

def protoSTP : UInt8 := 0
def protoRSTP : UInt8 := 2
def protoMSTP : UInt8 := 3

def bpduTypeConfig : UInt8 := 0
def bpduTypeRST : UInt8 := 2
def bpduTypeTCN : UInt8 := 128

/-- `bpduFlagOffset_t`: the masks `1 << offset`. -/
def flagTc : UInt8 := 1
def flagProposal : UInt8 := 2
def flagLearning : UInt8 := 16
def flagForwarding : UInt8 := 32
def flagAgreement : UInt8 := 64
def flagTcAck : UInt8 := 128

/-- In the flags of an MSTI message the last bit is the Master flag. -/
def flagMaster : UInt8 := 128

/-- Whether a flag is set. -/
def has (flags mask : UInt8) : Bool := flags &&& mask != 0

/-- `port_encoded_role_t`. -/
inductive EncodedRole
  | Master | AlternateBackup | Root | Designated
  deriving DecidableEq, Repr

/-- The two bits of a role in the flags. -/
def EncodedRole.bits : EncodedRole → UInt8
  | .Master => 0
  | .AlternateBackup => 1
  | .Root => 2
  | .Designated => 3

/-- `BPDU_FLAGS_ROLE_SET`. -/
def flagsRoleSet (r : EncodedRole) : UInt8 := r.bits <<< 2

/-- `BPDU_FLAGS_ROLE_GET`. -/
def flagsRoleGet (flags : UInt8) : EncodedRole :=
  match ((flags >>> 2) &&& 3).toNat with
  | 0 => .Master
  | 1 => .AlternateBackup
  | 2 => .Root
  | _ => .Designated

/-! ## States and enumerations -/

/-- `BR_STATE_xxx` of the kernel. -/
inductive BrState
  | DISABLED | LISTENING | LEARNING | FORWARDING | BLOCKING
  deriving DecidableEq, Repr

/-- `port_info_t`. -/
inductive PortInfo
  | OtherInfo | SuperiorDesignatedInfo | RepeatedDesignatedInfo | InferiorDesignatedInfo
  | InferiorRootAlternateInfo
  deriving DecidableEq, Repr

/-- `port_info_origin_t`. -/
inductive InfoIs
  | ioDisabled | ioMine | ioAged | ioReceived
  deriving DecidableEq, Repr

/-- `port_role_t`. -/
inductive Role
  | Disabled | Root | Designated | Alternate | Backup | Master
  deriving DecidableEq, Repr

/-- `protocol_version_t`, in the order of its values. -/
inductive ProtocolVersion
  | STP | RSTP | MSTP
  deriving DecidableEq, Repr

/-- `admin_p2p_t`. -/
inductive AdminP2P
  | p2pAuto | p2pForceTrue | p2pForceFalse
  deriving DecidableEq, Repr

inductive PrsmState
  | DISCARD | RECEIVE
  deriving DecidableEq, Repr

inductive PpmsmState
  | CHECKING_RSTP | SELECTING_STP | SENSING
  deriving DecidableEq, Repr

inductive BdsmState
  | EDGE | NOT_EDGE
  deriving DecidableEq, Repr

inductive PtsmState
  | TRANSMIT_INIT | TRANSMIT_CONFIG | TRANSMIT_TCN | TRANSMIT_RSTP | TRANSMIT_PERIODIC | IDLE
  deriving DecidableEq, Repr

inductive PismState
  | DISABLED | AGED | UPDATE | SUPERIOR_DESIGNATED | REPEATED_DESIGNATED | INFERIOR_DESIGNATED
  | NOT_DESIGNATED | OTHER | CURRENT | RECEIVE
  deriving DecidableEq, Repr

inductive PrssmState
  | INIT_TREE | ROLE_SELECTION
  deriving DecidableEq, Repr

inductive PrtsmState
  | INIT_PORT | DISABLE_PORT | DISABLED_PORT
  | MASTER_PROPOSED | MASTER_AGREED | MASTER_SYNCED | MASTER_RETIRED | MASTER_FORWARD
  | MASTER_LEARN | MASTER_DISCARD | MASTER_PORT
  | ROOT_PROPOSED | ROOT_AGREED | ROOT_SYNCED | REROOT | ROOT_FORWARD | ROOT_LEARN | REROOTED
  | ROOT_PORT
  | DESIGNATED_PROPOSE | DESIGNATED_AGREED | DESIGNATED_SYNCED | DESIGNATED_RETIRED
  | DESIGNATED_FORWARD | DESIGNATED_LEARN | DESIGNATED_DISCARD | DESIGNATED_PORT
  | BLOCK_PORT | BACKUP_PORT | ALTERNATE_PROPOSED | ALTERNATE_AGREED | ALTERNATE_PORT
  deriving DecidableEq, Repr

inductive PstsmState
  | DISCARDING | LEARNING | FORWARDING
  deriving DecidableEq, Repr

inductive TcsmState
  | INACTIVE | LEARNING | DETECTED | NOTIFIED_TCN | NOTIFIED_TC | PROPAGATING | ACKNOWLEDGED
  | ACTIVE
  deriving DecidableEq, Repr

end Mstpd
