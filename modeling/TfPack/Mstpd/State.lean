import TfPack.Mstpd.Types

set_option autoImplicit false

/-! # The spanning tree daemon: the state of a bridge

`port_t`, `per_tree_port_t`, `tree_t` and `bridge_t` with their fields as in `mstp.h`, the
configuration parameters of each in a record of their own as its comments group them. The lists of
ports and of trees are kept in the order of the C lists; each `per_tree_port_t` is found by its port
and its tree, and what is stored under a pair that is on no list is never looked at.

What the daemon does to the outside (`MSTP_OUT_xxx`) is recorded in order.
-/

namespace Mstpd

/-! ## Ports -/

/-- The configuration of a port, and what the kernel says of its link. -/
structure PortConf where
  name : String
  port_number : UInt16
  speed : Int
  duplex : Int
  restrictedRole : Bool
  restrictedTcn : Bool
  AdminExternalPortPathCost : UInt32
  AdminP2P : AdminP2P
  AdminEdgePort : Bool
  AutoEdge : Bool
  BpduGuardPort : Bool
  NetworkPort : Bool
  dontTxmtBpdu : Bool
  bpduFilterPort : Bool
  deriving DecidableEq

/-- `port_t`. -/
structure Port where
  conf : PortConf
  mdelayWhile : Nat
  helloWhen : Nat
  edgeDelayWhile : Nat
  txCount : Nat
  operEdge : Bool
  portEnabled : Bool
  infoInternal : Bool
  rcvdInternal : Bool
  mcheck : Bool
  rcvdBpdu : Bool
  rcvdRSTP : Bool
  rcvdSTP : Bool
  rcvdTcAck : Bool
  rcvdTcn : Bool
  sendRSTP : Bool
  tcAck : Bool
  newInfo : Bool
  newInfoMsti : Bool
  operPointToPointMAC : Bool
  ExternalPortPathCost : UInt32
  BpduGuardError : Bool
  BaInconsistent : Bool
  rapidAgeingWhile : Nat
  brAssuRcvdInfoWhile : Nat
  PRSM_state : PrsmState
  PPMSM_state : PpmsmState
  BDSM_state : BdsmState
  PTSM_state : PtsmState
  rcvdBpduData : Bpdu
  rcvdBpduNumOfMstis : Nat
  deleted : Bool
  num_rx_bpdu_filtered : Nat
  num_rx_bpdu : Nat
  num_rx_tcn : Nat
  num_tx_bpdu : Nat
  num_tx_tcn : Nat
  num_trans_fwd : Nat
  num_trans_blk : Nat
  deriving DecidableEq

/-! ## A port in a tree -/

/-- `per_tree_port_t`; `rcvdMstiConfig` is the place in `mstConfiguration` it points to. -/
structure PerTreePort where
  portId : UInt16
  InternalPortPathCost : UInt32
  AdminInternalPortPathCost : UInt32
  state : BrState
  fdWhile : Nat
  rrWhile : Nat
  rbWhile : Nat
  tcWhile : Nat
  rcvdInfoWhile : Nat
  agree : Bool
  agreed : Bool
  disputed : Bool
  forward : Bool
  forwarding : Bool
  learn : Bool
  learning : Bool
  rcvdInfo : PortInfo
  infoIs : InfoIs
  proposed : Bool
  proposing : Bool
  rcvdMsg : Bool
  rcvdTc : Bool
  reRoot : Bool
  reselect : Bool
  selected : Bool
  fdbFlush : Bool
  tcProp : Bool
  updtInfo : Bool
  sync : Bool
  synced : Bool
  role : Role
  selectedRole : Role
  designatedPriority : PriorityVector
  msgPriority : PriorityVector
  portPriority : PriorityVector
  designatedTimes : Times
  msgTimes : Times
  portTimes : Times
  master : Bool
  mastered : Bool
  start_time : Nat
  PISM_state : PismState
  PRTSM_state : PrtsmState
  PSTSM_state : PstsmState
  TCSM_state : TcsmState
  rcvdMstiConfig : Option Nat
  deriving DecidableEq

/-! ## Trees and bridges -/

/-- `tree_t`. -/
structure Tree where
  BridgeIdentifier : BridgeIdentifier
  BridgePriority : PriorityVector
  BridgeTimes : Times
  rootPortId : UInt16
  rootPriority : PriorityVector
  rootTimes : Times
  time_since_topology_change : Nat
  topology_change_count : Nat
  topology_change : Bool
  topology_change_port : String
  last_topology_change_port : String
  PRSSM_state : PrssmState
  deriving DecidableEq

/-- The configuration of a bridge, with its lists of ports and trees. -/
structure BridgeConf where
  ports : List PortRef
  trees : List Mstid
  bridgeEnabled : Bool
  MstConfigId : MstConfigId
  ForceProtocolVersion : ProtocolVersion
  MaxHops : UInt8
  Forward_Delay : UInt8
  Max_Age : UInt8
  Hello_Time : UInt8
  Transmit_Hold_Count : Nat
  Migrate_Time : Nat
  Ageing_Time : Nat
  vid2fid : Nat → Nat
  fid2mstid : Nat → Mstid

/-- What the daemon does to the outside. -/
inductive Output
  | setState (p : PortRef) (t : Mstid) (state : BrState)
  | flushAllFids (p : PortRef) (t : Mstid)
  | setAgeingTime (p : PortRef) (ageingTime : Nat)
  | txBpdu (p : PortRef) (bpdu : Bytes)
  | shutdownPort (p : PortRef)
  deriving DecidableEq

/-- `bridge_t`, with everything that hangs on it. -/
structure Bridge where
  conf : BridgeConf
  uptime : Nat
  port : PortRef → Port
  tree : Mstid → Tree
  ptp : PortRef → Mstid → PerTreePort
  out : List Output

/-- `GET_CIST_PTP_FROM_PORT`: the first entry of a port's list of trees is that of the CIST. -/
def Bridge.cist (b : Bridge) (p : PortRef) : PerTreePort := b.ptp p 0

/-- The pairs of `FOREACH_PORT_IN_BRIDGE`, `FOREACH_PTP_IN_PORT`. -/
def Bridge.places (b : Bridge) : List (PortRef × Mstid) :=
  b.conf.ports.flatMap (fun p => b.conf.trees.map (fun t => (p, t)))

/-- `rstpVersion`. -/
def Bridge.rstpVersion (b : Bridge) : Bool := b.conf.ForceProtocolVersion != .STP

/-- `assurancePort`. -/
def Port.assurancePort (prt : Port) : Bool :=
  prt.conf.NetworkPort && prt.operPointToPointMAC && prt.sendRSTP

/-! ## Assignments -/

/-- Assignments to fields of one port. -/
def Bridge.setPort (b : Bridge) (p : PortRef) (f : Port → Port) : Bridge :=
  { b with port := fun p' => if p' = p then f (b.port p') else b.port p' }

/-- Assignments to fields of one tree. -/
def Bridge.setTree (b : Bridge) (t : Mstid) (f : Tree → Tree) : Bridge :=
  { b with tree := fun t' => if t' = t then f (b.tree t') else b.tree t' }

/-- Assignments to fields of the entries that `sel` selects. -/
def Bridge.setPtps (b : Bridge) (sel : PortRef → Mstid → Bool) (f : PerTreePort → PerTreePort) :
    Bridge :=
  { b with ptp := fun p t => if sel p t then f (b.ptp p t) else b.ptp p t }

/-- Assignments to fields of one entry. -/
def Bridge.setPtp (b : Bridge) (p : PortRef) (t : Mstid) (f : PerTreePort → PerTreePort) :
    Bridge :=
  b.setPtps (fun p' t' => p' == p && t' == t) f

/-- `FOREACH_PTP_IN_TREE`. -/
def Bridge.setPtpsOfTree (b : Bridge) (t : Mstid) (f : PerTreePort → PerTreePort) : Bridge :=
  b.setPtps (fun _ t' => t' == t) f

/-- `FOREACH_PTP_IN_PORT`. -/
def Bridge.setPtpsOfPort (b : Bridge) (p : PortRef) (f : PerTreePort → PerTreePort) : Bridge :=
  b.setPtps (fun p' _ => p' == p) f

/-- `list_for_each_entry_continue` from the CIST's entry of a port: the entries of the MSTIs. -/
def Bridge.setMstisOfPort (b : Bridge) (p : PortRef) (f : PerTreePort → PerTreePort) : Bridge :=
  b.setPtps (fun p' t' => p' == p && t' != 0) f

/-- One more thing done to the outside. -/
def Bridge.emit (b : Bridge) (o : Output) : Bridge := { b with out := b.out ++ [o] }

/-! ## What an assignment leaves alone -/

section Frames

variable (b : Bridge) (p p' : PortRef) (t t' : Mstid) (f : Port → Port) (g : Tree → Tree)
  (sel : PortRef → Mstid → Bool) (h : PerTreePort → PerTreePort) (o : Output)

@[simp] theorem setPort_uptime : (b.setPort p f).uptime = b.uptime := rfl
@[simp] theorem setPort_tree : (b.setPort p f).tree = b.tree := rfl
@[simp] theorem setPort_ptp : (b.setPort p f).ptp = b.ptp := rfl
theorem setPort_port :
    (b.setPort p f).port p' = if p' = p then f (b.port p') else b.port p' := rfl

@[simp] theorem setPort_port_self : (b.setPort p f).port p = f (b.port p) := by
  rw [setPort_port, if_pos rfl]

@[simp] theorem setTree_conf : (b.setTree t g).conf = b.conf := rfl
@[simp] theorem setTree_uptime : (b.setTree t g).uptime = b.uptime := rfl
@[simp] theorem setTree_port : (b.setTree t g).port = b.port := rfl
@[simp] theorem setTree_ptp : (b.setTree t g).ptp = b.ptp := rfl
@[simp] theorem setTree_out : (b.setTree t g).out = b.out := rfl

theorem setTree_tree :
    (b.setTree t g).tree t' = if t' = t then g (b.tree t') else b.tree t' := rfl

@[simp] theorem setTree_tree_self : (b.setTree t g).tree t = g (b.tree t) := by
  rw [setTree_tree, if_pos rfl]

@[simp] theorem setPtps_conf : (b.setPtps sel h).conf = b.conf := rfl
@[simp] theorem setPtps_uptime : (b.setPtps sel h).uptime = b.uptime := rfl
@[simp] theorem setPtps_port : (b.setPtps sel h).port = b.port := rfl
@[simp] theorem setPtps_tree : (b.setPtps sel h).tree = b.tree := rfl
@[simp] theorem setPtps_out : (b.setPtps sel h).out = b.out := rfl

theorem setPtps_ptp :
    (b.setPtps sel h).ptp p t = if sel p t then h (b.ptp p t) else b.ptp p t := rfl

@[simp] theorem setPtp_conf : (b.setPtp p t h).conf = b.conf := rfl
@[simp] theorem setPtp_uptime : (b.setPtp p t h).uptime = b.uptime := rfl
@[simp] theorem setPtp_port : (b.setPtp p t h).port = b.port := rfl
@[simp] theorem setPtp_tree : (b.setPtp p t h).tree = b.tree := rfl
@[simp] theorem setPtp_out : (b.setPtp p t h).out = b.out := rfl

theorem setPtp_ptp :
    (b.setPtp p t h).ptp p' t' =
      if p' = p ∧ t' = t then h (b.ptp p' t') else b.ptp p' t' := by
  simp only [Bridge.setPtp, setPtps_ptp, Bool.and_eq_true, beq_iff_eq]

@[simp] theorem setPtp_ptp_self : (b.setPtp p t h).ptp p t = h (b.ptp p t) := by
  rw [setPtp_ptp, if_pos ⟨rfl, rfl⟩]

@[simp] theorem setPtpsOfTree_conf : (b.setPtpsOfTree t h).conf = b.conf := rfl
@[simp] theorem setPtpsOfTree_port : (b.setPtpsOfTree t h).port = b.port := rfl
@[simp] theorem setPtpsOfTree_tree : (b.setPtpsOfTree t h).tree = b.tree := rfl
@[simp] theorem setPtpsOfTree_out : (b.setPtpsOfTree t h).out = b.out := rfl

theorem setPtpsOfTree_ptp :
    (b.setPtpsOfTree t h).ptp p' t' = if t' = t then h (b.ptp p' t') else b.ptp p' t' := by
  simp only [Bridge.setPtpsOfTree, setPtps_ptp, beq_iff_eq]

@[simp] theorem setPtpsOfPort_conf : (b.setPtpsOfPort p h).conf = b.conf := rfl
@[simp] theorem setPtpsOfPort_port : (b.setPtpsOfPort p h).port = b.port := rfl
@[simp] theorem setPtpsOfPort_tree : (b.setPtpsOfPort p h).tree = b.tree := rfl
@[simp] theorem setPtpsOfPort_out : (b.setPtpsOfPort p h).out = b.out := rfl

theorem setPtpsOfPort_ptp :
    (b.setPtpsOfPort p h).ptp p' t' = if p' = p then h (b.ptp p' t') else b.ptp p' t' := by
  simp only [Bridge.setPtpsOfPort, setPtps_ptp, beq_iff_eq]

@[simp] theorem setMstisOfPort_conf : (b.setMstisOfPort p h).conf = b.conf := rfl
@[simp] theorem setMstisOfPort_port : (b.setMstisOfPort p h).port = b.port := rfl
@[simp] theorem setMstisOfPort_tree : (b.setMstisOfPort p h).tree = b.tree := rfl
@[simp] theorem setMstisOfPort_out : (b.setMstisOfPort p h).out = b.out := rfl

theorem setMstisOfPort_ptp :
    (b.setMstisOfPort p h).ptp p' t' =
      if p' = p ∧ t' ≠ 0 then h (b.ptp p' t') else b.ptp p' t' := by
  simp only [Bridge.setMstisOfPort, setPtps_ptp, Bool.and_eq_true, beq_iff_eq, bne_iff_ne]

@[simp] theorem emit_conf : (b.emit o).conf = b.conf := rfl
@[simp] theorem emit_uptime : (b.emit o).uptime = b.uptime := rfl
@[simp] theorem emit_port : (b.emit o).port = b.port := rfl
@[simp] theorem emit_tree : (b.emit o).tree = b.tree := rfl
@[simp] theorem emit_ptp : (b.emit o).ptp = b.ptp := rfl
@[simp] theorem emit_out : (b.emit o).out = b.out ++ [o] := rfl

end Frames

theorem mem_places {b : Bridge} {p : PortRef} {t : Mstid} :
    (p, t) ∈ b.places ↔ p ∈ b.conf.ports ∧ t ∈ b.conf.trees := by
  simp [Bridge.places]

end Mstpd
