import TfPack.Mstpd.Runs

set_option autoImplicit false

/-! # The spanning tree daemon: ports and BPDUs

The external events `MSTP_IN_xxx` of `mstp.c` that come from the kernel: bridges and ports appear,
go up and down and away, a second passes, a BPDU arrives. The calls of `malloc` succeed.
-/

namespace Mstpd

open BigEndian

/-! ## Creation -/

def computePcost (speed : Int) : UInt32 :=
  if 0 < speed then if speed < 20000000 then .ofInt (20000000 / speed) else 1 else MAX_PATH_COST

/-- `port_default_internal_vars`. -/
def portDefaultInternalVars (prt : Port) : Port :=
  { prt with
    infoInternal := false
    rcvdInternal := false
    rcvdTcAck := false
    rcvdTcn := false
    rapidAgeingWhile := 0
    brAssuRcvdInfoWhile := 0
    BaInconsistent := false
    num_rx_bpdu_filtered := 0
    num_rx_bpdu := 0
    num_rx_tcn := 0
    num_tx_bpdu := 0
    num_tx_tcn := 0
    num_trans_fwd := 0
    num_trans_blk := 0 }

/-- `ptp_default_internal_vars`. -/
def ptpDefaultInternalVars (x : PerTreePort) : PerTreePort :=
  { x with
    rcvdTc := false
    tcProp := false
    updtInfo := false
    master := false
    disputed := false
    rcvdInfo := .OtherInfo
    mastered := false
    msgPriority := .zero
    msgTimes := .zero }

/-- `tree_default_internal_vars`. -/
def treeDefaultInternalVars (tree : Tree) : Tree :=
  { tree with
    time_since_topology_change := 0
    topology_change_count := 0
    topology_change := false
    topology_change_port := "None"
    last_topology_change_port := "None" }

/-- The vector of a bridge that takes itself for the root. -/
def ownVector (id : BridgeIdentifier) : PriorityVector :=
  { PriorityVector.zero with RootID := id, RRootID := id, DesignatedBridgeID := id }

/-- The `BridgeTimes` of the trees. -/
def bridgeTimes (conf : BridgeConf) : Times :=
  ⟨conf.MaxHops, conf.Forward_Delay, conf.Max_Age, 0, conf.Hello_Time⟩

/-- `create_tree`. -/
def createTree (conf : BridgeConf) (mac : BitVec 48) (t : Mstid) : Tree :=
  let id : BridgeIdentifier := ⟨0x8000 ||| t, mac⟩
  { BridgeIdentifier := id
    BridgePriority := ownVector id
    BridgeTimes := bridgeTimes conf
    rootPortId := 0
    rootPriority := .zero
    rootTimes := .zero
    time_since_topology_change := 0
    topology_change_count := 0
    topology_change := false
    topology_change_port := "None"
    last_topology_change_port := "None"
    PRSSM_state := .INIT_TREE }

/-- `create_ptp`; what is not set is zero. -/
def createPtp (tree : Tree) (prt : Port) : PerTreePort where
  portId := 0x8000 ||| prt.conf.port_number
  InternalPortPathCost := computePcost prt.conf.speed
  AdminInternalPortPathCost := 0
  state := .DISABLED
  fdWhile := 0
  rrWhile := 0
  rbWhile := 0
  tcWhile := 0
  rcvdInfoWhile := 0
  agree := false
  agreed := false
  disputed := false
  forward := false
  forwarding := false
  learn := false
  learning := false
  rcvdInfo := .OtherInfo
  infoIs := .ioDisabled
  proposed := false
  proposing := false
  rcvdMsg := false
  rcvdTc := false
  reRoot := false
  reselect := false
  selected := false
  fdbFlush := false
  tcProp := false
  updtInfo := false
  sync := false
  synced := false
  role := .Disabled
  selectedRole := .Disabled
  designatedPriority := .zero
  msgPriority := .zero
  portPriority := tree.BridgePriority
  designatedTimes := .zero
  msgTimes := .zero
  portTimes := tree.BridgeTimes
  master := false
  mastered := false
  start_time := 0
  PISM_state := .DISABLED
  PRTSM_state := .INIT_PORT
  PSTSM_state := .DISCARDING
  TCSM_state := .INACTIVE
  rcvdMstiConfig := none

/-- The `port_t` of `create_if` and `MSTP_IN_port_create_and_add_tail`; what is not set is zero. -/
def createPort (name : String) (portno : UInt16) : Port where
  conf :=
    { name := name
      port_number := portno
      speed := 0
      duplex := 0
      restrictedRole := false
      restrictedTcn := false
      AdminExternalPortPathCost := 0
      AdminP2P := .p2pAuto
      AdminEdgePort := false
      AutoEdge := true
      BpduGuardPort := false
      NetworkPort := false
      dontTxmtBpdu := false
      bpduFilterPort := false }
  mdelayWhile := 0
  helloWhen := 0
  edgeDelayWhile := 0
  txCount := 0
  operEdge := false
  portEnabled := false
  infoInternal := false
  rcvdInternal := false
  mcheck := false
  rcvdBpdu := false
  rcvdRSTP := false
  rcvdSTP := false
  rcvdTcAck := false
  rcvdTcn := false
  sendRSTP := false
  tcAck := false
  newInfo := false
  newInfoMsti := false
  operPointToPointMAC := false
  ExternalPortPathCost := MAX_PATH_COST
  BpduGuardError := false
  BaInconsistent := false
  rapidAgeingWhile := 0
  brAssuRcvdInfoWhile := 0
  PRSM_state := .DISCARD
  PPMSM_state := .CHECKING_RSTP
  BDSM_state := .EDGE
  PTSM_state := .TRANSMIT_INIT
  rcvdBpduData := .zero
  rcvdBpduNumOfMstis := 0
  deleted := false
  num_rx_bpdu_filtered := 0
  num_rx_bpdu := 0
  num_rx_tcn := 0
  num_tx_bpdu := 0
  num_tx_tcn := 0
  num_trans_fwd := 0
  num_trans_blk := 0

/-- `MSTP_IN_port_create_and_add_tail`, called for a port that is not on the list and whose number
has been checked. -/
def portCreate (c : Budget) (p : PortRef) (name : String) (portno : UInt16) (b : Bridge) :
    Option Bridge :=
  if p ∈ b.conf.ports ∨ portno = 0 ∨ 4095 < portno then some b
  else
    let prt := createPort name portno
    let b : Bridge :=
      { b with
        port := fun p' => if p' = p then prt else b.port p'
        ptp := fun p' t => if p' = p then createPtp (b.tree t) prt else b.ptp p' t
        conf := { b.conf with ports := b.conf.ports ++ [p] } }
    prtStateMachinesBegin c b p

/-- `MSTP_IN_delete_port`. -/
def deletePort (c : Budget) (p : PortRef) (b : Bridge) : Option Bridge :=
  if p ∉ b.conf.ports then some b
  else
    let b' := b.setPort p (fun prt => { prt with deleted := true, portEnabled := false })
    let stopped := if (b.port p).portEnabled then brStateMachinesRun c b' else some b'
    stopped.bind fun b =>
      brStateMachinesRun c { b with conf := { b.conf with ports := b.conf.ports.erase p } }

/-! ## Up and down -/

/-- `MSTP_IN_set_bridge_address`. -/
def setBridgeAddress (c : Budget) (mac : BitVec 48) (b : Bridge) : Option Bridge :=
  let changed := b.conf.trees.any (fun t => (b.tree t).BridgeIdentifier.mac_address != mac)
  let b := b.forTrees b.conf.trees (fun b t => b.setTree t (fun tree =>
    if tree.BridgeIdentifier.mac_address = mac then tree
    else
      let id := { tree.BridgeIdentifier with mac_address := mac }
      { tree with
        BridgeIdentifier := id
        BridgePriority :=
          { tree.BridgePriority with RootID := id, RRootID := id, DesignatedBridgeID := id } }))
  if changed then brStateMachinesBegin c b else some b

/-- What `MSTP_IN_set_bridge_enable` does to a port: its ageing time, its variables and those of
its entries. -/
def resetPort (b : Bridge) (p : PortRef) : Bridge :=
  let b :=
    if (b.port p).rapidAgeingWhile ≠ 0 then mstpOutSetAgeingTime b p b.conf.Ageing_Time else b
  let b := b.setPort p portDefaultInternalVars
  b.forPlaces (b.placesOfPort p) (fun b p t =>
    let b := if (b.ptp p t).state ≠ .DISABLED then mstpOutSetState b p t .DISABLED else b
    b.setPtp p t ptpDefaultInternalVars)

/-- `MSTP_IN_set_bridge_enable`. -/
def setBridgeEnable (c : Budget) (up : Bool) (b : Bridge) : Option Bridge :=
  if b.conf.bridgeEnabled = up then some b
  else
    let b := { b with conf := { b.conf with bridgeEnabled := up }, uptime := 0 }
    let b := b.forTrees b.conf.trees (fun b t => b.setTree t treeDefaultInternalVars)
    brStateMachinesBegin c (b.forPorts b.conf.ports resetPort)

/-- Whether a link counts as point to point. -/
def AdminP2P.oper (a : AdminP2P) (duplex : Int) : Bool :=
  match a with
  | .p2pForceTrue => true
  | .p2pForceFalse => false
  | .p2pAuto => duplex != 0

/-- A path cost: the administrative one, the computed one when that is zero. -/
def pathCost (admin computed : UInt32) : UInt32 := if admin = 0 then computed else admin

/-- The fields that `MSTP_IN_set_port_enable` sets when the port comes up. -/
def enablePort (prt : Port) (Hello_Time : UInt8) : Port :=
  if prt.portEnabled then prt
  else
    { prt with
      portEnabled := true
      BpduGuardError := false
      BaInconsistent := false
      num_rx_bpdu_filtered := 0
      num_rx_bpdu := 0
      num_rx_tcn := 0
      num_tx_bpdu := 0
      num_tx_tcn := 0
      brAssuRcvdInfoWhile := 3 * Hello_Time.toNat }

/-- `MSTP_IN_set_port_enable`, with the speed and the duplex that `set_if_up` has stored in the
port. -/
def setPortEnable (c : Budget) (p : PortRef) (up : Bool) (speed duplex : Int) (b : Bridge) :
    Option Bridge :=
  if p ∉ b.conf.ports then some b
  else if up then
    let prt := b.port p
    let cost := computePcost speed
    let ext := pathCost prt.conf.AdminExternalPortPathCost cost
    let p2p := prt.conf.AdminP2P.oper duplex
    let changed := prt.ExternalPortPathCost != ext || prt.operPointToPointMAC != p2p ||
      !prt.portEnabled ||
      b.conf.trees.any (fun t => (b.ptp p t).InternalPortPathCost !=
        pathCost (b.ptp p t).AdminInternalPortPathCost cost)
    let Hello_Time := (b.cist p).portTimes.Hello_Time
    let b := b.setPort p (fun prt =>
      { prt with
        conf := { prt.conf with speed := speed, duplex := duplex }
        ExternalPortPathCost := ext
        operPointToPointMAC := p2p })
    let b := b.setPtpsOfPort p (fun x =>
      { x with InternalPortPathCost := pathCost x.AdminInternalPortPathCost cost })
    let b := b.setPort p (fun prt => enablePort prt Hello_Time)
    if changed then brStateMachinesRun c b else some b
  else if (b.port p).portEnabled then
    brStateMachinesRun c (b.setPort p (fun prt => { prt with portEnabled := false }))
  else some b

/-! ## Time -/

/-- The timers of a port in `PTSM_tick`. -/
def tickPort (prt : Port) : Port :=
  { prt with
    helloWhen := prt.helloWhen - 1
    mdelayWhile := prt.mdelayWhile - 1
    edgeDelayWhile := prt.edgeDelayWhile - 1
    txCount := prt.txCount - 1
    brAssuRcvdInfoWhile := prt.brAssuRcvdInfoWhile - 1 }

/-- The timers of an entry in `PTSM_tick`. -/
def tickPtp (x : PerTreePort) : PerTreePort :=
  { x with
    fdWhile := x.fdWhile - 1
    rrWhile := x.rrWhile - 1
    rbWhile := x.rbWhile - 1
    tcWhile := x.tcWhile - 1
    rcvdInfoWhile := x.rcvdInfoWhile - 1 }

def ptsmTick (b : Bridge) (p : PortRef) : Bridge :=
  (b.setPort p tickPort).forPlaces (b.placesOfPort p) (fun b p t =>
    let ends := (b.ptp p t).tcWhile = 1
    let b := b.setPtp p t tickPtp
    if ends then checkTopologyChange b t else b)

/-- The rapid ageing of a port in `MSTP_IN_one_second`. -/
def tickAgeing (b : Bridge) (p : PortRef) : Bridge :=
  let prt := b.port p
  let ends := prt.rapidAgeingWhile = 1 ∧ prt.deleted = false
  let b := b.setPort p (fun prt => { prt with rapidAgeingWhile := prt.rapidAgeingWhile - 1 })
  if ends then mstpOutSetAgeingTime b p b.conf.Ageing_Time else b

/-- `MSTP_IN_one_second`. -/
def oneSecond (c : Budget) (b : Bridge) : Option Bridge :=
  let b := { b with uptime := b.uptime + 1 }
  if !b.conf.bridgeEnabled then some b
  else
    let b := b.forTrees b.conf.trees (fun b t => b.setTree t (fun tree =>
      if tree.topology_change then tree
      else { tree with time_since_topology_change := tree.time_since_topology_change + 1 }))
    brStateMachinesRun c (b.forPorts b.conf.ports (fun b p => tickAgeing (ptsmTick b p) p))

/-! ## Received BPDUs -/

/-- The validation in `MSTP_IN_rx_bpdu`: the version the BPDU is taken for, and how many MSTI
messages it says it carries when that is MSTP. The length of the messages is read from the BPDU and
not compared with its size. -/
def validate (r : Bpdu) (size : Nat) : Option (UInt8 × Option Nat) :=
  let mstis_size : Int := (r.version3_len.toNat : Int) - MST_BPDU_VER3LEN_WO_MSTI_MSGS
  if size < TCN_BPDU_SIZE ∨ r.protocolIdentifier ≠ 0 then none
  else if r.bpduType = bpduTypeTCN then some (protoSTP, none)
  else if r.bpduType = bpduTypeConfig then
    if size < CONFIG_BPDU_SIZE then none else some (protoSTP, none)
  else if r.bpduType = bpduTypeRST then
    if r.protocolVersion = protoRSTP then
      if size < RST_BPDU_SIZE then none else some (protoRSTP, none)
    else if r.protocolVersion < protoMSTP then none
    else if size < CONFIG_BPDU_SIZE then none
    else if size < MST_BPDU_SIZE_WO_MSTI_MSGS ∨ r.version1_len ≠ 0 ∨ mstis_size < 0 ∨
        MAX_STANDARD_MSTIS * MSTI_MESSAGE_SIZE < mstis_size ∨
        mstis_size % MSTI_MESSAGE_SIZE ≠ 0 then
      some (protoRSTP, none)
    else some (protoMSTP, some (mstis_size / MSTI_MESSAGE_SIZE).toNat)
  else none

/-- A valid BPDU is stored in the port. -/
def storeBpdu (r : Bpdu) (version : UInt8) (mstis : Option Nat) (prt : Port) : Port :=
  let r := { r with protocolVersion := version }
  { prt with
    num_rx_tcn :=
      if (version == protoSTP && r.bpduType == bpduTypeTCN) || has r.flags flagTc then
        prt.num_rx_tcn + 1
      else prt.num_rx_tcn
    rcvdBpduData := r
    rcvdBpduNumOfMstis := mstis.getD prt.rcvdBpduNumOfMstis
    rcvdBpdu := true
    BaInconsistent := false }

/-- `MSTP_IN_rx_bpdu`, for a BPDU at the start of `mem`. -/
def rxBpdu (c : Budget) (p : PortRef) (mem : Nat → UInt8) (size : Nat) (b : Bridge) :
    Option Bridge :=
  let b := b.setPort p (fun prt => { prt with num_rx_bpdu := prt.num_rx_bpdu + 1 })
  let prt := b.port p
  if prt.conf.BpduGuardPort then
    some ((b.setPort p (fun prt => { prt with BpduGuardError := true })).emit (.shutdownPort p))
  else if prt.conf.bpduFilterPort then
    some (b.setPort p (fun prt =>
      { prt with num_rx_bpdu_filtered := prt.num_rx_bpdu_filtered + 1 }))
  else if !b.conf.bridgeEnabled then some b
  else if prt.rcvdBpdu then some b
  else
    match validate (Bpdu.read mem) size with
    | none => some b
    | some (version, mstis) =>
        let b := b.setPort p (storeBpdu (Bpdu.read mem) version mstis)
        brStateMachinesRun c (updtbrAssuRcvdInfoWhile b p)

end Mstpd
