import TfPack.Mstpd.Bpdu
import TfPack.Mstpd.Vectors

set_option autoImplicit false

/-! # The spanning tree daemon: the procedures of the state machines

The procedures 13.26 of `mstp.c`, with what `bridge_track.c` and `driver_deps.c` do for the
`MSTP_OUT_xxx` calls: the driver takes every state and every ageing time it is given, and a flush
is completed at once.
-/

namespace Mstpd

/-! ## Actions on the outside -/

/-- `MSTP_OUT_set_state`. -/
def mstpOutSetState (b : Bridge) (p : PortRef) (t : Mstid) (new_state : BrState) : Bridge :=
  if (b.ptp p t).state = new_state then b
  else
    let b := b.setPtp p t (fun x => { x with state := new_state })
    let b := b.setPort p (fun prt =>
      match new_state with
      | .FORWARDING => { prt with num_trans_fwd := prt.num_trans_fwd + 1 }
      | .BLOCKING => { prt with num_trans_blk := prt.num_trans_blk + 1 }
      | _ => prt)
    b.emit (.setState p t new_state)

/-- `MSTP_OUT_flush_all_fids`; the driver calls `MSTP_IN_all_fids_flushed` before it returns. -/
def mstpOutFlushAllFids (b : Bridge) (p : PortRef) (t : Mstid) : Bridge :=
  (b.emit (.flushAllFids p t)).setPtp p t (fun x => { x with fdbFlush := false })

/-- `MSTP_OUT_set_ageing_time`. -/
def mstpOutSetAgeingTime (b : Bridge) (p : PortRef) (ageingTime : Nat) : Bridge :=
  b.emit (.setAgeingTime p ageingTime)

/-- `MSTP_OUT_tx_bpdu`. -/
def mstpOutTxBpdu (b : Bridge) (p : PortRef) (bpdu : Bpdu) (size : Nat) : Bridge :=
  let tcn := bpdu.protocolVersion == protoSTP && bpdu.bpduType == bpduTypeTCN
  let b := b.setPort p (fun prt =>
    { prt with
      num_tx_bpdu := prt.num_tx_bpdu + 1
      num_tx_tcn := if tcn || has bpdu.flags flagTc then prt.num_tx_tcn + 1 else prt.num_tx_tcn })
  b.emit (.txBpdu p (bpdu.bytes.take size))

/-! ## Topology changes -/

/-- `set_TopologyChange` with `hint_SetToYes`. -/
def setTopologyChange (b : Bridge) (t : Mstid) (p : PortRef) : Bridge :=
  b.setTree t (fun tree =>
    { tree with
      topology_change := true
      time_since_topology_change := 0
      topology_change_count :=
        if tree.topology_change then tree.topology_change_count
        else tree.topology_change_count + 1
      topology_change_port := tree.last_topology_change_port
      last_topology_change_port := (b.port p).conf.name })

/-- `set_TopologyChange` without `hint_SetToYes`. -/
def checkTopologyChange (b : Bridge) (t : Mstid) : Bridge :=
  let pending := b.conf.ports.any (fun p => (b.ptp p t).tcWhile != 0)
  b.setTree t (fun tree =>
    if !tree.topology_change then tree
    else if pending then { tree with topology_change := true, time_since_topology_change := 0 }
    else { tree with topology_change := false })

/-- `newInfoXst = TRUE`. -/
def setNewInfo (b : Bridge) (p : PortRef) (t : Mstid) : Bridge :=
  b.setPort p (fun prt =>
    if t = 0 then { prt with newInfo := true } else { prt with newInfoMsti := true })

def newTcWhile (b : Bridge) (p : PortRef) (t : Mstid) : Bridge :=
  if (b.ptp p t).tcWhile != 0 then b
  else if (b.port p).sendRSTP then
    let b' := b.setPtp p t
      (fun x => { x with tcWhile := (b.cist p).portTimes.Hello_Time.toNat + 1 })
    setNewInfo (setTopologyChange b' t p) p t
  else
    let times := (b.tree t).rootTimes
    let b' := b.setPtp p t
      (fun x => { x with tcWhile := times.Max_Age.toNat + times.Forward_Delay.toNat })
    setTopologyChange b' t p

def setFdbFlush (b : Bridge) (p : PortRef) (t : Mstid) : Bridge :=
  let prt := b.port p
  if prt.operEdge || prt.deleted then b.setPtp p t (fun x => { x with fdbFlush := false })
  else if b.rstpVersion then
    mstpOutFlushAllFids (b.setPtp p t (fun x => { x with fdbFlush := true })) p t
  else
    let FwdDelay := (b.cist p).designatedTimes.Forward_Delay.toNat
    let b := mstpOutSetAgeingTime b p FwdDelay
    let b := b.setPort p (fun prt => { prt with rapidAgeingWhile := FwdDelay })
    b.setPtp p t (fun x => { x with fdbFlush := false })

def setTcPropTree (b : Bridge) (p : PortRef) (t : Mstid) : Bridge :=
  if (b.port p).conf.restrictedTcn then b
  else b.setPtps (fun p' t' => t' == t && p' != p) (fun x => { x with tcProp := true })

/-! ## Received information -/

/-- The MSTI message that `rcvdMstiConfig` points to. -/
def Bridge.rcvdMsti (b : Bridge) (p : PortRef) (t : Mstid) : MstiMessage :=
  match (b.ptp p t).rcvdMstiConfig with
  | none => .zero
  | some i => (b.port p).rcvdBpduData.mstConfiguration.getD i .zero

/-- The flags a BPDU carries for a tree. -/
def Bridge.rcvdFlags (b : Bridge) (p : PortRef) (t : Mstid) : UInt8 :=
  if t = 0 then (b.port p).rcvdBpduData.flags else (b.rcvdMsti p t).flags

def betterorsameInfo (b : Bridge) (p : PortRef) (t : Mstid) (newInfoIs : InfoIs) : Bool :=
  let x := b.ptp p t
  if newInfoIs = .ioReceived ∧ x.infoIs = .ioReceived then
    betterorsamePriority x.msgPriority x.portPriority 0 0 (t == 0)
  else if newInfoIs = .ioMine ∧ x.infoIs = .ioMine then
    betterorsamePriority x.designatedPriority x.portPriority 0 0 (t == 0)
  else false

def fromSameRegion (b : Bridge) (p : PortRef) : Bool :=
  let r := (b.port p).rcvdBpduData
  if r.protocolVersion < protoMSTP then false
  else b.conf.MstConfigId == r.mstConfigurationIdentifier

/-- `NEAREST_WHOLE_SECOND`. -/
def nearestWholeSecond (msgTime : UInt8 × UInt8) : UInt8 :=
  if msgTime.2 < 128 then msgTime.1 else msgTime.1 + 1

/-- The priority vector of a received BPDU for the CIST. -/
def cistMsgPriority (r : Bpdu) : PriorityVector where
  RRootID := r.cistRRootID
  DesignatedPortID := r.cistPortID
  RootID := r.cistRootID
  ExtRootPathCost := r.cistExtRootPathCost
  IntRootPathCost := if r.protocolVersion < protoMSTP then 0 else r.cistIntRootPathCost
  DesignatedBridgeID := if r.protocolVersion < protoMSTP then r.cistRRootID else r.cistBridgeID

/-- The times of a received BPDU for the CIST. -/
def cistMsgTimes (r : Bpdu) (MaxHops : UInt8) : Times where
  Forward_Delay := nearestWholeSecond r.ForwardDelay
  Max_Age := nearestWholeSecond r.MaxAge
  Message_Age := nearestWholeSecond r.MessageAge
  Hello_Time := nearestWholeSecond r.HelloTime
  remainingHops := if r.protocolVersion < protoMSTP then MaxHops else r.cistRemainingHops

/-- The priority vector of a received MSTI message; the components for the CIST stay as they
are. -/
def mstiMsgPriority (r : Bpdu) (m : MstiMessage) (t : Mstid) (old : PriorityVector) :
    PriorityVector :=
  { old with
    RRootID := m.mstiRRootID
    IntRootPathCost := m.mstiIntRootPathCost
    DesignatedBridgeID :=
      { r.cistBridgeID with priority := setPriority m.bridgeIdentifierPriority t }
    DesignatedPortID := setPriority m.portIdentifierPriority r.cistPortID }

/-- The end of `rcvInfo`: what a message is, when its vector and times have been recorded. -/
def classifyInfo (x : PerTreePort) (roleIsDesignated cist : Bool) : PortInfo :=
  let msg_Better_port := !betterorsamePriority x.portPriority x.msgPriority 0 0 cist
  if roleIsDesignated then
    if msg_Better_port ||
        (x.msgPriority.DesignatedBridgeID.mac_address ==
            x.portPriority.DesignatedBridgeID.mac_address &&
          (x.msgPriority.DesignatedPortID ^^^ x.portPriority.DesignatedPortID) &&&
            (0x0FFF : UInt16) == 0) then
      .SuperiorDesignatedInfo
    else
      let same := samePriorityAndTimers x.msgPriority x.portPriority x.msgTimes x.portTimes cist
      if !same && betterorsamePriority x.msgPriority x.portPriority 0 0 cist then
        .SuperiorDesignatedInfo
      else if same && x.infoIs == .ioReceived then .RepeatedDesignatedInfo
      else .InferiorDesignatedInfo
  else if !msg_Better_port then .InferiorRootAlternateInfo
  else .OtherInfo

/-- Whether the sender of a received BPDU is Designated for the CIST; `none` for other
information. -/
def cistRoleIsDesignated (r : Bpdu) : Option Bool :=
  if r.protocolVersion = protoSTP then some true
  else
    match flagsRoleGet r.flags with
    | .AlternateBackup => some false
    | .Root => some false
    | .Designated => some true
    | .Master => if r.protocolVersion = protoRSTP then some true else none

/-- Whether the sender of an MSTI message is Designated; `none` for other information. -/
def mstiRoleIsDesignated (m : MstiMessage) : Option Bool :=
  match flagsRoleGet m.flags with
  | .AlternateBackup => some false
  | .Root => some false
  | .Designated => some true
  | .Master => none

/-- `rcvInfo`, with what it records in the port and in its entries. -/
def rcvInfo (b : Bridge) (p : PortRef) (t : Mstid) : Bridge × PortInfo :=
  let r := (b.port p).rcvdBpduData
  if r.bpduType = bpduTypeTCN then
    let b := b.setPort p (fun prt => { prt with rcvdTcn := true })
    (b.setPtpsOfPort p (fun x => { x with rcvdTc := true }), .OtherInfo)
  else if t = 0 then
    match cistRoleIsDesignated r with
    | none => (b, .OtherInfo)
    | some roleIsDesignated =>
        let b := b.setPtp p t (fun x =>
          { x with
            msgPriority := cistMsgPriority r
            msgTimes := cistMsgTimes r b.conf.MaxHops })
        (b, classifyInfo (b.ptp p t) roleIsDesignated true)
  else if r.protocolVersion < protoMSTP then (b, .OtherInfo)
  else
    let m := b.rcvdMsti p t
    match mstiRoleIsDesignated m with
    | none => (b, .OtherInfo)
    | some roleIsDesignated =>
        let b := b.setPtp p t (fun x =>
          { x with
            msgPriority := mstiMsgPriority r m t x.msgPriority
            msgTimes := { x.msgTimes with remainingHops := m.remainingHops } })
        (b, classifyInfo (b.ptp p t) roleIsDesignated false)

def recordAgreement (b : Bridge) (p : PortRef) (t : Mstid) : Bridge :=
  let prt := b.port p
  let r := prt.rcvdBpduData
  let cist := b.cist p
  if t = 0 then
    let b :=
      if b.rstpVersion && prt.operPointToPointMAC && has r.flags flagAgreement then
        b.setPtp p t (fun x => { x with agreed := true, proposing := false })
      else b.setPtp p t (fun x => { x with agreed := false })
    let cist := b.ptp p t
    if prt.rcvdInternal then b
    else
      b.setMstisOfPort p
        (fun x => { x with agreed := cist.agreed, proposing := cist.proposing })
  else if prt.operPointToPointMAC && r.cistRootID == cist.portPriority.RootID &&
      r.cistExtRootPathCost == cist.portPriority.ExtRootPathCost &&
      r.cistRRootID == cist.portPriority.RRootID &&
      has (b.rcvdMsti p t).flags flagAgreement then
    b.setPtp p t (fun x => { x with agreed := true, proposing := false })
  else b.setPtp p t (fun x => { x with agreed := false })

def recordDispute (b : Bridge) (p : PortRef) (t : Mstid) : Bridge :=
  if has (b.rcvdFlags p t) flagLearning then
    let f := fun (x : PerTreePort) => { x with disputed := true, agreed := false }
    let b' := b.setPtp p t f
    if t = 0 && !(b.port p).rcvdInternal then b'.setMstisOfPort p f else b'
  else b

def recordMastered (b : Bridge) (p : PortRef) (t : Mstid) : Bridge :=
  let prt := b.port p
  if t = 0 then
    if prt.rcvdInternal then b else b.setMstisOfPort p (fun x => { x with mastered := false })
  else
    let mastered := prt.operPointToPointMAC && has (b.rcvdMsti p t).flags flagMaster
    b.setPtp p t (fun x => { x with mastered := mastered })

def recordPriority (b : Bridge) (p : PortRef) (t : Mstid) : Bridge :=
  b.setPtp p t (fun x => { x with portPriority := x.msgPriority })

def recordProposal (b : Bridge) (p : PortRef) (t : Mstid) : Bridge :=
  let b' :=
    if has (b.rcvdFlags p t) flagProposal then
      b.setPtp p t (fun x => { x with proposed := true })
    else b
  let proposed := (b'.ptp p t).proposed
  if t = 0 && !(b.port p).rcvdInternal then
    b'.setMstisOfPort p (fun x => { x with proposed := proposed })
  else b'

/-- The configured Hello Time stays. -/
def recordTimes (b : Bridge) (p : PortRef) (t : Mstid) : Bridge :=
  b.setPtp p t (fun x =>
    { x with portTimes := { x.msgTimes with Hello_Time := x.portTimes.Hello_Time } })

/-- For the CIST a topology change from another region sets `proposed` of the MSTIs. -/
def setTcFlags (b : Bridge) (p : PortRef) (t : Mstid) : Bridge :=
  let flags := b.rcvdFlags p t
  let external := t = 0 && !(b.port p).rcvdInternal
  let b :=
    if t = 0 && has flags flagTcAck then b.setPort p (fun prt => { prt with rcvdTcAck := true })
    else b
  if has flags flagTc then
    let b := b.setPtp p t (fun x => { x with rcvdTc := true })
    if external then b.setMstisOfPort p (fun x => { x with proposed := true }) else b
  else b

def updtRcvdInfoWhile (b : Bridge) (p : PortRef) (t : Mstid) : Bridge :=
  let prt := b.port p
  let times := (b.cist p).portTimes
  let alive :=
    (!prt.rcvdInternal && decide (times.Message_Age.toNat + 1 ≤ times.Max_Age.toNat)) ||
      (prt.rcvdInternal && decide (1 < (b.ptp p t).portTimes.remainingHops))
  b.setPtp p t (fun x =>
    { x with rcvdInfoWhile := if alive then 3 * times.Hello_Time.toNat else 0 })

def updtBPDUVersion (b : Bridge) (p : PortRef) : Bridge :=
  b.setPort p (fun prt =>
    if protoRSTP ≤ prt.rcvdBpduData.protocolVersion then { prt with rcvdRSTP := true }
    else { prt with rcvdSTP := true })

def updtbrAssuRcvdInfoWhile (b : Bridge) (p : PortRef) : Bridge :=
  let Hello_Time := (b.cist p).portTimes.Hello_Time
  b.setPort p (fun prt => { prt with brAssuRcvdInfoWhile := 3 * Hello_Time.toNat })

/-- The MSTID a message is for. -/
def MstiMessage.mstid (m : MstiMessage) : Mstid := m.mstiRRootID.priority &&& (0x0FFF : UInt16)

/-- The first message for the tree among those the BPDU is said to carry. -/
def Port.findMsti (prt : Port) (t : Mstid) : Option Nat :=
  (prt.rcvdBpduData.mstConfiguration.take prt.rcvdBpduNumOfMstis).findIdx? (fun m => m.mstid == t)

def setRcvdMsgs (b : Bridge) (p : PortRef) : Bridge :=
  let prt := b.port p
  let b := b.setPtp p 0 (fun x => { x with rcvdMsg := true })
  if prt.rcvdInternal then
    { b with
      ptp := fun p' t =>
        if p' = p ∧ t ≠ 0 then
          match prt.findMsti t with
          | none => b.ptp p' t
          | some i => { b.ptp p' t with rcvdMsg := true, rcvdMstiConfig := some i }
        else b.ptp p' t }
  else b

/-! ## All entries of a tree or of a port -/

def clearAllRcvdMsgs (b : Bridge) (p : PortRef) : Bridge :=
  b.setPtpsOfPort p (fun x => { x with rcvdMsg := false })

def clearReselectTree (b : Bridge) (t : Mstid) : Bridge :=
  b.setPtpsOfTree t (fun x => { x with reselect := false })

def setReRootTree (b : Bridge) (t : Mstid) : Bridge :=
  b.setPtpsOfTree t (fun x => { x with reRoot := true })

def setSelectedTree (b : Bridge) (t : Mstid) : Bridge :=
  b.setPtpsOfTree t (fun x => { x with selected := true })

def setSyncTree (b : Bridge) (t : Mstid) : Bridge :=
  b.setPtpsOfTree t (fun x => { x with sync := true })

def updtRolesDisabledTree (b : Bridge) (t : Mstid) : Bridge :=
  b.setPtpsOfTree t (fun x => { x with selectedRole := .Disabled })

def reselectMSTIs (b : Bridge) (p : PortRef) : Bridge :=
  b.setMstisOfPort p (fun x => { x with reselect := true })

def syncMaster (b : Bridge) : Bridge :=
  b.setPtps (fun p t => t != 0 && (b.port p).infoInternal)
    (fun x => { x with agree := false, agreed := false, synced := false, sync := true })

/-! ## Transmission -/

/-- `message_role_from_port_role`; a Disabled port is reported in the log. -/
def messageRoleFromPortRole : Role → EncodedRole
  | .Root => .Root
  | .Designated => .Designated
  | .Alternate => .AlternateBackup
  | .Backup => .AlternateBackup
  | .Master => .Master
  | .Disabled => .AlternateBackup

/-- Add a flag. -/
def orFlag (mask : UInt8) (c : Bool) (flags : UInt8) : UInt8 := if c then flags ||| mask else flags

/-- The flags of an entry, but the last bit. -/
def entryFlags (x : PerTreePort) : UInt8 :=
  flagsRoleSet (messageRoleFromPortRole x.role)
    |> orFlag flagTc (x.tcWhile != 0)
    |> orFlag flagProposal x.proposing
    |> orFlag flagLearning x.learning
    |> orFlag flagForwarding x.forwarding
    |> orFlag flagAgreement x.agree

/-- Whether the port sends nothing at all. -/
def Bridge.mute (b : Bridge) (p : PortRef) : Bool :=
  (b.port p).deleted || (b.cist p).role == .Disabled || (b.port p).conf.dontTxmtBpdu

/-- The fields from `cistRootID` to `ForwardDelay` that `txConfig` and `txMstp` both set, for the
given regional root. -/
def cistFields (cist : PerTreePort) (regionalRoot : BridgeIdentifier) : Bpdu :=
  { Bpdu.zero with
    cistRootID := cist.designatedPriority.RootID
    cistExtRootPathCost := cist.designatedPriority.ExtRootPathCost
    cistRRootID := regionalRoot
    cistPortID := cist.designatedPriority.DesignatedPortID
    MessageAge := (cist.designatedTimes.Message_Age, 0)
    MaxAge := (cist.designatedTimes.Max_Age, 0)
    HelloTime := (cist.portTimes.Hello_Time, 0)
    ForwardDelay := (cist.designatedTimes.Forward_Delay, 0) }

def configBpdu (prt : Port) (cist : PerTreePort) : Bpdu :=
  { cistFields cist cist.designatedPriority.DesignatedBridgeID with
    protocolVersion := protoSTP
    bpduType := bpduTypeConfig
    flags := (if cist.tcWhile != 0 then flagTc else 0) |> orFlag flagTcAck prt.tcAck }

def txConfig (b : Bridge) (p : PortRef) : Bridge :=
  if b.mute p then b
  else mstpOutTxBpdu b p (configBpdu (b.port p) (b.cist p)) CONFIG_BPDU_SIZE

def rstBpdu (cist : PerTreePort) : Bpdu :=
  { cistFields cist cist.designatedPriority.RRootID with
    protocolVersion := protoRSTP
    bpduType := bpduTypeRST
    flags := entryFlags cist }

def mstiMessage (x : PerTreePort) : MstiMessage where
  flags := entryFlags x |> orFlag flagMaster x.master
  mstiRRootID := x.designatedPriority.RRootID
  mstiIntRootPathCost := x.designatedPriority.IntRootPathCost
  bridgeIdentifierPriority := getPriority x.designatedPriority.DesignatedBridgeID.priority
  portIdentifierPriority := getPriority x.designatedPriority.DesignatedPortID
  remainingHops := x.designatedTimes.remainingHops

def mstBpdu (conf : BridgeConf) (cist : PerTreePort) (mstis : List PerTreePort) : Bpdu :=
  { rstBpdu cist with
    protocolVersion := protoMSTP
    mstConfigurationIdentifier := conf.MstConfigId
    cistIntRootPathCost := cist.designatedPriority.IntRootPathCost
    cistBridgeID := cist.designatedPriority.DesignatedBridgeID
    cistRemainingHops := cist.designatedTimes.remainingHops
    version3_len := .ofNat (MST_BPDU_VER3LEN_WO_MSTI_MSGS + MSTI_MESSAGE_SIZE * mstis.length)
    mstConfiguration := mstis.map mstiMessage }

/-- The entries of a port after that of the CIST. -/
def Bridge.mstisOfPort (b : Bridge) (p : PortRef) : List PerTreePort :=
  b.conf.trees.tail.map (b.ptp p)

def txMstp (b : Bridge) (p : PortRef) : Bridge :=
  if b.mute p then b
  else if b.conf.ForceProtocolVersion ≠ .MSTP then
    mstpOutTxBpdu b p (rstBpdu (b.cist p)) RST_BPDU_SIZE
  else
    let mstis := b.mstisOfPort p
    mstpOutTxBpdu b p (mstBpdu b.conf (b.cist p) mstis)
      (MST_BPDU_SIZE_WO_MSTI_MSGS + MSTI_MESSAGE_SIZE * mstis.length)

def txTcn (b : Bridge) (p : PortRef) : Bridge :=
  if b.mute p then b
  else
    mstpOutTxBpdu b p { Bpdu.zero with protocolVersion := protoSTP, bpduType := bpduTypeTCN }
      TCN_BPDU_SIZE

end Mstpd
