import TfPack.Mstpd.Inputs

set_option autoImplicit false

/-! # The spanning tree daemon: configuration

The external events of `mstp.c` that come from the control socket. Where the C structures have a
flag `set_xxx` beside a field, the field is optional here. `hmac_md5` with the key of table 13-1 is
the parameter `digest`.
-/

namespace Mstpd

/-! ## Parameters of bridges and ports -/

/-- `CIST_BridgeConfig`. -/
structure CistBridgeConfig where
  bridge_max_age : Option UInt8
  bridge_forward_delay : Option UInt8
  protocol_version : Option Nat
  tx_hold_count : Option Nat
  max_hops : Option UInt8
  bridge_hello_time : Option UInt8
  bridge_ageing_time : Option Nat

/-- The values of `protocol_version_t`. -/
def protocolVersionOf : Nat → Option ProtocolVersion
  | 0 => some .STP
  | 2 => some .RSTP
  | 3 => some .MSTP
  | _ => none

/-- A field is not set or within its bounds. -/
def within {α : Type} [LE α] [DecidableLE α] (lo hi : α) : Option α → Bool
  | none => true
  | some x => lo ≤ x && x ≤ hi

/-- The validation in `MSTP_IN_set_cist_bridge_config`. -/
def CistBridgeConfig.valid (cfg : CistBridgeConfig) (conf : BridgeConf) : Bool :=
  let new_max_age := cfg.bridge_max_age.getD conf.Max_Age
  let new_forward_delay := cfg.bridge_forward_delay.getD conf.Forward_Delay
  within 6 40 cfg.bridge_max_age && within 4 30 cfg.bridge_forward_delay &&
    (!(cfg.bridge_max_age.isSome || cfg.bridge_forward_delay.isSome) ||
      decide ((new_max_age.toNat : Int) ≤ 2 * ((new_forward_delay.toNat : Int) - 1))) &&
    (cfg.protocol_version.all fun v => (protocolVersionOf v).isSome) &&
    within 1 10 cfg.tx_hold_count && within 6 40 cfg.max_hops &&
    within 1 10 cfg.bridge_hello_time && within 10 1000000 cfg.bridge_ageing_time

/-- The parameters of the bridge after a valid request. -/
def CistBridgeConfig.apply (cfg : CistBridgeConfig) (conf : BridgeConf) : BridgeConf :=
  { conf with
    Max_Age := cfg.bridge_max_age.getD conf.Max_Age
    Forward_Delay := cfg.bridge_forward_delay.getD conf.Forward_Delay
    ForceProtocolVersion :=
      (cfg.protocol_version.bind protocolVersionOf).getD conf.ForceProtocolVersion
    Transmit_Hold_Count := cfg.tx_hold_count.getD conf.Transmit_Hold_Count
    MaxHops := cfg.max_hops.getD conf.MaxHops
    Hello_Time := cfg.bridge_hello_time.getD conf.Hello_Time
    Ageing_Time := cfg.bridge_ageing_time.getD conf.Ageing_Time }

/-- New `BridgeTimes` of a tree: its roles are to be selected anew. -/
def setBridgeTimes (b : Bridge) (t : Mstid) : Bridge :=
  let conf := b.conf
  let b := b.setTree t (fun tree =>
    { tree with
      BridgeTimes :=
        { tree.BridgeTimes with
          remainingHops := conf.MaxHops
          Forward_Delay := conf.Forward_Delay
          Max_Age := conf.Max_Age
          Hello_Time := conf.Hello_Time } })
  b.setPtpsOfTree t (fun x =>
    { x with
      selected := false
      reselect := true
      portTimes := { x.portTimes with Hello_Time := conf.Hello_Time } })

/-- `MSTP_IN_set_cist_bridge_config`. -/
def setCistBridgeConfig (c : Budget) (cfg : CistBridgeConfig) (b : Bridge) : Option Bridge :=
  if !cfg.valid b.conf then some b
  else
    let old := b.conf
    let new := cfg.apply old
    let changedBridgeTimes := new.Max_Age != old.Max_Age ||
      new.Forward_Delay != old.Forward_Delay || new.MaxHops != old.MaxHops ||
      new.Hello_Time != old.Hello_Time
    let init := new.ForceProtocolVersion != old.ForceProtocolVersion
    let changedHold := new.Transmit_Hold_Count != old.Transmit_Hold_Count
    let b : Bridge := { b with conf := new }
    let b :=
      if changedHold then
        b.forPorts b.conf.ports (fun b p => b.setPort p (fun prt => { prt with txCount := 0 }))
      else b
    let b := if changedBridgeTimes then b.forTrees b.conf.trees setBridgeTimes else b
    if (changedBridgeTimes || init || changedHold) && b.conf.bridgeEnabled then
      if init then brStateMachinesBegin c b else brStateMachinesRun c b
    else some b

/-- The roles of a tree are to be selected anew. -/
def reselectTree (b : Bridge) (t : Mstid) : Bridge :=
  b.setPtpsOfTree t (fun x => { x with selected := false, reselect := true })

/-- `MSTP_IN_set_msti_bridge_config`; the machines are not run. -/
def setMstiBridgeConfig (t : Mstid) (bridge_priority : UInt8) (b : Bridge) : Bridge :=
  if t ∉ b.conf.trees ∨ 15 < bridge_priority then b
  else
    let valuePri := bridge_priority <<< 4
    let id := (b.tree t).BridgeIdentifier
    if getPriority id.priority = valuePri then b
    else
      let id := { id with priority := setPriority valuePri id.priority }
      let b := b.setTree t (fun tree =>
        { tree with
          BridgeIdentifier := id
          BridgePriority :=
            { tree.BridgePriority with RootID := id, RRootID := id, DesignatedBridgeID := id } })
      reselectTree b t

/-- `CIST_PortConfig`; an unknown `admin_p2p` is `p2pAuto`. -/
structure CistPortConfig where
  admin_external_port_path_cost : Option UInt32
  admin_p2p : Option AdminP2P
  admin_edge_port : Option Bool
  auto_edge_port : Option Bool
  restricted_role : Option Bool
  restricted_tcn : Option Bool
  bpdu_guard_port : Option Bool
  network_port : Option Bool
  dont_txmt : Option Bool
  bpdu_filter_port : Option Bool

/-- The parameters of the port after the request. -/
def CistPortConfig.apply (cfg : CistPortConfig) (conf : PortConf) : PortConf :=
  { conf with
    AdminExternalPortPathCost :=
      cfg.admin_external_port_path_cost.getD conf.AdminExternalPortPathCost
    AdminP2P := cfg.admin_p2p.getD conf.AdminP2P
    AdminEdgePort := cfg.admin_edge_port.getD conf.AdminEdgePort
    AutoEdge := cfg.auto_edge_port.getD conf.AutoEdge
    restrictedRole := cfg.restricted_role.getD conf.restrictedRole
    restrictedTcn := cfg.restricted_tcn.getD conf.restrictedTcn
    BpduGuardPort := cfg.bpdu_guard_port.getD conf.BpduGuardPort
    NetworkPort := cfg.network_port.getD conf.NetworkPort
    dontTxmtBpdu := cfg.dont_txmt.getD conf.dontTxmtBpdu
    bpduFilterPort := cfg.bpdu_filter_port.getD conf.bpduFilterPort }

/-- `MSTP_IN_set_cist_port_config`. -/
def setCistPortConfig (c : Budget) (p : PortRef) (cfg : CistPortConfig) (b : Bridge) :
    Option Bridge :=
  if p ∉ b.conf.ports then some b
  else
    let old := b.port p
    let new := cfg.apply old.conf
    let ext :=
      if cfg.admin_external_port_path_cost.isSome then
        pathCost new.AdminExternalPortPathCost (computePcost new.speed)
      else old.ExternalPortPathCost
    let p2p :=
      if cfg.admin_p2p.isSome then new.AdminP2P.oper new.duplex else old.operPointToPointMAC
    let changedCost := ext != old.ExternalPortPathCost
    let changedEdge := new.AdminEdgePort != old.conf.AdminEdgePort
    let changedNetwork := new.NetworkPort != old.conf.NetworkPort
    let changed := changedCost || p2p != old.operPointToPointMAC || changedEdge ||
      new.AutoEdge != old.conf.AutoEdge || new.restrictedRole != old.conf.restrictedRole ||
      new.restrictedTcn != old.conf.restrictedTcn || changedNetwork
    let b := b.setPort p (fun prt =>
      { prt with
        conf := new
        ExternalPortPathCost := ext
        operPointToPointMAC := p2p
        BaInconsistent := prt.BaInconsistent && !(changedNetwork && !new.NetworkPort)
        num_rx_bpdu_filtered :=
          if new.bpduFilterPort != old.conf.bpduFilterPort then 0 else prt.num_rx_bpdu_filtered })
    let b :=
      if changedCost then b.setPtp p 0 (fun x => { x with selected := false, reselect := true })
      else b
    let b := if changedEdge then bdsmBegin b p else b
    if changed && (b.port p).portEnabled then brStateMachinesRun c b else some b

/-- `MSTI_PortConfig`. -/
structure MstiPortConfig where
  admin_internal_port_path_cost : Option UInt32
  port_priority : Option UInt8

/-- `MSTP_IN_set_msti_port_config`. -/
def setMstiPortConfig (c : Budget) (p : PortRef) (t : Mstid) (cfg : MstiPortConfig) (b : Bridge) :
    Option Bridge :=
  if (p, t) ∉ b.places ∨ !within 0 15 cfg.port_priority then some b
  else
    let x := b.ptp p t
    let portId :=
      match cfg.port_priority with
      | none => x.portId
      | some pri =>
          if getPriority x.portId = pri <<< 4 then x.portId else setPriority (pri <<< 4) x.portId
    let admin := cfg.admin_internal_port_path_cost.getD x.AdminInternalPortPathCost
    let cost :=
      if cfg.admin_internal_port_path_cost.isSome then
        pathCost admin (computePcost (b.port p).conf.speed)
      else x.InternalPortPathCost
    let changed := portId != x.portId || cost != x.InternalPortPathCost
    let b := b.setPtp p t (fun x =>
      { x with
        portId := portId
        AdminInternalPortPathCost := admin
        InternalPortPathCost := cost })
    if changed && (b.port p).portEnabled then
      brStateMachinesRun c
        (b.setPtp p t (fun x => { x with selected := false, reselect := true }))
    else some b

/-- `MSTP_IN_port_mcheck`. -/
def portMcheck (c : Budget) (p : PortRef) (b : Bridge) : Option Bridge :=
  if p ∉ b.conf.ports then some b
  else if b.rstpVersion && (b.port p).portEnabled && b.conf.bridgeEnabled then
    let b := b.setPort p (fun prt => { prt with mcheck := true })
    brStateMachinesRun c (b.setPtp p 0 (fun x => { x with proposing := true }))
  else some b

/-! ## The region -/

section Region

variable (digest : List Mstid → Vector UInt8 16)

/-- The MSTID of a VLAN. -/
def BridgeConf.vid2mstid (conf : BridgeConf) (vid : Nat) : Mstid :=
  conf.fid2mstid (conf.vid2fid vid)

/-- The table `vid2mstid` of `RecalcConfigDigest`. -/
def BridgeConf.digestTable (conf : BridgeConf) : List Mstid :=
  (List.range (MAX_VID + 2)).map
    (fun vid => if vid = 0 ∨ vid = MAX_VID + 1 then 0 else conf.vid2mstid vid)

/-- `RecalcConfigDigest`. -/
def recalcConfigDigest (b : Bridge) : Bridge :=
  { b with
    conf :=
      { b.conf with
        MstConfigId :=
          { b.conf.MstConfigId with configuration_digest := digest b.conf.digestTable } } }

/-- The digest is computed and the machines are begun if the VLANs are mapped differently. -/
def remapped (c : Budget) (changed : Bool) (b : Bridge) : Option Bridge :=
  if changed then brStateMachinesBegin c (recalcConfigDigest digest b) else some b

/-- `1 ≤ vid ≤ MAX_VID`. -/
def vids : List Nat := (List.range (MAX_VID + 1)).tail

/-- `MSTP_IN_set_vid2fid`. -/
def setVid2fid (c : Budget) (vid fid : Nat) (b : Bridge) : Option Bridge :=
  if vid < 1 ∨ MAX_VID < vid ∨ MAX_FID < fid then some b
  else
    let changed := b.conf.fid2mstid fid != b.conf.vid2mstid vid
    let vid2fid := fun v => if v = vid then fid else b.conf.vid2fid v
    remapped digest c changed { b with conf := { b.conf with vid2fid := vid2fid } }

/-- `MSTP_IN_set_all_vids2fids`: the entry 0 is copied as it is, a bad value of another entry
keeps the old one. -/
def setAllVids2fids (c : Budget) (vids2fids : Nat → Nat) (b : Bridge) : Option Bridge :=
  let changed := vids.any (fun vid =>
    vids2fids vid ≤ MAX_FID && b.conf.fid2mstid (vids2fids vid) != b.conf.vid2mstid vid)
  let vid2fid := fun v =>
    if v = 0 then vids2fids 0
    else if v ≤ MAX_VID ∧ vids2fids v ≤ MAX_FID then vids2fids v
    else b.conf.vid2fid v
  remapped digest c changed { b with conf := { b.conf with vid2fid := vid2fid } }

/-- `MSTP_IN_set_fid2mstid`. -/
def setFid2mstid (c : Budget) (fid : Nat) (mstid : Mstid) (b : Bridge) : Option Bridge :=
  if MAX_FID < fid ∨ mstid ∉ b.conf.trees then some b
  else if b.conf.fid2mstid fid = mstid then some b
  else
    let used := vids.any (fun vid => b.conf.vid2fid vid == fid)
    let fid2mstid := fun f => if f = fid then mstid else b.conf.fid2mstid f
    remapped digest c used { b with conf := { b.conf with fid2mstid := fid2mstid } }

/-- `MSTP_IN_set_all_fids2mstids`: a bad value keeps the old one, an MSTID without a tree makes the
request fail. -/
def setAllFids2mstids (c : Budget) (fids2mstids : Nat → Mstid) (b : Bridge) : Option Bridge :=
  let fid2mstid := fun fid =>
    if fid ≤ MAX_FID ∧ (fids2mstids fid).toNat ≤ MAX_MSTID then fids2mstids fid
    else b.conf.fid2mstid fid
  if (List.range (MAX_FID + 1)).any (fun fid => !b.conf.trees.contains (fid2mstid fid)) then
    some b
  else
    let changed := vids.any (fun vid =>
      b.conf.vid2mstid vid != fid2mstid (b.conf.vid2fid vid))
    remapped digest c changed { b with conf := { b.conf with fid2mstid := fid2mstid } }

/-- `MSTP_IN_set_mst_config_id`, for the string in `name`. -/
def setMstConfigId (c : Budget) (revision : UInt16) (name : Vector UInt8 32) (b : Bridge) :
    Option Bridge :=
  let id := b.conf.MstConfigId
  let text := name.toList.takeWhile (· != 0)
  let old := id.configuration_name.toList.takeWhile (· != 0)
  if text = old ∧ revision = id.revision_level then some b
  else
    let id :=
      { id with
        revision_level := revision
        configuration_name := .ofFn (fun i => if i.val < 31 then text.getD i 0 else 0) }
    brStateMachinesBegin c { b with conf := { b.conf with MstConfigId := id } }

/-! ## Trees -/

/-- A new MSTID after the last smaller one; `none` when there is none. -/
def insertMstid (t : Mstid) (l : List Mstid) : Option (List Mstid) :=
  let after := (l.reverse.takeWhile (fun t' => !(t' < t))).reverse
  let before := (l.reverse.dropWhile (fun t' => !(t' < t))).reverse
  if before = [] then none else some (before ++ t :: after)

/-- `MSTP_IN_create_msti`. -/
def createMsti (c : Budget) (t : Mstid) (b : Bridge) : Option Bridge :=
  if t.toNat < 1 ∨ MAX_MSTID < t.toNat ∨ t ∈ b.conf.trees then some b
  else
    match insertMstid t b.conf.trees with
    | none => some b
    | some trees =>
        if MAX_IMPLEMENTATION_MSTIS < b.conf.trees.length then some b
        else
          let tree := createTree b.conf (b.tree 0).BridgeIdentifier.mac_address t
          let b : Bridge :=
            { b with
              tree := fun t' => if t' = t then tree else b.tree t'
              ptp := fun p t' => if t' = t then createPtp tree (b.port p) else b.ptp p t'
              conf := { b.conf with trees := trees } }
          treeStateMachinesBegin c b t

/-- `MSTP_IN_delete_msti`. -/
def deleteMsti (c : Budget) (t : Mstid) (b : Bridge) : Option Bridge :=
  if t.toNat < 1 ∨ MAX_MSTID < t.toNat ∨
      (List.range (MAX_FID + 1)).any (fun fid => b.conf.fid2mstid fid == t) ∨
      t ∉ b.conf.trees then
    some b
  else brStateMachinesRun c { b with conf := { b.conf with trees := b.conf.trees.erase t } }

end Region

end Mstpd
