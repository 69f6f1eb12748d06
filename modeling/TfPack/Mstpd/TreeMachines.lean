import TfPack.Mstpd.PortMachines

set_option autoImplicit false

/-! # The spanning tree daemon: the state machines of a port in a tree

The machines 13.32 to 13.36, in the form of `PortMachines.lean`: `xxxNext` is the state that
`XXX_run` enters next, `xxxTo` the assignments on entering it.
-/

namespace Mstpd

open Settling

/-! ## Port Information -/

/-- `PISM_to_XXX`. -/
def pismTo (x : PismState) (b : Bridge) (p : PortRef) (t : Mstid) : Bridge :=
  let b := b.setPtp p t (fun ptp => { ptp with PISM_state := x })
  let setInfoInternal (b : Bridge) :=
    b.setPort p (fun prt => { prt with infoInternal := prt.rcvdInternal })
  let msgDone (b : Bridge) := b.setPtp p t (fun ptp => { ptp with rcvdMsg := false })
  match x with
  | .DISABLED =>
      b.setPtp p t (fun ptp =>
        { ptp with
          rcvdMsg := false
          proposing := false
          proposed := false
          agree := false
          agreed := false
          rcvdInfoWhile := 0
          infoIs := .ioDisabled
          reselect := true
          selected := false })
  | .AGED =>
      b.setPtp p t (fun ptp =>
        { ptp with infoIs := .ioAged, reselect := true, selected := false })
  | .UPDATE =>
      let b := b.setPtp p t (fun ptp => { ptp with proposing := false, proposed := false })
      let agreed := (b.ptp p t).agreed && betterorsameInfo b p t .ioMine
      let b := b.setPtp p t (fun ptp =>
        { ptp with
          agreed := agreed
          synced := ptp.synced && agreed
          portPriority := ptp.designatedPriority
          portTimes := ptp.designatedTimes
          updtInfo := false
          infoIs := .ioMine })
      setNewInfo b p t
  | .SUPERIOR_DESIGNATED =>
      let b := setInfoInternal b
      let b := b.setPtp p t (fun ptp => { ptp with agreed := false, proposing := false })
      let b := setTcFlags (recordProposal b p t) p t
      let agree := (b.ptp p t).agree && betterorsameInfo b p t .ioReceived
      let b := b.setPtp p t (fun ptp => { ptp with agree := agree })
      let b := recordAgreement b p t
      let b := b.setPtp p t (fun ptp => { ptp with synced := ptp.synced && ptp.agreed })
      let b := updtRcvdInfoWhile (recordTimes (recordPriority b p t) p t) p t
      b.setPtp p t (fun ptp =>
        { ptp with infoIs := .ioReceived, reselect := true, selected := false, rcvdMsg := false })
  | .REPEATED_DESIGNATED =>
      let b := setInfoInternal b
      let b := recordAgreement (setTcFlags (recordProposal b p t) p t) p t
      msgDone (updtRcvdInfoWhile b p t)
  | .INFERIOR_DESIGNATED => msgDone (recordDispute b p t)
  | .NOT_DESIGNATED => msgDone (setTcFlags (recordAgreement b p t) p t)
  | .OTHER => msgDone b
  | .CURRENT => b
  | .RECEIVE =>
      let r := rcvInfo b p t
      recordMastered (r.1.setPtp p t (fun ptp => { ptp with rcvdInfo := r.2 })) p t

/-- `rcvdXstMsg`. -/
def Bridge.rcvdXstMsg (b : Bridge) (p : PortRef) (t : Mstid) : Bool :=
  if t = 0 then (b.ptp p t).rcvdMsg else !(b.cist p).rcvdMsg && (b.ptp p t).rcvdMsg

/-- `updtXstInfo`. -/
def Bridge.updtXstInfo (b : Bridge) (p : PortRef) (t : Mstid) : Bool :=
  if t = 0 then (b.ptp p t).updtInfo else (b.ptp p t).updtInfo || (b.cist p).updtInfo

/-- The state that follows `RECEIVE`. -/
def PortInfo.pismState : PortInfo → PismState
  | .SuperiorDesignatedInfo => .SUPERIOR_DESIGNATED
  | .RepeatedDesignatedInfo => .REPEATED_DESIGNATED
  | .InferiorDesignatedInfo => .INFERIOR_DESIGNATED
  | .InferiorRootAlternateInfo => .NOT_DESIGNATED
  | .OtherInfo => .OTHER

/-- The state `PISM_run` enters next. -/
def pismNext (b : Bridge) (p : PortRef) (t : Mstid) : Option PismState :=
  let prt := b.port p
  let x := b.ptp p t
  if !prt.portEnabled && x.infoIs != .ioDisabled then some .DISABLED
  else
    match x.PISM_state with
    | .DISABLED =>
        if prt.portEnabled then some .AGED
        else if x.rcvdMsg then some .DISABLED
        else none
    | .AGED => if x.selected && x.updtInfo then some .UPDATE else none
    | .UPDATE => some .CURRENT
    | .SUPERIOR_DESIGNATED => some .CURRENT
    | .REPEATED_DESIGNATED => some .CURRENT
    | .INFERIOR_DESIGNATED => some .CURRENT
    | .NOT_DESIGNATED => some .CURRENT
    | .OTHER => some .CURRENT
    | .CURRENT =>
        if b.rcvdXstMsg p t && !b.updtXstInfo p t then some .RECEIVE
        else if x.infoIs == .ioReceived && x.rcvdInfoWhile == 0 && !x.updtInfo &&
            !b.rcvdXstMsg p t then
          some .AGED
        else if x.selected && x.updtInfo then some .UPDATE
        else none
    | .RECEIVE => some x.rcvdInfo.pismState

def pismRun (p : PortRef) (t : Mstid) : Automaton Bridge := fun _ b =>
  (pismNext b p t).map (fun x => ⟨true, pismTo x b p t, true⟩)

/-! ## Port Role Selection -/

def prssmToRoleSelection (b : Bridge) (t : Mstid) : Bridge :=
  let b := b.setTree t (fun tree => { tree with PRSSM_state := .ROLE_SELECTION })
  setSelectedTree (updtRolesTree (clearReselectTree b t) t) t

def prssmRun (t : Mstid) : Automaton Bridge := fun _ b =>
  match (b.tree t).PRSSM_state with
  | .INIT_TREE => some ⟨true, prssmToRoleSelection b t, false⟩
  | .ROLE_SELECTION =>
      if b.conf.ports.any (fun p => (b.ptp p t).reselect) then
        some ⟨true, prssmToRoleSelection b t, false⟩
      else none

/-! ## Port Role Transitions -/

/-- The static variables of `PRTSM_runr`, computed when it is not called by itself. -/
structure PrtsmTimes where
  MaxAge : Nat
  FwdDelay : Nat
  forwardDelay : Nat
  HelloTime : Nat

def prtsmTimes (b : Bridge) (p : PortRef) : PrtsmTimes :=
  let cist := b.cist p
  let FwdDelay := cist.designatedTimes.Forward_Delay.toNat
  let HelloTime := cist.portTimes.Hello_Time.toNat
  ⟨cist.designatedTimes.Max_Age.toNat, FwdDelay,
    if (b.port p).sendRSTP then HelloTime else FwdDelay, HelloTime⟩

/-- What `PRTSM_to_XXX` assigns to the fields of the entry itself. -/
def prtsmEntry (x : PrtsmState) (c : PrtsmTimes) (sendRSTP : Bool) (ptp : PerTreePort) :
    PerTreePort :=
  let ptp := { ptp with PRTSM_state := x }
  match x with
  | .INIT_PORT =>
      { ptp with
        role := .Disabled
        learn := false
        forward := false
        synced := false
        sync := true
        reRoot := true
        rrWhile := c.FwdDelay
        fdWhile := c.MaxAge
        rbWhile := 0 }
  | .DISABLE_PORT => { ptp with role := .Disabled, learn := false, forward := false }
  | .DISABLED_PORT =>
      { ptp with fdWhile := c.MaxAge, synced := true, rrWhile := 0, sync := false, reRoot := false }
  | .MASTER_PROPOSED => { ptp with sync := true, proposed := false }
  | .MASTER_AGREED => { ptp with proposed := false, sync := false, agree := true }
  | .MASTER_SYNCED => { ptp with rrWhile := 0, synced := true, sync := false }
  | .MASTER_RETIRED => { ptp with reRoot := false }
  | .MASTER_FORWARD => { ptp with forward := true, fdWhile := 0, agreed := sendRSTP }
  | .MASTER_LEARN => { ptp with learn := true, fdWhile := c.forwardDelay }
  | .MASTER_DISCARD =>
      { ptp with learn := false, forward := false, disputed := false, fdWhile := c.forwardDelay }
  | .MASTER_PORT => { ptp with role := .Master }
  | .ROOT_PROPOSED => { ptp with sync := true, proposed := false }
  | .ROOT_AGREED => { ptp with proposed := false, sync := false, agree := true }
  | .ROOT_SYNCED => { ptp with synced := true, sync := false }
  | .REROOT => { ptp with reRoot := true }
  | .ROOT_FORWARD => { ptp with fdWhile := 0, forward := true }
  | .ROOT_LEARN => { ptp with fdWhile := c.forwardDelay, learn := true }
  | .REROOTED => { ptp with reRoot := false }
  | .ROOT_PORT => { ptp with role := .Root, rrWhile := c.FwdDelay }
  | .DESIGNATED_PROPOSE => { ptp with proposing := true }
  | .DESIGNATED_AGREED => { ptp with proposed := false, sync := false, agree := true }
  | .DESIGNATED_SYNCED => { ptp with rrWhile := 0, synced := true, sync := false }
  | .DESIGNATED_RETIRED => { ptp with reRoot := false }
  | .DESIGNATED_FORWARD => { ptp with forward := true, fdWhile := 0, agreed := sendRSTP }
  | .DESIGNATED_LEARN => { ptp with learn := true, fdWhile := c.forwardDelay }
  | .DESIGNATED_DISCARD =>
      { ptp with learn := false, forward := false, disputed := false, fdWhile := c.forwardDelay }
  | .DESIGNATED_PORT => { ptp with role := .Designated }
  | .BLOCK_PORT => { ptp with role := ptp.selectedRole, learn := false, forward := false }
  | .BACKUP_PORT => { ptp with rbWhile := 2 * c.HelloTime }
  | .ALTERNATE_PROPOSED => { ptp with sync := true, proposed := false }
  | .ALTERNATE_AGREED => { ptp with proposed := false, agree := true }
  | .ALTERNATE_PORT =>
      { ptp with
        fdWhile := c.forwardDelay
        synced := true
        rrWhile := 0
        sync := false
        reRoot := false }

/-- What `PRTSM_to_XXX` does besides: `setSyncTree`, `setReRootTree`, `newInfoXst`, and the
`edgeDelayWhile` of a Designated port that proposes in the CIST. -/
def prtsmAround (x : PrtsmState) (b : Bridge) (p : PortRef) (t : Mstid) : Bridge :=
  match x with
  | .MASTER_PROPOSED | .ROOT_PROPOSED | .ALTERNATE_PROPOSED => setSyncTree b t
  | .REROOT => setReRootTree b t
  | .ROOT_AGREED | .DESIGNATED_AGREED | .ALTERNATE_AGREED => setNewInfo b p t
  | .DESIGNATED_PROPOSE =>
      let MaxAge := (b.ptp p t).designatedTimes.Max_Age.toNat
      let b := setNewInfo b p t
      if t = 0 then
        b.setPort p (fun prt =>
          { prt with
            edgeDelayWhile := if prt.operPointToPointMAC then b.conf.Migrate_Time else MaxAge })
      else b
  | _ => b

/-- `PRTSM_to_XXX`. -/
def prtsmTo (x : PrtsmState) (c : PrtsmTimes) (b : Bridge) (p : PortRef) (t : Mstid) : Bridge :=
  (prtsmAround x b p t).setPtp p t (prtsmEntry x c (b.port p).sendRSTP)

/-- What `allSynced` asks of the entry of the port `p'`. -/
def Bridge.syncedWith (b : Bridge) (p : PortRef) (t : Mstid) (p' : PortRef) : Bool :=
  let y := b.ptp p' t
  y.selected && y.role == y.selectedRole && !y.updtInfo &&
    match (b.ptp p t).role with
    | .Root => y.role == .Root || y.synced
    | .Alternate => y.role == .Root || y.synced
    | .Designated => p' == p || y.synced
    | .Master => p' == p || y.synced
    | .Disabled => false
    | .Backup => false

/-- `allSynced`. -/
def Bridge.allSynced (b : Bridge) (p : PortRef) (t : Mstid) : Bool :=
  b.conf.ports.all (b.syncedWith p t)

/-- `reRooted`. -/
def Bridge.reRooted (b : Bridge) (p : PortRef) (t : Mstid) : Bool :=
  b.conf.ports.all (fun p' => p' == p || (b.ptp p' t).rrWhile == 0)

/-- The case `PRTSM_MASTER_PORT`. -/
def prtsmFromMaster (b : Bridge) (p : PortRef) (t : Mstid) : Option PrtsmState :=
  let x := b.ptp p t
  let operEdge := (b.port p).operEdge
  let allSynced := b.allSynced p t
  if x.reRoot && x.rrWhile == 0 then some .MASTER_RETIRED
  else if (!x.learning && !x.forwarding && !x.synced) || (x.agreed && !x.synced) ||
      (operEdge && !x.synced) || (x.sync && x.synced) then
    some .MASTER_SYNCED
  else if (allSynced && !x.agree) || (x.proposed && x.agree) then some .MASTER_AGREED
  else if x.proposed && !x.agree then some .MASTER_PROPOSED
  else if (x.fdWhile == 0 || allSynced) && x.learn && !x.forward then some .MASTER_FORWARD
  else if (x.fdWhile == 0 || allSynced) && !x.learn then some .MASTER_LEARN
  else if ((x.sync && !x.synced) || (x.reRoot && x.rrWhile != 0) || x.disputed) && !operEdge &&
      (x.learn || x.forward) then
    some .MASTER_DISCARD
  else none

/-- The case `PRTSM_ROOT_PORT`. -/
def prtsmFromRoot (c : PrtsmTimes) (b : Bridge) (p : PortRef) (t : Mstid) : Option PrtsmState :=
  let x := b.ptp p t
  let ready := x.fdWhile == 0 || (b.reRooted p t && x.rbWhile == 0 && b.rstpVersion)
  if !x.forward && !x.reRoot then some .REROOT
  else if (x.agreed && !x.synced) || (x.sync && x.synced) then some .ROOT_SYNCED
  else if (b.allSynced p t && !x.agree) || (x.proposed && x.agree) then some .ROOT_AGREED
  else if x.proposed && !x.agree then some .ROOT_PROPOSED
  else if ready && !x.learn then some .ROOT_LEARN
  else if ready && !x.forward then some .ROOT_FORWARD
  else if x.reRoot && x.forward then some .REROOTED
  else if x.rrWhile ≠ c.FwdDelay then some .ROOT_PORT
  else none

/-- The case `PRTSM_DESIGNATED_PORT`. -/
def prtsmFromDesignated (b : Bridge) (p : PortRef) (t : Mstid) : Option PrtsmState :=
  let x := b.ptp p t
  let prt := b.port p
  let ready := (x.fdWhile == 0 || x.agreed || prt.operEdge) && (x.rrWhile == 0 || !x.reRoot) &&
    !x.sync && !prt.BaInconsistent
  if x.reRoot && x.rrWhile == 0 then some .DESIGNATED_RETIRED
  else if (!x.learning && !x.forwarding && !x.synced) || (x.agreed && !x.synced) ||
      (prt.operEdge && !x.synced) || (x.sync && x.synced) then
    some .DESIGNATED_SYNCED
  else if b.allSynced p t && (x.proposed || !x.agree) then some .DESIGNATED_AGREED
  else if !x.forward && !x.agreed && !x.proposing && !prt.operEdge then some .DESIGNATED_PROPOSE
  else if ready && !x.learn then some .DESIGNATED_LEARN
  else if ready && !x.forward then some .DESIGNATED_FORWARD
  else if ((x.sync && !x.synced) || (x.reRoot && x.rrWhile != 0) || x.disputed ||
      prt.BaInconsistent) && !prt.operEdge && (x.learn || x.forward) then
    some .DESIGNATED_DISCARD
  else none

/-- The case `PRTSM_ALTERNATE_PORT`. -/
def prtsmFromAlternate (c : PrtsmTimes) (b : Bridge) (p : PortRef) (t : Mstid) :
    Option PrtsmState :=
  let x := b.ptp p t
  if (b.allSynced p t && !x.agree) || (x.proposed && x.agree) then some .ALTERNATE_AGREED
  else if x.proposed && !x.agree then some .ALTERNATE_PROPOSED
  else if x.rbWhile ≠ 2 * c.HelloTime ∧ x.role = .Backup then some .BACKUP_PORT
  else if x.fdWhile != c.forwardDelay || x.sync || x.reRoot || !x.synced then
    some .ALTERNATE_PORT
  else none

/-- The state a port goes to when another role has been selected for it. -/
def Role.prtsmState : Role → PrtsmState
  | .Disabled => .DISABLE_PORT
  | .Master => .MASTER_PORT
  | .Root => .ROOT_PORT
  | .Designated => .DESIGNATED_PORT
  | .Alternate => .BLOCK_PORT
  | .Backup => .BLOCK_PORT

/-- The state `PRTSM_runr` enters next. -/
def prtsmNext (c : PrtsmTimes) (b : Bridge) (p : PortRef) (t : Mstid) : Option PrtsmState :=
  let x := b.ptp p t
  let selected := x.selected && !x.updtInfo
  if x.role ≠ x.selectedRole ∧ selected = true then some x.selectedRole.prtsmState
  else
    match x.PRTSM_state with
    | .INIT_PORT => some .DISABLE_PORT
    | .DISABLE_PORT =>
        if selected && !x.learning && !x.forwarding then some .DISABLED_PORT else none
    | .DISABLED_PORT =>
        if selected && (x.sync || x.reRoot || !x.synced || x.fdWhile != c.MaxAge) then
          some .DISABLED_PORT
        else none
    | .MASTER_PORT => if selected then prtsmFromMaster b p t else none
    | .MASTER_PROPOSED | .MASTER_AGREED | .MASTER_SYNCED | .MASTER_RETIRED | .MASTER_FORWARD
    | .MASTER_LEARN | .MASTER_DISCARD => some .MASTER_PORT
    | .ROOT_PORT => if selected then prtsmFromRoot c b p t else none
    | .ROOT_PROPOSED | .ROOT_AGREED | .ROOT_SYNCED | .REROOT | .ROOT_FORWARD | .ROOT_LEARN
    | .REROOTED => some .ROOT_PORT
    | .DESIGNATED_PORT => if selected then prtsmFromDesignated b p t else none
    | .DESIGNATED_PROPOSE | .DESIGNATED_AGREED | .DESIGNATED_SYNCED | .DESIGNATED_RETIRED
    | .DESIGNATED_FORWARD | .DESIGNATED_LEARN | .DESIGNATED_DISCARD => some .DESIGNATED_PORT
    | .BLOCK_PORT =>
        if selected && !x.learning && !x.forwarding then some .ALTERNATE_PORT else none
    | .BACKUP_PORT | .ALTERNATE_PROPOSED | .ALTERNATE_AGREED => some .ALTERNATE_PORT
    | .ALTERNATE_PORT => if selected then prtsmFromAlternate c b p t else none

def prtsmRun (p : PortRef) (t : Mstid) : Automaton Bridge := fun e b =>
  let c := prtsmTimes e p
  (prtsmNext c b p t).map (fun x => ⟨true, prtsmTo x c b p t, true⟩)

/-! ## Port State Transition -/

/-- The state of the kernel that a state of the machine stands for. -/
def PstsmState.brState : PstsmState → BrState
  | .DISCARDING => .BLOCKING
  | .LEARNING => .LEARNING
  | .FORWARDING => .FORWARDING

/-- `PSTSM_to_XXX`. -/
def pstsmTo (x : PstsmState) (b : Bridge) (p : PortRef) (t : Mstid) : Bridge :=
  let b := b.setPtp p t (fun ptp => { ptp with PSTSM_state := x })
  let b := if (b.port p).deleted then b else mstpOutSetState b p t x.brState
  b.setPtp p t (fun ptp =>
    match x with
    | .DISCARDING => { ptp with learning := false, forwarding := false }
    | .LEARNING => { ptp with learning := true }
    | .FORWARDING => { ptp with forwarding := true })

def pstsmNext (b : Bridge) (p : PortRef) (t : Mstid) : Option PstsmState :=
  let x := b.ptp p t
  match x.PSTSM_state with
  | .DISCARDING => if x.learn then some .LEARNING else none
  | .LEARNING =>
      if !x.learn then some .DISCARDING
      else if x.forward then some .FORWARDING
      else none
  | .FORWARDING => if !x.forward then some .DISCARDING else none

def pstsmRun (p : PortRef) (t : Mstid) : Automaton Bridge := fun _ b =>
  (pstsmNext b p t).map (fun x => ⟨true, pstsmTo x b p t, x != .FORWARDING⟩)

/-! ## Topology Change -/

/-- `active_port`. -/
def PerTreePort.active (x : PerTreePort) : Bool :=
  x.role == .Root || x.role == .Designated || x.role == .Master

/-- `TCSM_to_XXX`. -/
def tcsmTo (x : TcsmState) (b : Bridge) (p : PortRef) (t : Mstid) : Bridge :=
  let b := b.setPtp p t (fun ptp => { ptp with TCSM_state := x })
  let stopTc (b : Bridge) :=
    checkTopologyChange (b.setPtp p t (fun ptp => { ptp with tcWhile := 0 })) t
  match x with
  | .INACTIVE =>
      let b := stopTc (setFdbFlush b p t)
      if t = 0 then b.setPort p (fun prt => { prt with tcAck := false }) else b
  | .LEARNING =>
      let b :=
        if t = 0 then b.setPort p (fun prt => { prt with rcvdTcn := false, rcvdTcAck := false })
        else b
      b.setPtp p t (fun ptp => { ptp with rcvdTc := false, tcProp := false })
  | .DETECTED => setNewInfo (setTcPropTree (newTcWhile b p t) p t) p t
  | .NOTIFIED_TCN => newTcWhile b p t
  | .NOTIFIED_TC =>
      let b := b.setPtp p t (fun ptp => { ptp with rcvdTc := false })
      let designated := (b.ptp p t).role == .Designated
      let b :=
        if t = 0 then
          b.setPort p (fun prt =>
            { prt with rcvdTcn := false, tcAck := prt.tcAck || designated })
        else b
      setTcPropTree b p t
  | .PROPAGATING =>
      (setFdbFlush (newTcWhile b p t) p t).setPtp p t (fun ptp => { ptp with tcProp := false })
  | .ACKNOWLEDGED => (stopTc b).setPort p (fun prt => { prt with rcvdTcAck := false })
  | .ACTIVE => b

/-- What the dry run of `TCSM_to_LEARNING` answers. -/
def tcsmLearningChanges (b : Bridge) (p : PortRef) (t : Mstid) : Bool :=
  let x := b.ptp p t
  x.TCSM_state != .LEARNING || x.rcvdTc || x.tcProp ||
    (t == 0 && ((b.port p).rcvdTcn || (b.port p).rcvdTcAck))

/-- The state `TCSM_run` enters next. -/
def tcsmNext (b : Bridge) (p : PortRef) (t : Mstid) : Option TcsmState :=
  let x := b.ptp p t
  let prt := b.port p
  match x.TCSM_state with
  | .INACTIVE => if x.learn && !x.fdbFlush then some .LEARNING else none
  | .LEARNING =>
      if x.active && x.forward && !prt.operEdge then some .DETECTED
      else if x.rcvdTc || prt.rcvdTcn || prt.rcvdTcAck || x.tcProp then some .LEARNING
      else if !x.active && !(x.learn || x.learning) then some .INACTIVE
      else none
  | .NOTIFIED_TCN => some .NOTIFIED_TC
  | .DETECTED => some .ACTIVE
  | .NOTIFIED_TC => some .ACTIVE
  | .PROPAGATING => some .ACTIVE
  | .ACKNOWLEDGED => some .ACTIVE
  | .ACTIVE =>
      if !x.active || prt.operEdge then some .LEARNING
      else if prt.rcvdTcn then some .NOTIFIED_TCN
      else if x.rcvdTc then some .NOTIFIED_TC
      else if x.tcProp then some .PROPAGATING
      else if prt.rcvdTcAck then some .ACKNOWLEDGED
      else none

def tcsmRun (p : PortRef) (t : Mstid) : Automaton Bridge := fun _ b =>
  (tcsmNext b p t).map (fun x =>
    ⟨if x = .LEARNING then tcsmLearningChanges b p t else true, tcsmTo x b p t, true⟩)

end Mstpd
