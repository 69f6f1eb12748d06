import TfPack.Lib.Settling
import TfPack.Mstpd.RoleSelection

set_option autoImplicit false

/-! # The spanning tree daemon: the state machines of a port

The machines 13.28 to 13.31 and the check of the bridge assurance timer. Each `XXX_to_YYY` is the
assignments on entering the state `YYY`; each `XXX_run` is an automaton, whose moves say what the
dry run answers and whether the function called on entering the state calls `XXX_run` again.
-/

namespace Mstpd

open Settling

/-- The first loop of `__br_state_machines_run`. -/
def assurance (p : PortRef) : Automaton Bridge := fun _ b =>
  let prt := b.port p
  if prt.portEnabled && prt.assurancePort && prt.brAssuRcvdInfoWhile == 0 &&
      !prt.BaInconsistent then
    some ⟨true, b.setPort p (fun prt => { prt with BaInconsistent := true }), false⟩
  else none

/-! ## Port Receive -/

/-- Whether a port has a message that its trees have not processed. -/
def Bridge.rcvdAnyMsg (b : Bridge) (p : PortRef) : Bool :=
  b.conf.trees.any (fun t => (b.ptp p t).rcvdMsg)

def prsmToDiscard (b : Bridge) (p : PortRef) : Bridge :=
  (clearAllRcvdMsgs b p).setPort p (fun prt =>
    { prt with
      PRSM_state := .DISCARD
      rcvdBpdu := false
      rcvdRSTP := false
      rcvdSTP := false
      edgeDelayWhile := b.conf.Migrate_Time })

def prsmToReceive (b : Bridge) (p : PortRef) : Bridge :=
  let b := b.setPort p (fun prt => { prt with PRSM_state := .RECEIVE })
  let b := updtBPDUVersion b p
  let rcvdInternal := fromSameRegion b p
  let b := b.setPort p (fun prt => { prt with rcvdInternal := rcvdInternal })
  (setRcvdMsgs b p).setPort p (fun prt =>
    { prt with operEdge := false, rcvdBpdu := false, edgeDelayWhile := b.conf.Migrate_Time })

/-- What the dry run of `PRSM_to_DISCARD` answers. -/
def prsmDiscardChanges (b : Bridge) (p : PortRef) : Bool :=
  let prt := b.port p
  prt.PRSM_state != .DISCARD || prt.rcvdBpdu || prt.rcvdRSTP || prt.rcvdSTP ||
    prt.edgeDelayWhile != b.conf.Migrate_Time || b.rcvdAnyMsg p

def prsmRun (p : PortRef) : Automaton Bridge := fun _ b =>
  let prt := b.port p
  if (prt.rcvdBpdu || prt.edgeDelayWhile != b.conf.Migrate_Time) && !prt.portEnabled then
    some ⟨prsmDiscardChanges b p, prsmToDiscard b p, false⟩
  else
    match prt.PRSM_state with
    | .DISCARD =>
        if prt.rcvdBpdu && prt.portEnabled then some ⟨true, prsmToReceive b p, false⟩ else none
    | .RECEIVE =>
        if prt.rcvdBpdu && prt.portEnabled && !b.rcvdAnyMsg p then
          some ⟨true, prsmToReceive b p, false⟩
        else none

/-! ## Port Protocol Migration -/

/-- `PPMSM_to_XXX`. -/
def ppmsmTo (x : PpmsmState) (b : Bridge) (p : PortRef) : Bridge :=
  b.setPort p (fun prt =>
    match x with
    | .CHECKING_RSTP =>
        { prt with
          PPMSM_state := x
          mcheck := false
          sendRSTP := b.rstpVersion
          mdelayWhile := b.conf.Migrate_Time }
    | .SELECTING_STP =>
        { prt with PPMSM_state := x, sendRSTP := false, mdelayWhile := b.conf.Migrate_Time }
    | .SENSING => { prt with PPMSM_state := x, rcvdRSTP := false, rcvdSTP := false })

/-- The state `PPMSM_run` enters next. -/
def ppmsmNext (b : Bridge) (p : PortRef) : Option PpmsmState :=
  let prt := b.port p
  match prt.PPMSM_state with
  | .CHECKING_RSTP =>
      if prt.mdelayWhile != b.conf.Migrate_Time && !prt.portEnabled then some .CHECKING_RSTP
      else if prt.mdelayWhile = 0 then some .SENSING
      else none
  | .SELECTING_STP =>
      if prt.mdelayWhile == 0 || !prt.portEnabled || prt.mcheck then some .SENSING else none
  | .SENSING =>
      if !prt.portEnabled || prt.mcheck || (b.rstpVersion && !prt.sendRSTP && prt.rcvdRSTP) then
        some .CHECKING_RSTP
      else if prt.sendRSTP && prt.rcvdSTP then some .SELECTING_STP
      else none

def ppmsmRun (p : PortRef) : Automaton Bridge := fun _ b =>
  (ppmsmNext b p).map (fun x => ⟨true, ppmsmTo x b p, x != .CHECKING_RSTP⟩)

/-! ## Bridge Detection -/

/-- `BDSM_to_XXX`. -/
def bdsmTo (x : BdsmState) (b : Bridge) (p : PortRef) : Bridge :=
  b.setPort p (fun prt => { prt with BDSM_state := x, operEdge := x == .EDGE })

def bdsmBegin (b : Bridge) (p : PortRef) : Bridge :=
  bdsmTo (if (b.port p).conf.AdminEdgePort then .EDGE else .NOT_EDGE) b p

def bdsmNext (b : Bridge) (p : PortRef) : Option BdsmState :=
  let prt := b.port p
  match prt.BDSM_state with
  | .EDGE =>
      if ((!prt.portEnabled || !prt.conf.AutoEdge) && !prt.conf.AdminEdgePort) || !prt.operEdge then
        some .NOT_EDGE
      else none
  | .NOT_EDGE =>
      if (!prt.portEnabled && prt.conf.AdminEdgePort) ||
          (prt.edgeDelayWhile == 0 && prt.conf.AutoEdge && prt.sendRSTP &&
            (b.cist p).proposing) then
        some .EDGE
      else none

def bdsmRun (p : PortRef) : Automaton Bridge := fun _ b =>
  (bdsmNext b p).map (fun x => ⟨true, bdsmTo x b p, false⟩)

/-! ## Port Transmit -/

/-- Whether the port is Designated, or Root with a topology change to propagate. -/
def PerTreePort.transmits (x : PerTreePort) : Bool :=
  x.role == .Designated || (x.role == .Root && x.tcWhile != 0)

/-- `PTSM_to_XXX`. -/
def ptsmTo (x : PtsmState) (b : Bridge) (p : PortRef) : Bridge :=
  match x with
  | .TRANSMIT_INIT =>
      b.setPort p (fun prt =>
        { prt with PTSM_state := x, newInfo := true, newInfoMsti := true, txCount := 0 })
  | .TRANSMIT_CONFIG =>
      let b := b.setPort p (fun prt => { prt with PTSM_state := x, newInfo := false })
      (txConfig b p).setPort p (fun prt => { prt with txCount := prt.txCount + 1, tcAck := false })
  | .TRANSMIT_TCN =>
      let b := b.setPort p (fun prt => { prt with PTSM_state := x, newInfo := false })
      (txTcn b p).setPort p (fun prt => { prt with txCount := prt.txCount + 1 })
  | .TRANSMIT_RSTP =>
      let b := b.setPort p (fun prt =>
        { prt with PTSM_state := x, newInfo := false, newInfoMsti := false })
      (txMstp b p).setPort p (fun prt => { prt with txCount := prt.txCount + 1, tcAck := false })
  | .TRANSMIT_PERIODIC =>
      let cistTransmits := (b.cist p).transmits
      let mstiTransmits := (b.mstisOfPort p).any PerTreePort.transmits
      b.setPort p (fun prt =>
        { prt with
          PTSM_state := x
          newInfo := prt.newInfo || cistTransmits
          newInfoMsti := prt.newInfoMsti || mstiTransmits })
  | .IDLE =>
      let helloWhen := (b.cist p).portTimes.Hello_Time.toNat
      b.setPort p (fun prt => { prt with PTSM_state := x, helloWhen := helloWhen })

/-- `allTransmitReady`. -/
def Bridge.allTransmitReady (b : Bridge) (p : PortRef) : Bool :=
  b.conf.trees.all (fun t => (b.ptp p t).selected && !(b.ptp p t).updtInfo)

/-- The state an enabled port enters next. -/
def ptsmNext (b : Bridge) (p : PortRef) : Option PtsmState :=
  let prt := b.port p
  if prt.PTSM_state ≠ .IDLE then some .IDLE
  else if !b.allTransmitReady p then none
  else if prt.helloWhen = 0 then some .TRANSMIT_PERIODIC
  else if !(prt.txCount < b.conf.Transmit_Hold_Count) then none
  else if prt.conf.bpduFilterPort then none
  else if prt.sendRSTP then
    let mstiMasterPort := (b.mstisOfPort p).any (fun x => x.role == .Master)
    if prt.newInfo || (prt.newInfoMsti && !mstiMasterPort) || prt.assurancePort then
      some .TRANSMIT_RSTP
    else none
  else if prt.newInfo && (b.cist p).role == .Designated then some .TRANSMIT_CONFIG
  else if prt.newInfo && (b.cist p).role == .Root then some .TRANSMIT_TCN
  else none

/-- What the dry run of `PTSM_to_TRANSMIT_INIT` answers. -/
def ptsmInitChanges (b : Bridge) (p : PortRef) : Bool :=
  let prt := b.port p
  prt.PTSM_state != .TRANSMIT_INIT || !prt.newInfo || !prt.newInfoMsti || prt.txCount != 0

def ptsmRun (p : PortRef) : Automaton Bridge := fun _ b =>
  if !(b.port p).portEnabled then some ⟨ptsmInitChanges b p, ptsmTo .TRANSMIT_INIT b p, false⟩
  else (ptsmNext b p).map (fun x => ⟨true, ptsmTo x b p, true⟩)

end Mstpd
