import TfPack.Mstpd.Procedures

set_option autoImplicit false

/-! # The spanning tree daemon: the selection of roles

`updtRolesTree`, clauses a) to m) of 13.26.23. The best of the bridge's own vector and of the root
path priority vectors of its ports becomes the root priority vector of the tree, and the port it
comes from the Root port; every other port gets its role by comparison with the vector the bridge
would send there.
-/

namespace Mstpd

/-! ## The root priority vector -/

/-- Whether the information of a port is considered for the root priority vector. -/
def candidate (b : Bridge) (t : Mstid) (p : PortRef) : Bool :=
  (b.ptp p t).infoIs == .ioReceived && !(b.port p).conf.restrictedRole &&
    (b.ptp p t).portPriority.DesignatedBridgeID != (b.tree t).BridgeIdentifier

/-- The root path priority vector of a port; costs are added modulo 2^32. -/
def rootPathPriority (b : Bridge) (t : Mstid) (p : PortRef) : PriorityVector :=
  let x := b.ptp p t
  let prt := b.port p
  if prt.rcvdInternal then
    { x.portPriority with
      IntRootPathCost := x.portPriority.IntRootPathCost + x.InternalPortPathCost }
  else if t = 0 then
    { x.portPriority with
      ExtRootPathCost := x.portPriority.ExtRootPathCost + prt.ExternalPortPathCost
      RRootID := (b.tree t).BridgeIdentifier
      IntRootPathCost := 0 }
  else x.portPriority

/-- The root priority vector with the identifier of the port, and the port. -/
structure RootChoice where
  rootPriority : PriorityVector
  rootPortId : UInt16
  root_ptp : Option PortRef

/-- One port compared with the choice so far. -/
def chooseRoot (b : Bridge) (t : Mstid) (c : RootChoice) (p : PortRef) : RootChoice :=
  let vec := rootPathPriority b t p
  let portId := (b.ptp p t).portId
  if candidate b t p && betterorsamePriority vec c.rootPriority portId c.rootPortId (t == 0) then
    ⟨vec, portId, some p⟩
  else c

/-- a), b): the best vector, from the bridge's own and those of the ports in their order. -/
def selectRoot (b : Bridge) (t : Mstid) : RootChoice :=
  b.conf.ports.foldl (chooseRoot b t) ⟨(b.tree t).BridgePriority, 0, none⟩

/-- c): the times that go with the root priority vector. -/
def selectTimes (b : Bridge) (t : Mstid) (root_ptp : Option PortRef) : Times :=
  match root_ptp with
  | none => (b.tree t).BridgeTimes
  | some p =>
      let times := (b.ptp p t).portTimes
      if (b.port p).rcvdInternal then
        { times with
          remainingHops :=
            if times.remainingHops = 0 then 0 else times.remainingHops - 1 }
      else { times with Message_Age := times.Message_Age + 1 }

/-! ## The roles -/

/-- d), e): what the bridge would send on the port. -/
def designate (b : Bridge) (t : Mstid) (p : PortRef) (x : PerTreePort) : PerTreePort :=
  let tree := b.tree t
  { x with
    designatedPriority :=
      { tree.rootPriority with
        DesignatedBridgeID := tree.BridgeIdentifier
        DesignatedPortID := x.portId
        RRootID :=
          if t = 0 && !(b.port p).sendRSTP then tree.BridgeIdentifier
          else tree.rootPriority.RRootID }
    designatedTimes := { tree.rootTimes with Hello_Time := x.portTimes.Hello_Time } }

/-- f) to m): the role selected for a port, and its `updtInfo`. -/
def selectRole (b : Bridge) (t : Mstid) (root_ptp : Option PortRef) (p : PortRef) :
    Role × Bool :=
  let x := b.ptp p t
  let cist := b.cist p
  let differs (c : Bool) :=
    !samePriorityAndTimers x.portPriority x.designatedPriority x.portTimes x.designatedTimes c
  if x.infoIs = .ioDisabled then (.Disabled, x.updtInfo)
  else if t ≠ 0 ∧ cist.infoIs = .ioReceived ∧ (b.port p).infoInternal = false then
    (if cist.selectedRole = .Root then .Master else cist.selectedRole,
      x.updtInfo || differs false)
  else
    match x.infoIs with
    | .ioDisabled => (.Disabled, x.updtInfo)
    | .ioAged => (.Designated, true)
    | .ioMine => (.Designated, x.updtInfo || differs (t == 0))
    | .ioReceived =>
        if root_ptp = some p then (.Root, false)
        else if betterorsamePriority x.portPriority x.designatedPriority 0 0 (t == 0) then
          (if x.portPriority.DesignatedBridgeID ≠ (b.tree t).BridgeIdentifier then .Alternate
            else .Backup, false)
        else (.Designated, true)

/-- Whether the MSTIs of the port are to select their roles anew: the received information gives
the port another role in the CIST than it has. -/
def reselects (b : Bridge) (root_ptp : Option PortRef) (p : PortRef) : Bool :=
  (b.cist p).infoIs == .ioReceived && (selectRole b 0 root_ptp p).1 != (b.cist p).role

/-- The roles of all ports of the tree. -/
def assignRoles (b : Bridge) (t : Mstid) (root_ptp : Option PortRef) : Bridge :=
  { b with
    ptp := fun p t' =>
      if t' = t then
        let r := selectRole b t root_ptp p
        { b.ptp p t' with selectedRole := r.1, updtInfo := r.2 }
      else if t = 0 ∧ reselects b root_ptp p = true then { b.ptp p t' with reselect := true }
      else b.ptp p t' }

def updtRolesTree (b : Bridge) (t : Mstid) : Bridge :=
  let prev := (b.tree t).rootPriority
  let c := selectRoot b t
  let times := selectTimes b t c.root_ptp
  let b := b.setTree t (fun tree =>
    { tree with rootPriority := c.rootPriority, rootPortId := c.rootPortId, rootTimes := times })
  let b := { b with
    ptp := fun p t' => if t' = t then designate b t p (b.ptp p t') else b.ptp p t' }
  let b :=
    if t = 0 ∧ c.rootPriority.RRootID ≠ prev.RRootID ∧
        (c.rootPriority.ExtRootPathCost ≠ 0 ∨ prev.ExtRootPathCost ≠ 0) then syncMaster b
    else b
  assignRoles b t c.root_ptp

end Mstpd
