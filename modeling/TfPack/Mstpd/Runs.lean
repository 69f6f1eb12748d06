import TfPack.Lib.Machine
import TfPack.Mstpd.TreeMachines

set_option autoImplicit false

/-! # The spanning tree daemon: running the state machines

`br_state_machines_run` and the three `xxx_state_machines_begin`. The functions of a machine call
each other without a bound; here a call gives nothing when it is nested more than `depth` deep, as
it does when the stack ends. `br_state_machines_run` goes on for a second; how many rounds fit into
it is up to the clock.
-/

namespace Mstpd

open Settling

/-! ## The machines of a bridge -/

/-- The machines in the order of `__br_state_machines_run`. -/
def Bridge.machines (b : Bridge) : List (Automaton Bridge) :=
  b.conf.ports.map assurance ++ b.conf.ports.map prsmRun ++ b.conf.ports.map ppmsmRun ++
    b.conf.ports.map bdsmRun ++ b.conf.ports.map ptsmRun ++
    b.places.map (fun x => pismRun x.1 x.2) ++ b.conf.trees.map prssmRun ++
    b.places.map (fun x => prtsmRun x.1 x.2) ++ b.places.map (fun x => pstsmRun x.1 x.2) ++
    b.places.map (fun x => tcsmRun x.1 x.2)

/-- `__br_state_machines_run` in a dry run. -/
def Bridge.dryRun (b : Bridge) : Bool := roundDry b.machines b

/-- The clock of `br_state_machines_run` and the stack: the rounds that fit into a second, at least
one, and the depth of nested calls. -/
structure Budget where
  rounds : Nat
  depth : Nat

/-- `br_state_machines_run`. -/
def brStateMachinesRun (c : Budget) (b : Bridge) : Option Bridge :=
  if b.conf.bridgeEnabled then settle c.depth b.machines (c.rounds + 1) b else some b

/-! ## The BEGIN state -/

/-- `PISM_begin`, with the start time. -/
def pismBegin (b : Bridge) (p : PortRef) (t : Mstid) : Bridge :=
  pismTo .DISABLED (b.setPtp p t (fun x => { x with start_time := b.uptime })) p t

/-- `PRSSM_begin`. -/
def prssmBegin (b : Bridge) (t : Mstid) : Bridge :=
  updtRolesDisabledTree (b.setTree t (fun tree => { tree with PRSSM_state := .INIT_TREE })) t

/-- `PRTSM_begin`. -/
def prtsmBegin (b : Bridge) (p : PortRef) (t : Mstid) : Bridge :=
  prtsmTo .INIT_PORT (prtsmTimes b p) b p t

/-- `PSTSM_begin`. -/
def pstsmBegin (b : Bridge) (p : PortRef) (t : Mstid) : Bridge := pstsmTo .DISCARDING b p t

/-- `TCSM_begin`. -/
def tcsmBegin (b : Bridge) (p : PortRef) (t : Mstid) : Bridge := tcsmTo .INACTIVE b p t

/-- A function called for each pair of a port and a tree. -/
def Bridge.forPlaces (b : Bridge) (l : List (PortRef × Mstid))
    (f : Bridge → PortRef → Mstid → Bridge) : Bridge :=
  l.foldl (fun b x => f b x.1 x.2) b

/-- A function called for each port. -/
def Bridge.forPorts (b : Bridge) (l : List PortRef) (f : Bridge → PortRef → Bridge) : Bridge :=
  l.foldl f b

/-- A function called for each tree. -/
def Bridge.forTrees (b : Bridge) (l : List Mstid) (f : Bridge → Mstid → Bridge) : Bridge :=
  l.foldl f b

/-- `PRSM_begin`, `PPMSM_begin`, `BDSM_begin` and `PTSM_begin` of some ports. -/
def portMachinesBegin (b : Bridge) (l : List PortRef) : Bridge :=
  let b := b.forPorts l prsmToDiscard
  let b := b.forPorts l (ppmsmTo .CHECKING_RSTP)
  let b := b.forPorts l bdsmBegin
  b.forPorts l (ptsmTo .TRANSMIT_INIT)

/-- `PRTSM_begin`, `PSTSM_begin` and `TCSM_begin` of some entries. -/
def placeMachinesBegin (b : Bridge) (l : List (PortRef × Mstid)) : Bridge :=
  let b := b.forPlaces l prtsmBegin
  let b := b.forPlaces l pstsmBegin
  b.forPlaces l tcsmBegin

/-- The entries of a tree. -/
def Bridge.placesOfTree (b : Bridge) (t : Mstid) : List (PortRef × Mstid) :=
  b.conf.ports.map (fun p => (p, t))

/-- The entries of a port. -/
def Bridge.placesOfPort (b : Bridge) (p : PortRef) : List (PortRef × Mstid) :=
  b.conf.trees.map (fun t => (p, t))

def treeStateMachinesBegin (c : Budget) (b : Bridge) (t : Mstid) : Option Bridge :=
  if !b.conf.bridgeEnabled then some b
  else
    let b := b.forPlaces (b.placesOfTree t) pismBegin
    let b := prssmBegin b t
    brStateMachinesRun c (placeMachinesBegin b (b.placesOfTree t))

/-- The role selection of all trees is run, not begun, for a new port. -/
def prtStateMachinesBegin (c : Budget) (b : Bridge) (p : PortRef) : Option Bridge :=
  if !b.conf.bridgeEnabled then some b
  else
    let b := portMachinesBegin b [p]
    let b := b.forPlaces (b.placesOfPort p) pismBegin
    (round c.depth (b.conf.trees.map prssmRun) b).bind fun b =>
      brStateMachinesRun c (placeMachinesBegin b (b.placesOfPort p))

def brStateMachinesBegin (c : Budget) (b : Bridge) : Option Bridge :=
  if !b.conf.bridgeEnabled then some b
  else
    let b := portMachinesBegin b b.conf.ports
    let b := b.forPlaces b.places pismBegin
    let b := b.forTrees b.conf.trees prssmBegin
    brStateMachinesRun c (placeMachinesBegin b b.places)

end Mstpd
