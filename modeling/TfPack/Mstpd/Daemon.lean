import TfPack.Mstpd.Configuration

set_option autoImplicit false

/-! # The spanning tree daemon: a bridge as a step machine

Everything that can happen to a bridge of the daemon, in any order: what the kernel reports, frames
and seconds, and the requests on the control socket. The events of the step machine are what the
daemon does to the outside.
-/

namespace Mstpd

open StepMachine BigEndian

/-! ## Frames -/

/-- `sizeof(struct llc_header)`. -/
def LLC_HEADER_SIZE : Nat := 17

def bridgeGroupAddress : Bytes := [0x01, 0x80, 0xc2, 0x00, 0x00, 0x00]

/-- The length of the BPDU in a received frame that passes the checks of `bridge_bpdu_rcv`. -/
def bpduSize (mem : Nat → UInt8) (len : Nat) : Option Nat :=
  let l := field mem 12 2
  if LLC_HEADER_SIZE < len ∧ slice mem 0 6 = bridgeGroupAddress ∧ l ≤ 1500 ∧ l + 14 ≤ len ∧
      3 ≤ l ∧ mem 14 = 0x42 ∧ mem 15 = 0x42 ∧ mem 16 &&& 3 = 3 then
    some (l - 3)
  else none

/-- `bridge_bpdu_rcv`: a port that is up is one that is enabled. -/
def bridgeBpduRcv (c : Budget) (p : PortRef) (mem : Nat → UInt8) (len : Nat) (b : Bridge) :
    Option Bridge :=
  if p ∉ b.conf.ports ∨ (b.port p).portEnabled = false then some b
  else
    match bpduSize mem len with
    | none => some b
    | some size => rxBpdu c p (fun i => mem (LLC_HEADER_SIZE + i)) size b

/-! ## The step machine -/

inductive Event
  | portCreate (p : PortRef) (name : String) (portno : UInt16)
  | deletePort (p : PortRef)
  | setBridgeAddress (mac : BitVec 48)
  | setBridgeEnable (up : Bool)
  | setPortEnable (p : PortRef) (up : Bool) (speed duplex : Int)
  | oneSecond
  | frame (p : PortRef) (mem : Nat → UInt8) (len : Nat)
  | setCistBridgeConfig (cfg : CistBridgeConfig)
  | setMstiBridgeConfig (t : Mstid) (bridge_priority : UInt8)
  | setCistPortConfig (p : PortRef) (cfg : CistPortConfig)
  | setMstiPortConfig (p : PortRef) (t : Mstid) (cfg : MstiPortConfig)
  | portMcheck (p : PortRef)
  | setVid2fid (vid fid : Nat)
  | setAllVids2fids (vids2fids : Nat → Nat)
  | setFid2mstid (fid : Nat) (mstid : Mstid)
  | setAllFids2mstids (fids2mstids : Nat → Mstid)
  | setMstConfigId (revision : UInt16) (name : Vector UInt8 32)
  | createMsti (t : Mstid)
  | deleteMsti (t : Mstid)

section Daemon

variable (digest : List Mstid → Vector UInt8 16)

/-- The function of `mstp.c` called for an event. -/
def Event.handle (c : Budget) : Event → Bridge → Option Bridge
  | .portCreate p name portno => Mstpd.portCreate c p name portno
  | .deletePort p => Mstpd.deletePort c p
  | .setBridgeAddress mac => Mstpd.setBridgeAddress c mac
  | .setBridgeEnable up => Mstpd.setBridgeEnable c up
  | .setPortEnable p up speed duplex => Mstpd.setPortEnable c p up speed duplex
  | .oneSecond => Mstpd.oneSecond c
  | .frame p mem len => bridgeBpduRcv c p mem len
  | .setCistBridgeConfig cfg => Mstpd.setCistBridgeConfig c cfg
  | .setMstiBridgeConfig t pri => fun b => some (Mstpd.setMstiBridgeConfig t pri b)
  | .setCistPortConfig p cfg => Mstpd.setCistPortConfig c p cfg
  | .setMstiPortConfig p t cfg => Mstpd.setMstiPortConfig c p t cfg
  | .portMcheck p => Mstpd.portMcheck c p
  | .setVid2fid vid fid => Mstpd.setVid2fid digest c vid fid
  | .setAllVids2fids l => Mstpd.setAllVids2fids digest c l
  | .setFid2mstid fid mstid => Mstpd.setFid2mstid digest c fid mstid
  | .setAllFids2mstids l => Mstpd.setAllFids2mstids digest c l
  | .setMstConfigId revision name => Mstpd.setMstConfigId c revision name
  | .createMsti t => Mstpd.createMsti c t
  | .deleteMsti t => Mstpd.deleteMsti c t

/-- An upper-case hexadecimal digit. -/
def hexDigit (n : Nat) : UInt8 := .ofNat (if n < 10 then 48 + n else 55 + n)

/-- The configuration name of a new bridge: its address in hexadecimal. -/
def defaultName (mac : BitVec 48) : Vector UInt8 32 :=
  .ofFn (fun i => if (i : Nat) < 12 then hexDigit (mac.toNat / 16 ^ (11 - (i : Nat)) % 16) else 0)

/-- The parameters of a new bridge before its digest is computed. -/
def initConf (mac : BitVec 48) : BridgeConf where
  ports := []
  trees := [0]
  bridgeEnabled := false
  MstConfigId := { MstConfigId.zero with configuration_name := defaultName mac }
  ForceProtocolVersion := .RSTP
  MaxHops := 20
  Forward_Delay := 15
  Max_Age := 20
  Hello_Time := 2
  Transmit_Hold_Count := 6
  Migrate_Time := 3
  Ageing_Time := 300
  vid2fid := fun _ => 0
  fid2mstid := fun _ => 0

/-- `MSTP_IN_bridge_create`. -/
def bridgeCreate (mac : BitVec 48) : Bridge :=
  let conf := initConf mac
  let tree := fun t => createTree conf mac t
  let port := fun _ => createPort "" 0
  recalcConfigDigest digest
    { conf := conf
      uptime := 0
      port := port
      tree := tree
      ptp := fun p t => createPtp (tree t) (port p)
      out := [] }

/-- A bridge of the daemon; the budget of an event is what the clock and the stack allow. -/
def mstpd : Machine Bridge (Event × Budget) Output where
  step b a :=
    (a.1.handle digest a.2 { b with out := [] }).map (fun b => ({ b with out := [] }, b.out))

end Daemon

end Mstpd
