import TfPack.Clish.Tostring
import TfPack.Igmp.Config

set_option autoImplicit false

/-! # STP and IGMP settings: `config_stp_global.lua`, `config_stp_port.lua`, `igmp_config.lua`

Every command converts its argument with `tonumber` and compares the number. The STP commands then
store the argument as it was typed, those of IGMP the number as Lua writes it. What is no number is
compared all the same, and ends the command with an error of Lua.
-/

namespace Setters

open Lua Clish
open Igmp (IgmpOption optionList)

/-! ## The configuration -/

/-- The options of a port: `cmdPortList`. -/
inductive PortOption
  | treeprio | pathcost | adminedge | autoedge | bpdufilter | bpduguard
  deriving DecidableEq, Repr

/-- The options that the commands set: `stp` and those of IGMP in `network.switch`, the others in
`mstpd.global`, in `mstpd.switch` and in the section of a port. -/
inductive Key
  | stp | loglevel | treeprio | forcevers | ageing | hello | fdelay | maxage | txholdcount
  | port (name : Text) (option : PortOption)
  | igmp (option : IgmpOption)
  deriving DecidableEq, Repr

abbrev Config := Key → Option Text

/-- What a command does: `uci:set`, `uci:delete`, an error that is written, and an error of Lua. -/
inductive Event
  | set (key : Key) (value : Text)
  | delete (key : Key)
  | error (text : String)
  | raised
  deriving DecidableEq

def Event.apply (cfg : Config) : Event → Config
  | .set key value => Function.update cfg key (some value)
  | .delete key => Function.update cfg key none
  | .error _ => cfg
  | .raised => cfg

def Config.after (cfg : Config) (evs : List Event) : Config := evs.foldl Event.apply cfg

/-- One after the other, up to an error of Lua. -/
def inTurn : List (List Event) → List Event
  | [] => []
  | evs :: rest => if .raised ∈ evs then evs else evs ++ inTurn rest

/-! ## What the commands meet -/

/-- Doubles: the rounding is the same on both sides of zero. -/
structure SignedRounding extends Rounding where
  neg : ∀ q, round (-q) = -round q

/-- Every number is kept. -/
def exactly : SignedRounding := ⟨unrounded, fun _ => rfl⟩

/-- What `uci` stores for a number: a whole number next to it, in 32 bits. -/
structure Ubus where
  text : ℚ → Text
  whole : ∀ q, 0 ≤ q → q < 2 ^ 31 → ∃ m : Nat, text q = Vlan.decimal m ∧ ⌊q⌋₊ ≤ m ∧ m ≤ ⌈q⌉₊

/-- The fraction is cut off. -/
def cutOff : Ubus :=
  ⟨fun q => Vlan.decimal ⌊q⌋₊, fun q _ _ => ⟨_, rfl, le_rfl, Nat.floor_le_ceil q⟩⟩

/-- The ports of the bridge, `network.switch.ports`. -/
structure SwitchPorts where
  names : List Text
  numbered : ∀ x ∈ names, (Lldp.getPort x).isSome

section Setters

variable (R : SignedRounding)

/-! ## `config_stp_global.lua` -/

/-- A number of a range, stored as it was typed. -/
def setTyped (min max : Nat) (key : Key) (error : String) (arg : Text) : List Event :=
  match tonumber R.toRounding arg with
  | none => [.raised]
  | some value => if min ≤ value ∧ value ≤ max then [.set key arg] else [.error error]

/-- One of two words. -/
def setWord (first second : String) (key : Key) (error : String) (arg : Text) : List Event :=
  if arg = first.toList ∨ arg = second.toList then [.set key arg] else [.error error]

def configState (arg : Text) : List Event :=
  if tonumber R.toRounding arg = some 0 ∨ tonumber R.toRounding arg = some 1 then [.set .stp arg]
  else [.error "error >> State value not corrected\n"]

def configLogLevel := setTyped R 0 4 .loglevel "error >> Log level not corrected\n"

def configPriority := setTyped R 0 15 .treeprio "error >> Priority value not corrected\n"

def configProtocol := setWord "stp" "rstp" .forcevers "error >> Protocol value not corrected\n"

def configAgeing :=
  setTyped R 10 1000000 .ageing "error >> Ageing value must be in range 10 – 1.0000.00 seconds\n"

def configHelloTime :=
  setTyped R 1 10 .hello "error >> Hello time must be in range 1 – 10 seconds\n"

def configForwardDelay :=
  setTyped R 4 30 .fdelay "error >> Forward delay time must be in range 4 - 30 seconds\n"

def configMaxAge := setTyped R 6 40 .maxage "error: Max age time must be in range 6 - 40 seconds\n"

def configTXHoldCount :=
  setTyped R 1 10 .txholdcount "error: TX hold count must be in range 1 - 10 seconds\n"

/-- The commands of `stp_cmdList`. -/
inductive StpCmd
  | state | loglevel | priority | protocol | ageing | hellotime | forwarddelay | maxage
  | txholdcount
  deriving DecidableEq, Repr

def StpCmd.word : StpCmd → Text
  | state => "state".toList
  | loglevel => "loglevel".toList
  | priority => "priority".toList
  | protocol => "protocol".toList
  | ageing => "ageing".toList
  | hellotime => "hellotime".toList
  | forwarddelay => "forwarddelay".toList
  | maxage => "maxage".toList
  | txholdcount => "txholdcount".toList

def StpCmd.func : StpCmd → Text → List Event
  | state => configState R
  | loglevel => configLogLevel R
  | priority => configPriority R
  | protocol => configProtocol
  | ageing => configAgeing R
  | hellotime => configHelloTime R
  | forwarddelay => configForwardDelay R
  | maxage => configMaxAge R
  | txholdcount => configTXHoldCount R

def stpCmdList : List StpCmd :=
  [.state, .loglevel, .priority, .protocol, .ageing, .hellotime, .forwarddelay, .maxage,
    .txholdcount]

/-- `run_config_stp`. -/
def runConfigStp (arg1 arg2 : Text) : List Event :=
  inTurn ((stpCmdList.filter (fun c => arg1 = c.word)).map (fun c => c.func R arg2))

/-! ## `config_stp_port.lua` -/

def configPortPriority (port : Text) :=
  setTyped R 0 15 (.port port .treeprio) "error >> Priority value not corrected\n"

/-- Every number is at least the smaller bound or at most the larger one. -/
def configPortPathcost (port arg : Text) : List Event :=
  match tonumber R.toRounding arg with
  | none => [.raised]
  | some value =>
      if 0 ≤ value ∨ value ≤ 200000000 then [.set (.port port .pathcost) arg]
      else [.error "error >> Path cost value maust be in range  0 - 200000000\n"]

def configPortAdminEdge (port : Text) :=
  setWord "yes" "no" (.port port .adminedge) "error >> Admin edge value not corrected\n"

def configPortAutoEdge (port : Text) :=
  setWord "yes" "no" (.port port .autoedge) "error >> Auto_edge value not corrected\n"

def configPortBpduFilter (port : Text) :=
  setWord "yes" "no" (.port port .bpdufilter) "error >> BPDU filter value not corrected\n"

/-- The error is that of the filter. -/
def configPortBpduGuard (port : Text) :=
  setWord "yes" "no" (.port port .bpduguard) "error >> BPDU filter value not corrected\n"

def PortOption.word : PortOption → Text
  | treeprio => "treeprio".toList
  | pathcost => "pathcost".toList
  | adminedge => "adminedge".toList
  | autoedge => "autoedge".toList
  | bpdufilter => "bpdufilter".toList
  | bpduguard => "bpduguard".toList

def PortOption.func : PortOption → Text → Text → List Event
  | treeprio => configPortPriority R
  | pathcost => configPortPathcost R
  | adminedge => configPortAdminEdge
  | autoedge => configPortAutoEdge
  | bpdufilter => configPortBpduFilter
  | bpduguard => configPortBpduGuard

def cmdPortList : List PortOption :=
  [.treeprio, .pathcost, .adminedge, .autoedge, .bpdufilter, .bpduguard]

/-- `tonumber` of the number `getPort` finds. -/
def portNum (portStr : Text) : Option ℚ :=
  (Lldp.getPort portStr).bind (fun p => tonumber R.toRounding p.1)

/-- One round of the loop over the ports. -/
def configPort (r : Range) (arg2 arg3 portStr : Text) : List Event :=
  match portNum R portStr with
  | none => [.raised]
  | some n =>
      if r.first ≤ n ∧ n ≤ r.last then
        inTurn ((cmdPortList.filter (fun o => arg2 = o.word)).map (fun o => o.func R portStr arg3))
      else []

/-- `run_config_stp_port`. -/
def runConfigStpPort (ports : SwitchPorts) (arg1 arg2 arg3 : Text) : List Event :=
  match checkPortRange R.toRounding arg1 with
  | .raised => [.raised]
  | .wrong =>
      [.error "error: port range is wrong\n", .error "error: stp port range is wrong\n"]
  | .range r => inTurn (ports.names.map (configPort R r arg2 arg3))

/-! ## `igmp_config.lua` -/

/-- `1` sets the option, and `0` deletes it with those after it. -/
def igmpSwitch (option : IgmpOption) (start : Nat) (arg : Text) : List Event :=
  if tonumber R.toRounding arg = some 1 then [.set (.igmp option) "1".toList]
  else if tonumber R.toRounding arg = some 0 then
    (optionList.drop (start - 1)).map (fun o => .delete (.igmp o))
  else []

def igmpConfigState := igmpSwitch R .igmp_snooping 1

def igmpConfigEnableMulticastQuerier := igmpSwitch R .multicast_querier 3

/-- A number of a range, stored as it is written. -/
def setWritten (min max : Nat) (option : IgmpOption) (error : String) (write : ℚ → Text)
    (arg : Text) : List Event :=
  match tonumber R.toRounding arg with
  | none => [.raised]
  | some value =>
      if value < min ∨ max < value then [.error error] else [.set (.igmp option) (write value)]

/-- `tostring(value * canti_sec)`. -/
def hundredths (value : ℚ) : Text := tostring (R.round (value * 100))

/-- The number itself is passed to `uci`. -/
def igmpConfigMaxSnoopingTableSize (U : Ubus) :=
  setWritten R 1 1024 .hash_max "error: max snooping table size must be in range 1 - 1024\n" U.text

def igmpConfigRobustness :=
  setWritten R 2 255 .robustness "error: robustness count must be in range 2 - 255\n" tostring

def igmpConfigQueryInterval :=
  setWritten R 60 600 .query_interval "error: query interval must be in range 60 - 600 sec\n"
    (hundredths R)

/-- The error is that of the table size. -/
def igmpConfigLastMemberInterval :=
  setWritten R 1 25 .last_member_interval
    "error: max snooping table size must be in range 1 - 1024\n" (hundredths R)

/-- `igmp_config_Query_response_interval`. There is no `errorCode.zero`: it is `nil`, as is what
`getIgmpSatus` returns for `0`. -/
def igmpConfigQueryResponseInterval (cfg : Config) (arg : Text) : List Event :=
  let notdef := "error: Query Response Interval must be set after Query Interval\n"
  match cfg (.igmp .query_interval) with
  | none => [.error notdef]
  | some query =>
      if query = "null".toList then [.error notdef]
      else if query = "0".toList then
        [.error "error: Query Response Interval must be lower than the query interval value\n"]
      else
        match tonumber R.toRounding arg, tonumber R.toRounding query with
        | some value, some query =>
            let limit := R.round (query / 100)
            if limit ≤ value then
              [.error ("error: the Query Response Interval must be lower than the query interval " ++
                "value: " ++ String.ofList (tostring limit) ++ "\n")]
            else [.set (.igmp .query_response_interval) (hundredths R value)]
        | _, _ => [.raised]

/-- `igmp.cmd`. -/
def igmpWord : IgmpOption → Text
  | .igmp_snooping => "state".toList
  | .hash_max => "max_snooping_table_size".toList
  | .multicast_querier => "multicast_querier".toList
  | .robustness => "robustness".toList
  | .query_interval => "query_interval".toList
  | .query_response_interval => "query_response_interval".toList
  | .last_member_interval => "last_member_interval".toList

/-- `igmp_cmdList`. -/
def igmpFunc (U : Ubus) (cfg : Config) : IgmpOption → Text → List Event
  | .igmp_snooping => igmpConfigState R
  | .hash_max => igmpConfigMaxSnoopingTableSize R U
  | .multicast_querier => igmpConfigEnableMulticastQuerier R
  | .robustness => igmpConfigRobustness R
  | .query_interval => igmpConfigQueryInterval R
  | .query_response_interval => igmpConfigQueryResponseInterval R cfg
  | .last_member_interval => igmpConfigLastMemberInterval R

/-- `config_igmp`. -/
def configIgmp (U : Ubus) (cfg : Config) (arg1 arg2 : Text) : List Event :=
  inTurn ((optionList.filter (fun o => arg1 = igmpWord o)).map (fun o => igmpFunc R U cfg o arg2))

end Setters

/-! ## Sequences of commands -/

/-- A call of one of the three scripts. -/
inductive Call
  | stp (arg1 arg2 : Text)
  | stpPort (arg1 arg2 arg3 : Text)
  | igmp (arg1 arg2 : Text)
  deriving DecidableEq, Repr

/-- What the scripts run on. -/
structure Device where
  R : SignedRounding
  ubus : Ubus
  ports : SwitchPorts

def Device.events (D : Device) (cfg : Config) : Call → List Event
  | .stp arg1 arg2 => runConfigStp D.R arg1 arg2
  | .stpPort arg1 arg2 arg3 => runConfigStpPort D.R D.ports arg1 arg2 arg3
  | .igmp arg1 arg2 => configIgmp D.R D.ubus cfg arg1 arg2

/-- The calls one after the other. -/
def Device.machine (D : Device) : StepMachine.Machine Config Call Event where
  step cfg c := some (cfg.after (D.events cfg c), D.events cfg c)

end Setters
