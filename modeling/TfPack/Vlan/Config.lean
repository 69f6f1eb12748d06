import TfPack.Lib.SectionStore
import TfPack.Vlan.Confined

set_option autoImplicit false

/-! # The network configuration and its management VLANs

The VLANs are sections `bridge-vlan` of the network configuration, next to the sections `device`
and `interface`. The commands read and change the configuration that is staged; the interfaces are
taken from the one that runs, which has the changes only after they are saved. A VLAN is a
management VLAN, and is not deleted, when an interface that runs on the switch has it in its staged
`device`.
-/

namespace Vlan

open SectionStore

/-! ## The configuration -/

/-- The value of an option: a number, a text, or a list. -/
inductive Value
  | num (n : Nat)
  | text (t : Text)
  | list (l : List Text)
  deriving DecidableEq, Repr

/-- The network configuration. -/
abbrev Config := Store Text Value

/-- The configuration that is staged, with the names of the sections that were deleted from it or
lost an option since the last save, and the one that runs. -/
structure Net where
  staged : Config
  removed : List Text
  running : Config

/-- A section `bridge-vlan`. -/
def bridgeVlan (s : Section Text Value) : Option BridgeVlan :=
  match s.options "vlan".toList, s.options "ports".toList with
  | some (.num n), none => some ⟨s.name, n, []⟩
  | some (.num n), some (.list ports) => some ⟨s.name, n, ports⟩
  | _, _ => none

/-- The sections `bridge-vlan`. -/
def bridgeVlans (cfg : Config) : Option Network :=
  (cfg.filter (fun s => s.type == "bridge-vlan".toList)).mapM bridgeVlan

/-- `ubus call uci get` of the device of an interface. -/
def deviceOf (ifName : Text) (cfg : Config) : Option Text :=
  match valueOf ifName "device".toList cfg with
  | some (.text t) => some t
  | _ => none

/-- `uci del`. -/
def Net.delete (id : Text) (s : Net) : Net :=
  if (find id s.staged).isSome then
    { s with staged := SectionStore.delete id s.staged, removed := id :: s.removed }
  else s

/-- `uci del` of an option. -/
def Net.unset (id option : Text) (s : Net) : Net :=
  if (valueOf id option s.staged).isSome then
    { s with staged := SectionStore.unset id option s.staged, removed := id :: s.removed }
  else s

/-! ## Interfaces -/

/-- `ubus call network.interface dump`: the interfaces that run, with their devices. -/
def dump (running : Config) : List (Text × Option Text) :=
  (running.filter (fun s => s.type == "interface".toList)).map (fun s =>
    (s.name, match s.options "device".toList with
      | some (.text t) => some t
      | _ => none))

/-- `getIfList`: the interfaces on the switch. An interface without a device is an error. -/
def getIfList : List (Text × Option Text) → Option (List Text)
  | [] => some []
  | (_, none) :: _ => none
  | (ifName, some device) :: l =>
      (getIfList l).map (fun ifs => if "switch".toList <+: device then ifName :: ifs else ifs)

/-- The matches of `[^.]+`. -/
def pieces (t : Text) : List Text := (t.splitOn '.').filter (fun p => !p.isEmpty)

/-- The device names the VLAN. -/
def namesVlan (device : Text) (num : Nat) : Bool :=
  match pieces device with
  | dev :: vid :: _ => dev == "switch".toList && vid == decimal num
  | _ => false

/-- An entry of `vlanArr` with the interfaces on it; `mngtVlan` is set when there are any. -/
structure VlanInfo extends VlanEntry where
  ifname : List Text

/-- `getMngmntVlan`, and whether the interface is marked as deleted. -/
def getMngmntVlan (s : Net) (vlanArr : List VlanInfo) (ifName : Text) : List VlanInfo × Bool :=
  match deviceOf ifName s.staged with
  | some device =>
      (vlanArr.map (fun v =>
        if namesVlan device v.num then { v with ifname := v.ifname ++ [ifName] } else v), false)
  | none => (vlanArr, s.removed.contains ifName)

/-- The interfaces one after the other; those marked are put into `if_deleted_list`. -/
def markVlans (s : Net) (ifs : List Text) (vlanArr : List VlanInfo) :
    List VlanInfo × List Text :=
  ifs.foldl (fun acc ifName =>
    let r := getMngmntVlan s acc.1 ifName
    (r.1, if r.2 then acc.2 ++ [ifName] else acc.2)) (vlanArr, [])

/-- `getVlanArr` of `main_vlan.lua`. -/
def getVlanArr (s : Net) : Option (List VlanInfo × List Text) :=
  match (bridgeVlans s.staged).bind getBridgeVlanList, getIfList (dump s.running) with
  | some vlanArr, some ifs => some (markVlans s ifs (vlanArr.map (fun v => ⟨v, []⟩)))
  | _, _ => none

/-! ## `vlan_id`: adding, editing and deleting VLANs -/

/-- The name of the device section of a VLAN. -/
def deviceName (num : Nat) : Text := "switch".toList ++ decimal num

/-- The device of a VLAN. -/
def vlanDevice (num : Nat) : Text := "switch.".toList ++ decimal num

/-- The options that `uci_addVlan` sets in its two sections. -/
def vlanOptions (num : Nat) : List (Text × Value) :=
  [("device".toList, .text "switch".toList), ("vlan".toList, .num num),
    ("state".toList, .text "enable".toList)]
def deviceOptions (num : Nat) : List (Text × Value) :=
  [("name".toList, .text (vlanDevice num)), ("type".toList, .text "8021q".toList),
    ("ifname".toList, .text "switch".toList), ("vid".toList, .num num),
    ("macaddr".toList, .text "C0:11:A6:00:00:00".toList)]

/-- `uci add` and an `uci set` for each option. -/
def addSection (type name : Text) (options : List (Text × Value)) (cfg : Config) : Config :=
  setAll name options (SectionStore.add type name cfg)

/-- `uci_addVlan` of `vlan_module.lua`. -/
def uciAddVlanSections (num : Nat) (cfg : Config) : Config :=
  addSection "device".toList (deviceName num) (deviceOptions num)
    (addSection "bridge-vlan".toList (vlanName num) (vlanOptions num) cfg)

/-- The loop of `run_config_vlan` over the VLANs that are missing. -/
def addMissingSections (vlanArr : List VlanInfo) (nums : List Nat) (cfg : Config) : Config :=
  nums.foldl (fun cfg num =>
    if vlanArr.all (fun v => v.num != num) then uciAddVlanSections num cfg else cfg) cfg

/-- `uciSetVlanParam` for one VLAN: `uci del` and an `uci add_list` for each port. -/
def setPortsOption (id : Text) (ports : PortTable) (s : Net) : Net :=
  let s := s.unset id "ports".toList
  match namesOf ports with
  | [] => s
  | names => { s with staged := SectionStore.set id "ports".toList (.list names) s.staged }

/-- `uciSetVlanParam`. -/
def uciSetPorts (vlanArr : List VlanEntry) (busy : List (Nat × PortTable)) (s : Net) : Net :=
  busy.foldl (fun s p =>
    match entryOf vlanArr p.1 with
    | some v => setPortsOption v.id p.2 s
    | none => s) s

/-- `vlan_add` and `vlan_edit`. -/
def runPortsOn (c : Command) (first last : Nat) (vlanArr : List VlanEntry) (s : Net) : Net :=
  if 0 < (c.loop first last vlanArr).2 then uciSetPorts vlanArr (c.loop first last vlanArr).1 s
  else s

/-- The part of `run_config_vlan` before the ports: `add` creates VLANs. -/
def createSections (c : Command) (vlanArr : List VlanInfo) (s : Net) : Net :=
  match c.cmd with
  | .add => { s with staged := addMissingSections vlanArr c.vlans.created s.staged }
  | .edit => s

/-- `run_config_vlan` for `vlan_id <range> add` and `edit`. An error ends the command. -/
def runVlanId (c : Command) (s : Net) : Net :=
  match c.vlans.check, getVlanArr s with
  | some (first, last), some (vlanArr, _) =>
      let s' := createSections c vlanArr s
      match getVlanArr s' with
      | some (vlanArr', _) => runPortsOn c first last (vlanArr'.map VlanInfo.toVlanEntry) s'
      | none => s'
  | _, _ => s

/-- `vlan_delete`: the VLANs of the range go, those that are a management VLAN stay. -/
def vlanDelete (vlanArr : List VlanInfo) (first last : Nat) (s : Net) : Net :=
  vlanArr.foldl (fun s v =>
    if first ≤ v.num && v.num ≤ last && v.ifname.isEmpty then s.delete v.id else s) s

/-- `run_config_vlan` for `vlan_id <range> delete`. -/
def runDelete (vlans : VlanRange) (s : Net) : Net :=
  match vlans.check, getVlanArr s with
  | some (first, last), some (vlanArr, _) => vlanDelete vlanArr first last s
  | _, _ => s

/-! ## `mngt_vlan` -/

/-- The actions on a management interface. -/
inductive Action
  | add | edit | delete
  deriving DecidableEq, Repr

/-- What `checkVlan_is_valid` says of the name of an interface. -/
inductive IfStatus
  | not_found | if_name_busy | if_name_deleted
  deriving DecidableEq, Repr

/-- `checkVlan_is_valid`: whether the VLAN is found, and the interface. -/
def checkVlanIsValid (vlanArr : List VlanInfo) (vlanId : Nat) (ifName : Text)
    (ifDeletedList ifs : List Text) : Bool × IfStatus :=
  (vlanArr.any (fun v => v.num == vlanId),
    if ifs.contains ifName then
      if ifDeletedList.contains ifName then .if_name_deleted else .if_name_busy
    else .not_found)

/-- The names that `uci` takes for a section. -/
def validName (t : Text) : Bool := !t.isEmpty && t.all (fun c => c.isAlphanum || c == '_')

/-- `mngtVlan_handler`. -/
def mngtVlanHandler (vlanArr : List VlanInfo) (vlanId : Nat) (ifName : Text) (action : Action)
    (ifDeletedList ifs : List Text) (s : Net) : Net :=
  match action, checkVlanIsValid vlanArr vlanId ifName ifDeletedList ifs with
  | .add, (true, .not_found) =>
      if validName ifName then
        let device := ("device".toList, Value.text (vlanDevice vlanId))
        { s with staged := addSection "interface".toList ifName [device] s.staged }
      else s
  | .edit, (true, .if_name_busy) =>
      { s with staged :=
          SectionStore.set ifName "device".toList (.text (vlanDevice vlanId)) s.staged }
  | .delete, (_, .if_name_busy) => s.delete ifName
  | _, _ => s

/-- `run_config_vlan` for `mngt_vlan`. -/
def runMngtVlan (action : Action) (ifName : Text) (vlanId : Nat) (s : Net) : Net :=
  if 16 < ifName.length then s
  else
    match getVlanArr s, getIfList (dump s.running) with
    | some (vlanArr, ifDeletedList), some ifs =>
        mngtVlanHandler vlanArr vlanId ifName action ifDeletedList ifs s
    | _, _ => s

end Vlan
