import TfPack.Vlan.Utils

set_option autoImplicit false

/-! # The VLAN port commands: `vlan_module.lua` and `main_vlan.lua`

A command reads the configuration into `vlanArr`, takes a copy of the ports of the VLANs it is
given, goes through its ports, and changes the copies where the port is free and the change
applies. If there was any change, the copies are written back.
-/

namespace Vlan

/-! ## The commands -/

/-- `add` and `edit`. -/
inductive Cmd
  | add | edit
  deriving DecidableEq, Repr

/-- `taggedType_in`. -/
inductive TaggedType
  | tagged | untagged | not_memb
  deriving DecidableEq, Repr

/-- A range of ports of the device: one, some, or all of them. -/
structure PortRange where
  first : Nat
  last : Nat
  one_le : 1 ≤ first
  first_le : first ≤ last
  le_ten : last ≤ 10

/-- The ports of a range. -/
def PortRange.ports (r : PortRange) : List Nat := List.range' r.first (r.last + 1 - r.first)

/-- A range of VLANs, as `checkPortRange` takes it: `all` is 1 to 10. -/
inductive VlanRange
  | once (num : Nat)
  | range (first last : Nat)
  | all

/-- The result of `checkPortRange`. -/
def VlanRange.check : VlanRange → Option (Nat × Nat)
  | .once num => some (num, num)
  | .range first last => if last < first then none else some (first, last)
  | .all => some (1, 10)

/-- A command line of `main_vlan.lua`. -/
structure Command where
  cmd : Cmd
  type : TaggedType
  vlans : VlanRange
  ports : PortRange

/-! ## `vlan_module.lua` -/

/-- What a command makes of a port in the copy of a VLAN; `none` when it does not apply. -/
abbrev Change := Option PortState → Option (Option PortState)

/-- A port that is not there is added. -/
def addPort (state : PortState) : Change
  | none => some (some state)
  | some _ => none

/-- A port that is there is set. -/
def editPort (state : PortState) : Change
  | some _ => some (some state)
  | none => none

/-- A port that is there is removed. -/
def removePort : Change
  | some _ => some none
  | none => none

/-- One port in the copy of a VLAN. -/
def changePort (change : Change) (i : Nat) (portList : PortTable) : PortTable :=
  match change (portList.lookup i) with
  | none => portList
  | some none => portList.erase i
  | some (some state) => portList.insert i state

/-- The loop over the ports: the copies, and the number of changes. -/
def portLoop (free : Nat → Bool) (change : Change) (busy : List (Nat × PortTable))
    (ports : List Nat) : List (Nat × PortTable) × Nat :=
  ports.foldl (fun acc i =>
    if free i then
      (acc.1.map (fun p => (p.1, changePort change i p.2)),
        acc.2 + acc.1.countP (fun p => (change (p.2.lookup i)).isSome))
    else acc) (busy, 0)

/-- `saveVlan` of the VLANs that are there. -/
def saveVlans (vlanArr : List VlanEntry) (nums : List Nat) : List (Nat × PortTable) :=
  nums.filterMap (fun num => (entryOf vlanArr num).map (fun v => (num, v.ports)))

/-- The end of the three functions: the copies are written back if there was a change. -/
def writeChanges (vlanArr : List VlanEntry) (r : List (Nat × PortTable) × Nat) (net : Network) :
    Network :=
  if 0 < r.2 then uciSetVlanParam vlanArr r.1 net else net

/-- `add_untagged`. -/
def addUntagged (vlanArr : List VlanEntry) (vlanId : Nat) (ports : PortRange) (cmd : Cmd)
    (net : Network) : Network :=
  let free := fun i => vlanArr.all (fun v => (v.ports.lookup i).isNone ||
    (match cmd with
      | .add => false
      | .edit => v.num == vlanId))
  let change := match cmd with
    | .add => addPort .untagged
    | .edit => editPort .untagged
  writeChanges vlanArr (portLoop free change (saveVlans vlanArr [vlanId]) ports.ports) net

/-- `add_tagged`. -/
def addTagged (vlanArr : List VlanEntry) (first last : Nat) (ports : PortRange) (cmd : Cmd)
    (net : Network) : Network :=
  let free := fun i => vlanArr.all (fun v => v.ports.lookup i != some .untagged ||
    (match cmd with
      | .add => false
      | .edit => first ≤ v.num && v.num ≤ last))
  let change := match cmd with
    | .add => addPort .tagged
    | .edit => editPort .tagged
  writeChanges vlanArr
    (portLoop free change (saveVlans vlanArr (List.range' first (last + 1 - first))) ports.ports)
    net

/-- `add_notMemberPorts`. -/
def addNotMemberPorts (vlanArr : List VlanEntry) (first last : Nat) (ports : PortRange)
    (net : Network) : Network :=
  writeChanges vlanArr
    (portLoop (fun _ => true) removePort
      (saveVlans vlanArr (List.range' first (last + 1 - first))) ports.ports) net

/-- The name of a section that is added. -/
def vlanName (num : Nat) : Text := "vlan".toList ++ decimal num

/-- `uci_addVlan`. A section that has the name already gets the number. -/
def uciAddVlan (num : Nat) (net : Network) : Network :=
  if net.any (fun s => s.name == vlanName num) then
    net.map (fun s => if s.name = vlanName num then { s with vlan := num } else s)
  else net ++ [⟨vlanName num, num, []⟩]

/-! ## `main_vlan.lua` -/

/-- The VLANs that `add` creates. -/
def VlanRange.created : VlanRange → List Nat
  | .once num => [num]
  | .range first last => List.range' first (last + 1 - first)
  | .all => []

/-- The VLANs that are missing are added. -/
def addMissing (vlanArr : List VlanEntry) (nums : List Nat) (net : Network) : Network :=
  nums.foldl (fun net num => if (entryOf vlanArr num).isNone then uciAddVlan num net else net) net

/-- `vlan_add` and `vlan_edit`: `add_tagged`, `add_untagget` and `add_not_memb`. The first passes
on `add`, whatever the command is. -/
def runPorts (c : Command) (first last : Nat) (vlanArr : List VlanEntry) (net : Network) :
    Network :=
  match c.type with
  | .tagged => addTagged vlanArr first last c.ports .add net
  | .untagged =>
      match c.vlans with
      | .range _ _ => net
      | _ => addUntagged vlanArr first c.ports c.cmd net
  | .not_memb => addNotMemberPorts vlanArr first last c.ports net

/-- The part of `run_config_vlan` before the ports: `add` creates VLANs. -/
def createVlans (c : Command) (vlanArr : List VlanEntry) (net : Network) : Network :=
  match c.cmd with
  | .add => addMissing vlanArr c.vlans.created net
  | .edit => net

/-- `run_config_vlan`. An error leaves the configuration as it is. -/
def runConfigVlan (c : Command) (net : Network) : Network :=
  match c.vlans.check, getBridgeVlanList net with
  | some (first, last), some vlanArr =>
      let net' := createVlans c vlanArr net
      match getBridgeVlanList net' with
      | some vlanArr' => runPorts c first last vlanArr' net'
      | none => net'
  | _, _ => net

end Vlan
