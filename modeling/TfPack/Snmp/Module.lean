import TfPack.Snmp.Base

set_option autoImplicit false

/-! # The handlers of the SNMP agent

The functions of `tf_snmp_module` that resolve an OID in the tree and answer a request on the
nodes found. What ubus reports is a `Backend`: how many ports each of the four reports has, and
the value read for a MIB entry and an index, `none` for a field that is absent. An outcome `none`
stands for a Lua error, after which the script prints nothing.
-/

namespace Snmp

/-- The statuses of the agent. -/
inductive Status where
  | inProgress
  | found
  | overIndex
  | oidOverList
  | oidOver
  | notDefined
  | zeroIndex
  | failed
  | ok
  deriving DecidableEq, Repr

/-- What the agent reads through ubus: the tables among the sections of the autorestart and the
PoE configuration, the ports of the PoE and the autorestart status, and the values. A handler that
ends with an error of Lua, for a report that is not there or has no such sensor or port, is outside
this layer: every value can be read here. -/
structure Backend where
  arConfig : Nat
  poeConfig : Nat
  poeStatus : Nat
  arStatus : Nat
  value : String → Nat → Option String

/-! ## Reading a value -/

/-- A value and its status, unless there is an error. -/
abbrev Fetched := Option (Option String × Status)

/-- The value of an entry. -/
def Backend.read (B : Backend) (mibObj : MibObj) (index : Nat) : Option String :=
  B.value (mibObj.name.getD "") index

/-- The value of a port, with the checks the four reports share. -/
def portValue (B : Backend) (count : Int) (mibObj : MibObj) (portNum : Nat) : Fetched :=
  if (portNum : Int) > count then some (none, .overIndex)
  else if portNum < 1 then some (none, .zeroIndex)
  else some (B.read mibObj portNum, .ok)

def snmpGetSPFdata (B : Backend) (mibObj : MibObj) (index : Nat) : Fetched :=
  if index ≤ 2 then some (B.read mibObj index, .ok) else some (some "", .overIndex)

/-- The names of `i2c.sensorList`. -/
def i2cSensorList : List String := ["tamper", "sensor1", "sensor2", "relay"]

def i2cHandler (B : Backend) (mibObj : MibObj) (index : Nat) : Fetched :=
  if mibObj.name ∈ [some "inputState", some "inputType", some "inputAlarm", some "inputIndex"] then
    if index > i2cSensorList.length then some (none, .overIndex)
    -- Lua counts from 1: there is no sensor 0 to take the name of
    else if index = 0 then none
    else some (B.read mibObj index, .ok)
  else if mibObj.name = some "outStatePSW" then
    if index > 1 then some (some "", .overIndex) else some (B.read mibObj index, .ok)
  else some (B.read mibObj index, .ok)

def snmpGetPoeStatus (B : Backend) (mibObj : MibObj) (portNum : Nat) : Fetched :=
  portValue B B.poeStatus mibObj portNum

def snmpGetPoeState (B : Backend) (mibObj : MibObj) (portNum : Nat) : Fetched :=
  portValue B (B.poeConfig - 2) mibObj portNum

def snmpGetARconfig (B : Backend) (mibObj : MibObj) (portNum : Nat) : Fetched :=
  portValue B (B.arConfig - 2) mibObj portNum

def snmpGetARerrorCode (B : Backend) (mibObj : MibObj) (portNum : Nat) : Fetched :=
  portValue B B.arStatus mibObj portNum

def snmpGetFWVersion (B : Backend) (mibObj : MibObj) (index : Nat) : Fetched :=
  if index > 1 then some (some "", .overIndex) else some (B.read mibObj index, .ok)

/-- `main_handler` of the module. -/
def fetch (B : Backend) (mibObj : MibObj) (index : Nat) : Fetched :=
  match mibObj.ubusType with
  | some .i2c => i2cHandler B mibObj index
  | some .poeStatus => snmpGetPoeStatus B mibObj index
  | some .poeConfig => snmpGetPoeState B mibObj index
  | some .arStatus => snmpGetARerrorCode B mibObj index
  | some .arConfig => snmpGetARconfig B mibObj index
  | some .fw => snmpGetFWVersion B mibObj index
  | some .spf => snmpGetSPFdata B mibObj index
  | none => some (none, .failed)

/-! ## Resolving an OID -/

/-- The number of the first list of the tree. -/
def getFirstOidIndex : Nat :=
  match mainList.findIdx? (fun n => n.nodetype = .list) with
  | some i => i + 1
  | none => 0

/-- The row below `rowObj`, when the arc at `index` is its own. -/
def tableHandler (arc : Nat) (rowObj : Node) (index : Nat) : Option Node × Status :=
  match rowObj.sub.head? with
  | none => (none, .failed)
  | some rowTable =>
      (some rowTable, if rowTable.oid[index - 1]? = some arc then .ok else .failed)

/-- The loop of `get_OidElement` from arc number `index` on: `len` is the number of all arcs,
`objArr` are the nodes found so far. -/
def oidElements (len : Nat) (currentList : List Node) (index : Nat) (objArr : List Node) :
    Oid → List Node × Status
  | [] => (objArr, .found)
  | arc :: arcs =>
      if arc > currentList.length then (objArr, .oidOverList)
      else if arc = 0 then (objArr, .zeroIndex)
      else
        match currentList[arc - 1]? with
        | none => (objArr, .failed)
        | some rowObj =>
            match rowObj.nodetype with
            | .notDefined => (objArr ++ [rowObj], .found)
            | .table =>
                match arcs with
                | [] => (objArr ++ [rowObj], .found)
                | arc1 :: arcs =>
                    match tableHandler arc1 rowObj (index + 1) with
                    | (some entry, .ok) =>
                        match arcs with
                        | [] => (objArr ++ [rowObj, entry], .found)
                        | arc2 :: arcs =>
                            match tableHandler arc2 entry (index + 2) with
                            | (some row, .ok) =>
                                oidElements len row.sub (index + 3) (objArr ++ [rowObj, entry, row])
                                  arcs
                            | _ => (objArr ++ [rowObj, entry], .failed)
                    | _ => (objArr ++ [rowObj], .failed)
            | .column =>
                if len > rowObj.oid.length + 1 then (objArr ++ [rowObj], .oidOver)
                else if len = rowObj.oid.length + 1 then
                  (objArr ++ [rowObj, ⟨arcs.take 1, rowObj.name, [], .index⟩], .found)
                else (objArr ++ [rowObj], .found)
            | .list => oidElements len rowObj.sub (index + 1) (objArr ++ [rowObj]) arcs
            -- a scalar leaves the list as it is, for the arcs that follow
            | _ => oidElements len currentList (index + 1) (objArr ++ [rowObj]) arcs

def getOidElement (oidArr : Oid) : List Node × Status :=
  oidElements oidArr.length mainList 1 [] oidArr

/-! ## Answering on the nodes found -/

/-- The object a request is answered with; no OID stands for the empty text. -/
structure ResObj where
  oid : Option Oid := none
  mibObj : Option MibObj := some {}
  res : Option String := some ""
  deriving DecidableEq, Repr

/-- The value of a node, with its status and its MIB entry. -/
def getResult (B : Backend) (oid : Oid) (index : Nat) :
    Option (Option String × Status × Option MibObj) :=
  match getMibObj oid with
  | none => some (some "", .inProgress, none)
  | some mibObj =>
      if mibObj.nodetype = some .column ∨ mibObj.nodetype = some .scalar then
        (fetch B mibObj index).map (fun r => (r.1, r.2, some mibObj))
      else some (some "", .inProgress, some mibObj)

/-- A value read becomes the object of the answer. -/
def answerWith (oid : Oid) (r : Option String × Status × Option MibObj) : ResObj × Status :=
  (⟨some oid, r.2.2, r.1⟩, r.2.1)

/-- The element before the last one. -/
def prevElement (objArr : List Node) : Option Node :=
  objArr.dropLast.getLast?

def getRequestHandler (B : Backend) (objArr : List Node) : Option (ResObj × Status) := do
  let lastElement ← objArr.getLast?
  match lastElement.nodetype with
  | .index =>
      let column ← prevElement objArr
      let index ← lastElement.oid.head?
      (getResult B column.oid index).map (answerWith (column.oid ++ [index]))
  | .scalar => (getResult B lastElement.oid 0).map (answerWith lastElement.oid)
  | _ => some ({}, .failed)

/-- The OID with its last arc one higher. -/
def splitNextOid (oidArr : Oid) : Oid :=
  oidArr.dropLast ++ [oidArr.getLastD 0 + 1]

def getNextRequestHandler (B : Backend) (objArr : List Node) : Option (ResObj × Status) := do
  let lastElement ← objArr.getLast?
  let prev ← prevElement objArr
  match lastElement.nodetype with
  | .notDefined =>
      let prevList ← prev.list?
      if lastElement.oid.getLastD 0 ≤ prevList.length then
        some ({ oid := some (splitNextOid lastElement.oid) }, .inProgress)
      else some ({}, .oidOverList)
  | .column => (getResult B lastElement.oid 1).map (answerWith (lastElement.oid ++ [1]))
  | .index =>
      let index ← lastElement.oid.head?
      (getResult B prev.oid (index + 1)).map (answerWith (prev.oid ++ [index + 1]))
  | .scalar => (getResult B lastElement.oid 0).map (answerWith (lastElement.oid ++ [0]))
  -- a list, a table, an entry or a row is descended into
  | _ => some ({ oid := some (lastElement.oid ++ [1]) }, .inProgress)

end Snmp
