import TfPack.AutoRestart.LuaChecks
import TfPack.Snmp.Main

set_option autoImplicit false

/-! # SET

The setters of `tf_snmp_module` and the loop of `snmp_main` for a SET request. The status comes
through three functions: a setter gives it to `setValue`, that to `SET_requestHandler`, and that to
the loop. A setter that returns nothing makes it `nil`, and two paths leave it the empty text; no
branch of the loop knows either of them, and both are `none` here. What a request does to the
backend are its `effects`.
-/

namespace Snmp

open BoundedLoop

/-! ## The setters -/

/-- `setParam`: the third and the fourth argument of the script. -/
structure SetParam where
  valueType : Lua.Text
  value : Lua.Text

/-- What a request does to the backend: a call of `poe.managePoE`, or a command line. -/
inductive Effect where
  | managePoE (portNum : Nat) (value : Lua.Text)
  | executeCommand (command : Lua.Text)
  deriving DecidableEq, Repr

/-- How Lua reads and prints numbers. -/
structure LuaNumbers where
  rounding : Lua.Rounding
  tostring : ℚ → String

def LuaNumbers.tonumber (L : LuaNumbers) (s : Lua.Text) : Option ℚ := Lua.tonumber L.rounding s

/-- What a setter returns and does. -/
structure SetResult where
  res : Option String
  status : Option Status
  effects : List Effect

/-- A value that is refused. -/
def SetResult.refused : SetResult := ⟨none, some .failed, []⟩

/-- The types `integer` and `INTEGER`. -/
def SetParam.isInteger (p : SetParam) : Bool :=
  p.valueType == "integer".toList || p.valueType == "INTEGER".toList

def snmpSetPoeState (L : LuaNumbers) (B : Backend) (mibObj : MibObj) (portNum : Nat)
    (setParam : SetParam) : SetResult :=
  if mibObj.name = some "portPoeState" then
    let count : Int := B.poeConfig - 2
    if (portNum : Int) > count then .refused
    else if portNum < 1 then .refused
    else if setParam.isInteger = false then .refused
    else
      match L.tonumber setParam.value with
      | none => .refused
      | some poeState =>
          -- the status is still the OK it starts with
          if poeState < 1 ∨ 2 < poeState then ⟨none, some .ok, []⟩
          else ⟨some (L.tostring poeState), some .ok, [.managePoE portNum setParam.value]⟩
  else ⟨some "", some .ok, []⟩

/-- `snmp_setOutPutState`. It returns nothing. -/
def snmpSetOutPutState (L : LuaNumbers) (mibObj : MibObj) (setParam : SetParam) : SetResult :=
  if mibObj.name = some "relay" then
    let i2c_relaysetValue := "tf_hwsys_ctrl relay set ".toList ++ setParam.value
    if L.tonumber setParam.value = some 0 ∨ L.tonumber setParam.value = some 1 then
      if setParam.isInteger then ⟨none, none, [.executeCommand i2c_relaysetValue]⟩
      else ⟨none, none, []⟩
    else ⟨none, none, []⟩
  else ⟨none, none, []⟩

/-- `setValue`, with the MIB entry of the node; there is none only for an error. -/
def setValue (L : LuaNumbers) (B : Backend) (oid : Oid) (index : Nat) (setParam : SetParam) :
    Option (SetResult × MibObj) :=
  (getMibObj oid).map (fun mibObj =>
    if mibObj.nodetype = some .column ∨ mibObj.nodetype = some .scalar then
      match mibObj.ubusType with
      | some .poeConfig => (snmpSetPoeState L B mibObj index setParam, mibObj)
      | some .i2c => (snmpSetOutPutState L mibObj setParam, mibObj)
      | _ => (⟨some "", none, []⟩, mibObj)
    else (⟨some "", some .failed, []⟩, mibObj))

/-- `SET_requestHandler`. At a scalar only the effect of `setValue` is left. -/
def setRequestHandler (L : LuaNumbers) (B : Backend) (objArr : List Node) (setParam : SetParam) :
    Option (ResObj × Option Status × List Effect) := do
  let lastElement ← objArr.getLast?
  match lastElement.nodetype with
  | .index =>
      let prev ← prevElement objArr
      let index ← lastElement.oid.head?
      (setValue L B prev.oid index setParam).map (fun r =>
        (⟨some (prev.oid ++ [index]), some r.2, r.1.res⟩, r.1.status, r.1.effects))
  | .scalar =>
      (setValue L B lastElement.oid 0 setParam).map (fun r => ({}, none, r.1.effects))
  | _ => some ({}, some .failed, [])

/-! ## The loop -/

/-- The variables of `main_handler`, with what has been done to the backend. -/
structure SetState where
  first : Bool
  status : Option Status
  objArr : List Node
  resObj : ResObj
  effects : List Effect

/-- A finished run: the status `main_handler` returns, what it prints, and what it has done. -/
structure SetRun where
  status : Status
  reply : Reply
  effects : List Effect

/-- The loop of SET in a state of the agent, where nothing has been done yet. -/
def State.forSet (st : State) : SetState := ⟨st.first, some st.status, st.objArr, st.resObj, []⟩

/-- The iteration on `found`. -/
def onSetFound (L : LuaNumbers) (B : Backend) (setParam : SetParam) (st : SetState) :
    SetState ⊕ Option SetRun :=
  match setRequestHandler L B st.objArr setParam with
  | none => .inr none
  | some (resObj, status, effects) =>
      let effects := st.effects ++ effects
      if status = some .ok then .inr (some ⟨.ok, sendGetResult resObj, effects⟩)
      else .inl ⟨false, status, st.objArr, resObj, effects⟩

/-- One iteration of the loop. The other statuses are those of every request; they leave the loop by
`break` only, with the status `not_defined` or `failed`. -/
def setIteration (L : LuaNumbers) (B : Backend) (setParam : SetParam) (inputOid : Oid)
    (st : SetState) : SetState ⊕ Option SetRun :=
  match st.status with
  | none => .inl { st with first := false }
  | some .found => onSetFound L B setParam { st with first := false }
  | some status =>
      (iteration B .get inputOid ⟨st.first, status, st.objArr, st.resObj⟩).map
        (fun st' => ⟨st'.first, some st'.status, st'.objArr, st'.resObj, st.effects⟩)
        (Option.map (fun reply =>
          ⟨if status = .notDefined then .notDefined else .failed, reply, st.effects⟩))

/-- `main_handler` of the script for SET; there is no result after an error, and none when the
guard ends the loop. -/
def setMainHandler (L : LuaNumbers) (B : Backend) (setParam : SetParam) (inputOid : Oid) :
    Option SetRun :=
  (run (setIteration L B setParam inputOid) 50 start.forSet).join

/-- The script for SET. Without a type or a value it ends before the loop. -/
def tfRunSnmpSet (L : LuaNumbers) (B : Backend) (setParam : SetParam) (inputOid : Oid) :
    Option SetRun :=
  if setParam.valueType = [] ∨ setParam.value = [] then none
  else setMainHandler L B setParam (if inputOid = [] then [getFirstOidIndex] else inputOid)

end Snmp
