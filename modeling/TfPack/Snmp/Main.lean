import TfPack.Lib.BoundedLoop
import TfPack.Snmp.Module

set_option autoImplicit false

/-! # The SNMP agent

The script `snmp_main`: a loop of at most 50 iterations over the status of the request, which
resolves an OID, answers on what it found or rewrites the OID for the next attempt, and prints
the answer when the loop is left. What it prints is a `Reply`; a Lua error and a loop that does
not end print nothing.
-/

namespace Snmp

open BoundedLoop

inductive RequestType where
  | get
  | getNext
  deriving DecidableEq, Repr

/-- The lines printed: the OID, empty for `none`, and the lines after it, `nil` for `none`. -/
structure Reply where
  oid : Option Oid
  lines : List (Option String)
  deriving DecidableEq, Repr

def sendGetResult (resObj : ResObj) : Reply :=
  match resObj.mibObj with
  | none => ⟨resObj.oid, [some "OID", some "1.3.6.1.4.1.8072.3.2.10"]⟩
  | some mibObj =>
      if mibObj.valueType = some "DisplayString" then ⟨resObj.oid, [some "String"]⟩
      else ⟨resObj.oid, [mibObj.valueType, resObj.res]⟩

/-- The variables of `main_handler`; `first` as long as `count` is 1. -/
structure State where
  first : Bool
  status : Status
  objArr : List Node
  resObj : ResObj

/-- The next state, or what is printed when the loop is left. -/
abbrev Outcome := State ⊕ Option Reply

/-- The end of an iteration; the loop is left as soon as the status is OK. -/
def proceed (st : State) : Outcome :=
  if st.status = .ok then .inr (some (sendGetResult st.resObj)) else .inl st

/-- The end of the loop by `break`. -/
def leave (st : State) : Outcome := .inr (some (sendGetResult st.resObj))

/-- The error that ends the script. -/
def luaError : Outcome := .inr none

/-- The next attempt, on another OID. -/
def retry (st : State) (oid : Oid) : Outcome :=
  proceed { st with status := .inProgress, resObj := { st.resObj with oid := some oid } }

/-- The list below the element number `n`, when there is one. -/
def listAt (objArr : List Node) (n : Nat) : Option (List Node) :=
  (objArr[n - 1]?).bind Node.list?

/-- The first `n` arcs, the last one raised, unless that leaves the list. -/
def raiseArc (inputOid : Oid) (n : Nat) (prevList : List Node) : Option Oid :=
  if inputOid.getD (n - 1) 0 + 1 > prevList.length then none
  else some (splitNextOid (inputOid.take n))

/-- The iteration on `oid_over_list`: the fourth arc raised, else the third one. -/
def onOidOverList (inputOid : Oid) (st : State) : Outcome :=
  let third : Outcome :=
    if inputOid.length > 2 then
      match listAt st.objArr 2 with
      | none => luaError
      | some prevList =>
          match raiseArc inputOid 3 prevList with
          | some oid => retry st oid
          | none => leave { st with status := .failed }
    else proceed st
  if inputOid.length > 3 then
    match listAt st.objArr 3 with
    | none => luaError
    | some prevList =>
        match raiseArc inputOid 4 prevList with
        | some oid => retry st oid
        | none => third
  else third

/-- The iteration on `over_index`. -/
def onOverIndex (inputOid : Oid) (st : State) : Outcome :=
  if inputOid.length < 2 then luaError
  else retry st (splitNextOid inputOid.dropLast)

/-- The iteration on `zero_index`. -/
def onZeroIndex (st : State) : Outcome :=
  match st.objArr.getLast? with
  | none => luaError
  | some lastElement =>
      if lastElement.nodetype = .scalar then
        match prevElement st.objArr with
        | none => luaError
        | some prev =>
            match prev.list? with
            | none => luaError
            | some currentList =>
                if lastElement.oid.getLastD 0 + 1 ≤ currentList.length then
                  retry st (splitNextOid lastElement.oid)
                else retry st (splitNextOid prev.oid)
      else proceed { st with status := .inProgress }

/-- The iteration on `found`. -/
def onFound (B : Backend) (requestType : RequestType) (st : State) : Outcome :=
  let answered (r : Option (ResObj × Status)) : Outcome :=
    match r with
    | none => luaError
    | some (resObj, status) => proceed { st with status := status, resObj := resObj }
  match requestType with
  | .get => answered (getRequestHandler B st.objArr)
  | .getNext =>
      if st.objArr.length > 1 then answered (getNextRequestHandler B st.objArr)
      else if st.objArr.length = 1 then retry st [3, 1]
      else proceed st

/-- One iteration of the loop. -/
def iteration (B : Backend) (requestType : RequestType) (inputOid : Oid) (st : State) : Outcome :=
  let oidArr := if st.first then inputOid else st.resObj.oid.getD []
  let st := { st with first := false }
  match st.status with
  | .inProgress =>
      let r := getOidElement oidArr
      proceed { st with objArr := r.1, status := r.2 }
  | .oidOverList => onOidOverList inputOid st
  | .overIndex => onOverIndex inputOid st
  | .zeroIndex => onZeroIndex st
  | .found => onFound B requestType st
  | .notDefined => leave st
  | .failed => leave st
  | .oidOver => proceed st
  | .ok => proceed st

def start : State := ⟨true, .inProgress, [], {}⟩

/-- `main_handler` of the script. -/
def mainHandler (B : Backend) (requestType : RequestType) (inputOid : Oid) : Option Reply :=
  (run (iteration B requestType inputOid) 50 start).join

/-- The script on an OID of the enterprise: the root stands for its first list. -/
def tfRunSnmp (B : Backend) (requestType : RequestType) (inputOid : Oid) : Option Reply :=
  mainHandler B requestType (if inputOid = [] then [getFirstOidIndex] else inputOid)

end Snmp
