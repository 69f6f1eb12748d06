import TfPack.AutoRestart.StatusText
import TfPack.Snmp.Agreement
import TfPack.Snmp.AlarmColumns

set_option autoImplicit false

/-! # What the tables report

The handlers of `tf_snmp_module` with the values they take from the reports of ubus. The index of a
row is the number asked for in five of the tables. The handler of the autorestart errors decides
both columns of its table by the same tests of the error code, so a number of the status can stand
in the index column (`indexRight_iff`), and the status of a port without an error is empty
(`statusRight_iff`).
-/

namespace Snmp

open AutoRestart FlagWord Lua

/-! ## The reports -/

/-- A port of the autorestart status: the test that runs and the error code, which the daemon
prints as numbers. -/
structure ArPort where
  test_type : TypeOfTest
  error_Code : BitVec 32

/-- The options of a section. -/
abbrev Options := String → Option String

/-- What ubus reports: the values of the hardware, the sections of the inputs, the ports of the PoE
status and of the PoE configuration, and the configuration and the status of the autorestart. -/
structure Ubus where
  hwSys : Options
  fwVersion : Option String
  io : String → Option Options
  poePorts : Nat
  poePort : String → Option Options
  portSections : Nat
  portSection : String → Option Options
  arConfig : ArConfig.Values
  arPorts : List ArPort

/-- The number of `TYPE_OF_TEST_t`. -/
def testNumber : TypeOfTest → Nat
  | .test_disable => 0
  | .test_link => 1
  | .test_ping => 2
  | .test_speed => 3
  | .test_max => 4

/-- The table `errorCode`: the bits of an error and the number of its status. -/
def errorCode : List (BitVec 32 × Nat) :=
  [(0x00040#32, 5), (0x00004#32, 2), (0x00008#32, 3), (0x00010#32, 4), (0x00020#32, 6), (0x0#32, 1)]

/-! ## The values of the handlers

A value is `none` when the script ends with an error, and `some none` when the field is absent.
-/

/-- The section of a port. -/
def lanName (portNum : Nat) : String := "lan" ++ toString portNum

/-- `snmp_getSPFdata`; no entry of the list has an `isZero` of `yes`. -/
def spfValue (u : Ubus) (name : String) (index : Nat) : Option (Option String) :=
  if name = "portSfpIndex" then some (some (toString index))
  else some (u.hwSys (name ++ "_" ++ toString index))

/-- `i2c_handler`. -/
def i2cValue (u : Ubus) (name : String) (index : Nat) : Option (Option String) :=
  if name = "inputIndex" then some (some (toString index))
  else if name = "inputType" ∨ name = "inputState" ∨ name = "inputAlarm" then do
    let sensor ← i2cSensorList[index - 1]?
    let list ← u.io sensor
    some (list (if name = "inputType" then "type"
      else if name = "inputState" then "state" else "alarm_state"))
  else some (u.hwSys name)

/-- `statusEnum` of the PoE module. -/
def poeStatusEnum (status : String) : Option String :=
  if status = "Searching" then some "2"
  else if status = "Delivering power" then some "1"
  else none

/-- `snmp_getPoeStatus`; the status is looked up under the text that is printed in front of it. -/
def poeStatusValue (u : Ubus) (name : String) (portNum : Nat) : Option (Option String) :=
  if name = "portPoeStatusState" then
    (u.poePort (lanName portNum)).map (fun info =>
      (info "\tstatus:     \t").bind poeStatusEnum)
  else if name = "portPoeStatusPower" then
    (u.poePort (lanName portNum)).map (fun info => some ((info "consumption").getD ""))
  else if name = "portPoeStatusIndex" then some (some (toString portNum))
  else some (some "")

/-- The `enum` of `portPoeState`. -/
def poeStateEnum (state : String) : Option String :=
  if state = "enabled" then some "1"
  else if state = "disabled" then some "2"
  else none

/-- `snmp_getPoeState`. -/
def poeStateValue (u : Ubus) (name : String) (portNum : Nat) : Option (Option String) :=
  if name = "portPoeIndex" then some (some (toString portNum))
  else if name = "portPoeState" then do
    let list ← u.portSection (lanName portNum)
    let poe ← list "poe"
    some (poeStateEnum (poe ++ "d"))
  else some (some "")

/-- `snmp_getARconfig`. -/
def arConfigValue (R : Rounding) (u : Ubus) (name : String) (portNum : Nat) :
    Option (Option String) := do
  let column ← ArConfig.columnOf name
  let answer ← ArConfig.snmpGetARconfig R u.arConfig column portNum
  some (answer.1.map String.ofList)

/-- `snmp_getARerrorCode`: the tests are the same for both columns. -/
def arErrorValue (u : Ubus) (name : String) (portNum : Nat) : Option (Option String) := do
  let arPoeStatus ← u.arPorts[portNum - 1]?
  let errorCodeLocal ← errorCode[testNumber arPoeStatus.test_type]?
  let errorCodeLink ← errorCode[1]?
  let errorCodeOK ← errorCode[5]?
  let code := arPoeStatus.error_Code
  let res := if name = "arPortIndex" then toString portNum else ""
  some (some (if code &&& errorCodeLocal.1 = errorCodeLocal.1 then toString errorCodeLocal.2
    else if code &&& errorCodeLink.1 = errorCodeLink.1 then toString errorCodeLink.2
    else if code = errorCodeOK.1 then toString errorCodeOK.2 else res))

/-- The value of an entry for a row. -/
def Ubus.value (R : Rounding) (u : Ubus) (mibObj : MibObj) (index : Nat) :
    Option (Option String) :=
  let name := mibObj.name.getD ""
  match mibObj.ubusType with
  | some .i2c => i2cValue u name index
  | some .poeStatus => poeStatusValue u name index
  | some .poeConfig => poeStateValue u name index
  | some .arStatus => arErrorValue u name index
  | some .arConfig => arConfigValue R u name index
  | some .fw => some u.fwVersion
  | some .spf => spfValue u name index
  | none => none

/-- The backend has these reports: their numbers of ports and every value that is read without an
error. -/
structure Backs (R : Rounding) (u : Ubus) (B : Backend) : Prop where
  arConfig : B.arConfig = u.arConfig.size
  poeConfig : B.poeConfig = u.portSections
  poeStatus : B.poeStatus = u.poePorts
  arStatus : B.arStatus = u.arPorts.length
  value : ∀ e ∈ mibList, ∀ i v, u.value R e.2 i = some v → B.read e.2 i = v

variable {R : Rounding} {u : Ubus} {B : Backend}

theorem mem_mibList {oid : Oid} {m : MibObj} (h : getMibObj oid = some m) :
    ∃ e ∈ mibList, e.2 = m := by
  obtain ⟨e, he, rfl⟩ := Option.map_eq_some_iff.mp h
  exact ⟨e, List.mem_of_find?_eq_some he, rfl⟩

/-- **GET prints the value the handler takes from the reports.** -/
theorem get_value (hB : Backs R u B) {T : Table} {c i : Nat}
    (hc : 1 ≤ c ∧ c ≤ T.columns.length) (hi : 1 ≤ i ∧ i ≤ T.rows B) {v : Option String}
    (hv : u.value R (mibOf (T.columnOid c)) i = some v) :
    tfRunSnmp B .get (T.cellOid c i) =
      some ⟨some (T.cellOid c i), [(mibOf (T.columnOid c)).valueType, v]⟩ := by
  have hne : T.cellOid c i ≠ [] := by simp [TableNodes.cellOid]
  obtain ⟨e, he, hem⟩ := mem_mibList (T.leaf c hc.1 hc.2).mib
  rw [← hem] at hv
  rw [tfRunSnmp, if_neg hne, get_cell hc hi, Table.cell, valueReply, ← hem, hB.value e he i v hv]

/-- The handler of the autorestart configuration, for a column of its table. -/
theorem arConfigValue_eq {name : String} {column : ArConfig.Column} {i : Nat}
    {v : Option Text} {status : Status} (hname : ArConfig.columnOf name = some column)
    (hread : ArConfig.snmpGetARconfig R u.arConfig column i = some (v, status)) :
    arConfigValue R u name i = some (v.map String.ofList) := by
  rw [arConfigValue, hname]
  show (ArConfig.snmpGetARconfig R u.arConfig column i).bind _ = _
  rw [hread]
  rfl

/-- The columns of the hour and of the minute of an alarm. -/
def timeColumns : ArConfig.Alarm → Nat × Nat
  | .on => (6, 7)
  | .off => (8, 9)

/-- **GET prints the hour and the minute of an alarm** as `snmp_getARconfig` has them. -/
theorem get_time (hB : Backs R u B) (a : ArConfig.Alarm) {i : Nat}
    (hi : 1 ≤ i ∧ i ≤ autoRestart.rows B) {v : Option Text} {status : Status} :
    (ArConfig.snmpGetARconfig R u.arConfig a.hour i = some (v, status) →
      tfRunSnmp B .get (autoRestart.cellOid (timeColumns a).1 i) =
        some ⟨some (autoRestart.cellOid (timeColumns a).1 i),
          [some "INTEGER", v.map String.ofList]⟩) ∧
    (ArConfig.snmpGetARconfig R u.arConfig a.minute i = some (v, status) →
      tfRunSnmp B .get (autoRestart.cellOid (timeColumns a).2 i) =
        some ⟨some (autoRestart.cellOid (timeColumns a).2 i),
          [some "INTEGER", v.map String.ofList]⟩) := by
  have hcolumn : ∀ c, 6 ≤ c → c ≤ 9 → 1 ≤ c ∧ c ≤ autoRestart.columns.length :=
    fun c h6 h9 => ⟨by omega, h9⟩
  cases a with
  | on =>
      exact ⟨fun hread => get_value hB (hcolumn 6 (by decide) (by decide)) hi
          (arConfigValue_eq rfl hread),
        fun hread => get_value hB (hcolumn 7 (by decide) (by decide)) hi
          (arConfigValue_eq rfl hread)⟩
  | off =>
      exact ⟨fun hread => get_value hB (hcolumn 8 (by decide) (by decide)) hi
          (arConfigValue_eq rfl hread),
        fun hread => get_value hB (hcolumn 9 (by decide) (by decide)) hi
          (arConfigValue_eq rfl hread)⟩

end Snmp
