import Mathlib.Data.List.Defs

set_option autoImplicit false

/-! # The tree of the SNMP agent

The rows of `snmp_base`: each node of the tree has an OID, a name, what lies below it and a type.
OIDs are written as their arcs below the enterprise root `1.3.6.1.4.1.42019`; the agent compares
and builds them as numbers, which Lua keeps exactly for all sub-identifiers of SNMP. `mibList` has
the entries of `mib_list` that are read: those of the scalars and the columns of the tree.
-/

namespace Snmp

/-- The arcs of an OID below the enterprise root. -/
abbrev Oid := List Nat

/-- The type of a node; `index` marks the element made up for the row of a column. -/
inductive Nodetype where
  | list
  | table
  | entry
  | row
  | column
  | scalar
  | notDefined
  | index
  deriving DecidableEq, Repr

/-- A row `{ oid, name, sub, nodetype }`. The row below a table or an entry is a list of one
element here, and an empty list stands for `nil`: no list of the tree is empty. -/
structure Node where
  oid : Oid
  name : String
  sub : List Node
  nodetype : Nodetype

/-- The list below a node, when there is one. -/
def Node.list? (n : Node) : Option (List Node) :=
  if n.sub.isEmpty then none else some n.sub

/-! ## The rows -/

def column (oid : Oid) (name : String) : Node := .mk oid name [] .column

def scalar (oid : Oid) (name : String) : Node := .mk oid name [] .scalar

def notDefined (oid : Oid) (name : String) : Node := .mk oid name [] .notDefined

def autoRestartEntry : List Node :=
  [column [3, 2, 1, 2, 1, 1, 1] "autoRstIndex",
   column [3, 2, 1, 2, 1, 1, 2] "autoRstMode",
   column [3, 2, 1, 2, 1, 1, 3] "autoRstDstIP",
   column [3, 2, 1, 2, 1, 1, 4] "autoRstSpeedDown",
   column [3, 2, 1, 2, 1, 1, 5] "autoRstSpeedUp",
   column [3, 2, 1, 2, 1, 1, 6] "autoReStartTimeOnHour",
   column [3, 2, 1, 2, 1, 1, 7] "autoReStartTimeOnMin",
   column [3, 2, 1, 2, 1, 1, 8] "autoReStartTimeOffHour",
   column [3, 2, 1, 2, 1, 1, 9] "autoReStartTimeOffMin"]

def portPoeEntry : List Node :=
  [column [3, 2, 1, 3, 1, 1, 1] "portPoeIndex",
   column [3, 2, 1, 3, 1, 1, 2] "portPoeState"]

def inputStatusEntry : List Node :=
  [column [3, 2, 2, 2, 1, 1, 1] "inputIndex",
   column [3, 2, 2, 2, 1, 1, 2] "inputType",
   column [3, 2, 2, 2, 1, 1, 3] "inputState",
   column [3, 2, 2, 2, 1, 1, 4] "inputAlarm"]

def poeStatusEntry : List Node :=
  [column [3, 2, 2, 5, 1, 1, 1] "portPoeStatusIndex",
   column [3, 2, 2, 5, 1, 1, 2] "portPoeStatusState",
   column [3, 2, 2, 5, 1, 1, 3] "portPoeStatusPower"]

def autoRestartErrorsEntry : List Node :=
  [column [3, 2, 2, 6, 1, 1, 1, 1] "arPortIndex",
   column [3, 2, 2, 6, 1, 1, 1, 2] "arPortStatus"]

def sfpStatusEntry : List Node :=
  [column [3, 2, 2, 7, 1, 1, 1] "portSfpIndex",
   column [3, 2, 2, 7, 1, 1, 2] "portSfpPresent",
   column [3, 2, 2, 7, 1, 1, 3] "portSfpSignalDetect",
   column [3, 2, 2, 7, 1, 1, 4] "portSfpVendor",
   column [3, 2, 2, 7, 1, 1, 5] "portSfpOui",
   column [3, 2, 2, 7, 1, 1, 6] "portSfpPartNumber",
   column [3, 2, 2, 7, 1, 1, 7] "portSfpRevision",
   column [3, 2, 2, 7, 1, 1, 8] "portSfpTemperature",
   column [3, 2, 2, 7, 1, 1, 9] "portSfpVoltage",
   column [3, 2, 2, 7, 1, 1, 10] "portSfpBiasCurrent",
   column [3, 2, 2, 7, 1, 1, 11] "portSfpTxOutPower",
   column [3, 2, 2, 7, 1, 1, 12] "portSfpTxOutPowerDb",
   column [3, 2, 2, 7, 1, 1, 13] "portSfpRxOutPower",
   column [3, 2, 2, 7, 1, 1, 14] "portSfpRxOutPowerDb"]

/-- A row of `oid_table`, with the row of `oid_Entry` below it. -/
def tableRow (oid : Oid) (table entry : String) (columns : List Node) : Node :=
  .mk oid table [.mk (oid ++ [1]) entry columns .row] .entry

def autoRestartTable : Node :=
  tableRow [3, 2, 1, 2, 1] "autoRestartTable" "autoRestartEntry" autoRestartEntry

def portPoeTable : Node :=
  tableRow [3, 2, 1, 3, 1] "portPoeTable" "portPoeEntry" portPoeEntry

def inputStatusTable : Node :=
  tableRow [3, 2, 2, 2, 1] "inputStatusTable" "inputStatusEntry" inputStatusEntry

def poeStatusTable : Node :=
  tableRow [3, 2, 2, 5, 1] "poeStatusTable" "poeStatusEntry" poeStatusEntry

def autoRestartErrorsTable : Node :=
  tableRow [3, 2, 2, 6, 1, 1] "autoRestartErrorsTable" "autoRestartErrorsEntry"
    autoRestartErrorsEntry

def sfpStatusTable : Node :=
  tableRow [3, 2, 2, 7, 1] "sfpStatusTable" "sfpStatusEntry" sfpStatusEntry

def fwStatusList : List Node :=
  [scalar [3, 2, 2, 3, 1] "fwVersion"]

def specialStatusList : List Node :=
  [.mk [3, 2, 2, 6, 1] "autoRestartErrors" [autoRestartErrorsTable] .table]

def upsStatusList : List Node :=
  [scalar [3, 2, 2, 1, 1] "upsModeAvalible",
   scalar [3, 2, 2, 1, 2] "upsPwrSource",
   scalar [3, 2, 2, 1, 3] "upsBatteryVoltage",
   scalar [3, 2, 2, 1, 4] "upsBatteryTime"]

def sensorList : List Node :=
  [scalar [3, 2, 2, 8, 1] "sensorConnected",
   scalar [3, 2, 2, 8, 2] "sensorTemperature",
   scalar [3, 2, 2, 8, 3] "sensorHumidity",
   scalar [3, 2, 2, 8, 4] "sensorTemperatureMin",
   scalar [3, 2, 2, 8, 5] "sensorTemperatureMax",
   scalar [3, 2, 2, 8, 6] "sensorHumidityMin",
   scalar [3, 2, 2, 8, 7] "sensorHumidityMax"]

def outStatePSWList : List Node :=
  [scalar [3, 2, 1, 4, 1] "outState"]

def configPSWList : List Node :=
  [notDefined [3, 2, 1, 1] "comfortStart",
   .mk [3, 2, 1, 2] "autoRestart" [autoRestartTable] .table,
   .mk [3, 2, 1, 3] "portPoe" [portPoeTable] .table,
   .mk [3, 2, 1, 4] "outStatePSW" outStatePSWList .list]

def statusPSWList : List Node :=
  [.mk [3, 2, 2, 1] "upsStatus" upsStatusList .list,
   .mk [3, 2, 2, 2] "inputStatus" [inputStatusTable] .table,
   .mk [3, 2, 2, 3] "fwStatus" fwStatusList .list,
   notDefined [3, 2, 2, 4] "empty",
   .mk [3, 2, 2, 5] "poeStatus" [poeStatusTable] .table,
   .mk [3, 2, 2, 6] "specialStatus" specialStatusList .list,
   .mk [3, 2, 2, 7] "sfpStatus" [sfpStatusTable] .table,
   .mk [3, 2, 2, 8] "sensorEntry" sensorList .list]

def pswList : List Node :=
  [.mk [3, 2, 1] "configPSW" configPSWList .list,
   .mk [3, 2, 2] "statusPSW" statusPSWList .list]

def switchList : List Node :=
  [notDefined [3, 1] "empty",
   .mk [3, 2] "psw" pswList .list]

def mainList : List Node :=
  [notDefined [1] "empty",
   notDefined [2] "empty",
   .mk [3] "switch" switchList .list,
   notDefined [4] "integrations"]

/-! ## The MIB entries -/

/-- The source a value is read from. -/
inductive UbusType where
  | arConfig
  | poeConfig
  | i2c
  | fw
  | poeStatus
  | arStatus
  | spf
  deriving DecidableEq, Repr

/-- An entry of `mib_list`; the empty table has none of the fields. -/
structure MibObj where
  name : Option String := none
  valueType : Option String := none
  nodetype : Option Nodetype := none
  ubusType : Option UbusType := none
  deriving DecidableEq, Repr

/-- A column of `mib_list`. -/
def mibColumn (oid : Oid) (name valueType : String) (ubusType : UbusType) : Oid × MibObj :=
  (oid, ⟨some name, some valueType, some .column, some ubusType⟩)

/-- A scalar of `mib_list`. -/
def mibScalar (oid : Oid) (name valueType : String) (ubusType : UbusType) : Oid × MibObj :=
  (oid, ⟨some name, some valueType, some .scalar, some ubusType⟩)

def mibList : List (Oid × MibObj) :=
  [mibColumn [3, 2, 1, 2, 1, 1, 1] "autoRstIndex" "INTEGER" .arConfig,
   mibColumn [3, 2, 1, 2, 1, 1, 2] "autoRstMode" "INTEGER" .arConfig,
   mibColumn [3, 2, 1, 2, 1, 1, 3] "autoRstDstIP" "IpAddress" .arConfig,
   mibColumn [3, 2, 1, 2, 1, 1, 4] "autoRstSpeedDown" "INTEGER" .arConfig,
   mibColumn [3, 2, 1, 2, 1, 1, 5] "autoRstSpeedUp" "INTEGER" .arConfig,
   mibColumn [3, 2, 1, 2, 1, 1, 6] "autoReStartTimeOnHour" "INTEGER" .arConfig,
   mibColumn [3, 2, 1, 2, 1, 1, 7] "autoReStartTimeOnMin" "INTEGER" .arConfig,
   mibColumn [3, 2, 1, 2, 1, 1, 8] "autoReStartTimeOffHour" "INTEGER" .arConfig,
   mibColumn [3, 2, 1, 2, 1, 1, 9] "autoReStartTimeOffMin" "INTEGER" .arConfig,
   mibColumn [3, 2, 1, 3, 1, 1, 1] "portPoeIndex" "INTEGER" .poeConfig,
   mibColumn [3, 2, 1, 3, 1, 1, 2] "portPoeState" "INTEGER" .poeConfig,
   mibScalar [3, 2, 1, 4, 1] "relay" "INTEGER" .i2c,
   mibScalar [3, 2, 2, 1, 1] "upsModeAvalible" "INTEGER" .i2c,
   mibScalar [3, 2, 2, 1, 2] "upsPwrSource" "INTEGER" .i2c,
   mibScalar [3, 2, 2, 1, 3] "upsBatteryVoltage" "INTEGER" .i2c,
   mibScalar [3, 2, 2, 1, 4] "upsBatteryTime" "INTEGER" .i2c,
   mibColumn [3, 2, 2, 2, 1, 1, 1] "inputIndex" "INTEGER" .i2c,
   mibColumn [3, 2, 2, 2, 1, 1, 2] "inputType" "INTEGER" .i2c,
   mibColumn [3, 2, 2, 2, 1, 1, 3] "inputState" "INTEGER" .i2c,
   mibColumn [3, 2, 2, 2, 1, 1, 4] "inputAlarm" "INTEGER" .i2c,
   mibScalar [3, 2, 2, 3, 1] "fwVersion" "STRING" .fw,
   mibColumn [3, 2, 2, 5, 1, 1, 1] "portPoeStatusIndex" "INTEGER" .poeStatus,
   mibColumn [3, 2, 2, 5, 1, 1, 2] "portPoeStatusState" "INTEGER" .poeStatus,
   mibColumn [3, 2, 2, 5, 1, 1, 3] "portPoeStatusPower" "INTEGER" .poeStatus,
   mibColumn [3, 2, 2, 6, 1, 1, 1, 1] "arPortIndex" "INTEGER" .arStatus,
   mibColumn [3, 2, 2, 6, 1, 1, 1, 2] "arPortStatus" "INTEGER" .arStatus,
   mibColumn [3, 2, 2, 7, 1, 1, 1] "portSfpIndex" "INTEGER" .spf,
   mibColumn [3, 2, 2, 7, 1, 1, 2] "portSfpPresent" "INTEGER" .spf,
   mibColumn [3, 2, 2, 7, 1, 1, 3] "portSfpSignalDetect" "INTEGER" .spf,
   mibColumn [3, 2, 2, 7, 1, 1, 4] "portSfpVendor" "STRING" .spf,
   mibColumn [3, 2, 2, 7, 1, 1, 5] "portSfpOui" "STRING" .spf,
   mibColumn [3, 2, 2, 7, 1, 1, 6] "portSfpPartNumber" "STRING" .spf,
   mibColumn [3, 2, 2, 7, 1, 1, 7] "portSfpRevision" "STRING" .spf,
   mibColumn [3, 2, 2, 7, 1, 1, 8] "portSfpTemperature" "INTEGER" .spf,
   mibColumn [3, 2, 2, 7, 1, 1, 9] "portSfpVoltage" "INTEGER" .spf,
   mibColumn [3, 2, 2, 7, 1, 1, 10] "portSfpBiasCurrent" "INTEGER" .spf,
   mibColumn [3, 2, 2, 7, 1, 1, 11] "portSfpTxOutPower" "INTEGER" .spf,
   mibColumn [3, 2, 2, 7, 1, 1, 12] "portSfpTxOutPowerDb" "INTEGER" .spf,
   mibColumn [3, 2, 2, 7, 1, 1, 13] "portSfpRxOutPower" "INTEGER" .spf,
   mibColumn [3, 2, 2, 7, 1, 1, 14] "portSfpRxOutPowerDb" "INTEGER" .spf,
   mibScalar [3, 2, 2, 8, 1] "sensorConnected" "INTEGER" .i2c,
   mibScalar [3, 2, 2, 8, 2] "sensorTemperature" "INTEGER" .i2c,
   mibScalar [3, 2, 2, 8, 3] "sensorHumidity" "INTEGER" .i2c,
   mibScalar [3, 2, 2, 8, 4] "sensorTemperatureMin" "INTEGER" .i2c,
   mibScalar [3, 2, 2, 8, 5] "sensorTemperatureMax" "INTEGER" .i2c,
   mibScalar [3, 2, 2, 8, 6] "sensorHumidityMin" "INTEGER" .i2c,
   mibScalar [3, 2, 2, 8, 7] "sensorHumidityMax" "INTEGER" .i2c]

def getMibObj (oid : Oid) : Option MibObj :=
  (mibList.find? (fun e => e.1 == oid)).map Prod.snd

end Snmp
