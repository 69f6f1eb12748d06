import Mathlib.Data.Fin.Tuple.Basic
import Mathlib.Data.List.Nodup
import TfPack.Hwsys.Types

set_option autoImplicit false

/-! # The hardware daemon: the register table

`sock_msgArr` of `i2c_module.c`, which the daemon and the client program both hold, and the two
lookups in it. A lookup that finds nothing runs off the end of its function, so what it returns
is undefined (`none`).
-/

namespace Hwsys

/-- The event handlers of the table. -/
inductive Handler
  | handler_ADC_CH1 | handler_ADC_CH2 | handler_ADC_CH3 | handler_TAMPER | handler_SENSOR1
  | handler_SENSOR2 | handler_RELAY1 | handler_DEFAULT_LONG_PRESSED | handler_RPS_VAC
  | handler_RPS_BAT_VOLTAGE | handler_RPS_CHRG_VOLTAGE | handler_RPS_BAT_CURRENT
  | handler_RPS_TEMPER | handler_SHT_CONNECTED | handler_SHT_TYPE | handler_SHT_TEMPERATURE
  | handler_SHT_HUMIDITY | handler_SFP1_PRESENT | handler_SFP1_LOS | handler_SFP1_TEMPER
  | handler_SFP1_VOLTAGE | handler_SFP1_TX_POWER_DB | handler_SFP1_RX_POWER_DB
  | handler_SFP2_PRESENT | handler_SFP2_LOS | handler_SFP2_TEMPER | handler_SFP2_VOLTAGE
  | handler_SFP2_TX_POWER_DB | handler_SFP2_RX_POWER_DB
  deriving DecidableEq, Repr

/-- What the table is initialised with for one register: its address, the value of its
`REGISTER_ADDR`, and the fields `name`, `lenData`, `type` and `eventsHandler`. -/
structure Register where
  addr : UInt32
  name : String
  lenData : UInt8
  type : I2cType
  eventsHandler : Option Handler

/-- The initialiser of `sock_msgArr`. -/
def registers : List Register :=
  [
    -- MAIN
    ⟨0, "INTSTAT", 1, .TYPE_UINT, none⟩,
    ⟨1, "INTMASK", 1, .TYPE_UINT, none⟩,
    ⟨2, "HW_VERS", 1, .TYPE_UINT, none⟩,
    ⟨3, "SW_VERS", 1, .TYPE_UINT, none⟩,
    ⟨4, "ADC_CH1", 2, .TYPE_PSEUDO_FLOAT, some .handler_ADC_CH1⟩,
    ⟨5, "ADC_CH2", 2, .TYPE_PSEUDO_FLOAT, some .handler_ADC_CH2⟩,
    ⟨6, "ADC_CH3", 2, .TYPE_PSEUDO_FLOAT, some .handler_ADC_CH3⟩,
    -- SENSOR
    ⟨10, "tamper", 1, .TYPE_UINT, some .handler_TAMPER⟩,
    ⟨11, "sensor1", 1, .TYPE_UINT, some .handler_SENSOR1⟩,
    ⟨12, "sensor2", 1, .TYPE_UINT, some .handler_SENSOR2⟩,
    ⟨13, "relay", 1, .TYPE_UINT, some .handler_RELAY1⟩,
    ⟨14, "DEFAULT_BUTTON", 1, .TYPE_UINT, none⟩,
    ⟨15, "DEFAULT_LED", 1, .TYPE_UINT, none⟩,
    ⟨16, "DEFAULT_LONG_PRESSED", 2, .TYPE_UINT, some .handler_DEFAULT_LONG_PRESSED⟩,
    -- UPS
    ⟨20, "upsModeAvalible", 1, .TYPE_UINT, none⟩,
    ⟨21, "RPS_HW_VERS", 1, .TYPE_UINT, none⟩,
    ⟨22, "RPS_SW_VERS", 1, .TYPE_UINT, none⟩,
    ⟨23, "upsPwrSource", 1, .TYPE_UINT, some .handler_RPS_VAC⟩,
    ⟨24, "upsBatteryVoltage", 2, .TYPE_PSEUDO_FLOAT, some .handler_RPS_BAT_VOLTAGE⟩,
    ⟨25, "RPS_CHRG_VOLTAGE", 2, .TYPE_PSEUDO_FLOAT, some .handler_RPS_CHRG_VOLTAGE⟩,
    ⟨26, "RPS_BAT_CURRENT", 2, .TYPE_UINT, some .handler_RPS_BAT_CURRENT⟩,
    ⟨27, "RPS_TEMPER", 1, .TYPE_UINT, some .handler_RPS_TEMPER⟩,
    ⟨28, "RPS_LED_STATE", 1, .TYPE_UINT, none⟩,
    ⟨29, "RPS_BAT_KEY", 1, .TYPE_UINT, none⟩,
    ⟨30, "RPS_CHRG_KEY", 1, .TYPE_UINT, none⟩,
    ⟨31, "RPS_REL_STATE", 1, .TYPE_UINT, none⟩,
    ⟨32, "RPS_MIN_VOLTAGE", 2, .TYPE_PSEUDO_FLOAT, none⟩,
    ⟨33, "RPS_DISCH_VOLTAGE", 2, .TYPE_PSEUDO_FLOAT, none⟩,
    ⟨34, "upsBatteryTime", 2, .TYPE_UINT, none⟩,
    ⟨35, "RPS_TEST_OK", 1, .TYPE_UINT, none⟩,
    ⟨36, "RPS_CPU_ID", 2, .TYPE_UINT, none⟩,
    ⟨37, "RPS_LTC4151_OK", 1, .TYPE_UINT, none⟩,
    ⟨38, "RPS_ADC_BAT_VOLT", 2, .TYPE_PSEUDO_FLOAT, none⟩,
    ⟨39, "RPS_ADC_BAT_CURR", 2, .TYPE_UINT, none⟩,
    ⟨40, "RPS_TEST_MODE", 1, .TYPE_UINT, none⟩,
    -- SHT
    ⟨50, "sensorConnected", 1, .TYPE_UINT, some .handler_SHT_CONNECTED⟩,
    ⟨51, "SHT_TYPE", 10, .TYPE_UINT, some .handler_SHT_TYPE⟩,
    ⟨52, "sensorTemperature", 2, .TYPE_FLOAT_SFP, some .handler_SHT_TEMPERATURE⟩,
    ⟨53, "sensorHumidity", 1, .TYPE_UINT, some .handler_SHT_HUMIDITY⟩,
    -- SFP_1
    ⟨60, "portSfpPresent_1", 1, .TYPE_UINT, some .handler_SFP1_PRESENT⟩,
    ⟨61, "portSfpSignalDetect_1", 1, .TYPE_UINT, some .handler_SFP1_LOS⟩,
    ⟨62, "portSfpVendor_1", 16, .TYPE_UINT, none⟩,
    ⟨63, "portSfpOui_1", 3, .TYPE_UINT, none⟩,
    ⟨64, "portSfpPartNumber_1", 16, .TYPE_UINT, none⟩,
    ⟨65, "portSfpRevision_1", 4, .TYPE_UINT, none⟩,
    ⟨66, "IDENTIFIER_1", 4, .TYPE_UINT, none⟩,
    ⟨67, "CONNECTOR_1", 30, .TYPE_UINT, none⟩,
    ⟨68, "TYPE_1", 16, .TYPE_UINT, none⟩,
    ⟨69, "LINK_LEN_1", 25, .TYPE_UINT, none⟩,
    ⟨70, "FIBER_TEC_1", 32, .TYPE_UINT, none⟩,
    ⟨71, "MEDIA_1", 32, .TYPE_UINT, none⟩,
    ⟨72, "SPEED_1", 16, .TYPE_UINT, none⟩,
    ⟨73, "ENCODING_1", 16, .TYPE_UINT, none⟩,
    ⟨79, "LENC_1", 2, .TYPE_UINT, none⟩,
    ⟨74, "WAVELEN_1", 2, .TYPE_UINT, none⟩,
    ⟨75, "NBR_1", 2, .TYPE_UINT, none⟩,
    ⟨76, "LEN9_1", 2, .TYPE_UINT, none⟩,
    ⟨77, "LEN50_1", 2, .TYPE_UINT, none⟩,
    ⟨78, "LEN62_1", 2, .TYPE_UINT, none⟩,
    ⟨80, "portSfpTemperature_1", 2, .TYPE_UINT, some .handler_SFP1_TEMPER⟩,
    ⟨81, "portSfpVoltage_1", 2, .TYPE_PSEUDO_FLOAT, some .handler_SFP1_VOLTAGE⟩,
    ⟨82, "CURRENT_1", 2, .TYPE_UINT, none⟩,
    ⟨83, "portSfpBiasCurrent_1", 2, .TYPE_UINT, none⟩,
    ⟨84, "portSfpTxOutPowerDb_1", 2, .TYPE_FLOAT_SFP, some .handler_SFP1_TX_POWER_DB⟩,
    ⟨85, "portSfpRxOutPowerDb_1", 2, .TYPE_FLOAT_SFP, some .handler_SFP1_RX_POWER_DB⟩,
    ⟨86, "portSfpTxOutPower_1", 2, .TYPE_UINT, none⟩,
    ⟨87, "portSfpRxOutPower_1", 2, .TYPE_UINT, none⟩,
    -- SFP_2
    ⟨90, "portSfpPresent_2", 1, .TYPE_UINT, some .handler_SFP2_PRESENT⟩,
    ⟨91, "portSfpSignalDetect_2", 1, .TYPE_UINT, some .handler_SFP2_LOS⟩,
    ⟨92, "portSfpVendor_2", 16, .TYPE_UINT, none⟩,
    ⟨93, "portSfpOui_2", 3, .TYPE_UINT, none⟩,
    ⟨94, "portSfpPartNumber_2", 16, .TYPE_UINT, none⟩,
    ⟨95, "portSfpRevision_2", 4, .TYPE_UINT, none⟩,
    ⟨96, "IDENTIFIER_2", 4, .TYPE_UINT, none⟩,
    ⟨97, "CONNECTOR_2", 30, .TYPE_UINT, none⟩,
    ⟨98, "TYPE_2", 16, .TYPE_UINT, none⟩,
    ⟨99, "LINK_LEN_2", 25, .TYPE_UINT, none⟩,
    ⟨100, "FIBER_TEC_2", 32, .TYPE_UINT, none⟩,
    ⟨101, "MEDIA_2", 32, .TYPE_UINT, none⟩,
    ⟨102, "SPEED_2", 16, .TYPE_UINT, none⟩,
    ⟨103, "ENCODING_2", 16, .TYPE_UINT, none⟩,
    ⟨104, "WAVELEN_2", 2, .TYPE_UINT, none⟩,
    ⟨105, "NBR_2", 2, .TYPE_UINT, none⟩,
    ⟨106, "LEN9_2", 2, .TYPE_UINT, none⟩,
    ⟨107, "LEN50_2", 2, .TYPE_UINT, none⟩,
    ⟨108, "LEN62_2", 2, .TYPE_UINT, none⟩,
    ⟨109, "LENC_2", 2, .TYPE_UINT, none⟩,
    ⟨110, "portSfpTemperature_2", 2, .TYPE_UINT, some .handler_SFP2_TEMPER⟩,
    ⟨111, "portSfpVoltage_2", 2, .TYPE_PSEUDO_FLOAT, some .handler_SFP2_VOLTAGE⟩,
    ⟨112, "CURRENT_2", 2, .TYPE_UINT, none⟩,
    ⟨113, "portSfpBiasCurrent_2", 2, .TYPE_UINT, none⟩,
    ⟨114, "portSfpTxOutPowerDb_2", 2, .TYPE_FLOAT_SFP, some .handler_SFP2_TX_POWER_DB⟩,
    ⟨115, "portSfpRxOutPowerDb_2", 2, .TYPE_FLOAT_SFP, some .handler_SFP2_RX_POWER_DB⟩,
    ⟨116, "portSfpTxOutPower_2", 2, .TYPE_UINT, none⟩,
    ⟨117, "portSfpRxOutPower_2", 2, .TYPE_UINT, none⟩,
    -- RTC
    ⟨120, "RTC_STATUS", 1, .TYPE_UINT, none⟩,
    ⟨121, "RTC_YEAR", 1, .TYPE_UINT, none⟩,
    ⟨122, "RTC_MONTH", 1, .TYPE_UINT, none⟩,
    ⟨123, "RTC_DAY", 1, .TYPE_UINT, none⟩,
    ⟨124, "RTC_WEEKDAY", 1, .TYPE_UINT, none⟩,
    ⟨125, "RTC_HOUR", 1, .TYPE_UINT, none⟩,
    ⟨126, "RTC_MINUTE", 1, .TYPE_UINT, none⟩,
    ⟨127, "RTC_SECOND", 1, .TYPE_UINT, none⟩,
    -- POE
    ⟨130, "POE_ID", 1, .TYPE_UINT, none⟩,
    ⟨131, "POE_STATE", 1, .TYPE_UINT, none⟩,
    ⟨132, "POE_BANK", 1, .TYPE_UINT, none⟩,
    ⟨133, "POE_MODE", 1, .TYPE_UINT, none⟩
  ]

/-- The bytes of a name, filled up with zeros. -/
def nameBytes (s : String) : Fin I2C_NAME_MAX_LEN → UInt8 :=
  arrayOf _ (s.toList.map (fun c => UInt8.ofNat c.toNat))

/-- The C string in a name field. -/
def cName (name : Fin I2C_NAME_MAX_LEN → UInt8) : Bytes := (List.ofFn name).takeWhile (· != 0)

/-- A register table. -/
abbrev Table := Fin MAX_SENSORS → I2cData

section Table

variable (handlerAddr : Handler → UInt32)

/-- The entry a register starts with; `handlerAddr` is where the program has its functions. The
only initial value that is not zero is the temperature of the UPS. -/
def Register.entry (r : Register) : I2cData where
  lenMSG := 0
  addr := r.addr
  name := nameBytes r.name
  opcode := Opcode.I2C_OPCODE_IDLE.val
  lenData := r.lenData
  type := r.type.val
  eventsHandler := (r.eventsHandler.map handlerAddr).getD 0
  value := fun i => if r.addr = 27 ∧ (i : Nat) = 0 then 123 else 0

/-- `sock_msgArr`. The entries after the last register are zero. -/
def sockMsgArr : Table := fun i =>
  match registers[(i : Nat)]? with
  | some r => r.entry handlerAddr
  | none => zeroData

end Table

/-! ## Lookups -/

/-- `get_id_by_addr`. -/
def getIdByAddr (t : Table) (addr : UInt32) : Option (Fin MAX_SENSORS) :=
  (List.finRange MAX_SENSORS).find? (fun i => (t i).addr == addr)

/-- The addresses alone decide where an address is found. -/
theorem getIdByAddr_congr {t t' : Table} (h : ∀ i, (t i).addr = (t' i).addr) (addr : UInt32) :
    getIdByAddr t addr = getIdByAddr t' addr := by
  rw [getIdByAddr, getIdByAddr]
  congr 1
  funext i
  rw [h i]

/-- The entry `get_i2c_addr_by_name` stops at. -/
def findByName (t : Table) (name : Bytes) : Option (Fin MAX_SENSORS) :=
  (List.finRange MAX_SENSORS).find? (fun i => cName (t i).name == name)

/-- `get_i2c_addr_by_name`: the client's message gets opcode, address, length and type of the
register. -/
def getI2cAddrByName (t : Table) (name : Bytes) (msg : I2cData) : Option I2cData :=
  (findByName t name).map (fun i =>
    { msg with
      opcode := (t i).opcode, addr := (t i).addr, lenData := (t i).lenData, type := (t i).type })

/-- The calls of `i2c_events_handler`: handler and value of every entry that has a handler. -/
def i2cEventsHandler (t : Table) : List (UInt32 × (Fin VALUE_LEN → UInt8)) :=
  (List.finRange MAX_SENSORS).filterMap (fun i =>
    if (t i).eventsHandler = 0 then none else some ((t i).eventsHandler, (t i).value))

/-! ## The registers of the table -/

section Registers

variable (handlerAddr : Handler → UInt32)

theorem registers_addr_nodup : (registers.map Register.addr).Nodup := by decide +kernel

/-- Every register has a name. -/
theorem registers_named : ∀ r ∈ registers, nameBytes r.name ≠ zeroData.name := by
  decide +kernel

theorem sockMsgArr_register {i : Fin MAX_SENSORS} (h : (i : Nat) < registers.length) :
    sockMsgArr handlerAddr i = registers[(i : Nat)].entry handlerAddr := by
  rw [sockMsgArr, List.getElem?_eq_getElem h]

/-- **Every register is found by its address.** -/
theorem getIdByAddr_register {i : Fin MAX_SENSORS} (h : (i : Nat) < registers.length) :
    getIdByAddr (sockMsgArr handlerAddr) (sockMsgArr handlerAddr i).addr = some i := by
  rw [getIdByAddr, ← Fin.find?_eq_find?_finRange, Fin.find?_eq_some_iff]
  constructor
  · exact beq_self_eq_true _
  · intro j hj
    have hj' : (j : Nat) < registers.length := lt_trans hj h
    have hjm : (j : Nat) < (registers.map Register.addr).length := by simpa using hj'
    have him : (i : Nat) < (registers.map Register.addr).length := by simpa using h
    have hne : (registers.map Register.addr)[(j : Nat)] ≠
        (registers.map Register.addr)[(i : Nat)] := by
      intro heq
      exact absurd (registers_addr_nodup.getElem_inj_iff.mp heq) (Nat.ne_of_lt hj)
    rw [sockMsgArr_register handlerAddr hj', sockMsgArr_register handlerAddr h]
    rw [List.getElem_map, List.getElem_map] at hne
    exact beq_false_of_ne hne

/-- A register that a lookup finds is one of the list, not one of the empty entries. -/
theorem register_of_getIdByAddr {i : Fin MAX_SENSORS} {addr : UInt32}
    (h : getIdByAddr (sockMsgArr handlerAddr) addr = some i) : (i : Nat) < registers.length := by
  by_contra hlt
  have haddr : (sockMsgArr handlerAddr i).addr = addr := by
    simpa using List.find?_some h
  -- an empty entry has the address of the first register
  have hempty : (sockMsgArr handlerAddr i).addr = 0 := by
    rw [sockMsgArr, List.getElem?_eq_none (by omega)]
    rfl
  have hfirst := getIdByAddr_register handlerAddr (i := 0) (by decide)
  have hzero : (sockMsgArr handlerAddr 0).addr = 0 := rfl
  rw [hzero, ← hempty, haddr, h] at hfirst
  cases hfirst
  exact hlt (by decide)

end Registers

end Hwsys
