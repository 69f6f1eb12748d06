import TfPack.Hwsys.ShtTemperature
import TfPack.Hwsys.StateEvents
import TfPack.Hwsys.TableKeys

set_option autoImplicit false

/-! # The hardware daemon: thresholds of a module that is there

The threshold handlers of the SFP modules and of the SHT sensor compare a reading with its limits
only when the register table says that the module is there. They ask `i2c_getData` for one byte of
the register, which is the first byte of the structure, the length of a message, and not the value:
the byte they look at is the one that their local structure had on the stack (`presentByte_eq`). So
the limits count as the table says exactly where that byte agrees with it (`gateRight_iff`).
-/

namespace Hwsys

/-! ## The handlers -/

def REG_SFP_TEMPER_max : UInt32 := 50
def REG_SFP_TEMPER_min : UInt32 := 20

/-- `REG_SFP_CURRENT`, with the line of a slot. -/
def REG_SFP_CURRENT (line : String) : Limits := ⟨1000, 900, by decide, line, line⟩

/-- `REG_SFP_TX_BIAS`. -/
def REG_SFP_TX_BIAS (line : String) : Limits := ⟨33500, 32000, by decide, line, line⟩

/-- `REG_SFP_TX_POWER`. -/
def REG_SFP_TX_POWER (line : String) : Limits := ⟨65, 55, by decide, line, line⟩

/-- `REG_SFP_RX_POWER`. -/
def REG_SFP_RX_POWER (line : String) : Limits := ⟨65, 55, by decide, line, line⟩

def REG_SHT_HUMIDITY_max : UInt32 := 98
def REG_SHT_HUMIDITY_min : UInt32 := 0

/-- What the handlers of the SFP temperature do with a value: one below the limits is not kept. -/
def temperHandler (line : String) (prevValue value : UInt16) : Handled :=
  let event := checkOutOfRange value.toUInt32 prevValue.toUInt32 REG_SFP_TEMPER_max
    REG_SFP_TEMPER_min
  { event
    prevValue :=
      if event = .I2C_ERR_CHANGE_VALUE ∨ event = .I2C_OVER_MAX then value else prevValue
    log := if event = .I2C_OVER_MAX then [(line, value.toNat)] else [] }

/-- What the threshold handlers of an SFP module do: they check the value of a module that is
there. -/
def sfpThreshold (present : UInt32) (check : UInt16 → UInt16 → Handled) (c : HandlerCall)
    (prevValue : UInt16) : Option Handled :=
  (c.presentByte present).map (fun b =>
    if b = REG_SFP_PRESENT_yes then check prevValue (get16bitValue c.value)
    else ⟨prevValue, .I2C_ERR_OK, []⟩)

/-- `handler_SFP1_TEMPER`. -/
def handlerSfp1Temper (c : HandlerCall) (spf1_temper_prevValue : UInt16) : Option Handled :=
  sfpThreshold REG_SFP1_PRESENT (temperHandler "SFP1: overheating (%d)\n") c spf1_temper_prevValue

/-- `handler_SFP2_TEMPER`. -/
def handlerSfp2Temper (c : HandlerCall) (spf2_temper_prevValue : UInt16) : Option Handled :=
  sfpThreshold REG_SFP2_PRESENT (temperHandler "SFP2: overheating (%d)\n") c spf2_temper_prevValue

/-- `handler_SFP1_CURRENT`. -/
def handlerSfp1Current (c : HandlerCall) (spf1Current_prevValue : UInt16) : Option Handled :=
  sfpThreshold REG_SFP1_PRESENT
    (thresholdHandler (REG_SFP_CURRENT "SFP1: current not in range (%d)\n")) c
    spf1Current_prevValue

/-- `handler_SFP2_CURRENT`. -/
def handlerSfp2Current (c : HandlerCall) (spf2Current_prevValue : UInt16) : Option Handled :=
  sfpThreshold REG_SFP2_PRESENT
    (thresholdHandler (REG_SFP_CURRENT "SFP2: current not in range (%d)\n")) c
    spf2Current_prevValue

/-- `handler_SFP1_TX_BIAS`. -/
def handlerSfp1TxBias (c : HandlerCall) (spf1TXbias_prevValue : UInt16) : Option Handled :=
  sfpThreshold REG_SFP1_PRESENT
    (thresholdHandler (REG_SFP_TX_BIAS "SFP1: TX bias current not in range (%d)\n")) c
    spf1TXbias_prevValue

/-- `handler_SFP2_TX_BIAS`. -/
def handlerSfp2TxBias (c : HandlerCall) (spf2TXbias_prevValue : UInt16) : Option Handled :=
  sfpThreshold REG_SFP2_PRESENT
    (thresholdHandler (REG_SFP_TX_BIAS "SFP2: TX bias current not in range (%d)\n")) c
    spf2TXbias_prevValue

/-- `handler_SFP1_TX_POWER_DB`. -/
def handlerSfp1TxPowerDb (c : HandlerCall) (spf1_TXpower_prevValue : UInt16) : Option Handled :=
  sfpThreshold REG_SFP1_PRESENT
    (thresholdHandler (REG_SFP_TX_POWER "SFP1: TX power not in range (%d)\n")) c
    spf1_TXpower_prevValue

/-- `handler_SFP2_TX_POWER_DB`. -/
def handlerSfp2TxPowerDb (c : HandlerCall) (spf2_TXpower_prevValue : UInt16) : Option Handled :=
  sfpThreshold REG_SFP2_PRESENT
    (thresholdHandler (REG_SFP_TX_POWER "SFP2: TX power not in range (%d)\n")) c
    spf2_TXpower_prevValue

/-- `handler_SFP1_RX_POWER_DB`. -/
def handlerSfp1RxPowerDb (c : HandlerCall) (spf1_RXpower_prevValue : UInt16) : Option Handled :=
  sfpThreshold REG_SFP1_PRESENT
    (thresholdHandler (REG_SFP_RX_POWER "SFP1: RX power not in range (%d)\n")) c
    spf1_RXpower_prevValue

/-- `handler_SFP2_RX_POWER_DB`. -/
def handlerSfp2RxPowerDb (c : HandlerCall) (spf2_RXpower_prevValue : UInt16) : Option Handled :=
  sfpThreshold REG_SFP2_PRESENT
    (thresholdHandler (REG_SFP_RX_POWER "SFP2: RX power not in range (%d)\n")) c
    spf2_RXpower_prevValue

/-- What `handler_SHT_HUMIDITY` does with a value. -/
def humidityHandler (prevValue value : UInt8) : ByteHandled :=
  let event := checkOutOfRange value.toUInt32 prevValue.toUInt32 REG_SHT_HUMIDITY_max
    REG_SHT_HUMIDITY_min
  { event
    prevValue :=
      if event = .I2C_ERR_CHANGE_VALUE ∨ event = .I2C_OVER_MAX ∨ event = .I2C_LESS_MIN then value
      else prevValue
    log :=
      if event = .I2C_OVER_MAX then
        [("SHT: humidity is higher than maximum %d\n", some (value.toNat : Int))]
      else if event = .I2C_LESS_MIN then
        [("SHT: humidity is lower than minimum %d\n", some (value.toNat : Int))]
      else [] }

/-- `handler_SHT_HUMIDITY`. -/
def handlerShtHumidity (c : HandlerCall) (shtHim_prevValue : UInt8) : Option ByteHandled :=
  (c.presentByte REG_SHT_CONNECTED).map (fun b =>
    if b = REG_SHT_CONNECTED_yes then humidityHandler shtHim_prevValue c.byte
    else ⟨shtHim_prevValue, .I2C_ERR_OK, []⟩)

/-- What `handler_SHT_TEMPERATURE` does with a value. -/
def temperatureHandler (prevValue : UInt16) (value : Int16) : Handled :=
  let event := checkOutOfRange value.toInt32.toUInt32 prevValue.toUInt32
    REG_SHT_TEMPERATURE_max.toUInt32 REG_SHT_TEMPERATURE_min.toUInt32
  { event
    prevValue := if event = .I2C_OVER_MAX ∨ event = .I2C_LESS_MIN then value.toUInt16 else prevValue
    log :=
      if event = .I2C_OVER_MAX then [("SHT: temperature is higher than maximum %d\n", value.toInt)]
      else if event = .I2C_LESS_MIN then
        [("SHT: temperature is lower than minimum %d\n", value.toInt)]
      else [] }

/-- The threshold handlers that ask for a module first. -/
inductive GatedHandler
  | handler_SFP1_TEMPER | handler_SFP2_TEMPER | handler_SFP1_VOLTAGE | handler_SFP2_VOLTAGE
  | handler_SFP1_CURRENT | handler_SFP2_CURRENT | handler_SFP1_TX_BIAS | handler_SFP2_TX_BIAS
  | handler_SFP1_TX_POWER_DB | handler_SFP2_TX_POWER_DB | handler_SFP1_RX_POWER_DB
  | handler_SFP2_RX_POWER_DB | handler_SHT_TEMPERATURE | handler_SHT_HUMIDITY
  deriving DecidableEq, Repr

namespace GatedHandler

/-- What a handler keeps. -/
abbrev Kept : GatedHandler → Type
  | handler_SHT_HUMIDITY => UInt8
  | _ => UInt16

/-- What a call of a handler leaves and returns. -/
abbrev Result : GatedHandler → Type
  | handler_SHT_HUMIDITY => ByteHandled
  | _ => Handled

/-- A call of a handler. -/
def call : (h : GatedHandler) → HandlerCall → h.Kept → Option h.Result
  | handler_SFP1_TEMPER => handlerSfp1Temper
  | handler_SFP2_TEMPER => handlerSfp2Temper
  | handler_SFP1_VOLTAGE => handlerSfp1Voltage
  | handler_SFP2_VOLTAGE => handlerSfp2Voltage
  | handler_SFP1_CURRENT => handlerSfp1Current
  | handler_SFP2_CURRENT => handlerSfp2Current
  | handler_SFP1_TX_BIAS => handlerSfp1TxBias
  | handler_SFP2_TX_BIAS => handlerSfp2TxBias
  | handler_SFP1_TX_POWER_DB => handlerSfp1TxPowerDb
  | handler_SFP2_TX_POWER_DB => handlerSfp2TxPowerDb
  | handler_SFP1_RX_POWER_DB => handlerSfp1RxPowerDb
  | handler_SFP2_RX_POWER_DB => handlerSfp2RxPowerDb
  | handler_SHT_TEMPERATURE => handlerShtTemperature
  | handler_SHT_HUMIDITY => handlerShtHumidity

/-- The register that says whether the module is there. -/
def gate : GatedHandler → UInt32
  | handler_SFP1_TEMPER | handler_SFP1_VOLTAGE | handler_SFP1_CURRENT | handler_SFP1_TX_BIAS
  | handler_SFP1_TX_POWER_DB | handler_SFP1_RX_POWER_DB => REG_SFP1_PRESENT
  | handler_SFP2_TEMPER | handler_SFP2_VOLTAGE | handler_SFP2_CURRENT | handler_SFP2_TX_BIAS
  | handler_SFP2_TX_POWER_DB | handler_SFP2_RX_POWER_DB => REG_SFP2_PRESENT
  | handler_SHT_TEMPERATURE | handler_SHT_HUMIDITY => REG_SHT_CONNECTED

/-- What a handler does with a value that it compares with its limits. -/
def evaluate : (h : GatedHandler) → (Fin VALUE_LEN → UInt8) → h.Kept → h.Result
  | handler_SFP1_TEMPER, value, prevValue =>
      temperHandler "SFP1: overheating (%d)\n" prevValue (get16bitValue value)
  | handler_SFP2_TEMPER, value, prevValue =>
      temperHandler "SFP2: overheating (%d)\n" prevValue (get16bitValue value)
  | handler_SFP1_VOLTAGE, value, prevValue =>
      thresholdHandler (REG_SFP_VOLTAGE "SFP1: voltage not in range (%d)\n") prevValue
        (get16bitValue value)
  | handler_SFP2_VOLTAGE, value, prevValue =>
      thresholdHandler (REG_SFP_VOLTAGE "SFP2: voltage not in range (%d)\n") prevValue
        (get16bitValue value)
  | handler_SFP1_CURRENT, value, prevValue =>
      thresholdHandler (REG_SFP_CURRENT "SFP1: current not in range (%d)\n") prevValue
        (get16bitValue value)
  | handler_SFP2_CURRENT, value, prevValue =>
      thresholdHandler (REG_SFP_CURRENT "SFP2: current not in range (%d)\n") prevValue
        (get16bitValue value)
  | handler_SFP1_TX_BIAS, value, prevValue =>
      thresholdHandler (REG_SFP_TX_BIAS "SFP1: TX bias current not in range (%d)\n") prevValue
        (get16bitValue value)
  | handler_SFP2_TX_BIAS, value, prevValue =>
      thresholdHandler (REG_SFP_TX_BIAS "SFP2: TX bias current not in range (%d)\n") prevValue
        (get16bitValue value)
  | handler_SFP1_TX_POWER_DB, value, prevValue =>
      thresholdHandler (REG_SFP_TX_POWER "SFP1: TX power not in range (%d)\n") prevValue
        (get16bitValue value)
  | handler_SFP2_TX_POWER_DB, value, prevValue =>
      thresholdHandler (REG_SFP_TX_POWER "SFP2: TX power not in range (%d)\n") prevValue
        (get16bitValue value)
  | handler_SFP1_RX_POWER_DB, value, prevValue =>
      thresholdHandler (REG_SFP_RX_POWER "SFP1: RX power not in range (%d)\n") prevValue
        (get16bitValue value)
  | handler_SFP2_RX_POWER_DB, value, prevValue =>
      thresholdHandler (REG_SFP_RX_POWER "SFP2: RX power not in range (%d)\n") prevValue
        (get16bitValue value)
  | handler_SHT_TEMPERATURE, value, prevValue =>
      temperatureHandler prevValue (get16bitValue value).toInt16
  | handler_SHT_HUMIDITY, value, prevValue => humidityHandler prevValue (valueByte value 0)

/-- What a handler does when it leaves its limits out. -/
def idle : (h : GatedHandler) → h.Kept → h.Result
  | handler_SHT_HUMIDITY, prevValue => ⟨prevValue, .I2C_ERR_OK, []⟩
  | handler_SFP1_TEMPER, prevValue | handler_SFP2_TEMPER, prevValue
  | handler_SFP1_VOLTAGE, prevValue | handler_SFP2_VOLTAGE, prevValue
  | handler_SFP1_CURRENT, prevValue | handler_SFP2_CURRENT, prevValue
  | handler_SFP1_TX_BIAS, prevValue | handler_SFP2_TX_BIAS, prevValue
  | handler_SFP1_TX_POWER_DB, prevValue | handler_SFP2_TX_POWER_DB, prevValue
  | handler_SFP1_RX_POWER_DB, prevValue | handler_SFP2_RX_POWER_DB, prevValue
  | handler_SHT_TEMPERATURE, prevValue => (⟨prevValue, .I2C_ERR_OK, []⟩ : Handled)

/-- **What a call does**, from the byte it looks at. -/
theorem call_eq (h : GatedHandler) (c : HandlerCall) (prevValue : h.Kept) :
    h.call c prevValue = (c.presentByte h.gate).map (fun b =>
      if b = 1 then h.evaluate c.value prevValue else h.idle prevValue) := by
  cases h <;> rfl

end GatedHandler

/-! ## The byte they look at -/

/-- A register table in which every entry stands for its register. -/
structure Snapshot where
  table : Table
  addr : ∀ i, (table i).addr = (sockMsgArr (fun _ => 0) i).addr

/-- The first byte of the value that the table has for a register. -/
def Snapshot.cached (s : Snapshot) (addr : UInt32) : Option UInt8 :=
  (getIdByAddr s.table addr).map (fun id => valueByte (s.table id).value 0)

/-- `data.value[0]` of the local structure before it is used. -/
def stackByte (data : I2cData) : UInt8 := valueByte data.value 0

section Gate

variable {s : Snapshot} {addr : UInt32}

/-- A table that has kept its registers. -/
theorem exists_snapshot {handlerAddr : Handler → UInt32} {t : Table}
    (h : TableKept (sockMsgArr handlerAddr) t) : ∃ s : Snapshot, s.table = t := by
  refine ⟨⟨t, fun i => ?_⟩, rfl⟩
  rw [addr_of_keys h.keys i, sockMsgArr, sockMsgArr]
  split <;> rfl

/-- **The byte that a handler looks at is the one on the stack**: one byte of the structure is the
length of the message. -/
theorem presentByte_eq (c : HandlerCall) (addr : UInt32) :
    c.presentByte addr = (getIdByAddr c.sock_msgArr addr).map (fun _ => stackByte c.data) := by
  rw [HandlerCall.presentByte, i2cGetData, Option.map_map]
  congr 1
  funext id
  show valueByte (memcpy _ _ 1).value 0 = _
  rw [memcpy_intoHeader _ _ (by decide) (by decide)]
  rfl

/-- Every register is in every table. -/
theorem Snapshot.exists_getIdByAddr (s : Snapshot) (h : addr ∈ registers.map Register.addr) :
    ∃ id, getIdByAddr s.table addr = some id ∧ (s.table id).addr = addr := by
  obtain ⟨i, hi, rfl⟩ := List.getElem_of_mem h
  rw [List.length_map] at hi
  have hlt : i < MAX_SENSORS := lt_of_lt_of_le hi (by decide)
  have hentry : (sockMsgArr (fun _ => 0) ⟨i, hlt⟩).addr = registers[i].addr := by
    rw [sockMsgArr_register (fun _ => 0) (i := ⟨i, hlt⟩) hi]
    rfl
  rw [List.getElem_map, ← hentry]
  refine ⟨⟨i, hlt⟩, ?_, s.addr ⟨i, hlt⟩⟩
  rw [getIdByAddr_congr s.addr]
  exact getIdByAddr_register _ hi

theorem gate_mem (h : GatedHandler) : h.gate ∈ registers.map Register.addr := by
  cases h <;> decide +kernel

theorem call_snapshot (h : GatedHandler) (s : Snapshot) (value : Fin VALUE_LEN → UInt8)
    (data : I2cData) (prevValue : h.Kept) :
    h.call ⟨s.table, value, data⟩ prevValue =
      some (if stackByte data = 1 then h.evaluate value prevValue else h.idle prevValue) := by
  obtain ⟨id, hid, -⟩ := s.exists_getIdByAddr (gate_mem h)
  rw [h.call_eq, presentByte_eq, hid]
  rfl

/-! ## Limits that count -/

/-- A difference of more than `STABLE_VALUE`, whichever way it is taken, is seen. -/
theorem checkOutOfRange_ne_ok {value prevValue max min : UInt32}
    (h : STABLE_VALUE < value.toUInt16 - prevValue.toUInt16)
    (h' : STABLE_VALUE < prevValue.toUInt16 - value.toUInt16) :
    checkOutOfRange value prevValue max min ≠ .I2C_ERR_OK := by
  have hdif : STABLE_VALUE < (if prevValue ≤ value then (value - prevValue).toUInt16
      else (prevValue - value).toUInt16) := by
    split
    · rw [UInt32.toUInt16_sub]
      exact h
    · rw [UInt32.toUInt16_sub]
      exact h'
  simp only [checkOutOfRange, if_pos hdif]
  grind

/-- Half of a half word away, whichever way it is taken. -/
theorem far_half (v : UInt16) :
    STABLE_VALUE < v - (v + 0x8000) ∧ STABLE_VALUE < (v + 0x8000) - v := by
  have hten : STABLE_VALUE = 10 := rfl
  have haway : v - (v + 0x8000) = 0x8000 := by grind
  have hback : (v + 0x8000) - v = 0x8000 := by grind
  rw [haway, hback, hten]
  decide

theorem far_half_byte (v : UInt8) :
    STABLE_VALUE < v.toUInt16 - (v + 0x80).toUInt16 ∧
      STABLE_VALUE < (v + 0x80).toUInt16 - v.toUInt16 := by
  have hlt := v.toNat_lt
  have hten : STABLE_VALUE.toNat = 10 := rfl
  have hhalf : UInt8.toNat 0x80 = 128 := rfl
  simp only [UInt16.lt_iff_toNat_lt, UInt16.toNat_sub, UInt8.toNat_toUInt16, UInt8.toNat_add]
  omega

theorem exists_far (value : UInt16) :
    ∃ prevValue : UInt16, ∀ max min,
      checkOutOfRange value.toUInt32 prevValue.toUInt32 max min ≠ .I2C_ERR_OK := by
  refine ⟨value + 0x8000, fun max min => checkOutOfRange_ne_ok ?_ ?_⟩
  · rw [UInt16.toUInt16_toUInt32, UInt16.toUInt16_toUInt32]
    exact (far_half value).1
  · rw [UInt16.toUInt16_toUInt32, UInt16.toUInt16_toUInt32]
    exact (far_half value).2

theorem exists_far_int (value : Int16) :
    ∃ prevValue : UInt16, ∀ max min,
      checkOutOfRange value.toInt32.toUInt32 prevValue.toUInt32 max min ≠ .I2C_ERR_OK := by
  have hlow : value.toInt32.toUInt32.toUInt16 = value.toUInt16 := by
    rw [← UInt16.toBitVec_inj]
    show (value.toBitVec.signExtend 32).setWidth 16 = value.toBitVec
    ext i hi
    rw [BitVec.getElem_setWidth, BitVec.getLsbD_signExtend]
    simp [hi]
    omega
  refine ⟨value.toUInt16 + 0x8000, fun max min => checkOutOfRange_ne_ok ?_ ?_⟩
  · rw [UInt16.toUInt16_toUInt32, hlow]
    exact (far_half value.toUInt16).1
  · rw [UInt16.toUInt16_toUInt32, hlow]
    exact (far_half value.toUInt16).2

theorem exists_far_byte (value : UInt8) :
    ∃ prevValue : UInt8, ∀ max min,
      checkOutOfRange value.toUInt32 prevValue.toUInt32 max min ≠ .I2C_ERR_OK := by
  refine ⟨value + 0x80, fun max min => checkOutOfRange_ne_ok ?_ ?_⟩
  · rw [UInt8.toUInt16_toUInt32, UInt8.toUInt16_toUInt32]
    exact (far_half_byte value).1
  · rw [UInt8.toUInt16_toUInt32, UInt8.toUInt16_toUInt32]
    exact (far_half_byte value).2

/-- **Comparing a value with its limits shows**, whatever the value, after some other one. -/
theorem exists_evaluated (h : GatedHandler) (value : Fin VALUE_LEN → UInt8) :
    ∃ prevValue, h.evaluate value prevValue ≠ h.idle prevValue := by
  cases h with
  | handler_SHT_HUMIDITY =>
      obtain ⟨prevValue, hfar⟩ := exists_far_byte (valueByte value 0)
      exact ⟨prevValue, fun heq => hfar _ _ (congrArg ByteHandled.event heq)⟩
  | handler_SHT_TEMPERATURE =>
      obtain ⟨prevValue, hfar⟩ := exists_far_int (get16bitValue value).toInt16
      exact ⟨prevValue, fun heq => hfar _ _ (congrArg Handled.event heq)⟩
  | _ =>
      obtain ⟨prevValue, hfar⟩ := exists_far (get16bitValue value)
      exact ⟨prevValue, fun heq => hfar _ _ (congrArg Handled.event heq)⟩

/-- The thresholds count as the table says, and nothing but the table, the reading and the value
that the handler keeps decides what a call does. -/
def GatedHandler.GateRight (h : GatedHandler) (s : Snapshot) (value : Fin VALUE_LEN → UInt8)
    (data : I2cData) : Prop :=
  ∀ prevValue, h.call ⟨s.table, value, data⟩ prevValue =
    some (if s.cached h.gate = some 1 then h.evaluate value prevValue else h.idle prevValue)

/-- **When the thresholds count as the table says**: where the stack happens to agree with it. -/
theorem gateRight_iff (h : GatedHandler) (s : Snapshot) (value : Fin VALUE_LEN → UInt8)
    (data : I2cData) :
    h.GateRight s value data ↔ (stackByte data = 1 ↔ s.cached h.gate = some 1) := by
  constructor
  · intro hright
    obtain ⟨prevValue, hne⟩ := exists_evaluated h value
    have hcall := hright prevValue
    rw [call_snapshot, Option.some.injEq] at hcall
    by_cases hstack : stackByte data = 1
    · rw [if_pos hstack] at hcall
      refine iff_of_true hstack ?_
      by_contra hcached
      rw [if_neg hcached] at hcall
      exact hne hcall
    · rw [if_neg hstack] at hcall
      refine iff_of_false hstack ?_
      intro hcached
      rw [if_pos hcached] at hcall
      exact hne hcall.symm
  · intro hagree prevValue
    rw [call_snapshot]
    simp only [hagree]

/-- The initial table, with a module that is there. -/
def pluggedIn : Snapshot where
  table := fun i =>
    if (sockMsgArr (fun _ => 0) i).addr = REG_SFP1_PRESENT then
      { sockMsgArr (fun _ => 0) i with value := fun _ => 1 }
    else sockMsgArr (fun _ => 0) i
  addr := fun i => by split <;> rfl

/-- The limits of a module that is there do not count when the stack is clear. -/
theorem limits_left_out : ¬∀ (h : GatedHandler) (s : Snapshot) (value : Fin VALUE_LEN → UInt8)
    (data : I2cData), h.GateRight s value data := by
  intro h
  have hcall := h .handler_SFP1_VOLTAGE pluggedIn (fun _ => 0xFF) zeroData 3300
  have hcached : pluggedIn.cached REG_SFP1_PRESENT = some 1 := by decide +kernel
  have hleft : GatedHandler.call .handler_SFP1_VOLTAGE ⟨pluggedIn.table, fun _ => 0xFF, zeroData⟩
      3300 = some ⟨3300, .I2C_ERR_OK, []⟩ := by
    decide +kernel
  rw [hleft, if_pos (show pluggedIn.cached (GatedHandler.gate .handler_SFP1_VOLTAGE) = some 1 from
    hcached)] at hcall
  revert hcall
  decide

end Gate

end Hwsys
