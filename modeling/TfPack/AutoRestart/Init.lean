import TfPack.AutoRestart.Utils

set_option autoImplicit false

/-! # The autorestart daemon: reading a port's configuration

`getPortParam` of `init_module.c`, with the setters of `port_module.c` it calls, and the table
the daemon starts from. `getPortParam` runs at start-up for every port (`isReboot = false`) and
again at the end of a reboot during which a second reboot command was accepted
(`isReboot = true`).
-/

namespace AutoRestart

open FlagWord

/-- The reply of `ubus call uci get` for one section: its text, which `getValueFromJson`
searches, and the string options under `values` that the JSON library finds in it
(`getData_formJson` returns `8` and the string, or another code, `none`). -/
structure UbusReply where
  text : String
  data : String → Option String

/-- What `getPortParam` reads besides the record: the reply, the clock, the time zone, and
whether the uninitialised `errorCode` of `setSpeed` happens to hold `ERR_SPEED_VALUE`. -/
structure ParamEnv where
  reply : UbusReply
  now : Nat
  ctime : CTime
  strayErrorCode : Bool

/-! ## Setters -/

/-- `getCmdKey`. -/
def getCmdKey (s : List Char) : TypeOfTest :=
  if s = "disable".toList then .test_disable
  else if s = "link".toList then .test_link
  else if s = "ping".toList then .test_ping
  else if s = "speed".toList then .test_speed
  else .test_max

/-- `getAlarmSate`. -/
def getAlarmState (s : List Char) : BoolT :=
  if s = "disable".toList then .disable
  else if s = "enable".toList then .enable
  else .max_bool

/-- `port_setHostParam`: the host is stored, valid or not. The `ERR_OK` of `utils_module.c`,
which `checkValidIp` stores, is `0`. -/
def portSetHostParam (c : PortConfigInfo) (host : String) : PortConfigInfo × ErrorCode :=
  ({ c with host := host },
    if checkValidIp host.toList then Flags.none else Flags.none.set .ERR_IP_NOT_VALID)

/-- `port_setSpeedParam`: `max_speed` is stored before `min` is checked. -/
def portSetSpeedParam (c : PortConfigInfo) (mx mn : UInt32) : PortConfigInfo × ErrorCode :=
  if mx < mn then (c, Flags.none.set .ERR_SPEED_VALUE)
  else if mx < MIN_SPEED ∨ MAX_SPEED < mx then (c, Flags.none.set .ERR_SPEED_VALUE)
  else
    let c := { c with max_speed := mx }
    if mn < MIN_SPEED ∨ MAX_SPEED < mn then (c, Flags.none.set .ERR_SPEED_VALUE)
    else ({ c with min_speed := mn }, Flags.none.set .ERR_OK)

/-- The instant `port_setTimeParam` stores for an alarm at `H:M`: that time today, or that time
tomorrow when it is not in the future. -/
def nextAlarm (C : CTime) (now : Nat) (hour minute : Int) : Int :=
  let today := C.mktime { C.localtime now with tm_hour := hour, tm_min := minute, tm_sec := 0 }
  if (UInt32.ofInt today).toNat ≤ now then
    let tm := C.localtime today
    C.mktime { tm with tm_mday := tm.tm_mday + 1 }
  else today

/-- One of the two halves of `port_setTimeParam`. -/
def setAlarm (C : CTime) (now : Nat) (a : TimeHM) (hm : Int × Int) : TimeHM :=
  { a with
    time_H := UInt8.ofInt hm.1
    time_M := UInt8.ofInt hm.2
    targetTime := UInt32.ofInt (nextAlarm C now (UInt8.ofInt hm.1).toNat (UInt8.ofInt hm.2).toNat) }

/-- `port_setTimeParam`: the switch-off time is only stored when the switch-on time is valid. -/
def portSetTimeParam (C : CTime) (now : Nat) (c : PortConfigInfo) (timeUp timeDown : String) :
    PortConfigInfo × ErrorCode :=
  match isValidTime timeUp.toList with
  | none => (c, (Flags.none.set .ERR_OK).set .ERR_TIME_NOT_VALID)
  | some up =>
      let c := { c with timeAlarmUp := setAlarm C now c.timeAlarmUp up }
      match isValidTime timeDown.toList with
      | none => (c, (Flags.none.set .ERR_OK).set .ERR_TIME_NOT_VALID)
      | some down =>
          ({ c with timeAlarmDown := setAlarm C now c.timeAlarmDown down },
            Flags.none.set .ERR_OK)

/-- `setHost`. -/
def setHost (c : PortConfigInfo) (r : UbusReply) : PortConfigInfo × ErrorCode :=
  match r.data "host" with
  | none => (c, Flags.none.set .ERR_IP_NOT_VALID)
  | some host => portSetHostParam c host

/-- `setSpeed`: the two numbers pass through a `uint16_t`. When both options are there the
uninitialised `errorCode` is compared with `ERR_SPEED_VALUE`. -/
def setSpeed (c : PortConfigInfo) (r : UbusReply) (stray : Bool) : PortConfigInfo × ErrorCode :=
  match r.data "max_speed", r.data "min_speed" with
  | some mx, some mn =>
      if stray then (c, Flags.none.set .ERR_SPEED_VALUE)
      else
        portSetSpeedParam c (UInt16.ofInt (strtol mx.toList)).toUInt32
          (UInt16.ofInt (strtol mn.toList)).toUInt32
  | _, _ => (c, Flags.none.set .ERR_SPEED_VALUE)

/-- `setTime`. `getPortParam` looks at no flag of its result but `ERR_NULL_OBJ`, which it never
carries. The texts are copied to arrays of five bytes: what a longer one, `08:00` among them, writes
behind its array is outside the model. -/
def setTime (e : ParamEnv) (c : PortConfigInfo) : PortConfigInfo × ErrorCode :=
  match e.reply.data "timeUp", e.reply.data "timeDown" with
  | some up, some down => portSetTimeParam e.ctime e.now c up down
  | _, _ => (c, (Flags.none.set .ERR_OK).set .ERR_TIME_NOT_VALID)

/-- `setTestConfig[test]`. -/
def setTestConfig (e : ParamEnv) (c : PortConfigInfo) : TypeOfTest → PortConfigInfo × ErrorCode
  | .test_link => (c, Flags.none.set .ERR_OK)
  | .test_ping => setHost c e.reply
  | .test_speed => setSpeed c e.reply e.strayErrorCode
  | .test_disable | .test_max => (c, Flags.none.set .ERR_PORT_DISABLE)

/-! ## `getPortParam` -/

/-- `setConfigZeroValue`. -/
def setConfigZeroValue (now : Nat) (isReboot : Bool) (c : PortConfigInfo) : PortConfigInfo :=
  let c := { c with
    min_speed := 0, max_speed := 0, rx_delta_byte := 0, rx_byte_current := 0
    rx_byte_prev := 0, rx_speed_Kbit := 0, time_current := toU32 now }
  if isReboot then c
  else { c with
    host := "0.0.0.0"
    timeAlarmDown := { c.timeAlarmDown with status := .disable, time_H := 25, time_M := 61 }
    timeAlarmUp := { c.timeAlarmUp with status := .disable, time_H := 27, time_M := 62 }
    timeStr := "" }

/-- `setResetZeroValue`. -/
def setResetZeroValue (isReboot : Bool) (r : PortResetInfo) : PortResetInfo where
  errorCode := Flags.none.set .ERR_OK
  totalResetCount := if isReboot then r.totalResetCount else 0
  resetCount := 0
  errorTestCount := 0
  state := .REGULAR_STATE
  event := Flags.none

/-- `set_errorHandler`: a port with a configuration error is not tested. -/
def setErrorHandler (p : PortInfo) : PortInfo :=
  if p.portResetInfo.errorCode.has .ERR_IP_NOT_VALID ∨
      p.portResetInfo.errorCode.has .ERR_TIME_NOT_VALID ∨
      p.portResetInfo.errorCode.has .ERR_SPEED_VALUE ∨
      p.portResetInfo.errorCode.has .ERR_PORT_DISABLE then
    { p with portConfigInfo.test := .test_disable }
  else p

/-- The test chosen by the option `state`, and the error code it leaves. -/
def applyTest (e : ParamEnv) (p : PortInfo) : TypeOfTest → PortInfo
  | .test_max =>
      { p with portResetInfo.errorCode :=
          (p.portResetInfo.errorCode.clear .ERR_OK).set .ERR_TEST_TYPE }
  | .test_disable =>
      { p with portResetInfo.errorCode :=
          (p.portResetInfo.errorCode.clear .ERR_OK).set .ERR_TEST_DISABLE }
  | test =>
      let r := setTestConfig e { p.portConfigInfo with test := test } test
      { p with portConfigInfo := r.1, portResetInfo.errorCode := r.2 }

/-- The first half of `getPortParam`: the alarm option is read, everything else is reset. -/
def zeroedPort (e : ParamEnv) (isReboot : Bool) (p : PortInfo) : PortInfo :=
  { p with
    portConfigInfo := setConfigZeroValue e.now isReboot
      { p.portConfigInfo with
        test := .test_disable
        alarm := getAlarmState (getValueFromJson e.reply.text.toList "alarm".toList []) }
    portResetInfo := setResetZeroValue isReboot p.portResetInfo }

/-- The alarm times are read when the alarm is enabled. -/
def applyAlarm (e : ParamEnv) (p : PortInfo) : PortInfo :=
  if p.portConfigInfo.alarm = .enable then
    { p with portConfigInfo := (setTime e p.portConfigInfo).1 }
  else p

/-- `getPortParam`. -/
def getPortParam (e : ParamEnv) (isReboot : Bool) (p : PortInfo) : PortInfo :=
  let typeOfTest := getCmdKey (getValueFromJson e.reply.text.toList "state".toList [])
  setErrorHandler (applyAlarm e (applyTest e (zeroedPort e isReboot p) typeOfTest))

/-! ## What `getPortParam` leaves

Outside `portConfigInfo` and the error code, the record of a port after `getPortParam` is known:
the counters are zero, no event is pending, the port is in `REGULAR_STATE`, and the reboot and
the polled state are untouched. -/

section

variable (e : ParamEnv) (b : Bool) (p : PortInfo)

/-- The parts of a record that only `setResetZeroValue` and the test's error code determine. -/
structure Reloaded (b : Bool) (p q : PortInfo) : Prop where
  reboot : q.portRebootInfo = p.portRebootInfo
  polled : q.portStateInfo = p.portStateInfo
  reset : ∃ err, q.portResetInfo = { setResetZeroValue b p.portResetInfo with errorCode := err }

theorem Reloaded.of_config {b : Bool} {p q : PortInfo} (h : Reloaded b p q)
    (c : PortConfigInfo) : Reloaded b p { q with portConfigInfo := c } :=
  ⟨h.reboot, h.polled, h.reset⟩

theorem applyTest_reloaded (t : TypeOfTest) : Reloaded b p (applyTest e (zeroedPort e b p) t) := by
  cases t <;> exact ⟨rfl, rfl, _, rfl⟩

theorem Reloaded.applyAlarm {b : Bool} {p q : PortInfo} (h : Reloaded b p q) (e : ParamEnv) :
    Reloaded b p (applyAlarm e q) := by
  unfold AutoRestart.applyAlarm
  split
  · exact h.of_config _
  · exact h

theorem Reloaded.setErrorHandler {b : Bool} {p q : PortInfo} (h : Reloaded b p q) :
    Reloaded b p (setErrorHandler q) := by
  unfold AutoRestart.setErrorHandler
  split
  · exact h.of_config _
  · exact h

/-- **What `getPortParam` leaves.** -/
theorem getPortParam_reloaded : Reloaded b p (getPortParam e b p) :=
  ((applyTest_reloaded e b p _).applyAlarm e).setErrorHandler

@[simp] theorem getPortParam_portRebootInfo :
    (getPortParam e b p).portRebootInfo = p.portRebootInfo := (getPortParam_reloaded e b p).reboot

@[simp] theorem getPortParam_portStateInfo :
    (getPortParam e b p).portStateInfo = p.portStateInfo := (getPortParam_reloaded e b p).polled

@[simp] theorem getPortParam_state :
    (getPortParam e b p).portResetInfo.state = .REGULAR_STATE := by
  obtain ⟨err, h⟩ := (getPortParam_reloaded e b p).reset
  rw [h]; rfl

@[simp] theorem getPortParam_event :
    (getPortParam e b p).portResetInfo.event = Flags.none := by
  obtain ⟨err, h⟩ := (getPortParam_reloaded e b p).reset
  rw [h]; rfl

@[simp] theorem getPortParam_resetCount :
    (getPortParam e b p).portResetInfo.resetCount = 0 := by
  obtain ⟨err, h⟩ := (getPortParam_reloaded e b p).reset
  rw [h]; rfl

end

/-! ## Start-up -/

/-- `rebootParamInit`, for one port. -/
def rebootParamInit (p : PortInfo) : PortInfo :=
  { p with portRebootInfo :=
      { rebootState := .REBOOT_STATE_IDLE, rebootEvent := Flags.none
        rebootDelay := 15, rebootTimeStart := 0 } }

/-- The record of one port as `ar_mainInit` builds it: `getPortsParam`, then
`rebootParamInit`. -/
def initPortInfo (e : ParamEnv) : PortInfo := rebootParamInit (getPortParam e false zeroPortInfo)

end AutoRestart
