import TfPack.AutoRestart.Init

set_option autoImplicit false

/-! # The autorestart daemon: `port_module.c`

The test routines, the admin poll, the two reset handlers and the alarm clock. Each is a
function of the port's record and of what the routine reads from outside: the interface's
`operstate`, the outcome of a ping, the interface's byte counter, the reply of `ubus`, the clock.
-/

namespace AutoRestart

open FlagWord

/-! ## Test routines -/

/-- `portResetInfo.event |= TEST_OK`, in `IDLE_STATE` only. -/
def noteTestOk (p : PortInfo) : PortInfo :=
  if p.portResetInfo.state = .IDLE_STATE then
    { p with portResetInfo.event := p.portResetInfo.event.set .TEST_OK }
  else p

@[simp] theorem noteTestOk_errorCode (p : PortInfo) :
    (noteTestOk p).portResetInfo.errorCode = p.portResetInfo.errorCode := by
  unfold noteTestOk; split <;> rfl

/-- `port_runTestDisable`. -/
def portRunTestDisable (p : PortInfo) : PortInfo :=
  { p with portResetInfo.errorCode :=
      (p.portResetInfo.errorCode.clear .ERR_OK).set .ERR_TEST_DISABLE }

/-- The link is up: `operstate` reads `up`. -/
def linkUp (operstate : String) : Bool := operstate == "up\n"

/-- `port_runTestLink`. The link counts as a passed test only for a port configured for it. -/
def portRunTestLink (operstate : String) (p : PortInfo) : PortInfo :=
  let err := (p.portResetInfo.errorCode.clear .ERR_TEST_LINK).set .ERR_OK
  if linkUp operstate then
    let p := { p with portResetInfo.errorCode := err }
    if p.portConfigInfo.test = .test_link then noteTestOk p else p
  else { p with portResetInfo.errorCode := (err.clear .ERR_OK).set .ERR_TEST_LINK }

/-- The ping step passes: the link test has not failed and the host answers. -/
def pingPasses (reply : Option UInt32) (p : PortInfo) : Bool :=
  !p.portResetInfo.errorCode.has .ERR_TEST_LINK && reply.isSome

/-- `port_runTestPing`. `reply` is what `ping` gives when it is called: the reply time, or no
answer. A passed ping replaces the whole error code by `ERR_OK`. -/
def portRunTestPing (reply : Option UInt32) (p : PortInfo) : PortInfo :=
  let reply := if p.portResetInfo.errorCode.has .ERR_TEST_LINK then none else reply
  let p := { p with portConfigInfo.reply_time := reply.getD 0 }
  match reply with
  | none =>
      { p with portResetInfo.errorCode :=
          (p.portResetInfo.errorCode.clear .ERR_OK).set .ERR_TEST_PING }
  | some _ => noteTestOk { p with portResetInfo.errorCode := Flags.none.set .ERR_OK }

/-- The bits received and the seconds elapsed since the last speed test, as the source's
`uint32_t` arithmetic gives them. `output` is the text of the byte counter. -/
def speedDelta (output : String) (now : Nat) (c : PortConfigInfo) : UInt32 × UInt32 :=
  ((UInt32.ofInt (strtol output.toList) - c.rx_byte_prev) * 8, toU32 now - c.time_prev)

/-- The speed lies outside the configured range. -/
def speedOutside (kbit : UInt32) (c : PortConfigInfo) : Bool :=
  kbit < c.min_speed || c.max_speed < kbit

/-- The speed step passes: the link test has not failed, time has gone by, and the speed is in
the configured range. -/
def speedPasses (output : String) (now : Nat) (p : PortInfo) : Bool :=
  let d := speedDelta output now p.portConfigInfo
  !p.portResetInfo.errorCode.has .ERR_TEST_LINK && d.2 != 0 &&
    !speedOutside (d.1 / d.2 / 1000) p.portConfigInfo

/-- The counters `port_runTestSpeed` stores when the link test has not failed. -/
def storeSpeed (output : String) (now : Nat) (c : PortConfigInfo) : PortConfigInfo :=
  let current := UInt32.ofInt (strtol output.toList)
  { c with
    rx_byte_current := current
    rx_delta_byte := current - c.rx_byte_prev
    rx_byte_prev := current
    time_current := toU32 now
    time_prev := toU32 now }

/-- The counters do not move the configured range. -/
@[simp] theorem speedOutside_storeSpeed (kbit : UInt32) (o : String) (t : Nat)
    (c : PortConfigInfo) :
    speedOutside kbit (storeSpeed o t c) = speedOutside kbit c := rfl

/-- `port_runTestSpeed`. -/
def portRunTestSpeed (output : String) (now : Nat) (p : PortInfo) : PortInfo :=
  if p.portResetInfo.errorCode.has .ERR_TEST_LINK then
    { p with
      portConfigInfo.rx_speed_Kbit := 0
      portResetInfo.errorCode :=
        (p.portResetInfo.errorCode.clear .ERR_OK).set .ERR_TEST_SPEED }
  else
    let d := speedDelta output now p.portConfigInfo
    let c := storeSpeed output now p.portConfigInfo
    let err := (p.portResetInfo.errorCode.clear .ERR_TEST_SPEED).set .ERR_OK
    let failed := (err.clear .ERR_OK).set .ERR_TEST_SPEED
    if d.2 = 0 then
      { p with
        portConfigInfo := { c with rx_speed_Kbit := d.1 }
        portResetInfo.errorCode := failed }
    else
      let kbit := d.1 / d.2 / 1000
      let p := { p with portConfigInfo := { c with rx_speed_Kbit := kbit } }
      if speedOutside kbit c then { p with portResetInfo.errorCode := failed }
      else noteTestOk { p with portResetInfo.errorCode := err }

/-! ## The admin poll -/

/-- The reply of the admin poll: the options `state` and `poe` of the port, `none` for an option
that is missing, as both are in an empty reply. -/
structure PollReply where
  state : Option String
  poe : Option String
  deriving DecidableEq

/-- The option reads `enable`. -/
def readsEnable (s : Option String) : Bool := s.getD "" == "enable"

/-- Both options read `enable`. -/
def PollReply.enables (r : PollReply) : Bool := readsEnable r.state && readsEnable r.poe

/-- What the poll does for an option that does not read `enable`. -/
def pollDisabled (flag : ErrFlag) (p : PortInfo) : PortInfo :=
  { p with
    portResetInfo.errorCode := (p.portResetInfo.errorCode.clear .ERR_OK).set flag
    portResetInfo.state := .IDLE_STATE }

/-- `get_PortAndPoeState`, with the state it returns. -/
def getPortAndPoeState (r : PollReply) (p : PortInfo) : PortInfo × ArState :=
  let p :=
    if readsEnable r.state then { p with portStateInfo.port_state := .enable }
    else pollDisabled .ERR_PORT_DISABLE { p with portStateInfo.port_state := .disable }
  let p :=
    if readsEnable r.poe then { p with portStateInfo.poe_state := .enable }
    else pollDisabled .ERR_PoE_DISABLE { p with portStateInfo.poe_state := .disable }
  (p, if r.enables then .REGULAR_STATE else .IDLE_STATE)

/-! ## The alarm clock -/

/-- `port_timeAlarm`: the alarm is due, and moves to the same time of the next day, or the
remaining time is stored. -/
def portTimeAlarm (C : CTime) (now : Nat) (a : TimeHM) : TimeHM :=
  if a.targetTime.toNat ≤ now then
    let tm := C.localtime now
    { a with
      targetTime := UInt32.ofInt (C.mktime { tm with tm_mday := tm.tm_mday + 1 })
      remainTime := 0
      status := .enable }
  else { a with remainTime := a.targetTime - toU32 now }

/-- `port_runTestTime`. -/
def portRunTestTime (C : CTime) (upNow downNow : Nat) (p : PortInfo) : PortInfo :=
  { p with
    portConfigInfo.timeAlarmUp := portTimeAlarm C upNow p.portConfigInfo.timeAlarmUp
    portConfigInfo.timeAlarmDown := portTimeAlarm C downNow p.portConfigInfo.timeAlarmDown }

/-! ## The reset handlers -/

/-- `autoResetHandler`: an automatic reboot is counted and started, or, when `maxReset` reboots
have been counted, the port is shut down. -/
def autoResetHandler (maxReset : UInt8) (timeDate : String) (p : PortInfo) :
    PortInfo × List PortEvent :=
  let p := { p with
    portConfigInfo.timeStr := timeDate
    portResetInfo.errorCode := p.portResetInfo.errorCode.clear .ERR_OK }
  if maxReset ≤ p.portResetInfo.resetCount then
    (setErrorHandler { p with
      portResetInfo.errorCode :=
        (p.portResetInfo.errorCode.clear .ERR_REBOOTING).set .ERR_PORT_SHUTDOWN
      portResetInfo.state := .IDLE_STATE
      portRebootInfo.rebootState := .REBOOT_STATE_IDLE }, [])
  else
    ({ p with
      portResetInfo.errorTestCount := 0
      portResetInfo.resetCount := p.portResetInfo.resetCount + 1
      portResetInfo.totalResetCount := p.portResetInfo.totalResetCount + 1
      portResetInfo.errorCode := p.portResetInfo.errorCode.set .ERR_REBOOTING
      portRebootInfo.rebootState := .REBOOT_STATE_INIT }, [.autoReset])

/-- `manualResetHandler`. -/
def manualResetHandler (timeDate : String) (p : PortInfo) : PortInfo × List PortEvent :=
  ({ p with
    portConfigInfo.timeStr := timeDate
    portResetInfo.errorCode :=
      ((p.portResetInfo.errorCode.clear .ERR_OK).clear .ERR_PORT_SHUTDOWN).set .ERR_MANUAL_REBOOT
    portResetInfo.totalResetCount := p.portResetInfo.totalResetCount + 1
    portResetInfo.resetCount := 0
    portResetInfo.errorTestCount := 0
    portRebootInfo.rebootState := .REBOOT_STATE_INIT }, [.manualReset])

end AutoRestart
