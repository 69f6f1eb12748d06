import TfPack.AutoRestart.Port

set_option autoImplicit false

/-! # The autorestart daemon: `events_module.c` and `client_module.c`

One pass of `eventsHandler` over one port, and the reboot command of a client. The handler of
the reboot sub-machine is cut at its four stages.
-/

namespace AutoRestart

open FlagWord

/-- The two parameters of the daemon's configuration its port machine uses,
`config[TEST_NUM].value` and `config[MAX_RESET].value`. -/
structure Config where
  test_num : UInt8
  max_reset : UInt8

/-- What one pass of `eventsHandler` over a port reads from outside: the clock at each point
where the pass reads it or issues a command, in the order of the code, the time zone, and the
configuration `getPortParam` reads. -/
structure PassEnv where
  cmdTime : Nat
  armTime : Nat
  testTime : Nat
  upTime : Nat
  downTime : Nat
  alarmTime : Nat
  ctime : CTime
  params : ParamEnv

/-! ## The reboot sub-machine -/

/-- `REBOOT_STATE_IDLE`: a pending automatic reboot, then a pending manual one. -/
def rebootIdle (cfg : Config) (e : PassEnv) (p : PortInfo) : PortInfo × List PortEvent :=
  let a :=
    if p.portResetInfo.event.has .AUTO_RESTART then
      autoResetHandler cfg.max_reset (getTimeDate e.ctime e.cmdTime)
        { p with portResetInfo.event := p.portResetInfo.event.clear .AUTO_RESTART }
    else (p, [])
  if a.1.portResetInfo.event.has .MANUAL_RESTART && a.1.enabled then
    let m := manualResetHandler (getTimeDate e.ctime e.cmdTime) a.1
    ({ m.1 with portResetInfo.event := m.1.portResetInfo.event.clear .MANUAL_RESTART },
      a.2 ++ m.2)
  else a

/-- `REBOOT_STATE_INIT`. -/
def rebootInit (p : PortInfo) : PortInfo :=
  { p with
    portRebootInfo.rebootState := .REBOOT_STATE_POE_DOWN
    portRebootInfo.rebootEvent := p.portRebootInfo.rebootEvent.set .REBOOT_EVENT_START }

/-- `REBOOT_STATE_POE_DOWN`, first part: the command is issued once and the off-time armed. The
sum `rebootDelay + time(NULL)` is stored in a `uint32_t`. -/
def rebootArm (e : PassEnv) (p : PortInfo) : PortInfo × List PortEvent :=
  if p.portRebootInfo.rebootEvent.has .REBOOT_EVENT_START then
    ({ p with
      portRebootInfo.rebootEvent := p.portRebootInfo.rebootEvent.clear .REBOOT_EVENT_START
      portRebootInfo.rebootTimeStart := toU32 (p.portRebootInfo.rebootDelay.toNat + e.armTime) },
      [.poe .reboot .POE_DOWN e.cmdTime])
  else (p, [])

/-- `REBOOT_STATE_POE_DOWN`, second part: the off-time is over. -/
def rebootTimer (e : PassEnv) (p : PortInfo) : PortInfo :=
  let ev :=
    if p.portRebootInfo.rebootTimeStart.toNat ≤ e.testTime then
      p.portRebootInfo.rebootEvent.set .REBOOT_EVENT_TIMER_STOP
    else p.portRebootInfo.rebootEvent
  if ev.has .REBOOT_EVENT_TIMER_STOP then
    { p with portRebootInfo.rebootEvent := ev, portRebootInfo.rebootState := .REBOOT_STATE_POE_UP }
  else { p with portRebootInfo.rebootEvent := ev }

/-- The end of `REBOOT_STATE_POE_UP`, after the command: back to `REGULAR_STATE`, and the
configuration is read again when another reboot command came in meanwhile. -/
def rebootFinish (e : PassEnv) (p : PortInfo) : PortInfo :=
  let p := { p with
    portResetInfo.state := .REGULAR_STATE
    portResetInfo.errorCode :=
      (p.portResetInfo.errorCode.clear .ERR_REBOOTING).clear .ERR_MANUAL_REBOOT
    portRebootInfo.rebootState := .REBOOT_STATE_IDLE
    portRebootInfo.rebootEvent := p.portRebootInfo.rebootEvent.clear .REBOOT_EVENT_TIMER_STOP }
  if p.portResetInfo.event.has .MANUAL_RESTART then
    getPortParam e.params true { p with
      portResetInfo.event := p.portResetInfo.event.clear .MANUAL_RESTART
      portResetInfo.errorCode := p.portResetInfo.errorCode.clear .ERR_PORT_SHUTDOWN }
  else p

/-- The command of `REBOOT_STATE_POE_UP`: none when the port is disabled. -/
def rebootUpCommand (e : PassEnv) (p : PortInfo) : List PortEvent :=
  if p.enabled then [.poe .reboot .POE_UP e.cmdTime] else []

/-- `rebootHandler`. -/
def rebootHandler (cfg : Config) (e : PassEnv) (p : PortInfo) : PortInfo × List PortEvent :=
  match p.portRebootInfo.rebootState with
  | .REBOOT_STATE_IDLE => rebootIdle cfg e p
  | .REBOOT_STATE_INIT => (rebootInit p, [])
  | .REBOOT_STATE_POE_DOWN =>
      let r := rebootArm e p
      (rebootTimer e r.1, r.2)
  | .REBOOT_STATE_POE_UP => (rebootFinish e p, rebootUpCommand e p ++ [.rebootDone])

/-! ## Monitoring -/

/-- `test_ErrorHandler`, first part: with `ERR_OK` set the error count goes down, and at zero
the reset count is cleared. -/
def okBranch (p : PortInfo) : PortInfo :=
  if p.portResetInfo.errorCode.has .ERR_OK then
    let p :=
      if 0 < p.portResetInfo.errorTestCount then
        { p with portResetInfo.errorTestCount := p.portResetInfo.errorTestCount - 1 }
      else p
    if p.portResetInfo.errorTestCount = 0 then
      { p with
        portResetInfo.errorCode := p.portResetInfo.errorCode.clear .ERR_PORT_SHUTDOWN
        portResetInfo.resetCount := 0 }
    else p
  else p

/-- The port is not monitored. -/
def notMonitored (err : ErrorCode) : Bool :=
  err.has .ERR_PORT_DISABLE || err.has .ERR_TEST_DISABLE || err.has .ERR_PORT_SHUTDOWN ||
    err.has .ERR_POE_DOWN || err.has .ERR_PoE_DISABLE

/-- One of the tests failed. -/
def testFailed (err : ErrorCode) : Bool :=
  err.has .ERR_TEST_LINK || err.has .ERR_TEST_SPEED || err.has .ERR_TEST_PING

/-- `test_ErrorHandler`, second part: a failed test is counted, and after `test_num` of them an
automatic reboot is asked for. -/
def failBranch (cfg : Config) (p : PortInfo) : PortInfo :=
  if notMonitored p.portResetInfo.errorCode || !testFailed p.portResetInfo.errorCode then p
  else
    let p := { p with portResetInfo.errorTestCount := p.portResetInfo.errorTestCount + 1 }
    if cfg.test_num ≤ p.portResetInfo.errorTestCount ∧ p.portResetInfo.state ≠ .REBOOT_STATE then
      { p with
        portResetInfo.event := p.portResetInfo.event.set .AUTO_RESTART
        portResetInfo.state := .REBOOT_STATE }
    else p

/-- `test_ErrorHandler`. -/
def testErrorHandler (cfg : Config) (p : PortInfo) : PortInfo := failBranch cfg (okBranch p)

/-- The branch of `eventsHandler` for a port in `IDLE_STATE`. -/
def idleBranch (p : PortInfo) : PortInfo :=
  if p.portResetInfo.event.has .TEST_OK then
    { p with
      portResetInfo.event := p.portResetInfo.event.clear .TEST_OK
      portResetInfo.state := .REGULAR_STATE
      portResetInfo.errorCode := p.portResetInfo.errorCode.clear .ERR_PORT_SHUTDOWN }
  else p

/-! ## Alarms -/

/-- The scheduled switch-off. -/
def alarmDown (e : PassEnv) (p : PortInfo) : PortInfo × List PortEvent :=
  if p.portConfigInfo.timeAlarmDown.status = .enable then
    ({ p with
      portConfigInfo.timeAlarmDown.status := .disable
      portConfigInfo.poe_state := 0
      portConfigInfo.timeStr := getTimeDate e.ctime e.alarmTime
      portResetInfo.errorCode := p.portResetInfo.errorCode.set .ERR_POE_DOWN
      portResetInfo.totalResetCount := p.portResetInfo.totalResetCount + 1 },
      [.poe .alarm .POE_DOWN e.alarmTime])
  else (p, [])

/-- The scheduled switch-on. -/
def alarmUp (e : PassEnv) (p : PortInfo) : PortInfo × List PortEvent :=
  if p.portConfigInfo.timeAlarmUp.status = .enable then
    ({ p with
      portConfigInfo.timeAlarmUp.status := .disable
      portConfigInfo.poe_state := 1
      portResetInfo.errorCode := p.portResetInfo.errorCode.clear .ERR_POE_DOWN },
      [.poe .alarm .POE_UP e.alarmTime])
  else (p, [])

/-- `alarmHandler`. -/
def alarmHandler (e : PassEnv) (p : PortInfo) : PortInfo × List PortEvent :=
  let p := portRunTestTime e.ctime e.upTime e.downTime p
  if p.portResetInfo.state = .REBOOT_STATE then (p, [])
  else
    let d := alarmDown e p
    let u := alarmUp e d.1
    (u.1, d.2 ++ u.2)

/-- `eventHandler[state]`, and the branch for `IDLE_STATE`. -/
def stateHandler (cfg : Config) (e : PassEnv) (p : PortInfo) : PortInfo × List PortEvent :=
  match p.portResetInfo.state with
  | .IDLE_STATE => (idleBranch p, [])
  | .REGULAR_STATE => (testErrorHandler cfg p, [])
  | .REBOOT_STATE => rebootHandler cfg e p

/-- The alarm part of a pass. -/
def alarmPart (e : PassEnv) (p : PortInfo) : PortInfo × List PortEvent :=
  if p.portConfigInfo.alarm = .enable then alarmHandler e p else (p, [])

/-- One pass of `eventsHandler` over one port. -/
def eventsHandler (cfg : Config) (e : PassEnv) (p : PortInfo) : PortInfo × List PortEvent :=
  let r := stateHandler cfg e p
  let q := alarmPart e r.1
  (q.1, r.2 ++ q.2)

/-! ## The reboot command -/

/-- The fields of `resetPort_t` a reboot command is answered with. -/
structure ResetPort where
  errorCode : ErrorCode
  status : UInt8
  resetCount : UInt8
  testType : TypeOfTest
  timeStr : String

/-- The answer about a record, with the given status byte. -/
def replyOf (status : UInt8) (p : PortInfo) : ResetPort where
  errorCode := p.portResetInfo.errorCode
  status := status
  resetCount := p.portResetInfo.totalResetCount
  testType := p.portConfigInfo.test
  timeStr := p.portConfigInfo.timeStr

/-- `cmd_rebootHandler`, for a port of the table, with its answer: status `1` for an accepted
command, `3` for a disabled port, `2` for a port in `REBOOT_STATE`, whose pending command is
withdrawn. -/
def cmdRebootHandler (p : PortInfo) : PortInfo × ResetPort :=
  if p.portResetInfo.state ≠ .REBOOT_STATE then
    if p.enabled then
      let p := { p with
        portResetInfo.state := .REBOOT_STATE
        portResetInfo.event := p.portResetInfo.event.set .MANUAL_RESTART }
      (p, replyOf 1 p)
    else (p, replyOf 3 p)
  else
    let p := { p with
      portResetInfo.event := p.portResetInfo.event.clear .MANUAL_RESTART }
    (p, replyOf 2 p)

end AutoRestart
