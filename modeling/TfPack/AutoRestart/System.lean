import TfPack.AutoRestart.Events
import TfPack.Lib.Machine

set_option autoImplicit false

/-! # The autorestart daemon as a step machine

Three threads share the port table: the test thread (an admin poll, then the configured test of
each port, a link test and, for ping and speed, a second test after it), the events thread and
the client thread. A step of the machine is one call one of them makes for one port; the steps
come in any order. A port touches no record but its own, so the table is the product of
`NUM_PORTS` copies of the machine of one port (`portMachine`), and what is proved of every run
of one port holds of every port of the table (`Exec.proj`).

Reboot commands are those for a port of the table, `1..NUM_PORTS`.
-/

namespace AutoRestart

open FlagWord StepMachine

/-- One step of the daemon for one port. -/
inductive PortAction
  | events (e : PassEnv)
  | poll (r : PollReply)
  | runTestDisable
  | runTestLink (operstate : String)
  | runTestPing (reply : Option UInt32)
  | runTestSpeed (output : String) (now : Nat)
  | reboot

/-- The port's configured test passes. -/
def linkTestPassed (operstate : String) (p : PortInfo) : Bool :=
  p.portConfigInfo.test == .test_link && linkUp operstate

@[inherit_doc linkTestPassed]
def pingTestPassed (reply : Option UInt32) (p : PortInfo) : Bool :=
  p.portConfigInfo.test == .test_ping && pingPasses reply p

@[inherit_doc linkTestPassed]
def speedTestPassed (output : String) (now : Nat) (p : PortInfo) : Bool :=
  p.portConfigInfo.test == .test_speed && speedPasses output now p

/-- The event of a test step: whether the configured test passed. -/
def passedEvent (b : Bool) : List PortEvent := if b then [.passed] else []

/-- The event of a reboot command: `accepted` when it is answered with status `1`. -/
def acceptedEvent (r : ResetPort) : List PortEvent := if r.status = 1 then [.accepted] else []

/-- One step for one port: the record after it, and what it shows. -/
def portStep (cfg : Config) (p : PortInfo) : PortAction → PortInfo × List PortEvent
  | .events e => eventsHandler cfg e p
  | .poll r => ((getPortAndPoeState r p).1, [])
  | .runTestDisable => (portRunTestDisable p, [])
  | .runTestLink o => (portRunTestLink o p, passedEvent (linkTestPassed o p))
  | .runTestPing r => (portRunTestPing r p, passedEvent (pingTestPassed r p))
  | .runTestSpeed o t => (portRunTestSpeed o t p, passedEvent (speedTestPassed o t p))
  | .reboot => ((cmdRebootHandler p).1, acceptedEvent (cmdRebootHandler p).2)

/-- The machine of one port. Every step is enabled in every state. -/
def portMachine (cfg : Config) : Machine PortInfo PortAction PortEvent where
  step p a := some (portStep cfg p a)

/-- The table `portInfoArr`. -/
abbrev Table := Fin NUM_PORTS → PortInfo

/-- The table `ar_mainInit` builds. -/
def initTable (e : Fin NUM_PORTS → ParamEnv) : Table := fun i => initPortInfo (e i)

/-- What a port without a configuration section reads: no test, no alarm. -/
def bareParams : ParamEnv where
  reply := ⟨"", fun _ => none⟩
  now := 0
  ctime := ⟨fun _ => ⟨0, 0, 0, 1, 0, 70, 0⟩, fun _ => 0⟩
  strayErrorCode := false

/-- A port with a ping test. -/
def pingParams : ParamEnv :=
  { bareParams with
    reply := ⟨"\"state\": \"ping\"", fun key => if key = "host" then some "192.168.0.5" else none⟩ }

/-- The reply of the admin poll for an enabled port. -/
def enablingPoll : PollReply := ⟨some "enable", some "enable"⟩

/-- A pass all of whose clock readings are `t`. -/
def passAt (t : Nat) : PassEnv where
  cmdTime := t
  armTime := t
  testTime := t
  upTime := t
  downTime := t
  alarmTime := t
  ctime := bareParams.ctime
  params := bareParams

/-- The daemon: one step for one port of the table. -/
def tableMachine (cfg : Config) :
    Machine Table (Fin NUM_PORTS × PortAction) (Fin NUM_PORTS × PortEvent) :=
  (portMachine cfg).pi (Fin NUM_PORTS)

/-- The points of the runs of one port. -/
abbrev PortVisit := Visit PortInfo PortAction PortEvent

/-- The points of the runs of the table. -/
abbrev TableVisit := Visit Table (Fin NUM_PORTS × PortAction) (Fin NUM_PORTS × PortEvent)

theorem portMachine_step {cfg : Config} {p p' : PortInfo} {a : PortAction}
    {evs : List PortEvent} (h : (portMachine cfg).step p a = some (p', evs)) :
    p' = (portStep cfg p a).1 ∧ evs = (portStep cfg p a).2 := by
  simp only [portMachine, Option.some.injEq] at h
  rw [h]
  exact ⟨rfl, rfl⟩

section Init

variable (e : ParamEnv)

@[simp] theorem initPortInfo_state :
    (initPortInfo e).portResetInfo.state = .REGULAR_STATE := getPortParam_state e false _

@[simp] theorem initPortInfo_event :
    (initPortInfo e).portResetInfo.event = Flags.none := getPortParam_event e false _

@[simp] theorem initPortInfo_resetCount :
    (initPortInfo e).portResetInfo.resetCount = 0 := getPortParam_resetCount e false _

@[simp] theorem initPortInfo_portRebootInfo :
    (initPortInfo e).portRebootInfo = ⟨.REBOOT_STATE_IDLE, Flags.none, 15, 0⟩ := rfl

end Init

/-! ## What the small steps leave alone

Everything the reboot depends on is in five places: `portRebootInfo`, `portStateInfo`, `state`,
`resetCount` and the two restart events. A test step and an alarm leave all of them alone. -/

/-- The reboot, the polled options, the state, the reset count and the restart events of a port
are as they were. -/
structure TestFrame (p q : PortInfo) : Prop where
  reboot : q.portRebootInfo = p.portRebootInfo
  polled : q.portStateInfo = p.portStateInfo
  state : q.portResetInfo.state = p.portResetInfo.state
  resetCount : q.portResetInfo.resetCount = p.portResetInfo.resetCount
  auto : q.portResetInfo.event.has .AUTO_RESTART = p.portResetInfo.event.has .AUTO_RESTART
  manual : q.portResetInfo.event.has .MANUAL_RESTART = p.portResetInfo.event.has .MANUAL_RESTART

section Frames

variable {p q r : PortInfo}

theorem TestFrame.refl (p : PortInfo) : TestFrame p p := ⟨rfl, rfl, rfl, rfl, rfl, rfl⟩

theorem TestFrame.trans (h : TestFrame p q) (h' : TestFrame q r) : TestFrame p r :=
  ⟨h'.reboot.trans h.reboot, h'.polled.trans h.polled, h'.state.trans h.state,
    h'.resetCount.trans h.resetCount, h'.auto.trans h.auto, h'.manual.trans h.manual⟩

theorem TestFrame.enabled (h : TestFrame p q) : q.enabled = p.enabled := by
  rw [PortInfo.enabled, PortInfo.enabled, h.polled]

theorem noteTestOk_frame (p : PortInfo) : TestFrame p (noteTestOk p) := by
  unfold noteTestOk
  split
  · exact ⟨rfl, rfl, rfl, rfl, by simp, by simp⟩
  · exact .refl p

theorem TestFrame.note (h : TestFrame p q) : TestFrame p (noteTestOk q) :=
  h.trans (noteTestOk_frame q)

theorem portRunTestLink_frame (o : String) (p : PortInfo) :
    TestFrame p (portRunTestLink o p) := by
  simp only [portRunTestLink]
  split
  · split
    · exact TestFrame.note ⟨rfl, rfl, rfl, rfl, rfl, rfl⟩
    · exact ⟨rfl, rfl, rfl, rfl, rfl, rfl⟩
  · exact ⟨rfl, rfl, rfl, rfl, rfl, rfl⟩

theorem portRunTestPing_frame (reply : Option UInt32) (p : PortInfo) :
    TestFrame p (portRunTestPing reply p) := by
  simp only [portRunTestPing]
  split
  · exact ⟨rfl, rfl, rfl, rfl, rfl, rfl⟩
  · exact TestFrame.note ⟨rfl, rfl, rfl, rfl, rfl, rfl⟩

theorem portRunTestSpeed_frame (o : String) (t : Nat) (p : PortInfo) :
    TestFrame p (portRunTestSpeed o t p) := by
  simp only [portRunTestSpeed]
  split
  · exact ⟨rfl, rfl, rfl, rfl, rfl, rfl⟩
  · split
    · exact ⟨rfl, rfl, rfl, rfl, rfl, rfl⟩
    · split
      · exact ⟨rfl, rfl, rfl, rfl, rfl, rfl⟩
      · exact TestFrame.note ⟨rfl, rfl, rfl, rfl, rfl, rfl⟩

theorem alarmDown_frame (e : PassEnv) (p : PortInfo) : TestFrame p (alarmDown e p).1 := by
  unfold alarmDown
  split <;> exact ⟨rfl, rfl, rfl, rfl, rfl, rfl⟩

theorem alarmUp_frame (e : PassEnv) (p : PortInfo) : TestFrame p (alarmUp e p).1 := by
  unfold alarmUp
  split <;> exact ⟨rfl, rfl, rfl, rfl, rfl, rfl⟩

theorem alarmPart_frame (e : PassEnv) (p : PortInfo) : TestFrame p (alarmPart e p).1 := by
  unfold alarmPart alarmHandler
  split
  · dsimp only
    split
    · exact ⟨rfl, rfl, rfl, rfl, rfl, rfl⟩
    · -- the clock is read first, then the down alarm is served, then the up alarm
      have hd := alarmDown_frame e (portRunTestTime e.ctime e.upTime e.downTime p)
      have ht : TestFrame p (portRunTestTime e.ctime e.upTime e.downTime p) :=
        ⟨rfl, rfl, rfl, rfl, rfl, rfl⟩
      exact ht.trans (hd.trans (alarmUp_frame e _))
  · exact .refl p

/-- The alarm part of a pass comes after its handler and leaves the reboot alone. -/
theorem eventsHandler_frame (cfg : Config) (e : PassEnv) (p : PortInfo) :
    TestFrame (stateHandler cfg e p).1 (eventsHandler cfg e p).1 := alarmPart_frame e _

/-- The alarms issue no command but their own. -/
theorem alarmPart_events (e : PassEnv) (p : PortInfo) :
    ∀ ev ∈ (alarmPart e p).2, ∃ c, ev = .poe .alarm c e.alarmTime := by
  unfold alarmPart alarmHandler alarmDown alarmUp
  intro ev hev
  dsimp only at hev
  repeat' split at hev
  all_goals simp at hev
  all_goals first
    | exact ⟨_, hev⟩
    | (rcases hev with hev | hev <;> exact ⟨_, hev⟩)

/-- What does not look at the commands of the alarms sees nothing of them. -/
theorem filterMap_alarmPart {β : Type} {g : PortEvent → Option β}
    (hg : ∀ c t, g (.poe .alarm c t) = none) (e : PassEnv) (p : PortInfo) :
    (alarmPart e p).2.filterMap g = [] := by
  rw [List.filterMap_eq_nil_iff]
  intro ev hev
  obtain ⟨c, rfl⟩ := alarmPart_events e p ev hev
  exact hg c e.alarmTime

end Frames

/-! ## What a test step, a poll and a command do -/

/-- A step of the test thread other than the poll. -/
def PortAction.isTest : PortAction → Bool
  | .runTestDisable | .runTestLink _ | .runTestPing _ | .runTestSpeed _ _ => true
  | .events _ | .poll _ | .reboot => false

theorem portStep_test_frame (cfg : Config) (p : PortInfo) {a : PortAction}
    (h : a.isTest = true) : TestFrame p (portStep cfg p a).1 := by
  cases a with
  | runTestDisable => exact ⟨rfl, rfl, rfl, rfl, rfl, rfl⟩
  | runTestLink o => exact portRunTestLink_frame o p
  | runTestPing r => exact portRunTestPing_frame r p
  | runTestSpeed o t => exact portRunTestSpeed_frame o t p
  | events e => simp [PortAction.isTest] at h
  | poll r => simp [PortAction.isTest] at h
  | reboot => simp [PortAction.isTest] at h

/-- What a poll does: the polled options are stored, and a port that is not enabled goes to
`IDLE_STATE`. -/
structure PollEffect (r : PollReply) (p q : PortInfo) : Prop where
  reboot : q.portRebootInfo = p.portRebootInfo
  enabled : q.enabled = r.enables
  state : q.portResetInfo.state = if r.enables then p.portResetInfo.state else .IDLE_STATE
  resetCount : q.portResetInfo.resetCount = p.portResetInfo.resetCount
  event : q.portResetInfo.event = p.portResetInfo.event

theorem getPortAndPoeState_effect (r : PollReply) (p : PortInfo) :
    PollEffect r p (getPortAndPoeState r p).1 := by
  unfold getPortAndPoeState
  cases hs : readsEnable r.state <;> cases hp : readsEnable r.poe <;>
    constructor <;> simp [hs, hp, PortInfo.enabled, PollReply.enables, pollDisabled]

/-! ## What the branches of a pass do -/

/-- The automatic reboot a pass starts. -/
def startsAuto (cfg : Config) (p : PortInfo) : Bool :=
  p.portResetInfo.event.has .AUTO_RESTART && !decide (cfg.max_reset ≤ p.portResetInfo.resetCount)

/-- The manual reboot a pass starts. -/
def startsManual (p : PortInfo) : Bool :=
  p.portResetInfo.event.has .MANUAL_RESTART && p.enabled

/-- The pass shuts the port down instead of rebooting it. -/
def shutsDown (cfg : Config) (p : PortInfo) : Bool :=
  p.portResetInfo.event.has .AUTO_RESTART && decide (cfg.max_reset ≤ p.portResetInfo.resetCount)

@[simp] theorem setErrorHandler_portResetInfo (p : PortInfo) :
    (setErrorHandler p).portResetInfo = p.portResetInfo := by
  unfold setErrorHandler; split <;> rfl

@[simp] theorem setErrorHandler_portRebootInfo (p : PortInfo) :
    (setErrorHandler p).portRebootInfo = p.portRebootInfo := by
  unfold setErrorHandler; split <;> rfl

@[simp] theorem setErrorHandler_portStateInfo (p : PortInfo) :
    (setErrorHandler p).portStateInfo = p.portStateInfo := by
  unfold setErrorHandler; split <;> rfl

/-- `autoResetHandler` moves the port to the first stage of a reboot, or shuts it down. -/
structure AutoEffect (maxReset : UInt8) (p : PortInfo) (r : PortInfo × List PortEvent) :
    Prop where
  polled : r.1.portStateInfo = p.portStateInfo
  event : r.1.portResetInfo.event = p.portResetInfo.event
  reboot : r.1.portRebootInfo =
    if maxReset ≤ p.portResetInfo.resetCount then
      { p.portRebootInfo with rebootState := .REBOOT_STATE_IDLE }
    else { p.portRebootInfo with rebootState := .REBOOT_STATE_INIT }
  state : r.1.portResetInfo.state =
    if maxReset ≤ p.portResetInfo.resetCount then .IDLE_STATE else p.portResetInfo.state
  resetCount : r.1.portResetInfo.resetCount =
    if maxReset ≤ p.portResetInfo.resetCount then p.portResetInfo.resetCount
    else p.portResetInfo.resetCount + 1
  events : r.2 = if maxReset ≤ p.portResetInfo.resetCount then [] else [.autoReset]

theorem autoResetHandler_effect (maxReset : UInt8) (d : String) (p : PortInfo) :
    AutoEffect maxReset p (autoResetHandler maxReset d p) := by
  unfold autoResetHandler
  by_cases h : maxReset ≤ p.portResetInfo.resetCount <;> constructor <;> simp [h]

/-- The stage the idle stage leaves behind. -/
def idleStage (cfg : Config) (p : PortInfo) : RebootState :=
  if startsAuto cfg p || startsManual p then .REBOOT_STATE_INIT else .REBOOT_STATE_IDLE

/-- **What the idle stage of the reboot sub-machine does**, in the three questions whether it
starts an automatic reboot, starts a manual one, or shuts the port down. -/
structure IdleEffect (cfg : Config) (p : PortInfo) (r : PortInfo × List PortEvent) : Prop where
  polled : r.1.portStateInfo = p.portStateInfo
  reboot : r.1.portRebootInfo = { p.portRebootInfo with rebootState := idleStage cfg p }
  state : r.1.portResetInfo.state =
    if shutsDown cfg p then .IDLE_STATE else p.portResetInfo.state
  auto : r.1.portResetInfo.event.has .AUTO_RESTART = false
  manual : r.1.portResetInfo.event.has .MANUAL_RESTART =
    (p.portResetInfo.event.has .MANUAL_RESTART && !p.enabled)
  resetCount : r.1.portResetInfo.resetCount =
    if startsManual p then 0
    else if startsAuto cfg p then p.portResetInfo.resetCount + 1 else p.portResetInfo.resetCount
  events : r.2 =
    (if startsAuto cfg p then [.autoReset] else []) ++
      (if startsManual p then [.manualReset] else [])

/-- The automatic half of the idle stage. -/
def idleAuto (cfg : Config) (e : PassEnv) (p : PortInfo) : PortInfo × List PortEvent :=
  if p.portResetInfo.event.has .AUTO_RESTART then
    autoResetHandler cfg.max_reset (getTimeDate e.ctime e.cmdTime)
      { p with portResetInfo.event := p.portResetInfo.event.clear .AUTO_RESTART }
  else (p, [])

/-- The manual half of the idle stage. -/
def idleManual (e : PassEnv) (a : PortInfo × List PortEvent) : PortInfo × List PortEvent :=
  if startsManual a.1 then
    let m := manualResetHandler (getTimeDate e.ctime e.cmdTime) a.1
    ({ m.1 with portResetInfo.event := m.1.portResetInfo.event.clear .MANUAL_RESTART },
      a.2 ++ m.2)
  else a

theorem rebootIdle_eq (cfg : Config) (e : PassEnv) (p : PortInfo) :
    rebootIdle cfg e p = idleManual e (idleAuto cfg e p) := rfl

/-- The automatic half alone has the effect of an idle stage without a manual reboot. -/
theorem idleAuto_effect (cfg : Config) (e : PassEnv) (p : PortInfo) :
    let a := idleAuto cfg e p
    a.1.portStateInfo = p.portStateInfo ∧
    (p.portRebootInfo.rebootState = .REBOOT_STATE_IDLE →
      a.1.portRebootInfo = { p.portRebootInfo with rebootState :=
        (if startsAuto cfg p then .REBOOT_STATE_INIT else .REBOOT_STATE_IDLE) }) ∧
    a.1.portResetInfo.state = (if shutsDown cfg p then .IDLE_STATE else p.portResetInfo.state) ∧
    a.1.portResetInfo.event = p.portResetInfo.event.clear .AUTO_RESTART ∧
    a.1.portResetInfo.resetCount =
      (if startsAuto cfg p then p.portResetInfo.resetCount + 1
        else p.portResetInfo.resetCount) ∧
    a.2 = (if startsAuto cfg p then [.autoReset] else []) := by
  intro a
  unfold startsAuto shutsDown
  -- without the event the pass leaves the record as it is
  cases hA : p.portResetInfo.event.has .AUTO_RESTART with
  | false =>
      have ha : a = (p, []) := by simp [a, idleAuto, hA]
      rw [ha]
      refine ⟨rfl, ?_, rfl, ?_, rfl, rfl⟩
      · intro h
        simp [← h]
      · ext f
        by_cases hf : f = .AUTO_RESTART <;> simp [hf, hA]
  | true =>
      have ha : a = autoResetHandler cfg.max_reset (getTimeDate e.ctime e.cmdTime)
          { p with portResetInfo.event := p.portResetInfo.event.clear .AUTO_RESTART } := by
        simp [a, idleAuto, hA]
      have h := autoResetHandler_effect cfg.max_reset (getTimeDate e.ctime e.cmdTime)
        { p with portResetInfo.event := p.portResetInfo.event.clear .AUTO_RESTART }
      rw [← ha] at h
      refine ⟨h.polled, fun _ => ?_, ?_, h.event, ?_, ?_⟩
      · rw [h.reboot]
        by_cases hr : cfg.max_reset ≤ p.portResetInfo.resetCount <;> simp [hr]
      · rw [h.state]; simp
      · rw [h.resetCount]
        by_cases hr : cfg.max_reset ≤ p.portResetInfo.resetCount <;> simp [hr]
      · rw [h.events]
        by_cases hr : cfg.max_reset ≤ p.portResetInfo.resetCount <;> simp [hr]

theorem rebootIdle_effect (cfg : Config) (e : PassEnv) (p : PortInfo)
    (hidle : p.portRebootInfo.rebootState = .REBOOT_STATE_IDLE) :
    IdleEffect cfg p (rebootIdle cfg e p) := by
  obtain ⟨hpolled, hreboot, hstate, hevent, hcount, hevs⟩ := idleAuto_effect cfg e p
  have hen : (idleAuto cfg e p).1.enabled = p.enabled := by
    rw [PortInfo.enabled, PortInfo.enabled, hpolled]
  -- the automatic half touches nothing the manual half looks at
  have hman : startsManual (idleAuto cfg e p).1 = startsManual p := by
    rw [startsManual, startsManual, hen, hevent]; simp
  rw [rebootIdle_eq, idleManual, hman]
  cases hM : startsManual p with
  | false =>
      refine ⟨hpolled, ?_, hstate, ?_, ?_, ?_, ?_⟩
      · simp [hreboot hidle, idleStage, hM]
      · simp [hevent]
      · have := hM
        simp only [startsManual] at this
        cases hm : p.portResetInfo.event.has .MANUAL_RESTART <;> simp_all
      · simp [hcount, hM]
      · simp [hevs, hM]
  | true =>
      refine ⟨hpolled, ?_, hstate, ?_, ?_, ?_, ?_⟩
      · simp [manualResetHandler, hreboot hidle, idleStage, hM]
      · simp [manualResetHandler, hevent]
      · have := hM
        simp only [startsManual, Bool.and_eq_true] at this
        simp [manualResetHandler, this.1, this.2]
      · simp [manualResetHandler, hM]
      · simp [manualResetHandler, hevs, hM]

/-- What monitoring does to a port: the reset count may be cleared, and an automatic reboot may
be asked for. -/
structure MonitorEffect (cfg : Config) (p q : PortInfo) : Prop where
  reboot : q.portRebootInfo = p.portRebootInfo
  polled : q.portStateInfo = p.portStateInfo
  manual : q.portResetInfo.event.has .MANUAL_RESTART = p.portResetInfo.event.has .MANUAL_RESTART
  asked : (q.portResetInfo.state = p.portResetInfo.state ∧
      q.portResetInfo.event = p.portResetInfo.event) ∨
    (q.portResetInfo.state = .REBOOT_STATE ∧
      q.portResetInfo.event = p.portResetInfo.event.set .AUTO_RESTART)
  resetCount : q.portResetInfo.resetCount = (okBranch p).portResetInfo.resetCount

theorem okBranch_parts (p : PortInfo) :
    (okBranch p).portRebootInfo = p.portRebootInfo ∧
    (okBranch p).portStateInfo = p.portStateInfo ∧
    (okBranch p).portResetInfo.state = p.portResetInfo.state ∧
    (okBranch p).portResetInfo.event = p.portResetInfo.event := by
  unfold okBranch
  dsimp only
  repeat' split
  all_goals exact ⟨rfl, rfl, rfl, rfl⟩

theorem testErrorHandler_effect (cfg : Config) (p : PortInfo) :
    MonitorEffect cfg p (testErrorHandler cfg p) := by
  obtain ⟨hreboot, hpolled, hstate, hevent⟩ := okBranch_parts p
  -- a failed test asks for a reboot when the checks in a row are used up, else it only counts
  unfold testErrorHandler failBranch
  dsimp only
  split
  · exact ⟨hreboot, hpolled, by rw [hevent], .inl ⟨hstate, hevent⟩, rfl⟩
  · split
    · refine ⟨hreboot, hpolled, by simp [hevent], .inr ⟨rfl, ?_⟩, rfl⟩
      rw [← hevent]
    · exact ⟨hreboot, hpolled, by simp [hevent], .inl ⟨hstate, hevent⟩, rfl⟩

/-- A port in `IDLE_STATE` may go back to `REGULAR_STATE`. -/
theorem idleBranch_parts (p : PortInfo) (h : p.portResetInfo.state = .IDLE_STATE) :
    (idleBranch p).portRebootInfo = p.portRebootInfo ∧
    (idleBranch p).portStateInfo = p.portStateInfo ∧
    (idleBranch p).portResetInfo.state ≠ .REBOOT_STATE ∧
    (idleBranch p).portResetInfo.resetCount = p.portResetInfo.resetCount := by
  unfold idleBranch
  split
  · exact ⟨rfl, rfl, by simp, rfl⟩
  · exact ⟨rfl, rfl, by simp [h], rfl⟩

/-- **The end of a reboot**: the port is back in `REGULAR_STATE` with the sub-machine idle. -/
structure FinishEffect (p q : PortInfo) : Prop where
  polled : q.portStateInfo = p.portStateInfo
  state : q.portResetInfo.state = .REGULAR_STATE
  reboot : q.portRebootInfo = { p.portRebootInfo with
    rebootState := .REBOOT_STATE_IDLE
    rebootEvent := p.portRebootInfo.rebootEvent.clear .REBOOT_EVENT_TIMER_STOP }
  manual : q.portResetInfo.event.has .MANUAL_RESTART = false
  resetCount : q.portResetInfo.resetCount =
    if p.portResetInfo.event.has .MANUAL_RESTART then 0 else p.portResetInfo.resetCount

theorem rebootFinish_effect (e : PassEnv) (p : PortInfo) :
    FinishEffect p (rebootFinish e p) := by
  unfold rebootFinish
  cases hM : p.portResetInfo.event.has .MANUAL_RESTART <;> constructor <;> simp [hM]

theorem rebootTimer_parts (e : PassEnv) (p : PortInfo) :
    (rebootTimer e p).portStateInfo = p.portStateInfo ∧
    (rebootTimer e p).portResetInfo = p.portResetInfo ∧
    (rebootTimer e p).portConfigInfo = p.portConfigInfo := by
  unfold rebootTimer
  dsimp only
  repeat' split
  all_goals exact ⟨rfl, rfl, rfl⟩

theorem rebootArm_parts (e : PassEnv) (p : PortInfo) :
    (rebootArm e p).1.portStateInfo = p.portStateInfo ∧
    (rebootArm e p).1.portResetInfo = p.portResetInfo ∧
    (rebootArm e p).1.portRebootInfo.rebootState = p.portRebootInfo.rebootState := by
  unfold rebootArm
  split <;> exact ⟨rfl, rfl, rfl⟩

/-- After it the command is no longer waiting to be issued. -/
theorem rebootArm_issued (e : PassEnv) (p : PortInfo) :
    (rebootArm e p).1.portRebootInfo.rebootEvent.has .REBOOT_EVENT_START = false := by
  unfold rebootArm
  split
  · simp
  · rename_i hoff
    simpa using hoff

/-- The two stages a port can be in after its `POE_DOWN` stage. -/
theorem rebootTimer_stage (e : PassEnv) (p : PortInfo)
    (h : p.portRebootInfo.rebootState = .REBOOT_STATE_POE_DOWN) :
    (rebootTimer e p).portRebootInfo.rebootState ≠ .REBOOT_STATE_IDLE := by
  unfold rebootTimer
  dsimp only
  repeat' split
  all_goals simp [h]

end AutoRestart
