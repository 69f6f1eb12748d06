import TfPack.AutoRestart.Marks
import TfPack.AutoRestart.Carried
import TfPack.AutoRestart.AlarmTime

set_option autoImplicit false

/-! # The mark of the scheduled switch-off

`alarmHandler` sets `ERR_POE_DOWN` when it switches a port off and clears it when it switches the
port on again. The mark and the port part in two ways: a ping that is answered writes the error
word anew, mark and all, and the end of a reboot switches a marked port on without clearing the
mark, or reads its configuration again, which clears the mark of a port that stays off
(`alarmsAgree_iff`). The next command of an alarm repairs both.
-/

namespace AutoRestart

open FlagWord StepMachine

/-- The last command the alarms issued. -/
def lastAlarm (tr : List PortEvent) : Option PoeControl :=
  (tr.filterMap (fun
    | .poe .alarm c _ => some c
    | _ => none)).getLast?

/-- **The mark agrees with the commands**: it is set exactly while the last command of the
schedule is `POE_DOWN`, and then the last command of any handler is. -/
structure AlarmAgrees (p : PortInfo) (tr : List PortEvent) : Prop where
  scheduled : p.marked .ERR_POE_DOWN = true ↔ lastAlarm tr = some .POE_DOWN
  off : p.marked .ERR_POE_DOWN = true → ∃ i, lastPoe tr = some (i, .POE_DOWN)

/-- The next pass ends a reboot. -/
def PortInfo.endsReboot (p : PortInfo) : Bool :=
  p.portResetInfo.state == .REBOOT_STATE && p.portRebootInfo.rebootState == .REBOOT_STATE_POE_UP

/-- The configuration of the port after the end of a reboot: read again when another reboot
command came in meanwhile. -/
def configAtUp (e : PassEnv) (p : PortInfo) : PortConfigInfo :=
  if p.portResetInfo.event.has .MANUAL_RESTART then
    (getPortParam e.params true p).portConfigInfo
  else p.portConfigInfo

/-- One of the alarms of the configuration is due at the pass, or has been since before. -/
def alarmFires (e : PassEnv) (c : PortConfigInfo) : Bool :=
  c.alarm == .enable &&
    ((portTimeAlarm e.ctime e.upTime c.timeAlarmUp).status == .enable ||
      (portTimeAlarm e.ctime e.downTime c.timeAlarmDown).status == .enable)

/-- The step parts the mark from the commands: a ping of a marked port is answered, or a pass
ends the reboot of a marked port, switching it on or reading its configuration again, and no
alarm fires in the same pass. -/
def PortAction.parts (p : PortInfo) : PortAction → Bool
  | .runTestPing r => p.marked .ERR_POE_DOWN && pingPasses r p
  | .events e =>
      p.marked .ERR_POE_DOWN && p.endsReboot &&
        (p.enabled || p.portResetInfo.event.has .MANUAL_RESTART) && !alarmFires e (configAtUp e p)
  | _ => false

section Steps

variable {p q : PortInfo} {tr evs : List PortEvent}

theorem lastAlarm_append (tr tr' : List PortEvent) :
    lastAlarm (tr ++ tr') = (lastAlarm tr').or (lastAlarm tr) := by
  rw [lastAlarm, List.filterMap_append, List.getLast?_append]
  rfl

/-- A step that leaves the mark and issues no command keeps the agreement. -/
theorem AlarmAgrees.quiet (h : AlarmAgrees p tr)
    (hmark : q.marked .ERR_POE_DOWN = p.marked .ERR_POE_DOWN)
    (halarm : lastAlarm evs = none) (hpoe : lastPoe evs = none) :
    AlarmAgrees q (tr ++ evs) := by
  refine ⟨?_, ?_⟩
  · rw [hmark, lastAlarm_append, halarm]
    exact h.scheduled
  · rw [hmark, lastPoe_quiet hpoe]
    exact h.off

/-! ## The alarms -/

/-- The alarms serve the port in this pass. -/
def alarmServes (e : PassEnv) (p : PortInfo) : Bool :=
  alarmFires e p.portConfigInfo && p.portResetInfo.state != .REBOOT_STATE

/-- Alarms that do not serve the port leave the mark and issue no command. -/
theorem alarmPart_idle (e : PassEnv) (h : alarmServes e p = false) :
    (alarmPart e p).1.marked .ERR_POE_DOWN = p.marked .ERR_POE_DOWN ∧ (alarmPart e p).2 = [] := by
  unfold alarmPart alarmHandler
  split
  · rename_i halarm
    dsimp only
    split
    · exact ⟨rfl, rfl⟩
    · rename_i hstate
      have hstate' : p.portResetInfo.state ≠ .REBOOT_STATE := hstate
      simp only [alarmServes, alarmFires, halarm, beq_self_eq_true, Bool.true_and,
        Bool.and_eq_false_iff, Bool.or_eq_false_iff, beq_eq_false_iff_ne, bne_eq_false_iff_eq,
        hstate', or_false] at h
      have hdown : alarmDown e (portRunTestTime e.ctime e.upTime e.downTime p) =
          (portRunTestTime e.ctime e.upTime e.downTime p, []) := if_neg h.2
      have hup : alarmUp e (portRunTestTime e.ctime e.upTime e.downTime p) =
          (portRunTestTime e.ctime e.upTime e.downTime p, []) := if_neg h.1
      rw [hdown, hup]
      exact ⟨rfl, rfl⟩
  · exact ⟨rfl, rfl⟩

/-- The scheduled switch-on is the last word of the alarms. -/
theorem alarmUp_agrees (e : PassEnv) (h : p.portConfigInfo.timeAlarmUp.status = .enable) :
    AlarmAgrees (alarmUp e p).1 (tr ++ (alarmUp e p).2) := by
  have hup : alarmUp e p = ({ p with
      portConfigInfo.timeAlarmUp.status := .disable
      portConfigInfo.poe_state := 1
      portResetInfo.errorCode := p.portResetInfo.errorCode.clear .ERR_POE_DOWN },
      [.poe .alarm .POE_UP e.alarmTime]) := if_pos h
  rw [hup]
  constructor <;> simp [PortInfo.marked, lastAlarm]

/-- **Alarms that serve the port make the mark agree**, whatever it was before. -/
theorem alarmPart_serves (e : PassEnv) (h : alarmServes e p = true) :
    AlarmAgrees (alarmPart e p).1 (tr ++ (alarmPart e p).2) := by
  simp only [alarmServes, alarmFires, Bool.and_eq_true, Bool.or_eq_true, beq_iff_eq,
    bne_iff_ne] at h
  obtain ⟨⟨halarm, hfires⟩, hstate⟩ := h
  obtain ⟨q, hq⟩ : ∃ q, q = portRunTestTime e.ctime e.upTime e.downTime p := ⟨_, rfl⟩
  have hpart : alarmPart e p =
      ((alarmUp e (alarmDown e q).1).1, (alarmDown e q).2 ++ (alarmUp e (alarmDown e q).1).2) := by
    rw [alarmPart, if_pos halarm, alarmHandler, hq]
    exact if_neg hstate
  have hstatus : q.portConfigInfo.timeAlarmUp.status = .enable ∨
      q.portConfigInfo.timeAlarmDown.status = .enable := hq ▸ hfires
  -- both alarms may be due in one pass, and then the switch-on comes last
  have hsame : (alarmDown e q).1.portConfigInfo.timeAlarmUp = q.portConfigInfo.timeAlarmUp := by
    unfold alarmDown
    split <;> rfl
  rw [hpart]
  by_cases hup : q.portConfigInfo.timeAlarmUp.status = .enable
  · rw [← List.append_assoc]
    exact alarmUp_agrees e (by rw [hsame, hup])
  · -- only the switch-off is due
    have hdown : alarmDown e q = ({ q with
        portConfigInfo.timeAlarmDown.status := .disable
        portConfigInfo.poe_state := 0
        portConfigInfo.timeStr := getTimeDate e.ctime e.alarmTime
        portResetInfo.errorCode := q.portResetInfo.errorCode.set .ERR_POE_DOWN
        portResetInfo.totalResetCount := q.portResetInfo.totalResetCount + 1 },
        [.poe .alarm .POE_DOWN e.alarmTime]) := if_pos (hstatus.resolve_left hup)
    have hidle : alarmUp e (alarmDown e q).1 = ((alarmDown e q).1, []) :=
      if_neg (by rw [hsame]; exact hup)
    rw [hidle, hdown]
    constructor <;> simp [PortInfo.marked, lastAlarm, lastPoe]

/-- After the alarms the mark agrees exactly when they served the port or it agreed before. -/
theorem alarmPart_agrees_iff (e : PassEnv) :
    AlarmAgrees (alarmPart e p).1 (tr ++ (alarmPart e p).2) ↔
      alarmServes e p = true ∨ AlarmAgrees p tr := by
  cases hs : alarmServes e p with
  | true => simpa using alarmPart_serves e hs
  | false =>
      obtain ⟨hmark, hevs⟩ := alarmPart_idle e hs
      rw [hevs, List.append_nil]
      constructor
      · exact fun h => .inr ⟨hmark ▸ h.scheduled, hmark ▸ h.off⟩
      · rintro (h | h)
        · cases h
        · exact ⟨hmark ▸ h.scheduled, hmark ▸ h.off⟩

/-! ## The handlers -/

/-- Before the end of a reboot the handler of a pass issues `POE_DOWN` or nothing. -/
theorem stateHandler_commands (cfg : Config) (e : PassEnv) (h : p.endsReboot = false) :
    lastAlarm (stateHandler cfg e p).2 = none ∧
      (lastPoe (stateHandler cfg e p).2 = none ∨
        lastPoe (stateHandler cfg e p).2 = some (.reboot, .POE_DOWN)) := by
  unfold stateHandler
  cases hstate : p.portResetInfo.state with
  | IDLE_STATE => exact ⟨rfl, .inl rfl⟩
  | REGULAR_STATE => exact ⟨rfl, .inl rfl⟩
  | REBOOT_STATE =>
      unfold rebootHandler
      cases hstage : p.portRebootInfo.rebootState with
      | REBOOT_STATE_IDLE =>
          simp only [(rebootIdle_effect cfg e p hstage).events]
          cases startsAuto cfg p <;> cases startsManual p <;> exact ⟨rfl, .inl rfl⟩
      | REBOOT_STATE_INIT => exact ⟨rfl, .inl rfl⟩
      | REBOOT_STATE_POE_DOWN =>
          show lastAlarm (rebootArm e p).2 = none ∧ _
          unfold rebootArm
          split
          · exact ⟨rfl, .inr rfl⟩
          · exact ⟨rfl, .inl rfl⟩
      | REBOOT_STATE_POE_UP => simp [PortInfo.endsReboot, hstate, hstage] at h

theorem PortInfo.not_reloads_of_endsReboot (h : p.endsReboot = false) : p.reloads = false := by
  have hsplit : p.reloads = (p.endsReboot && p.portResetInfo.event.has .MANUAL_RESTART) := rfl
  rw [hsplit, h, Bool.false_and]

/-- Any other handler keeps the agreement. -/
theorem AlarmAgrees.stateHandler (h : AlarmAgrees p tr) (cfg : Config) (e : PassEnv)
    (hend : p.endsReboot = false) :
    AlarmAgrees (stateHandler cfg e p).1 (tr ++ (stateHandler cfg e p).2) := by
  have hmark : (AutoRestart.stateHandler cfg e p).1.marked .ERR_POE_DOWN =
      p.marked .ERR_POE_DOWN := by
    rw [stateHandler_marked rfl, PortInfo.not_reloads_of_endsReboot hend]
    simp
  -- the only command is the POE_DOWN of a reboot, which leaves a marked port off
  obtain ⟨halarm, hpoe | hpoe⟩ := stateHandler_commands cfg e hend
  · exact h.quiet hmark halarm hpoe
  · refine ⟨?_, fun _ => ⟨.reboot, ?_⟩⟩
    · rw [hmark, lastAlarm_append, halarm]
      exact h.scheduled
    · rw [lastPoe_append, hpoe]
      rfl

/-- What a pass that ends a reboot does. -/
theorem stateHandler_endsReboot (cfg : Config) (e : PassEnv) (h : p.endsReboot = true) :
    stateHandler cfg e p = (rebootFinish e p, rebootUpCommand e p ++ [.rebootDone]) := by
  simp only [PortInfo.endsReboot, Bool.and_eq_true, beq_iff_eq] at h
  simp only [stateHandler, h.1, rebootHandler, h.2]

/-- **The end of a reboot keeps the agreement exactly for a port without the mark, and for one
that is neither switched on nor configured anew.** -/
theorem rebootFinish_agrees_iff (h : AlarmAgrees p tr) (e : PassEnv) :
    AlarmAgrees (rebootFinish e p) (tr ++ (rebootUpCommand e p ++ [.rebootDone])) ↔
      ¬ (p.marked .ERR_POE_DOWN = true ∧
        (p.enabled = true ∨ p.portResetInfo.event.has .MANUAL_RESTART = true)) := by
  have hmark := rebootFinish_marked (f := .ERR_POE_DOWN) rfl p e
  have halarm : lastAlarm (rebootUpCommand e p ++ [.rebootDone]) = none := by
    unfold rebootUpCommand
    split <;> rfl
  constructor
  · rintro hafter ⟨hset, hon | hman⟩
    · -- the mark must be gone, since the port is switched on, but the schedule has not moved
      have hlast : lastAlarm (tr ++ (rebootUpCommand e p ++ [.rebootDone])) = some .POE_DOWN := by
        rw [lastAlarm_append, halarm]
        exact h.scheduled.mp hset
      obtain ⟨i, hi⟩ := hafter.off (hafter.scheduled.mpr hlast)
      rw [lastPoe_append] at hi
      simp [rebootUpCommand, hon, lastPoe] at hi
    · have hcleared : (rebootFinish e p).marked .ERR_POE_DOWN = false := by
        rw [hmark, hman]
        simp
      have hlast : lastAlarm (tr ++ (rebootUpCommand e p ++ [.rebootDone])) = some .POE_DOWN := by
        rw [lastAlarm_append, halarm]
        exact h.scheduled.mp hset
      rw [hafter.scheduled.mpr hlast] at hcleared
      cases hcleared
  · -- an unmarked port may be switched on; a marked one stays off and keeps its mark
    intro hkept
    cases hset : p.marked .ERR_POE_DOWN with
    | false =>
        have hunset : (rebootFinish e p).marked .ERR_POE_DOWN = false := by
          rw [hmark, hset]
          rfl
        refine ⟨?_, fun hset' => ?_⟩
        · rw [hunset, ← hset, lastAlarm_append, halarm]
          exact h.scheduled
        · rw [hunset] at hset'
          cases hset'
    | true =>
        simp only [hset, true_and, not_or, Bool.not_eq_true] at hkept
        refine h.quiet (by rw [hmark, hkept.2]; simp) halarm ?_
        rw [rebootUpCommand, hkept.1]
        rfl

/-- The configuration `getPortParam` leaves depends on no other part of the record. -/
theorem getPortParam_config_congr (e : ParamEnv) (b : Bool)
    (h : q.portConfigInfo = p.portConfigInfo) :
    (getPortParam e b q).portConfigInfo = (getPortParam e b p).portConfigInfo := by
  have htest : ∀ t,
      (applyTest e (zeroedPort e b q) t).portConfigInfo =
        (applyTest e (zeroedPort e b p) t).portConfigInfo ∧
      (applyTest e (zeroedPort e b q) t).portResetInfo.errorCode =
        (applyTest e (zeroedPort e b p) t).portResetInfo.errorCode := by
    intro t
    cases t <;> simp [applyTest, zeroedPort, setResetZeroValue, h]
  -- what comes after the test settings looks at the configuration and the error word only
  have halarm : ∀ {r s : PortInfo}, r.portConfigInfo = s.portConfigInfo →
      r.portResetInfo.errorCode = s.portResetInfo.errorCode →
      (setErrorHandler (applyAlarm e r)).portConfigInfo =
        (setErrorHandler (applyAlarm e s)).portConfigInfo := by
    intro r s hconfig herr
    have hreset : ∀ u : PortInfo, (applyAlarm e u).portResetInfo = u.portResetInfo := by
      intro u
      unfold applyAlarm
      split <;> rfl
    have hsame : (applyAlarm e r).portConfigInfo = (applyAlarm e s).portConfigInfo := by
      simp only [applyAlarm, hconfig]
      split
      · rfl
      · exact hconfig
    simp only [setErrorHandler, hreset, herr]
    split
    · simp only [hsame]
    · exact hsame
  exact halarm (htest _).1 (htest _).2

theorem rebootFinish_config (e : PassEnv) :
    (rebootFinish e p).portConfigInfo = configAtUp e p := by
  unfold rebootFinish configAtUp
  dsimp only
  split
  · exact getPortParam_config_congr _ _ rfl
  · rfl

/-- A pass keeps the agreement exactly when it does not part the mark from the commands. -/
theorem eventsHandler_agrees_iff (h : AlarmAgrees p tr) (cfg : Config) (e : PassEnv) :
    AlarmAgrees (eventsHandler cfg e p).1 (tr ++ (eventsHandler cfg e p).2) ↔
      (PortAction.events e).parts p = false := by
  unfold eventsHandler
  rw [← List.append_assoc, alarmPart_agrees_iff]
  -- the alarms look at the record that the handler has left
  cases hend : p.endsReboot with
  | false => simp [PortAction.parts, hend, h.stateHandler cfg e hend]
  | true =>
      have hserves : alarmServes e (rebootFinish e p) = alarmFires e (configAtUp e p) := by
        rw [alarmServes, rebootFinish_config, (rebootFinish_effect e p).state]
        simp
      rw [stateHandler_endsReboot cfg e hend, rebootFinish_agrees_iff h, hserves]
      simp only [PortAction.parts, hend]
      cases alarmFires e (configAtUp e p) <;> cases p.marked .ERR_POE_DOWN <;>
        cases p.enabled <;> cases p.portResetInfo.event.has .MANUAL_RESTART <;> decide

/-- A poll leaves the mark alone. -/
theorem getPortAndPoeState_alarmMark (r : PollReply) :
    (getPortAndPoeState r p).1.marked .ERR_POE_DOWN = p.marked .ERR_POE_DOWN := by
  unfold getPortAndPoeState
  cases hs : readsEnable r.state <;> cases hp : readsEnable r.poe <;>
    simp [PortInfo.marked, pollDisabled]

/-- The events of a test are no commands. -/
theorem portStep_test_commands (cfg : Config) {a : PortAction} (ha : a.isTest = true) :
    lastAlarm (portStep cfg p a).2 = none ∧ lastPoe (portStep cfg p a).2 = none := by
  have hpassed : ∀ b, lastAlarm (passedEvent b) = none ∧ lastPoe (passedEvent b) = none := by
    intro b
    cases b <;> exact ⟨rfl, rfl⟩
  cases a with
  | runTestDisable => exact ⟨rfl, rfl⟩
  | runTestLink o => exact hpassed _
  | runTestPing r => exact hpassed _
  | runTestSpeed o t => exact hpassed _
  | events e => simp [PortAction.isTest] at ha
  | poll r => simp [PortAction.isTest] at ha
  | reboot => simp [PortAction.isTest] at ha

/-- A test keeps the agreement exactly when it is not an answered ping of a marked port. -/
theorem portStep_test_agrees_iff (h : AlarmAgrees p tr) (cfg : Config) {a : PortAction}
    (ha : a.isTest = true) :
    AlarmAgrees (portStep cfg p a).1 (tr ++ (portStep cfg p a).2) ↔
      (p.marked .ERR_POE_DOWN && a.answered p) = false := by
  have hmark := portStep_test_marked (f := .ERR_POE_DOWN) rfl p cfg ha
  obtain ⟨halarm, hpoe⟩ := portStep_test_commands (p := p) cfg ha
  cases hset : p.marked .ERR_POE_DOWN && a.answered p with
  | false =>
      have hkept : (portStep cfg p a).1.marked .ERR_POE_DOWN = p.marked .ERR_POE_DOWN := by
        rw [hmark]
        cases hm : p.marked .ERR_POE_DOWN <;> simp_all
      simpa using h.quiet hkept halarm hpoe
  | true =>
      simp only [Bool.and_eq_true] at hset
      simp only [Bool.true_eq_false, iff_false]
      -- the schedule has not moved, so the mark that the answered ping cleared is missed
      intro hafter
      have hlast : lastAlarm (tr ++ (portStep cfg p a).2) = some .POE_DOWN := by
        rw [lastAlarm_append, halarm]
        exact h.scheduled.mp hset.1
      have hcleared := hafter.scheduled.mpr hlast
      rw [hmark, hset.2] at hcleared
      simp at hcleared

/-- **One step keeps the agreement exactly when it does not part the mark from the
commands.** -/
theorem portStep_agrees_iff (h : AlarmAgrees p tr) (cfg : Config) (a : PortAction) :
    AlarmAgrees (portStep cfg p a).1 (tr ++ (portStep cfg p a).2) ↔ a.parts p = false := by
  cases a with
  | events e => exact eventsHandler_agrees_iff h cfg e
  | poll r =>
      have hkept : AlarmAgrees (getPortAndPoeState r p).1 (tr ++ []) :=
        h.quiet (getPortAndPoeState_alarmMark r) rfl rfl
      simpa [PortAction.parts, portStep] using hkept
  | reboot =>
      have hquiet : lastAlarm (acceptedEvent (cmdRebootHandler p).2) = none ∧
          lastPoe (acceptedEvent (cmdRebootHandler p).2) = none := by
        unfold acceptedEvent
        split <;> exact ⟨rfl, rfl⟩
      simpa [PortAction.parts, portStep] using
        h.quiet (cmdRebootHandler_marked p) hquiet.1 hquiet.2
  | runTestPing r => exact portStep_test_agrees_iff h cfg rfl
  | runTestDisable | runTestLink | runTestSpeed =>
      rw [portStep_test_agrees_iff h cfg rfl]
      simp [PortAction.parts, PortAction.answered]

end Steps

/-! ## Runs of the table -/

/-- The marks of all ports agree with their commands. -/
def AlarmsAgree (s : Table) (tr : List (Fin NUM_PORTS × PortEvent)) : Prop :=
  ∀ i, AlarmAgrees (s i) (proj i tr)

/-- The step taken at a point of a run of the table parts a mark from the commands. -/
def Parts (v : TableVisit) : Prop := v.act.2.parts (v.state v.act.1) = true

theorem alarmAgrees_init (e : ParamEnv) : AlarmAgrees (initPortInfo e) [] := by
  have hunset : (initPortInfo e).marked .ERR_POE_DOWN = false := getPortParam_marked rfl _ _ _
  constructor <;> simp [hunset, lastAlarm]

/-- **The marks agree with the commands throughout a run exactly when none of its steps parts
them.** -/
theorem alarmsAgree_iff {cfg : Config} {e : Fin NUM_PORTS → ParamEnv} {vs : List TableVisit}
    {tr : List (Fin NUM_PORTS × PortEvent)} {s : Table}
    (h : Exec (tableMachine cfg) (initTable e) vs tr s) :
    ((∀ v ∈ vs, AlarmsAgree v.state v.past) ∧ AlarmsAgree s tr) ↔ ∀ v ∈ vs, ¬ Parts v := by
  refine h.pi_inv_iff AlarmAgrees (fun p a => ¬ a.parts p = true)
    (fun i => alarmAgrees_init (e i)) ?_
  intro p tr a q evs hagrees hstep
  obtain ⟨rfl, rfl⟩ := portMachine_step hstep
  rw [portStep_agrees_iff hagrees, Bool.not_eq_true]

/-- A port with a ping test that is switched off at eight in the morning. -/
def scheduledParams : ParamEnv where
  reply := ⟨"\"state\": \"ping\", \"alarm\": \"enable\"", fun key =>
    if key = "host" then some "192.168.0.5"
    else if key = "timeDown" then some "8:00"
    else if key = "timeUp" then some "9:00"
    else none⟩
  now := 0
  ctime := utc
  strayErrorCode := false

/-- The pass at eight, which switches the port off. -/
def switchOffPass : PortAction :=
  .events { passAt 28800 with ctime := utc, params := scheduledParams }

/-- A port is switched off by the schedule. -/
theorem alarmsAgree_iff_switchedOff : ∃ vs tr s,
    Exec (tableMachine ⟨3, 2⟩) (initTable fun _ => scheduledParams) vs tr s ∧
    vs.map (fun v => v.act) = [(0, .poll enablingPoll), (0, switchOffPass)] ∧
    tr = [(0, .poe .alarm .POE_DOWN 28800)] ∧
    (((∀ v ∈ vs, AlarmsAgree v.state v.past) ∧ AlarmsAgree s tr) ↔ ∀ v ∈ vs, ¬ Parts v) := by
  obtain ⟨vs, hvs, hact⟩ := Exec.replay (tableMachine ⟨3, 2⟩) (initTable fun _ => scheduledParams)
    [(0, .poll enablingPoll), (0, switchOffPass)] rfl
  exact ⟨vs, _, _, hvs, hact, by decide, alarmsAgree_iff hvs⟩

/-- Then its host answers a ping: the mark is gone, the port still switched off by the
schedule. -/
theorem answered_ping_clears_mark : ¬ ∀ vs tr s,
    Exec (tableMachine ⟨3, 2⟩) (initTable fun _ => scheduledParams) vs tr s →
      AlarmsAgree s tr := by
  intro h
  obtain ⟨vs, hvs, -⟩ := Exec.replay (tableMachine ⟨3, 2⟩) (initTable fun _ => scheduledParams)
    [(0, .poll enablingPoll), (0, switchOffPass), (0, .runTestLink "up\n"),
      (0, .runTestPing (some 1))] rfl
  have hset := (h _ _ _ hvs 0).scheduled.mpr (by decide)
  exact absurd hset (by decide)

end AutoRestart
