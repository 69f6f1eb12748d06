import TfPack.AutoRestart.System

set_option autoImplicit false

/-! # A port in `REBOOT_STATE` is never left without a pending step

A port is *parked* when it is in `REBOOT_STATE`, its reboot sub-machine is idle and neither
restart event is pending: no pass of `eventsHandler` moves it again, the tests no longer count
for it, and a reboot command is answered with status `2`. Every branch that consumes the last
restart event also leaves `REBOOT_STATE` or starts the sub-machine, except one: a reboot command
for a port already in `REBOOT_STATE` withdraws the pending manual reboot and leaves the state as
it is (`parked_step`).
-/

namespace AutoRestart

open FlagWord StepMachine

/-- In `REBOOT_STATE`, with the sub-machine idle and no restart event pending. -/
def PortInfo.parked (p : PortInfo) : Bool :=
  p.portResetInfo.state == .REBOOT_STATE &&
    p.portRebootInfo.rebootState == .REBOOT_STATE_IDLE &&
    !p.portResetInfo.event.has .AUTO_RESTART && !p.portResetInfo.event.has .MANUAL_RESTART

/-- A reboot command for this port withdraws its only pending reboot. -/
def PortInfo.onlyManual (p : PortInfo) : Bool :=
  p.portResetInfo.state == .REBOOT_STATE &&
    p.portRebootInfo.rebootState == .REBOOT_STATE_IDLE &&
    !p.portResetInfo.event.has .AUTO_RESTART

/-- The step withdraws the only pending reboot of the port. -/
def PortAction.withdraws (p : PortInfo) : PortAction → Bool
  | .reboot => p.onlyManual
  | _ => false

section Steps

variable {p q : PortInfo}

theorem PortInfo.not_parked_of_state (h : p.portResetInfo.state ≠ .REBOOT_STATE) :
    p.parked = false := by
  simp [PortInfo.parked, h]

theorem PortInfo.not_parked_of_stage (h : p.portRebootInfo.rebootState ≠ .REBOOT_STATE_IDLE) :
    p.parked = false := by
  simp [PortInfo.parked, h]

theorem TestFrame.parked (h : TestFrame p q) : q.parked = p.parked := by
  simp only [PortInfo.parked, h.state, h.reboot, h.auto, h.manual]

/-- Monitoring asks for an automatic reboot whenever it enters `REBOOT_STATE`. -/
theorem testErrorHandler_not_parked (cfg : Config)
    (h : p.portResetInfo.state = .REGULAR_STATE) : (testErrorHandler cfg p).parked = false := by
  rcases (testErrorHandler_effect cfg p).asked with ⟨hstate, -⟩ | ⟨-, hevent⟩
  · exact PortInfo.not_parked_of_state (by simp [hstate, h])
  · simp [PortInfo.parked, hevent]

/-- The idle stage uses up a restart event only by starting a reboot or leaving
`REBOOT_STATE`. -/
theorem rebootIdle_not_parked (cfg : Config) (e : PassEnv)
    (hstate : p.portResetInfo.state = .REBOOT_STATE)
    (hidle : p.portRebootInfo.rebootState = .REBOOT_STATE_IDLE) (hp : p.parked = false) :
    (rebootIdle cfg e p).1.parked = false := by
  have h := rebootIdle_effect cfg e p hidle
  have hpend : p.portResetInfo.event.has .AUTO_RESTART = true ∨
      p.portResetInfo.event.has .MANUAL_RESTART = true := by
    simpa [PortInfo.parked, hstate, hidle, or_iff_not_imp_left] using hp
  cases hs : shutsDown cfg p with
  | true => exact PortInfo.not_parked_of_state (by simp [h.state, hs])
  | false =>
      cases hstart : startsAuto cfg p || startsManual p with
      | true => exact PortInfo.not_parked_of_stage (by simp [h.reboot, idleStage, hstart])
      | false =>
          -- neither started nor shut down: the automatic event was not there, and the manual
          -- one waits for the port to be enabled
          simp only [startsAuto, startsManual, shutsDown, Bool.or_eq_false_iff] at hs hstart
          have hauto : p.portResetInfo.event.has .AUTO_RESTART = false := by
            by_contra ha
            simp only [Bool.not_eq_false] at ha
            simp only [ha, Bool.true_and, decide_eq_false_iff_not, Bool.not_eq_false',
              decide_eq_true_eq] at hs hstart
            exact hs hstart.1
          have hman : p.portResetInfo.event.has .MANUAL_RESTART = true := by
            simpa [hauto] using hpend
          have hoff : p.enabled = false := by simpa [hman] using hstart.2
          simp [PortInfo.parked, h.manual, hman, hoff]

theorem rebootHandler_not_parked (cfg : Config) (e : PassEnv)
    (hstate : p.portResetInfo.state = .REBOOT_STATE) (hp : p.parked = false) :
    (rebootHandler cfg e p).1.parked = false := by
  unfold rebootHandler
  cases hr : p.portRebootInfo.rebootState with
  | REBOOT_STATE_IDLE => exact rebootIdle_not_parked cfg e hstate hr hp
  | REBOOT_STATE_INIT => exact PortInfo.not_parked_of_stage (by simp [rebootInit])
  | REBOOT_STATE_POE_DOWN =>
      have harm : (rebootArm e p).1.portRebootInfo.rebootState = .REBOOT_STATE_POE_DOWN := by
        rw [(rebootArm_parts e p).2.2, hr]
      exact PortInfo.not_parked_of_stage (rebootTimer_stage e _ harm)
  | REBOOT_STATE_POE_UP =>
      have hend := (rebootFinish_effect e p).state
      exact PortInfo.not_parked_of_state (by simp [hend])

theorem eventsHandler_not_parked (cfg : Config) (e : PassEnv) (hp : p.parked = false) :
    (eventsHandler cfg e p).1.parked = false := by
  rw [(eventsHandler_frame cfg e p).parked]
  unfold stateHandler
  cases hstate : p.portResetInfo.state with
  | IDLE_STATE => exact PortInfo.not_parked_of_state (idleBranch_parts p hstate).2.2.1
  | REGULAR_STATE => exact testErrorHandler_not_parked cfg hstate
  | REBOOT_STATE => exact rebootHandler_not_parked cfg e hstate hp

theorem getPortAndPoeState_not_parked (r : PollReply) (hp : p.parked = false) :
    (getPortAndPoeState r p).1.parked = false := by
  have h := getPortAndPoeState_effect r p
  cases hr : r.enables with
  | true =>
      have hstate : (getPortAndPoeState r p).1.portResetInfo.state = p.portResetInfo.state := by
        simp [h.state, hr]
      simpa only [PortInfo.parked, hstate, h.reboot, h.event] using hp
  | false => exact PortInfo.not_parked_of_state (by simp [h.state, hr])

/-- A reboot command parks the port exactly when it withdraws its only pending reboot. -/
theorem cmdRebootHandler_parked (hp : p.parked = false) :
    (cmdRebootHandler p).1.parked = p.onlyManual := by
  unfold cmdRebootHandler
  by_cases hs : p.portResetInfo.state = .REBOOT_STATE
  · simp [hs, PortInfo.parked, PortInfo.onlyManual]
  · have honly : p.onlyManual = false := by simp [PortInfo.onlyManual, hs]
    rw [if_pos hs, honly]
    split
    · simp [PortInfo.parked]
    · exact hp

/-- **One step parks a port exactly when it withdraws the port's only pending reboot.** -/
theorem parked_step (cfg : Config) (a : PortAction) (hp : p.parked = false) :
    (portStep cfg p a).1.parked = a.withdraws p := by
  cases a with
  | events e => exact eventsHandler_not_parked cfg e hp
  | poll r => exact getPortAndPoeState_not_parked r hp
  | reboot => exact cmdRebootHandler_parked hp
  | runTestDisable | runTestLink | runTestPing | runTestSpeed =>
      rw [(portStep_test_frame cfg p rfl).parked, hp]
      rfl

end Steps

/-! ## Runs of the table -/

/-- The step taken at a point of a run of the table withdraws the only pending reboot of its
port. -/
def Withdraws (v : TableVisit) : Prop :=
  v.act.2.withdraws (v.state v.act.1) = true

/-- No port of the table is parked. -/
def NoneParked (s : Table) : Prop := ∀ i, (s i).parked = false

theorem noneParked_init (e : Fin NUM_PORTS → ParamEnv) : NoneParked (initTable e) := by
  intro i
  exact PortInfo.not_parked_of_state (by simp [initTable])

/-- **A run parks no port exactly when none of its reboot commands withdraws the only pending
reboot of its port.** -/
theorem noneParked_iff {cfg : Config} {e : Fin NUM_PORTS → ParamEnv}
    {vs : List TableVisit}
    {tr : List (Fin NUM_PORTS × PortEvent)} {s : Table}
    (h : Exec (tableMachine cfg) (initTable e) vs tr s) :
    ((∀ v ∈ vs, NoneParked v.state) ∧ NoneParked s) ↔ ∀ v ∈ vs, ¬ Withdraws v := by
  refine h.pi_inv_iff (fun (p : PortInfo) _ => p.parked = false)
    (fun p a => ¬ a.withdraws p = true) (noneParked_init e) ?_
  intro p tr a q evs hp hstep
  rw [(portMachine_step hstep).1, parked_step cfg a hp, Bool.not_eq_true]

/-- Port 1 is enabled and its reboot command accepted: no port is parked, and no command has
been withdrawn. -/
theorem noneParked_iff_accepted : ∃ vs tr s,
    Exec (tableMachine ⟨3, 2⟩) (initTable fun _ => bareParams) vs tr s ∧
    vs.map (fun v => v.act) = [(0, .poll enablingPoll), (0, .reboot)] ∧
    (((∀ v ∈ vs, NoneParked v.state) ∧ NoneParked s) ↔ ∀ v ∈ vs, ¬ Withdraws v) := by
  obtain ⟨vs, hvs, hact⟩ := Exec.replay (tableMachine ⟨3, 2⟩) (initTable fun _ => bareParams)
    [(0, .poll enablingPoll), (0, .reboot)] rfl
  exact ⟨vs, _, _, hvs, hact, noneParked_iff hvs⟩

/-- A second reboot command, before the next pass, parks port 1. -/
theorem withdrawn_reboot_parks : ¬ ∀ vs tr s,
    Exec (tableMachine ⟨3, 2⟩) (initTable fun _ => bareParams) vs tr s → NoneParked s := by
  intro h
  obtain ⟨vs, hvs, -⟩ := Exec.replay (tableMachine ⟨3, 2⟩) (initTable fun _ => bareParams)
    [(0, .poll enablingPoll), (0, .reboot), (0, .reboot)] rfl
  exact absurd (h _ _ _ hvs 0) (by decide)

end AutoRestart
