import TfPack.AutoRestart.System

set_option autoImplicit false

/-! # A counted reboot is carried through

`autoResetHandler` and `manualResetHandler` count a reboot and hand it to the reboot
sub-machine, which only moves while the port is in `REBOOT_STATE`. Seen from outside, a port
shows rounds of three marks, the count, the `POE_DOWN` and the completion, and the stage of the
sub-machine says how much of the last round is still missing (`CarriedThrough`).

Three things take a port out of the pattern (`PortAction.disturbs`): a disabling poll in the
middle of a reboot moves the port to `IDLE_STATE` and leaves the sub-machine where it is; a
manual reboot handled in the same pass as an automatic one counts twice, or starts after the port
was shut down; and a port that is disabled at the `POE_UP` stage is not switched on.
-/

namespace AutoRestart

open FlagWord StepMachine

/-! ## Rounds -/

/-- The marks of a round. -/
inductive Mark
  | counted | down | done
  deriving DecidableEq, Repr

/-- The mark of an event, if it is one. -/
def PortEvent.mark : PortEvent → Option Mark
  | .autoReset | .manualReset => some .counted
  | .poe .reboot .POE_DOWN _ => some .down
  | .rebootDone => some .done
  | _ => none

/-- The marks of a trace. -/
def marks (tr : List PortEvent) : List Mark := tr.filterMap PortEvent.mark

/-- `n` whole rounds. -/
def rounds (n : Nat) : List Mark := (List.replicate n [Mark.counted, .down, .done]).flatten

/-- The part of a round the sub-machine has gone through. -/
def begun (r : PortRebootInfo) : List Mark :=
  match r.rebootState with
  | .REBOOT_STATE_IDLE => []
  | .REBOOT_STATE_INIT => [.counted]
  | .REBOOT_STATE_POE_DOWN =>
      if r.rebootEvent.has .REBOOT_EVENT_START then [.counted] else [.counted, .down]
  | .REBOOT_STATE_POE_UP => [.counted, .down]

/-- The last PoE command of a trace, with the handler that issued it. -/
def lastPoe (tr : List PortEvent) : Option (Issuer × PoeControl) :=
  (tr.filterMap (fun
    | .poe i c _ => some (i, c)
    | _ => none)).getLast?

/-- How many stages of a reboot are still to come. -/
def stagesLeft : RebootState → Nat
  | .REBOOT_STATE_INIT => 3
  | .REBOOT_STATE_POE_DOWN => 2
  | .REBOOT_STATE_POE_UP => 1
  | .REBOOT_STATE_IDLE => 0

/-- **A port carries its reboots through**: a reboot in progress is driven (`inReboot`), by every
pass that finds the off-time over (`advances`); every counted reboot has had its `POE_DOWN` and
its completion, or is the one in progress (`marked`); and a port last switched off by a reboot
is in the middle of it (`notLeftOff`). -/
structure CarriedThrough (p : PortInfo) (tr : List PortEvent) : Prop where
  inReboot : p.portRebootInfo.rebootState ≠ .REBOOT_STATE_IDLE →
    p.portResetInfo.state = .REBOOT_STATE
  advances : p.portRebootInfo.rebootState ≠ .REBOOT_STATE_IDLE → ∀ cfg e,
    (eventsHandler cfg e p).1.portRebootInfo.rebootTimeStart.toNat ≤ e.testTime →
    stagesLeft (eventsHandler cfg e p).1.portRebootInfo.rebootState <
      stagesLeft p.portRebootInfo.rebootState
  marked : ∃ n, marks tr = rounds n ++ begun p.portRebootInfo
  notLeftOff : lastPoe tr = some (.reboot, .POE_DOWN) → p.enabled = true →
    p.portResetInfo.errorCode.has .ERR_POE_DOWN = false →
    p.portRebootInfo.rebootState ≠ .REBOOT_STATE_IDLE

/-- The step disturbs the reboot of the port `p`. -/
def PortAction.disturbs (p : PortInfo) : PortAction → Bool
  | .poll r => !r.enables && p.portRebootInfo.rebootState != .REBOOT_STATE_IDLE
  | .events _ =>
      p.portResetInfo.state == .REBOOT_STATE &&
        ((p.portRebootInfo.rebootState == .REBOOT_STATE_IDLE &&
            p.portResetInfo.event.has .AUTO_RESTART && startsManual p) ||
          (p.portRebootInfo.rebootState == .REBOOT_STATE_POE_UP && !p.enabled))
  | _ => false

section Traces

theorem marks_append (tr tr' : List PortEvent) : marks (tr ++ tr') = marks tr ++ marks tr' :=
  List.filterMap_append

theorem rounds_succ (n : Nat) : rounds (n + 1) = rounds n ++ [.counted, .down, .done] := by
  rw [rounds, List.replicate_succ', List.flatten_append]
  rfl

/-- The last command after more events. -/
theorem lastPoe_append (tr tr' : List PortEvent) :
    lastPoe (tr ++ tr') = (lastPoe tr').or (lastPoe tr) := by
  rw [lastPoe, List.filterMap_append, List.getLast?_append]
  rfl

theorem marks_alarmPart (e : PassEnv) (p : PortInfo) : marks (alarmPart e p).2 = [] :=
  filterMap_alarmPart (fun _ _ => rfl) e p

/-- After the alarms the last command is one of theirs, or the one before them. -/
theorem lastPoe_alarmPart (e : PassEnv) (p : PortInfo) (tr : List PortEvent)
    (h : lastPoe (tr ++ (alarmPart e p).2) = some (.reboot, .POE_DOWN)) :
    lastPoe tr = some (.reboot, .POE_DOWN) := by
  rw [lastPoe_append] at h
  cases hl : lastPoe (alarmPart e p).2 with
  | none => simpa [hl] using h
  | some ic =>
      obtain ⟨i, c⟩ := ic
      have hmem := List.mem_of_getLast? hl
      simp only [List.mem_filterMap] at hmem
      obtain ⟨ev, hev, hic⟩ := hmem
      obtain ⟨c', rfl⟩ := alarmPart_events e p ev hev
      rw [hl] at h
      simp_all

end Traces

/-! ## Progress -/

section Progress

variable {p : PortInfo}

theorem rebootTimer_advances {e : PassEnv}
    (hover : (rebootTimer e p).portRebootInfo.rebootTimeStart.toNat ≤ e.testTime) :
    (rebootTimer e p).portRebootInfo.rebootState = .REBOOT_STATE_POE_UP := by
  have hsame : (rebootTimer e p).portRebootInfo.rebootTimeStart =
      p.portRebootInfo.rebootTimeStart := by
    unfold rebootTimer
    dsimp only
    repeat' split
    all_goals rfl
  rw [hsame] at hover
  simp [rebootTimer, hover]

/-- **A pass over a port in `REBOOT_STATE` takes its reboot one stage on**, once the off-time is
over. -/
theorem eventsHandler_advances (cfg : Config) (e : PassEnv)
    (hstate : p.portResetInfo.state = .REBOOT_STATE)
    (hstage : p.portRebootInfo.rebootState ≠ .REBOOT_STATE_IDLE)
    (hover : (eventsHandler cfg e p).1.portRebootInfo.rebootTimeStart.toNat ≤ e.testTime) :
    stagesLeft (eventsHandler cfg e p).1.portRebootInfo.rebootState <
      stagesLeft p.portRebootInfo.rebootState := by
  rw [(eventsHandler_frame cfg e p).reboot] at hover ⊢
  simp only [stateHandler, hstate, rebootHandler] at hover ⊢
  cases hr : p.portRebootInfo.rebootState with
  | REBOOT_STATE_IDLE => exact absurd hr hstage
  | REBOOT_STATE_INIT => exact Nat.lt_add_one 2
  | REBOOT_STATE_POE_DOWN =>
      rw [hr] at hover
      dsimp only at hover ⊢
      rw [rebootTimer_advances hover]
      exact Nat.lt_add_one 1
  | REBOOT_STATE_POE_UP =>
      have hend := (rebootFinish_effect e p).reboot
      dsimp only
      rw [hend]
      exact Nat.lt_add_one 0

end Progress

/-! ## The invariant -/

/-- What a run without a disturbing step keeps. -/
structure CarryInv (p : PortInfo) (tr : List PortEvent) : Prop where
  inReboot : p.portRebootInfo.rebootState ≠ .REBOOT_STATE_IDLE →
    p.portResetInfo.state = .REBOOT_STATE
  marked : ∃ n, marks tr = rounds n ++ begun p.portRebootInfo
  off : lastPoe tr = some (.reboot, .POE_DOWN) →
    p.portRebootInfo.rebootState = .REBOOT_STATE_POE_DOWN ∨
      p.portRebootInfo.rebootState = .REBOOT_STATE_POE_UP

section Invariant

variable {p q : PortInfo} {tr : List PortEvent}

theorem CarryInv.carriedThrough (h : CarryInv p tr) : CarriedThrough p tr where
  inReboot := h.inReboot
  advances hstage cfg e hover := eventsHandler_advances cfg e (h.inReboot hstage) hstage hover
  marked := h.marked
  notLeftOff hlast _ _ := by rcases h.off hlast with hs | hs <;> simp [hs]

/-- A port that is not in `REBOOT_STATE` has no reboot in progress. -/
theorem CarryInv.idle (h : CarryInv p tr) (hs : p.portResetInfo.state ≠ .REBOOT_STATE) :
    p.portRebootInfo.rebootState = .REBOOT_STATE_IDLE := by
  by_contra hstage
  exact hs (h.inReboot hstage)

/-- A step that leaves the reboot alone keeps the invariant, as long as it does not take a port
with a reboot in progress out of `REBOOT_STATE`. -/
theorem CarryInv.same (h : CarryInv p tr) (hreboot : q.portRebootInfo = p.portRebootInfo)
    (hstate : p.portRebootInfo.rebootState ≠ .REBOOT_STATE_IDLE →
      p.portResetInfo.state = .REBOOT_STATE → q.portResetInfo.state = .REBOOT_STATE) :
    CarryInv q tr where
  inReboot hstage := by
    rw [hreboot] at hstage
    exact hstate hstage (h.inReboot hstage)
  marked := hreboot ▸ h.marked
  off := hreboot ▸ h.off

theorem CarryInv.alarm (h : CarryInv p tr) (e : PassEnv) :
    CarryInv (alarmPart e p).1 (tr ++ (alarmPart e p).2) := by
  have hframe := alarmPart_frame e p
  -- an alarm command is no mark of a reboot, and can only replace its POE_DOWN as the last one
  obtain ⟨n, hn⟩ := h.marked
  refine ⟨?_, ⟨n, ?_⟩, ?_⟩
  · rw [hframe.reboot, hframe.state]
    exact h.inReboot
  · rw [marks_append, marks_alarmPart, List.append_nil, hframe.reboot, hn]
  · rw [hframe.reboot]
    exact fun hlast => h.off (lastPoe_alarmPart e p tr hlast)

/-- The events of a step that are not PoE commands. -/
theorem lastPoe_quiet {evs : List PortEvent} (h : lastPoe evs = none) :
    lastPoe (tr ++ evs) = lastPoe tr := by
  rw [lastPoe_append, h]
  rfl

theorem CarryInv.idleStage (h : CarryInv p tr) (cfg : Config) (e : PassEnv)
    (hstate : p.portResetInfo.state = .REBOOT_STATE)
    (hidle : p.portRebootInfo.rebootState = .REBOOT_STATE_IDLE)
    (hone : p.portResetInfo.event.has .AUTO_RESTART = true → startsManual p = false) :
    CarryInv (rebootIdle cfg e p).1 (tr ++ (rebootIdle cfg e p).2) := by
  have heff := rebootIdle_effect cfg e p hidle
  obtain ⟨n, hn⟩ := h.marked
  have hbegun : begun p.portRebootInfo = [] := by simp [begun, hidle]
  have hquiet : lastPoe (rebootIdle cfg e p).2 = none := by
    rw [heff.events]
    cases startsAuto cfg p <;> cases startsManual p <;> rfl
  have hoff : lastPoe tr ≠ some (.reboot, .POE_DOWN) := by
    intro hlast
    rcases h.off hlast with hs | hs <;> simp [hidle] at hs
  refine ⟨fun hstage => ?_, ⟨n, ?_⟩, fun hlast => absurd (lastPoe_quiet hquiet ▸ hlast) hoff⟩
  · -- a started reboot excludes the shutdown of the port
    have hkept : shutsDown cfg p = false := by
      rw [heff.reboot] at hstage
      simp only [AutoRestart.idleStage] at hstage
      cases ha : p.portResetInfo.event.has .AUTO_RESTART with
      | false => simp [shutsDown, ha]
      | true =>
          simp only [hone ha, startsAuto, ha, Bool.true_and, Bool.or_false] at hstage
          simp only [shutsDown, ha, Bool.true_and]
          by_contra hle
          simp [hle] at hstage
    rw [heff.state, hkept]
    exact hstate
  · rw [marks_append, hn, hbegun, List.append_nil, heff.events, heff.reboot]
    cases ha : startsAuto cfg p with
    | false =>
        cases hm : startsManual p <;>
          simp [begun, AutoRestart.idleStage, marks, ha, hm, PortEvent.mark]
    | true =>
        have hpend : p.portResetInfo.event.has .AUTO_RESTART = true := by
          simp only [startsAuto, Bool.and_eq_true] at ha
          exact ha.1
        simp [begun, AutoRestart.idleStage, marks, ha, hone hpend, PortEvent.mark]

theorem CarryInv.initStage (h : CarryInv p tr)
    (hinit : p.portRebootInfo.rebootState = .REBOOT_STATE_INIT)
    (hstate : p.portResetInfo.state = .REBOOT_STATE) : CarryInv (rebootInit p) tr := by
  obtain ⟨n, hn⟩ := h.marked
  refine ⟨fun _ => hstate, ⟨n, ?_⟩, fun _ => .inl rfl⟩
  simpa [begun, rebootInit, hinit] using hn

theorem CarryInv.armStage (h : CarryInv p tr) (e : PassEnv)
    (hdown : p.portRebootInfo.rebootState = .REBOOT_STATE_POE_DOWN)
    (hstate : p.portResetInfo.state = .REBOOT_STATE) :
    CarryInv (rebootArm e p).1 (tr ++ (rebootArm e p).2) := by
  obtain ⟨n, hn⟩ := h.marked
  unfold rebootArm
  split
  · rename_i hstart
    refine ⟨fun _ => hstate, ⟨n, ?_⟩, fun _ => .inl hdown⟩
    rw [marks_append, hn]
    simp [begun, hdown, hstart, marks, PortEvent.mark]
  · simpa using h

theorem CarryInv.timerStage (h : CarryInv p tr) (e : PassEnv)
    (hdown : p.portRebootInfo.rebootState = .REBOOT_STATE_POE_DOWN)
    (hissued : p.portRebootInfo.rebootEvent.has .REBOOT_EVENT_START = false)
    (hstate : p.portResetInfo.state = .REBOOT_STATE) : CarryInv (rebootTimer e p) tr := by
  obtain ⟨n, hn⟩ := h.marked
  refine ⟨fun _ => ?_, ⟨n, ?_⟩, fun _ => ?_⟩
  · rw [(rebootTimer_parts e p).2.1, hstate]
  · rw [hn]
    unfold rebootTimer
    dsimp only
    repeat' split
    all_goals simp [begun, hdown, hissued]
  · unfold rebootTimer
    dsimp only
    repeat' split
    all_goals simp [hdown]

theorem CarryInv.upStage (h : CarryInv p tr) (e : PassEnv)
    (hup : p.portRebootInfo.rebootState = .REBOOT_STATE_POE_UP) (hon : p.enabled = true) :
    CarryInv (rebootFinish e p) (tr ++ (rebootUpCommand e p ++ [.rebootDone])) := by
  have heff := rebootFinish_effect e p
  obtain ⟨n, hn⟩ := h.marked
  have hcmd : rebootUpCommand e p = [.poe .reboot .POE_UP e.cmdTime] := by
    simp [rebootUpCommand, hon]
  -- the port is polled as enabled, so the round ends with POE_UP
  rw [hcmd]
  refine ⟨fun hstage => absurd (by simp [heff.reboot]) hstage, ⟨n + 1, ?_⟩, fun hlast => ?_⟩
  · have hdone : marks ([.poe .reboot .POE_UP e.cmdTime] ++ [.rebootDone]) = [.done] := rfl
    rw [marks_append, hn, rounds_succ, heff.reboot, hdone]
    simp [begun, hup]
  · rw [lastPoe_append] at hlast
    simp [lastPoe] at hlast

theorem CarryInv.handler (h : CarryInv p tr) (cfg : Config) (e : PassEnv)
    (hstate : p.portResetInfo.state = .REBOOT_STATE)
    (hd : (PortAction.events e).disturbs p = false) :
    CarryInv (rebootHandler cfg e p).1 (tr ++ (rebootHandler cfg e p).2) := by
  unfold rebootHandler
  cases hr : p.portRebootInfo.rebootState with
  | REBOOT_STATE_IDLE =>
      refine h.idleStage cfg e hstate hr (fun ha => ?_)
      simpa [PortAction.disturbs, hstate, hr, ha] using hd
  | REBOOT_STATE_INIT => simpa using h.initStage hr hstate
  | REBOOT_STATE_POE_DOWN =>
      -- the stage issues the command and then looks at the timer
      have hparts := rebootArm_parts e p
      exact (h.armStage e hr hstate).timerStage e (hparts.2.2.trans hr)
        (rebootArm_issued e p) (by rw [hparts.2.1, hstate])
  | REBOOT_STATE_POE_UP =>
      refine h.upStage e hr ?_
      simpa [PortAction.disturbs, hstate, hr] using hd

theorem CarryInv.state (h : CarryInv p tr) (cfg : Config) (e : PassEnv)
    (hd : (PortAction.events e).disturbs p = false) :
    CarryInv (stateHandler cfg e p).1 (tr ++ (stateHandler cfg e p).2) := by
  unfold stateHandler
  cases hs : p.portResetInfo.state with
  | IDLE_STATE =>
      rw [List.append_nil]
      exact h.same (idleBranch_parts p hs).1 (by simp [hs])
  | REGULAR_STATE =>
      rw [List.append_nil]
      exact h.same (testErrorHandler_effect cfg p).reboot (by simp [hs])
  | REBOOT_STATE => exact h.handler cfg e hs hd

theorem CarryInv.poll (h : CarryInv p tr) (r : PollReply)
    (hd : (PortAction.poll r).disturbs p = false) :
    CarryInv (getPortAndPoeState r p).1 tr := by
  have heff := getPortAndPoeState_effect r p
  refine h.same heff.reboot (fun hstage hstate => ?_)
  -- a poll that finds the port disabled would take it out of REBOOT_STATE
  have hon : r.enables = true := by
    by_contra hoff
    simp [PortAction.disturbs, hoff, hstage] at hd
  rw [heff.state, hon, if_pos rfl, hstate]

theorem CarryInv.reboot (h : CarryInv p tr) :
    CarryInv (cmdRebootHandler p).1 (tr ++ acceptedEvent (cmdRebootHandler p).2) := by
  have hquiet : ∀ r : ResetPort,
      marks (acceptedEvent r) = [] ∧ lastPoe (acceptedEvent r) = none := by
    intro r
    unfold acceptedEvent
    split <;> exact ⟨rfl, rfl⟩
  have hsame : CarryInv (cmdRebootHandler p).1 tr := by
    unfold cmdRebootHandler
    repeat' split
    all_goals exact h.same rfl (by simp)
  obtain ⟨n, hn⟩ := hsame.marked
  refine ⟨hsame.inReboot, ⟨n, ?_⟩, fun hlast => hsame.off ?_⟩
  · rw [marks_append, (hquiet _).1, List.append_nil, hn]
  · exact lastPoe_quiet (hquiet _).2 ▸ hlast

theorem CarryInv.test (h : CarryInv p tr) (cfg : Config) {a : PortAction} (ha : a.isTest = true) :
    CarryInv (portStep cfg p a).1 (tr ++ (portStep cfg p a).2) := by
  have hframe := portStep_test_frame cfg p ha
  have hquiet : marks (portStep cfg p a).2 = [] ∧ lastPoe (portStep cfg p a).2 = none := by
    have hpassed : ∀ b, marks (passedEvent b) = [] ∧ lastPoe (passedEvent b) = none := by
      intro b
      cases b <;> exact ⟨rfl, rfl⟩
    cases a with
    | runTestDisable => exact ⟨rfl, rfl⟩
    | runTestLink | runTestPing | runTestSpeed => exact hpassed _
    | events | poll | reboot => cases ha
  have hsame := h.same hframe.reboot (fun _ hs => hframe.state.trans hs)
  obtain ⟨n, hn⟩ := hsame.marked
  refine ⟨hsame.inReboot, ⟨n, ?_⟩, fun hlast => hsame.off ?_⟩
  · rw [marks_append, hquiet.1, List.append_nil, hn]
  · exact lastPoe_quiet hquiet.2 ▸ hlast

/-- **One step that does not disturb the reboot keeps the invariant.** -/
theorem CarryInv.step (h : CarryInv p tr) (cfg : Config) {a : PortAction}
    (hd : a.disturbs p = false) :
    CarryInv (portStep cfg p a).1 (tr ++ (portStep cfg p a).2) := by
  cases a with
  | events e =>
      have hstate := (h.state cfg e hd).alarm e
      rwa [List.append_assoc] at hstate
  | poll r => simpa [portStep] using h.poll r hd
  | reboot => exact h.reboot
  | runTestDisable | runTestLink | runTestPing | runTestSpeed => exact h.test cfg rfl

theorem carryInv_init (e : ParamEnv) : CarryInv (initPortInfo e) [] where
  inReboot := by simp
  marked := ⟨0, rfl⟩
  off := by simp [lastPoe]

end Invariant

/-! ## Runs of the table -/

/-- **Every port carries its reboots through**, after every run in which no step disturbs the
reboot of its port. -/
theorem carriedThrough_of_undisturbed {cfg : Config} {e : Fin NUM_PORTS → ParamEnv}
    {vs : List TableVisit} {tr : List (Fin NUM_PORTS × PortEvent)} {s : Table}
    (h : Exec (tableMachine cfg) (initTable e) vs tr s)
    (hd : ∀ v ∈ vs, v.act.2.disturbs (v.state v.act.1) = false) :
    ∀ i, CarriedThrough (s i) (proj i tr) := by
  intro i
  have hport : ∀ w ∈ projVisits i vs, w.act.disturbs w.state = false :=
    forall_projVisits (fun v hv hi => hi ▸ hd v hv)
  -- ports do not touch one another, so the run of one port is enough
  have hinv : CarryInv (s i) (proj i tr) := by
    refine (h.proj i).inv_where CarryInv (fun v => v.act.disturbs v.state = false)
      (carryInv_init (e i)) ?_ hport
    intro p tr a q evs ih hd hstep
    obtain ⟨rfl, rfl⟩ := portMachine_step hstep
    exact ih.step cfg hd
  exact hinv.carriedThrough

/-- A reboot that has come to its off-time. -/
def switchedOff : List PortAction :=
  [.poll enablingPoll, .reboot, .events (passAt 0), .events (passAt 1), .events (passAt 2)]

/-- An enabled port in the off-time of a reboot. -/
theorem carriedThrough_of_switchedOff : ∃ vs tr s,
    Exec (tableMachine ⟨3, 2⟩) (initTable fun _ => bareParams) vs tr s ∧
    lastPoe (proj 0 tr) = some (.reboot, .POE_DOWN) ∧ ∀ i, CarriedThrough (s i) (proj i tr) := by
  have hpoll := (Exec.empty (tableMachine ⟨3, 2⟩) (initTable fun _ => bareParams)).snoc
    (a := (0, .poll enablingPoll)) rfl
  have hcmd := hpoll.snoc (a := (0, .reboot)) rfl
  have hidle := hcmd.snoc (a := (0, .events (passAt 0))) rfl
  have hinit := hidle.snoc (a := (0, .events (passAt 1))) rfl
  have hdown := hinit.snoc (a := (0, .events (passAt 2))) rfl
  exact ⟨_, _, _, hdown, by decide, carriedThrough_of_undisturbed hdown (by decide)⟩

/-- The poll finds no reply during the off-time, and the port enabled again after it: the port
stays off in `IDLE_STATE`. -/
theorem disturbed_reboot_left_off : ¬ ∀ vs tr s,
    Exec (tableMachine ⟨3, 2⟩) (initTable fun _ => bareParams) vs tr s →
      CarriedThrough (s 0) (proj 0 tr) := by
  intro h
  obtain ⟨vs, hvs, -⟩ := Exec.replay (tableMachine ⟨3, 2⟩) (initTable fun _ => bareParams)
    ((switchedOff ++ [PortAction.poll ⟨none, none⟩, .poll enablingPoll]).map (fun a => (0, a))) rfl
  exact absurd ((h _ _ _ hvs).inReboot (by decide)) (by decide)

end AutoRestart
