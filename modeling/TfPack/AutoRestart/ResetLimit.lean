import TfPack.AutoRestart.System
import TfPack.Lib.Trace

set_option autoImplicit false

/-! # How often a port is rebooted without a passed test

`max_reset` bounds `resetCount`, and `autoResetHandler` counts every automatic reboot there. So
the number of automatic reboots since the configured test last passed, or since a reboot command
was last accepted, stays within `max_reset` as long as the count is only cleared after one of
the two. It is cleared in three places: by monitoring, on the flag `ERR_OK`; by
`manualResetHandler`; and by the reload of the configuration at the end of a reboot.

The flag does not mean that the configured test passed. The link step of a ping or speed test
sets it before the second step has run, and a pass of `eventsHandler` in between clears the
count (`okIsStray`). The other two places need that no automatic reboot is started while an
accepted reboot command is pending (`startsBoth`).
-/

namespace AutoRestart

open FlagWord StepMachine EventTrace

/-! ## Test steps and `ERR_OK` -/

/-- The step sets `ERR_OK`: its own check passes. -/
def PortAction.setsOk (p : PortInfo) : PortAction → Bool
  | .runTestLink o => linkUp o
  | .runTestPing r => pingPasses r p
  | .runTestSpeed o t => speedPasses o t p
  | _ => false

/-- The step is the one that decides the port's configured test. -/
def PortAction.decides (p : PortInfo) : PortAction → Bool
  | .runTestLink _ => p.portConfigInfo.test == .test_link
  | .runTestPing _ => p.portConfigInfo.test == .test_ping
  | .runTestSpeed _ _ => p.portConfigInfo.test == .test_speed
  | _ => false

section TestSteps

variable (cfg : Config) (p : PortInfo) {a : PortAction}

/-- After a test step `ERR_OK` says whether the check of that step passed. -/
theorem portStep_test_ok (h : a.isTest = true) :
    (portStep cfg p a).1.portResetInfo.errorCode.has .ERR_OK = a.setsOk p := by
  cases a with
  | runTestDisable => simp [portStep, portRunTestDisable, PortAction.setsOk]
  | runTestLink o =>
      simp only [portStep, portRunTestLink, PortAction.setsOk]
      cases linkUp o with
      | false => simp
      | true => by_cases ht : p.portConfigInfo.test = .test_link <;> simp [ht]
  | runTestPing r =>
      simp only [portStep, portRunTestPing, PortAction.setsOk, pingPasses]
      cases p.portResetInfo.errorCode.has .ERR_TEST_LINK <;> cases r <;> simp
  | runTestSpeed o t =>
      simp only [portStep, portRunTestSpeed, PortAction.setsOk, speedPasses]
      cases p.portResetInfo.errorCode.has .ERR_TEST_LINK with
      | true => simp
      | false =>
          generalize speedDelta o t p.portConfigInfo = d
          by_cases hd : d.2 = 0
          · simp [hd]
          · cases hs : speedOutside (d.1 / d.2 / 1000) p.portConfigInfo <;> simp [hd, hs]
  | events e => simp [PortAction.isTest] at h
  | poll r => simp [PortAction.isTest] at h
  | reboot => simp [PortAction.isTest] at h

/-- A test step shows a pass exactly when it decides the configured test and its check passes. -/
theorem portStep_test_events (h : a.isTest = true) :
    (portStep cfg p a).2 = passedEvent (a.decides p && a.setsOk p) := by
  cases a with
  | runTestDisable => rfl
  | runTestLink o => rfl
  | runTestPing r => rfl
  | runTestSpeed o t => rfl
  | events e => simp [PortAction.isTest] at h
  | poll r => simp [PortAction.isTest] at h
  | reboot => simp [PortAction.isTest] at h

end TestSteps

/-! ## What a pass does to the counted reboots -/

/-- `ERR_OK` is set. -/
def PortInfo.ok (p : PortInfo) : Bool := p.portResetInfo.errorCode.has .ERR_OK

/-- A manual reboot is pending. -/
def PortInfo.manualPending (p : PortInfo) : Bool := p.portResetInfo.event.has .MANUAL_RESTART

/-- The event of an automatic reboot. -/
def PortEvent.isAuto (ev : PortEvent) : Bool := ev == .autoReset

/-- The configured test passed, or a reboot command was accepted. -/
def PortEvent.isPoint (ev : PortEvent) : Bool := ev == .passed || ev == .accepted

/-- The pass starts an automatic reboot while a manual one is pending. -/
def PortInfo.startsBoth (cfg : Config) (p : PortInfo) : Bool :=
  p.portResetInfo.state == .REBOOT_STATE &&
    p.portRebootInfo.rebootState == .REBOOT_STATE_IDLE && startsAuto cfg p && p.manualPending

/-- The pass clears the reset count because of `ERR_OK`. -/
def PortInfo.clearsOnOk (p : PortInfo) : Bool :=
  p.portResetInfo.state == .REGULAR_STATE && p.ok &&
    decide (p.portResetInfo.errorTestCount ≤ 1)

/-- The five things a pass can do to the record `p` of a port as far as its automatic reboots
are concerned; `q` is the record after it and `n` the number of automatic reboots it starts. -/
inductive LimitPass (cfg : Config) (p q : PortInfo) (n : Nat) : Prop
  | keeps (none : n = 0) (count : q.portResetInfo.resetCount = p.portResetInfo.resetCount)
      (manual : q.manualPending = true → p.manualPending = true) (ok : q.ok = true → p.ok = true)
  | clears (none : n = 0) (count : q.portResetInfo.resetCount = 0) (onOk : p.clearsOnOk = true)
      (manual : q.manualPending = true → p.manualPending = true)
  | auto (one : n = 1) (below : p.portResetInfo.resetCount < cfg.max_reset)
      (count : q.portResetInfo.resetCount = p.portResetInfo.resetCount + 1)
      (manual : q.manualPending = false) (ok : q.ok = false)
  | manual (none : n = 0) (count : q.portResetInfo.resetCount = 0)
      (pending : p.manualPending = true)
  | both (starts : p.startsBoth cfg = true)

section Passes

variable {cfg : Config} {p q r : PortInfo} {n : Nat}

/-- What comes after the handler of a pass and touches none of the three changes nothing. -/
theorem LimitPass.frame (h : LimitPass cfg p q n)
    (hcount : r.portResetInfo.resetCount = q.portResetInfo.resetCount)
    (hmanual : r.manualPending = q.manualPending) (hok : r.ok = q.ok) : LimitPass cfg p r n := by
  cases h with
  | keeps none count manual ok =>
      exact .keeps none (hcount.trans count) (hmanual ▸ manual) (hok ▸ ok)
  | clears none count onOk manual =>
      exact .clears none (hcount.trans count) onOk (hmanual ▸ manual)
  | auto one below count manual ok =>
      exact .auto one below (hcount.trans count) (hmanual.trans manual) (hok.trans ok)
  | manual none count pending => exact .manual none (hcount.trans count) pending
  | both starts => exact .both starts

theorem alarmPart_ok (e : PassEnv) (p : PortInfo) : (alarmPart e p).1.ok = p.ok := by
  unfold alarmPart alarmHandler alarmDown alarmUp PortInfo.ok
  dsimp only
  repeat' split
  all_goals simp [portRunTestTime]

theorem okBranch_ok (p : PortInfo) : (okBranch p).ok = p.ok := by
  unfold okBranch PortInfo.ok
  dsimp only
  repeat' split
  all_goals simp

/-- Monitoring keeps the count, or clears it on `ERR_OK` with at most one counted failure. -/
theorem okBranch_resetCount (p : PortInfo) (h : p.portResetInfo.state = .REGULAR_STATE) :
    (okBranch p).portResetInfo.resetCount = p.portResetInfo.resetCount ∨
    ((okBranch p).portResetInfo.resetCount = 0 ∧ p.clearsOnOk = true) := by
  unfold okBranch
  by_cases hok : p.portResetInfo.errorCode.has .ERR_OK = true
  · by_cases hle : p.portResetInfo.errorTestCount ≤ 1
    · refine .inr ⟨?_, by simp [PortInfo.clearsOnOk, PortInfo.ok, h, hok, hle]⟩
      by_cases hpos : 0 < p.portResetInfo.errorTestCount
      · have hone : p.portResetInfo.errorTestCount - 1 = 0 := by grind
        simp [hok, hpos, hone]
      · have hzero : p.portResetInfo.errorTestCount = 0 := by grind
        simp [hok, hzero]
    · have hpos : 0 < p.portResetInfo.errorTestCount := by grind
      have hmore : p.portResetInfo.errorTestCount - 1 ≠ 0 := by grind
      simp [hok, hpos, hmore]
  · simp [hok]

theorem failBranch_ok (cfg : Config) (p : PortInfo) : (failBranch cfg p).ok = p.ok := by
  unfold failBranch PortInfo.ok
  dsimp only
  repeat' split
  all_goals rfl

theorem testErrorHandler_limit (cfg : Config) (h : p.portResetInfo.state = .REGULAR_STATE) :
    LimitPass cfg p (testErrorHandler cfg p) 0 := by
  have heff := testErrorHandler_effect cfg p
  have hmanual : (testErrorHandler cfg p).manualPending = p.manualPending := heff.manual
  have hok : (testErrorHandler cfg p).ok = p.ok := by
    rw [testErrorHandler, failBranch_ok, okBranch_ok]
  rcases okBranch_resetCount p h with hkeep | ⟨hzero, hclear⟩
  · exact .keeps rfl (heff.resetCount.trans hkeep) (by simp [hmanual]) (by simp [hok])
  · exact .clears rfl (heff.resetCount.trans hzero) hclear (by simp [hmanual])

theorem autoResetHandler_ok (maxReset : UInt8) (d : String) (p : PortInfo) :
    (autoResetHandler maxReset d p).1.ok = false := by
  unfold autoResetHandler PortInfo.ok
  dsimp only
  split <;> simp

/-- The idle stage never sets `ERR_OK`, and an automatic reboot clears it. -/
theorem rebootIdle_ok (cfg : Config) (e : PassEnv) (p : PortInfo) :
    ((rebootIdle cfg e p).1.ok = true → p.ok = true) ∧
    (startsAuto cfg p = true → (rebootIdle cfg e p).1.ok = false) := by
  have hman : ∀ a : PortInfo × List PortEvent, (idleManual e a).1.ok = true → a.1.ok = true := by
    intro a
    unfold idleManual
    split
    · simp [manualResetHandler, PortInfo.ok]
    · exact id
  rw [rebootIdle_eq]
  have hauto := autoResetHandler_ok cfg.max_reset (getTimeDate e.ctime e.cmdTime)
    { p with portResetInfo.event := p.portResetInfo.event.clear .AUTO_RESTART }
  constructor
  · intro h
    have ha := hman _ h
    unfold idleAuto at ha
    split at ha
    · rw [hauto] at ha
      cases ha
    · exact ha
  · intro hs
    have hpend : p.portResetInfo.event.has .AUTO_RESTART = true := by
      simp only [startsAuto, Bool.and_eq_true] at hs
      exact hs.1
    by_contra hok
    have ha := hman _ (Bool.not_eq_false _ ▸ hok)
    rw [idleAuto, if_pos hpend, hauto] at ha
    cases ha

theorem rebootIdle_limit (cfg : Config) (e : PassEnv)
    (hstate : p.portResetInfo.state = .REBOOT_STATE)
    (hidle : p.portRebootInfo.rebootState = .REBOOT_STATE_IDLE) :
    LimitPass cfg p (rebootIdle cfg e p).1 ((rebootIdle cfg e p).2.countP PortEvent.isAuto) := by
  have h := rebootIdle_effect cfg e p hidle
  have hmanual : (rebootIdle cfg e p).1.manualPending = (p.manualPending && !p.enabled) :=
    h.manual
  obtain ⟨hok, hoff⟩ := rebootIdle_ok cfg e p
  rw [h.events]
  cases hA : startsAuto cfg p with
  | true =>
      cases hP : p.manualPending with
      | true => exact .both (by simp [PortInfo.startsBoth, hstate, hidle, hA, hP])
      | false =>
          have hM : startsManual p = false := by
            simp only [PortInfo.manualPending] at hP
            simp [startsManual, hP]
          have hbelow : p.portResetInfo.resetCount < cfg.max_reset := by
            simp only [startsAuto, Bool.and_eq_true, Bool.not_eq_true',
              decide_eq_false_iff_not] at hA
            exact UInt8.not_le.mp hA.2
          exact .auto (by simp [hM, PortEvent.isAuto]) hbelow (by simp [h.resetCount, hM, hA])
            (by simp [hmanual, hP]) (hoff hA)
  | false =>
      cases hM : startsManual p with
      | true =>
          have hpend : p.manualPending = true := by
            simp only [startsManual, Bool.and_eq_true] at hM
            exact hM.1
          exact .manual (by simp [PortEvent.isAuto]) (by simp [h.resetCount, hM]) hpend
      | false =>
          exact .keeps (by simp) (by simp [h.resetCount, hM, hA]) (by simp +contextual [hmanual])
            hok

theorem rebootFinish_limit (e : PassEnv) (p : PortInfo) : LimitPass cfg p (rebootFinish e p) 0 := by
  have h := rebootFinish_effect e p
  cases hP : p.portResetInfo.event.has .MANUAL_RESTART with
  | true => exact .manual rfl (by simp [h.resetCount, hP]) hP
  | false =>
      refine .keeps rfl (by simp [h.resetCount, hP]) (by simp [PortInfo.manualPending, h.manual]) ?_
      simp [rebootFinish, PortInfo.ok, hP]

theorem rebootHandler_limit (cfg : Config) (e : PassEnv)
    (hstate : p.portResetInfo.state = .REBOOT_STATE) :
    LimitPass cfg p (rebootHandler cfg e p).1
      ((rebootHandler cfg e p).2.countP PortEvent.isAuto) := by
  unfold rebootHandler
  cases hr : p.portRebootInfo.rebootState with
  | REBOOT_STATE_IDLE => exact rebootIdle_limit cfg e hstate hr
  | REBOOT_STATE_INIT => exact .keeps rfl rfl id id
  | REBOOT_STATE_POE_DOWN =>
      have hreset : (rebootTimer e (rebootArm e p).1).portResetInfo = p.portResetInfo :=
        (rebootTimer_parts e _).2.1.trans (rebootArm_parts e p).2.1
      have hnone : (rebootArm e p).2.countP PortEvent.isAuto = 0 := by
        unfold rebootArm
        split <;> simp [PortEvent.isAuto]
      exact .keeps hnone (by rw [hreset]) (by simp [PortInfo.manualPending, hreset])
        (by simp [PortInfo.ok, hreset])
  | REBOOT_STATE_POE_UP =>
      have hnone : (rebootUpCommand e p ++ [PortEvent.rebootDone]).countP PortEvent.isAuto = 0 := by
        unfold rebootUpCommand
        split <;> simp [PortEvent.isAuto]
      rw [hnone]
      exact rebootFinish_limit e p

/-- **What a pass does to the counted reboots.** -/
theorem eventsHandler_limit (cfg : Config) (e : PassEnv) (p : PortInfo) :
    LimitPass cfg p (eventsHandler cfg e p).1
      ((eventsHandler cfg e p).2.countP PortEvent.isAuto) := by
  have hframe := eventsHandler_frame cfg e p
  have halarm : (alarmPart e (stateHandler cfg e p).1).2.countP PortEvent.isAuto = 0 := by
    rw [List.countP_eq_zero]
    intro ev hev
    obtain ⟨c, rfl⟩ := alarmPart_events e _ ev hev
    simp [PortEvent.isAuto]
  have hcount : (eventsHandler cfg e p).2.countP PortEvent.isAuto =
      (stateHandler cfg e p).2.countP PortEvent.isAuto := by
    simp [eventsHandler, List.countP_append, halarm]
  rw [hcount]
  refine LimitPass.frame ?_ hframe.resetCount hframe.manual (alarmPart_ok e _)
  unfold stateHandler
  cases hstate : p.portResetInfo.state with
  | IDLE_STATE =>
      have hmanual : (idleBranch p).manualPending = p.manualPending := by
        unfold idleBranch PortInfo.manualPending
        split <;> simp
      have hok : (idleBranch p).ok = p.ok := by
        unfold idleBranch PortInfo.ok
        split <;> simp
      exact .keeps rfl (idleBranch_parts p hstate).2.2.2 (hmanual ▸ id) (hok ▸ id)
  | REGULAR_STATE => exact testErrorHandler_limit cfg hstate
  | REBOOT_STATE => exact rebootHandler_limit cfg e hstate

theorem rebootHandler_no_point (cfg : Config) (e : PassEnv) (p : PortInfo) :
    ∀ ev ∈ (rebootHandler cfg e p).2, ev.isPoint = false := by
  unfold rebootHandler
  cases hr : p.portRebootInfo.rebootState with
  | REBOOT_STATE_IDLE =>
      dsimp only
      rw [(rebootIdle_effect cfg e p hr).events]
      cases startsAuto cfg p <;> cases startsManual p <;> simp [PortEvent.isPoint]
  | REBOOT_STATE_INIT => simp
  | REBOOT_STATE_POE_DOWN =>
      dsimp only
      unfold rebootArm
      split <;> simp [PortEvent.isPoint]
  | REBOOT_STATE_POE_UP =>
      dsimp only
      unfold rebootUpCommand
      split <;> simp [PortEvent.isPoint]

/-- A pass neither passes a test nor accepts a command. -/
theorem eventsHandler_no_point (cfg : Config) (e : PassEnv) (p : PortInfo) :
    ∀ ev ∈ (eventsHandler cfg e p).2, ev.isPoint = false := by
  intro ev hev
  rcases List.mem_append.mp hev with hev | hev
  · unfold stateHandler at hev
    cases hstate : p.portResetInfo.state <;> rw [hstate] at hev
    case REBOOT_STATE => exact rebootHandler_no_point cfg e p ev hev
    all_goals simp at hev
  · obtain ⟨c, rfl⟩ := alarmPart_events e _ ev hev
    rfl

end Passes

/-! ## The invariant -/

/-- The automatic reboots since the configured test last passed or a command was accepted. -/
def autosSince (tr : List PortEvent) : Nat :=
  (sinceLast PortEvent.isPoint tr).countP PortEvent.isAuto

/-- The last test step set `ERR_OK` without deciding the configured test. -/
def okIsStray (vs : List PortVisit) : Bool :=
  match (vs.filter (fun v => v.act.isTest)).getLast? with
  | none => false
  | some v => v.act.setsOk v.state && !v.act.decides v.state

/-- The pass at the point `v`, reached through the points `vs`, breaks the count: it clears a
reset count on a stray `ERR_OK`, or starts an automatic reboot while a manual one is pending. -/
def BreaksCount (cfg : Config) (vs : List PortVisit) (v : PortVisit) : Prop :=
  (∃ e, v.act = .events e) ∧
    ((v.state.clearsOnOk = true ∧ v.state.portResetInfo.resetCount ≠ 0 ∧ okIsStray vs = true) ∨
      v.state.startsBoth cfg = true)

/-- No pass of the run breaks the count. -/
def CountKept (cfg : Config) (vs : List PortVisit) : Prop :=
  ∀ ws v, ws ++ [v] <+: vs → ¬ BreaksCount cfg ws v

/-- What holds of the record of a port after the points `vs` and the events `tr`: the reset
count bounds the automatic reboots, and what can clear it is there only without any. -/
structure LimitInv (cfg : Config) (vs : List PortVisit) (p : PortInfo) (tr : List PortEvent) :
    Prop where
  bound : autosSince tr ≤ p.portResetInfo.resetCount.toNat
  limit : p.portResetInfo.resetCount ≤ cfg.max_reset
  manual : p.manualPending = true → autosSince tr = 0
  ok : p.ok = true → autosSince tr = 0 ∨ okIsStray vs = true
  windows : CountBounded PortEvent.isPoint PortEvent.isAuto cfg.max_reset.toNat tr

section Invariant

variable {cfg : Config} {vs : List PortVisit} {p q : PortInfo} {tr : List PortEvent}

theorem CountKept.init {v : PortVisit} (h : CountKept cfg (vs ++ [v])) : CountKept cfg vs :=
  fun ws w hpre => h ws w (hpre.trans (List.prefix_append _ _))

theorem CountKept.last {v : PortVisit} (h : CountKept cfg (vs ++ [v])) : ¬ BreaksCount cfg vs v :=
  h vs v (List.prefix_refl _)

theorem countKept_nil : CountKept cfg [] := fun ws v hpre => by simp at hpre

/-- A run keeps the count when no point of it does what a pass breaks it by. -/
theorem countKept_of_take
    (h : ∀ (n : Nat) (hn : n < vs.length), ¬((vs[n].state.clearsOnOk = true ∧
      vs[n].state.portResetInfo.resetCount ≠ 0 ∧ okIsStray (vs.take n) = true) ∨
        vs[n].state.startsBoth cfg = true)) : CountKept cfg vs := by
  rintro ws v ⟨us, rfl⟩ ⟨-, hbreaks⟩
  refine h ws.length (by simp) ?_
  simpa using hbreaks

theorem okIsStray_test {v : PortVisit} (h : v.act.isTest = true) :
    okIsStray (vs ++ [v]) = (v.act.setsOk v.state && !v.act.decides v.state) := by
  simp [okIsStray, h]

theorem okIsStray_other {v : PortVisit} (h : v.act.isTest = false) :
    okIsStray (vs ++ [v]) = okIsStray vs := by
  simp [okIsStray, h]

theorem autosSince_quiet (tr : List PortEvent) {evs : List PortEvent}
    (h : ∀ ev ∈ evs, ev.isPoint = false) :
    autosSince (tr ++ evs) = autosSince tr + evs.countP PortEvent.isAuto := by
  rw [autosSince, sinceLast_quiet tr h, List.countP_append]
  rfl

theorem autosSince_point (tr : List PortEvent) {ev : PortEvent} (h : ev.isPoint = true) :
    autosSince (tr ++ [ev]) = 0 := by
  rw [autosSince, sinceLast_mark tr h]
  rfl

/-- A step without a point keeps the invariant when its new count still bounds. -/
theorem LimitInv.of_quiet {evs : List PortEvent} (h : LimitInv cfg vs p tr)
    (hq : ∀ ev ∈ evs, ev.isPoint = false) {ws : List PortVisit}
    (hbound : autosSince (tr ++ evs) ≤ q.portResetInfo.resetCount.toNat)
    (hlimit : q.portResetInfo.resetCount ≤ cfg.max_reset)
    (hmanual : q.manualPending = true → autosSince (tr ++ evs) = 0)
    (hok : q.ok = true → autosSince (tr ++ evs) = 0 ∨ okIsStray ws = true) :
    LimitInv cfg ws q (tr ++ evs) :=
  ⟨hbound, hlimit, hmanual, hok,
    h.windows.quiet hq (hbound.trans (UInt8.le_iff_toNat_le.mp hlimit))⟩

/-- A point keeps the invariant. -/
theorem LimitInv.of_point {ev : PortEvent} (h : LimitInv cfg vs p tr) (he : ev.isPoint = true)
    {ws : List PortVisit} (hcount : q.portResetInfo.resetCount = p.portResetInfo.resetCount) :
    LimitInv cfg ws q (tr ++ [ev]) := by
  have hzero := autosSince_point tr he
  exact ⟨by omega, hcount ▸ h.limit, fun _ => hzero, fun _ => .inl hzero, h.windows.mark he⟩

/-- A step that clears the count keeps the invariant when there is no automatic reboot to
forget. -/
theorem LimitInv.of_cleared {evs : List PortEvent} (h : LimitInv cfg vs p tr)
    (hq : ∀ ev ∈ evs, ev.isPoint = false) {ws : List PortVisit}
    (hzero : autosSince (tr ++ evs) = 0) (hcount : q.portResetInfo.resetCount = 0) :
    LimitInv cfg ws q (tr ++ evs) :=
  h.of_quiet hq (by rw [hzero]; exact Nat.zero_le _) (by simp [hcount]) (fun _ => hzero)
    (fun _ => .inl hzero)

/-- When `ERR_OK` is not stray, there is no automatic reboot since the last point where the count
would be cleared. -/
theorem LimitInv.autosSince_of_clearsOnOk (h : LimitInv cfg vs p tr) (hclear : p.clearsOnOk = true)
    (hk : ¬(p.clearsOnOk = true ∧ p.portResetInfo.resetCount ≠ 0 ∧ okIsStray vs = true)) :
    autosSince tr = 0 := by
  by_cases hc : p.portResetInfo.resetCount = 0
  · have hbound := h.bound
    simpa [hc] using hbound
  · have hok : p.ok = true := by
      simp only [PortInfo.clearsOnOk, Bool.and_eq_true] at hclear
      exact hclear.1.2
    exact (h.ok hok).resolve_right (fun hs => hk ⟨hclear, hc, hs⟩)

/-- A pass over the port, by what it does to the counted reboots. -/
theorem LimitInv.events (h : LimitInv cfg vs p tr) (e : PassEnv)
    (hk : ¬ BreaksCount cfg vs ⟨p, tr, .events e⟩) :
    LimitInv cfg (vs ++ [⟨p, tr, .events e⟩]) (eventsHandler cfg e p).1
      (tr ++ (eventsHandler cfg e p).2) := by
  have hquiet := eventsHandler_no_point cfg e p
  have hsince := autosSince_quiet tr hquiet
  have hpass := eventsHandler_limit cfg e p
  have hstray : okIsStray (vs ++ [⟨p, tr, .events e⟩]) = okIsStray vs := okIsStray_other rfl
  simp only [BreaksCount, PortAction.events.injEq, exists_eq', true_and, not_or] at hk
  generalize (eventsHandler cfg e p).1 = q at *
  generalize (eventsHandler cfg e p).2 = evs at *
  generalize evs.countP PortEvent.isAuto = n at *
  cases hpass with
  | keeps none count manual ok =>
      have hsame : autosSince (tr ++ evs) = autosSince tr := by omega
      refine h.of_quiet hquiet ?_ (count ▸ h.limit) ?_ ?_
      · rw [hsame, count]
        exact h.bound
      · rw [hsame]
        exact fun hq => h.manual (manual hq)
      · rw [hsame, hstray]
        exact fun hq => h.ok (ok hq)
  | clears none count onOk manual =>
      have hzero : autosSince tr = 0 := h.autosSince_of_clearsOnOk onOk hk.1
      exact h.of_cleared hquiet (by omega) count
  | auto one below count manual ok =>
      -- the new reboot is counted, below the limit, so the counter does not wrap
      have hlt : p.portResetInfo.resetCount.toNat < cfg.max_reset.toNat :=
        UInt8.lt_iff_toNat_lt.mp below
      have hnext : q.portResetInfo.resetCount.toNat = p.portResetInfo.resetCount.toNat + 1 := by
        have := cfg.max_reset.toNat_lt
        rw [count, UInt8.toNat_add]
        exact Nat.mod_eq_of_lt (by simp; omega)
      have hbound := h.bound
      refine h.of_quiet hquiet (by omega) ?_ (by simp [manual]) (by simp [ok])
      rw [UInt8.le_iff_toNat_le]
      omega
  | manual none count pending =>
      -- no automatic reboot has been started since the command was accepted
      have hzero : autosSince tr = 0 := h.manual pending
      exact h.of_cleared hquiet (by omega) count
  | both starts => exact absurd starts hk.2

theorem LimitInv.test (h : LimitInv cfg vs p tr) {a : PortAction} (ha : a.isTest = true) :
    LimitInv cfg (vs ++ [⟨p, tr, a⟩]) (portStep cfg p a).1 (tr ++ (portStep cfg p a).2) := by
  have hframe := portStep_test_frame cfg p ha
  have hok : (portStep cfg p a).1.ok = a.setsOk p := portStep_test_ok cfg p ha
  have hmanual : (portStep cfg p a).1.manualPending = p.manualPending := hframe.manual
  have hstray : okIsStray (vs ++ [⟨p, tr, a⟩]) = (a.setsOk p && !a.decides p) :=
    okIsStray_test ha
  rw [portStep_test_events cfg p ha]
  cases hpass : a.decides p && a.setsOk p with
  | true => exact h.of_point rfl hframe.resetCount
  | false =>
      -- `ERR_OK` is set by a step that does not decide the configured test, if at all
      simp only [passedEvent, Bool.false_eq_true, if_false]
      refine h.of_quiet (by simp) ?_ (hframe.resetCount ▸ h.limit) ?_ ?_ <;> rw [List.append_nil]
      · rw [hframe.resetCount]
        exact h.bound
      · rw [hmanual]
        exact h.manual
      · intro hset
        rw [hok] at hset
        exact .inr (by simp [hstray, hset] at hpass ⊢; exact hpass)

theorem LimitInv.poll (h : LimitInv cfg vs p tr) (r : PollReply) :
    LimitInv cfg (vs ++ [⟨p, tr, .poll r⟩]) (getPortAndPoeState r p).1 tr := by
  have heff := getPortAndPoeState_effect r p
  have hmanual : (getPortAndPoeState r p).1.manualPending = p.manualPending := by
    rw [PortInfo.manualPending, heff.event]
    rfl
  have hok : (getPortAndPoeState r p).1.ok = true → p.ok = true := by
    unfold getPortAndPoeState PortInfo.ok
    cases readsEnable r.state <;> cases readsEnable r.poe <;> simp [pollDisabled]
  refine ⟨heff.resetCount ▸ h.bound, heff.resetCount ▸ h.limit, hmanual ▸ h.manual, ?_,
    h.windows⟩
  rw [okIsStray_other rfl]
  exact fun hq => h.ok (hok hq)

theorem LimitInv.reboot (h : LimitInv cfg vs p tr) :
    LimitInv cfg (vs ++ [⟨p, tr, .reboot⟩]) (cmdRebootHandler p).1
      (tr ++ acceptedEvent (cmdRebootHandler p).2) := by
  have hstray : okIsStray (vs ++ [⟨p, tr, .reboot⟩]) = okIsStray vs := okIsStray_other rfl
  unfold cmdRebootHandler
  split
  · split
    · exact h.of_point rfl rfl
    · simp only [acceptedEvent, replyOf]
      refine ⟨by simpa using h.bound, h.limit, by simpa using h.manual, ?_,
        by simpa using h.windows⟩
      simpa [hstray] using h.ok
  · simp only [acceptedEvent, replyOf]
    refine ⟨by simpa using h.bound, h.limit, by simp [PortInfo.manualPending], ?_,
      by simpa using h.windows⟩
    simpa [hstray, PortInfo.ok] using h.ok

/-- **One step keeps the invariant, unless it breaks the count.** -/
theorem LimitInv.step (h : LimitInv cfg vs p tr) (a : PortAction)
    (hk : ¬ BreaksCount cfg vs ⟨p, tr, a⟩) :
    LimitInv cfg (vs ++ [⟨p, tr, a⟩]) (portStep cfg p a).1 (tr ++ (portStep cfg p a).2) := by
  cases a with
  | events e => exact h.events e hk
  | poll r => simpa [portStep] using h.poll r
  | reboot => exact h.reboot
  | runTestDisable | runTestLink | runTestPing | runTestSpeed => exact h.test rfl

theorem limitInv_init (cfg : Config) (e : ParamEnv) : LimitInv cfg [] (initPortInfo e) [] where
  bound := by simp [autosSince]
  limit := by simp
  manual := fun _ => rfl
  ok := fun _ => .inl rfl
  windows := CountBounded.nil _

end Invariant

/-! ## Runs of the table -/

/-- Between two points of the trace with none in between there are at most `n` automatic
reboots. -/
def AutoLimited (n : Nat) (tr : List PortEvent) : Prop :=
  ∀ pre a win b post, tr = pre ++ a :: (win ++ b :: post) → a.isPoint = true → b.isPoint = true →
    (∀ ev ∈ win, ev.isPoint = false) → win.countP PortEvent.isAuto ≤ n

/-- **Between two points at which its configured test passed or a reboot command was accepted, a
port is automatically rebooted at most `max_reset` times**, in every run in which no pass over
the port breaks the count. -/
theorem autoLimited_of_countKept {cfg : Config} {e : Fin NUM_PORTS → ParamEnv}
    {vs : List TableVisit}
    {tr : List (Fin NUM_PORTS × PortEvent)} {s : Table}
    (h : Exec (tableMachine cfg) (initTable e) vs tr s)
    (hk : ∀ i, CountKept cfg (projVisits i vs)) :
    ∀ i, AutoLimited cfg.max_reset.toNat (proj i tr) := by
  intro i
  have hinv : CountKept cfg (projVisits i vs) →
      LimitInv cfg (projVisits i vs) (s i) (proj i tr) := by
    refine (h.proj i).inv_run (fun vs p tr => CountKept cfg vs → LimitInv cfg vs p tr)
      (fun _ => limitInv_init cfg (e i)) ?_
    intro vs p tr a q evs ih hstep hkept
    obtain ⟨rfl, rfl⟩ := portMachine_step hstep
    exact (ih hkept.init).step a hkept.last
  intro pre a win b post htr _ _ hwin
  have hsplit : proj i tr = pre ++ [a] ++ win ++ b :: post := by
    rw [htr]
    simp
  exact (hinv (hk i)).windows.window hsplit hwin

/-- A pass that arms the off-time at `0` and sees it over. -/
def latePass : PassEnv where
  cmdTime := 0
  armTime := 0
  testTime := 100
  upTime := 100
  downTime := 100
  alarmTime := 100
  ctime := bareParams.ctime
  params := pingParams

/-- The four passes of a reboot. -/
def rebootPasses : List PortAction := List.replicate 4 (.events latePass)

/-- A reboot is accepted and carried out; the ping fails and the port is rebooted; the link step
of the next ping test passes and a pass comes before its ping step; the port is rebooted again;
then the ping passes. -/
def strayOkRun : List PortAction :=
  [.poll enablingPoll, .reboot] ++ rebootPasses ++ [.runTestPing none, .events latePass] ++
    rebootPasses ++ [.runTestLink "up\n", .events latePass] ++ rebootPasses ++
    [.runTestPing (some 1)]

/-- With `max_reset = 1` the port is rebooted twice between the two points. -/
theorem stray_ok_exceeds_limit : ¬ ∀ vs tr s,
    Exec (tableMachine ⟨1, 1⟩) (initTable fun _ => pingParams) vs tr s →
      AutoLimited 1 (proj 0 tr) := by
  intro h
  obtain ⟨vs, hvs, -⟩ := Exec.replay (tableMachine ⟨1, 1⟩) (initTable fun _ => pingParams)
    (strayOkRun.map (fun a => (0, a))) rfl
  have hlim := h _ _ _ hvs [] .accepted
    [.manualReset, .poe .reboot .POE_DOWN 0, .poe .reboot .POE_UP 0, .rebootDone, .autoReset,
      .poe .reboot .POE_DOWN 0, .poe .reboot .POE_UP 0, .rebootDone, .autoReset,
      .poe .reboot .POE_DOWN 0, .poe .reboot .POE_UP 0, .rebootDone] .passed [] (by decide) rfl rfl
      (by decide)
  exact absurd hlim (by decide)

/-- The ping passes, fails, and passes again after the automatic reboot that follows. -/
def failedPingRun : List PortAction :=
  [.poll enablingPoll, .runTestPing (some 1), .runTestPing none, .events latePass] ++
    rebootPasses ++ [.runTestPing (some 1)]

/-- One automatic reboot between the two points, with `max_reset = 1`. -/
theorem autoLimited_of_failed_ping : ∃ vs tr s,
    Exec (tableMachine ⟨1, 1⟩) (initTable fun _ => pingParams) vs tr s ∧
    proj 0 tr = [.passed, .autoReset, .poe .reboot .POE_DOWN 0, .poe .reboot .POE_UP 0,
      .rebootDone, .passed] ∧ ∀ i, AutoLimited 1 (proj i tr) := by
  obtain ⟨vs, hvs, hact⟩ := Exec.replay (tableMachine ⟨1, 1⟩) (initTable fun _ => pingParams)
    (failedPingRun.map (fun a => (0, a))) rfl
  refine ⟨vs, _, _, hvs, by decide +kernel, autoLimited_of_countKept hvs (fun i => ?_)⟩
  have hpoints := hvs.points_eq
  rw [hact] at hpoints
  by_cases hi : i = 0
  · subst hi
    rw [hpoints]
    refine countKept_of_take ?_
    decide +kernel
  · have hother : ∀ v ∈ vs, v.act.1 ≠ i := by
      intro v hv
      have hmem := List.mem_map_of_mem (f := Visit.act) hv
      rw [hact, List.mem_map] at hmem
      obtain ⟨a, -, ha⟩ := hmem
      rw [← ha]
      exact Ne.symm hi
    rw [projVisits_eq_nil hother]
    exact countKept_nil

end AutoRestart
