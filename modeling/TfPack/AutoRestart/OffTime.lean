import TfPack.AutoRestart.System
import TfPack.Lib.Trace

set_option autoImplicit false

/-! # The off-time of a reboot

`rebootHandler` switches a port off, waits `rebootDelay` seconds and switches it on again, over
four passes that polls and commands can interrupt at any stage. What carries the off-time
through every interruption is an invariant of `portRebootInfo` and of the commands issued so far
(`OffInv`): `REBOOT_EVENT_START` is pending only in the `POE_DOWN` stage before the command is
issued, `REBOOT_EVENT_TIMER_STOP` only in the `POE_UP` stage, and after the command
`rebootTimeStart` lies `rebootDelay` seconds after it.

The last part needs that `rebootDelay + time(NULL)` fits the 32 bits of `rebootTimeStart`
(`PortAction.wraps`). Past that the sum wraps around, and the port is switched on at once.
-/

namespace AutoRestart

open FlagWord StepMachine EventTrace

/-! ## Commands and clock -/

/-- The PoE commands `rebootHandler` issued, each with the clock at its issue. -/
def rebootCmds (tr : List PortEvent) : List (PoeControl × Nat) :=
  tr.filterMap (fun
    | .poe .reboot c t => some (c, t)
    | _ => none)

/-- Every `POE_UP` follows a `POE_DOWN`, issued at least `delay` seconds before it, with no
command in between. -/
def OffTimeKept (delay : Nat) (cmds : List (PoeControl × Nat)) : Prop :=
  ∀ pre t post, cmds = pre ++ (.POE_UP, t) :: post →
    ∃ t₀, pre.getLast? = some (.POE_DOWN, t₀) ∧ t₀ + delay ≤ t

/-- The clock readings of a step, in the order the code takes them. -/
def PortAction.instants : PortAction → List Nat
  | .events e => [e.cmdTime, e.armTime, e.testTime, e.upTime, e.downTime, e.alarmTime]
  | .runTestSpeed _ now => [now]
  | _ => []

/-- The clock readings of a run of one port. -/
def clock (vs : List PortVisit) : List Nat := vs.flatMap (fun v => v.act.instants)

/-- The clock readings of a run of the table. -/
def tableClock (vs : List TableVisit) : List Nat := vs.flatMap (fun v => v.act.2.instants)

/-- The step issues the `POE_DOWN` of the port `p` and the end of the off-time does not fit the
32 bits of `rebootTimeStart`. -/
def PortAction.wraps (p : PortInfo) : PortAction → Bool
  | .events e =>
      p.portResetInfo.state == .REBOOT_STATE &&
        p.portRebootInfo.rebootState == .REBOOT_STATE_POE_DOWN &&
        p.portRebootInfo.rebootEvent.has .REBOOT_EVENT_START &&
        decide (2 ^ 32 ≤ p.portRebootInfo.rebootDelay.toNat + e.armTime)
  | _ => false

section Commands

variable {delay : Nat} {cmds : List (PoeControl × Nat)}

theorem rebootCmds_append (tr tr' : List PortEvent) :
    rebootCmds (tr ++ tr') = rebootCmds tr ++ rebootCmds tr' := List.filterMap_append

theorem offTimeKept_nil (delay : Nat) : OffTimeKept delay [] := by
  intro pre t post h
  simp at h

theorem OffTimeKept.down (h : OffTimeKept delay cmds) (t : Nat) :
    OffTimeKept delay (cmds ++ [(.POE_DOWN, t)]) := by
  intro pre t' post heq
  rcases split_last heq with ⟨-, hcmd, -⟩ | ⟨mid, heq, -⟩
  · simp at hcmd
  · exact h pre t' mid heq

theorem OffTimeKept.up (h : OffTimeKept delay cmds) {t₀ t : Nat}
    (hlast : cmds.getLast? = some (.POE_DOWN, t₀)) (hle : t₀ + delay ≤ t) :
    OffTimeKept delay (cmds ++ [(.POE_UP, t)]) := by
  intro pre t' post heq
  rcases split_last heq with ⟨rfl, hcmd, -⟩ | ⟨mid, heq, -⟩
  · simp only [Prod.mk.injEq, true_and] at hcmd
    exact ⟨t₀, hlast, hcmd ▸ hle⟩
  · exact h pre t' mid heq

/-- The alarms are not commands of `rebootHandler`. -/
theorem rebootCmds_eventsHandler (cfg : Config) (e : PassEnv) (p : PortInfo) :
    rebootCmds (eventsHandler cfg e p).2 = rebootCmds (stateHandler cfg e p).2 := by
  have halarm : rebootCmds (alarmPart e (stateHandler cfg e p).1).2 = [] :=
    filterMap_alarmPart (fun _ _ => rfl) e _
  rw [eventsHandler, rebootCmds_append, halarm, List.append_nil]

/-- Only a pass issues commands of `rebootHandler`. -/
theorem rebootCmds_portStep (cfg : Config) (p : PortInfo) {a : PortAction}
    (h : ∀ e, a ≠ .events e) : rebootCmds (portStep cfg p a).2 = [] := by
  cases a with
  | events e => exact absurd rfl (h e)
  | poll r => rfl
  | runTestDisable => rfl
  | runTestLink o => simp only [portStep, passedEvent]; split <;> rfl
  | runTestPing r => simp only [portStep, passedEvent]; split <;> rfl
  | runTestSpeed o t => simp only [portStep, passedEvent]; split <;> rfl
  | reboot => simp only [portStep, acceptedEvent]; split <;> rfl

end Commands

/-! ## The invariant -/

/-- The reboot of a port whose clock readings so far are `clk` and whose commands so far are
`cmds`. -/
structure OffInv (clk : List Nat) (r : PortRebootInfo) (cmds : List (PoeControl × Nat)) :
    Prop where
  delay : r.rebootDelay = 15
  start : r.rebootEvent.has .REBOOT_EVENT_START = true → r.rebootState = .REBOOT_STATE_POE_DOWN
  stop : r.rebootEvent.has .REBOOT_EVENT_TIMER_STOP = true → r.rebootState = .REBOOT_STATE_POE_UP
  armed : r.rebootState = .REBOOT_STATE_POE_DOWN →
    r.rebootEvent.has .REBOOT_EVENT_START = false →
    ∃ t, cmds.getLast? = some (.POE_DOWN, t) ∧ t + 15 ≤ r.rebootTimeStart.toNat
  ended : r.rebootState = .REBOOT_STATE_POE_UP →
    ∃ t, cmds.getLast? = some (.POE_DOWN, t) ∧ ∃ now ∈ clk, t + 15 ≤ now
  kept : OffTimeKept 15 cmds

section Invariant

variable {cfg : Config} {clk : List Nat} {r : PortRebootInfo} {p : PortInfo}
  {cmds : List (PoeControl × Nat)}

/-- The invariant looks at the past clock readings only. -/
theorem OffInv.mono (h : OffInv clk r cmds) (more : List Nat) : OffInv (clk ++ more) r cmds where
  delay := h.delay
  start := h.start
  stop := h.stop
  armed := h.armed
  ended hup := by
    obtain ⟨t, hlast, now, hnow, hle⟩ := h.ended hup
    exact ⟨t, hlast, now, List.mem_append_left _ hnow, hle⟩
  kept := h.kept

/-- Outside the `POE_DOWN` stage the command is not waiting to be issued. -/
theorem OffInv.not_start (h : OffInv clk r cmds) (hs : r.rebootState ≠ .REBOOT_STATE_POE_DOWN) :
    r.rebootEvent.has .REBOOT_EVENT_START = false := by
  by_contra hon
  exact hs (h.start (by simpa using hon))

/-- Outside the `POE_UP` stage the off-time is not over. -/
theorem OffInv.not_stop (h : OffInv clk r cmds) (hs : r.rebootState ≠ .REBOOT_STATE_POE_UP) :
    r.rebootEvent.has .REBOOT_EVENT_TIMER_STOP = false := by
  by_contra hon
  exact hs (h.stop (by simpa using hon))

theorem OffInv.idle (h : OffInv clk p.portRebootInfo cmds)
    (hidle : p.portRebootInfo.rebootState = .REBOOT_STATE_IDLE) (e : PassEnv) :
    OffInv clk (rebootIdle cfg e p).1.portRebootInfo
      (cmds ++ rebootCmds (rebootIdle cfg e p).2) := by
  have heff := rebootIdle_effect cfg e p hidle
  have hnone : rebootCmds (rebootIdle cfg e p).2 = [] := by
    rw [heff.events]
    cases startsAuto cfg p <;> cases startsManual p <;> rfl
  have hstage : idleStage cfg p = .REBOOT_STATE_INIT ∨ idleStage cfg p = .REBOOT_STATE_IDLE := by
    unfold idleStage
    split <;> simp
  have hstart := h.not_start (by simp [hidle])
  have hstop := h.not_stop (by simp [hidle])
  rw [hnone, List.append_nil, heff.reboot]
  exact ⟨h.delay, by simp [hstart], by simp [hstop], by rcases hstage with hs | hs <;> simp [hs],
    by rcases hstage with hs | hs <;> simp [hs], h.kept⟩

theorem OffInv.init (h : OffInv clk p.portRebootInfo cmds)
    (hinit : p.portRebootInfo.rebootState = .REBOOT_STATE_INIT) :
    OffInv clk (rebootInit p).portRebootInfo cmds := by
  have hstop := h.not_stop (by simp [hinit])
  exact ⟨h.delay, by simp [rebootInit], by simp [rebootInit, hstop], by simp [rebootInit],
    by simp [rebootInit], h.kept⟩

/-- The command is issued, and the end of the off-time fits its field. -/
theorem OffInv.arm (h : OffInv clk p.portRebootInfo cmds)
    (hdown : p.portRebootInfo.rebootState = .REBOOT_STATE_POE_DOWN) {e : PassEnv}
    (hle : e.cmdTime ≤ e.armTime)
    (hfits : p.portRebootInfo.rebootEvent.has .REBOOT_EVENT_START = true →
      p.portRebootInfo.rebootDelay.toNat + e.armTime < 2 ^ 32) :
    OffInv clk (rebootArm e p).1.portRebootInfo (cmds ++ rebootCmds (rebootArm e p).2) := by
  unfold rebootArm
  split
  · rename_i hstart
    have hlt := hfits hstart
    rw [h.delay] at hlt
    have hsum : (toU32 ((15 : UInt32).toNat + e.armTime)).toNat = 15 + e.armTime := by
      rw [toU32, UInt32.toNat_ofNat', Nat.mod_eq_of_lt hlt]
      rfl
    have hstop := h.not_stop (by simp [hdown])
    refine ⟨h.delay, by simp, by simp [hstop], fun _ _ => ⟨e.cmdTime, by simp [rebootCmds], ?_⟩,
      by simp [hdown], h.kept.down e.cmdTime⟩
    dsimp only
    rw [h.delay, hsum]
    omega
  · simpa [rebootCmds] using h

/-- The off-time ends when the clock has reached its end. -/
theorem OffInv.timer (h : OffInv clk p.portRebootInfo cmds)
    (hdown : p.portRebootInfo.rebootState = .REBOOT_STATE_POE_DOWN)
    (hissued : p.portRebootInfo.rebootEvent.has .REBOOT_EVENT_START = false) {e : PassEnv}
    (hmem : e.testTime ∈ clk) : OffInv clk (rebootTimer e p).portRebootInfo cmds := by
  have hstop := h.not_stop (by simp [hdown])
  obtain ⟨t, hlast, hle⟩ := h.armed hdown hissued
  unfold rebootTimer
  by_cases hover : p.portRebootInfo.rebootTimeStart.toNat ≤ e.testTime
  · simp only [hover, if_true, Flags.has_set]
    exact ⟨h.delay, by simp [hissued], by simp, by simp,
      fun _ => ⟨t, hlast, e.testTime, hmem, hle.trans hover⟩, h.kept⟩
  · simp only [hover, if_false, hstop]
    exact ⟨h.delay, h.start, by simp [hstop], h.armed, by simp [hdown], h.kept⟩

/-- The port is switched on after the off-time. -/
theorem OffInv.finish (h : OffInv clk p.portRebootInfo cmds)
    (hup : p.portRebootInfo.rebootState = .REBOOT_STATE_POE_UP) {e : PassEnv}
    (hclk : ∀ now ∈ clk, now ≤ e.cmdTime) :
    OffInv clk (rebootFinish e p).portRebootInfo (cmds ++ rebootCmds (rebootUpCommand e p)) := by
  have heff := rebootFinish_effect e p
  have hstart := h.not_start (by simp [hup])
  obtain ⟨t, hlast, now, hnow, hle⟩ := h.ended hup
  rw [heff.reboot]
  refine ⟨h.delay, by simp [hstart], by simp, by simp, by simp, ?_⟩
  unfold rebootUpCommand
  split
  · exact h.kept.up hlast (hle.trans (hclk now hnow))
  · simpa [rebootCmds] using h.kept

/-- The instants of a pass, with those before it, in order. -/
theorem instants_sorted {e : PassEnv}
    (h : (clk ++ (PortAction.events e).instants).Pairwise (· ≤ ·)) :
    (∀ now ∈ clk, now ≤ e.cmdTime) ∧ e.cmdTime ≤ e.armTime := by
  obtain ⟨-, hpass, hbefore⟩ := List.pairwise_append.mp h
  have harm : e.cmdTime ≤ e.armTime := by
    simp only [PortAction.instants, List.pairwise_cons] at hpass
    exact hpass.1 _ (by simp)
  exact ⟨fun now hnow => hbefore now hnow _ (by simp [PortAction.instants]), harm⟩

theorem OffInv.handler (h : OffInv clk p.portRebootInfo cmds) {e : PassEnv}
    (hsorted : (clk ++ (PortAction.events e).instants).Pairwise (· ≤ ·))
    (hfits : p.portRebootInfo.rebootState = .REBOOT_STATE_POE_DOWN →
      p.portRebootInfo.rebootEvent.has .REBOOT_EVENT_START = true →
      p.portRebootInfo.rebootDelay.toNat + e.armTime < 2 ^ 32) :
    OffInv (clk ++ (PortAction.events e).instants) (rebootHandler cfg e p).1.portRebootInfo
      (cmds ++ rebootCmds (rebootHandler cfg e p).2) := by
  obtain ⟨hpast, harm⟩ := instants_sorted hsorted
  unfold rebootHandler
  cases hr : p.portRebootInfo.rebootState with
  | REBOOT_STATE_IDLE => exact (h.idle hr e).mono _
  | REBOOT_STATE_INIT => simpa [rebootCmds] using (h.init hr).mono _
  | REBOOT_STATE_POE_DOWN =>
      -- both halves of the stage run in one pass: the command, then the test of the timer
      have harmed := (h.arm hr harm (hfits hr)).mono (PortAction.events e).instants
      have hdown : (rebootArm e p).1.portRebootInfo.rebootState = .REBOOT_STATE_POE_DOWN := by
        rw [(rebootArm_parts e p).2.2, hr]
      exact harmed.timer hdown (rebootArm_issued e p) (by simp [PortAction.instants])
  | REBOOT_STATE_POE_UP =>
      have hdone : rebootCmds (rebootUpCommand e p ++ [PortEvent.rebootDone]) =
          rebootCmds (rebootUpCommand e p) := by
        rw [rebootCmds_append]
        exact List.append_nil _
      rw [hdone]
      exact (h.finish hr hpast).mono _

/-- **One step keeps the off-time**, when the clock does not go back and an armed off-time
fits. -/
theorem OffInv.step (h : OffInv clk p.portRebootInfo cmds) (cfg : Config) {a : PortAction}
    (hsorted : (clk ++ a.instants).Pairwise (· ≤ ·)) (hfits : a.wraps p = false) :
    OffInv (clk ++ a.instants) (portStep cfg p a).1.portRebootInfo
      (cmds ++ rebootCmds (portStep cfg p a).2) := by
  have hother : (∀ e, a ≠ .events e) → (portStep cfg p a).1.portRebootInfo = p.portRebootInfo →
      OffInv (clk ++ a.instants) (portStep cfg p a).1.portRebootInfo
        (cmds ++ rebootCmds (portStep cfg p a).2) := by
    intro hev hsame
    rw [rebootCmds_portStep cfg p hev, List.append_nil, hsame]
    exact h.mono _
  cases a with
  | events e =>
      simp only [portStep]
      rw [rebootCmds_eventsHandler, (eventsHandler_frame cfg e p).reboot]
      unfold stateHandler
      cases hs : p.portResetInfo.state with
      | IDLE_STATE =>
          dsimp only
          rw [(idleBranch_parts p hs).1]
          simpa [rebootCmds] using h.mono _
      | REGULAR_STATE =>
          dsimp only
          rw [(testErrorHandler_effect cfg p).reboot]
          simpa [rebootCmds] using h.mono _
      | REBOOT_STATE =>
          refine h.handler hsorted (fun hdown hstart => ?_)
          simpa [PortAction.wraps, hs, hdown, hstart] using hfits
  | poll r => exact hother (by simp) (getPortAndPoeState_effect r p).reboot
  | reboot =>
      refine hother (by simp) ?_
      simp only [portStep, cmdRebootHandler]
      repeat' split
      all_goals rfl
  | runTestDisable | runTestLink | runTestPing | runTestSpeed =>
      exact hother (by simp) (portStep_test_frame cfg p rfl).reboot

theorem offInv_init (e : ParamEnv) : OffInv [] (initPortInfo e).portRebootInfo [] := by
  rw [initPortInfo_portRebootInfo]
  exact ⟨rfl, by simp, by simp, by simp, by simp, offTimeKept_nil 15⟩

end Invariant

/-! ## Runs of the table -/

theorem clock_projVisits_sublist (i : Fin NUM_PORTS) (vs : List TableVisit) :
    (clock (projVisits i vs)).Sublist (tableClock vs) := by
  induction vs with
  | nil => simp [clock, projVisits]
  | cons v vs ih =>
      by_cases hi : v.act.1 = i
      · have hproj : projVisits i (v :: vs) =
            ⟨v.state i, proj i v.past, v.act.2⟩ :: projVisits i vs := by simp [projVisits, hi]
        rw [hproj]
        exact (List.Sublist.refl _).append ih
      · have hproj : projVisits i (v :: vs) = projVisits i vs := by simp [projVisits, hi]
        rw [hproj]
        exact ih.trans (List.sublist_append_right _ _)

/-- The reboot of one port of the machine, after any run with a clock that does not go back. -/
theorem offInv_of_exec {cfg : Config} {e : ParamEnv} {vs : List PortVisit}
    {tr : List PortEvent} {p : PortInfo}
    (h : Exec (portMachine cfg) (initPortInfo e) vs tr p)
    (hclock : (clock vs).Pairwise (· ≤ ·)) (hfits : ∀ v ∈ vs, v.act.wraps v.state = false) :
    OffInv (clock vs) p.portRebootInfo (rebootCmds tr) := by
  refine h.inv_run (fun vs p tr => (clock vs).Pairwise (· ≤ ·) →
    (∀ v ∈ vs, v.act.wraps v.state = false) →
      OffInv (clock vs) p.portRebootInfo (rebootCmds tr))
    (fun _ _ => offInv_init e) ?_ hclock hfits
  intro vs p tr a q evs ih hstep hclock hfits
  obtain ⟨rfl, rfl⟩ := portMachine_step hstep
  have hsplit : clock (vs ++ [⟨p, tr, a⟩]) = clock vs ++ a.instants := by simp [clock]
  rw [hsplit] at hclock ⊢
  rw [rebootCmds_append]
  have hpast := ih (List.pairwise_append.mp hclock).1 (fun v hv => hfits v (by simp [hv]))
  exact hpast.step cfg hclock (hfits _ (List.mem_append_right _ (List.mem_singleton_self _)))

/-- **A reboot keeps its off-time**, in every run with a non-decreasing clock in which every
armed off-time fits 32 bits: `rebootDelay` stays at 15 seconds, and every `POE_UP` of
`rebootHandler` follows a `POE_DOWN` of it, issued at least that long before. -/
theorem offTimeKept_of_fits {cfg : Config} {e : Fin NUM_PORTS → ParamEnv}
    {vs : List TableVisit} {tr : List (Fin NUM_PORTS × PortEvent)} {s : Table}
    (h : Exec (tableMachine cfg) (initTable e) vs tr s)
    (hclock : (tableClock vs).Pairwise (· ≤ ·))
    (hfits : ∀ v ∈ vs, v.act.2.wraps (v.state v.act.1) = false) :
    ∀ i, (s i).portRebootInfo.rebootDelay = 15 ∧ OffTimeKept 15 (rebootCmds (proj i tr)) := by
  intro i
  have hport : (clock (projVisits i vs)).Pairwise (· ≤ ·) :=
    hclock.sublist (clock_projVisits_sublist i vs)
  have hinv := offInv_of_exec (h.proj i) hport
    (forall_projVisits (fun v hv hi => hi ▸ hfits v hv))
  exact ⟨hinv.delay, hinv.kept⟩

/-- The poll and the command that start a reboot. -/
def startReboot : List (Fin NUM_PORTS × PortAction) := [(0, .poll enablingPoll), (0, .reboot)]

/-- A reboot with passes over three seconds, and two more at the end of the off-time. -/
theorem offTimeKept_of_reboot : ∃ vs tr s,
    Exec (tableMachine ⟨3, 2⟩) (initTable fun _ => bareParams) vs tr s ∧
    rebootCmds (proj 0 tr) = [(.POE_DOWN, 2), (.POE_UP, 18)] ∧
    ∀ i, (s i).portRebootInfo.rebootDelay = 15 ∧ OffTimeKept 15 (rebootCmds (proj i tr)) := by
  have hpoll := (Exec.empty (tableMachine ⟨3, 2⟩) (initTable fun _ => bareParams)).snoc
    (a := (0, .poll enablingPoll)) rfl
  have hcmd := hpoll.snoc (a := (0, .reboot)) rfl
  have hidle := hcmd.snoc (a := (0, .events (passAt 0))) rfl
  have hinit := hidle.snoc (a := (0, .events (passAt 1))) rfl
  have hdown := hinit.snoc (a := (0, .events (passAt 2))) rfl
  have hover := hdown.snoc (a := (0, .events (passAt 17))) rfl
  have hup := hover.snoc (a := (0, .events (passAt 18))) rfl
  exact ⟨_, _, _, hup, by decide, offTimeKept_of_fits hup (by decide) (by decide)⟩

/-- Ten seconds before the 32-bit clock ends, a port is switched off and on in one second. -/
theorem wrapped_off_time : ¬ ∀ vs tr s,
    Exec (tableMachine ⟨3, 2⟩) (initTable fun _ => bareParams) vs tr s →
      (tableClock vs).Pairwise (· ≤ ·) → OffTimeKept 15 (rebootCmds (proj 0 tr)) := by
  intro h
  obtain ⟨vs, hvs, hact⟩ := Exec.replay (tableMachine ⟨3, 2⟩) (initTable fun _ => bareParams)
    (startReboot ++ List.replicate 4 (0, .events (passAt 4294967286))) rfl
  have hclock : tableClock vs = (vs.map Visit.act).flatMap (fun a => a.2.instants) := by
    rw [tableClock, List.flatMap_map]
  have hkept := h _ _ _ hvs (by rw [hclock, hact]; decide)
  obtain ⟨t₀, hlast, hle⟩ := hkept [(.POE_DOWN, 4294967286)] 4294967286 [] (by decide)
  simp only [List.getLast?_singleton, Option.some.injEq, Prod.mk.injEq, true_and] at hlast
  omega

end AutoRestart
