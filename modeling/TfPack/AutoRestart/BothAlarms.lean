import TfPack.AutoRestart.AlarmMark
import TfPack.AutoRestart.AlarmTime

set_option autoImplicit false

/-! # Two alarms in one pass

When a pass finds both alarms of a port due, because it comes late or because a reboot deferred
them, `alarmHandler` serves the switch-off first and the switch-on after it, whatever the times
are. That is the order of the schedule unless the time of the switch-off was the last to come
(`servedInOrder_iff`).
-/

namespace AutoRestart

open FlagWord DayTime

/-! ## The last time of an alarm -/

/-- The local time of `t` is the time of the alarm. -/
def TimeHM.at (C : CTime) (a : TimeHM) (t : Int) : Prop :=
  (C.localtime t).tm_hour = a.time_H.toNat ∧ (C.localtime t).tm_min = a.time_M.toNat ∧
    (C.localtime t).tm_sec = 0

/-- The last instant up to `now` at the time of the alarm. -/
def TimeHM.last (off : Int) (now : Nat) (a : TimeHM) : Int :=
  prev daySeconds off (timeOfDay a.time_H.toNat a.time_M.toNat) now

variable {K : Calendar} {off : Int}

theorem TimeHM.at_fixedZone {a : TimeHM} (hM : a.time_M.toNat < 60) {t : Int} :
    a.at (fixedZone K off) t ↔
      (t + off) % daySeconds = timeOfDay a.time_H.toNat a.time_M.toNat := by
  have hnonneg := Int.emod_nonneg (t + off) (show (86400 : Int) ≠ 0 by decide)
  simp only [TimeHM.at, fixedZone, timeOfDay, daySeconds]
  constructor
  · rintro ⟨hhour, hmin, hsec⟩
    omega
  · intro h
    refine ⟨?_, ?_, ?_⟩ <;> omega

/-- **`last` is the last instant at which the clock shows the time of the alarm.** -/
theorem TimeHM.last_isGreatest {a : TimeHM} {now : Nat} (hH : a.time_H.toNat < 24)
    (hM : a.time_M.toNat < 60) :
    IsGreatest {t : Int | t ≤ now ∧ a.at (fixedZone K off) t} (a.last off now) := by
  have hset : {t : Int | t ≤ now ∧ a.at (fixedZone K off) t} =
      upToAt daySeconds off (timeOfDay a.time_H.toNat a.time_M.toNat) now := by
    ext t
    exact and_congr_right fun _ => TimeHM.at_fixedZone hM
  rw [hset]
  apply isGreatest_prev (by decide)
  · rw [timeOfDay]
    omega
  · rw [timeOfDay, daySeconds]
    omega

/-! ## The two alarms -/

/-- The pass finds the alarm due, or it has been since a pass that deferred it. -/
def TimeHM.pending (now : Nat) (a : TimeHM) : Prop :=
  a.due now = true ∨ a.status = .enable

/-- The two alarms served one by one, each at the time of day configured for it: the one whose
time was the last to come is served last. -/
def separately (off : Int) (e : PassEnv) (p : PortInfo) : PortInfo :=
  let tUp := p.portConfigInfo.timeAlarmUp.last off e.upTime
  let tDown := p.portConfigInfo.timeAlarmDown.last off e.downTime
  let up : PassEnv := { e with alarmTime := tUp.toNat }
  let down : PassEnv := { e with alarmTime := tDown.toNat }
  let q := portRunTestTime e.ctime e.upTime e.downTime p
  if tDown ≤ tUp then (alarmUp up (alarmDown down q).1).1
  else (alarmDown down (alarmUp up q).1).1

/-- The command of the alarm whose time was the last to come. -/
def scheduledCommand (off : Int) (e : PassEnv) (p : PortInfo) : PoeControl :=
  if p.portConfigInfo.timeAlarmDown.last off e.downTime ≤
    p.portConfigInfo.timeAlarmUp.last off e.upTime then .POE_UP else .POE_DOWN

/-- The record without `timeStr`, the text of the moment a switch-off is served. -/
def withoutTimeStr (p : PortInfo) : PortInfo := { p with portConfigInfo.timeStr := "" }

/-- The pass leaves the command of the schedule in force, and the record as the two alarms served
one by one leave it. -/
structure ServedInOrder (off : Int) (e : PassEnv) (p : PortInfo) : Prop where
  command : lastAlarm (alarmHandler e p).2 = some (scheduledCommand off e p)
  state : withoutTimeStr (alarmHandler e p).1 = withoutTimeStr (separately off e p)

variable {e : PassEnv} {p : PortInfo}

/-- A pending alarm is marked before it is served. -/
theorem portTimeAlarm_status {C : CTime} {now : Nat} {a : TimeHM} (h : a.pending now) :
    (portTimeAlarm C now a).status = .enable := by
  unfold portTimeAlarm
  split
  case isTrue => rfl
  case isFalse hdue => exact h.resolve_left (by simpa [TimeHM.due] using hdue)

/-- The commands of a pass with both alarms pending. -/
theorem alarmHandler_both (hstate : p.portResetInfo.state ≠ .REBOOT_STATE)
    (hup : p.portConfigInfo.timeAlarmUp.pending e.upTime)
    (hdown : p.portConfigInfo.timeAlarmDown.pending e.downTime) :
    let q := portRunTestTime e.ctime e.upTime e.downTime p
    alarmHandler e p = ((alarmUp e (alarmDown e q).1).1,
      [.poe .alarm .POE_DOWN e.alarmTime, .poe .alarm .POE_UP e.alarmTime]) := by
  intro q
  have hqDown : q.portConfigInfo.timeAlarmDown.status = .enable := portTimeAlarm_status hdown
  have hqUp : (alarmDown e q).1.portConfigInfo.timeAlarmUp.status = .enable := by
    rw [alarmDown, if_pos hqDown]
    exact portTimeAlarm_status hup
  have hboth : alarmHandler e p =
      ((alarmUp e (alarmDown e q).1).1, (alarmDown e q).2 ++ (alarmUp e (alarmDown e q).1).2) :=
    if_neg hstate
  have hdownEvent : (alarmDown e q).2 = [.poe .alarm .POE_DOWN e.alarmTime] := by
    rw [alarmDown, if_pos hqDown]
  have hupEvent : (alarmUp e (alarmDown e q).1).2 = [.poe .alarm .POE_UP e.alarmTime] := by
    rw [alarmUp, if_pos hqUp]
  rw [hboth, hdownEvent, hupEvent]
  rfl

/-- The instant at which the alarms are served leaves its trace in `timeStr` only. -/
theorem withoutTimeStr_serve (t t' t'' : Nat) (q : PortInfo) :
    withoutTimeStr (alarmUp { e with alarmTime := t } (alarmDown { e with alarmTime := t' } q).1).1 =
      withoutTimeStr (alarmUp { e with alarmTime := t'' }
        (alarmDown { e with alarmTime := t'' } q).1).1 := by
  unfold alarmUp alarmDown
  dsimp only
  by_cases hdown : q.portConfigInfo.timeAlarmDown.status = .enable
  all_goals
    simp only [hdown, if_true, if_false]
    split <;> rfl

/-- A switch-off whose time was the last to come is undone. -/
theorem not_servedInOrder (hstate : p.portResetInfo.state ≠ .REBOOT_STATE)
    (hup : p.portConfigInfo.timeAlarmUp.pending e.upTime)
    (hdown : p.portConfigInfo.timeAlarmDown.pending e.downTime)
    (hlate : p.portConfigInfo.timeAlarmUp.last off e.upTime <
      p.portConfigInfo.timeAlarmDown.last off e.downTime) : ¬ServedInOrder off e p := by
  intro h
  have hcommand := h.command
  rw [alarmHandler_both hstate hup hdown, scheduledCommand, if_neg (not_le.mpr hlate)] at hcommand
  cases hcommand

/-- **When both alarms of a port are due in one pass, the schedule is kept exactly when the time
of the switch-off was not the last to come.** -/
theorem servedInOrder_iff (hstate : p.portResetInfo.state ≠ .REBOOT_STATE)
    (hup : p.portConfigInfo.timeAlarmUp.pending e.upTime)
    (hdown : p.portConfigInfo.timeAlarmDown.pending e.downTime) :
    ServedInOrder off e p ↔
      p.portConfigInfo.timeAlarmDown.last off e.downTime ≤
        p.portConfigInfo.timeAlarmUp.last off e.upTime := by
  have hboth := alarmHandler_both hstate hup hdown
  constructor
  · intro h
    by_contra hlate
    exact not_servedInOrder hstate hup hdown (not_le.mp hlate) h
  · intro hle
    constructor
    · rw [hboth, scheduledCommand, if_pos hle]
      rfl
    · rw [hboth, separately, if_pos hle]
      exact (withoutTimeStr_serve _ _ e.alarmTime _).symm

/-- A port that is switched at eight in the morning and at eight in the evening, and the alarms of
the day are still to be served. -/
def scheduledPort (up down : UInt8) : PortInfo :=
  { zeroPortInfo with
    portConfigInfo.timeAlarmUp := ⟨.disable, up, 0, UInt32.ofNat (3600 * up.toNat), 0⟩
    portConfigInfo.timeAlarmDown := ⟨.disable, down, 0, UInt32.ofNat (3600 * down.toNat), 0⟩ }

/-- The first pass of the day, at eleven in the evening. -/
def eveningPass : PassEnv := { passAt 82800 with ctime := utc }

/-- Off at eight in the morning and on in the evening: the late pass leaves the port on. -/
theorem servedInOrder_on : ServedInOrder 0 eveningPass (scheduledPort 20 8) :=
  (servedInOrder_iff (by decide) (.inl (by decide)) (.inl (by decide))).mpr (by decide)

/-- On in the morning and off in the evening: the late pass leaves the port on as well. -/
theorem late_switch_off_undone :
    ¬∀ (off : Int) (e : PassEnv) (p : PortInfo), p.portResetInfo.state ≠ .REBOOT_STATE →
      p.portConfigInfo.timeAlarmUp.pending e.upTime →
      p.portConfigInfo.timeAlarmDown.pending e.downTime → ServedInOrder off e p :=
  fun h => not_servedInOrder (by decide) (.inl (by decide)) (.inl (by decide)) (by decide)
    (h 0 eveningPass (scheduledPort 8 20) (by decide) (.inl (by decide)) (.inl (by decide)))

end AutoRestart
