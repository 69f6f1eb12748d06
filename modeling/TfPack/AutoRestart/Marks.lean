import TfPack.AutoRestart.System

set_option autoImplicit false

/-! # The standing marks of the error word

Three flags of a port's error word say that the port is switched off on purpose: `ERR_POE_DOWN` by
the schedule, `ERR_PORT_DISABLE` and `ERR_PoE_DISABLE` by the administrator. `test_ErrorHandler`
does not monitor a port with one of them. They are set by the alarm and by the admin poll; what
clears them, besides the alarm, is the whole word being written anew, by a ping that is answered
and by `getPortParam` at the end of a reboot.
-/

namespace AutoRestart

open FlagWord StepMachine

/-- The flags that say the port is switched off on purpose. -/
def ErrFlag.isMark : ErrFlag → Bool
  | .ERR_POE_DOWN | .ERR_PORT_DISABLE | .ERR_PoE_DISABLE => true
  | _ => false

/-- The flag `f` of the port's error word is set. -/
def PortInfo.marked (f : ErrFlag) (p : PortInfo) : Bool := p.portResetInfo.errorCode.has f

/-- The next pass ends a reboot and reads the port's configuration again. -/
def PortInfo.reloads (p : PortInfo) : Bool :=
  p.portResetInfo.state == .REBOOT_STATE && p.portRebootInfo.rebootState == .REBOOT_STATE_POE_UP &&
    p.portResetInfo.event.has .MANUAL_RESTART

/-- The step is a ping test whose ping is answered. -/
def PortAction.answered (p : PortInfo) : PortAction → Bool
  | .runTestPing r => pingPasses r p
  | _ => false

theorem ErrFlag.isMark_cases {f : ErrFlag} (h : f.isMark = true) :
    f = .ERR_POE_DOWN ∨ f = .ERR_PORT_DISABLE ∨ f = .ERR_PoE_DISABLE := by
  cases f <;> simp_all [ErrFlag.isMark]

theorem PortInfo.not_reloads_of_state {p : PortInfo}
    (h : p.portResetInfo.state ≠ .REBOOT_STATE) : p.reloads = false := by
  simp [PortInfo.reloads, h]

theorem PortInfo.not_reloads_of_stage {p : PortInfo}
    (h : p.portRebootInfo.rebootState ≠ .REBOOT_STATE_POE_UP) : p.reloads = false := by
  simp [PortInfo.reloads, h]

section Marks

variable {f : ErrFlag} (hf : f.isMark = true) (p : PortInfo)

/-! ## Tests -/

theorem noteTestOk_marked : (noteTestOk p).marked f = p.marked f := by
  unfold noteTestOk
  split <;> rfl

include hf

theorem portRunTestDisable_marked : (portRunTestDisable p).marked f = p.marked f := by
  rcases ErrFlag.isMark_cases hf with rfl | rfl | rfl <;>
    simp [portRunTestDisable, PortInfo.marked]

theorem portRunTestLink_marked (operstate : String) :
    (portRunTestLink operstate p).marked f = p.marked f := by
  simp only [portRunTestLink]
  split
  · split
    · rw [noteTestOk_marked]
      rcases ErrFlag.isMark_cases hf with rfl | rfl | rfl <;> simp [PortInfo.marked]
    · rcases ErrFlag.isMark_cases hf with rfl | rfl | rfl <;> simp [PortInfo.marked]
  · rcases ErrFlag.isMark_cases hf with rfl | rfl | rfl <;> simp [PortInfo.marked]

theorem portRunTestSpeed_marked (output : String) (now : Nat) :
    (portRunTestSpeed output now p).marked f = p.marked f := by
  simp only [portRunTestSpeed]
  split
  · rcases ErrFlag.isMark_cases hf with rfl | rfl | rfl <;> simp [PortInfo.marked]
  · split
    · rcases ErrFlag.isMark_cases hf with rfl | rfl | rfl <;> simp [PortInfo.marked]
    · split
      · rcases ErrFlag.isMark_cases hf with rfl | rfl | rfl <;> simp [PortInfo.marked]
      · rw [noteTestOk_marked]
        rcases ErrFlag.isMark_cases hf with rfl | rfl | rfl <;> simp [PortInfo.marked]

/-- **A ping that is answered clears all marks.** -/
theorem portRunTestPing_marked (reply : Option UInt32) :
    (portRunTestPing reply p).marked f = (p.marked f && !pingPasses reply p) := by
  cases hlink : p.portResetInfo.errorCode.has .ERR_TEST_LINK with
  | true =>
      simp only [portRunTestPing, hlink, if_true, pingPasses]
      rcases ErrFlag.isMark_cases hf with rfl | rfl | rfl <;> simp [PortInfo.marked]
  | false =>
      cases reply with
      | none =>
          simp only [portRunTestPing, hlink, Bool.false_eq_true, if_false, pingPasses]
          rcases ErrFlag.isMark_cases hf with rfl | rfl | rfl <;> simp [PortInfo.marked]
      | some t =>
          simp only [portRunTestPing, hlink, Bool.false_eq_true, if_false, pingPasses,
            noteTestOk_marked]
          rcases ErrFlag.isMark_cases hf with rfl | rfl | rfl <;> simp [PortInfo.marked]

/-! ## Handlers -/

theorem testErrorHandler_marked (cfg : Config) :
    (testErrorHandler cfg p).marked f = p.marked f := by
  have hok : (okBranch p).marked f = p.marked f := by
    unfold okBranch
    dsimp only
    split
    · split <;> split <;>
        rcases ErrFlag.isMark_cases hf with rfl | rfl | rfl <;> simp_all [PortInfo.marked]
    · rfl
  rw [← hok, testErrorHandler]
  unfold failBranch
  dsimp only
  split
  · rfl
  · split <;> rfl

theorem idleBranch_marked : (idleBranch p).marked f = p.marked f := by
  unfold idleBranch
  split
  · rcases ErrFlag.isMark_cases hf with rfl | rfl | rfl <;> simp [PortInfo.marked]
  · rfl

theorem autoResetHandler_marked (maxReset : UInt8) (timeDate : String) :
    (autoResetHandler maxReset timeDate p).1.marked f = p.marked f := by
  unfold autoResetHandler
  dsimp only
  split <;>
    rcases ErrFlag.isMark_cases hf with rfl | rfl | rfl <;> simp [PortInfo.marked]

theorem manualResetHandler_marked (timeDate : String) :
    (manualResetHandler timeDate p).1.marked f = p.marked f := by
  rcases ErrFlag.isMark_cases hf with rfl | rfl | rfl <;>
    simp [manualResetHandler, PortInfo.marked]

theorem rebootIdle_marked (cfg : Config) (e : PassEnv) :
    (rebootIdle cfg e p).1.marked f = p.marked f := by
  have hauto : (idleAuto cfg e p).1.marked f = p.marked f := by
    unfold idleAuto
    split
    · rw [autoResetHandler_marked hf]
      rfl
    · rfl
  rw [rebootIdle_eq, ← hauto]
  unfold idleManual
  split
  · exact manualResetHandler_marked hf (idleAuto cfg e p).1 (getTimeDate e.ctime e.cmdTime)
  · rfl

/-- The error code of a configured test holds no mark. -/
theorem setTestConfig_noMark (e : ParamEnv) (c : PortConfigInfo) {t : TypeOfTest}
    (ht : t ≠ .test_disable ∧ t ≠ .test_max) : (setTestConfig e c t).2.has f = false := by
  have hip : ((Flags.none.set .ERR_IP_NOT_VALID) : ErrorCode).has f = false := by
    rcases ErrFlag.isMark_cases hf with rfl | rfl | rfl <;> rfl
  have hspeed : ((Flags.none.set .ERR_SPEED_VALUE) : ErrorCode).has f = false := by
    rcases ErrFlag.isMark_cases hf with rfl | rfl | rfl <;> rfl
  have hok : ((Flags.none.set .ERR_OK) : ErrorCode).has f = false := by
    rcases ErrFlag.isMark_cases hf with rfl | rfl | rfl <;> rfl
  cases t with
  | test_disable => exact absurd rfl ht.1
  | test_max => exact absurd rfl ht.2
  | test_link => exact hok
  | test_ping =>
      show (setHost c e.reply).2.has f = false
      unfold setHost portSetHostParam
      split
      · exact hip
      · dsimp only
        split
        · rfl
        · exact hip
  | test_speed =>
      show (setSpeed c e.reply e.strayErrorCode).2.has f = false
      unfold setSpeed portSetSpeedParam
      repeat' split
      all_goals first | exact hspeed | exact hok

/-- `getPortParam` leaves no mark. -/
theorem getPortParam_marked (e : ParamEnv) (b : Bool) :
    (getPortParam e b p).marked f = false := by
  have happly : ∀ q, (applyAlarm e q).portResetInfo = q.portResetInfo := by
    intro q
    unfold applyAlarm
    split <;> rfl
  unfold getPortParam
  rw [PortInfo.marked, setErrorHandler_portResetInfo, happly]
  generalize getCmdKey _ = t
  cases t with
  | test_max | test_disable =>
      rcases ErrFlag.isMark_cases hf with rfl | rfl | rfl <;> rfl
  | test_link | test_ping | test_speed => exact setTestConfig_noMark hf e _ (by simp)

/-- The end of a reboot clears the marks exactly when it reads the configuration again. -/
theorem rebootFinish_marked (e : PassEnv) :
    (rebootFinish e p).marked f =
      (p.marked f && !p.portResetInfo.event.has .MANUAL_RESTART) := by
  unfold rebootFinish
  cases hman : p.portResetInfo.event.has .MANUAL_RESTART with
  | true =>
      simp only [hman, if_true, Bool.not_true, Bool.and_false]
      exact getPortParam_marked hf _ _ _
  | false =>
      simp only [hman, Bool.false_eq_true, if_false, Bool.not_false, Bool.and_true]
      rcases ErrFlag.isMark_cases hf with rfl | rfl | rfl <;> simp [PortInfo.marked]

/-- **The handler of a pass keeps the marks unless it reads the configuration again.** -/
theorem stateHandler_marked (cfg : Config) (e : PassEnv) :
    (stateHandler cfg e p).1.marked f = (p.marked f && !p.reloads) := by
  unfold stateHandler
  cases hstate : p.portResetInfo.state with
  | IDLE_STATE =>
      rw [PortInfo.not_reloads_of_state (by simp [hstate]), Bool.not_false, Bool.and_true]
      exact idleBranch_marked hf p
  | REGULAR_STATE =>
      rw [PortInfo.not_reloads_of_state (by simp [hstate]), Bool.not_false, Bool.and_true]
      exact testErrorHandler_marked hf p cfg
  | REBOOT_STATE =>
      unfold rebootHandler
      cases hstage : p.portRebootInfo.rebootState with
      | REBOOT_STATE_IDLE =>
          rw [PortInfo.not_reloads_of_stage (by simp [hstage]), Bool.not_false, Bool.and_true]
          exact rebootIdle_marked hf p cfg e
      | REBOOT_STATE_INIT =>
          rw [PortInfo.not_reloads_of_stage (by simp [hstage]), Bool.not_false, Bool.and_true]
          rfl
      | REBOOT_STATE_POE_DOWN =>
          rw [PortInfo.not_reloads_of_stage (by simp [hstage]), Bool.not_false, Bool.and_true]
          simp only [PortInfo.marked, (rebootTimer_parts e _).2.1, (rebootArm_parts e p).2.1]
      | REBOOT_STATE_POE_UP =>
          simpa [PortInfo.reloads, hstate, hstage] using rebootFinish_marked hf p e

omit hf in
/-- A reboot command leaves the error word alone. -/
theorem cmdRebootHandler_marked : (cmdRebootHandler p).1.marked f = p.marked f := by
  unfold cmdRebootHandler
  repeat' split
  all_goals rfl

/-- A test step clears the marks exactly when it is a ping that is answered. -/
theorem portStep_test_marked (cfg : Config) {a : PortAction} (ha : a.isTest = true) :
    (portStep cfg p a).1.marked f = (p.marked f && !a.answered p) := by
  cases a with
  | runTestDisable =>
      show (portRunTestDisable p).marked f = (p.marked f && true)
      rw [portRunTestDisable_marked hf, Bool.and_true]
  | runTestLink o =>
      show (portRunTestLink o p).marked f = (p.marked f && true)
      rw [portRunTestLink_marked hf, Bool.and_true]
  | runTestPing r => exact portRunTestPing_marked hf p r
  | runTestSpeed o t =>
      show (portRunTestSpeed o t p).marked f = (p.marked f && true)
      rw [portRunTestSpeed_marked hf, Bool.and_true]
  | events e => simp [PortAction.isTest] at ha
  | poll r => simp [PortAction.isTest] at ha
  | reboot => simp [PortAction.isTest] at ha

end Marks

end AutoRestart
