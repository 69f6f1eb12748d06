import TfPack.AutoRestart.Port

set_option autoImplicit false

/-! # The bits a test routine owns

Each of the four test routines decides one bit of the error code, and `ERR_OK` with it. A routine
that fails, and a link or speed test that passes, writes through masks and leaves every other flag
as it was; a ping that passes assigns `ERR_OK` to the whole word, so every flag another handler had
set is lost. And `ERR_OK` is set without a look at the other bits of the port's test, so it can
stand beside the ping bit of an earlier round after the link test (`testBits_kept_iff`).
-/

namespace AutoRestart

open FlagWord

/-! ## The calls -/

/-- A call of a test routine, with what the routine reads from outside. -/
inductive TestCall
  | runTestDisable
  | runTestLink (operstate : String)
  | runTestPing (reply : Option UInt32)
  | runTestSpeed (output : String) (now : Nat)

/-- The record after the call. -/
def TestCall.run : TestCall → PortInfo → PortInfo
  | runTestDisable, p => portRunTestDisable p
  | runTestLink o, p => portRunTestLink o p
  | runTestPing r, p => portRunTestPing r p
  | runTestSpeed o t, p => portRunTestSpeed o t p

/-- The bit the routine decides. -/
def TestCall.bit : TestCall → ErrFlag
  | runTestDisable => .ERR_TEST_DISABLE
  | runTestLink _ => .ERR_TEST_LINK
  | runTestPing _ => .ERR_TEST_PING
  | runTestSpeed _ _ => .ERR_TEST_SPEED

/-- The routine finds nothing wrong. -/
def TestCall.passes : TestCall → PortInfo → Bool
  | runTestDisable, _ => false
  | runTestLink o, _ => linkUp o
  | runTestPing r, p => pingPasses r p
  | runTestSpeed o t, p => speedPasses o t p

/-- The call is a ping that is answered: the branch that assigns to the error code. -/
def TestCall.Assigns (call : TestCall) (p : PortInfo) : Prop :=
  call.bit = .ERR_TEST_PING ∧ call.passes p = true

/-- The bits of the routines that `runTest` runs for a test. -/
def testBits : TypeOfTest → List ErrFlag
  | .test_disable => [.ERR_TEST_DISABLE]
  | .test_link => [.ERR_TEST_LINK]
  | .test_ping => [.ERR_TEST_LINK, .ERR_TEST_PING]
  | .test_speed => [.ERR_TEST_LINK, .ERR_TEST_SPEED]
  | .test_max => []

/-- The call changes `ERR_OK` and its own bit only, and `ERR_OK` says afterwards that no bit of
the port's test is set. -/
structure KeepsBits (call : TestCall) (p : PortInfo) : Prop where
  frame : ∀ f, f ≠ .ERR_OK → f ≠ call.bit →
    (call.run p).portResetInfo.errorCode.has f = p.portResetInfo.errorCode.has f
  ok_iff : (call.run p).portResetInfo.errorCode.has .ERR_OK = true ↔
    ∀ f ∈ testBits p.portConfigInfo.test,
      (call.run p).portResetInfo.errorCode.has f = false

/-! ## What the routines write -/

theorem TestCall.bit_ne_ok (call : TestCall) : call.bit ≠ .ERR_OK := by
  cases call <;> exact nofun

theorem testBits_ne_ok {t : TypeOfTest} {f : ErrFlag} (hf : f ∈ testBits t) : f ≠ .ERR_OK := by
  rintro rfl
  cases t <;> exact absurd hf (by decide)

variable {call : TestCall} {p : PortInfo}

/-- A routine that fails sets its bit and clears `ERR_OK`. -/
theorem TestCall.run_failed (h : call.passes p = false) (f : ErrFlag) :
    (call.run p).portResetInfo.errorCode.has f =
      if f = call.bit then true else if f = .ERR_OK then false
        else p.portResetInfo.errorCode.has f := by
  cases call with
  | runTestDisable => simp [run, bit, portRunTestDisable]
  | runTestLink o =>
      have hdown : linkUp o = false := h
      cases f <;> simp [run, bit, portRunTestLink, hdown]
  | runTestPing r =>
      have hnone : (if p.portResetInfo.errorCode.has .ERR_TEST_LINK = true then none else r) =
          none := by
        have hping : pingPasses r p = false := h
        split
        case isTrue => rfl
        case isFalse hlink => simpa [pingPasses, hlink] using hping
      simp [run, bit, portRunTestPing, hnone]
  | runTestSpeed o t =>
      have hspeed : speedPasses o t p = false := h
      cases hlink : p.portResetInfo.errorCode.has .ERR_TEST_LINK with
      | true => simp [run, bit, portRunTestSpeed, hlink]
      | false =>
          by_cases htime : (speedDelta o t p.portConfigInfo).2 = 0
          · cases f <;> simp [run, bit, portRunTestSpeed, hlink, htime]
          · have hout : speedOutside ((speedDelta o t p.portConfigInfo).1 /
                (speedDelta o t p.portConfigInfo).2 / 1000)
                (storeSpeed o t p.portConfigInfo) = true := by
              simpa [speedPasses, hlink, htime, speedOutside_storeSpeed] using hspeed
            cases f <;> simp [run, bit, portRunTestSpeed, hlink, htime, hout]

/-- A link or speed test that passes clears its bit and sets `ERR_OK`. -/
theorem TestCall.run_passed (h : call.passes p = true) (hmask : ¬call.Assigns p) (f : ErrFlag) :
    (call.run p).portResetInfo.errorCode.has f =
      if f = .ERR_OK then true else if f = call.bit then false
        else p.portResetInfo.errorCode.has f := by
  cases call with
  | runTestDisable => cases h
  | runTestLink o =>
      have hup : linkUp o = true := h
      have herr : (portRunTestLink o p).portResetInfo.errorCode =
          (p.portResetInfo.errorCode.clear .ERR_TEST_LINK).set .ERR_OK := by
        by_cases htest : p.portConfigInfo.test = .test_link
        all_goals simp [portRunTestLink, hup, htest]
      rw [run, herr]
      rfl
  | runTestPing r => exact absurd ⟨rfl, h⟩ hmask
  | runTestSpeed o t =>
      obtain ⟨⟨hlink, htime⟩, hin⟩ : (p.portResetInfo.errorCode.has .ERR_TEST_LINK = false ∧
          (speedDelta o t p.portConfigInfo).2 ≠ 0) ∧
          speedOutside ((speedDelta o t p.portConfigInfo).1 /
            (speedDelta o t p.portConfigInfo).2 / 1000) p.portConfigInfo = false := by
        simpa [passes, speedPasses] using h
      have herr : (portRunTestSpeed o t p).portResetInfo.errorCode =
          (p.portResetInfo.errorCode.clear .ERR_TEST_SPEED).set .ERR_OK := by
        simp [portRunTestSpeed, hlink, htime, speedOutside_storeSpeed, hin]
      rw [run, herr]
      rfl

/-- A ping that is answered leaves `ERR_OK` alone in the word. -/
theorem TestCall.run_assigned (h : call.Assigns p) (f : ErrFlag) :
    (call.run p).portResetInfo.errorCode.has f = decide (f = .ERR_OK) := by
  obtain ⟨hbit, hpass⟩ := h
  cases call with
  | runTestDisable => cases hpass
  | runTestLink o => cases hbit
  | runTestSpeed o t => cases hbit
  | runTestPing r =>
      obtain ⟨hlink, hreply⟩ : p.portResetInfo.errorCode.has .ERR_TEST_LINK = false ∧
          r.isSome = true := by
        simpa [passes, pingPasses] using hpass
      obtain ⟨ms, rfl⟩ := Option.isSome_iff_exists.mp hreply
      simp [run, portRunTestPing, hlink]

/-! ## When the bits are kept -/

/-- A routine that fails keeps the bits when its bit belongs to the port's test, or a bit of the
test was set already. -/
theorem keepsBits_failed (h : call.passes p = false) :
    KeepsBits call p ↔ call.bit ∈ testBits p.portConfigInfo.test ∨
      ∃ f ∈ testBits p.portConfigInfo.test, p.portResetInfo.errorCode.has f = true := by
  have hok : (call.run p).portResetInfo.errorCode.has .ERR_OK = false := by
    rw [TestCall.run_failed h, if_neg (Ne.symm call.bit_ne_ok), if_pos rfl]
  constructor
  · intro hkeeps
    have hsome : ¬∀ f ∈ testBits p.portConfigInfo.test,
        (call.run p).portResetInfo.errorCode.has f = false := by
      rw [← hkeeps.ok_iff, hok]
      exact Bool.false_ne_true
    push Not at hsome
    obtain ⟨f, hf, hset⟩ := hsome
    rw [TestCall.run_failed h] at hset
    by_cases hbit : f = call.bit
    · exact .inl (hbit ▸ hf)
    · rw [if_neg hbit, if_neg (testBits_ne_ok hf), ne_eq, Bool.not_eq_false] at hset
      exact .inr ⟨f, hf, hset⟩
  · intro hcond
    refine ⟨fun f hne hbit => by rw [TestCall.run_failed h, if_neg hbit, if_neg hne], ?_⟩
    rw [hok]
    refine ⟨nofun, fun hclear => ?_⟩
    rcases hcond with hbit | ⟨f, hf, hset⟩
    · have hone := hclear _ hbit
      rw [TestCall.run_failed h, if_pos rfl] at hone
      cases hone
    · have hzero := hclear f hf
      rw [TestCall.run_failed h, if_neg (testBits_ne_ok hf)] at hzero
      split at hzero
      · cases hzero
      · rw [hset] at hzero
        cases hzero

/-- A link or speed test that passes keeps the bits when no other bit of the port's test was
set. -/
theorem keepsBits_passed (h : call.passes p = true) (hmask : ¬call.Assigns p) :
    KeepsBits call p ↔ ∀ f ∈ testBits p.portConfigInfo.test, f ≠ call.bit →
      p.portResetInfo.errorCode.has f = false := by
  have hok : (call.run p).portResetInfo.errorCode.has .ERR_OK = true := by
    rw [TestCall.run_passed h hmask, if_pos rfl]
  have hother : ∀ f ∈ testBits p.portConfigInfo.test, f ≠ call.bit →
      (call.run p).portResetInfo.errorCode.has f = p.portResetInfo.errorCode.has f :=
    fun f hf hbit => by
      rw [TestCall.run_passed h hmask, if_neg (testBits_ne_ok hf), if_neg hbit]
  constructor
  · intro hkeeps f hf hbit
    rw [← hother f hf hbit]
    exact hkeeps.ok_iff.mp hok f hf
  · intro hclear
    refine ⟨fun f hne hbit => by rw [TestCall.run_passed h hmask, if_neg hne, if_neg hbit], ?_⟩
    rw [hok]
    refine ⟨fun _ f hf => ?_, fun _ => rfl⟩
    by_cases hbit : f = call.bit
    · rw [TestCall.run_passed h hmask, if_neg (testBits_ne_ok hf), if_pos hbit]
    · rw [hother f hf hbit, hclear f hf hbit]

/-- An answered ping keeps the bits when there was none to lose. -/
theorem keepsBits_assigned (h : call.Assigns p) :
    KeepsBits call p ↔ ∀ f, f ≠ .ERR_OK → f ≠ call.bit →
      p.portResetInfo.errorCode.has f = false := by
  have hafter : ∀ f, f ≠ .ERR_OK → (call.run p).portResetInfo.errorCode.has f = false :=
    fun f hne => by rw [TestCall.run_assigned h, decide_eq_false hne]
  constructor
  · intro hkeeps f hne hbit
    rw [← hkeeps.frame f hne hbit, hafter f hne]
  · intro hnone
    refine ⟨fun f hne hbit => by rw [hafter f hne, hnone f hne hbit], ?_⟩
    rw [TestCall.run_assigned h, decide_eq_true rfl]
    exact ⟨fun _ f hf => hafter f (testBits_ne_ok hf), fun _ => rfl⟩

/-- **When a test routine keeps to its bits.** One that fails belongs to the port's test or finds
a bit of it set; one that passes finds no other bit of the test set; and a ping that is answered
finds no flag set at all besides `ERR_OK` and its own. -/
theorem testBits_kept_iff (call : TestCall) (p : PortInfo) :
    KeepsBits call p ↔
      (call.passes p = false → call.bit ∈ testBits p.portConfigInfo.test ∨
        ∃ f ∈ testBits p.portConfigInfo.test, p.portResetInfo.errorCode.has f = true) ∧
      (call.passes p = true → ∀ f,
        f ≠ .ERR_OK ∧ call.bit = .ERR_TEST_PING ∨ f ∈ testBits p.portConfigInfo.test →
          f ≠ call.bit → p.portResetInfo.errorCode.has f = false) := by
  -- a passed ping test assigns the whole word, every other call touches its own bit only
  cases hpass : call.passes p with
  | false => simpa using keepsBits_failed hpass
  | true =>
      by_cases hassigns : call.Assigns p
      · rw [keepsBits_assigned hassigns]
        refine ⟨fun hnone => ⟨nofun, fun _ f hf => hnone f ?_⟩,
          fun hcond f hne => hcond.2 rfl f (.inl ⟨hne, hassigns.1⟩)⟩
        exact hf.elim And.left testBits_ne_ok
      · have hbit : call.bit ≠ .ERR_TEST_PING := fun hbit => hassigns ⟨hbit, hpass⟩
        rw [keepsBits_passed hpass hassigns]
        refine ⟨fun hclear => ⟨nofun, fun _ f hf => hclear f ?_⟩,
          fun hcond f hf => hcond.2 rfl f (.inr hf)⟩
        exact hf.resolve_left fun h => hbit h.2

/-- A port of the ping test that has been shut down. -/
def shutDownPort : PortInfo :=
  { zeroPortInfo with
    portConfigInfo.test := .test_ping
    portResetInfo.errorCode := Flags.none.set .ERR_PORT_SHUTDOWN }

/-- One answered ping, and the port is no longer shut down. -/
theorem shutdown_flag_lost : ¬∀ call p, KeepsBits call p := by
  intro h
  have hframe := (h (.runTestPing (some 1)) shutDownPort).frame .ERR_PORT_SHUTDOWN
    (by decide) (by decide)
  exact absurd hframe (by decide)

end AutoRestart
