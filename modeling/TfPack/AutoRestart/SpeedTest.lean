import TfPack.AutoRestart.ClockTexts
import TfPack.AutoRestart.System

set_option autoImplicit false

/-! # The speed test

The speed test takes the difference of two readings of the kernel's byte counter. A reading passes
through `strtol`, where a `long` of 32 bits ends at `0x7fffffff`; the difference in bits is a
`uint32_t`; and a reload of the configuration in between puts the earlier reading to zero. The
speed comes out right when none of these changes the number of whole Kbit/s (`speed_measured_iff`).
-/

namespace AutoRestart

open FlagWord StepMachine Lua LuaPattern Tokens

/-! ## Reading the counter -/

/-- The text of `rx_bytes`, as the kernel prints it. -/
def counterText (b : Nat) : String := toString b ++ "\n"

/-- What `strtol` makes of a counter. -/
def reading (b : Nat) : Nat := min b 2147483647

theorem toList_counterText (b : Nat) :
    (counterText b).toList = [] ++ (Nat.toDigits 10 b ++ ['\n']) := by
  rw [counterText, String.toList_append]
  simp [Nat.repr]

/-- **`strtol` reads a counter** up to the largest `long`. -/
theorem strtol_counterText (b : Nat) : strtol (counterText b).toList = reading b := by
  have hstop : NoDigit ['\n'] := by
    intro c hc
    cases hc
    decide
  rw [toList_counterText, List.nil_append, strtol_toDigits b hstop, reading, LONG_MAX]
  omega

/-! ## The earlier reading -/

/-- The earlier reading and its time, as the record holds them. -/
def counters (p : PortInfo) : UInt32 × UInt32 :=
  (p.portConfigInfo.rx_byte_prev, p.portConfigInfo.time_prev)

/-- The earlier reading is kept, or put to zero with its time kept. -/
def CountersKept (p q : PortInfo) : Prop :=
  counters q = counters p ∨ counters q = (0, (counters p).2)

theorem CountersKept.trans {p q r : PortInfo} (h : CountersKept p q) (h' : CountersKept q r) :
    CountersKept p r := by
  unfold CountersKept at *
  rcases h with h | h
  · rwa [h] at h'
  · rw [h] at h'
    exact .inr (h'.elim id id)

/-- A reading of the counter that the link test does not stand in the way of is stored. -/
theorem counters_portRunTestSpeed {p : PortInfo} (o : String) (t : Nat)
    (hlink : p.portResetInfo.errorCode.has .ERR_TEST_LINK = false) :
    counters (portRunTestSpeed o t p) = (UInt32.ofInt (strtol o.toList), toU32 t) := by
  unfold portRunTestSpeed noteTestOk
  rw [hlink, if_neg Bool.false_ne_true]
  dsimp only
  -- the reading is stored before the range is looked at, so that every branch has it
  repeat' split
  all_goals rfl

/-- Behind a failed link test nothing is read. -/
theorem counters_skipped {p : PortInfo} (o : String) (t : Nat)
    (hlink : p.portResetInfo.errorCode.has .ERR_TEST_LINK = true) :
    counters (portRunTestSpeed o t p) = counters p := by
  rw [portRunTestSpeed, if_pos hlink]
  rfl

section Reload

variable (e : ParamEnv) (b : Bool) (p : PortInfo)

theorem counters_setErrorHandler : counters (setErrorHandler p) = counters p := by
  unfold setErrorHandler
  split <;> rfl

theorem counters_applyAlarm : counters (applyAlarm e p) = counters p := by
  unfold applyAlarm setTime portSetTimeParam
  repeat' split
  all_goals rfl

theorem counters_applyTest (t : TypeOfTest) : counters (applyTest e p t) = counters p := by
  cases t with
  | test_disable => rfl
  | test_max => rfl
  | test_link => rfl
  | test_ping =>
      simp only [applyTest, setTestConfig, setHost, portSetHostParam]
      split <;> rfl
  | test_speed =>
      simp only [applyTest, setTestConfig, setSpeed, portSetSpeedParam]
      repeat' split
      all_goals rfl

/-- A reload puts the reading to zero and leaves its time. -/
theorem counters_getPortParam : counters (getPortParam e b p) = (0, (counters p).2) := by
  have hzero : counters (zeroedPort e b p) = (0, (counters p).2) := by
    unfold zeroedPort setConfigZeroValue
    cases b <;> rfl
  rw [getPortParam, counters_setErrorHandler, counters_applyAlarm, counters_applyTest, hzero]

end Reload

section Pass

variable (cfg : Config) (e : PassEnv) (p : PortInfo)

theorem counters_testErrorHandler : counters (testErrorHandler cfg p) = counters p := by
  have hok : counters (okBranch p) = counters p := by
    unfold okBranch
    dsimp only
    repeat' split
    all_goals rfl
  rw [← hok, testErrorHandler]
  unfold failBranch
  dsimp only
  repeat' split
  all_goals rfl

theorem counters_rebootIdle : counters (rebootIdle cfg e p).1 = counters p := by
  have hauto : counters (idleAuto cfg e p).1 = counters p := by
    unfold idleAuto autoResetHandler
    dsimp only
    repeat' split
    · exact counters_setErrorHandler _
    · rfl
    · rfl
  rw [rebootIdle_eq, ← hauto]
  unfold idleManual
  split <;> rfl

/-- Only the end of a reboot can read the configuration again. -/
theorem countersKept_rebootHandler : CountersKept p (rebootHandler cfg e p).1 := by
  unfold rebootHandler
  split
  · exact .inl (counters_rebootIdle cfg e p)
  · exact .inl rfl
  · left
    dsimp only
    rw [counters, (rebootTimer_parts e _).2.2]
    unfold rebootArm
    split <;> rfl
  · dsimp only
    unfold rebootFinish
    dsimp only
    split
    · -- the end of a manual reboot reads the configuration again
      exact .inr (counters_getPortParam _ _ _)
    · exact .inl rfl

theorem counters_alarmPart : counters (alarmPart e p).1 = counters p := by
  unfold alarmPart alarmHandler alarmDown alarmUp
  dsimp only
  repeat' split
  all_goals rfl

/-- A pass of the events thread. -/
theorem countersKept_eventsHandler : CountersKept p (eventsHandler cfg e p).1 := by
  have hstate : CountersKept p (stateHandler cfg e p).1 := by
    unfold stateHandler
    split
    · left
      unfold idleBranch
      split <;> rfl
    · exact .inl (counters_testErrorHandler cfg p)
    · exact countersKept_rebootHandler cfg e p
  exact hstate.trans (.inl (counters_alarmPart e _))

/-- The action is a speed test. -/
def PortAction.isSpeed : PortAction → Bool
  | .runTestSpeed _ _ => true
  | _ => false

/-- **Every other step keeps the earlier reading or puts it to zero.** -/
theorem countersKept_portStep {a : PortAction} (ha : a.isSpeed = false) :
    CountersKept p (portStep cfg p a).1 := by
  cases a with
  | events e => exact countersKept_eventsHandler cfg e p
  | poll r =>
      left
      simp only [portStep, getPortAndPoeState, pollDisabled]
      repeat' split
      all_goals rfl
  | runTestDisable => exact .inl rfl
  | runTestLink o =>
      left
      simp only [portStep, portRunTestLink, noteTestOk]
      repeat' split
      all_goals rfl
  | runTestPing r =>
      left
      simp only [portStep, portRunTestPing, noteTestOk]
      repeat' split
      all_goals rfl
  | runTestSpeed o t => cases ha
  | reboot =>
      left
      simp only [portStep, cmdRebootHandler]
      repeat' split
      all_goals rfl

end Pass

/-! ## Whole Kbit/s -/

/-- A difference that was cut to `E` and reduced modulo `M` has the same quotient as before. -/
theorem mod_div_eq_div_iff {D E M k : Nat} (hk : 0 < k) (hkM : k ≤ M) (hED : E ≤ D) :
    E % M / k = D / k ↔ E < M ∧ E % k + (D - E) < k := by
  have hcut : E / k = D / k ↔ E % k + (D - E) < k := by
    have hD : D = k * (E / k) + (E % k + (D - E)) := by
      have hE := Nat.div_add_mod E k
      omega
    have hquot : D / k = E / k + (E % k + (D - E)) / k :=
      calc D / k = (k * (E / k) + (E % k + (D - E))) / k := by rw [← hD]
        _ = E / k + (E % k + (D - E)) / k := Nat.mul_add_div hk _ _
    rw [hquot, ← Nat.div_eq_zero_iff_lt hk]
    omega
  have hmono : E / k ≤ D / k := Nat.div_le_div_right hED
  by_cases hEM : E < M
  · rw [Nat.mod_eq_of_lt hEM, hcut]
    exact ⟨fun h => ⟨hEM, h⟩, And.right⟩
  · -- what was wrapped around is at least one quotient
    have hwrap : E % M / k + 1 ≤ E / k := by
      have hle : E % M + k ≤ E := by
        rw [Nat.mod_eq_sub_mod (Nat.not_lt.mp hEM)]
        have hsub := Nat.mod_le (E - M) M
        omega
      calc E % M / k + 1 = (E % M + k) / k := (Nat.add_div_right _ hk).symm
        _ ≤ E / k := Nat.div_le_div_right hle
    constructor
    · intro h
      omega
    · exact fun h => absurd h.1 hEM

/-- The speed between two readings, in whole Kbit/s. -/
def kbitPerSec (b₀ b₁ dt : Nat) : Nat := 8 * (b₁ - b₀) / dt / 1000

/-- The reading `b₁`, `dt` seconds after `b₀` was read at `t₀`, gives the speed between the two,
and `ERR_TEST_SPEED` says whether it is outside the configured range. -/
structure Measures (p : PortInfo) (b₀ b₁ t₀ dt : Nat) : Prop where
  speed : (portRunTestSpeed (counterText b₁) (t₀ + dt) p).portConfigInfo.rx_speed_Kbit.toNat =
    kbitPerSec b₀ b₁ dt
  flag : (portRunTestSpeed (counterText b₁) (t₀ + dt) p).portResetInfo.errorCode.has
      .ERR_TEST_SPEED = true ↔
    kbitPerSec b₀ b₁ dt < p.portConfigInfo.min_speed.toNat ∨
      p.portConfigInfo.max_speed.toNat < kbitPerSec b₀ b₁ dt

theorem toNat_ofInt_reading (b : Nat) : (UInt32.ofInt (reading b : Int)).toNat = reading b := by
  have hlt : reading b < 2 ^ 32 := by
    rw [reading]
    omega
  rw [UInt32.ofInt, UInt32.toNat_ofNat']
  omega

/-- The routine's result, when time has gone by. -/
theorem portRunTestSpeed_result {o : String} {t : Nat} {p : PortInfo}
    (hlink : p.portResetInfo.errorCode.has .ERR_TEST_LINK = false)
    (htime : (speedDelta o t p.portConfigInfo).2 ≠ 0) :
    let d := speedDelta o t p.portConfigInfo
    (portRunTestSpeed o t p).portConfigInfo.rx_speed_Kbit = d.1 / d.2 / 1000 ∧
      (portRunTestSpeed o t p).portResetInfo.errorCode.has .ERR_TEST_SPEED =
        speedOutside (d.1 / d.2 / 1000) p.portConfigInfo := by
  intro d
  unfold portRunTestSpeed
  rw [hlink, if_neg Bool.false_ne_true]
  dsimp only
  rw [if_neg htime]
  split
  case isTrue h => exact ⟨rfl, h.symm⟩
  case isFalse h =>
    have hin : speedOutside (d.1 / d.2 / 1000) p.portConfigInfo = false := by
      rw [Bool.eq_false_iff]
      exact h
    rw [hin]
    unfold noteTestOk
    split <;> exact ⟨rfl, rfl⟩

/-- What the subtraction and the division give, in numbers. -/
theorem speedDelta_eq {c : PortConfigInfo} {b t₀ dt : Nat} (htime : c.time_prev = toU32 t₀)
    (hprev : c.rx_byte_prev.toNat ≤ reading b) (hdt : dt ≤ 60) :
    (speedDelta (counterText b) (t₀ + dt) c).1.toNat =
        8 * (reading b - c.rx_byte_prev.toNat) % 2 ^ 32 ∧
      (speedDelta (counterText b) (t₀ + dt) c).2.toNat = dt := by
  rw [speedDelta, strtol_counterText, htime]
  constructor
  · have hlt : reading b < 2 ^ 32 := by
      rw [reading]
      omega
    have hsub : (UInt32.ofInt (reading b : Int) - c.rx_byte_prev).toNat =
        reading b - c.rx_byte_prev.toNat := by
      rw [UInt32.toNat_sub, toNat_ofInt_reading]
      omega
    rw [UInt32.toNat_mul, hsub, Nat.mul_comm]
    rfl
  · dsimp only
    rw [UInt32.toNat_sub, toU32, toU32, UInt32.toNat_ofNat', UInt32.toNat_ofNat']
    omega

/-- **The speed is measured right** when the bits the routine sees make the same number of whole
Kbit/s as the bits there were. -/
theorem measures_iff {p : PortInfo} {b₀ b₁ t₀ dt : Nat}
    (hlink : p.portResetInfo.errorCode.has .ERR_TEST_LINK = false)
    (htime : p.portConfigInfo.time_prev = toU32 t₀)
    (hprev : p.portConfigInfo.rx_byte_prev.toNat ≤ reading b₁) (hpos : 1 ≤ dt) (hdt : dt ≤ 60) :
    Measures p b₀ b₁ t₀ dt ↔
      8 * (reading b₁ - p.portConfigInfo.rx_byte_prev.toNat) % 2 ^ 32 / (1000 * dt) =
        8 * (b₁ - b₀) / (1000 * dt) := by
  obtain ⟨hbits, hsecs⟩ := speedDelta_eq htime hprev hdt
  have hgone : (speedDelta (counterText b₁) (t₀ + dt) p.portConfigInfo).2 ≠ 0 := by
    intro hzero
    rw [hzero] at hsecs
    exact absurd hpos (by rw [← hsecs]; decide)
  obtain ⟨hspeed, hflag⟩ := portRunTestSpeed_result hlink hgone
  have hseen : (portRunTestSpeed (counterText b₁) (t₀ + dt) p).portConfigInfo.rx_speed_Kbit.toNat =
      8 * (reading b₁ - p.portConfigInfo.rx_byte_prev.toNat) % 2 ^ 32 / (1000 * dt) := by
    rw [hspeed, UInt32.toNat_div, UInt32.toNat_div, hbits, hsecs, Nat.div_div_eq_div_mul,
      Nat.mul_comm dt]
    rfl
  have hreal : kbitPerSec b₀ b₁ dt = 8 * (b₁ - b₀) / (1000 * dt) := by
    rw [kbitPerSec, Nat.div_div_eq_div_mul, Nat.mul_comm dt]
  constructor
  · intro h
    rw [← hseen, ← hreal, h.speed]
  · intro h
    have hright :
        (portRunTestSpeed (counterText b₁) (t₀ + dt) p).portConfigInfo.rx_speed_Kbit.toNat =
          kbitPerSec b₀ b₁ dt := by rw [hseen, hreal, h]
    refine ⟨hright, ?_⟩
    rw [hflag, ← hspeed, speedOutside, Bool.or_eq_true, decide_eq_true_eq, decide_eq_true_eq,
      UInt32.lt_iff_toNat_lt, UInt32.lt_iff_toNat_lt, hright]

/-! ## Two readings of a run -/

/-- The step reads no counter: it is no speed test, or one behind a failed link test. -/
def NoReading (v : PortVisit) : Prop :=
  v.act.isSpeed = true → v.state.portResetInfo.errorCode.has .ERR_TEST_LINK = true

/-- **Between two readings** the record keeps the first one, or has been put to zero. -/
theorem counters_between {cfg : Config} {p q : PortInfo} {o : String} {t : Nat}
    {vs : List PortVisit} {tr : List PortEvent}
    (hfirst : p.portResetInfo.errorCode.has .ERR_TEST_LINK = false)
    (hrun : Exec (portMachine cfg) (portRunTestSpeed o t p) vs tr q)
    (hvs : ∀ v ∈ vs, NoReading v) :
    counters q = (UInt32.ofInt (strtol o.toList), toU32 t) ∨ counters q = (0, toU32 t) := by
  have hkept : CountersKept (portRunTestSpeed o t p) q := by
    -- the invariant compares every state with the one right after the first reading
    refine hrun.inv_where (fun s _ => CountersKept (portRunTestSpeed o t p) s) NoReading (.inl rfl)
      (fun s tr a s' evs hI hG hs => ?_) hvs
    obtain ⟨rfl, -⟩ := portMachine_step hs
    apply hI.trans
    cases hspeed : a.isSpeed with
    | false => exact countersKept_portStep cfg s hspeed
    | true =>
        have hlink := hG hspeed
        cases a with
        | runTestSpeed o t => exact .inl (counters_skipped o t hlink)
        | _ => cases hspeed
  rwa [CountersKept, counters_portRunTestSpeed o t hfirst] at hkept

/-- **When two successive readings give the speed between them.** The record still holds the
first reading, the bits between the readings as `strtol` gives them fit in 32 bits, and what
`strtol` cut off does not fill another Kbit/s; or the record was put to zero in between, and the
bits counted so far happen to make the same number of whole Kbit/s. -/
theorem speed_measured_iff {cfg : Config} {p q : PortInfo} {b₀ b₁ t₀ dt : Nat}
    {vs : List PortVisit} {tr : List PortEvent}
    (hfirst : p.portResetInfo.errorCode.has .ERR_TEST_LINK = false)
    (hrun : Exec (portMachine cfg) (portRunTestSpeed (counterText b₀) t₀ p) vs tr q)
    (hvs : ∀ v ∈ vs, NoReading v)
    (hlink : q.portResetInfo.errorCode.has .ERR_TEST_LINK = false)
    (hle : b₀ ≤ b₁) (hpos : 1 ≤ dt) (hdt : dt ≤ 60) :
    Measures q b₀ b₁ t₀ dt ↔
      (q.portConfigInfo.rx_byte_prev.toNat = reading b₀ ∧
        8 * (reading b₁ - reading b₀) < 2 ^ 32 ∧
        8 * (reading b₁ - reading b₀) % (1000 * dt) +
          8 * ((b₁ - b₀) - (reading b₁ - reading b₀)) < 1000 * dt) ∨
      (q.portConfigInfo.rx_byte_prev.toNat ≠ reading b₀ ∧
        8 * reading b₁ % 2 ^ 32 / (1000 * dt) = 8 * (b₁ - b₀) / (1000 * dt)) := by
  have hcounters := counters_between hfirst hrun hvs
  rw [strtol_counterText] at hcounters
  have hmono : reading b₀ ≤ reading b₁ := by
    rw [reading, reading]
    omega
  have htime : q.portConfigInfo.time_prev = toU32 t₀ := by
    rcases hcounters with h | h <;> exact (Prod.mk.inj h).2
  -- without a reload the first reading is subtracted, after one nothing is
  by_cases hkept : q.portConfigInfo.rx_byte_prev.toNat = reading b₀
  · have hcut : 8 * (reading b₁ - reading b₀) ≤ 8 * (b₁ - b₀) := by
      rw [reading, reading]
      omega
    rw [measures_iff hlink htime (by rw [hkept]; exact hmono) hpos hdt, hkept,
      mod_div_eq_div_iff (by omega) (by omega) hcut, ← Nat.mul_sub]
    exact ⟨fun h => .inl ⟨rfl, h⟩, fun h => h.elim And.right fun h' => absurd rfl h'.1⟩
  · have hzero : q.portConfigInfo.rx_byte_prev.toNat = 0 := by
      rcases hcounters with h | h
      · rw [(Prod.mk.inj h).1, toNat_ofInt_reading] at hkept
        exact absurd rfl hkept
      · rw [(Prod.mk.inj h).1]
        rfl
    rw [measures_iff hlink htime (by rw [hzero]; exact Nat.zero_le _) hpos hdt, hzero, Nat.sub_zero]
    rw [hzero] at hkept
    exact ⟨fun h => .inr ⟨hkept, h⟩, fun h => h.elim (fun h' => absurd h'.1 hkept) And.right⟩

/-- The first reading of a port, when nothing has been received yet. -/
def firstReading : PortInfo := portRunTestSpeed (counterText 0) 0 zeroPortInfo

theorem firstReading_link :
    firstReading.portResetInfo.errorCode.has .ERR_TEST_LINK = false := by
  decide

theorem firstReading_counters : counters firstReading = (0, 0) := by
  rw [firstReading, counters_portRunTestSpeed _ _ rfl, strtol_counterText]
  rfl

/-- A megabit in the first second. -/
theorem speed_measured_megabit : Measures firstReading 0 125000 0 1 := by
  have hprev : firstReading.portConfigInfo.rx_byte_prev.toNat = reading 0 := by
    rw [(Prod.mk.inj firstReading_counters).1]
    decide
  exact (speed_measured_iff (p := zeroPortInfo) rfl (.empty (portMachine ⟨3, 3⟩) firstReading)
    (by simp) firstReading_link (by decide) (by decide) (by decide)).mpr
    (.inl ⟨hprev, by decide, by decide⟩)

/-- Half a gigabyte in a minute is 71582 Kbit/s, and is measured as none. -/
theorem busy_port_reads_idle :
    ¬∀ (cfg : Config) (p q : PortInfo) (b₀ b₁ t₀ dt : Nat) (vs : List PortVisit)
      (tr : List PortEvent), p.portResetInfo.errorCode.has .ERR_TEST_LINK = false →
      Exec (portMachine cfg) (portRunTestSpeed (counterText b₀) t₀ p) vs tr q →
      (∀ v ∈ vs, NoReading v) → q.portResetInfo.errorCode.has .ERR_TEST_LINK = false →
      b₀ ≤ b₁ → b₁ < 2 ^ 64 → 1 ≤ dt → dt ≤ 60 →
      8 * (b₁ - b₀) / dt ≤ 1000 * MAX_SPEED.toNat → Measures q b₀ b₁ t₀ dt := by
  intro h
  have hmeasures := h ⟨3, 3⟩ zeroPortInfo firstReading 0 (2 ^ 29) 0 60 [] [] rfl .nil (by simp)
    firstReading_link (by decide) (by decide) (by decide) (by decide) (by decide)
  rw [measures_iff firstReading_link (Prod.mk.inj firstReading_counters).2
    (by rw [(Prod.mk.inj firstReading_counters).1]; decide) (by decide) (by decide),
    (Prod.mk.inj firstReading_counters).1] at hmeasures
  exact absurd hmeasures (by decide)

end AutoRestart
