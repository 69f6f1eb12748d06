import TfPack.AutoRestart.Marks

set_option autoImplicit false

/-! # The marks of the admin poll

`get_PortAndPoeState` sets `ERR_PORT_DISABLE` or `ERR_PoE_DISABLE` for an option that does not
read `enable`, and clears neither for one that does. A mark therefore stays until the whole error
word is written anew: by a ping that is answered, or by `getPortParam` at the end of a reboot. A
port whose test is not the ping is not monitored again after it was disabled once.
-/

namespace AutoRestart

open FlagWord StepMachine

/-- The marks of the admin poll. -/
def ErrFlag.isAdmin : ErrFlag → Bool
  | .ERR_PORT_DISABLE | .ERR_PoE_DISABLE => true
  | _ => false

/-- The option a mark stands for reads `enable`. -/
def PollReply.reads (r : PollReply) : ErrFlag → Bool
  | .ERR_PORT_DISABLE => readsEnable r.state
  | .ERR_PoE_DISABLE => readsEnable r.poe
  | _ => false

/-- The step is a poll that does not read `enable` for the option of the mark `f`. -/
def PortAction.disables (f : ErrFlag) : PortAction → Bool
  | .poll r => !r.reads f
  | _ => false

/-- The step is a poll that reads `enable` for the option of the mark `f`. -/
def PortAction.readsOn (f : ErrFlag) : PortAction → Bool
  | .poll r => r.reads f
  | _ => false

/-- The step is a poll that reads `enable` for both options. -/
def PortAction.enables : PortAction → Bool
  | .poll r => r.enables
  | _ => false

/-- The step writes the error word anew: a ping is answered, or the configuration is read
again. -/
def PortAction.rewrites (p : PortInfo) : PortAction → Bool
  | .events _ => p.reloads
  | a => a.answered p

section Steps

variable {f : ErrFlag} {p : PortInfo}

theorem ErrFlag.isAdmin_cases (hf : f.isAdmin = true) :
    f = .ERR_PORT_DISABLE ∨ f = .ERR_PoE_DISABLE := by
  cases f <;> simp_all [ErrFlag.isAdmin]

theorem ErrFlag.isMark_of_isAdmin (hf : f.isAdmin = true) : f.isMark = true := by
  rcases ErrFlag.isAdmin_cases hf with rfl | rfl <;> rfl

theorem PollReply.enables_iff (r : PollReply) :
    r.enables = true ↔ ∀ f : ErrFlag, f.isAdmin = true → r.reads f = true := by
  simp only [PollReply.enables, Bool.and_eq_true]
  constructor
  · rintro ⟨hs, hp⟩ f hf
    rcases ErrFlag.isAdmin_cases hf with rfl | rfl
    · exact hs
    · exact hp
  · intro h
    exact ⟨h .ERR_PORT_DISABLE rfl, h .ERR_PoE_DISABLE rfl⟩

/-- **A poll sets the mark of an option that does not read `enable`, and clears none.** -/
theorem getPortAndPoeState_marked (hf : f.isAdmin = true) (r : PollReply) :
    (getPortAndPoeState r p).1.marked f = (!r.reads f || p.marked f) := by
  unfold getPortAndPoeState
  rcases ErrFlag.isAdmin_cases hf with rfl | rfl <;>
    cases hs : readsEnable r.state <;> cases hp : readsEnable r.poe <;>
      simp [PortInfo.marked, pollDisabled, PollReply.reads, hs, hp]

/-- The alarms touch no mark but their own. -/
theorem alarmPart_marked (hf : f.isAdmin = true) (e : PassEnv) :
    (alarmPart e p).1.marked f = p.marked f := by
  have hdown : ∀ q, (alarmDown e q).1.marked f = q.marked f := by
    intro q
    unfold alarmDown
    split
    · rcases ErrFlag.isAdmin_cases hf with rfl | rfl <;> simp [PortInfo.marked]
    · rfl
  have hup : ∀ q, (alarmUp e q).1.marked f = q.marked f := by
    intro q
    unfold alarmUp
    split
    · rcases ErrFlag.isAdmin_cases hf with rfl | rfl <;> simp [PortInfo.marked]
    · rfl
  unfold alarmPart alarmHandler
  split
  · dsimp only
    split
    · rfl
    · rw [hup, hdown]
      rfl
  · rfl

/-- **What one step does to a mark of the admin poll.** -/
theorem portStep_marked (hf : f.isAdmin = true) (cfg : Config) (a : PortAction) :
    (portStep cfg p a).1.marked f = (a.disables f || (p.marked f && !a.rewrites p)) := by
  have hmark := ErrFlag.isMark_of_isAdmin hf
  cases a with
  | events e =>
      show (alarmPart e (stateHandler cfg e p).1).1.marked f = _
      rw [alarmPart_marked hf, stateHandler_marked hmark]
      rfl
  | poll r =>
      show (getPortAndPoeState r p).1.marked f = _
      rw [getPortAndPoeState_marked hf]
      simp [PortAction.disables, PortAction.rewrites, PortAction.answered]
  | reboot =>
      show (cmdRebootHandler p).1.marked f = _
      rw [cmdRebootHandler_marked]
      simp [PortAction.disables, PortAction.rewrites, PortAction.answered]
  | runTestDisable | runTestLink | runTestPing | runTestSpeed =>
      rw [portStep_test_marked hmark p cfg rfl]
      rfl

theorem PortAction.poll_of_readsOn {a : PortAction} (h : a.readsOn f = true) :
    ∃ r, a = .poll r ∧ r.reads f = true := by
  cases a with
  | poll r => exact ⟨r, rfl, h⟩
  | events | runTestDisable | runTestLink | runTestPing | runTestSpeed | reboot =>
      simp [PortAction.readsOn] at h

/-- After a poll that reads `enable` for it a mark is as it was before. -/
theorem portStep_marked_of_readsOn (hf : f.isAdmin = true) (cfg : Config) {a : PortAction}
    (h : a.readsOn f = true) : (portStep cfg p a).1.marked f = p.marked f := by
  obtain ⟨r, rfl, hreads⟩ := PortAction.poll_of_readsOn h
  rw [portStep_marked hf]
  simp [PortAction.disables, PortAction.rewrites, PortAction.answered, hreads]

theorem PortAction.readsOn_of_enables (hf : f.isAdmin = true) {a : PortAction}
    (h : a.enables = true) : a.readsOn f = true := by
  cases a with
  | poll r => exact r.enables_iff.mp h f hf
  | events | runTestDisable | runTestLink | runTestPing | runTestSpeed | reboot =>
      simp [PortAction.enables] at h

end Steps

/-! ## Runs of the table -/

/-- Between a poll that does not read `enable` for an option and a later step `g` the error word
is written anew. -/
def RewrittenBefore (g : ErrFlag → PortAction → Bool) (vs : List PortVisit) : Prop :=
  ∀ f : ErrFlag, f.isAdmin = true → ∀ ws d ms v us, vs = ws ++ d :: (ms ++ v :: us) →
    d.act.disables f = true → g f v.act = true →
    ∃ c ∈ ms, c.act.rewrites c.state = true

/-- After every poll of the port that reads `enable` for both options neither mark is set. -/
def EnabledUnmarked (cfg : Config) (vs : List PortVisit) : Prop :=
  ∀ v ∈ vs, v.act.enables = true →
    (portStep cfg v.state v.act).1.marked .ERR_PORT_DISABLE = false ∧
    (portStep cfg v.state v.act).1.marked .ERR_PoE_DISABLE = false

/-- After every poll of the port each mark is set exactly when its option did not read
`enable`. -/
def PollsMirrored (cfg : Config) (vs : List PortVisit) : Prop :=
  ∀ v ∈ vs, ∀ r, v.act = .poll r → ∀ f : ErrFlag, f.isAdmin = true →
    (portStep cfg v.state v.act).1.marked f = !r.reads f

section Runs

variable {cfg : Config} {p₀ p : PortInfo} {vs : List PortVisit} {tr : List PortEvent}

/-- The mark is off at all polls `g` that read `enable` for it exactly when the error word is
written anew before them. -/
theorem marks_off_iff {f : ErrFlag} (hf : f.isAdmin = true) (g : PortAction → Bool)
    (h : Exec (portMachine cfg) p₀ vs tr p) (h₀ : p₀.marked f = false) :
    (∀ v ∈ vs, g v.act = true → v.state.marked f = false) ↔
      ∀ ws d ms v us, vs = ws ++ d :: (ms ++ v :: us) → d.act.disables f = true →
        g v.act = true → ∃ c ∈ ms, c.act.rewrites c.state = true := by
  refine h.off_at_iff (fun v => v.act.disables f) (fun v => v.act.rewrites v.state)
    (fun v => g v.act) h₀ ?_
  intro p tr a q evs hstep
  rw [(portMachine_step hstep).1]
  exact portStep_marked hf cfg a

theorem enabledUnmarked_iff (h : Exec (portMachine cfg) p₀ vs tr p)
    (h₀ : ∀ f : ErrFlag, f.isAdmin = true → p₀.marked f = false) :
    EnabledUnmarked cfg vs ↔ RewrittenBefore (fun _ a => a.enables) vs := by
  have hsame : ∀ f : ErrFlag, f.isAdmin = true → ∀ v : PortVisit, v.act.enables = true →
      (portStep cfg v.state v.act).1.marked f = v.state.marked f := by
    intro f hf v hv
    exact portStep_marked_of_readsOn hf cfg (PortAction.readsOn_of_enables hf hv)
  constructor
  · intro hun f hf
    rw [← marks_off_iff hf PortAction.enables h (h₀ f hf)]
    intro v hmem hv
    rw [← hsame f hf v hv]
    rcases ErrFlag.isAdmin_cases hf with rfl | rfl
    · exact (hun v hmem hv).1
    · exact (hun v hmem hv).2
  · intro hre v hmem hv
    have hoff : ∀ f : ErrFlag, f.isAdmin = true →
        (portStep cfg v.state v.act).1.marked f = false := by
      intro f hf
      rw [hsame f hf v hv]
      exact (marks_off_iff hf PortAction.enables h (h₀ f hf)).mpr (hre f hf) v hmem hv
    exact ⟨hoff _ rfl, hoff _ rfl⟩

theorem pollsMirrored_iff (h : Exec (portMachine cfg) p₀ vs tr p)
    (h₀ : ∀ f : ErrFlag, f.isAdmin = true → p₀.marked f = false) :
    PollsMirrored cfg vs ↔ RewrittenBefore PortAction.readsOn vs := by
  constructor
  · intro hmirror f hf
    rw [← marks_off_iff hf (PortAction.readsOn f) h (h₀ f hf)]
    intro v hmem hv
    rw [← portStep_marked_of_readsOn hf cfg hv]
    obtain ⟨r, hr, hreads⟩ := PortAction.poll_of_readsOn hv
    rw [hmirror v hmem r hr f hf, hreads]
    rfl
  · intro hre v hmem r hr f hf
    cases hreads : r.reads f with
    | true =>
        have hv : v.act.readsOn f = true := by rw [hr]; exact hreads
        rw [portStep_marked_of_readsOn hf cfg hv]
        exact (marks_off_iff hf (PortAction.readsOn f) h (h₀ f hf)).mpr (hre f hf) v hmem hv
    | false =>
        rw [portStep_marked hf, hr]
        simp [PortAction.disables, hreads]

end Runs

theorem initPortInfo_unmarked (e : ParamEnv) {f : ErrFlag} (hf : f.isAdmin = true) :
    (initPortInfo e).marked f = false := getPortParam_marked (ErrFlag.isMark_of_isAdmin hf) _ _ _

/-- **The polls of a run clear the marks of an enabled port exactly when, for every option that
did not read `enable` before, the error word is written anew in between**; and the marks mirror
every poll exactly when that holds for each option alone. -/
theorem adminMarks_iff {cfg : Config} {e : Fin NUM_PORTS → ParamEnv} {vs : List TableVisit}
    {tr : List (Fin NUM_PORTS × PortEvent)} {s : Table}
    (h : Exec (tableMachine cfg) (initTable e) vs tr s) :
    ((∀ i, EnabledUnmarked cfg (projVisits i vs)) ↔
      ∀ i, RewrittenBefore (fun _ a => a.enables) (projVisits i vs)) ∧
    ((∀ i, PollsMirrored cfg (projVisits i vs)) ↔
      ∀ i, RewrittenBefore PortAction.readsOn (projVisits i vs)) := by
  constructor
  · apply forall_congr'
    intro i
    exact enabledUnmarked_iff (h.proj i) (fun f hf => initPortInfo_unmarked (e i) hf)
  · apply forall_congr'
    intro i
    exact pollsMirrored_iff (h.proj i) (fun f hf => initPortInfo_unmarked (e i) hf)

/-- The reply of the admin poll for a port whose option `state` is off. -/
def disablingPoll : PollReply := ⟨some "disable", some "enable"⟩

/-- A port with a ping test is disabled and enabled again; a ping is answered in between. -/
theorem adminMarks_iff_answered : ∃ vs tr s,
    Exec (tableMachine ⟨3, 2⟩) (initTable fun _ => pingParams) vs tr s ∧
    vs.map (fun v => v.act) =
      [(0, .poll disablingPoll), (0, .runTestPing (some 1)), (0, .poll enablingPoll)] ∧
    (s 0).marked .ERR_PORT_DISABLE = false ∧
    (((∀ i, EnabledUnmarked ⟨3, 2⟩ (projVisits i vs)) ↔
        ∀ i, RewrittenBefore (fun _ a => a.enables) (projVisits i vs)) ∧
      ((∀ i, PollsMirrored ⟨3, 2⟩ (projVisits i vs)) ↔
        ∀ i, RewrittenBefore PortAction.readsOn (projVisits i vs))) := by
  obtain ⟨vs, hvs, hact⟩ := Exec.replay (tableMachine ⟨3, 2⟩) (initTable fun _ => pingParams)
    [(0, .poll disablingPoll), (0, .runTestPing (some 1)), (0, .poll enablingPoll)] rfl
  exact ⟨vs, _, _, hvs, hact, by decide, adminMarks_iff hvs⟩

/-- A port is disabled and enabled again: its mark stays. -/
theorem enabled_port_stays_marked : ¬ ∀ vs tr s,
    Exec (tableMachine ⟨3, 2⟩) (initTable fun _ => pingParams) vs tr s →
      ∀ i, EnabledUnmarked ⟨3, 2⟩ (projVisits i vs) := by
  intro h
  have hoff := (Exec.empty (tableMachine ⟨3, 2⟩) (initTable fun _ => pingParams)).snoc
    (a := (0, .poll disablingPoll)) rfl
  have hon := hoff.snoc (a := (0, .poll enablingPoll)) rfl
  have hclear := h _ _ _ hon 0
  rw [projVisits_snoc_self] at hclear
  exact absurd (hclear _ (List.mem_append_right _ (List.mem_singleton_self _)) rfl).1 (by decide)

end AutoRestart
