import TfPack.Hwsys.WriteSlot

set_option autoImplicit false

/-! # The watchdog of the microcontroller

`mainHandler` counts the failures of `read_i2c` and resets the microcontroller when there are more
than `MAX_I2C_ERROR`. But `read_i2c` also returns `0` when no dump is due, and then the count
starts again; a dump sets its timer anew, so such an iteration normally follows every dump. The
failed dumps lead to a reset as long as no such iteration comes between them
(`watched_of_noIdle`).
-/

namespace Hwsys

open StepMachine

/-! ## The iterations of a schedule -/

/-- The length of the dump that is due. -/
def dueDump (e : LoopEnv) (d : Daemon) : Option UInt16 :=
  if timerExpired e.hiNow d.hi_prio_timer then some d.hi_prio_len
  else if timerExpired e.lowNow d.low_prio_timer then some d.low_prio_len
  else none

/-- What the transfer of the dump returns, when the step is an iteration with a dump. -/
def transferCode (v : HwsysVisit) : Option UInt8 :=
  match v.act with
  | .loop e => (dueDump e v.state).bind (fun len =>
      (readBuffer v.state.i2c_raw_data len.toNat e.reply).map Prod.snd)
  | _ => none

/-- The transfer of a dump fails. -/
def dumpFails (v : HwsysVisit) : Bool := transferCode v == some EXIT_FAILURE

/-- The transfer of a dump succeeds. -/
def dumpSucceeds (v : HwsysVisit) : Bool := transferCode v == some EXIT_SUCCESS

/-- An iteration without a dump: it sends the write that waits, or sleeps. -/
def idles (v : HwsysVisit) : Bool :=
  match v.act with
  | .loop e => (dueDump e v.state).isNone
  | _ => false

/-- The step calls `gpio_resetIoMcu`. -/
def resets (v : HwsysVisit) : Bool :=
  (hwsysMachine.step v.state v.act).any (fun r => r.2.contains .resetIoMcu)

/-- **More than `MAX_I2C_ERROR` failed dumps, with no successful one between them, have led to a
reset.** -/
def Watched (vs : List HwsysVisit) : Prop :=
  ∀ ws us us', vs = ws ++ us ++ us' → (∀ v ∈ us, dumpSucceeds v = false) →
    MAX_I2C_ERROR.toNat < us.countP dumpFails → ∃ v ∈ us, resets v = true

/-- One step of `pendingFailures`. -/
def countPending (n : Nat) (v : HwsysVisit) : Nat :=
  if resets v || dumpSucceeds v then 0 else if dumpFails v then n + 1 else n

/-- The failed dumps since the last successful one and the last reset. -/
def pendingFailures (vs : List HwsysVisit) : Nat := vs.foldl countPending 0

theorem pendingFailures_snoc (vs : List HwsysVisit) (v : HwsysVisit) :
    pendingFailures (vs ++ [v]) = countPending (pendingFailures vs) v := by
  rw [pendingFailures, List.foldl_append]
  rfl

theorem countPending_le (n : Nat) (v : HwsysVisit) : countPending n v ≤ n + 1 := by
  unfold countPending
  split_ifs <;> omega

/-- A step without a transfer adds nothing. -/
theorem countPending_le_of_none {v : HwsysVisit} (h : transferCode v = none) (n : Nat) :
    countPending n v ≤ n := by
  have hfail : dumpFails v = false := by simp [dumpFails, h]
  rw [countPending, hfail, if_neg Bool.false_ne_true]
  split_ifs
  · exact Nat.zero_le n
  · exact Nat.le_refl n

/-- Without a success and without a reset every failed dump is pending. -/
theorem le_foldl_countPending (us : List HwsysVisit) (n : Nat)
    (hsucc : ∀ v ∈ us, dumpSucceeds v = false) (hreset : ∀ v ∈ us, resets v = false) :
    n + us.countP dumpFails ≤ us.foldl countPending n := by
  induction us generalizing n with
  | nil => exact Nat.le_refl n
  | cons v us ih =>
      rw [List.forall_mem_cons] at hsucc hreset
      have hrest := ih (countPending n v) hsucc.2 hreset.2
      have hv : countPending n v = if dumpFails v then n + 1 else n := by
        simp [countPending, hsucc.1, hreset.1]
      rw [List.foldl_cons, List.countP_cons]
      by_cases hfail : dumpFails v = true
      · rw [hv, if_pos hfail] at hrest ⊢
        rw [if_pos hfail]
        omega
      · rw [hv, if_neg hfail] at hrest ⊢
        rw [if_neg hfail]
        omega

/-- A schedule is watched when at no point of it more than `MAX_I2C_ERROR` failures are
pending. -/
theorem watched_of_pending_le {vs : List HwsysVisit}
    (h : ∀ ws us, vs = ws ++ us → pendingFailures ws ≤ MAX_I2C_ERROR.toNat) : Watched vs := by
  intro ws us us' heq hsucc hmany
  by_contra hnone
  have hreset : ∀ v ∈ us, resets v = false := fun v hv => by
    by_contra hres
    exact hnone ⟨v, hv, by simpa using hres⟩
  have hle : pendingFailures (ws ++ us) ≤ MAX_I2C_ERROR.toNat := h _ us' heq
  have hcount : us.countP dumpFails ≤ pendingFailures (ws ++ us) := by
    rw [pendingFailures, List.foldl_append]
    exact (Nat.le_add_left _ _).trans (le_foldl_countPending us _ hsucc hreset)
  omega

/-! ## The error count -/

section Steps

variable {d d' : Daemon} {evs : List Event}

/-- What a dump leaves of the count, and that it returns the error of the transfer. -/
theorem readDump_count {len : UInt16} {reply : Option Bytes} {c : UInt8}
    (h : readDump d len reply = some (d', c)) :
    d'.errorCount = d.errorCount ∧
      ∃ raw t, readBuffer d.i2c_raw_data len.toNat reply = some (raw, t) ∧ (t ≠ 0 → c = t) := by
  unfold readDump at h
  cases hbuf : readBuffer d.i2c_raw_data len.toNat reply with
  | none => simp [hbuf] at h
  | some r =>
      obtain ⟨raw, t⟩ := r
      rw [hbuf] at h
      dsimp only at h
      by_cases ht : t = 0
      · rw [if_pos ht] at h
        simp only [Option.map_eq_some_iff, Prod.mk.injEq] at h
        obtain ⟨r, -, rfl, -⟩ := h
        exact ⟨rfl, raw, t, rfl, fun hne => absurd ht hne⟩
      · -- the bytes of a transfer that failed are not parsed
        rw [if_neg ht, Option.some.injEq, Prod.mk.injEq] at h
        obtain ⟨rfl, hc⟩ := h
        exact ⟨rfl, raw, t, rfl, fun _ => hc.symm⟩

/-- The transfer of a dump returns one of two codes. -/
theorem readBuffer_code {raw raw' : RawData} {len : Nat} {reply : Option Bytes} {t : UInt8}
    (h : readBuffer raw len reply = some (raw', t)) : t = EXIT_FAILURE ∨ t = EXIT_SUCCESS := by
  unfold readBuffer at h
  split at h
  · cases h
    exact .inl rfl
  · split at h
    · cases h
    · simp only [Option.some.injEq, Prod.mk.injEq] at h
      rw [← h.2]
      exact (Classical.em _).imp (fun herr => if_pos herr) (fun hok => if_neg hok)

/-- What `read_i2c` does to the count, by the dump that is due. -/
theorem readI2c_count {e : LoopEnv} {c : UInt8} (h : readI2c e d = some (d', c, evs)) :
    d'.errorCount = d.errorCount ∧ Event.resetIoMcu ∉ evs ∧
      match dueDump e d with
      | none => c = 0
      | some len => ∃ raw t, readBuffer d.i2c_raw_data len.toNat e.reply = some (raw, t) ∧
          (t ≠ 0 → c = t) := by
  unfold readI2c at h
  unfold dueDump
  by_cases hhi : timerExpired e.hiNow d.hi_prio_timer = true
  · rw [if_pos hhi] at h ⊢
    simp only [Option.map_eq_some_iff, Prod.mk.injEq] at h
    obtain ⟨r, hr, rfl, rfl, rfl⟩ := h
    obtain ⟨hcount, hcode⟩ := readDump_count hr
    exact ⟨hcount, by simp, hcode⟩
  · rw [if_neg hhi] at h ⊢
    by_cases hlow : timerExpired e.lowNow d.low_prio_timer = true
    · rw [if_pos hlow] at h ⊢
      simp only [Option.map_eq_some_iff, Prod.mk.injEq] at h
      obtain ⟨r, hr, rfl, rfl, rfl⟩ := h
      obtain ⟨hcount, hcode⟩ := readDump_count hr
      exact ⟨hcount, by simp, hcode⟩
    · rw [if_neg hlow] at h ⊢
      split at h
      · simp only [Option.map_eq_some_iff, Prod.mk.injEq] at h
        obtain ⟨w, -, rfl, rfl, rfl⟩ := h
        exact ⟨rfl, by simp, rfl⟩
      · cases h
        exact ⟨rfl, by simp, rfl⟩

/-- `mainHandler` counts a failure, and resets the microcontroller when there are too many. -/
theorem countError_failure (h : d.errorCount.toNat ≤ MAX_I2C_ERROR.toNat) :
    (countError EXIT_FAILURE d).2 = [.resetIoMcu] ∨
      ((countError EXIT_FAILURE d).2 = [] ∧
        (countError EXIT_FAILURE d).1.errorCount.toNat = d.errorCount.toNat + 1 ∧
        d.errorCount.toNat + 1 ≤ MAX_I2C_ERROR.toNat) := by
  have hmax : MAX_I2C_ERROR.toNat = 5 := rfl
  have hnext : (d.errorCount + 1).toNat = d.errorCount.toNat + 1 := by
    rw [UInt8.toNat_add]
    show (d.errorCount.toNat + 1) % 256 = _
    omega
  unfold countError
  rw [if_pos rfl]
  dsimp only
  by_cases hmany : MAX_I2C_ERROR < d.errorCount + 1
  · rw [if_pos hmany]
    exact .inl rfl
  · rw [if_neg hmany]
    rw [UInt8.lt_iff_toNat_lt, hnext] at hmany
    exact .inr ⟨rfl, hnext, by omega⟩

/-- Whatever `read_i2c` returns, the count stays in its bound. -/
theorem countError_le (c : UInt8) (d : Daemon) :
    (countError c d).1.errorCount.toNat ≤ MAX_I2C_ERROR.toNat := by
  unfold countError
  dsimp only
  generalize (if c = EXIT_FAILURE then d.errorCount + 1 else 0) = count
  by_cases hmany : MAX_I2C_ERROR < count
  · rw [if_pos hmany]
    exact Nat.zero_le _
  · rw [if_neg hmany]
    rw [UInt8.lt_iff_toNat_lt] at hmany
    exact Nat.le_of_not_lt hmany

/-- The clients leave the count alone and reset nothing. -/
theorem clientHandler_count {e : ClientEnv} (h : clientHandler e d = some (d', evs)) :
    d'.errorCount = d.errorCount ∧ Event.resetIoMcu ∉ evs := by
  unfold clientHandler at h
  dsimp only at h
  split at h
  · simp only [answerRead, Option.map_eq_some_iff, Prod.mk.injEq] at h
    obtain ⟨r, -, rfl, rfl⟩ := h
    exact ⟨rfl, by simp⟩
  · split at h
    · obtain ⟨id, -, rfl, rfl⟩ := acceptWrite_eq_some_iff.mp h
      exact ⟨rfl, by simp⟩
    · cases h
      exact ⟨rfl, by simp⟩

/-- **What a step does to the count**: it keeps it in its bound, and, unless it idles while failures
are pending, above them. -/
theorem step_count {tr : List Event} {a : Action} {n : Nat}
    (hs : hwsysMachine.step d a = some (d', evs))
    (hmax : d.errorCount.toNat ≤ MAX_I2C_ERROR.toNat) (hn : n ≤ d.errorCount.toNat)
    (hidle : idles ⟨d, tr, a⟩ = true → n = 0) :
    d'.errorCount.toNat ≤ MAX_I2C_ERROR.toNat ∧
      countPending n ⟨d, tr, a⟩ ≤ d'.errorCount.toNat := by
  cases a with
  | client e =>
      obtain ⟨hcount, -⟩ := clientHandler_count hs
      rw [hcount]
      exact ⟨hmax, (countPending_le_of_none rfl n).trans hn⟩
  | getData dst addr len =>
      simp only [hwsysMachine, Option.map_eq_some_iff, Prod.mk.injEq] at hs
      obtain ⟨r, -, rfl, -⟩ := hs
      exact ⟨hmax, (countPending_le_of_none rfl n).trans hn⟩
  | loop e =>
      have hloop : mainHandler e d = some (d', evs) := hs
      simp only [mainHandler, Option.map_eq_some_iff, Prod.mk.injEq] at hloop
      obtain ⟨⟨d₁, c, evs₁⟩, hread, rfl, rfl⟩ := hloop
      obtain ⟨hcount, -, hcode⟩ := readI2c_count hread
      refine ⟨countError_le c d₁, ?_⟩
      cases hdue : dueDump e d with
      | none =>
          -- the count starts again, but nothing is pending
          have hzero : n = 0 := hidle (by simp [idles, hdue])
          have hnone : transferCode ⟨d, tr, .loop e⟩ = none := by simp [transferCode, hdue]
          have hle := countPending_le_of_none hnone n
          omega
      | some len =>
          rw [hdue] at hcode
          obtain ⟨raw, t, hbuf, hc⟩ := hcode
          have htransfer : transferCode ⟨d, tr, .loop e⟩ = some t := by
            simp [transferCode, hdue, hbuf]
          rcases readBuffer_code hbuf with rfl | rfl
          · rw [hc (by decide)] at hs ⊢
            rcases countError_failure (d := d₁) (by rw [hcount]; exact hmax) with
              hreset | ⟨-, hnext, -⟩
            · -- the reset takes all failures back
              have hres : resets ⟨d, tr, .loop e⟩ = true := by simp [resets, hs, hreset]
              rw [countPending, hres, Bool.true_or, if_pos rfl]
              exact Nat.zero_le _
            · have hle := countPending_le n ⟨d, tr, .loop e⟩
              rw [hcount] at hnext
              show _ ≤ (countError EXIT_FAILURE d₁).1.errorCount.toNat
              omega
          · have hsucc : dumpSucceeds ⟨d, tr, .loop e⟩ = true := by simp [dumpSucceeds, htransfer]
            rw [countPending, hsucc, Bool.or_true, if_pos rfl]
            exact Nat.zero_le _

end Steps

/-! ## Runs -/

/-- No iteration of the schedule idles while failed dumps are pending. -/
def NoIdlePending (vs : List HwsysVisit) : Prop :=
  ∀ ws v us, vs = ws ++ v :: us → idles v = true → pendingFailures ws = 0

theorem NoIdlePending.left {ws us : List HwsysVisit} (h : NoIdlePending (ws ++ us)) :
    NoIdlePending ws := by
  intro ws' v us' heq
  exact h ws' v (us' ++ us) (by simp [heq])

section Runs

variable {handlerAddr : Handler → UInt32} {hiNow lowNow : Nat} {hiLen lowLen : UInt16}
  {raw : RawData} {vs : List HwsysVisit} {tr : List Event} {d : Daemon}

/-- The count is never behind the failures that are pending. -/
theorem pending_le_errorCount
    (h : Exec hwsysMachine (openI2c handlerAddr hiNow lowNow hiLen lowLen raw) vs tr d)
    (hidle : NoIdlePending vs) :
    d.errorCount.toNat ≤ MAX_I2C_ERROR.toNat ∧ pendingFailures vs ≤ d.errorCount.toNat := by
  refine h.inv_run (fun vs d _ => NoIdlePending vs →
    d.errorCount.toNat ≤ MAX_I2C_ERROR.toNat ∧ pendingFailures vs ≤ d.errorCount.toNat)
    (fun _ => ⟨Nat.zero_le _, Nat.zero_le _⟩) ?_ hidle
  intro ws s past a s' evs ih hs hws
  obtain ⟨hmax, hpending⟩ := ih hws.left
  rw [pendingFailures_snoc]
  exact step_count hs hmax hpending (hws ws _ [] rfl)

/-- **The watchdog watches every run in which no iteration idles while failed dumps are
pending.** -/
theorem watched_of_noIdle
    (h : Exec hwsysMachine (openI2c handlerAddr hiNow lowNow hiLen lowLen raw) vs tr d)
    (hidle : NoIdlePending vs) : Watched vs := by
  apply watched_of_pending_le
  intro ws us heq
  cases us with
  | nil =>
      rw [List.append_nil] at heq
      obtain ⟨hmax, hpending⟩ := pending_le_errorCount h hidle
      exact heq ▸ hpending.trans hmax
  | cons v us =>
      -- the run up to this point is one of its own
      obtain ⟨hmax, hpending⟩ := pending_le_errorCount (h.upTo heq) (heq ▸ hidle).left
      exact hpending.trans hmax

end Runs

/-- An iteration of the main loop at second `now`, on a bus that does not answer. -/
def deadBus (now : Nat) : Action := .loop ⟨now, now, now, none⟩

/-- A dump is due whenever the loop comes to it. -/
def busySchedule : List Action :=
  [deadBus 31, deadBus 61, deadBus 91, deadBus 121, deadBus 151, deadBus 181]

/-- The sixth failure resets the microcontroller. -/
theorem watched_of_noIdle_busy : ∃ vs tr d, Exec hwsysMachine quietDaemon vs tr d ∧
    vs.map (fun v => v.act) = busySchedule ∧ tr = [.resetIoMcu] ∧ Watched vs := by
  obtain ⟨vs, hvs, hact⟩ := Exec.replay hwsysMachine quietDaemon busySchedule rfl
  have hpoints := hvs.points_eq
  rw [hact] at hpoints
  have hnone : ∀ v ∈ hwsysMachine.points quietDaemon [] busySchedule, idles v = false := by
    decide +kernel
  refine ⟨vs, _, _, hvs, hact, by decide +kernel, watched_of_noIdle hvs ?_⟩
  intro ws v us heq hidle
  rw [hnone v (by rw [← hpoints, heq]; simp)] at hidle
  cases hidle

/-- A dump every three seconds; between two dumps the loop sleeps once. -/
def idleSchedule : List Action :=
  [deadBus 1, deadBus 2, deadBus 4, deadBus 5, deadBus 7, deadBus 8, deadBus 10, deadBus 11,
    deadBus 13, deadBus 14, deadBus 16]

/-- Six failed dumps and no reset. -/
theorem idle_schedule_not_watched : ¬ ∀ vs tr d, Exec hwsysMachine quietDaemon vs tr d →
    Watched vs := by
  intro h
  obtain ⟨vs, hvs, hact⟩ := Exec.replay hwsysMachine quietDaemon idleSchedule rfl
  have hpoints := hvs.points_eq
  rw [hact] at hpoints
  have hwatched := h vs _ _ hvs [] vs [] (by simp)
  rw [hpoints] at hwatched
  have hreset := hwatched (by decide +kernel) (by decide +kernel)
  exact absurd hreset (by decide +kernel)

end Hwsys
