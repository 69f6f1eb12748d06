import TfPack.RealtekPoe.Daemon

set_option autoImplicit false

/-! # The length of the command queue

The poll queues `pollCmds n` commands every two seconds for `n` ports and never looks at the
queue. A command leaves the queue only when a frame of twelve bytes has been consumed, so after
a lost or truncated reply the queue grows with every poll: no bound in the number of ports and of
ubus requests holds (`cmdPending_unbounded`). With the number of polls since the queue was last
empty as a third parameter there is one, and the growth between two frames is exactly that of the
poll (`cmdPending_length_le`).
-/

namespace RealtekPoe

open StepMachine EventTrace

variable {strtof : List Char → Float32} {b : Boot}

/-! ## Counting -/

/-- A point of a run of the daemon. -/
abbrev DaemonVisit := Visit Daemon DaemonAction LineEvent

/-- The step is a firing of `state_timeout_cb`. -/
def DaemonVisit.isPoll (v : DaemonVisit) : Bool :=
  match v.act with
  | .stateTimeout => true
  | _ => false

/-- The step is a ubus request. -/
def DaemonVisit.isRequest (v : DaemonVisit) : Bool :=
  match v.act with
  | .request _ => true
  | _ => false

/-- The firings of `state_timeout_cb`. -/
def polls (vs : List DaemonVisit) : Nat := vs.countP DaemonVisit.isPoll

/-- The ubus requests issued. -/
def requests (vs : List DaemonVisit) : Nat := vs.countP DaemonVisit.isRequest

/-- The step finds the queue empty. -/
def DaemonVisit.findsEmpty (v : DaemonVisit) : Bool := v.state.queue.cmd_pending.isEmpty

/-- The steps since the queue was last empty. -/
def sinceEmpty (vs : List DaemonVisit) : List DaemonVisit := fromLast DaemonVisit.findsEmpty vs

/-- What `n` ports allow the queue to hold: the setup, and the commands of so many polls and
requests. -/
def queueBound (n polls requests : Nat) : Nat :=
  setupCmds n + pollCmds n * polls + portSetupCmds n * requests

/-- One more step raises the bound by what the step may queue. -/
theorem queueBound_snoc (n : Nat) (ws : List DaemonVisit) (v : DaemonVisit) :
    queueBound n (polls (ws ++ [v])) (requests (ws ++ [v])) =
      queueBound n (polls ws) (requests ws) + v.act.cmds n := by
  simp only [polls, requests, List.countP_append, List.countP_singleton]
  obtain ⟨d, past, a⟩ := v
  cases a <;>
    simp [queueBound, DaemonVisit.isPoll, DaemonVisit.isRequest, DaemonAction.cmds, Nat.mul_add,
      Nat.add_assoc, Nat.add_comm (pollCmds n)]

theorem queueBound_mono {m n : Nat} (h : m ≤ n) (p r : Nat) :
    queueBound m p r ≤ queueBound n p r := by
  have hsetup := portSetupCmds_mono h
  have hpolls := Nat.mul_le_mul_right p (pollCmds_mono h)
  have hrequests := Nat.mul_le_mul_right r hsetup
  unfold queueBound setupCmds
  omega

/-! ## What a step does to the queue -/

/-- Commands are added at the end; the timer is left alone. -/
theorem queueAll_pending (q : Queue) (cmds : List Bytes) :
    ∃ new, (queueAll q cmds).1.cmd_pending = q.cmd_pending ++ new ∧
      new.length = cmds.length ∧ (queueAll q cmds).1.mcu_error_timeout = q.mcu_error_timeout := by
  induction cmds generalizing q with
  | nil => exact ⟨[], by simp [queueAll], rfl, rfl⟩
  | cons cmd cmds ih =>
      obtain ⟨new, hnew, hlen, htimer⟩ := ih (poeCmdQueue q cmd).1
      refine ⟨⟨q.queued, buildFrame cmd (q.cmd_seq + 1), 0⟩ :: new, ?_, by simp [hlen], htimer⟩
      rw [queueAll, hnew]
      simp [poeCmdQueue]

/-- Commands queued behind others are not written. -/
theorem queueAll_not_tx {q : Queue} (cmds : List Bytes) (h : q.cmd_pending ≠ []) :
    ∀ e ∈ (queueAll q cmds).2, e.isTx = false := by
  induction cmds generalizing q with
  | nil => simp [queueAll]
  | cons cmd cmds ih =>
      have hmore : (poeCmdQueue q cmd).1.cmd_pending ≠ [] := by simp [poeCmdQueue]
      have hfirst : (poeCmdQueue q cmd).2 = [.queued q.queued] := by simp [poeCmdQueue, h]
      intro e he
      rcases List.mem_append.mp he with he | he
      · rw [hfirst, List.mem_singleton] at he
        exact he ▸ rfl
      · exact ih hmore e he

/-- A frame never makes the queue longer. -/
theorem poeStreamMsg_length (q : Queue) (reply : Frame) :
    (poeStreamMsg q reply).1.cmd_pending.length ≤ q.cmd_pending.length := by
  have hstep := poeStreamMsg_step q reply
  have hrx : (poeStreamMsg q reply).2.head? = some (.rx reply) := rfl
  generalize poeStreamMsg q reply = r at hstep hrx ⊢
  obtain ⟨q', evs⟩ := r
  cases hstep with
  | queue bytes c new => simp at hrx
  | expire timer => exact Nat.le_refl _
  | unsolicited r empty => exact Nat.le_refl _
  | drop r c rest calls head quiet => simp [head]
  | keep r timer sum rejected => exact Nat.le_refl _
  | retry r c rest head timer sum rejected left => simp [head]

/-- The number of ports never falls, and a step adds to the queue what its action may queue. -/
theorem DaemonStep.length_le {d d' : Daemon} {a : DaemonAction} {evs : List LineEvent}
    (h : DaemonStep d a d' evs) : d.config.port_count ≤ d'.config.port_count ∧
      d'.queue.cmd_pending.length ≤
        d.queue.cmd_pending.length + a.cmds d'.config.port_count := by
  cases h with
  | queue _ c cmds grows few poll =>
      obtain ⟨new, hnew, hlen, -⟩ := queueAll_pending d.queue cmds
      refine ⟨grows, ?_⟩
      rw [hnew, List.length_append, hlen]
      exact Nat.add_le_add_left few _
  | frame bytes rest reply => exact ⟨Nat.le_refl _, poeStreamMsg_length d.queue reply⟩
  | short bytes => exact ⟨Nat.le_refl _, Nat.le_refl _⟩
  | expire timer => exact ⟨Nat.le_refl _, Nat.le_refl _⟩

/-! ## A queue that waits for a reply -/

/-- From `d` on, as long as no frame is consumed, nothing is written, nothing leaves the queue,
and every firing of `state_timeout_cb` adds what the ports ask for. -/
def Blocked (strtof : List Char → Float32) (d : Daemon) : Prop :=
  ∀ vs tr s, Exec (daemonMachine strtof) d vs tr s → (∀ e ∈ tr, e.isRx = false) →
    (∀ e ∈ tr, e.isTx = false) ∧ d.queue.cmd_pending <+: s.queue.cmd_pending ∧
      d.queue.cmd_pending.length + pollCmds d.config.port_count * polls vs ≤
        s.queue.cmd_pending.length

/-- What is true of the daemon in `s` while it waits for the reply it waited for in `d`. -/
structure Waiting (d : Daemon) (vs : List DaemonVisit) (s : Daemon) (tr : List LineEvent) :
    Prop where
  silent : ∀ e ∈ tr, e.isTx = false
  kept : d.queue.cmd_pending <+: s.queue.cmd_pending
  timer : s.queue.mcu_error_timeout = false
  ports : d.config.port_count ≤ s.config.port_count
  grown : d.queue.cmd_pending.length + pollCmds d.config.port_count * polls vs ≤
    s.queue.cmd_pending.length

/-- Commands queued while the daemon waits. -/
theorem Waiting.queue {d s : Daemon} {vs : List DaemonVisit} {tr : List LineEvent}
    (h : Waiting d vs s tr) (hd : d.queue.cmd_pending ≠ []) {a : DaemonAction} {c : Config}
    {cmds : List Bytes} (grows : s.config.port_count ≤ c.port_count)
    (poll : a = .stateTimeout → cmds.length = pollCmds s.config.port_count) :
    Waiting d (vs ++ [⟨s, tr, a⟩]) ⟨c, (queueAll s.queue cmds).1, s.rx⟩
      (tr ++ (queueAll s.queue cmds).2) := by
  obtain ⟨new, hnew, hlen, htimer⟩ := queueAll_pending s.queue cmds
  have hs : s.queue.cmd_pending ≠ [] := by
    intro hnil
    exact hd (List.prefix_nil.mp (hnil ▸ h.kept))
  refine ⟨?_, ?_, htimer.trans h.timer, h.ports.trans grows, ?_⟩
  · intro e he
    rcases List.mem_append.mp he with he | he
    · exact h.silent e he
    · exact queueAll_not_tx cmds hs e he
  · rw [hnew]
    exact h.kept.trans (List.prefix_append _ _)
  · have hgrown := h.grown
    have hports := pollCmds_mono h.ports
    rw [hnew, List.length_append, hlen, polls, List.countP_append, Nat.mul_add]
    unfold polls at hgrown
    cases a with
    | stateTimeout =>
        have hpoll := poll rfl
        simp only [List.countP_singleton, DaemonVisit.isPoll, if_true, Nat.mul_one]
        omega
    | rx bytes =>
        simp [DaemonVisit.isPoll]
        omega
    | mcuTimeout =>
        simp [DaemonVisit.isPoll]
        omega
    | request r =>
        simp [DaemonVisit.isPoll]
        omega

/-- One step without a frame. -/
theorem Waiting.step {d s s' : Daemon} {vs : List DaemonVisit} {tr evs : List LineEvent}
    {a : DaemonAction} (h : Waiting d vs s tr) (hd : d.queue.cmd_pending ≠ [])
    (hs : DaemonStep s a s' evs) (hrx : ∀ e ∈ evs, e.isRx = false) :
    Waiting d (vs ++ [⟨s, tr, a⟩]) s' (tr ++ evs) := by
  cases hs with
  | queue _ c cmds grows few poll => exact h.queue hd grows poll
  | frame bytes rest reply =>
      have hframe := hrx (.rx reply) (by simp [poeStreamMsg])
      simp [LineEvent.isRx] at hframe
  | short bytes =>
      rw [List.append_nil]
      refine ⟨h.silent, h.kept, h.timer, h.ports, ?_⟩
      simpa [polls, List.countP_append, DaemonVisit.isPoll] using h.grown
  | expire timer => exact absurd h.timer (by simp [timer])

/-- **A queue that holds a command is blocked unless the back-off timer is pending.** -/
theorem blocked_of_pending {d : Daemon} (hd : d.queue.cmd_pending ≠ [])
    (ht : d.queue.mcu_error_timeout = false) : Blocked strtof d := by
  intro vs tr s h hrx
  have hwait : (∀ e ∈ tr, e.isRx = false) → Waiting d vs s tr := by
    refine h.inv_run (fun vs s tr => (∀ e ∈ tr, e.isRx = false) → Waiting d vs s tr) ?_ ?_
    · intro _
      exact ⟨by simp, List.prefix_refl _, ht, Nat.le_refl _, by simp [polls]⟩
    · intro vs s tr a s' evs ih hs hrx
      have hpast := ih (fun e he => hrx e (List.mem_append_left _ he))
      exact hpast.step hd (daemonMachine_step hs) (fun e he => hrx e (List.mem_append_right _ he))
  exact ⟨(hwait hrx).silent, (hwait hrx).kept, (hwait hrx).grown⟩

/-! ## The bound -/

/-- What a step leaves within the bound. -/
theorem queueBound_step {d d' : Daemon} {vs : List DaemonVisit} {tr evs : List LineEvent}
    {a : DaemonAction}
    (h : d.queue.cmd_pending.length ≤
      queueBound d.config.port_count (polls (sinceEmpty vs)) (requests (sinceEmpty vs)))
    (hs : DaemonStep d a d' evs) :
    d'.queue.cmd_pending.length ≤
      queueBound d'.config.port_count (polls (sinceEmpty (vs ++ [⟨d, tr, a⟩])))
        (requests (sinceEmpty (vs ++ [⟨d, tr, a⟩]))) := by
  obtain ⟨hports, hlen⟩ := hs.length_le
  cases hempty : DaemonVisit.findsEmpty ⟨d, tr, a⟩ with
  | true =>
      -- the count starts afresh with this step
      have hnil : d.queue.cmd_pending.length = 0 := by
        simpa [DaemonVisit.findsEmpty] using hempty
      rw [sinceEmpty, fromLast_mark vs hempty]
      have hone := queueBound_snoc d'.config.port_count [] ⟨d, tr, a⟩
      rw [List.nil_append] at hone
      rw [hone]
      dsimp only
      omega
  | false =>
      rw [sinceEmpty, fromLast_quiet vs hempty, queueBound_snoc]
      have hmono := queueBound_mono hports (polls (sinceEmpty vs)) (requests (sinceEmpty vs))
      unfold sinceEmpty at h hmono
      dsimp only
      omega

/-- The setup is within the bound. -/
theorem start_length_le (b : Boot) (strtof : List Char → Float32) :
    (b.start strtof).1.queue.cmd_pending.length ≤
      queueBound (b.start strtof).1.config.port_count 0 0 := by
  obtain ⟨new, hnew, hlen, -⟩ := queueAll_pending initQueue (poeInitialSetup (b.config strtof))
  have hload := configLoad_loaded strtof true b.poe b.port .initial
  have hloaded : (b.config strtof).Loaded 0 := by
    unfold Boot.config configApplyQuirks
    split
    · exact ⟨hload.noBudgets, Nat.zero_le _⟩
    · exact ⟨hload.noBudgets, Nat.zero_le _⟩
  have hsetup := length_poeInitialSetup hloaded
  show (queueAll initQueue (poeInitialSetup (b.config strtof))).1.cmd_pending.length ≤
    queueBound (b.config strtof).port_count 0 0
  rw [hnew, List.length_append, hlen]
  simpa [initQueue, queueBound] using hsetup

/-- **In every run the length of `cmd_pending` is bounded in the number of ports, of ubus
requests and of firings of `state_timeout_cb` since the queue was last empty; and a command that
waits for its reply blocks the queue while no frame arrives.** -/
theorem cmdPending_length_le {vs : List DaemonVisit} {tr : List LineEvent} {d : Daemon}
    (h : Exec (daemonMachine strtof) (b.start strtof).1 vs tr d) :
    d.queue.cmd_pending.length ≤
        queueBound d.config.port_count (polls (sinceEmpty vs)) (requests (sinceEmpty vs)) ∧
      (d.queue.cmd_pending ≠ [] → d.queue.mcu_error_timeout = false → Blocked strtof d) := by
  refine ⟨?_, fun hd ht => blocked_of_pending hd ht⟩
  refine h.inv_run (fun vs d _ => d.queue.cmd_pending.length ≤
    queueBound d.config.port_count (polls (sinceEmpty vs)) (requests (sinceEmpty vs))) ?_ ?_
  · exact start_length_le b strtof
  · intro vs d tr a d' evs ih hs
    exact queueBound_step ih (daemonMachine_step hs)

/-- A start without configuration files, and a poll: the bound holds, and the setup waits for its
first reply. -/
theorem cmdPending_length_le_poll : ∃ vs tr d,
    Exec (daemonMachine fun _ => 0) ((Boot.mk [] [] none).start fun _ => 0).1 vs tr d ∧
      vs.map Visit.act = [.stateTimeout] ∧
      d.queue.cmd_pending.length ≤
        queueBound d.config.port_count (polls (sinceEmpty vs)) (requests (sinceEmpty vs)) ∧
      Blocked (fun _ => 0) d := by
  obtain ⟨vs, hvs, hact⟩ := Exec.replay (daemonMachine fun _ => 0)
    ((Boot.mk [] [] none).start fun _ => 0).1 [.stateTimeout] rfl
  obtain ⟨hle, hblocked⟩ := cmdPending_length_le hvs
  have hpending := hblocked (List.ne_nil_of_length_pos (by decide +kernel)) (by decide +kernel)
  exact ⟨vs, _, _, hvs, hact, hle, hpending⟩

/-! ## No bound without the polls -/

/-- With no reply, `n` polls leave at least `n` commands in the queue. -/
theorem polls_without_reply (strtof : List Char → Float32) (d : Daemon) (n : Nat) :
    ∃ vs tr s, Exec (daemonMachine strtof) d vs tr s ∧ requests vs = 0 ∧
      s.config.port_count = d.config.port_count ∧ n ≤ s.queue.cmd_pending.length := by
  induction n with
  | zero => exact ⟨[], [], d, .nil, rfl, rfl, Nat.zero_le _⟩
  | succ n ih =>
      obtain ⟨vs, tr, s, hex, hreq, hports, hlen⟩ := ih
      have hstep : (daemonMachine strtof).step s .stateTimeout =
          some ((s.queueCmds (stateTimeoutCb s.config)).1,
            (s.queueCmds (stateTimeoutCb s.config)).2) := rfl
      obtain ⟨new, hnew, hadded, -⟩ := queueAll_pending s.queue (stateTimeoutCb s.config)
      refine ⟨_, _, _, hex.snoc hstep, ?_, hports, ?_⟩
      · simpa [requests, List.countP_append, DaemonVisit.isRequest] using hreq
      · show n + 1 ≤ (queueAll s.queue (stateTimeoutCb s.config)).1.cmd_pending.length
        rw [hnew, List.length_append, hadded, length_stateTimeoutCb]
        unfold pollCmds
        omega

/-- No number of ports and of ubus requests bounds the queue when replies may be lost. -/
theorem cmdPending_unbounded : ¬ ∃ B : Nat → Nat → Nat, ∀ strtof (b : Boot) vs tr d,
    Exec (daemonMachine strtof) (b.start strtof).1 vs tr d →
      d.queue.cmd_pending.length < B d.config.port_count (requests vs) := by
  rintro ⟨B, hB⟩
  let b : Boot := ⟨[], [], none⟩
  let n := B (b.start fun _ => 0).1.config.port_count 0
  obtain ⟨vs, tr, d, hex, hreq, hports, hlen⟩ :=
    polls_without_reply (fun _ => 0) (b.start fun _ => 0).1 n
  have hlt := hB (fun _ => 0) b vs tr d hex
  rw [hreq, hports] at hlt
  exact absurd hlen (Nat.not_le.mpr hlt)

end RealtekPoe
