import TfPack.Lib.Trace
import TfPack.RealtekPoe.Queue

set_option autoImplicit false

/-! # The queue never waits for a reply that is not owed

The frames written since the last consumed frame are exactly what the queue owes: nothing while
the back-off timer is pending or the queue is empty, the head's frame otherwise
(`lineInv_of_exec`). So a queue that waits, waits for the reply to its head, and there is
never more than one reply to come.
-/

namespace RealtekPoe

open StepMachine EventTrace

/-- The frames written, with their commands. -/
def writes (evs : List LineEvent) : List (Nat × Frame) := evs.filterMap LineEvent.txOf

/-- The frames written since the last frame was consumed. -/
def outstanding (tr : List LineEvent) : List (Nat × Frame) :=
  writes (sinceLast LineEvent.isRx tr)

/-- What the queue waits for: the frame `poe_cmd_next` would write. -/
def owed (q : Queue) : List (Nat × Frame) := writes (poeCmdNext q)

section Events

variable {tr evs : List LineEvent}

theorem writes_append (evs evs' : List LineEvent) :
    writes (evs ++ evs') = writes evs ++ writes evs' := List.filterMap_append

/-- The written frames are counted by `isTx`. -/
theorem countP_isTx (evs : List LineEvent) :
    evs.countP LineEvent.isTx = (writes evs).length := by
  induction evs with
  | nil => rfl
  | cons e es ih =>
      rw [List.countP_cons, ih, writes, writes]
      cases e <;> simp [LineEvent.isTx, LineEvent.txOf, List.filterMap_cons]

theorem outstanding_quiet (h : ∀ e ∈ evs, e.isRx = false) :
    outstanding (tr ++ evs) = outstanding tr ++ writes evs := by
  rw [outstanding, sinceLast_quiet tr h, writes_append]
  rfl

theorem outstanding_restart {f : Frame} (h : ∀ e ∈ evs, e.isRx = false) :
    outstanding (tr ++ .rx f :: evs) = writes evs := by
  rw [outstanding, sinceLast_restart tr rfl h]

theorem owed_timer {q : Queue} (h : q.mcu_error_timeout = true) : owed q = [] := by
  rw [owed, poeCmdNext_timer h]
  rfl

theorem owed_empty {q : Queue} (h : q.cmd_pending = []) : owed q = [] := by
  simp [owed, writes, poeCmdNext, h]

theorem owed_head {q : Queue} {c : Cmd} {rest : List Cmd} (h : q.cmd_pending = c :: rest)
    (ht : q.mcu_error_timeout = false) : owed q = [(c.id, c.cmd)] := by
  simp [owed, writes, poeCmdNext, poeCmdSend, h, ht, LineEvent.txOf]

/-- What is owed is the frame of the head, and the timer is not pending. -/
theorem owed_eq_cons {q : Queue} {idf : Nat × Frame} {more : List (Nat × Frame)}
    (h : owed q = idf :: more) : ∃ c rest, q.cmd_pending = c :: rest ∧
      q.mcu_error_timeout = false ∧ idf = (c.id, c.cmd) ∧ more = [] := by
  cases ht : q.mcu_error_timeout with
  | true => simp [owed_timer ht] at h
  | false =>
      cases hq : q.cmd_pending with
      | nil => simp [owed_empty hq] at h
      | cons c rest =>
          rw [owed_head hq ht, List.cons.injEq] at h
          exact ⟨c, rest, rfl, rfl, h.1.symm, h.2.symm⟩

theorem owed_length (q : Queue) : (owed q).length ≤ 1 := by
  cases h : owed q with
  | nil => simp
  | cons idf more =>
      obtain ⟨c, rest, -, -, -, rfl⟩ := owed_eq_cons h
      simp

end Events

/-! ## The invariant -/

/-- **A step that consumes no frame writes what is newly owed; one that consumes a frame writes
all that is then owed.** -/
theorem QueueStep.owes {q q' : Queue} {evs : List LineEvent} (hs : QueueStep q q' evs) :
    ((∀ e ∈ evs, e.isRx = false) ∧ owed q' = owed q ++ writes evs) ∨
    ∃ f more, evs = .rx f :: more ∧ (∀ e ∈ more, e.isRx = false) ∧ owed q' = writes more := by
  cases hs with
  | queue bytes c _ =>
      left
      cases hq : q.cmd_pending with
      | nil =>
          refine ⟨by simpa [LineEvent.isRx] using poeCmdSend_not_rx q c, ?_⟩
          rw [owed_empty hq]
          rfl
      | cons d rest =>
          refine ⟨by simp [LineEvent.isRx], ?_⟩
          simp [owed, writes, poeCmdNext, poeCmdSend, hq, LineEvent.txOf]
  | expire timer =>
      left
      constructor
      · simpa [LineEvent.isRx] using poeCmdNext_not_rx { q with mcu_error_timeout := false }
      · rw [owed_timer timer]
        rfl
  | unsolicited reply empty => exact .inr ⟨reply, [], rfl, by simp, owed_empty empty⟩
  | drop reply c rest calls head quiet =>
      refine .inr ⟨reply, _, rfl, fun e he => ?_, ?_⟩
      · rcases List.mem_append.mp he with he | he
        · exact (LineEvent.of_isCall (quiet e he)).1
        · exact poeCmdNext_not_rx _ e he
      · have hcalls : writes calls = [] := by
          rw [writes, List.filterMap_eq_nil_iff]
          exact fun e he => (LineEvent.of_isCall (quiet e he)).2.2
        rw [writes_append, hcalls]
        rfl
  | keep reply timer _ _ => exact .inr ⟨reply, [], rfl, by simp, owed_timer timer⟩
  | retry reply c rest _ _ _ _ _ => exact .inr ⟨reply, [], rfl, by simp, owed_timer rfl⟩

/-- What is outstanding is what is owed, and never more than one frame was outstanding. -/
structure LineInv (q : Queue) (tr : List LineEvent) : Prop where
  owes : outstanding tr = owed q
  single : CountBounded LineEvent.isRx LineEvent.isTx 1 tr

section Invariant

variable {q q' : Queue} {tr evs : List LineEvent}

/-- **One step keeps the invariant.** -/
theorem LineInv.step (h : LineInv q tr) (hs : QueueStep q q' evs) : LineInv q' (tr ++ evs) := by
  rcases hs.owes with ⟨hquiet, howed⟩ | ⟨f, more, rfl, hquiet, howed⟩
  · have howes : outstanding (tr ++ evs) = owed q' := by
      rw [outstanding_quiet hquiet, h.owes, howed]
    refine ⟨howes, h.single.quiet hquiet ?_⟩
    rw [countP_isTx]
    exact (congrArg List.length howes).le.trans (owed_length q')
  · refine ⟨by rw [outstanding_restart hquiet, howed], h.single.restart rfl hquiet ?_⟩
    rw [countP_isTx, ← howed]
    exact owed_length q'

theorem lineInv_init : LineInv initQueue [] := ⟨rfl, CountBounded.nil 1⟩

/-- **The frames written since the last consumed frame are what the queue owes**, in every
run. -/
theorem lineInv_of_exec {vs : List (Visit Queue QueueAction LineEvent)}
    (h : Exec queueMachine initQueue vs tr q) : LineInv q tr :=
  h.inv LineInv lineInv_init (fun _ _ _ _ _ hI hs => hI.step (queueMachine_step hs))

end Invariant

/-! ## Runs -/

/-- A non-empty queue waits for the back-off timer, or for the reply to its head: the last frame
written is the head's, and none has been consumed since. -/
def HeadAwaited (q : Queue) (tr : List LineEvent) : Prop :=
  ∀ c rest, q.cmd_pending = c :: rest → q.mcu_error_timeout = true ∨
    ∃ pre post, tr = pre ++ .tx c.id c.cmd :: post ∧
      ∀ e ∈ post, e.isTx = false ∧ e.isRx = false

/-- Between two written frames a frame is consumed. -/
def OneOutstanding (tr : List LineEvent) : Prop :=
  ∀ pre a mid b post, tr = pre ++ a :: (mid ++ b :: post) → a.isTx = true → b.isTx = true →
    ∃ e ∈ mid, e.isRx = true

theorem LineInv.headAwaited {q : Queue} {tr : List LineEvent} (h : LineInv q tr) :
    HeadAwaited q tr := by
  intro c rest hq
  cases ht : q.mcu_error_timeout with
  | true => exact .inl rfl
  | false =>
      right
      have hout : writes (sinceLast LineEvent.isRx tr) = [(c.id, c.cmd)] := by
        rw [← owed_head hq ht, ← h.owes]
        rfl
      obtain ⟨before, e, after, hsplit, _, he, hafter⟩ := List.filterMap_eq_cons_iff.mp hout
      obtain ⟨pre, hpre⟩ := List.rtakeWhile_suffix (fun e => !LineEvent.isRx e) tr
      have hev : e = .tx c.id c.cmd := by
        cases e <;> simp_all [LineEvent.txOf]
      refine ⟨pre ++ before, after, ?_, fun x hx => ⟨?_, ?_⟩⟩
      · rw [← hpre, ← hev]
        have hsince : List.rtakeWhile (fun e => !LineEvent.isRx e) tr = before ++ e :: after :=
          hsplit
        rw [hsince, List.append_assoc]
      · by_contra htx
        have hnone := List.filterMap_eq_nil_iff.mp hafter x hx
        cases x <;> simp_all [LineEvent.txOf, LineEvent.isTx]
      · have hmem : x ∈ sinceLast LineEvent.isRx tr := by simp [hsplit, hx]
        exact not_mark_of_mem_sinceLast hmem

theorem LineInv.oneOutstanding {q : Queue} {tr : List LineEvent} (h : LineInv q tr) :
    OneOutstanding tr := by
  intro pre a mid b post htr ha hb
  by_contra hno
  have hquiet : ∀ e ∈ a :: (mid ++ [b]), e.isRx = false := by
    intro e he
    rcases List.mem_cons.mp he with rfl | he
    · cases e <;> first
        | rfl
        | cases ha
    rcases List.mem_append.mp he with he | he
    · by_contra hrx
      exact hno ⟨e, he, by simpa using hrx⟩
    · rw [List.mem_singleton] at he
      subst he
      cases e <;> first
        | rfl
        | cases hb
  have hsplit : tr = pre ++ a :: (mid ++ [b]) ++ post := by simp [htr]
  have hle := h.single.window hsplit hquiet
  simp [List.countP_append, ha, hb] at hle

/-- **In every run, a non-empty queue waits for the back-off timer or for the reply to the frame
of its head, the last one written; and there is never more than one reply to come.** -/
theorem headAwaited_of_exec {vs : List (Visit Queue QueueAction LineEvent)}
    {tr : List LineEvent} {q : Queue} (h : Exec queueMachine initQueue vs tr q) :
    HeadAwaited q tr ∧ OneOutstanding tr :=
  ⟨(lineInv_of_exec h).headAwaited, (lineInv_of_exec h).oneOutstanding⟩

/-- Two commands, the first rejected once and written again. -/
theorem headAwaited_after_retry : ∃ vs tr q, Exec queueMachine initQueue vs tr q ∧
    writes tr = [(0, buildFrame [0x40] 1), (0, buildFrame [0x40] 1)] ∧
    HeadAwaited q tr ∧ OneOutstanding tr := by
  obtain ⟨vs, hvs, -⟩ := Exec.replay queueMachine initQueue
    [.queue [0x40], .queue [0x41], .frame (buildFrame [0xff] 1), .expire] (by decide +kernel)
  exact ⟨vs, _, _, hvs, by decide +kernel, headAwaited_of_exec hvs⟩

end RealtekPoe
