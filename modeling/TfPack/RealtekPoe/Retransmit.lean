import TfPack.Lib.Trace
import TfPack.RealtekPoe.Queue

set_option autoImplicit false

/-! # Order and number of transmissions

Commands are numbered as they are queued, and the list of pending commands always holds them in
that order, so the numbers of the frames written never go down: a command's transmissions come
together, and commands come in the order they were queued. Each transmission after a command's
first is paid for by a counted rejection.

The step lemmas cut a step at the call of `poe_cmd_next` that ends it. Before that call the
queue is *ready* (`Ready`): its head may be written, once, for every rejection counted so far.
After it the queue is *settled* (`Settled`).
-/

namespace RealtekPoe

open StepMachine EventTrace

/-- The number of the command whose frame an event writes. -/
def LineEvent.txId : LineEvent → Option Nat
  | .tx id _ => some id
  | _ => none

/-- The number of the command an event queues. -/
def LineEvent.queuedId : LineEvent → Option Nat
  | .queued id => some id
  | _ => none

/-- The commands whose frames were written, one entry a frame. -/
def txIds (tr : List LineEvent) : List Nat := tr.filterMap LineEvent.txId

/-- The commands queued. -/
def queuedIds (tr : List LineEvent) : List Nat := tr.filterMap LineEvent.queuedId

/-- The pending commands. -/
def Queue.ids (q : Queue) : List Nat := q.cmd_pending.map Cmd.id

/-- A checksum-valid rejection is consumed. -/
def Rejected (evs : List LineEvent) : Prop :=
  ∃ a r b, evs = a ++ .rx r :: b ∧ r.sumOk = true ∧ r.rejects = true

/-- A checksum-valid rejection is consumed, and the back-off timer expires after it. -/
def RejectedThenExpired (evs : List LineEvent) : Prop :=
  ∃ a b, evs = a ++ .expired :: b ∧ Rejected a

/-- Between two transmissions of one command it is rejected, and the back-off timer expires. -/
def RetriedOnReject (tr : List LineEvent) : Prop :=
  ∀ pre i f mid f' post, tr = pre ++ .tx i f :: (mid ++ .tx i f' :: post) →
    RejectedThenExpired mid

/-! ## The ledger of written frames -/

/-- What holds of the commands and the written frames, at a call of `poe_cmd_next` and after
it. -/
structure Ledger (q : Queue) (tr : List LineEvent) : Prop where
  idsLt : ∀ i ∈ q.ids, i < q.queued
  idsSorted : q.ids.Pairwise (· < ·)
  numbered : queuedIds tr = List.range q.queued
  txLt : ∀ t ∈ txIds tr, t < q.queued
  txLe : ∀ t ∈ txIds tr, ∀ i ∈ q.ids, t ≤ i
  txSorted : (txIds tr).Pairwise (· ≤ ·)
  retries : ∀ c ∈ q.cmd_pending, c.num_retries ≤ MAX_RETRIES
  bounded : ∀ i, (txIds tr).count i ≤ MAX_RETRIES + 1
  retried : RetriedOnReject tr

/-- Before `poe_cmd_next`: each earlier transmission of the head has been rejected and counted,
and, when the timer is not pending, waited for. -/
structure Ready (q : Queue) (tr : List LineEvent) : Prop extends Ledger q tr where
  counted : ∀ c rest, q.cmd_pending = c :: rest → (txIds tr).count c.id ≤ c.num_retries
  waited : ∀ c rest, q.cmd_pending = c :: rest → ∀ pre f post, tr = pre ++ .tx c.id f :: post →
    if q.mcu_error_timeout then Rejected post else RejectedThenExpired post

/-- After `poe_cmd_next`: the head has been written once more, unless the timer is pending. -/
structure Settled (q : Queue) (tr : List LineEvent) : Prop extends Ledger q tr where
  counted : ∀ c rest, q.cmd_pending = c :: rest →
    (txIds tr).count c.id ≤ c.num_retries + if q.mcu_error_timeout then 0 else 1
  waited : q.mcu_error_timeout = true → ∀ c rest, q.cmd_pending = c :: rest →
    ∀ pre f post, tr = pre ++ .tx c.id f :: post → Rejected post

section Events

variable {q q' : Queue} {tr evs : List LineEvent}

theorem txIds_append (tr evs : List LineEvent) : txIds (tr ++ evs) = txIds tr ++ txIds evs :=
  List.filterMap_append

theorem queuedIds_append (tr evs : List LineEvent) :
    queuedIds (tr ++ evs) = queuedIds tr ++ queuedIds evs := List.filterMap_append

/-- Events that write no frame. -/
theorem txIds_of_not_tx (h : ∀ e ∈ evs, e.isTx = false) : txIds evs = [] := by
  rw [txIds, List.filterMap_eq_nil_iff]
  intro e he
  have htx := h e he
  cases e <;> first
    | rfl
    | cases htx

theorem txIds_quiet (tr : List LineEvent) (h : ∀ e ∈ evs, e.isTx = false) :
    txIds (tr ++ evs) = txIds tr := by
  rw [txIds_append, txIds_of_not_tx h, List.append_nil]

theorem not_mem_of_not_tx (h : ∀ e ∈ evs, e.isTx = false) (i : Nat) (f : Frame) :
    .tx i f ∉ evs := fun hmem => by simpa [LineEvent.isTx] using h _ hmem

theorem Rejected.append {a : List LineEvent} (h : Rejected a) (b : List LineEvent) :
    Rejected (a ++ b) := by
  obtain ⟨u, r, v, rfl, hsum, hrej⟩ := h
  exact ⟨u, r, v ++ b, by simp, hsum, hrej⟩

theorem RejectedThenExpired.append {a : List LineEvent} (h : RejectedThenExpired a)
    (b : List LineEvent) : RejectedThenExpired (a ++ b) := by
  obtain ⟨u, v, rfl, hrej⟩ := h
  exact ⟨u, v ++ b, by simp, hrej⟩

/-- Events that write no frame add no transmission to explain. -/
theorem RetriedOnReject.quiet (h : RetriedOnReject tr) (hq : ∀ e ∈ evs, e.isTx = false) :
    RetriedOnReject (tr ++ evs) := by
  intro pre i f mid f' post htr
  rw [← List.cons_append, ← List.append_assoc] at htr
  obtain ⟨post', htr', -⟩ := split_before htr (not_mem_of_not_tx hq i f')
  exact h pre i f mid f' post' (by simp [htr'])

/-- A transmission is explained when all earlier ones of the command are. -/
theorem RetriedOnReject.write (h : RetriedOnReject tr) {i : Nat} {f : Frame}
    (hw : ∀ pre f post, tr = pre ++ .tx i f :: post → RejectedThenExpired post) :
    RetriedOnReject (tr ++ [.tx i f]) := by
  intro pre j g mid g' post htr
  rw [← List.cons_append, ← List.append_assoc] at htr
  rcases split_last htr with ⟨htr, he, -⟩ | ⟨post', htr, -⟩
  · simp only [LineEvent.tx.injEq] at he
    exact hw pre g mid (by rw [← htr, he.1])
  · exact h pre j g mid g' post' (by simp [htr])

/-- A queue that loses commands and writes nothing keeps its ledger. -/
theorem Ledger.quiet (h : Ledger q tr) (hsub : q'.ids.Sublist q.ids)
    (hqueued : q'.queued = q.queued) (hret : ∀ c ∈ q'.cmd_pending, c.num_retries ≤ MAX_RETRIES)
    (htx : ∀ e ∈ evs, e.isTx = false) (hnum : queuedIds evs = []) : Ledger q' (tr ++ evs) := by
  have hids : txIds (tr ++ evs) = txIds tr := txIds_quiet tr htx
  refine ⟨?_, h.idsSorted.sublist hsub, ?_, ?_, ?_, ?_, hret, ?_, h.retried.quiet htx⟩
  · intro i hi
    rw [hqueued]
    exact h.idsLt i (hsub.subset hi)
  · rw [queuedIds_append, hnum, List.append_nil, hqueued]
    exact h.numbered
  · rw [hids, hqueued]
    exact h.txLt
  · rw [hids]
    exact fun t ht i hi => h.txLe t ht i (hsub.subset hi)
  · rw [hids]
    exact h.txSorted
  · rw [hids]
    exact h.bounded

/-- A new command gets the next number. -/
theorem Ledger.queue (h : Ledger q tr) (bytes : List UInt8) :
    Ledger (poeCmdQueue q bytes).1 (tr ++ [.queued q.queued]) := by
  have hids : (poeCmdQueue q bytes).1.ids = q.ids ++ [q.queued] := by
    simp [poeCmdQueue, Queue.ids]
  have htx : txIds (tr ++ [.queued q.queued]) = txIds tr :=
    txIds_quiet tr (by simp [LineEvent.isTx])
  refine ⟨?_, ?_, ?_, ?_, ?_, ?_, ?_, ?_, ?_⟩
  · intro i hi
    rw [hids, List.mem_append, List.mem_singleton] at hi
    rcases hi with hi | rfl
    · exact (h.idsLt i hi).trans (Nat.lt_succ_self _)
    · exact Nat.lt_succ_self _
  · rw [hids, List.pairwise_append]
    refine ⟨h.idsSorted, List.pairwise_singleton _ _, ?_⟩
    intro i hi j hj
    rw [List.mem_singleton] at hj
    exact hj ▸ h.idsLt i hi
  · rw [queuedIds_append, h.numbered]
    exact List.range_succ.symm
  · rw [htx]
    exact fun t ht => (h.txLt t ht).trans (Nat.lt_succ_self _)
  · rw [htx, hids]
    intro t ht i hi
    rw [List.mem_append, List.mem_singleton] at hi
    rcases hi with hi | rfl
    · exact h.txLe t ht i hi
    · exact (h.txLt t ht).le
  · rw [htx]
    exact h.txSorted
  · intro c hc
    rw [poeCmdQueue, List.mem_append, List.mem_singleton] at hc
    rcases hc with hc | rfl
    · exact h.retries c hc
    · exact Nat.zero_le _
  · rw [htx]
    exact h.bounded
  · exact h.retried.quiet (by simp [LineEvent.isTx])

/-- The head is the first of the pending commands. -/
theorem Ledger.head (h : Ledger q tr) {c : Cmd} {rest : List Cmd}
    (hq : q.cmd_pending = c :: rest) : c.id ∈ q.ids ∧ ∀ d ∈ rest, c.id < d.id := by
  have hids : q.ids = c.id :: rest.map Cmd.id := by rw [Queue.ids, hq, List.map_cons]
  have hsorted := h.idsSorted
  rw [hids, List.pairwise_cons] at hsorted
  refine ⟨?_, fun d hd => hsorted.1 _ (List.mem_map_of_mem hd)⟩
  rw [hids]
  exact List.mem_cons_self

theorem Ledger.head_le (h : Ledger q tr) {c : Cmd} {rest : List Cmd}
    (hq : q.cmd_pending = c :: rest) : ∀ i ∈ q.ids, c.id ≤ i := by
  intro i hi
  rw [Queue.ids, hq, List.map_cons, List.mem_cons, List.mem_map] at hi
  rcases hi with rfl | ⟨d, hd, rfl⟩
  · exact le_rfl
  · exact ((h.head hq).2 d hd).le

/-- No frame of a command behind the head has been written. -/
theorem Ledger.count_tail (h : Ledger q tr) {c d : Cmd} {rest : List Cmd}
    (hq : q.cmd_pending = c :: rest) (hd : d ∈ rest) : (txIds tr).count d.id = 0 := by
  rw [List.count_eq_zero]
  intro hmem
  have hle : d.id ≤ c.id := h.txLe _ hmem _ (h.head hq).1
  have hlt : c.id < d.id := (h.head hq).2 d hd
  omega

/-- Writing the head keeps the ledger when its earlier transmissions are counted and explained. -/
theorem Ledger.write (h : Ledger q tr) {c : Cmd} {rest : List Cmd}
    (hq : q.cmd_pending = c :: rest) (hcount : (txIds tr).count c.id ≤ c.num_retries)
    (hwaited : ∀ pre f post, tr = pre ++ .tx c.id f :: post → RejectedThenExpired post) :
    Ledger q (tr ++ [.tx c.id c.cmd]) := by
  have hids : txIds (tr ++ [.tx c.id c.cmd]) = txIds tr ++ [c.id] := txIds_append _ _
  have hmem : c.id ∈ q.ids := (h.head hq).1
  -- what holds of the numbers written before holds of the head's number
  have hall : ∀ {P : Nat → Prop}, (∀ t ∈ txIds tr, P t) → P c.id →
      ∀ t ∈ txIds (tr ++ [.tx c.id c.cmd]), P t := by
    intro P hpast hhead t ht
    rw [hids, List.mem_append, List.mem_singleton] at ht
    rcases ht with ht | rfl
    · exact hpast t ht
    · exact hhead
  refine ⟨h.idsLt, h.idsSorted, ?_, hall h.txLt (h.idsLt _ hmem),
    hall h.txLe (h.head_le hq), ?_, h.retries, ?_, h.retried.write hwaited⟩
  · rw [queuedIds_append, h.numbered]
    exact List.append_nil _
  · rw [hids, List.pairwise_append]
    refine ⟨h.txSorted, List.pairwise_singleton _ _, fun t ht j hj => ?_⟩
    rw [List.mem_singleton] at hj
    exact hj ▸ h.txLe t ht _ hmem
  · intro i
    rw [hids, List.count_append]
    by_cases hi : c.id = i
    · subst hi
      have hretries : c.num_retries ≤ MAX_RETRIES := h.retries c (by simp [hq])
      rw [List.count_singleton_self]
      omega
    · have hbound := h.bounded i
      simpa [List.count_singleton, hi] using hbound

/-- A command none of whose frames was written has nothing to explain. -/
theorem not_split_of_count {i : Nat} (h : (txIds tr).count i = 0) {pre post : List LineEvent}
    {f : Frame} : tr ≠ pre ++ .tx i f :: post := by
  rintro rfl
  rw [List.count_eq_zero] at h
  exact h (by simp [txIds, LineEvent.txId])

end Events

/-! ## Steps -/

section Steps

variable {q q' : Queue} {tr evs : List LineEvent}

/-- **A ready queue settles.** -/
theorem Ready.next (h : Ready q tr) : Settled q (tr ++ poeCmdNext q) := by
  cases ht : q.mcu_error_timeout with
  | true =>
      rw [poeCmdNext_timer ht, List.append_nil]
      refine ⟨h.toLedger, fun c rest hq => ?_, fun _ c rest hq pre f post htr => ?_⟩
      · exact (h.counted c rest hq).trans (Nat.le_add_right _ _)
      · simpa [ht] using h.waited c rest hq pre f post htr
  | false =>
      cases hq : q.cmd_pending with
      | nil =>
          have hnone : poeCmdNext q = [] := by simp [poeCmdNext, hq]
          rw [hnone, List.append_nil]
          exact ⟨h.toLedger, by simp [hq], by simp [hq]⟩
      | cons c rest =>
          have hsend : poeCmdNext q = [.tx c.id c.cmd] := by simp [poeCmdNext, poeCmdSend, hq, ht]
          have hcount := h.counted c rest hq
          have hwaited : ∀ pre f post, tr = pre ++ .tx c.id f :: post →
              RejectedThenExpired post := by
            intro pre f post htr
            simpa [ht] using h.waited c rest hq pre f post htr
          rw [hsend]
          refine ⟨h.toLedger.write hq hcount hwaited, fun d tail hd => ?_, by simp [ht]⟩
          -- the transmission just made is the one not yet rejected
          obtain ⟨rfl, -⟩ := List.cons.inj (hq.symm.trans hd)
          have hids : txIds (tr ++ [.tx c.id c.cmd]) = txIds tr ++ [c.id] := txIds_append _ _
          rw [hids, List.count_append, List.count_singleton_self]
          simp only [ht, Bool.false_eq_true, if_false]
          omega

/-- A command at the head none of whose frames was written makes the queue ready. -/
theorem Ledger.ready (h : Ledger q tr)
    (hnew : ∀ c rest, q.cmd_pending = c :: rest → (txIds tr).count c.id = 0) : Ready q tr where
  toLedger := h
  counted c rest hq := by rw [hnew c rest hq]; exact Nat.zero_le _
  waited c rest hq pre f post htr := absurd htr (not_split_of_count (hnew c rest hq))

theorem Settled.queue (h : Settled q tr) (bytes : List UInt8) :
    Settled (poeCmdQueue q bytes).1 (tr ++ (poeCmdQueue q bytes).2) := by
  have hledger := h.toLedger.queue bytes
  have htx : txIds (tr ++ [.queued q.queued]) = txIds tr :=
    txIds_quiet tr (by simp [LineEvent.isTx])
  cases hq : q.cmd_pending with
  | nil =>
      have hevs : (poeCmdQueue q bytes).2 =
          [.queued q.queued] ++ poeCmdNext (poeCmdQueue q bytes).1 := by
        simp [poeCmdQueue, poeCmdNext, hq]
      rw [hevs, ← List.append_assoc]
      -- the new command is the head, and its number is above all those written
      refine (hledger.ready (fun c rest hc => ?_)).next
      simp only [poeCmdQueue, hq, List.nil_append, List.cons.injEq] at hc
      obtain ⟨rfl, -⟩ := hc
      rw [htx, List.count_eq_zero]
      exact fun hmem => lt_irrefl _ (h.txLt _ hmem)
  | cons d rest =>
      have hevs : (poeCmdQueue q bytes).2 = [.queued q.queued] := by simp [poeCmdQueue, hq]
      rw [hevs]
      -- the head stays, and nothing is written
      refine ⟨hledger, fun c tail hc => ?_, fun ht c tail hc pre f post htr => ?_⟩
      · simp only [poeCmdQueue, hq, List.cons_append, List.cons.injEq] at hc
        obtain ⟨rfl, -⟩ := hc
        rw [htx]
        exact h.counted d rest hq
      · simp only [poeCmdQueue, hq, List.cons_append, List.cons.injEq] at hc
        obtain ⟨rfl, -⟩ := hc
        obtain ⟨mid, htr', rfl⟩ := split_before htr (by simp)
        exact (h.waited ht d rest hq pre f mid htr').append _

theorem Settled.expire (h : Settled q tr) (ht : q.mcu_error_timeout = true) :
    Settled { q with mcu_error_timeout := false }
      (tr ++ .expired :: poeCmdNext { q with mcu_error_timeout := false }) := by
  have hsplit : ∀ evs, tr ++ .expired :: evs = tr ++ [.expired] ++ evs := by simp
  have htx : txIds (tr ++ [.expired]) = txIds tr := txIds_quiet tr (by simp [LineEvent.isTx])
  rw [hsplit]
  -- the expiry itself completes the explanation of the head's next transmission
  refine Ready.next ⟨h.toLedger.quiet (.refl _) rfl h.retries (by simp [LineEvent.isTx]) rfl,
    fun c rest hq => ?_, fun c rest hq pre f post htr => ?_⟩
  · have hcount := h.counted c rest hq
    simpa [htx, ht] using hcount
  · obtain ⟨mid, htr', rfl⟩ := split_before htr (by simp)
    simpa using ⟨mid, [], rfl, h.waited ht c rest hq pre f mid htr'⟩

theorem Settled.drop (h : Settled q tr) {reply : Frame} {c : Cmd} {rest : List Cmd}
    {calls : List LineEvent} (hq : q.cmd_pending = c :: rest)
    (hcalls : ∀ e ∈ calls, e.isCall = true) :
    Settled { q with cmd_pending := rest }
      (tr ++ .rx reply :: (calls ++ poeCmdNext { q with cmd_pending := rest })) := by
  have hsplit : ∀ evs, tr ++ .rx reply :: (calls ++ evs) = tr ++ (.rx reply :: calls) ++ evs := by
    simp
  have hquiet : ∀ e ∈ LineEvent.rx reply :: calls, e.isTx = false := by
    intro e he
    rcases List.mem_cons.mp he with rfl | he
    · rfl
    · exact (LineEvent.of_isCall (hcalls e he)).2.1
  have hnum : queuedIds (LineEvent.rx reply :: calls) = [] := by
    rw [queuedIds, List.filterMap_eq_nil_iff]
    intro e he
    rcases List.mem_cons.mp he with rfl | he
    · rfl
    · have hcall := hcalls e he
      cases e <;> first
        | rfl
        | cases hcall
  have hsub : (Queue.ids { q with cmd_pending := rest }).Sublist q.ids := by
    rw [Queue.ids, Queue.ids, hq]
    exact List.sublist_cons_self _ _
  rw [hsplit]
  -- the new head has not been written yet, so it has nothing to explain
  refine Ready.next (Ledger.ready (h.toLedger.quiet hsub rfl
    (fun d hd => h.retries d (by simp [hq, show d ∈ rest from hd])) hquiet hnum) ?_)
  intro d tail hd
  rw [txIds_quiet tr hquiet]
  exact h.toLedger.count_tail hq (by rw [show rest = d :: tail from hd]; exact List.mem_cons_self)

/-- A frame that leaves the queue as it is. -/
theorem Settled.rx (h : Settled q tr) (reply : Frame) : Settled q (tr ++ [.rx reply]) := by
  have htx : txIds (tr ++ [.rx reply]) = txIds tr := txIds_quiet tr (by simp [LineEvent.isTx])
  refine ⟨h.toLedger.quiet (.refl _) rfl h.retries (by simp [LineEvent.isTx]) rfl,
    fun c rest hq => htx ▸ h.counted c rest hq, fun ht c rest hq pre f post htr => ?_⟩
  obtain ⟨mid, htr', rfl⟩ := split_before htr (by simp)
  exact (h.waited ht c rest hq pre f mid htr').append _

theorem Settled.retry (h : Settled q tr) {reply : Frame} {c : Cmd} {rest : List Cmd}
    (hq : q.cmd_pending = c :: rest) (ht : q.mcu_error_timeout = false)
    (hsum : reply.sumOk = true) (hrej : reply.rejects = true)
    (hleft : c.num_retries < MAX_RETRIES) :
    Settled { q with
      cmd_pending := { c with num_retries := c.num_retries + 1 } :: rest
      mcu_error_timeout := true } (tr ++ [.rx reply]) := by
  have htx : txIds (tr ++ [.rx reply]) = txIds tr := txIds_quiet tr (by simp [LineEvent.isTx])
  refine ⟨h.toLedger.quiet ?_ rfl ?_ (by simp [LineEvent.isTx]) rfl, ?_, ?_⟩
  · rw [Queue.ids, Queue.ids, hq]
    exact .refl _
  · intro d hd
    rcases List.mem_cons.mp hd with rfl | hd
    · exact hleft
    · exact h.retries d (by simp [hq, hd])
  · intro d tail hd
    obtain ⟨rfl, -⟩ := List.cons.inj hd
    -- the rejection is counted, so the transmission it answers is paid for
    have hcount := h.counted c rest hq
    simpa [htx, ht] using hcount
  · intro _ d tail hd pre f post htr
    obtain ⟨rfl, -⟩ := List.cons.inj hd
    obtain ⟨mid, -, rfl⟩ := split_before htr (by simp)
    exact ⟨mid, reply, [], rfl, hsum, hrej⟩

/-- **One step keeps a settled queue settled.** -/
theorem Settled.step (h : Settled q tr) (hs : QueueStep q q' evs) : Settled q' (tr ++ evs) := by
  cases hs with
  | queue bytes c new =>
      have hstep := h.queue bytes
      simp only [poeCmdQueue] at hstep
      rw [new]
      exact hstep
  | expire timer => exact h.expire timer
  | unsolicited reply _ => exact h.rx reply
  | drop reply c rest calls head quiet => exact h.drop head quiet
  | keep reply _ _ _ => exact h.rx reply
  | retry reply c rest head timer sum rejected left => exact h.retry head timer sum rejected left

theorem settled_init : Settled initQueue [] where
  idsLt := by simp [Queue.ids, initQueue]
  idsSorted := List.Pairwise.nil
  numbered := rfl
  txLt := by simp [txIds]
  txLe := by simp [txIds]
  txSorted := List.Pairwise.nil
  retries := by simp [initQueue]
  bounded := by simp [txIds]
  retried := by
    intro pre i f mid f' post h
    simp at h
  counted := by simp [initQueue]
  waited := by simp [initQueue]

theorem poeCmdSend_txIds (q : Queue) (c : Cmd) : ∀ i ∈ txIds (poeCmdSend q c), i = c.id := by
  intro i hi
  unfold poeCmdSend at hi
  split at hi
  · simp [txIds] at hi
  · simpa [txIds, LineEvent.txId] using hi

theorem poeCmdNext_txIds (q : Queue) : ∀ i ∈ txIds (poeCmdNext q), i ∈ q.ids := by
  intro i hi
  unfold poeCmdNext at hi
  split at hi
  · simp [txIds] at hi
  · rename_i c rest hq
    rw [poeCmdSend_txIds q c i hi, Queue.ids, hq]
    exact List.mem_cons_self

/-- **Only pending commands are written, and only new commands become pending.** -/
theorem QueueStep.ids (hs : QueueStep q q' evs) :
    q.queued ≤ q'.queued ∧ (∀ i ∈ q'.ids, i ∈ q.ids ∨ i = q.queued) ∧
      ∀ i ∈ txIds evs, i ∈ q'.ids := by
  cases hs with
  | queue bytes c new =>
      refine ⟨Nat.le_succ _, fun i hi => ?_, fun i hi => ?_⟩
      · simpa [Queue.ids, new] using hi
      · -- a frame is written at once only when the list was empty
        split at hi
        · have hid : i = c.id := poeCmdSend_txIds q c i hi
          simp [Queue.ids, hid]
        · simp [txIds, LineEvent.txId] at hi
  | expire timer =>
      refine ⟨le_rfl, fun i hi => .inl hi, fun i hi => ?_⟩
      exact poeCmdNext_txIds { q with mcu_error_timeout := false } i hi
  | unsolicited reply empty => exact ⟨le_rfl, fun i hi => .inl hi, by simp [txIds, LineEvent.txId]⟩
  | drop reply c rest calls head quiet =>
      refine ⟨le_rfl, fun i hi => .inl ?_, fun i hi => ?_⟩
      · rw [Queue.ids, head]
        exact List.mem_cons_of_mem _ hi
      · -- the handlers write nothing; what is written is the new head
        have hcalls : txIds calls = [] :=
          txIds_of_not_tx (fun e he => (LineEvent.of_isCall (quiet e he)).2.1)
        have hnext : txIds (.rx reply :: (calls ++ poeCmdNext { q with cmd_pending := rest })) =
            txIds (poeCmdNext { q with cmd_pending := rest }) := by
          rw [← List.cons_append, txIds_append]
          have hrx : txIds (.rx reply :: calls) = txIds calls := rfl
          rw [hrx, hcalls, List.nil_append]
        rw [hnext] at hi
        exact poeCmdNext_txIds _ i hi
  | keep reply _ _ _ => exact ⟨le_rfl, fun i hi => .inl hi, by simp [txIds, LineEvent.txId]⟩
  | retry reply c rest head _ _ _ _ =>
      refine ⟨le_rfl, fun i hi => .inl ?_, by simp [txIds, LineEvent.txId]⟩
      rw [Queue.ids, head]
      exact hi

end Steps

/-! ## Runs -/

/-- The discipline of the frames written: commands are numbered as they are queued, their
transmissions come in that order and together, at most `MAX_RETRIES + 1` of each, and none but
the first without a rejection and an expiry of the timer before it. -/
structure Disciplined (tr : List LineEvent) : Prop where
  numbered : queuedIds tr = List.range (queuedIds tr).length
  inOrder : (txIds tr).Pairwise (· ≤ ·)
  together : ∀ pre i mid post, txIds tr = pre ++ i :: (mid ++ i :: post) → ∀ j ∈ mid, j = i
  bounded : ∀ i, (txIds tr).count i ≤ MAX_RETRIES + 1
  retried : RetriedOnReject tr

theorem Settled.disciplined {q : Queue} {tr : List LineEvent} (h : Settled q tr) :
    Disciplined tr where
  numbered := by rw [h.numbered, List.length_range]
  inOrder := h.txSorted
  together pre i mid post htr j hj := by
    have hsorted := h.txSorted
    rw [htr, List.pairwise_append, List.pairwise_cons, List.pairwise_append] at hsorted
    obtain ⟨-, ⟨hfrom, -, -, hto⟩, -⟩ := hsorted
    exact le_antisymm (hto j hj i (by simp)) (hfrom j (by simp [hj]))
  bounded := h.bounded
  retried := h.retried

theorem settled_of_exec {vs : List (Visit Queue QueueAction LineEvent)} {tr : List LineEvent}
    {q : Queue} (h : Exec queueMachine initQueue vs tr q) : Settled q tr :=
  h.inv Settled settled_init (fun _ _ _ _ _ hI hs => hI.step (queueMachine_step hs))

/-- A command that is no longer pending is not written again. -/
theorem not_written_again {q : Queue} {i : Nat} (hi : i < q.queued) (hgone : i ∉ q.ids)
    {vs : List (Visit Queue QueueAction LineEvent)} {tr : List LineEvent} {q' : Queue}
    (h : Exec queueMachine q vs tr q') : i ∉ txIds tr := by
  refine (h.inv (fun s tr => i < s.queued ∧ i ∉ s.ids ∧ i ∉ txIds tr)
    ⟨hi, hgone, by simp [txIds]⟩ ?_).2.2
  rintro s tr a s' evs ⟨hlt, hids, htx⟩ hs
  obtain ⟨hle, hnew, hwritten⟩ := (queueMachine_step hs).ids
  have hids' : i ∉ s'.ids := by
    intro hmem
    rcases hnew i hmem with hmem | rfl
    · exact hids hmem
    · exact lt_irrefl _ hlt
  refine ⟨hlt.trans_le hle, hids', ?_⟩
  rw [txIds_append, List.mem_append, not_or]
  exact ⟨htx, fun hmem => hids' (hwritten i hmem)⟩

/-- **In every run the written frames are disciplined, and a command once removed from the queue
is never written again.** -/
theorem disciplined_of_exec {vs : List (Visit Queue QueueAction LineEvent)}
    {tr : List LineEvent} {q : Queue} (h : Exec queueMachine initQueue vs tr q) :
    Disciplined tr ∧ ∀ i ∈ queuedIds tr, i ∉ q.ids → ∀ vs' tr' q',
      Exec queueMachine q vs' tr' q' → i ∉ txIds tr' := by
  have hsettled := settled_of_exec h
  refine ⟨hsettled.disciplined, fun i hi hgone vs' tr' q' hrun => ?_⟩
  rw [hsettled.numbered, List.mem_range] at hi
  exact not_written_again hi hgone hrun

/-- Two commands; the first is rejected, written again and answered, then the second is written.
The first is not written again. -/
theorem disciplined_after_retry : ∃ vs tr q, Exec queueMachine initQueue vs tr q ∧
    txIds tr = [0, 0, 1] ∧ q.ids = [1] ∧ Disciplined tr ∧ ∀ i ∈ queuedIds tr, i ∉ q.ids →
      ∀ vs' tr' q', Exec queueMachine q vs' tr' q' → i ∉ txIds tr' := by
  obtain ⟨vs, hvs, -⟩ := Exec.replay queueMachine initQueue
    [.queue [0x40], .queue [0x41], .frame (buildFrame [0xff] 1), .expire,
      .frame (buildFrame [0x40] 1)] (by decide +kernel)
  exact ⟨vs, _, _, hvs, by decide +kernel, by decide +kernel, disciplined_of_exec hvs⟩

end RealtekPoe
