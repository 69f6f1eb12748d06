import TfPack.RealtekPoe.Outstanding

set_option autoImplicit false

/-! # The queue and a correct MCU

The queue together with an MCU that answers every frame it is sent, once, correctly and in
order, over a line on which checksum-valid stale frames appear: frames whose id or sequence
number is not that of the command at the head.

The head leaves the queue before a reply is compared with it, so a stale frame costs the head
its turn, and from then on every answer meets the command after its own. Only two kinds of stale
frame do nothing: any frame while no command is pending, and a rejection while the back-off
timer is pending. A run delivers every answer and discards every stale frame exactly when it has
no other (`discards_iff_harmless`).
-/

namespace RealtekPoe

open StepMachine EventTrace

/-- The queue, and the written frames the MCU has yet to answer. -/
structure Mcu where
  queue : Queue
  owed : List (Nat × Frame)

def initMcu : Mcu := ⟨initQueue, []⟩

/-- What happens in the queue, the answer to a command, and a stale frame on the line. -/
inductive McuEvent
  | line (e : LineEvent)
  | answered (id : Nat) (r : Frame)
  | stale (r : Frame)
  deriving DecidableEq

/-- A correct reply to the frame `f`: the id and the sequence number are those of `f`. -/
def correctReply (f r : Frame) : Bool := r.sumOk && r 0 == f 0 && r 1 == f 1

/-- A checksum-valid frame that is no reply to the head. -/
def isStale (q : Queue) (r : Frame) : Bool :=
  r.sumOk &&
    match q.cmd_pending with
    | [] => true
    | c :: _ => r 0 != c.cmd 0 || r 1 != c.cmd 1

/-- The steps: a command is queued, the timer expires, the MCU answers the first frame it owes a
reply to, a stale frame arrives. -/
inductive McuAction
  | queue (bytes : List UInt8)
  | expire
  | answer (r : Frame)
  | stale (r : Frame)

/-- The state after a step `r` of the queue that leaves the MCU the replies `owed`. -/
def afterQueue (owed : List (Nat × Frame)) (r : Queue × List LineEvent) : Mcu :=
  ⟨r.1, owed ++ writes r.2⟩

/-- The queue and the MCU as a step machine. -/
def mcuMachine : Machine Mcu McuAction McuEvent where
  step s
    | .queue bytes =>
        let r := poeCmdQueue s.queue bytes
        some (afterQueue s.owed r, r.2.map .line)
    | .expire =>
        if s.queue.mcu_error_timeout then
          let r := mcuClearTimeout s.queue
          some (afterQueue s.owed r, r.2.map .line)
        else none
    | .answer reply =>
        match s.owed with
        | [] => none
        | (id, f) :: rest =>
            if correctReply f reply then
              let r := poeStreamMsg s.queue reply
              some (afterQueue rest r, .answered id reply :: r.2.map .line)
            else none
    | .stale reply =>
        if isStale s.queue reply then
          let r := poeStreamMsg s.queue reply
          some (afterQueue s.owed r, .stale reply :: r.2.map .line)
        else none

/-- The points of a run of the queue and the MCU. -/
abbrev McuVisit := Visit Mcu McuAction McuEvent

/-! ## Delivery and discarding -/

/-- Every answer to a command with a reply handler is handed to it, for that command. -/
def AnswersDelivered (tr : List McuEvent) : Prop :=
  ∀ pre id r post, tr = pre ++ .answered id r :: post → ∀ h, replyHandler (r 0) = some h →
    .line (.handled id h r) ∈ post

/-- The stale frame, if one arrives at this point, is discarded: no command loses its turn and
nothing is written. -/
def DiscardsStale (v : McuVisit) : Prop :=
  ∀ r, v.act = .stale r → poeStreamMsg v.state.queue r = (v.state.queue, [.rx r])

/-- The stale frame, if one arrives at this point, finds no command pending, or is a rejection
while the back-off timer is pending. -/
def HarmlessStale (v : McuVisit) : Prop :=
  ∀ r, v.act = .stale r → v.state.queue.cmd_pending = [] ∨
    (r.rejects = true ∧ v.state.queue.mcu_error_timeout = true)

section Stale

variable {q : Queue} {r : Frame}

/-- **A stale frame is discarded exactly when it is harmless.** -/
theorem poeStreamMsg_discards_iff (hr : r.sumOk = true) :
    poeStreamMsg q r = (q, [.rx r]) ↔
      q.cmd_pending = [] ∨ (r.rejects = true ∧ q.mcu_error_timeout = true) := by
  obtain ⟨pending, seq, timer, n⟩ := q
  cases pending with
  | nil => simp [poeStreamMsg, poeReplyConsume, poeCmdNext]
  | cons c rest =>
      simp only [reduceCtorEq, false_or]
      constructor
      · intro h
        have hqueue : (poeReplyConsume ⟨c :: rest, seq, timer, n⟩ r).1 =
            ⟨c :: rest, seq, timer, n⟩ := congrArg Prod.fst h
        cases hrej : r.rejects with
        | false => simp [poeReplyConsume, hr, hrej] at hqueue
        | true =>
            cases timer with
            | true => exact ⟨rfl, rfl⟩
            | false =>
                -- the rejection starts the timer, or the command is given up
                by_cases hle : MAX_RETRIES < c.num_retries + 1 <;>
                  simp [poeReplyConsume, hr, hrej, handlePoeF0Reply, hle] at hqueue
      · rintro ⟨hrej, rfl⟩
        have hkeep : poeReplyConsume ⟨c :: rest, seq, true, n⟩ r =
            (⟨c :: rest, seq, true, n⟩, []) := by
          simp [poeReplyConsume, hr, hrej, handlePoeF0Reply]
        rw [poeStreamMsg, hkeep, poeCmdNext_timer rfl]
        rfl

theorem isStale_sumOk (h : isStale q r = true) : r.sumOk = true := by
  simp only [isStale, Bool.and_eq_true] at h
  exact h.1

/-- The reply to the head is handed to its handler. -/
theorem poeStreamMsg_delivers {c : Cmd} {rest : List Cmd} (hq : q.cmd_pending = c :: rest)
    (hr : correctReply c.cmd r = true) {h : ReplyHandler} (hh : replyHandler (r 0) = some h) :
    .handled c.id h r ∈ (poeStreamMsg q r).2 := by
  simp only [correctReply, Bool.and_eq_true, beq_iff_eq] at hr
  obtain ⟨⟨hsum, hid⟩, hseq⟩ := hr
  obtain ⟨hlt, hrej⟩ := replyHandler_id hh
  have hnot : r.rejects = false := hrej
  have hdeliver : deliverReply c r = [.handled c.id h r] := by
    have hle : ¬ HANDLERS < (r 0).toNat := by omega
    have hne : (r 0).toNat ≠ HANDLERS := by omega
    simp [deliverReply, hid ▸ hle, hid ▸ hne, hid, hseq, hid ▸ hh]
  have hconsume : poeReplyConsume q r = ({ q with cmd_pending := rest }, deliverReply c r) := by
    simp [poeReplyConsume, hq, hsum, hnot]
  simp [poeStreamMsg, hconsume, hdeliver]

end Stale

/-! ## The invariant -/

/-- The MCU owes what the queue waits for, and every answer so far was delivered. -/
structure McuInv (s : Mcu) (tr : List McuEvent) : Prop where
  owes : s.owed = owed s.queue
  delivered : AnswersDelivered tr

section Invariant

variable {s : Mcu} {q' : Queue} {tr : List McuEvent} {es : List LineEvent}

theorem QueueStep.owes_quiet {q : Queue} (hs : QueueStep q q' es)
    (hq : ∀ f more, es ≠ .rx f :: more) : owed q' = owed q ++ writes es := by
  rcases hs.owes with ⟨-, howed⟩ | ⟨f, more, rfl, -, -⟩
  · exact howed
  · exact absurd rfl (hq f more)

theorem QueueStep.owes_rx {q : Queue} {f : Frame} {more : List LineEvent}
    (hs : QueueStep q q' (.rx f :: more)) : owed q' = writes (.rx f :: more) := by
  rcases hs.owes with ⟨hquiet, -⟩ | ⟨g, more', hes, -, howed⟩
  · exact absurd (hquiet (.rx f) List.mem_cons_self) (by simp [LineEvent.isRx])
  · obtain ⟨-, rfl⟩ := List.cons.inj hes
    exact howed

/-- Events of the queue are no answers. -/
theorem AnswersDelivered.line (h : AnswersDelivered tr) (es : List LineEvent) :
    AnswersDelivered (tr ++ es.map .line) := by
  intro pre id r post htr k hk
  obtain ⟨mid, htr', rfl⟩ := split_before htr (by simp)
  exact List.mem_append_left _ (h pre id r mid htr' k hk)

theorem AnswersDelivered.stale (h : AnswersDelivered tr) (r : Frame) :
    AnswersDelivered (tr ++ [.stale r]) := by
  intro pre id r' post htr k hk
  obtain ⟨mid, htr', rfl⟩ := split_before htr (by simp)
  exact List.mem_append_left _ (h pre id r' mid htr' k hk)

/-- An answer that is delivered at once keeps all answers delivered. -/
theorem AnswersDelivered.answered (h : AnswersDelivered tr) {id : Nat} {r : Frame}
    (hd : ∀ k, replyHandler (r 0) = some k → .handled id k r ∈ es) :
    AnswersDelivered (tr ++ .answered id r :: es.map .line) := by
  intro pre id' r' post htr k hk
  have hsplit : tr ++ .answered id r :: es.map McuEvent.line =
      tr ++ [.answered id r] ++ es.map McuEvent.line := by simp
  rw [hsplit] at htr
  obtain ⟨mid, htr', rfl⟩ := split_before htr (by simp)
  rcases split_last htr' with ⟨-, hev, rfl⟩ | ⟨mid', htr'', rfl⟩
  · simp only [McuEvent.answered.injEq] at hev
    obtain ⟨rfl, rfl⟩ := hev
    exact List.mem_append_right _ (List.mem_map_of_mem (hd k hk))
  · rw [List.append_assoc]
    exact List.mem_append_left _ (h pre id' r' mid' htr'' k hk)

theorem McuInv.queueStep (h : McuInv s tr) (hs : QueueStep s.queue q' es)
    (hq : ∀ f more, es ≠ .rx f :: more) :
    McuInv (afterQueue s.owed (q', es)) (tr ++ es.map .line) := by
  refine ⟨?_, h.delivered.line es⟩
  rw [afterQueue, hs.owes_quiet hq, h.owes]

/-- The MCU answers the head, and the answer is delivered. -/
theorem McuInv.answer (h : McuInv s tr) {id : Nat} {f reply : Frame} {rest : List (Nat × Frame)}
    (howed : s.owed = (id, f) :: rest) (hr : correctReply f reply = true) :
    McuInv (afterQueue rest (poeStreamMsg s.queue reply))
      (tr ++ .answered id reply :: (poeStreamMsg s.queue reply).2.map .line) := by
  obtain ⟨c, tail, hq, -, hidf, rfl⟩ := owed_eq_cons (h.owes.symm.trans howed)
  obtain ⟨rfl, rfl⟩ := Prod.mk.inj hidf
  refine ⟨?_, h.delivered.answered (fun k hk => poeStreamMsg_delivers hq hr hk)⟩
  have hstep := poeStreamMsg_step s.queue reply
  exact hstep.owes_rx.symm

theorem McuInv.stale (h : McuInv s tr) {reply : Frame}
    (hd : poeStreamMsg s.queue reply = (s.queue, [.rx reply])) :
    McuInv (afterQueue s.owed (poeStreamMsg s.queue reply))
      (tr ++ .stale reply :: (poeStreamMsg s.queue reply).2.map .line) := by
  have hsplit : tr ++ .stale reply :: [LineEvent.rx reply].map McuEvent.line =
      tr ++ [.stale reply] ++ [LineEvent.rx reply].map McuEvent.line := by simp
  rw [hd, hsplit]
  have hnone : writes [.rx reply] = [] := rfl
  refine ⟨?_, (h.delivered.stale reply).line _⟩
  rw [afterQueue, hnone, List.append_nil, h.owes]

/-- **One step whose stale frame, if any, is harmless keeps the invariant.** -/
theorem McuInv.step (h : McuInv s tr) {a : McuAction} {s' : Mcu} {evs : List McuEvent}
    (hharm : HarmlessStale ⟨s, tr, a⟩) (hs : mcuMachine.step s a = some (s', evs)) :
    McuInv s' (tr ++ evs) := by
  cases a with
  | queue bytes =>
      simp only [mcuMachine, Option.some.injEq, Prod.mk.injEq] at hs
      obtain ⟨rfl, rfl⟩ := hs
      exact h.queueStep (.queue bytes _ rfl) (by simp)
  | expire =>
      simp only [mcuMachine, Option.ite_none_right_eq_some, Option.some.injEq,
        Prod.mk.injEq] at hs
      obtain ⟨ht, rfl, rfl⟩ := hs
      exact h.queueStep (.expire ht) (by simp)
  | answer reply =>
      cases howed : s.owed with
      | nil => simp [mcuMachine, howed] at hs
      | cons idf rest =>
          simp only [mcuMachine, howed, Option.ite_none_right_eq_some, Option.some.injEq,
            Prod.mk.injEq] at hs
          obtain ⟨hr, rfl, rfl⟩ := hs
          exact h.answer howed hr
  | stale reply =>
      simp only [mcuMachine, Option.ite_none_right_eq_some, Option.some.injEq,
        Prod.mk.injEq] at hs
      obtain ⟨hr, rfl, rfl⟩ := hs
      exact h.stale ((poeStreamMsg_discards_iff (isStale_sumOk hr)).mpr (hharm reply rfl))

theorem mcuInv_init : McuInv initMcu [] := ⟨rfl, fun pre id r post h => by simp at h⟩

end Invariant

/-! ## Runs -/

/-- **A run delivers every answer and discards every stale frame exactly when each stale frame
finds no command pending, or is a rejection while the back-off timer is pending.** -/
theorem discards_iff_harmless {vs : List McuVisit} {tr : List McuEvent} {s : Mcu}
    (h : Exec mcuMachine initMcu vs tr s) :
    (AnswersDelivered tr ∧ ∀ v ∈ vs, DiscardsStale v) ↔ ∀ v ∈ vs, HarmlessStale v := by
  have hsum : ∀ v ∈ vs, ∀ r, v.act = .stale r → r.sumOk = true := by
    intro v hv r hact
    obtain ⟨s', evs, hstep, -⟩ := h.visit_step v hv
    rw [hact] at hstep
    simp only [mcuMachine, Option.ite_none_right_eq_some] at hstep
    exact isStale_sumOk hstep.1
  have hiff : (∀ v ∈ vs, DiscardsStale v) ↔ ∀ v ∈ vs, HarmlessStale v := by
    refine forall₂_congr (fun v hv => forall₂_congr (fun r hact => ?_))
    exact poeStreamMsg_discards_iff (hsum v hv r hact)
  rw [← hiff]
  refine ⟨fun hboth => hboth.2, fun hdisc => ⟨?_, hdisc⟩⟩
  have hinv : McuInv s tr := h.inv_where McuInv HarmlessStale mcuInv_init
    (fun _ _ _ _ _ hI hharm hs => hI.step hharm hs) (hiff.mp hdisc)
  exact hinv.delivered

/-- A command is queued and answered; a second copy of the answer finds no command pending. -/
theorem discards_iff_harmless_duplicate : ∃ vs tr s, Exec mcuMachine initMcu vs tr s ∧
    vs.map Visit.act = [.queue [0x40], .answer (buildFrame [0x40] 1),
      .stale (buildFrame [0x40] 1)] ∧
    ((AnswersDelivered tr ∧ ∀ v ∈ vs, DiscardsStale v) ↔ ∀ v ∈ vs, HarmlessStale v) := by
  obtain ⟨vs, hvs, hact⟩ := Exec.replay mcuMachine initMcu
    [.queue [0x40], .answer (buildFrame [0x40] 1), .stale (buildFrame [0x40] 1)]
    (by decide +kernel)
  exact ⟨vs, _, _, hvs, hact, discards_iff_harmless hvs⟩

/-- Two commands and one stale frame: neither answer is delivered. -/
def staleRun : List McuAction :=
  [.queue [0x40], .queue [0x41], .stale (buildFrame [0x40] 0), .answer (buildFrame [0x40] 1),
    .answer (buildFrame [0x41] 2)]

/-- A stale frame takes the turn of the first command, and the answers to both are lost. -/
theorem stale_frame_loses_answers : ¬ ∀ vs tr s, Exec mcuMachine initMcu vs tr s →
    AnswersDelivered tr := by
  intro h
  obtain ⟨vs, hvs, -⟩ := Exec.replay mcuMachine initMcu staleRun (by decide +kernel)
  have hlost := h _ _ _ hvs
    [.line (.queued 0), .line (.tx 0 (buildFrame [0x40] 1)), .line (.queued 1),
      .stale (buildFrame [0x40] 0), .line (.rx (buildFrame [0x40] 0)),
      .line (.tx 1 (buildFrame [0x41] 2))]
    0 (buildFrame [0x40] 1)
    [.line (.rx (buildFrame [0x40] 1)), .answered 1 (buildFrame [0x41] 2),
      .line (.rx (buildFrame [0x41] 2))] (by decide +kernel) .poe_reply_status (by decide +kernel)
  exact absurd hlost (by decide +kernel)

end RealtekPoe
