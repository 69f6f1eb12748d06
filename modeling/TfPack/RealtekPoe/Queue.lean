import TfPack.Lib.Machine
import TfPack.RealtekPoe.Frame

set_option autoImplicit false

/-! # The PoE MCU daemon: the command queue

`main.c` from `poe_cmd_send` to `poe_stream_msg_cb`: commands wait in `cmd_pending`, the head is
written to the serial line when the list was empty, after every consumed frame and when the
back-off timer `mcu_error_timeout` expires, and nothing is written while that timer is pending.

Each command carries the number of the call of `poe_cmd_queue` that allocated it; the number
tells commands of the same bytes apart and orders them as they were queued. What a reply handler
stores in `state` is not part of the queue; that it was called is an event.
-/

namespace RealtekPoe

open StepMachine

/-- `MAX_RETRIES`. -/
def MAX_RETRIES : Nat := 5

/-- `struct cmd`, with the number of its allocation. -/
structure Cmd where
  id : Nat
  cmd : Frame
  num_retries : Nat

/-- The queue, the sequence counter, whether `mcu_error_timeout` is pending, and the number of
commands queued so far. -/
structure Queue where
  cmd_pending : List Cmd
  cmd_seq : UInt8
  mcu_error_timeout : Bool
  queued : Nat

/-- The queue when the daemon starts. -/
def initQueue : Queue := ⟨[], 0, false, 0⟩

/-- What happens on the line and in the queue: a command is queued, a frame is written, a frame
is consumed, a reply is handed to its handler, the entry after the table of handlers is read,
the back-off timer expires. -/
inductive LineEvent
  | queued (id : Nat)
  | tx (id : Nat) (f : Frame)
  | rx (f : Frame)
  | handled (id : Nat) (h : ReplyHandler) (f : Frame)
  | pastHandlers (id : Nat)
  | expired
  deriving DecidableEq

/-- `poe_cmd_send`: nothing is written while the timer is pending. -/
def poeCmdSend (q : Queue) (c : Cmd) : List LineEvent :=
  if q.mcu_error_timeout then [] else [.tx c.id c.cmd]

/-- `poe_cmd_next`. -/
def poeCmdNext (q : Queue) : List LineEvent :=
  match q.cmd_pending with
  | [] => []
  | c :: _ => poeCmdSend q c

/-- `poe_cmd_queue`. -/
def poeCmdQueue (q : Queue) (bytes : List UInt8) : Queue × List LineEvent :=
  let c : Cmd := ⟨q.queued, buildFrame bytes (q.cmd_seq + 1), 0⟩
  let q' : Queue :=
    { q with
      cmd_pending := q.cmd_pending ++ [c]
      cmd_seq := q.cmd_seq + 1
      queued := q.queued + 1 }
  (q', .queued c.id :: if q.cmd_pending.isEmpty then poeCmdSend q' c else [])

/-- `mcu_clear_timeout`, called when the timer expires. -/
def mcuClearTimeout (q : Queue) : Queue × List LineEvent :=
  let q := { q with mcu_error_timeout := false }
  (q, .expired :: poeCmdNext q)

/-- `handle_poe_f0_reply`, for the command `c` taken off the queue `q`: a rejection counts as a
retry and starts the timer unless the timer is pending already. -/
def handlePoeF0Reply (q : Queue) (c : Cmd) : Queue :=
  if q.mcu_error_timeout then { q with cmd_pending := c :: q.cmd_pending }
  else if MAX_RETRIES < c.num_retries + 1 then q
  else
    { q with
      cmd_pending := { c with num_retries := c.num_retries + 1 } :: q.cmd_pending
      mcu_error_timeout := true }

/-- The end of `poe_reply_consume`, for a reply that is not a rejection to the command `c`. The
comparison with the length of the table lets the index of the entry after it pass. -/
def deliverReply (c : Cmd) (reply : Frame) : List LineEvent :=
  let id := rtlToBcmCmdId (reply 0)
  if id ≠ rtlToBcmCmdId (c.cmd 0) ∨ HANDLERS < id.toNat then []
  else if reply 1 ≠ c.cmd 1 then []
  else if id.toNat = HANDLERS then [.pastHandlers c.id]
  else
    match replyHandler id with
    | none => []
    | some h => [.handled c.id h reply]

/-- `poe_reply_consume`: the head leaves the queue before the reply is looked at. -/
def poeReplyConsume (q : Queue) (reply : Frame) : Queue × List LineEvent :=
  match q.cmd_pending with
  | [] => (q, [])
  | c :: rest =>
      let q' := { q with cmd_pending := rest }
      if !reply.sumOk then (q', [])
      else if reply.rejects then (handlePoeF0Reply q' c, [])
      else (q', deliverReply c reply)

/-- `poe_stream_msg_cb`, for the twelve bytes it consumes. -/
def poeStreamMsg (q : Queue) (reply : Frame) : Queue × List LineEvent :=
  let r := poeReplyConsume q reply
  (r.1, .rx reply :: (r.2 ++ poeCmdNext r.1))

/-- The steps of the queue. -/
inductive QueueAction
  | queue (bytes : List UInt8)
  | frame (reply : Frame)
  | expire

/-- The queue as a step machine; the timer expires only while it is pending. -/
def queueMachine : Machine Queue QueueAction LineEvent where
  step q
    | .queue bytes => some (poeCmdQueue q bytes)
    | .frame reply => some (poeStreamMsg q reply)
    | .expire => if q.mcu_error_timeout then some (mcuClearTimeout q) else none

/-! ## What a step can do -/

/-- The frame an event writes, with its command. -/
def LineEvent.txOf : LineEvent → Option (Nat × Frame)
  | .tx id f => some (id, f)
  | _ => none

/-- A frame is written. -/
def LineEvent.isTx : LineEvent → Bool
  | .tx _ _ => true
  | _ => false

/-- A frame is consumed. -/
def LineEvent.isRx : LineEvent → Bool
  | .rx _ => true
  | _ => false

/-- Nothing happens on the line: a handler is called, or the entry after the table read. -/
def LineEvent.isCall : LineEvent → Bool
  | .handled _ _ _ | .pastHandlers _ => true
  | _ => false

/-- Calls are neither written nor consumed frames. -/
theorem LineEvent.of_isCall {e : LineEvent} (h : e.isCall = true) :
    e.isRx = false ∧ e.isTx = false ∧ e.txOf = none := by
  cases e <;> first
    | exact ⟨rfl, rfl, rfl⟩
    | cases h

/-- **The six things a step can do.** A frame drops the head, keeps it while the timer is
pending, or sends it back for a retry; on an empty queue it does nothing. -/
inductive QueueStep (q : Queue) : Queue → List LineEvent → Prop
  | queue (bytes : List UInt8) (c : Cmd)
      (new : c = ⟨q.queued, buildFrame bytes (q.cmd_seq + 1), 0⟩) :
      QueueStep q ⟨q.cmd_pending ++ [c], q.cmd_seq + 1, q.mcu_error_timeout, q.queued + 1⟩
        (.queued c.id :: if q.cmd_pending.isEmpty then poeCmdSend q c else [])
  | expire (timer : q.mcu_error_timeout = true) :
      QueueStep q { q with mcu_error_timeout := false }
        (.expired :: poeCmdNext { q with mcu_error_timeout := false })
  | unsolicited (reply : Frame) (empty : q.cmd_pending = []) : QueueStep q q [.rx reply]
  | drop (reply : Frame) (c : Cmd) (rest : List Cmd) (calls : List LineEvent)
      (head : q.cmd_pending = c :: rest) (quiet : ∀ e ∈ calls, e.isCall = true) :
      QueueStep q { q with cmd_pending := rest }
        (.rx reply :: (calls ++ poeCmdNext { q with cmd_pending := rest }))
  | keep (reply : Frame) (timer : q.mcu_error_timeout = true) (sum : reply.sumOk = true)
      (rejected : reply.rejects = true) : QueueStep q q [.rx reply]
  | retry (reply : Frame) (c : Cmd) (rest : List Cmd) (head : q.cmd_pending = c :: rest)
      (timer : q.mcu_error_timeout = false) (sum : reply.sumOk = true)
      (rejected : reply.rejects = true) (left : c.num_retries < MAX_RETRIES) :
      QueueStep q
        { q with
          cmd_pending := { c with num_retries := c.num_retries + 1 } :: rest
          mcu_error_timeout := true }
        [.rx reply]

/-- Calling a handler is nothing on the line. -/
theorem deliverReply_calls (c : Cmd) (reply : Frame) :
    ∀ e ∈ deliverReply c reply, e.isCall = true := by
  unfold deliverReply
  dsimp only
  generalize rtlToBcmCmdId (reply 0) = id
  generalize rtlToBcmCmdId (c.cmd 0) = id'
  repeat' split
  all_goals simp [LineEvent.isCall]

theorem poeCmdSend_not_rx (q : Queue) (c : Cmd) : ∀ e ∈ poeCmdSend q c, e.isRx = false := by
  unfold poeCmdSend
  split <;> simp [LineEvent.isRx]

theorem poeCmdNext_not_rx (q : Queue) : ∀ e ∈ poeCmdNext q, e.isRx = false := by
  unfold poeCmdNext
  split
  · simp
  · exact poeCmdSend_not_rx q _

theorem poeCmdNext_timer {q : Queue} (h : q.mcu_error_timeout = true) : poeCmdNext q = [] := by
  unfold poeCmdNext
  split
  · rfl
  · simp [poeCmdSend, h]

/-- A rejected command goes back to the head, is counted and waits, or is given up. -/
theorem handlePoeF0Reply_step {q : Queue} {reply : Frame} {c : Cmd} {rest : List Cmd}
    (hq : q.cmd_pending = c :: rest) (hsum : reply.sumOk = true)
    (hrej : reply.rejects = true) :
    QueueStep q (handlePoeF0Reply { q with cmd_pending := rest } c)
      (.rx reply :: poeCmdNext (handlePoeF0Reply { q with cmd_pending := rest } c)) := by
  obtain ⟨pending, seq, timer, n⟩ := q
  obtain rfl : pending = c :: rest := hq
  cases timer with
  | true =>
      have hsame : handlePoeF0Reply ⟨rest, seq, true, n⟩ c = ⟨c :: rest, seq, true, n⟩ := rfl
      rw [hsame, poeCmdNext_timer rfl]
      exact .keep reply rfl hsum hrej
  | false =>
      by_cases hle : MAX_RETRIES < c.num_retries + 1
      · have habort : handlePoeF0Reply ⟨rest, seq, false, n⟩ c = ⟨rest, seq, false, n⟩ := by
          simp [handlePoeF0Reply, hle]
        rw [habort]
        exact .drop reply c rest [] rfl (by simp)
      · have hretry : handlePoeF0Reply ⟨rest, seq, false, n⟩ c =
            ⟨{ c with num_retries := c.num_retries + 1 } :: rest, seq, true, n⟩ := by
          simp [handlePoeF0Reply, hle]
        rw [hretry, poeCmdNext_timer rfl]
        exact .retry reply c rest rfl rfl hsum hrej (by omega)

theorem poeStreamMsg_step (q : Queue) (reply : Frame) :
    QueueStep q (poeStreamMsg q reply).1 (poeStreamMsg q reply).2 := by
  unfold poeStreamMsg poeReplyConsume
  cases hq : q.cmd_pending with
  | nil => simpa [poeCmdNext, hq] using QueueStep.unsolicited reply hq
  | cons c rest =>
      dsimp only
      cases hsum : reply.sumOk with
      | false => exact .drop reply c rest [] hq (by simp)
      | true =>
          cases hrej : reply.rejects with
          | false =>
              simp only [Bool.not_true, Bool.false_eq_true, if_false]
              exact .drop reply c rest (deliverReply c reply) hq (deliverReply_calls c reply)
          | true => exact handlePoeF0Reply_step hq hsum hrej

theorem queueMachine_step {q q' : Queue} {a : QueueAction} {evs : List LineEvent}
    (h : queueMachine.step q a = some (q', evs)) : QueueStep q q' evs := by
  cases a with
  | queue bytes =>
      simp only [queueMachine, Option.some.injEq] at h
      obtain ⟨rfl, rfl⟩ := Prod.mk.injEq .. ▸ h
      exact .queue bytes _ rfl
  | frame reply =>
      simp only [queueMachine, Option.some.injEq] at h
      have hstep := poeStreamMsg_step q reply
      rwa [h] at hstep
  | expire =>
      simp only [queueMachine, Option.ite_none_right_eq_some, Option.some.injEq] at h
      obtain ⟨ht, h⟩ := h
      obtain ⟨rfl, rfl⟩ := Prod.mk.injEq .. ▸ h
      exact .expire ht

end RealtekPoe
