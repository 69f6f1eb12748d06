import TfPack.RealtekPoe.Replies
import TfPack.RealtekPoe.SetupLoop

set_option autoImplicit false

/-! # Replies that are taken and frames that are written

`poe_cmd_queue` lays a frame out and adds the sum of its bytes; `poe_reply_consume` compares the sum,
the id and the sequence number of a reply with those of the command at the head before it calls the
handler of the id. A rejection is looked at before the id, and starts the back-off timer that is part
of `state`; after it the command is written again, with the number it already has
(`rejection_acts`). Apart from the timer nothing in `state` changes for a reply that is not the
head's, and every frame written is that of a queued command (`acts_only_if_matched`).
-/

namespace RealtekPoe

open StepMachine

/-! ## What a reply does -/

/-- The reply has the checksum, and the id and the sequence number of the head of the queue. -/
def Matched (q : Queue) (reply : Frame) : Prop :=
  ∃ c rest, q.cmd_pending = c :: rest ∧ correctReply c.cmd reply = true

/-- A handler is called, or `state` changes: what the replies report, or the back-off timer. -/
def Acts (st : State) (q : Queue) (reply : Frame) : Prop :=
  (∃ id h f, .handled id h f ∈ (poeReplyConsume q reply).2) ∨ (poeReplyEffect st q reply).1 ≠ st ∨
    (poeReplyConsume q reply).1.mcu_error_timeout ≠ q.mcu_error_timeout

/-- The handler `h` is called for the command `c`, and it is the one registered for the id of the
reply. -/
structure Calls (q : Queue) (reply : Frame) (c : Cmd) (h : ReplyHandler) : Prop where
  head : ∃ rest, q.cmd_pending = c :: rest
  matched : correctReply c.cmd reply = true
  registered : replyHandler (reply 0) = some h

section Reply

variable {st : State} {q : Queue} {reply : Frame}

/-- **Only the head's reply is handed on**, to the handler of its id. -/
theorem calls_of_mem (hid : (reply 0).toNat ≠ HANDLERS) {e : LineEvent}
    (he : e ∈ (poeReplyConsume q reply).2) : ∃ c h, Calls q reply c h ∧ e = .handled c.id h reply := by
  rw [poeReplyConsume_calls] at he
  cases hc : checkedHead q reply with
  | none =>
      rw [hc] at he
      cases he
  | some c =>
      obtain ⟨hhead, hcorrect, -, -⟩ := checkedHead_eq_some_iff.mp hc
      simp only [hc, rtlToBcmCmdId_eq, if_neg hid] at he
      cases hh : replyHandler (reply 0) with
      | none =>
          rw [hh] at he
          cases he
      | some h =>
          rw [hh] at he
          exact ⟨c, h, ⟨hhead, hcorrect, hh⟩, List.mem_singleton.mp he⟩

/-- **Only the head's reply changes what is reported**, and as its handler does. -/
theorem calls_of_effect (hne : (poeReplyEffect st q reply).1 ≠ st) :
    ∃ c h, Calls q reply c h ∧ (poeReplyEffect st q reply).1 = (h.call st reply).1 := by
  cases hc : checkedHead q reply with
  | none =>
      rw [poeReplyEffect, hc] at hne
      exact absurd rfl hne
  | some c =>
      obtain ⟨hhead, hcorrect, -, -⟩ := checkedHead_eq_some_iff.mp hc
      cases hh : replyHandler (reply 0) with
      | none =>
          simp only [poeReplyEffect, hc, rtlToBcmCmdId_eq, hh] at hne
          exact absurd rfl hne
      | some h =>
          refine ⟨c, h, ⟨hhead, hcorrect, hh⟩, ?_⟩
          simp only [poeReplyEffect, hc, rtlToBcmCmdId_eq, hh]

/-- **Only a rejection touches the back-off timer.** -/
theorem rejects_of_timer
    (hne : (poeReplyConsume q reply).1.mcu_error_timeout ≠ q.mcu_error_timeout) :
    q.cmd_pending ≠ [] ∧ reply.sumOk = true ∧ reply.rejects = true := by
  unfold poeReplyConsume at hne
  cases hq : q.cmd_pending with
  | nil =>
      rw [hq] at hne
      exact absurd rfl hne
  | cons c rest =>
      simp only [hq] at hne
      cases hsum : reply.sumOk with
      | false =>
          simp only [hsum] at hne
          exact absurd rfl hne
      | true =>
          cases hrej : reply.rejects with
          | false =>
              simp only [hsum, hrej] at hne
              exact absurd rfl hne
          | true => exact ⟨List.cons_ne_nil c rest, rfl, rfl⟩

end Reply

/-! ## The frames written -/

/-- The frame encodes a command: its bytes with `0xff` behind them, its number, and the sum. -/
structure Encodes (f : Frame) (bytes : Bytes) (n : Nat) : Prop where
  id : f 0 = bcmToRtlCmdId (bytes.getD 0 0xff)
  seq : f 1 = UInt8.ofNat n
  data : ∀ i : Fin 12, 2 ≤ i.val → i.val ≤ 10 → f i = bytes.getD i 0xff
  sum : f.sumOk = true

theorem encodes_buildFrame (bytes : Bytes) (n : Nat) :
    Encodes (buildFrame bytes (UInt8.ofNat n)) bytes n where
  id := by rw [buildFrame_zero, bcmToRtlCmdId_eq]
  seq := buildFrame_one bytes _
  data := fun _ h h' => buildFrame_data bytes _ h h'
  sum := buildFrame_sumOk bytes _

/-- The commands handed to `poe_cmd_queue` in a run, in order. -/
def queuedBytes (vs : List (Visit Queue QueueAction LineEvent)) : List Bytes :=
  vs.filterMap (fun v =>
    match v.act with
    | .queue bytes => some bytes
    | _ => none)

/-- The frame of the command number `id` of a run. -/
def FrameOf (cmds : List Bytes) (id : Nat) (f : Frame) : Prop :=
  ∃ bytes, cmds[id]? = some bytes ∧ Encodes f bytes (id + 1)

/-- The numbers follow the calls of `poe_cmd_queue`, and what waits and what was written are the
frames of commands queued. -/
structure Numbered (cmds : List Bytes) (q : Queue) (tr : List LineEvent) : Prop where
  queued : q.queued = cmds.length
  seq : q.cmd_seq = UInt8.ofNat cmds.length
  pending : ∀ c ∈ q.cmd_pending, FrameOf cmds c.id c.cmd
  written : ∀ id f, .tx id f ∈ tr → FrameOf cmds id f

section Numbers

variable {q q' : Queue} {cmds : List Bytes} {tr evs : List LineEvent}

theorem FrameOf.more {id : Nat} {f : Frame} (h : FrameOf cmds id f) (more : List Bytes) :
    FrameOf (cmds ++ more) id f := by
  obtain ⟨bytes, hbytes, henc⟩ := h
  have hlt : id < cmds.length := (List.getElem?_eq_some_iff.mp hbytes).1
  exact ⟨bytes, by rw [List.getElem?_append_left hlt, hbytes], henc⟩

theorem mem_poeCmdSend {c : Cmd} {id : Nat} {f : Frame} (h : .tx id f ∈ poeCmdSend q c) :
    id = c.id ∧ f = c.cmd := by
  unfold poeCmdSend at h
  split at h
  · cases h
  · cases List.mem_singleton.mp h
    exact ⟨rfl, rfl⟩

/-- What `poe_cmd_next` writes is waiting. -/
theorem mem_poeCmdNext {id : Nat} {f : Frame} (h : .tx id f ∈ poeCmdNext q) :
    ∃ c ∈ q.cmd_pending, c.id = id ∧ c.cmd = f := by
  unfold poeCmdNext at h
  split at h
  · cases h
  · rename_i c rest hq
    obtain ⟨rfl, rfl⟩ := mem_poeCmdSend h
    exact ⟨c, by rw [hq]; exact List.mem_cons_self, rfl, rfl⟩

/-- A step that queues nothing: the numbers stay, what waits has waited before, and what is written
is waiting. -/
theorem Numbered.keep (h : Numbered cmds q tr) (hqueued : q'.queued = q.queued)
    (hseq : q'.cmd_seq = q.cmd_seq)
    (hpending : ∀ c ∈ q'.cmd_pending, ∃ d ∈ q.cmd_pending, d.id = c.id ∧ d.cmd = c.cmd)
    (hwritten : ∀ id f, .tx id f ∈ evs → ∃ c ∈ q'.cmd_pending, c.id = id ∧ c.cmd = f) :
    Numbered cmds q' (tr ++ evs) := by
  have hwait : ∀ c ∈ q'.cmd_pending, FrameOf cmds c.id c.cmd := by
    intro c hc
    obtain ⟨d, hd, hid, hcmd⟩ := hpending c hc
    rw [← hid, ← hcmd]
    exact h.pending d hd
  refine ⟨hqueued.trans h.queued, hseq.trans h.seq, hwait, ?_⟩
  intro id f hmem
  rcases List.mem_append.mp hmem with hmem | hmem
  · exact h.written id f hmem
  · obtain ⟨c, hc, rfl, rfl⟩ := hwritten id f hmem
    exact hwait c hc

theorem Numbered.queue (h : Numbered cmds q tr) (bytes : Bytes) :
    Numbered (cmds ++ [bytes]) (poeCmdQueue q bytes).1 (tr ++ (poeCmdQueue q bytes).2) := by
  have hseq : q.cmd_seq + 1 = UInt8.ofNat (cmds.length + 1) := by
    rw [h.seq, UInt8.ofNat_add]
    rfl
  have hnew : FrameOf (cmds ++ [bytes]) q.queued (buildFrame bytes (q.cmd_seq + 1)) := by
    rw [hseq, h.queued]
    exact ⟨bytes, List.getElem?_concat_length, encodes_buildFrame bytes _⟩
  refine ⟨?_, ?_, ?_, ?_⟩
  · rw [List.length_append, List.length_singleton, ← h.queued]
    rfl
  · rw [List.length_append, List.length_singleton, ← hseq]
    rfl
  · intro c hc
    rcases List.mem_append.mp hc with hc | hc
    · exact (h.pending c hc).more _
    · rw [List.mem_singleton.mp hc]
      exact hnew
  · intro id f hmem
    rcases List.mem_append.mp hmem with hmem | hmem
    · exact (h.written id f hmem).more _
    · rcases List.mem_cons.mp hmem with hmem | hmem
      · cases hmem
      · split at hmem
        · obtain ⟨rfl, rfl⟩ := mem_poeCmdSend hmem
          exact hnew
        · cases hmem

/-- A reply takes the head off the queue, or leaves it there, with its frame. -/
theorem poeReplyConsume_keeps (q : Queue) (reply : Frame) :
    (poeReplyConsume q reply).1.queued = q.queued ∧
      (poeReplyConsume q reply).1.cmd_seq = q.cmd_seq ∧
      ∀ c ∈ (poeReplyConsume q reply).1.cmd_pending, ∃ d ∈ q.cmd_pending,
        d.id = c.id ∧ d.cmd = c.cmd := by
  have hrefl : ∀ {l l' : List Cmd}, l ⊆ l' → ∀ c ∈ l, ∃ d ∈ l', d.id = c.id ∧ d.cmd = c.cmd :=
    fun hsub c hc => ⟨c, hsub hc, rfl, rfl⟩
  unfold poeReplyConsume
  cases hq : q.cmd_pending with
  | nil => exact ⟨rfl, rfl, by rw [hq]; exact hrefl (List.Subset.refl _)⟩
  | cons c rest =>
      have hrest : rest ⊆ c :: rest := List.subset_cons_self c rest
      dsimp only
      split
      · exact ⟨rfl, rfl, hrefl hrest⟩
      · split
        · -- a rejection: the command is kept, counted, or given up
          unfold handlePoeF0Reply
          split
          · exact ⟨rfl, rfl, hrefl (List.Subset.refl _)⟩
          · split
            · exact ⟨rfl, rfl, hrefl hrest⟩
            · refine ⟨rfl, rfl, ?_⟩
              intro d hd
              rcases List.mem_cons.mp hd with rfl | hd
              · exact ⟨c, List.mem_cons_self, rfl, rfl⟩
              · exact ⟨d, hrest hd, rfl, rfl⟩
        · exact ⟨rfl, rfl, hrefl hrest⟩

/-- No frame is written by the call of a handler. -/
theorem not_tx_mem_consume {reply : Frame} {id : Nat} {f : Frame} :
    LineEvent.tx id f ∉ (poeReplyConsume q reply).2 := by
  intro hmem
  rw [poeReplyConsume_calls] at hmem
  cases hc : checkedHead q reply with
  | none =>
      rw [hc] at hmem
      cases hmem
  | some c =>
      simp only [hc] at hmem
      split at hmem
      · cases List.mem_singleton.mp hmem
      · rw [Option.mem_toList, Option.map_eq_some_iff] at hmem
        obtain ⟨h, -, heq⟩ := hmem
        cases heq

/-- **A step keeps the numbers**, and adds the command it queues. -/
theorem Numbered.step {vs : List (Visit Queue QueueAction LineEvent)} {a : QueueAction}
    (h : Numbered (queuedBytes vs) q tr) (hs : queueMachine.step q a = some (q', evs)) :
    Numbered (queuedBytes (vs ++ [⟨q, tr, a⟩])) q' (tr ++ evs) := by
  rw [queuedBytes, List.filterMap_append]
  cases a with
  | queue bytes =>
      simp only [queueMachine, Option.some.injEq] at hs
      obtain ⟨rfl, rfl⟩ := Prod.mk.injEq .. ▸ hs
      exact h.queue bytes
  | frame reply =>
      simp only [queueMachine, Option.some.injEq] at hs
      obtain ⟨rfl, rfl⟩ := Prod.mk.injEq .. ▸ hs
      obtain ⟨hqueued, hseq, hpending⟩ := poeReplyConsume_keeps q reply
      refine (List.append_nil (queuedBytes vs)).symm ▸ h.keep hqueued hseq hpending ?_
      intro id f hmem
      rcases List.mem_cons.mp hmem with hmem | hmem
      · cases hmem
      · rcases List.mem_append.mp hmem with hmem | hmem
        · exact absurd hmem not_tx_mem_consume
        · exact mem_poeCmdNext hmem
  | expire =>
      simp only [queueMachine, Option.ite_none_right_eq_some, Option.some.injEq] at hs
      obtain ⟨-, hs⟩ := hs
      obtain ⟨rfl, rfl⟩ := Prod.mk.injEq .. ▸ hs
      refine (List.append_nil (queuedBytes vs)).symm ▸ h.keep rfl rfl
        (fun c hc => ⟨c, hc, rfl, rfl⟩) ?_
      intro id f hmem
      rcases List.mem_cons.mp hmem with hmem | hmem
      · cases hmem
      · exact mem_poeCmdNext hmem

/-- **In every run the frames written are those of the commands queued**, each with its number. -/
theorem numbered_of_exec {vs : List (Visit Queue QueueAction LineEvent)}
    (h : Exec queueMachine initQueue vs tr q) : Numbered (queuedBytes vs) q tr :=
  h.inv_run (fun vs q tr => Numbered (queuedBytes vs) q tr)
    ⟨rfl, rfl, by simp [initQueue], by simp⟩ (fun _ _ _ _ _ _ hI hs => hI.step hs)

end Numbers

/-- **For every state and every frame with an id of the table, a handler is called and what the
replies report changes only for the head's own reply, as the handler registered for its id does; the
back-off timer changes only for a rejection. In every run each frame written is that of a command
queued, and carries the number next to that of the command queued before it.** -/
theorem acts_only_if_matched :
    (∀ (st : State) (q : Queue) (reply : Frame), (reply 0).toNat ≠ HANDLERS →
      (∀ e ∈ (poeReplyConsume q reply).2, ∃ c h, Calls q reply c h ∧ e = .handled c.id h reply) ∧
      ((poeReplyEffect st q reply).1 ≠ st →
        ∃ c h, Calls q reply c h ∧ (poeReplyEffect st q reply).1 = (h.call st reply).1) ∧
      ((poeReplyConsume q reply).1.mcu_error_timeout ≠ q.mcu_error_timeout →
        q.cmd_pending ≠ [] ∧ reply.sumOk = true ∧ reply.rejects = true)) ∧
    ∀ vs tr q, Exec queueMachine initQueue vs tr q →
      ∀ id f, .tx id f ∈ tr → FrameOf (queuedBytes vs) id f :=
  ⟨fun _ _ _ hid => ⟨fun _ he => calls_of_mem hid he, calls_of_effect, rejects_of_timer⟩,
    fun _ _ _ h => (numbered_of_exec h).written⟩

/-- The reply `40 01` to the status query is handed to `poe_reply_status`; the query was written
with the number 1. -/
theorem acts_only_if_matched_status :
    (∃ c h, Calls (poeCmdQueue initQueue [0x40]).1 (buildFrame [0x40] 1) c h ∧
      LineEvent.handled 0 .poe_reply_status (buildFrame [0x40] 1) =
        .handled c.id h (buildFrame [0x40] 1)) ∧
    FrameOf [[0x40]] 0 (buildFrame [0x40] 1) := by
  constructor
  · exact (acts_only_if_matched.1 .initial _ _ (by decide +kernel)).1 _ (by decide +kernel)
  · have hstep : queueMachine.step initQueue (.queue [0x40]) =
        some (poeCmdQueue initQueue [0x40]) := rfl
    exact acts_only_if_matched.2 _ _ _ (Exec.single hstep) 0 _ (by decide +kernel)

/-- A rejection of the status query starts the back-off timer, though its id is not that of the
query; and the query is then written again with the same number. -/
theorem rejection_acts :
    (¬∀ st q reply, Acts st q reply → Matched q reply) ∧
      ¬∀ vs tr q, Exec queueMachine initQueue vs tr q → ∀ i f g, (writes tr)[i]? = some f →
        (writes tr)[i + 1]? = some g → g.2 1 = f.2 1 + 1 := by
  constructor
  · intro h
    obtain ⟨c, rest, hq, hmatch⟩ := h .initial (poeCmdQueue initQueue [0x40]).1
      (buildFrame [0xf0] 1) (.inr (.inr (by decide +kernel)))
    cases hq
    exact absurd hmatch (by decide +kernel)
  · intro h
    obtain ⟨vs, hvs, -⟩ := Exec.replay queueMachine initQueue
      [.queue [0x40], .frame (buildFrame [0xf0] 1), .expire] (by decide +kernel)
    have hnext := h _ _ _ hvs 0 (0, buildFrame [0x40] 1) (0, buildFrame [0x40] 1)
      (by decide +kernel) (by decide +kernel)
    exact absurd hnext (by decide +kernel)

end RealtekPoe
