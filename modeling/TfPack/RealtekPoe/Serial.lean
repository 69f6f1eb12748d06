import TfPack.Lib.Behaviour
import TfPack.RealtekPoe.Mcu
import TfPack.RealtekPoe.Stream

set_option autoImplicit false

/-! # The daemon on its serial line

The daemon, the reply bytes on their way to it, and an MCU that answers the frames it is sent in
order. Bytes are read in any portions. The line may lose, insert or alter a byte, and the MCU may
answer with anything else than a correct reply; these are the disturbances.

Replies carry no delimiter, so what counts is how many bytes there are. `shift` compares the reply
bytes that are buffered, on the line or still to be answered with what the daemon waits for: twelve
after a frame has been written, none otherwise. Without a disturbance the shift only changes by
whole frames, and only when a frame is consumed for which the daemon does not wait
(`SerialStep.shift`).
-/

namespace RealtekPoe

open StepMachine EventTrace BlockStream

/-! ## The system -/

/-- The daemon, the reply bytes on the line, and the written frames the MCU has yet to answer. -/
structure Serial where
  daemon : Daemon
  line : Bytes
  owed : List (Nat × Frame)

/-- What the daemon does, an answer, and a reply that `poe_reply_consume` accepts for its
command. -/
inductive SerialEvent
  | daemon (e : LineEvent)
  | answered (id : Nat) (r : Frame)
  | accepted (id : Nat)
  deriving DecidableEq

/-- A step of the daemon other than a read, a correct answer to the first frame owed one, a read of
`n` bytes, and the disturbances: a byte lost, inserted or altered, and some other bytes in place of
an answer. -/
inductive SerialAction
  | daemon (a : DaemonAction)
  | answer (r : Frame)
  | deliver (n : Nat)
  | lose (i : Nat)
  | insert (i : Nat) (byte : UInt8)
  | alter (i : Nat) (byte : UInt8)
  | misanswer (bytes : Bytes)

/-- The reply `r` to the frame `f` is correct, and does not reject it. -/
def repliesTo (f r : Frame) : Bool := correctReply f r && !r.rejects

/-- The frame that a read of `bytes` completes matches the command at the head in checksum, id and
sequence number. -/
def acceptance (d : Daemon) (bytes : Bytes) : List SerialEvent :=
  match d.queue.cmd_pending with
  | [] => []
  | c :: _ =>
      if 12 ≤ (d.rx ++ bytes).length ∧ repliesTo c.cmd (frameOf (d.rx ++ bytes)) = true then
        [.accepted c.id]
      else []

/-- The state after a step `r` of the daemon, with the bytes `line` still to be read and the MCU
owing answers to the frames `owed` from before. -/
def afterDaemon (line : Bytes) (owed : List (Nat × Frame)) (r : Daemon × List LineEvent) :
    Serial :=
  ⟨r.1, line, owed ++ writes r.2⟩

/-- The daemon on its serial line as a step machine. -/
def serialMachine (strtof : List Char → Float32) : Machine Serial SerialAction SerialEvent where
  step s
    | .daemon (.rx _) => none
    | .daemon a =>
        ((daemonMachine strtof).step s.daemon a).map
          (fun r => (afterDaemon s.line s.owed r, r.2.map .daemon))
    | .answer reply =>
        match s.owed with
        | [] => none
        | (id, f) :: rest =>
            if repliesTo f reply then
              some (⟨s.daemon, s.line ++ reply.bytes, rest⟩, [.answered id reply])
            else none
    | .deliver n =>
        if n = 0 ∨ s.line.length < n then none
        else
          let r := poeStreamMsgCb s.daemon (s.line.take n)
          some (afterDaemon (s.line.drop n) s.owed r,
            acceptance s.daemon (s.line.take n) ++ r.2.map .daemon)
    | .lose i => if i < s.line.length then some ({ s with line := s.line.eraseIdx i }, []) else none
    | .insert i byte =>
        if i ≤ s.line.length then some ({ s with line := s.line.insertIdx i byte }, []) else none
    | .alter i byte =>
        if i < s.line.length then some ({ s with line := s.line.set i byte }, []) else none
    | .misanswer bytes =>
        match s.owed with
        | [] => none
        | _ :: rest => some (⟨s.daemon, s.line ++ bytes, rest⟩, [])

/-- After the setup, whose frames the MCU has yet to answer. -/
def Boot.serial (b : Boot) (strtof : List Char → Float32) : Serial :=
  ⟨(b.start strtof).1, [], writes (b.start strtof).2⟩

/-- Bytes are lost, inserted or altered, or an answer is not correct. -/
def SerialAction.disturbs : SerialAction → Bool
  | .lose _ | .insert _ _ | .alter _ _ | .misanswer _ => true
  | _ => false

def SerialAction.isAnswer : SerialAction → Bool
  | .answer _ => true
  | _ => false

def SerialAction.isDelivery : SerialAction → Bool
  | .deliver _ => true
  | _ => false

/-! ## What a step can do -/

/-- What is buffered after a read of `n` bytes. -/
def Serial.read (s : Serial) (n : Nat) : Bytes := s.daemon.rx ++ s.line.take n

/-- **The four things a step without disturbance can do**: the daemon acts on its own, the MCU
answers, a read completes no frame, or one. -/
inductive SerialStep (s : Serial) : SerialAction → Serial → List SerialEvent → Prop
  | own (a : DaemonAction) (d : Daemon) (evs : List LineEvent) (buffer : d.rx = s.daemon.rx)
      (owes : RealtekPoe.owed d.queue = RealtekPoe.owed s.daemon.queue ++ writes evs) :
      SerialStep s (.daemon a) (afterDaemon s.line s.owed (d, evs)) (evs.map .daemon)
  | answer (reply : Frame) (id : Nat) (f : Frame) (rest : List (Nat × Frame))
      (first : s.owed = (id, f) :: rest) (good : repliesTo f reply = true) :
      SerialStep s (.answer reply) ⟨s.daemon, s.line ++ reply.bytes, rest⟩ [.answered id reply]
  | short (n : Nat) (pos : 0 < n) (le : n ≤ s.line.length) (short : (s.read n).length < 12) :
      SerialStep s (.deliver n) ⟨{ s.daemon with rx := s.read n }, s.line.drop n, s.owed⟩ []
  | frame (n : Nat) (q : Queue) (evs : List LineEvent) (pos : 0 < n) (le : n ≤ s.line.length)
      (full : 12 ≤ (s.read n).length) (owes : RealtekPoe.owed q = writes evs) :
      SerialStep s (.deliver n)
        (afterDaemon (s.line.drop n) s.owed
          ({ s.daemon with queue := q, rx := (s.read n).drop 12 }, evs))
        (acceptance s.daemon (s.line.take n) ++ evs.map .daemon)

/-- Queueing commands writes what is newly owed. -/
theorem owed_queueAll (q : Queue) (cmds : List Bytes) :
    owed (queueAll q cmds).1 = owed q ++ writes (queueAll q cmds).2 := by
  induction cmds generalizing q with
  | nil => exact (List.append_nil _).symm
  | cons cmd cmds ih =>
      have hstep : QueueStep q (poeCmdQueue q cmd).1 (poeCmdQueue q cmd).2 := .queue cmd _ rfl
      have hfirst := hstep.owes_quiet (by simp [poeCmdQueue])
      show owed (queueAll (poeCmdQueue q cmd).1 cmds).1 =
        owed q ++ writes ((poeCmdQueue q cmd).2 ++ (queueAll (poeCmdQueue q cmd).1 cmds).2)
      rw [ih, hfirst, writes_append, List.append_assoc]

/-- A step of the daemon that reads nothing writes what is newly owed. -/
theorem DaemonStep.owes {d d' : Daemon} {a : DaemonAction} {evs : List LineEvent}
    (h : DaemonStep d a d' evs) (hread : a.readOf = none) :
    owed d'.queue = owed d.queue ++ writes evs := by
  cases h with
  | queue _ c cmds _ _ _ => exact owed_queueAll d.queue cmds
  | frame bytes rest reply => cases hread
  | short bytes => cases hread
  | expire timer =>
      have hstep : QueueStep d.queue (mcuClearTimeout d.queue).1 (mcuClearTimeout d.queue).2 :=
        .expire timer
      exact hstep.owes_quiet (by simp [mcuClearTimeout])

theorem serialMachine_step {strtof : List Char → Float32} {s s' : Serial} {a : SerialAction}
    {evs : List SerialEvent} (h : (serialMachine strtof).step s a = some (s', evs))
    (hquiet : a.disturbs = false) : SerialStep s a s' evs := by
  have hown : ∀ a : DaemonAction, a.readOf = none →
      ((daemonMachine strtof).step s.daemon a).map
        (fun r => (afterDaemon s.line s.owed r, r.2.map SerialEvent.daemon)) = some (s', evs) →
      SerialStep s (.daemon a) s' evs := by
    intro a hread h
    obtain ⟨⟨d, es⟩, hstep, hs⟩ := Option.map_eq_some_iff.mp h
    obtain ⟨rfl, rfl⟩ := Prod.mk.inj hs
    have hreads := daemonMachine_reads hstep
    rw [hread] at hreads
    exact .own a d es hreads.2 ((daemonMachine_step hstep).owes hread)
  cases a with
  | daemon a =>
      cases a with
      | rx bytes => cases h
      | stateTimeout => exact hown .stateTimeout rfl h
      | mcuTimeout => exact hown .mcuTimeout rfl h
      | request r => exact hown (.request r) rfl h
  | answer reply =>
      cases howed : s.owed with
      | nil => simp [serialMachine, howed] at h
      | cons idf rest =>
          simp only [serialMachine, howed, Option.ite_none_right_eq_some, Option.some.injEq,
            Prod.mk.injEq] at h
          obtain ⟨hgood, rfl, rfl⟩ := h
          exact .answer reply _ _ rest howed hgood
  | deliver n =>
      simp only [serialMachine, Option.ite_none_left_eq_some, Option.some.injEq,
        Prod.mk.injEq, not_or, Nat.not_lt] at h
      obtain ⟨⟨hpos, hle⟩, rfl, rfl⟩ := h
      by_cases hshort : (s.daemon.rx ++ s.line.take n).length < 12
      · have hnone : acceptance s.daemon (s.line.take n) = [] := by
          unfold acceptance
          split
          · rfl
          · exact if_neg (fun hfull => by omega)
        rw [poeStreamMsgCb_short hshort, hnone]
        have hsame : afterDaemon (s.line.drop n) s.owed
            ({ s.daemon with rx := s.daemon.rx ++ s.line.take n }, []) =
              ⟨{ s.daemon with rx := s.read n }, s.line.drop n, s.owed⟩ := by
          simp [afterDaemon, writes, Serial.read]
        rw [hsame]
        exact .short n (Nat.pos_of_ne_zero hpos) hle hshort
      · have hstep := poeStreamMsg_step s.daemon.queue (frameOf (s.read n))
        rw [poeStreamMsgCb_full hshort]
        exact .frame n _ _ (Nat.pos_of_ne_zero hpos) hle (Nat.not_lt.mp hshort) hstep.owes_rx
  | lose i => cases hquiet
  | insert i byte => cases hquiet
  | alter i byte => cases hquiet
  | misanswer bytes => cases hquiet

/-! ## The shift -/

/-- The reply bytes that are buffered, on the line or still to be answered, less those the daemon
waits for. -/
def shift (s : Serial) : Int :=
  s.daemon.rx.length + s.line.length + 12 * s.owed.length - 12 * (owed s.daemon.queue).length

@[simp] theorem Frame.length_bytes (f : Frame) : f.bytes.length = 12 := List.length_ofFn

/-- **A step without disturbance leaves the shift alone, or lowers it by a frame that was consumed
while the daemon waited for none.** -/
theorem SerialStep.shift {s s' : Serial} {a : SerialAction} {evs : List SerialEvent}
    (h : SerialStep s a s' evs) : RealtekPoe.shift s' = RealtekPoe.shift s ∨
      (RealtekPoe.owed s.daemon.queue = [] ∧ RealtekPoe.shift s' = RealtekPoe.shift s - 12) := by
  unfold RealtekPoe.shift
  cases h with
  | own a d evs buffer owes =>
      left
      simp only [afterDaemon, buffer, owes, List.length_append]
      push_cast
      omega
  | answer reply id f rest first good =>
      left
      simp only [first, List.length_append, List.length_cons, Frame.length_bytes]
      push_cast
      omega
  | short n pos le short =>
      left
      simp only [Serial.read, List.length_append, List.length_take, List.length_drop]
      push_cast
      omega
  | frame n q evs pos le full owes =>
      simp only [Serial.read, List.length_append, List.length_take] at full
      simp only [afterDaemon, owes, Serial.read, List.length_append, List.length_take,
        List.length_drop]
      cases hwait : RealtekPoe.owed s.daemon.queue with
      | nil =>
          refine .inr ⟨rfl, ?_⟩
          simp only [List.length_nil]
          push_cast
          omega
      | cons idf more =>
          obtain ⟨c, rest, -, -, -, rfl⟩ := owed_eq_cons hwait
          left
          simp only [List.length_singleton]
          push_cast
          omega

/-! ## The last frame written -/

/-- If the daemon waits for a reply and the MCU owes one, the last one it owes is that reply. -/
def LastOwed (s : Serial) : Prop :=
  ∀ idf ∈ owed s.daemon.queue, ∀ last ∈ s.owed.getLast?, last = idf

/-- Writing what is newly owed. -/
theorem LastOwed.written {s : Serial} (h : LastOwed s) {line : Bytes} {d : Daemon}
    {evs : List LineEvent}
    (howes : owed d.queue = owed s.daemon.queue ++ writes evs ∨ owed d.queue = writes evs) :
    LastOwed (afterDaemon line s.owed (d, evs)) := by
  intro idf hidf last hlast
  have hlen := owed_length d.queue
  change last ∈ (s.owed ++ writes evs).getLast? at hlast
  change idf ∈ owed d.queue at hidf
  cases hnew : writes evs with
  | nil =>
      rw [hnew, List.append_nil] at hlast howes
      rcases howes with howes | howes
      · exact h idf (howes ▸ hidf) last hlast
      · rw [howes] at hidf
        cases hidf
  | cons new more =>
      -- the new frame is the only one waited for, and the last one owed
      have hall : owed d.queue = writes evs := by
        rcases howes with howes | howes
        · rw [howes, hnew, List.length_append, List.length_cons] at hlen
          have hbefore : owed s.daemon.queue = [] := List.eq_nil_of_length_eq_zero (by omega)
          rw [howes, hbefore, List.nil_append]
        · exact howes
      have hmore : more = [] := by
        rw [hall, hnew, List.length_cons] at hlen
        exact List.eq_nil_of_length_eq_zero (by omega)
      rw [hnew, hmore, List.getLast?_concat, Option.mem_some_iff] at hlast
      rw [hall, hnew, hmore, List.mem_singleton] at hidf
      rw [hidf, hlast]

end RealtekPoe
