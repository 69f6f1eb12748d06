import TfPack.RealtekPoe.Serial

set_option autoImplicit false

/-! # Resynchronisation

After the last disturbance the daemon and the MCU are in step again once the shift is zero: as many
reply bytes are then buffered, on the line and still to be answered as the daemon waits for. From
that moment on every frame written has its reply accepted (`resynchronises_of_shift_zero`). Nothing
in the daemon brings the shift to zero. It has no frame delimiter, never drops what it has buffered
and never waits for the line to fall silent, so that the shift keeps its remainder modulo twelve: a
single byte inserted on the line is enough for every later reply to be refused
(`inserted_byte_shifts_forever`).
-/

namespace RealtekPoe

open StepMachine EventTrace BlockStream

variable {strtof : List Char → Float32} {b : Boot}

/-! ## In every run -/

/-- A frame is answered, correctly or not. -/
theorem LastOwed.tail {s : Serial} (h : LastOwed s) {idf : Nat × Frame}
    {rest : List (Nat × Frame)} (first : s.owed = idf :: rest) (line : Bytes) :
    LastOwed ⟨s.daemon, line, rest⟩ := by
  intro waited hwaited last hlast
  refine h waited hwaited last ?_
  rw [first]
  cases rest with
  | nil => cases hlast
  | cons next more => simpa [List.getLast?_cons_cons] using hlast

/-- **Every step, disturbance or not, leaves the reply the daemon waits for the last one owed.** -/
theorem LastOwed.step {s s' : Serial} {a : SerialAction} {evs : List SerialEvent}
    (h : LastOwed s) (hs : (serialMachine strtof).step s a = some (s', evs)) : LastOwed s' := by
  cases hd : a.disturbs with
  | false =>
      cases serialMachine_step hs hd with
      | own a d evs buffer owes => exact h.written (.inl owes)
      | answer reply id f rest first good => exact h.tail first _
      | short n pos le short => exact h
      | frame n q evs pos le full owes => exact h.written (.inr owes)
  | true =>
      cases a with
      | daemon a => cases hd
      | answer reply => cases hd
      | deliver n => cases hd
      | lose i =>
          simp only [serialMachine, Option.ite_none_right_eq_some, Option.some.injEq,
            Prod.mk.injEq] at hs
          obtain ⟨-, rfl, -⟩ := hs
          exact h
      | insert i byte =>
          simp only [serialMachine, Option.ite_none_right_eq_some, Option.some.injEq,
            Prod.mk.injEq] at hs
          obtain ⟨-, rfl, -⟩ := hs
          exact h
      | alter i byte =>
          simp only [serialMachine, Option.ite_none_right_eq_some, Option.some.injEq,
            Prod.mk.injEq] at hs
          obtain ⟨-, rfl, -⟩ := hs
          exact h
      | misanswer bytes =>
          cases howed : s.owed with
          | nil => simp [serialMachine, howed] at hs
          | cons idf rest =>
              simp only [serialMachine, howed, Option.some.injEq, Prod.mk.injEq] at hs
              obtain ⟨rfl, -⟩ := hs
              exact h.tail howed _

theorem lastOwed_start (b : Boot) (strtof : List Char → Float32) : LastOwed (b.serial strtof) := by
  have hempty : LastOwed ⟨⟨b.config strtof, initQueue, []⟩, [], []⟩ := by
    intro idf hidf
    cases hidf
  exact hempty.written (.inl (owed_queueAll initQueue (poeInitialSetup (b.config strtof))))

theorem lastOwed_of_exec {vs : List (Visit Serial SerialAction SerialEvent)}
    {tr : List SerialEvent} {s : Serial}
    (h : Exec (serialMachine strtof) (b.serial strtof) vs tr s) : LastOwed s :=
  h.inv (fun s _ => LastOwed s) (lastOwed_start b strtof) (fun _ _ _ _ _ hI hs => hI.step hs)

/-! ## In step -/

/-- The daemon and the MCU are in step: nothing is on its way and the MCU owes what the daemon
waits for, or a frame of twelve bytes is being read for the one frame waited for. -/
inductive InStep (s : Serial) : Prop
  | idle (buffer : s.daemon.rx = []) (line : s.line = [])
      (owes : s.owed = owed s.daemon.queue)
  | reading (idf : Nat × Frame) (waits : owed s.daemon.queue = [idf]) (answered : s.owed = [])
      (bytes : s.daemon.rx.length + s.line.length = 12)

/-- The frame `idf` has been written, and nothing else is on its way. -/
structure Asked (idf : Nat × Frame) (s : Serial) : Prop where
  buffer : s.daemon.rx = []
  line : s.line = []
  waits : owed s.daemon.queue = [idf]
  owes : s.owed = [idf]

/-- The reply `r` to the frame `idf` is being read. -/
structure Replied (idf : Nat × Frame) (r : Frame) (s : Serial) : Prop where
  waits : owed s.daemon.queue = [idf]
  answered : s.owed = []
  good : repliesTo idf.2 r = true
  bytes : s.daemon.rx ++ s.line = r.bytes
  short : s.daemon.rx.length < 12

/-- While the daemon waits for a reply, its own steps write nothing. -/
theorem writes_of_waiting {q q' : Queue} {idf : Nat × Frame} {evs : List LineEvent}
    (hwait : owed q = [idf]) (howes : owed q' = owed q ++ writes evs) : writes evs = [] := by
  have hlen := owed_length q'
  rw [howes, hwait, List.length_append, List.length_singleton] at hlen
  exact List.eq_nil_of_length_eq_zero (by omega)

section Steps

variable {s s' : Serial} {a : SerialAction} {evs : List SerialEvent}

theorem InStep.shift_zero (h : InStep s) : shift s = 0 := by
  unfold shift
  cases h with
  | idle buffer line owes =>
      rw [buffer, line, owes]
      simp
  | reading idf waits answered bytes =>
      rw [waits, answered]
      simp only [List.length_nil, List.length_singleton]
      push_cast
      omega

/-- **With the shift zero the two are in step.** -/
theorem inStep_of_shift_zero (hlast : LastOwed s) (h : shift s = 0) : InStep s := by
  have hlen := owed_length s.daemon.queue
  unfold shift at h
  cases hwait : owed s.daemon.queue with
  | nil =>
      simp only [hwait, List.length_nil] at h
      refine .idle ?_ ?_ ?_
      · exact List.eq_nil_of_length_eq_zero (by omega)
      · exact List.eq_nil_of_length_eq_zero (by omega)
      · rw [hwait]
        exact List.eq_nil_of_length_eq_zero (by omega)
  | cons idf more =>
      obtain ⟨c, rest, -, -, -, rfl⟩ := owed_eq_cons hwait
      simp only [hwait, List.length_singleton] at h
      cases howed : s.owed with
      | nil =>
          rw [howed, List.length_nil] at h
          exact .reading idf hwait howed (by omega)
      | cons first rest =>
          -- the MCU owes one answer, and it is the one waited for
          simp only [howed, List.length_cons] at h
          push_cast at h
          have hrest : rest = [] := List.eq_nil_of_length_eq_zero (by omega)
          have hfirst : first = idf :=
            hlast idf (by rw [hwait]; exact List.mem_singleton_self idf) first (by
              rw [howed, hrest]
              rfl)
          refine .idle ?_ ?_ ?_
          · exact List.eq_nil_of_length_eq_zero (by omega)
          · exact List.eq_nil_of_length_eq_zero (by omega)
          · rw [hwait, howed, hrest, hfirst]

/-- A frame written in step is the only thing on its way. -/
theorem asked_of_written {line : Bytes} {d : Daemon} {es : List LineEvent} {id : Nat} {f : Frame}
    (hbuf : d.rx = []) (hline : line = []) (howes : owed d.queue = writes es)
    (htx : .tx id f ∈ es) : Asked (id, f) (afterDaemon line [] (d, es)) := by
  have hmem : (id, f) ∈ writes es := List.mem_filterMap.mpr ⟨_, htx, rfl⟩
  have hlen := owed_length d.queue
  have honly : writes es = [(id, f)] := by
    rw [howes] at hlen
    cases hw : writes es with
    | nil => simp [hw] at hmem
    | cons idf more =>
        rw [hw, List.length_cons] at hlen
        have hmore : more = [] := List.eq_nil_of_length_eq_zero (by omega)
        rw [hw, hmore, List.mem_singleton] at hmem
        rw [hmore, hmem]
  refine ⟨hbuf, hline, ?_, ?_⟩
  · show owed d.queue = [(id, f)]
    rw [howes, honly]
  · show [] ++ writes es = [(id, f)]
    rw [honly]
    rfl

/-- A frame is written by the step. -/
def sends (evs : List SerialEvent) (id : Nat) (f : Frame) : Prop :=
  SerialEvent.daemon (.tx id f) ∈ evs

/-- **A step without disturbance keeps the two in step, and the frame it writes, if any, is then
the only thing on its way.** -/
theorem InStep.step (h : InStep s) (hs : SerialStep s a s' evs) :
    InStep s' ∧ ∀ id f, sends evs id f → Asked (id, f) s' := by
  cases h with
  | idle buffer line owes =>
      cases hs with
      | own a d es hbuf howes =>
          have hall : s.owed ++ writes es = owed d.queue := by rw [owes, howes]
          refine ⟨.idle (hbuf.trans buffer) line hall, ?_⟩
          intro id f hsend
          have htx : LineEvent.tx id f ∈ es := by simpa [sends] using hsend
          have hbefore : s.owed = [] := by
            -- nothing was waited for, or there would now be two frames to answer
            have hlen := owed_length d.queue
            have hmem : (id, f) ∈ writes es := List.mem_filterMap.mpr ⟨_, htx, rfl⟩
            have hpos := List.length_pos_of_mem hmem
            rw [← hall, List.length_append] at hlen
            exact List.eq_nil_of_length_eq_zero (by omega)
          have hnew : owed d.queue = writes es := by rw [← hall, hbefore, List.nil_append]
          rw [hbefore]
          exact asked_of_written (hbuf.trans buffer) line hnew htx
      | answer reply id f rest first good =>
          have hwait : owed s.daemon.queue = (id, f) :: rest := owes.symm.trans first
          obtain ⟨c, tail, -, -, -, rfl⟩ := owed_eq_cons hwait
          refine ⟨.reading (id, f) hwait rfl ?_, ?_⟩
          · show s.daemon.rx.length + (s.line ++ reply.bytes).length = 12
            rw [buffer, line, List.nil_append, Frame.length_bytes]
            rfl
          · intro id' f' hsend
            simp [sends] at hsend
      | short n pos le _ =>
          rw [line, List.length_nil] at le
          omega
      | frame n q es pos le full howes =>
          rw [line, List.length_nil] at le
          omega
  | reading idf waits answered bytes =>
      cases hs with
      | own a d es hbuf howes =>
          have hnone := writes_of_waiting waits howes
          refine ⟨.reading idf ?_ ?_ ?_, ?_⟩
          · show owed d.queue = [idf]
            rw [howes, waits, hnone, List.append_nil]
          · show s.owed ++ writes es = []
            rw [answered, hnone, List.append_nil]
          · show d.rx.length + s.line.length = 12
            rw [hbuf, bytes]
          · intro id f hsend
            have htx : LineEvent.tx id f ∈ es := by simpa [sends] using hsend
            have hmem : (id, f) ∈ writes es := List.mem_filterMap.mpr ⟨_, htx, rfl⟩
            rw [hnone] at hmem
            cases hmem
      | answer reply id f rest first good =>
          rw [answered] at first
          cases first
      | short n pos le _ =>
          refine ⟨.reading idf waits answered ?_, ?_⟩
          · show (s.read n).length + (s.line.drop n).length = 12
            rw [Serial.read, List.length_append, List.length_take, List.length_drop]
            omega
          · intro id f hsend
            cases hsend
      | frame n q es pos le full howes =>
          rw [Serial.read, List.length_append, List.length_take] at full
          have hbuf : (s.read n).drop 12 = [] := by
            apply List.drop_eq_nil_of_le
            rw [Serial.read, List.length_append, List.length_take]
            omega
          have hline : s.line.drop n = [] := List.drop_eq_nil_of_le (by omega)
          rw [answered]
          refine ⟨.idle hbuf hline ?_, ?_⟩
          · show [] ++ writes es = owed q
            rw [howes, List.nil_append]
          · intro id f hsend
            have htx : LineEvent.tx id f ∈ es := by
              unfold sends acceptance at hsend
              split at hsend
              · simpa using hsend
              · split at hsend <;> simpa using hsend
            exact asked_of_written hbuf hline howes htx

/-! ## The way of a reply -/

/-- A frame that has been written stays the only thing on its way until it is answered. -/
theorem Asked.step {idf : Nat × Frame} (h : Asked idf s) (hs : SerialStep s a s' evs) :
    (a.isAnswer = false ∧ Asked idf s') ∨ ∃ r, Replied idf r s' := by
  cases hs with
  | own a d es hbuf howes =>
      have hnone := writes_of_waiting h.waits howes
      refine .inl ⟨rfl, hbuf.trans h.buffer, h.line, ?_, ?_⟩
      · show owed d.queue = [idf]
        rw [howes, h.waits, hnone, List.append_nil]
      · show s.owed ++ writes es = [idf]
        rw [h.owes, hnone, List.append_nil]
  | answer reply id f rest first good =>
      rw [h.owes, List.cons.injEq] at first
      obtain ⟨rfl, rfl⟩ := first
      refine .inr ⟨reply, h.waits, rfl, good, ?_, ?_⟩
      · show s.daemon.rx ++ (s.line ++ reply.bytes) = reply.bytes
        rw [h.buffer, h.line]
        rfl
      · show s.daemon.rx.length < 12
        rw [h.buffer]
        decide
  | short n pos le _ =>
      rw [h.line, List.length_nil] at le
      omega
  | frame n q es pos le full howes =>
      rw [h.line, List.length_nil] at le
      omega

/-- The frame read from the bytes of a frame. -/
theorem frameOf_bytes (f : Frame) : frameOf f.bytes = f := by
  funext i
  rw [frameOf, Frame.bytes, List.getD_eq_getElem?_getD, List.getElem?_ofFn, dif_pos i.isLt]
  rfl

/-- A reply is read byte by byte, and accepted when it is complete. -/
theorem Replied.step {idf : Nat × Frame} {r : Frame} (h : Replied idf r s)
    (hs : SerialStep s a s' evs) :
    (Replied idf r s' ∧ s'.line.length ≤ s.line.length ∧
      (a.isDelivery = true → s'.line.length < s.line.length)) ∨ .accepted idf.1 ∈ evs := by
  cases hs with
  | own a d es hbuf howes =>
      have hnone := writes_of_waiting h.waits howes
      refine .inl ⟨⟨?_, ?_, h.good, ?_, ?_⟩, Nat.le_refl _, fun hdel => by cases hdel⟩
      · show owed d.queue = [idf]
        rw [howes, h.waits, hnone, List.append_nil]
      · show s.owed ++ writes es = []
        rw [h.answered, hnone, List.append_nil]
      · show d.rx ++ s.line = r.bytes
        rw [hbuf, h.bytes]
      · show d.rx.length < 12
        rw [hbuf]
        exact h.short
  | answer reply id f rest first good =>
      rw [h.answered] at first
      cases first
  | short n pos le short =>
      refine .inl ⟨⟨h.waits, h.answered, h.good, ?_, short⟩, ?_, fun _ => ?_⟩
      · show s.daemon.rx ++ s.line.take n ++ s.line.drop n = r.bytes
        rw [List.append_assoc, List.take_append_drop, h.bytes]
      · show (s.line.drop n).length ≤ s.line.length
        rw [List.length_drop]
        omega
      · show (s.line.drop n).length < s.line.length
        rw [List.length_drop]
        omega
  | frame n q es pos le full howes =>
      right
      -- the read takes all that is left of the reply
      have hlen : s.daemon.rx.length + s.line.length = 12 := by
        rw [← List.length_append, h.bytes, Frame.length_bytes]
      have hall : s.line.take n = s.line := by
        apply List.take_of_length_le
        rw [Serial.read, List.length_append, List.length_take] at full
        omega
      obtain ⟨c, rest, hq, -, rfl, -⟩ := owed_eq_cons h.waits
      have hframe : frameOf (s.daemon.rx ++ s.line.take n) = r := by
        rw [hall, h.bytes, frameOf_bytes]
      have hacc : acceptance s.daemon (s.line.take n) = [.accepted c.id] := by
        rw [acceptance, hq]
        refine if_pos ⟨full, ?_⟩
        rw [hframe]
        exact h.good
      rw [hacc]
      exact List.mem_cons_self

end Steps

/-! ## Behaviours -/

section Behaviours

variable (ρ : Behaviour (serialMachine strtof) (b.serial strtof))

/-- From step `T` on no byte is lost, inserted or altered, the MCU answers every frame it is sent
with a correct reply, and the bytes on the line are read. -/
structure CorrectFrom (T : Nat) : Prop where
  undisturbed : ∀ i, T ≤ i → (ρ.act i).disturbs = false
  answers : ∀ i, T ≤ i → (ρ.state i).owed ≠ [] → ∃ j, i ≤ j ∧ (ρ.act j).isAnswer = true
  delivers : ∀ i, T ≤ i → (ρ.state i).line ≠ [] → ∃ j, i ≤ j ∧ (ρ.act j).isDelivery = true

/-- An answer is a correct reply. -/
def SerialEvent.isAnswered : SerialEvent → Bool
  | .answered _ _ => true
  | _ => false

/-- How many correct replies the MCU has sent before step `i`. -/
def replies (i : Nat) : Nat := (ρ.trace i).countP SerialEvent.isAnswered

/-- Every frame written after the first `n` correct replies has its reply accepted. -/
def AcceptedAfter (n : Nat) : Prop :=
  ∀ i id f, n ≤ replies ρ i → sends (ρ.evs i) id f → ∃ j, i < j ∧ .accepted id ∈ ρ.evs j

variable {ρ} {T : Nat}

theorem CorrectFrom.step (h : CorrectFrom ρ T) {i : Nat} (hi : T ≤ i) :
    SerialStep (ρ.state i) (ρ.act i) (ρ.state (i + 1)) (ρ.evs i) :=
  serialMachine_step (ρ.step i) (h.undisturbed i hi)

/-- A reply that is being read is accepted: by induction on what is left of it on the line. -/
theorem CorrectFrom.accepted_of_replied (h : CorrectFrom ρ T) {idf : Nat × Frame} {r : Frame}
    {i : Nat} (hi : T ≤ i) (hr : Replied idf r (ρ.state i)) :
    ∃ j, i ≤ j ∧ .accepted idf.1 ∈ ρ.evs j := by
  induction hm : (ρ.state i).line.length using Nat.strong_induction_on generalizing i with
  | _ m ih =>
      by_contra hnever
      have hstays : ∀ j, i ≤ j →
          (Replied idf r (ρ.state j) ∧ (ρ.state j).line.length ≤ m) →
          (Replied idf r (ρ.state (j + 1)) ∧
            (ρ.state (j + 1)).line.length ≤ (ρ.state j).line.length ∧
            ((ρ.act j).isDelivery = true →
              (ρ.state (j + 1)).line.length < (ρ.state j).line.length)) := by
        intro j hj hrj
        rcases hrj.1.step (h.step (hi.trans hj)) with hnext | hacc
        · exact hnext
        · exact absurd ⟨j, hj, hacc⟩ hnever
      -- the line is not empty, so there is a read to come, and it takes something off the line
      have hline : (ρ.state i).line ≠ [] := by
        intro hnil
        have hbytes := congrArg List.length hr.bytes
        rw [hnil, List.append_nil, Frame.length_bytes] at hbytes
        have := hr.short
        omega
      obtain ⟨j, hj, ⟨hrj, hlej⟩, hdel⟩ := ρ.until_next
        (fun s => Replied idf r s ∧ s.line.length ≤ m) SerialAction.isDelivery
        ⟨hr, hm.le⟩
        (fun j hj hP _ => ⟨(hstays j hj hP).1, (hstays j hj hP).2.1.trans hP.2⟩)
        (h.delivers i hi hline)
      obtain ⟨hnext, -, hless⟩ := hstays j hj ⟨hrj, hlej⟩
      obtain ⟨k, hk, hacc⟩ := ih _ ((hless hdel).trans_le hlej)
        (hi.trans (hj.trans (Nat.le_succ j))) hnext rfl
      exact hnever ⟨k, by omega, hacc⟩

/-- A frame that has been written in step has its reply accepted. -/
theorem CorrectFrom.accepted_of_asked (h : CorrectFrom ρ T) {idf : Nat × Frame} {i : Nat}
    (hi : T ≤ i) (ha : Asked idf (ρ.state i)) : ∃ j, i ≤ j ∧ .accepted idf.1 ∈ ρ.evs j := by
  by_contra hnever
  have hstays : ∀ j, i ≤ j → Asked idf (ρ.state j) →
      (ρ.act j).isAnswer = false ∧ Asked idf (ρ.state (j + 1)) := by
    intro j hj haj
    rcases haj.step (h.step (hi.trans hj)) with hnext | ⟨r, hr⟩
    · exact hnext
    · obtain ⟨k, hk, hacc⟩ := h.accepted_of_replied (hi.trans (hj.trans (Nat.le_succ j))) hr
      exact absurd ⟨k, by omega, hacc⟩ hnever
  have howed : (ρ.state i).owed ≠ [] := by
    rw [ha.owes]
    exact List.cons_ne_nil _ _
  obtain ⟨j, hj, haj, hans⟩ := ρ.until_next (Asked idf) SerialAction.isAnswer ha
    (fun j hj haj _ => (hstays j hj haj).2) (h.answers i hi howed)
  have hnot := (hstays j hj haj).1
  rw [hans] at hnot
  cases hnot

/-- **Once the shift is zero after the last disturbance it stays so, and there is a number `n` such
that every frame written after the first `n` correct replies has its reply accepted; without a
disturbance the shift keeps its remainder modulo twelve.** -/
theorem resynchronises_of_shift_zero (h : CorrectFrom ρ T) :
    (∀ i, T ≤ i → shift (ρ.state i) % 12 = shift (ρ.state T) % 12) ∧
      ∀ t, T ≤ t → shift (ρ.state t) = 0 →
        (∀ i, t ≤ i → shift (ρ.state i) = 0) ∧ ∃ n, AcceptedAfter ρ n := by
  constructor
  · refine ρ.keeps (fun s => shift s % 12 = shift (ρ.state T) % 12) rfl ?_
    intro i hi hmod
    rcases (h.step hi).shift with hsame | ⟨-, hless⟩
    · rw [hsame, hmod]
    · rw [hless]
      omega
  · intro t ht hzero
    have hlast : LastOwed (ρ.state t) := by
      obtain ⟨vs, hvs⟩ := ρ.exec t
      exact lastOwed_of_exec hvs
    have hin : ∀ i, t ≤ i → InStep (ρ.state i) :=
      ρ.keeps InStep (inStep_of_shift_zero hlast hzero)
        (fun i hi hI => (hI.step (h.step (ht.trans hi))).1)
    refine ⟨fun i hi => (hin i hi).shift_zero, replies ρ t + 1, ?_⟩
    intro i id f hn hsend
    have hi : t ≤ i := by
      by_contra hlt
      have hmono := ρ.countP_trace_mono SerialEvent.isAnswered (Nat.le_of_not_le hlt)
      unfold replies at hn
      omega
    have hasked := ((hin i hi).step (h.step (ht.trans hi))).2 id f hsend
    obtain ⟨j, hj, hacc⟩ := h.accepted_of_asked (ht.trans (hi.trans (Nat.le_succ i))) hasked
    exact ⟨j, hj, hacc⟩

end Behaviours

/-! ## A query over and over -/

/-- The daemon with nothing to do after `k` commands, and the bytes `r` left in its buffer. -/
def idle (c : Config) (r : Bytes) (k : Nat) : Serial :=
  ⟨⟨c, ⟨[], UInt8.ofNat k, false, k⟩, r⟩, [], []⟩

/-- The next command, a query of the system information. -/
def query (k : Nat) : Cmd := ⟨k, buildFrame [0x40] (UInt8.ofNat k + 1), 0⟩

/-- The query has been written, and the reply bytes `line` are on the line. -/
def queried (c : Config) (r : Bytes) (k : Nat) (line : Bytes) (owed : List (Nat × Frame)) :
    Serial :=
  ⟨⟨c, ⟨[query k], UInt8.ofNat k + 1, false, k + 1⟩, r⟩, line, owed⟩

/-- A correct reply to the query; its last byte is `0x41` whatever the sequence number. -/
def statusReply (seq : UInt8) : Frame :=
  fun i => [0x40, seq, -seq, 1, 0, 0, 0, 0, 0, 0, 0, 0x41].getD i 0

theorem repliesTo_statusReply (k : Nat) :
    repliesTo (query k).cmd (statusReply (UInt8.ofNat k + 1)) = true := by
  have hsum : (statusReply (UInt8.ofNat k + 1)).sum = 0x41 := by
    generalize UInt8.ofNat k + 1 = seq
    show 0 + 0x40 + seq + -seq + 1 + 0 + 0 + 0 + 0 + 0 + 0 + 0 = 0x41
    grind
  have hok : (statusReply (UInt8.ofNat k + 1)).sumOk = true := by
    rw [Frame.sumOk, hsum]
    rfl
  have hrej : (statusReply (UInt8.ofNat k + 1)).rejects = false := by
    show ((0x40 : UInt8) &&& 0xf0 == 0xf0) = false
    decide
  rw [repliesTo, correctReply, hok, hrej]
  simp [query, statusReply]

/-- The states of the daemon while it sends one query after the other, from the `k`-th on. -/
def roundState (c : Config) (r : Bytes) (k i : Nat) : Serial :=
  let n := k + i / 3
  match i % 3 with
  | 0 => idle c r n
  | 1 => queried c r n [] [(n, (query n).cmd)]
  | _ => queried c r n (statusReply (UInt8.ofNat n + 1)).bytes []

/-- A client asks for the query, the MCU answers it, the answer is read. -/
def roundAct (k i : Nat) : SerialAction :=
  match i % 3 with
  | 0 => .daemon (.request (.sendframe (some ['4', '0'])))
  | 1 => .answer (statusReply (UInt8.ofNat (k + i / 3) + 1))
  | _ => .deliver 12

theorem query_step (strtof : List Char → Float32) (c : Config) (r : Bytes) (k : Nat) :
    (serialMachine strtof).step (idle c r k)
        (.daemon (.request (.sendframe (some ['4', '0'])))) =
      some (queried c r k [] [(k, (query k).cmd)],
        [.daemon (.queued k), .daemon (.tx k (query k).cmd)]) := by
  have hbytes : ubusPoeSendframeCb (some ['4', '0']) = [[0x40]] := by decide
  simp only [serialMachine, daemonMachine, ubusRequest, hbytes]
  rfl

theorem answer_step (strtof : List Char → Float32) (c : Config) (r : Bytes) (k : Nat) :
    (serialMachine strtof).step (queried c r k [] [(k, (query k).cmd)])
        (.answer (statusReply (UInt8.ofNat k + 1))) =
      some (queried c r k (statusReply (UInt8.ofNat k + 1)).bytes [],
        [.answered k (statusReply (UInt8.ofNat k + 1))]) := by
  simp only [serialMachine, queried, repliesTo_statusReply, if_true]
  rfl

/-- A frame that is no rejection takes the last command off the queue. -/
theorem poeStreamMsg_last {q : Queue} {c : Cmd} (hq : q.cmd_pending = [c]) {f : Frame}
    (hrej : f.rejects = false) :
    ∃ evs, writes evs = [] ∧ poeStreamMsg q f = ({ q with cmd_pending := [] }, evs) := by
  have hconsume : (poeStreamMsg q f).1 = { q with cmd_pending := [] } := by
    simp only [poeStreamMsg, poeReplyConsume, hq, hrej]
    split <;> rfl
  have howes : owed (poeStreamMsg q f).1 = writes (poeStreamMsg q f).2 :=
    (poeStreamMsg_step q f).owes_rx
  have hempty : owed (poeStreamMsg q f).1 = [] := by
    rw [hconsume]
    exact owed_empty rfl
  exact ⟨_, howes.symm.trans hempty, Prod.ext hconsume rfl⟩

/-- A read that completes such a frame, for the query. -/
theorem deliver_step (strtof : List Char → Float32) (c : Config) {r : Bytes} {k : Nat}
    {line : Bytes} (hline : line.length = 12) (hrest : (r ++ line).drop 12 = r)
    (hrej : (frameOf (r ++ line)).rejects = false) :
    ∃ es : List LineEvent, (serialMachine strtof).step (queried c r k line []) (.deliver 12) =
      some (idle c r (k + 1),
        acceptance (queried c r k line []).daemon line ++ es.map .daemon) := by
  have hall : line.take 12 = line := List.take_of_length_le hline.le
  have hnone : line.drop 12 = [] := List.drop_eq_nil_of_le hline.le
  have hseq : UInt8.ofNat (k + 1) = UInt8.ofNat k + 1 := UInt8.ofNat_add k 1
  have hfull : ¬ (r ++ line).length < 12 := by
    rw [List.length_append]
    omega
  obtain ⟨es, hwrites, hmsg⟩ :=
    poeStreamMsg_last (q := (queried c r k line []).daemon.queue) rfl hrej
  have hcb : poeStreamMsgCb (queried c r k line []).daemon line =
      (⟨c, ⟨[], UInt8.ofNat k + 1, false, k + 1⟩, r⟩, es) := by
    have hcall := poeStreamMsgCb_full (d := (queried c r k line []).daemon) hfull
    rw [hcall]
    show (Daemon.mk c (poeStreamMsg (queried c r k line []).daemon.queue (frameOf (r ++ line))).1
        ((r ++ line).drop 12), _) = _
    rw [hrest]
    have hevs : (poeStreamMsg (queried c r k line []).daemon.queue (frameOf (r ++ line))).2 = es :=
      congrArg Prod.snd hmsg
    exact Prod.ext (congrArg (fun m => Daemon.mk c m.1 r) hmsg) hevs
  refine ⟨es, ?_⟩
  have hready : ¬ (12 = 0 ∨ line.length < 12) := by omega
  show (if 12 = 0 ∨ line.length < 12 then none else
    some (afterDaemon (line.drop 12) []
        (poeStreamMsgCb (queried c r k line []).daemon (line.take 12)),
      acceptance (queried c r k line []).daemon (line.take 12) ++
        (poeStreamMsgCb (queried c r k line []).daemon (line.take 12)).2.map .daemon)) = _
  rw [if_neg hready, hall, hcb, hnone, idle, hseq]
  simp only [afterDaemon, hwrites, List.append_nil]

/-- What is left in the buffer does not change from round to round: nothing, or one byte. -/
structure Residue (r : Bytes) : Prop where
  kept : ∀ seq, (r ++ (statusReply seq).bytes).drop 12 = r
  notRejected : ∀ seq, (frameOf (r ++ (statusReply seq).bytes)).rejects = false

theorem residue_nil : Residue [] where
  kept seq := List.drop_eq_nil_of_le (by simp)
  notRejected seq := by
    show ((0x40 : UInt8) &&& 0xf0 == 0xf0) = false
    decide

theorem residue_byte : Residue [0x41] where
  kept seq := rfl
  notRejected seq := by
    show ((0x41 : UInt8) &&& 0xf0 == 0xf0) = false
    decide

/-- The three steps of a round. -/
theorem round_step (strtof : List Char → Float32) (c : Config) {r : Bytes} (hr : Residue r)
    (k i : Nat) : ((serialMachine strtof).step (roundState c r k i) (roundAct k i)).map Prod.fst =
      some (roundState c r k (i + 1)) := by
  have hthree : i % 3 = 0 ∨ i % 3 = 1 ∨ i % 3 = 2 := by omega
  rcases hthree with h | h | h
  · have hnext : (i + 1) % 3 = 1 ∧ (i + 1) / 3 = i / 3 := by omega
    simp only [roundState, roundAct, h, hnext, query_step, Option.map_some]
  · have hnext : (i + 1) % 3 = 2 ∧ (i + 1) / 3 = i / 3 := by omega
    simp only [roundState, roundAct, h, hnext, answer_step, Option.map_some]
  · have hnext : (i + 1) % 3 = 0 ∧ (i + 1) / 3 = i / 3 + 1 := by omega
    have hline : (statusReply (UInt8.ofNat (k + i / 3) + 1)).bytes.length = 12 := by simp
    obtain ⟨es, hstep⟩ := deliver_step strtof c (k := k + i / 3) hline (hr.kept _)
      (hr.notRejected _)
    simp only [roundState, roundAct, h, hnext, hstep, Option.map_some]
    rfl

/-- A start without configuration files. -/
def plainBoot : Boot := ⟨[], [], none⟩

/-- The MCU answers the seven commands of the setup. -/
def setupAnswers : List SerialAction :=
  ([0x40, 0x10, 0x02, 0x18, 0x15, 0x11, 0x12].zipIdx 1).flatMap
    (fun p => [.answer (buildFrame [p.1] (UInt8.ofNat p.2)), .deliver 12])

/-- `idle`, whatever the configuration. -/
def Serial.isIdle (s : Serial) (r : Bytes) (k : Nat) : Bool :=
  s.daemon.queue.cmd_pending.isEmpty && s.daemon.queue.cmd_seq == UInt8.ofNat k &&
    s.daemon.queue.mcu_error_timeout == false && s.daemon.queue.queued == k &&
    s.daemon.rx == r && s.line == [] && s.owed == []

theorem eq_idle {s : Serial} {r : Bytes} {k : Nat} (h : s.isIdle r k = true) :
    s = idle s.daemon.config r k := by
  obtain ⟨⟨c, ⟨pending, seq, timer, n⟩, rx⟩, line, owed⟩ := s
  simp only [Serial.isIdle, Bool.and_eq_true, beq_iff_eq, List.isEmpty_iff] at h
  obtain ⟨⟨⟨⟨⟨⟨rfl, rfl⟩, rfl⟩, rfl⟩, rfl⟩, rfl⟩, rfl⟩ := h
  rfl

/-- After the steps `as` the daemon sends one query after the other. -/
theorem exists_rounds {r : Bytes} (hr : Residue r) (as : List SerialAction)
    (h : ((serialMachine fun _ => 0).run (plainBoot.serial fun _ => 0) as).map
      (fun p => p.1.isIdle r 7) = some true) :
    ∃ (ρ : Behaviour (serialMachine fun _ => 0) (plainBoot.serial fun _ => 0)) (c : Config)
      (T : Nat), ∀ i, ρ.state (T + i) = roundState c r 7 i ∧ ρ.act (T + i) = roundAct 7 i := by
  obtain ⟨⟨s, tr⟩, hrun, hs⟩ := Option.map_eq_some_iff.mp h
  obtain ⟨vs, hvs, -⟩ := Exec.of_run hrun
  have hstart : s = roundState s.daemon.config r 7 0 := eq_idle hs
  rw [hstart] at hvs
  obtain ⟨ρ, hρ⟩ := Behaviour.exists_append hvs (Behaviour.ofStates _ _ (round_step _ _ hr 7))
  exact ⟨ρ, s.daemon.config, vs.length, fun i => ⟨(hρ i).1, (hρ i).2.1⟩⟩

theorem setup_idle : ((serialMachine fun _ => 0).run (plainBoot.serial fun _ => 0)
    setupAnswers).map (fun p => p.1.isIdle [] 7) = some true := by
  decide +kernel

/-- A byte is inserted when nothing else is on the line. -/
theorem setup_byte_idle : ((serialMachine fun _ => 0).run (plainBoot.serial fun _ => 0)
    (setupAnswers ++ [.insert 0 0x41, .deliver 1])).map (fun p => p.1.isIdle [0x41] 7) =
      some true := by
  decide +kernel

/-- The rounds are undisturbed, and no answer and no read is ever the last one. -/
theorem correctFrom_rounds {ρ : Behaviour (serialMachine strtof) (b.serial strtof)} {k T : Nat}
    (h : ∀ i, ρ.act (T + i) = roundAct k i) : CorrectFrom ρ T := by
  have hact : ∀ i, T ≤ i → ρ.act i = roundAct k (i - T) := by
    intro i hi
    rw [← h, Nat.add_sub_cancel' hi]
  have hround : ∀ i m, m < 3 → T ≤ i → ∃ j, i ≤ j ∧ T ≤ j ∧ (j - T) % 3 = m := by
    intro i m hm hi
    exact ⟨T + (3 * (i - T + 1) + m), by omega, by omega, by omega⟩
  refine ⟨?_, ?_, ?_⟩
  · intro i hi
    rw [hact i hi, roundAct]
    split <;> rfl
  · intro i hi _
    obtain ⟨j, hij, hTj, hmod⟩ := hround i 1 (by decide) hi
    refine ⟨j, hij, ?_⟩
    rw [hact j hTj, roundAct, hmod]
    rfl
  · intro i hi _
    obtain ⟨j, hij, hTj, hmod⟩ := hround i 2 (by decide) hi
    refine ⟨j, hij, ?_⟩
    rw [hact j hTj, roundAct, hmod]
    rfl

/-- One query after the other, on a line without disturbance: every reply is accepted. -/
theorem resynchronises_of_shift_zero_queries :
    ∃ (ρ : Behaviour (serialMachine fun _ => 0) (plainBoot.serial fun _ => 0)) (T : Nat),
      CorrectFrom ρ T ∧ shift (ρ.state T) = 0 ∧ ∃ n, AcceptedAfter ρ n := by
  obtain ⟨ρ, c, T, hρ⟩ := exists_rounds residue_nil setupAnswers setup_idle
  have hcorrect : CorrectFrom ρ T := correctFrom_rounds (fun i => (hρ i).2)
  have hzero : shift (ρ.state T) = 0 := by
    have hstart := (hρ 0).1
    rw [Nat.add_zero] at hstart
    rw [hstart]
    rfl
  have hresync := (resynchronises_of_shift_zero hcorrect).2 T (Nat.le_refl T) hzero
  exact ⟨ρ, T, hcorrect, hzero, hresync.2⟩

/-- With the byte in the buffer, the frame read for the query has another id. -/
theorem acceptance_shifted (c : Config) (k : Nat) (line : Bytes) (owed : List (Nat × Frame)) :
    acceptance (queried c [0x41] k line owed).daemon line = [] := by
  refine if_neg ?_
  rintro ⟨-, hgood⟩
  simp only [repliesTo, correctReply, Bool.and_eq_true, beq_iff_eq] at hgood
  have hid : (0x41 : UInt8) = (query k).cmd 0 := hgood.1.1.2
  have hcmd : (query k).cmd 0 = 0x40 := by simp [query]
  rw [hcmd] at hid
  exact absurd hid (by decide)

/-- After one inserted byte no reply is accepted any more. -/
theorem inserted_byte_shifts_forever : ¬ ∀ (strtof : List Char → Float32) (b : Boot)
    (ρ : Behaviour (serialMachine strtof) (b.serial strtof)) (T : Nat),
      CorrectFrom ρ T → ∃ n, AcceptedAfter ρ n := by
  intro h
  obtain ⟨ρ, c, T, hρ⟩ := exists_rounds residue_byte _ setup_byte_idle
  obtain ⟨n, hn⟩ := h _ _ ρ T (correctFrom_rounds (fun i => (hρ i).2))
  -- the events of the three steps of a round
  have hquery : ∀ m, ρ.evs (T + 3 * m) =
      [.daemon (.queued (7 + m)), .daemon (.tx (7 + m) (query (7 + m)).cmd)] := by
    intro m
    have hstep := ρ.step (T + 3 * m)
    rw [(hρ (3 * m)).1, (hρ (3 * m)).2] at hstep
    have hdiv : 3 * m % 3 = 0 ∧ 3 * m / 3 = m := by omega
    simp only [roundState, roundAct, hdiv, query_step, Option.some.injEq, Prod.mk.injEq] at hstep
    exact hstep.2.symm
  have hanswer : ∀ m, ρ.evs (T + (3 * m + 1)) =
      [.answered (7 + m) (statusReply (UInt8.ofNat (7 + m) + 1))] := by
    intro m
    have hstep := ρ.step (T + (3 * m + 1))
    rw [(hρ (3 * m + 1)).1, (hρ (3 * m + 1)).2] at hstep
    have hdiv : (3 * m + 1) % 3 = 1 ∧ (3 * m + 1) / 3 = m := by omega
    simp only [roundState, roundAct, hdiv, answer_step, Option.some.injEq, Prod.mk.injEq] at hstep
    exact hstep.2.symm
  have hdeliver : ∀ m id, SerialEvent.accepted id ∉ ρ.evs (T + (3 * m + 2)) := by
    intro m id hmem
    have hstep := ρ.step (T + (3 * m + 2))
    rw [(hρ (3 * m + 2)).1, (hρ (3 * m + 2)).2] at hstep
    have hdiv : (3 * m + 2) % 3 = 2 ∧ (3 * m + 2) / 3 = m := by omega
    have hline : (statusReply (UInt8.ofNat (7 + m) + 1)).bytes.length = 12 := by simp
    obtain ⟨es, hd⟩ := deliver_step (fun _ => 0) c (k := 7 + m) hline (residue_byte.kept _)
      (residue_byte.notRejected _)
    simp only [roundState, roundAct, hdiv, hd, Option.some.injEq, Prod.mk.injEq] at hstep
    rw [← hstep.2, acceptance_shifted, List.nil_append, List.mem_map] at hmem
    obtain ⟨e, -, he⟩ := hmem
    cases he
  -- a reply a round
  have hcount : ∀ m, m ≤ replies ρ (T + 3 * m) := by
    intro m
    induction m with
    | zero => exact Nat.zero_le _
    | succ m ih =>
        have hnext : ρ.trace (T + 3 * m + 2) =
            ρ.trace (T + 3 * m) ++ ρ.evs (T + 3 * m) ++ ρ.evs (T + (3 * m + 1)) := rfl
        have hmono := ρ.countP_trace_mono SerialEvent.isAnswered
          (show T + 3 * m + 2 ≤ T + 3 * (m + 1) by omega)
        rw [hnext, hanswer, List.countP_append, List.countP_append] at hmono
        have hone : [SerialEvent.answered (7 + m) (statusReply (UInt8.ofNat (7 + m) + 1))].countP
            SerialEvent.isAnswered = 1 := rfl
        unfold replies at ih ⊢
        omega
  have hsend : sends (ρ.evs (T + 3 * n)) (7 + n) (query (7 + n)).cmd := by
    rw [sends, hquery]
    simp
  obtain ⟨j, hj, hacc⟩ := hn _ _ _ (hcount n) hsend
  obtain ⟨m, rfl⟩ : ∃ m, j = T + m := ⟨j - T, by omega⟩
  have hthree : m = 3 * (m / 3) ∨ m = 3 * (m / 3) + 1 ∨ m = 3 * (m / 3) + 2 := by omega
  rcases hthree with hm | hm | hm
  · rw [hm, hquery] at hacc
    simp at hacc
  · rw [hm, hanswer] at hacc
    simp at hacc
  · rw [hm] at hacc
    exact hdeliver _ _ hacc

end RealtekPoe
