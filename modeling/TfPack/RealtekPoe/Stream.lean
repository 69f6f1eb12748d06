import TfPack.Lib.BlockStream
import TfPack.RealtekPoe.Outstanding
import TfPack.RealtekPoe.Daemon

set_option autoImplicit false

/-! # How the reply stream is cut into reads

`poe_stream_msg_cb` is called once for every read of the serial line, with everything that is in
the buffer, and consumes one frame. A read that completes two frames therefore leaves the second
one in the buffer until more bytes arrive, by then the reply to an earlier command. In every run
the frames consumed are the first so many blocks of twelve bytes of the stream
(`reading_of_exec`); they are all of them, whatever the cut, exactly when the reads keep up with
the blocks (`frames_eq_blocks_iff`).
-/

namespace RealtekPoe

open StepMachine EventTrace BlockStream

/-! ## Frames and reads -/

/-- The frame an event hands to `poe_reply_consume`. -/
def LineEvent.rxOf : LineEvent → Option Frame
  | .rx f => some f
  | _ => none

/-- The frames handed to `poe_reply_consume`. -/
def frames (tr : List LineEvent) : List Frame := tr.filterMap LineEvent.rxOf

/-- The bytes an action reads from the serial line. -/
def DaemonAction.readOf : DaemonAction → Option Bytes
  | .rx bytes => some bytes
  | _ => none

/-- The reads of a run, one notification each. -/
def reads (vs : List (Visit Daemon DaemonAction LineEvent)) : List Bytes :=
  vs.filterMap (fun v => v.act.readOf)

section Frames

variable {evs : List LineEvent}

theorem frames_append (tr evs : List LineEvent) : frames (tr ++ evs) = frames tr ++ frames evs :=
  List.filterMap_append

theorem frames_quiet (h : ∀ e ∈ evs, e.isRx = false) : frames evs = [] := by
  rw [frames, List.filterMap_eq_nil_iff]
  intro e he
  have hrx := h e he
  cases e with
  | rx f => cases hrx
  | _ => rfl

/-- `poe_stream_msg_cb` hands on the frame it has read. -/
theorem frames_poeStreamMsg (q : Queue) (reply : Frame) :
    frames (poeStreamMsg q reply).2 = [reply] := by
  have hstep := poeStreamMsg_step q reply
  rcases hstep.owes with ⟨hquiet, -⟩ | ⟨f, more, hev, hquiet, -⟩
  · exact absurd (hquiet (.rx reply) List.mem_cons_self) (by simp [LineEvent.isRx])
  · -- the one frame consumed is the one the step was called for
    have hhead : (poeStreamMsg q reply).2.head? = some (.rx reply) := rfl
    rw [hev, List.head?_cons, Option.some.injEq, LineEvent.rx.injEq] at hhead
    rw [hev, hhead]
    show [reply] ++ frames more = [reply]
    rw [frames_quiet hquiet, List.append_nil]

theorem frames_queueAll (q : Queue) (cmds : List Bytes) : frames (queueAll q cmds).2 = [] := by
  induction cmds generalizing q with
  | nil => rfl
  | cons cmd cmds ih =>
      have hfirst : frames (poeCmdQueue q cmd).2 = [] := by
        apply frames_quiet
        intro e he
        rcases List.mem_cons.mp he with rfl | he
        · rfl
        · split at he
          · exact poeCmdSend_not_rx _ _ e he
          · cases he
      show frames ((poeCmdQueue q cmd).2 ++ (queueAll (poeCmdQueue q cmd).1 cmds).2) = []
      rw [frames_append, hfirst, ih, List.append_nil]

theorem frames_mcuClearTimeout (q : Queue) : frames (mcuClearTimeout q).2 = [] := by
  apply frames_quiet
  intro e he
  rcases List.mem_cons.mp he with rfl | he
  · rfl
  · exact poeCmdNext_not_rx _ e he

/-- A frame is read from the first twelve bytes. -/
theorem readsFirst_frameOf : ReadsFirst 12 frameOf := by
  intro l t hl
  funext i
  have hi : i.val < l.length := by omega
  simp [frameOf, List.getD_eq_getElem?_getD, List.getElem?_append_left hi]

end Frames

/-- A read that completes no frame. -/
theorem poeStreamMsgCb_short {d : Daemon} {bytes : Bytes} (h : (d.rx ++ bytes).length < 12) :
    poeStreamMsgCb d bytes = ({ d with rx := d.rx ++ bytes }, []) := if_pos h

/-- A read that completes a frame. -/
theorem poeStreamMsgCb_full {d : Daemon} {bytes : Bytes} (h : ¬ (d.rx ++ bytes).length < 12) :
    poeStreamMsgCb d bytes =
      ({ d with
          queue := (poeStreamMsg d.queue (frameOf (d.rx ++ bytes))).1
          rx := (d.rx ++ bytes).drop 12 },
        (poeStreamMsg d.queue (frameOf (d.rx ++ bytes))).2) := if_neg h

/-! ## Runs -/

/-- What one step does to the frames consumed and to the buffer. -/
theorem daemonMachine_reads {strtof : List Char → Float32} {d d' : Daemon} {a : DaemonAction}
    {evs : List LineEvent} (h : (daemonMachine strtof).step d a = some (d', evs)) :
    match a.readOf with
    | some bytes => (frames evs, d'.rx) = feed 12 frameOf d.rx bytes
    | none => frames evs = [] ∧ d'.rx = d.rx := by
  cases a with
  | rx bytes =>
      simp only [daemonMachine, Option.ite_none_left_eq_some, Option.some.injEq] at h
      obtain ⟨-, h⟩ := h
      show (frames evs, d'.rx) = feed 12 frameOf d.rx bytes
      by_cases hshort : (d.rx ++ bytes).length < 12
      · rw [poeStreamMsgCb_short hshort, Prod.mk.injEq] at h
        obtain ⟨rfl, rfl⟩ := h
        rw [feed_short hshort]
        rfl
      · rw [poeStreamMsgCb_full hshort, Prod.mk.injEq] at h
        obtain ⟨rfl, rfl⟩ := h
        rw [feed_full hshort, frames_poeStreamMsg]
  | stateTimeout =>
      simp only [daemonMachine, Option.some.injEq] at h
      obtain ⟨rfl, rfl⟩ := Prod.mk.inj h
      exact ⟨frames_queueAll _ _, rfl⟩
  | mcuTimeout =>
      simp only [daemonMachine, Option.ite_none_right_eq_some, Option.some.injEq,
        Prod.mk.injEq] at h
      obtain ⟨-, rfl, rfl⟩ := h
      exact ⟨frames_mcuClearTimeout _, rfl⟩
  | request r =>
      simp only [daemonMachine, Option.some.injEq] at h
      show frames evs = [] ∧ d'.rx = d.rx
      cases r with
      | info =>
          obtain ⟨rfl, rfl⟩ := Prod.mk.inj h
          exact ⟨rfl, rfl⟩
      | reload poe port =>
          obtain ⟨rfl, rfl⟩ := Prod.mk.inj h
          exact ⟨frames_queueAll _ _, rfl⟩
      | sendframe frame =>
          obtain ⟨rfl, rfl⟩ := Prod.mk.inj h
          exact ⟨frames_queueAll _ _, rfl⟩
      | manage port enable =>
          obtain ⟨rfl, rfl⟩ := Prod.mk.inj h
          exact ⟨frames_queueAll _ _, rfl⟩

variable {strtof strtof' : List Char → Float32} {b b' : Boot}

/-- **In every run the daemon has consumed the first so many blocks of the stream, and the rest is
in its buffer.** -/
theorem reading_of_exec {vs : List (Visit Daemon DaemonAction LineEvent)} {tr : List LineEvent}
    {d : Daemon} (h : Exec (daemonMachine strtof) (b.start strtof).1 vs tr d) :
    Reading 12 frameOf (reads vs) (frames tr) d.rx := by
  refine h.inv_run (fun vs d tr => Reading 12 frameOf (reads vs) (frames tr) d.rx)
    ?_ ?_
  · exact Reading.nil 12 frameOf
  · intro vs d tr a d' evs ih hs
    have hstep := daemonMachine_reads hs
    have hsnoc : reads (vs ++ [⟨d, tr, a⟩]) = reads vs ++ a.readOf.toList := by
      rw [reads, List.filterMap_append]
      cases hread : a.readOf <;> simp [reads, hread]
    rw [hsnoc, frames_append]
    cases hread : a.readOf with
    | none =>
        simp only [hread] at hstep
        obtain ⟨hframes, hrx⟩ := hstep
        rw [hframes, hrx, List.append_nil, Option.toList_none, List.append_nil]
        exact ih
    | some bytes =>
        simp only [hread] at hstep
        have hnext := ih.feed (by decide) readsFirst_frameOf bytes
        rw [← hstep] at hnext
        exact hnext

/-- **Two runs that read the same stream, cut as may be, consume the same frames, namely all its
blocks of twelve bytes, exactly when in both the reads keep up with the blocks.** -/
theorem frames_eq_blocks_iff {vs vs' : List (Visit Daemon DaemonAction LineEvent)}
    {tr tr' : List LineEvent} {d d' : Daemon}
    (h : Exec (daemonMachine strtof) (b.start strtof).1 vs tr d)
    (h' : Exec (daemonMachine strtof') (b'.start strtof').1 vs' tr' d')
    (hsame : (reads vs).flatten = (reads vs').flatten) :
    (frames tr = frames tr' ∧ frames tr = blocks 12 frameOf (reads vs).flatten) ↔
      KeepsUp 12 (reads vs) ∧ KeepsUp 12 (reads vs') := by
  have hall := (reading_of_exec h).all_iff
  have hall' := (reading_of_exec h').all_iff
  rw [← hsame] at hall'
  constructor
  · rintro ⟨heq, hblocks⟩
    exact ⟨hall.mp hblocks, hall'.mp (heq ▸ hblocks)⟩
  · rintro ⟨hup, hup'⟩
    have hblocks := hall.mpr hup
    exact ⟨hblocks.trans (hall'.mpr hup').symm, hblocks⟩

/-- The bytes of a frame. -/
def Frame.bytes (f : Frame) : Bytes := List.ofFn f

/-- A run that only reads. -/
theorem reads_of_acts {vs : List (Visit Daemon DaemonAction LineEvent)} {chunks : List Bytes}
    (h : vs.map Visit.act = chunks.map .rx) : reads vs = chunks := by
  calc reads vs = (vs.map Visit.act).filterMap DaemonAction.readOf := by
        rw [reads, List.filterMap_map]
        rfl
    _ = chunks := by
        rw [h, List.filterMap_map]
        exact List.filterMap_some

/-- Two replies, in two reads and a byte at a time. -/
theorem frames_eq_blocks_iff_bytewise : ∃ vs tr d vs' tr' d',
    Exec (daemonMachine fun _ => 0) ((Boot.mk [] [] none).start fun _ => 0).1 vs tr d ∧
      Exec (daemonMachine fun _ => 0) ((Boot.mk [] [] none).start fun _ => 0).1 vs' tr' d' ∧
      reads vs = [(buildFrame [0x40] 1).bytes, (buildFrame [0x41] 2).bytes] ∧
      reads vs' = (reads vs).flatten.map (fun byte => [byte]) ∧
      ((frames tr = frames tr' ∧ frames tr = blocks 12 frameOf (reads vs).flatten) ↔
        KeepsUp 12 (reads vs) ∧ KeepsUp 12 (reads vs')) := by
  let chunks := [(buildFrame [0x40] 1).bytes, (buildFrame [0x41] 2).bytes]
  let chunks' := chunks.flatten.map (fun byte => [byte])
  obtain ⟨vs, hvs, hact⟩ := Exec.replay (daemonMachine fun _ => 0)
    ((Boot.mk [] [] none).start fun _ => 0).1 (chunks.map .rx) (by decide +kernel)
  obtain ⟨vs', hvs', hact'⟩ := Exec.replay (daemonMachine fun _ => 0)
    ((Boot.mk [] [] none).start fun _ => 0).1 (chunks'.map .rx) (by decide +kernel)
  have hcut := reads_of_acts hact
  have hcut' := reads_of_acts hact'
  have hsame : (reads vs).flatten = (reads vs').flatten := by
    rw [hcut, hcut']
    decide +kernel
  exact ⟨vs, _, _, vs', _, _, hvs, hvs', hcut, by rw [hcut', hcut],
    frames_eq_blocks_iff hvs hvs' hsame⟩

/-- Two replies in one read: one of them stays in the buffer. -/
theorem coalesced_reply_left : ¬ ∀ (strtof : List Char → Float32) (b : Boot) vs tr d vs' tr' d',
    Exec (daemonMachine strtof) (b.start strtof).1 vs tr d →
    Exec (daemonMachine strtof) (b.start strtof).1 vs' tr' d' →
    (reads vs).flatten = (reads vs').flatten →
      frames tr = frames tr' ∧ frames tr = blocks 12 frameOf (reads vs).flatten := by
  intro h
  let chunks : List Bytes := [(buildFrame [0x40] 1).bytes ++ (buildFrame [0x41] 2).bytes]
  obtain ⟨vs, hvs, hact⟩ := Exec.replay (daemonMachine fun _ => 0)
    ((Boot.mk [] [] none).start fun _ => 0).1 (chunks.map .rx) (by decide +kernel)
  have hcut := reads_of_acts hact
  obtain ⟨-, hall⟩ := h _ _ _ _ _ _ _ _ hvs hvs rfl
  have hup := (reading_of_exec hvs).all_iff.mp hall
  rw [hcut] at hup
  exact absurd hup (by decide +kernel)

end RealtekPoe
