import TfPack.DeviceMonitor.Requests

set_option autoImplicit false

/-! # The length of a reply

The two functions that send copy their record to the start of the buffer, and `net_sendMsg` sends
as many bytes of it as `net_getCommand` has received. A reply is the whole record and nothing more
exactly when the request was as long as the record (`repliesComplete_iff`).
-/

namespace DeviceMonitor

open StepMachine

/-! ## Records -/

/-- The record a reply carries. -/
def SendCallback.record (c : Client) : SendCallback → Bytes
  | .client_sendSettMsg => c.settingsMsg.buff
  | .client_sendSearchMsg => c.searchOutMsg.buff

/-- The size of the record: `sizeof(settMsg.buff)` and `sizeof(searchOutMsg.buff)`. -/
def SendCallback.size : SendCallback → Nat
  | .client_sendSettMsg => 1063
  | .client_sendSearchMsg => 444

theorem SettMsg.buff_length (m : SettMsg) : m.buff.length = 1063 := by
  simp [SettMsg.buff, m.mac.length_eq, m.pass_md5.length_eq, m.msg.length_eq, MAC_LEN, MD5_LEN,
    SETTINGS_MSG_LEN]

theorem SearchOutMsg.buff_length (m : SearchOutMsg) : m.buff.length = 444 := by
  simp [SearchOutMsg.buff, m.ip.length_eq, m.mac.length_eq, m.dev_descr.length_eq,
    m.dev_loc.length_eq, m.uptime.length_eq, m.firmware.length_eq, m.mask.length_eq,
    m.gate.length_eq, m.mac_entry.length_eq, MAC_LEN]

theorem SendCallback.record_length (f : SendCallback) (c : Client) :
    (f.record c).length = f.size := by
  cases f with
  | client_sendSettMsg => exact c.settingsMsg.buff_length
  | client_sendSearchMsg => exact c.searchOutMsg.buff_length

/-- The buffer when the record is in it. -/
def SendCallback.loaded (f : SendCallback) (c : Client) : Bytes :=
  f.record c ++ c.buffer.drop f.size

/-- **What a reply is**: the first bytes of the buffer, as many as were received last. -/
theorem SendCallback.run_eq (f : SendCallback) (c : Client) :
    f.run c = ({ c with buffer := f.loaded c },
      [.sent f ((f.loaded c).take c.bufferLen.toNat)]) := by
  cases f with
  | client_sendSettMsg =>
      rw [loaded, size, ← c.settingsMsg.buff_length]
      rfl
  | client_sendSearchMsg =>
      rw [loaded, size, ← c.searchOutMsg.buff_length]
      rfl

/-- **Every reply the call sends is the complete record**, and nothing after it. -/
def ReplyComplete (u : ClientVisit) : Prop :=
  ∀ f bytes, Seen.sent f bytes ∈ (clientHandler u.act u.state).2.2 → bytes = f.record u.state

/-- The beginning of some bytes is the whole of their first part exactly when it is as long. -/
theorem take_append_eq_left_iff {record rest : Bytes} {n : Nat}
    (h : n ≤ (record ++ rest).length) :
    (record ++ rest).take n = record ↔ n = record.length := by
  constructor
  · intro heq
    have hlen := congrArg List.length heq
    rw [List.length_take, Nat.min_eq_left h] at hlen
    exact hlen
  · rintro rfl
    exact List.take_left

/-! ## The buffer holds what was received -/

/-- The bytes counted are in the buffer. -/
def BufferHolds (c : Client) : Prop := c.bufferLen.toNat ≤ c.buffer.length

theorem netGetCommand_holds (received : Option Bytes) (c : Client) :
    BufferHolds (netGetCommand received c).1 := by
  unfold BufferHolds netGetCommand
  cases received with
  | none => exact Nat.zero_le _
  | some d =>
      simp only [Int.toNat_natCast, List.length_append]
      omega

theorem loaded_holds {c : Client} (h : BufferHolds c) (f : SendCallback) :
    BufferHolds { c with buffer := f.loaded c } := by
  unfold BufferHolds at h ⊢
  have hrecord := f.record_length c
  simp only [SendCallback.loaded, List.length_append, List.length_drop]
  omega

/-- Every call keeps it: only a call that waits and a call that sends change the buffer. -/
theorem BufferHolds.step {c : Client} (hb : BufferHolds c) (h : ClientInv c) (env : CallEnv) :
    BufferHolds (clientHandler env c).1 := by
  unfold clientHandler
  cases hs : c.state with
  | CLIENT_SATE_IDLE => exact hb
  | CLIENT_SATE_INIT => exact hb
  | CLIENT_STATE_WAIT =>
      have hget := netGetCommand_holds env.received c
      show BufferHolds (clientStateWait env c)
      rw [clientStateWait_eq h]
      dsimp only
      split_ifs <;> exact hget
  | CLIENT_STATE_FILL_MSG =>
      obtain ⟨m, -, heq⟩ := clientStateFillMsg_eq env h hs
      show BufferHolds (clientStateFillMsg env c)
      rw [heq]
      split_ifs <;> exact hb
  | CLIENT_STATE_SEND =>
      obtain ⟨f, -, -, heq⟩ := clientStateSend_eq h hs
      show BufferHolds (clientStateSend c).1
      rw [heq, f.run_eq]
      exact loaded_holds (c := { c with state := .CLIENT_STATE_RELOAD }) hb f
  | CLIENT_STATE_SETTINGS =>
      obtain ⟨w, e, heq⟩ := clientStateSettings_eq env h hs
      show BufferHolds (clientStateSettings env c).1
      rw [heq]
      split_ifs <;> exact hb
  | CLIENT_STATE_RELOAD => exact hb

/-- A reply is complete exactly when as many bytes are counted as its record has. -/
theorem replyComplete_iff_bufferLen {u : ClientVisit} (h : ClientInv u.state)
    (hb : BufferHolds u.state) (hs : u.state.state = .CLIENT_STATE_SEND) :
    ∃ f, handlerOf u.state.msgType = some f ∧
      (ReplyComplete u ↔ u.state.bufferLen.toNat = f.size) := by
  obtain ⟨f, hf, -, heq⟩ := clientStateSend_eq h hs
  refine ⟨f, hf, ?_⟩
  have hseen : (clientHandler u.act u.state).2.2 =
      [.sent f ((f.loaded u.state).take u.state.bufferLen.toNat)] := by
    rw [clientHandler, hs]
    simp only [heq, f.run_eq]
    rfl
  have hholds := loaded_holds hb f
  rw [← f.record_length u.state, ← take_append_eq_left_iff hholds]
  constructor
  · intro hcomplete
    exact hcomplete f _ (by rw [hseen]; exact List.mem_singleton_self _)
  · intro htake g bytes hmem
    rw [hseen, List.mem_singleton] at hmem
    cases hmem
    exact htake

/-! ## Runs -/

section Runs

variable {vs : List ClientVisit} {tr : List Seen} {c : Client}

/-- Between two datagrams there is one that the client is busy with. -/
theorem exists_since (h : Exec clientMachine initClient vs tr c)
    (hinit : c.state ≠ .CLIENT_SATE_INIT) (hwait : c.state ≠ .CLIENT_STATE_WAIT) :
    ∃ v us, Since vs v us := by
  revert hinit hwait
  refine h.inv_run (fun vs c _ => c.state ≠ .CLIENT_SATE_INIT → c.state ≠ .CLIENT_STATE_WAIT →
    ∃ v us, Since vs v us) (fun hne => absurd rfl hne) ?_
  intro vs s tr env s' evs ih hs hinit hwait
  obtain ⟨-, rfl, -⟩ := clientMachine_step.mp hs
  by_cases hstart : s.state = .CLIENT_SATE_INIT
  · -- the first call leaves the client waiting
    rw [clientHandler, hstart] at hwait
    exact absurd rfl hwait
  · by_cases hw : s.state = .CLIENT_STATE_WAIT
    · exact ⟨_, [], ⟨vs, rfl⟩, hw, by simp⟩
    · obtain ⟨v, us, ⟨ws, heq⟩, hv, hbusy⟩ := ih hstart hw
      refine ⟨v, us ++ [⟨s, tr, env⟩], ⟨ws, by simp [heq]⟩, hv, ?_⟩
      rw [List.forall_mem_append, List.forall_mem_singleton]
      exact ⟨hbusy, hw⟩

theorem bufferHolds_of_exec (h : Exec clientMachine initClient vs tr c) : BufferHolds c := by
  have hboth : ClientInv c ∧ BufferHolds c := by
    refine h.inv (fun c _ => ClientInv c ∧ BufferHolds c) ⟨clientInv_init, Nat.le_refl 0⟩ ?_
    rintro s tr env s' evs ⟨hI, hb⟩ hs
    obtain ⟨-, rfl, -⟩ := clientMachine_step.mp hs
    exact ⟨hI.step env, hb.step hI env⟩
  exact hboth.2

/-- The request that is answered was received, and as many bytes of it are counted as the buffer
takes. -/
theorem exists_request {v : ClientVisit} {us : List ClientVisit}
    (h : Exec clientMachine initClient vs tr c) (hsince : Since vs v us)
    (hs : c.state = .CLIENT_STATE_SEND) :
    ∃ d, v.act.received = some d ∧ c.bufferLen.toNat = min MAX_BUFFER_SIZE d.length := by
  have ha := answering_of_exec h v us hsince
  obtain ⟨ws, rfl⟩ := hsince.split
  cases hrec : v.act.received with
  | none =>
      -- without a datagram there is nothing to answer
      have hvisit := clientInv_of_exec (h.upTo rfl)
      have haddressed : Addressed v := by
        rw [Addressed, hrec]
        simp
      have hnothing := (handled_eq_iff hvisit hsince.waits).mpr haddressed
      obtain ⟨-, f, -, hhandled⟩ := ha.sending hs
      rw [hnothing, hrec] at hhandled
      simp [answerTo] at hhandled
  | some d =>
      have hlen := ha.bufferLen
      rw [hrec] at hlen
      refine ⟨d, rfl, ?_⟩
      show c.bufferLen.toNat = _
      rw [hlen]
      show (((d.take MAX_BUFFER_SIZE).length : Nat) : Int).toNat = _
      rw [Int.toNat_natCast, List.length_take]

/-- **Every reply of a run is the complete record exactly when every request that is answered is
as long as the reply's record.** -/
theorem repliesComplete_iff (h : Exec clientMachine initClient vs tr c) :
    (∀ u ∈ vs, ReplyComplete u) ↔
      ∀ ws v us u rest f d, vs = ws ++ u :: rest → Since ws v us →
        u.state.state = .CLIENT_STATE_SEND → handlerOf u.state.msgType = some f →
        v.act.received = some d → d.length = f.size := by
  have hsend : ∀ ws v us u rest, vs = ws ++ u :: rest → Since ws v us →
      u.state.state = .CLIENT_STATE_SEND → ∃ f d, handlerOf u.state.msgType = some f ∧
        v.act.received = some d ∧ (ReplyComplete u ↔ d.length = f.size) := by
    intro ws v us u rest heq hsince hs
    have hrun := h.upTo heq
    obtain ⟨f, hf, hiff⟩ := replyComplete_iff_bufferLen (clientInv_of_exec hrun)
      (bufferHolds_of_exec hrun) hs
    obtain ⟨d, hd, hlen⟩ := exists_request hrun hsince hs
    refine ⟨f, d, hf, hd, ?_⟩
    have hsmall : f.size < MAX_BUFFER_SIZE := by
      cases f <;> decide
    rw [hiff, hlen]
    omega
  constructor
  · intro hall ws v us u rest f d heq hsince hs hf hd
    obtain ⟨f', d', hf', hd', hiff⟩ := hsend ws v us u rest heq hsince hs
    have hff : f = f' := Option.some.inj (hf.symm.trans hf')
    have hdd : d = d' := Option.some.inj (hd.symm.trans hd')
    rw [hff, hdd]
    exact hiff.mp (hall u (by simp [heq]))
  · intro hcond u hu
    obtain ⟨ws, rest, heq⟩ := List.append_of_mem hu
    by_cases hs : u.state.state = .CLIENT_STATE_SEND
    · obtain ⟨v, us, hsince⟩ := exists_since (h.upTo heq) (by simp [hs]) (by simp [hs])
      obtain ⟨f, d, hf, hd, hiff⟩ := hsend ws v us u rest heq hsince hs
      exact hiff.mpr (hcond ws v us u rest f d heq hsince hs hf hd)
    · intro f bytes hmem
      have hnone : Work.reply f ∈ (clientHandler u.act u.state).2.2.filterMap Seen.work :=
        List.mem_filterMap.mpr ⟨_, hmem, rfl⟩
      rw [seen_work_eq_nil hs] at hnone
      cases hnone

end Runs

/-- The device that starts and answers a find request of one byte. -/
theorem repliesComplete_iff_find : ∃ vs tr c, Exec clientMachine initClient vs tr c ∧
    vs.map Visit.act = findRun ∧
    ((∀ u ∈ vs, ReplyComplete u) ↔
      ∀ ws v us u rest f d, vs = ws ++ u :: rest → Since ws v us →
        u.state.state = .CLIENT_STATE_SEND → handlerOf u.state.msgType = some f →
        v.act.received = some d → d.length = f.size) := by
  obtain ⟨vs, hvs, hact⟩ := Exec.replay clientMachine initClient findRun rfl
  exact ⟨vs, _, _, hvs, hact, repliesComplete_iff hvs⟩

/-- The reply to that request has one byte. -/
theorem short_request_short_reply : ¬ ∀ vs tr c, Exec clientMachine initClient vs tr c →
    ∀ u ∈ vs, ReplyComplete u := by
  intro h
  obtain ⟨vs, hvs, -⟩ := Exec.replay clientMachine initClient (findRun.take 7) rfl
  have hrecord := h _ _ _ (hvs.snoc (a := callEnv none) rfl) _
    (List.mem_append_right _ (List.mem_singleton_self _)) _ _ (.head _)
  exact absurd (congrArg List.length hrecord) (by decide +kernel)

end DeviceMonitor
