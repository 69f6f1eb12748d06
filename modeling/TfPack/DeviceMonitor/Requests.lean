import TfPack.DeviceMonitor.Settings

set_option autoImplicit false

/-! # One request, one reply

The state machine answers a datagram over several calls: a find request by four fill callbacks and
the search reply, a settings request for this device by the settings reply. Between two calls the
work that is left is in the state, the count of the callbacks and the slots of
`eventSendMsg_CallbackArray`.

The slots are always right (`SlotsRight`), and so is the answer to a find request. The device a
settings request is for is compared with the MAC of the search message and, where the request is
too short, with what is left of the settings message before; a settings request is answered as it
should be exactly when that makes no difference (`answered_iff`).
-/

namespace DeviceMonitor

open FlagWord StepMachine

/-! ## Slots -/

/-- The function that answers a message of this type. -/
def handlerOf : TypeMsg → Option SendCallback
  | .type_searchMsg => some .client_sendSearchMsg
  | .type_settingsMsg => some .client_sendSettMsg
  | _ => none

/-- **In `CLIENT_STATE_SEND` exactly the slot of `msgType` is filled**, with the function that
answers it, and in every other state none is. -/
structure SlotsRight (c : Client) : Prop where
  sending : c.state = .CLIENT_STATE_SEND → (handlerOf c.msgType).isSome = true
  slots : ∀ t, c.eventSendMsg t =
    if c.state = .CLIENT_STATE_SEND ∧ t = c.msgType then handlerOf t else none

/-! ## Work -/

/-- What is done for a request: a fill callback is run, a reply is sent. -/
inductive Work
  | fill (f : FillCallback)
  | reply (f : SendCallback)
  deriving DecidableEq, Repr

/-- The fill callback a call runs. -/
def fillOf (c : Client) : List Work :=
  if c.state = .CLIENT_STATE_FILL_MSG ∧ c.count < CMD_MAX then
    ((c.eventFillMsg.getD c.count none).map Work.fill).toList
  else []

/-- The reply in an event. -/
def Seen.work : Seen → Option Work
  | .sent f _ => some (.reply f)
  | _ => none

/-- The work of a call. -/
def workOf (v : ClientVisit) : List Work :=
  fillOf v.state ++ (clientHandler v.act v.state).2.2.filterMap Seen.work

/-- The work of some calls. -/
def works (us : List ClientVisit) : List Work := us.flatMap workOf

/-- The four fill callbacks, as they are registered. -/
def fillCallbacks : List FillCallback := [.fillNetInfo, .getTimeInfo, .getBoardInfo, .getSystemInfo]

/-- The work a find request takes. -/
def searchWork : List Work := fillCallbacks.map .fill ++ [.reply .client_sendSearchMsg]

/-- The MAC a datagram starts with, after its type. -/
def macOf (d : Bytes) : Bytes := (d.drop 1).take MAC_LEN

/-- **The work a datagram should cause** on the device with this MAC. -/
def answerTo (mac : Bytes) : Option Bytes → List Work
  | none => []
  | some d =>
      if d.head? = some 0xE0 then searchWork
      else if d.head? = some 0xE2 ∧ macOf d = mac then [.reply .client_sendSettMsg]
      else []

/-- The call waits for a datagram. -/
def Waits (v : ClientVisit) : Prop := v.state.state = .CLIENT_STATE_WAIT

instance (v : ClientVisit) : Decidable (Waits v) :=
  inferInstanceAs (Decidable (v.state.state = .CLIENT_STATE_WAIT))

/-- `us` are the calls between `v`, which waits for a datagram, and the end of `vs`. -/
structure Since (vs : List ClientVisit) (v : ClientVisit) (us : List ClientVisit) : Prop where
  split : ∃ ws, vs = ws ++ v :: us
  waits : Waits v
  busy : ∀ u ∈ us, ¬ Waits u

/-- `us` are the calls between `v` and the next one that waits for a datagram. -/
def Cycle (vs : List ClientVisit) (v : ClientVisit) (us : List ClientVisit) : Prop :=
  ∃ ws w rest, vs = ws ++ w :: rest ∧ Waits w ∧ Since ws v us

/-- The calls between a datagram and the next one do what the datagram asks for, and there are at
most seven of them. -/
structure Answered (vs : List ClientVisit) : Prop where
  prompt : ∀ v us, Since vs v us → us.length ≤ 7
  answered : ∀ v us, Cycle vs v us →
    works us = answerTo v.state.switchNetParam.mac_addr.bytes v.act.received

/-- The MAC a settings request is taken to have. -/
def comparedMac (v : ClientVisit) : Bytes :=
  (getBuffer (netGetCommand v.act.received v.state).1).mac.bytes

/-- A settings request is taken for one for this device exactly when it is one. -/
def Addressed (v : ClientVisit) : Prop :=
  ∀ d, v.act.received = some d → d.head? = some 0xE2 →
    (v.state.searchOutMsg.mac.bytes = comparedMac v ↔
      macOf d = v.state.switchNetParam.mac_addr.bytes)

/-! ## The state between two calls -/

/-- The table of the fill callbacks once they are registered. -/
def registered : List (Option FillCallback) := fillCallbacks.map some ++ [none]

/-- What holds between two calls. Of the event word only `CLIENT_EVENT_UPDATE` and the two
reload flags outlast a call. -/
structure ClientInv (c : Client) : Prop where
  slots : SlotsRight c
  events : ∀ f, f = .CLIENT_EVENT_FIND ∨ f = .CLIENT_EVENT_SETTINGS ∨
    f = .CLIENT_EVENT_MSG_READY → c.event.has f = false
  fills : c.eventFillMsg =
    if c.state = .CLIENT_SATE_INIT then List.replicate 5 none else registered
  working : c.state ≠ .CLIENT_SATE_IDLE
  filling : c.state = .CLIENT_STATE_FILL_MSG → c.msgType = .type_searchMsg ∧ c.count ≤ CMD_MAX
  settings : c.state = .CLIENT_STATE_SETTINGS →
    c.msgType = .type_settingsMsg ∧ c.buffer.getD 0 0 = 0xE2
  search : c.state = .CLIENT_STATE_SEND → c.msgType = .type_searchMsg →
    c.searchOutMsg.msg_type = 0xE1
  ack : c.state = .CLIENT_STATE_SEND → c.msgType = .type_settingsMsg →
    c.settingsMsg.msg_type = 0xE3
  -- a request that is left in the buffer when `recvfrom` fails is none for this device
  left : c.state = .CLIENT_SATE_INIT ∨ c.state = .CLIENT_STATE_WAIT ∨
    c.state = .CLIENT_STATE_RELOAD →
    c.buffer.getD 0 0 ≠ 0xE0 ∧
      (c.buffer.getD 0 0 = 0xE2 → c.searchOutMsg.mac.bytes ≠ c.settingsMsg.mac.bytes)

theorem clientInv_init : ClientInv initClient where
  slots := ⟨(fun h => by cases h), fun _ => rfl⟩
  events := fun f _ => rfl
  fills := rfl
  working := by decide
  filling := fun h => by cases h
  settings := fun h => by cases h
  search := fun h => by cases h
  ack := fun h => by cases h
  left := fun _ => ⟨by decide, fun h => absurd h (by decide)⟩

/-- An event that is set and cleared again. -/
theorem clear_set_of_not {w : Flags ClientEvent} {f : ClientEvent} (h : w.has f = false) :
    (w.set f).clear f = w := by
  ext g
  by_cases hg : g = f
  · simp [hg, h]
  · simp [hg]

/-- The client after `net_getCommand`: only the buffer is new. -/
theorem netGetCommand_eq (received : Option Bytes) (c : Client) :
    ∃ buffer len, (netGetCommand received c).1 = { c with buffer := buffer, bufferLen := len } ∧
      (netGetCommand received c).2 = buffer.getD 0 0 := by
  unfold netGetCommand
  cases received with
  | none => exact ⟨c.buffer, -1, rfl, rfl⟩
  | some d => exact ⟨_, _, rfl, rfl⟩

/-- **What a call that waits for a datagram does**: it starts the work a find request or a settings
request asks for, and else waits for the next. -/
theorem clientStateWait_eq {env : CallEnv} {c : Client} (h : ClientInv c) :
    clientStateWait env c =
      let r := netGetCommand env.received c
      if r.2 = 0xE0 then
        { r.1 with msgType := .type_searchMsg, state := .CLIENT_STATE_FILL_MSG, count := 0 }
      else if r.2 = 0xE2 then
        { r.1 with msgType := .type_settingsMsg, state := .CLIENT_STATE_SETTINGS, count := 0 }
      else if r.2 = 0xE4 then { r.1 with event := r.1.event.set .CLIENT_EVENT_UPDATE }
      else r.1 := by
  obtain ⟨buffer, len, hc, hcmd⟩ := netGetCommand_eq env.received c
  have hfind := h.events .CLIENT_EVENT_FIND (.inl rfl)
  have hsett := h.events .CLIENT_EVENT_SETTINGS (.inr (.inl rfl))
  have hclear := clear_set_of_not hfind
  have hclear' := clear_set_of_not hsett
  unfold clientStateWait clientWaitCommand
  dsimp only
  rw [hc]
  by_cases hE0 : (netGetCommand env.received c).2 = 0xE0
  · simp [hE0, hsett, hclear]
  · by_cases hE2 : (netGetCommand env.received c).2 = 0xE2
    · simp [hE2, hfind, hclear']
    · by_cases hE4 : (netGetCommand env.received c).2 = 0xE4
      · simp [hE4, hfind, hsett]
      · simp [hE0, hE2, hE4, hfind, hsett]

/-- What a call that fills the search message does: one more callback, or, after the fourth, the
reply is registered. -/
theorem clientStateFillMsg_eq (env : CallEnv) {c : Client} (h : ClientInv c)
    (hs : c.state = .CLIENT_STATE_FILL_MSG) :
    ∃ m, m.msg_type = 0xE1 ∧ clientStateFillMsg env c =
      if c.count < CMD_MAX then { c with searchOutMsg := m, count := c.count + 1 }
      else { c with
        searchOutMsg := m
        eventSendMsg := Function.update c.eventSendMsg .type_searchMsg (some .client_sendSearchMsg)
        state := .CLIENT_STATE_SEND } := by
  have hready := h.events .CLIENT_EVENT_MSG_READY (.inr (.inr rfl))
  have hclear := clear_set_of_not hready
  obtain ⟨htype, -⟩ := h.filling hs
  have hslot : c.eventSendMsg .type_searchMsg = none := by
    rw [h.slots.slots, hs]
    rfl
  unfold clientStateFillMsg clientEmitFill
  dsimp only
  by_cases hcount : c.count < CMD_MAX
  · simp only [if_pos hcount, hready, Bool.false_eq_true, if_false]
    exact ⟨_, rfl, rfl⟩
  · simp only [if_neg hcount, Flags.has_set, if_true, hclear, registerSend, htype, hslot]
    exact ⟨_, rfl, rfl⟩

/-- What a call that answers a settings request does: it registers the reply, or, for another
device, waits for the next datagram. -/
theorem clientStateSettings_eq (env : CallEnv) {c : Client} (h : ClientInv c)
    (hs : c.state = .CLIENT_STATE_SETTINGS) :
    ∃ w e, (clientStateSettings env c).1 =
      if c.searchOutMsg.mac.bytes = (getBuffer c).mac.bytes then
        { c with
          settingsMsg := ackSettings (getBuffer c) e
          passFlag := w
          eventSendMsg := Function.update c.eventSendMsg .type_settingsMsg
            (some .client_sendSettMsg)
          state := .CLIENT_STATE_SEND }
      else { c with
        settingsMsg := ackSettings (getBuffer c) e
        passFlag := w
        state := .CLIENT_STATE_WAIT } := by
  obtain ⟨htype, -⟩ := h.settings hs
  have hslot : c.eventSendMsg .type_settingsMsg = none := by
    rw [h.slots.slots, hs]
    rfl
  by_cases hmac : c.searchOutMsg.mac.bytes = (getBuffer c).mac.bytes
  · obtain ⟨w, hset⟩ := clientStateSettings_refused env hmac
    refine ⟨w, .ERR_AUTHENTICATION, ?_⟩
    rw [if_pos hmac, hset, registerSend, htype, if_pos hslot]
  · obtain ⟨w, hset⟩ := clientStateSettings_ignored env hmac
    refine ⟨w, .INFO_MAC_NOT_IDENTICAL, ?_⟩
    rw [if_neg hmac, hset]

/-- What a call that sends does: the reply that is registered is sent and its slot emptied. -/
theorem clientStateSend_eq {c : Client} (h : ClientInv c) (hs : c.state = .CLIENT_STATE_SEND) :
    ∃ f, handlerOf c.msgType = some f ∧ c.eventSendMsg c.msgType = some f ∧
      clientStateSend c =
        let r := f.run { c with state := .CLIENT_STATE_RELOAD }
        ({ r.1 with eventSendMsg := Function.update c.eventSendMsg c.msgType none },
          ErrorCode.ERR_OK.val, r.2) := by
  obtain ⟨f, hf⟩ := Option.isSome_iff_exists.mp (h.slots.sending hs)
  have hslot : c.eventSendMsg c.msgType = some f := by
    rw [h.slots.slots, if_pos ⟨hs, rfl⟩, hf]
  refine ⟨f, hf, hslot, ?_⟩
  unfold clientStateSend
  simp only [hslot]
  rfl

/-! ## The invariant -/

/-- Slots that are all empty, in a state that does not send. -/
theorem SlotsRight.empty {c : Client} (hs : c.state ≠ .CLIENT_STATE_SEND)
    (hslots : ∀ t, c.eventSendMsg t = none) : SlotsRight c :=
  ⟨fun h => absurd h hs, fun t => by rw [hslots t, if_neg (fun h => hs h.1)]⟩

/-- No slot is filled in a state that does not send. -/
theorem ClientInv.slot_none {c : Client} (h : ClientInv c) (hs : c.state ≠ .CLIENT_STATE_SEND)
    (t : TypeMsg) : c.eventSendMsg t = none := by
  rw [h.slots.slots, if_neg (fun hst => hs hst.1)]

theorem ClientInv.fills_registered {c : Client} (h : ClientInv c)
    (hs : c.state ≠ .CLIENT_SATE_INIT) : c.eventFillMsg = registered := by
  rw [h.fills, if_neg hs]

/-- The invariant is kept by a call that waits. -/
theorem ClientInv.wait {env : CallEnv} {c : Client} (h : ClientInv c)
    (hs : c.state = .CLIENT_STATE_WAIT) : ClientInv (clientStateWait env c) := by
  have hslots := h.slot_none (by simp [hs])
  have hfills := h.fills_registered (by simp [hs])
  have hevents := h.events
  have hleft := h.left (.inr (.inl hs))
  rw [clientStateWait_eq h]
  obtain ⟨buffer, len, hc, hcmd⟩ := netGetCommand_eq env.received c
  dsimp only
  rw [hc]
  by_cases hE0 : (netGetCommand env.received c).2 = 0xE0
  · rw [if_pos hE0]
    exact ⟨.empty (by simp) hslots, hevents, hfills, by simp, fun _ => ⟨rfl, Nat.zero_le _⟩,
      by simp, by simp, by simp, by simp⟩
  · rw [if_neg hE0]
    by_cases hE2 : (netGetCommand env.received c).2 = 0xE2
    · rw [if_pos hE2]
      exact ⟨.empty (by simp) hslots, hevents, hfills, by simp, by simp,
        fun _ => ⟨rfl, hcmd.symm.trans hE2⟩, by simp, by simp, by simp⟩
    · rw [if_neg hE2]
      -- the byte that was no request stays in the buffer
      rw [hcmd] at hE0 hE2
      by_cases hE4 : (netGetCommand env.received c).2 = 0xE4
      · rw [if_pos hE4]
        refine ⟨.empty (by simp [hs]) hslots, fun f hf => ?_, by simpa [hs] using hfills,
          by simp [hs], by simp [hs], by simp [hs], by simp [hs], by simp [hs],
          fun _ => ⟨hE0, fun hE => absurd hE hE2⟩⟩
        rcases hf with rfl | rfl | rfl <;> simpa using hevents _ (by simp)
      · rw [if_neg hE4]
        exact ⟨.empty (by simp [hs]) hslots, hevents, by simpa [hs] using hfills, by simp [hs],
          by simp [hs], by simp [hs], by simp [hs], by simp [hs],
          fun _ => ⟨hE0, fun hE => absurd hE hE2⟩⟩

/-- A slot that is filled in a call that will send. -/
theorem SlotsRight.fill {c c' : Client} {t : TypeMsg} {f : SendCallback}
    (hslots : ∀ t, c.eventSendMsg t = none) (hf : handlerOf t = some f)
    (hs : c'.state = .CLIENT_STATE_SEND) (ht : c'.msgType = t)
    (hc : c'.eventSendMsg = Function.update c.eventSendMsg t (some f)) : SlotsRight c' := by
  refine ⟨fun _ => by rw [ht, hf]; rfl, fun t' => ?_⟩
  rw [hc, hs, ht]
  by_cases hne : t' = t
  · rw [hne, Function.update_self, if_pos ⟨rfl, rfl⟩, hf]
  · rw [Function.update_of_ne hne, hslots t', if_neg (fun h => hne h.2)]

/-- The invariant is kept by a call that fills the search message. -/
theorem ClientInv.fillMsg {env : CallEnv} {c : Client} (h : ClientInv c)
    (hs : c.state = .CLIENT_STATE_FILL_MSG) : ClientInv (clientStateFillMsg env c) := by
  have hslots := h.slot_none (by simp [hs])
  have hfills := h.fills_registered (by simp [hs])
  obtain ⟨htype, -⟩ := h.filling hs
  obtain ⟨m, hm, heq⟩ := clientStateFillMsg_eq env h hs
  rw [heq]
  by_cases hcount : c.count < CMD_MAX
  · rw [if_pos hcount]
    exact ⟨.empty (by simp [hs]) hslots, h.events, by simpa [hs] using hfills, by simp [hs],
      fun _ => ⟨htype, hcount⟩, by simp [hs], by simp [hs], by simp [hs], by simp [hs]⟩
  · rw [if_neg hcount]
    exact ⟨.fill hslots rfl rfl htype rfl, h.events, by simpa using hfills, by simp, by simp,
      by simp, fun _ _ => hm, by simp [htype], by simp⟩

/-- The invariant is kept by a call that answers a settings request. -/
theorem ClientInv.settingsStep {env : CallEnv} {c : Client} (h : ClientInv c)
    (hs : c.state = .CLIENT_STATE_SETTINGS) : ClientInv (clientStateSettings env c).1 := by
  have hslots := h.slot_none (by simp [hs])
  have hfills := h.fills_registered (by simp [hs])
  obtain ⟨htype, hE2⟩ := h.settings hs
  obtain ⟨w, e, heq⟩ := clientStateSettings_eq env h hs
  rw [heq]
  by_cases hmac : c.searchOutMsg.mac.bytes = (getBuffer c).mac.bytes
  · rw [if_pos hmac]
    exact ⟨.fill hslots rfl rfl htype rfl, h.events, by simpa using hfills, by simp, by simp,
      by simp, by simp [htype], fun _ _ => rfl, by simp⟩
  · rw [if_neg hmac]
    -- the request stays in the buffer, with the MAC it was refused for
    refine ⟨.empty (by simp) hslots, h.events, by simpa using hfills, by simp, by simp, by simp,
      by simp, by simp, fun _ => ⟨?_, fun _ => hmac⟩⟩
    show c.buffer.getD 0 0 ≠ 0xE0
    rw [hE2]
    decide

/-- The first byte of the buffer after a reply is the type of the reply. -/
theorem SendCallback.run_buffer (f : SendCallback) (c : Client) :
    ((f.run c).1.buffer.getD 0 0 : UInt8) =
      match f with
      | .client_sendSettMsg => c.settingsMsg.msg_type
      | .client_sendSearchMsg => c.searchOutMsg.msg_type := by
  cases f <;> rfl

/-- The invariant is kept by a call that sends. -/
theorem ClientInv.send {c : Client} (h : ClientInv c) (hs : c.state = .CLIENT_STATE_SEND) :
    ClientInv (clientStateSend c).1 := by
  have hfills := h.fills_registered (by simp [hs])
  obtain ⟨f, hf, -, heq⟩ := clientStateSend_eq h hs
  have hslots : ∀ t, Function.update c.eventSendMsg c.msgType none t = none := by
    intro t
    by_cases hne : t = c.msgType
    · rw [hne, Function.update_self]
    · rw [Function.update_of_ne hne, h.slots.slots, if_neg (fun hst => hne hst.2)]
  rw [heq]
  refine ⟨.empty (by simp [SendCallback.run, sendBuffer]) hslots, h.events,
    by simpa [SendCallback.run, sendBuffer] using hfills, by simp [SendCallback.run, sendBuffer],
    by simp [SendCallback.run, sendBuffer], by simp [SendCallback.run, sendBuffer],
    by simp [SendCallback.run, sendBuffer], by simp [SendCallback.run, sendBuffer], fun _ => ?_⟩
  -- the reply has taken the place of the request in the buffer
  have hbuffer := f.run_buffer { c with state := .CLIENT_STATE_RELOAD }
  dsimp only at hbuffer ⊢
  rw [hbuffer]
  cases htype : c.msgType with
  | type_searchMsg =>
      rw [htype] at hf
      cases hf
      have hsearch := h.search hs htype
      simp [hsearch]
  | type_settingsMsg =>
      rw [htype] at hf
      cases hf
      have hack := h.ack hs htype
      simp [hack]
  | type_idle =>
      rw [htype] at hf
      cases hf
  | type_reload =>
      rw [htype] at hf
      cases hf

/-- The invariant is kept by a call that reloads. -/
theorem ClientInv.reload {c : Client} (h : ClientInv c) (hs : c.state = .CLIENT_STATE_RELOAD) :
    ClientInv (clientStateReload c).1 := by
  have hslots := h.slot_none (by simp [hs])
  have hfills := h.fills_registered (by simp [hs])
  refine ⟨.empty (by simp [clientStateReload]) hslots, fun f hf => ?_,
    by simpa [clientStateReload] using hfills, by simp [clientStateReload],
    by simp [clientStateReload], by simp [clientStateReload], by simp [clientStateReload],
    by simp [clientStateReload], fun _ => h.left (.inr (.inr hs))⟩
  have hevents := h.events f hf
  simp [clientStateReload, hevents]

/-- The invariant is kept by the first call. -/
theorem ClientInv.start {env : CallEnv} {c : Client} (h : ClientInv c)
    (hs : c.state = .CLIENT_SATE_INIT) : ClientInv (clientStateInit env c) := by
  have hslots := h.slot_none (by simp [hs])
  have hfills := h.fills
  rw [if_pos hs] at hfills
  refine ⟨.empty (by simp [clientStateInit]) hslots, h.events, ?_, by simp [clientStateInit],
    by simp [clientStateInit], by simp [clientStateInit], by simp [clientStateInit],
    by simp [clientStateInit], fun _ => h.left (.inl hs)⟩
  simp only [clientStateInit, hfills]
  rfl

/-- Every call keeps the invariant. -/
theorem ClientInv.step {c : Client} (h : ClientInv c) (env : CallEnv) :
    ClientInv (clientHandler env c).1 := by
  unfold clientHandler
  cases hs : c.state with
  | CLIENT_SATE_IDLE => exact absurd hs h.working
  | CLIENT_SATE_INIT => exact h.start hs
  | CLIENT_STATE_WAIT => exact h.wait hs
  | CLIENT_STATE_FILL_MSG => exact h.fillMsg hs
  | CLIENT_STATE_SEND => exact h.send hs
  | CLIENT_STATE_SETTINGS => exact h.settingsStep hs
  | CLIENT_STATE_RELOAD => exact h.reload hs

/-- The state between two calls of a run. -/
theorem clientInv_of_exec {vs : List ClientVisit} {tr : List Seen} {c : Client}
    (h : Exec clientMachine initClient vs tr c) : ClientInv c := by
  refine h.inv (fun c _ => ClientInv c) clientInv_init (fun s tr env s' evs hI hs => ?_)
  obtain ⟨-, rfl, -⟩ := clientMachine_step.mp hs
  exact hI.step env

/-! ## The work since a datagram -/

/-- The byte taken for the command of a datagram. -/
def commandOf (v : ClientVisit) : UInt8 := (netGetCommand v.act.received v.state).2

/-- The work a datagram does cause. -/
def handled (v : ClientVisit) : List Work :=
  if commandOf v = 0xE0 then searchWork
  else if commandOf v = 0xE2 ∧ v.state.searchOutMsg.mac.bytes = comparedMac v then
    [.reply .client_sendSettMsg]
  else []

/-- Where the client stands with the datagram of `v`, after the calls `us`. -/
structure Answering (v : ClientVisit) (us : List ClientVisit) (c : Client) : Prop where
  bufferLen : c.bufferLen = (netGetCommand v.act.received v.state).1.bufferLen
  started : c.state ≠ .CLIENT_SATE_INIT
  filling : c.state = .CLIENT_STATE_FILL_MSG → commandOf v = 0xE0 ∧ us.length = c.count ∧
    works us = (fillCallbacks.take c.count).map .fill
  settings : c.state = .CLIENT_STATE_SETTINGS → commandOf v = 0xE2 ∧ us = [] ∧
    c.searchOutMsg = v.state.searchOutMsg ∧
    getBuffer c = getBuffer (netGetCommand v.act.received v.state).1
  sending : c.state = .CLIENT_STATE_SEND → us.length ≤ 5 ∧
    ∃ f, handlerOf c.msgType = some f ∧ handled v = works us ++ [.reply f]
  sent : c.state = .CLIENT_STATE_RELOAD → us.length ≤ 6 ∧ works us = handled v
  done : c.state = .CLIENT_STATE_WAIT → us.length ≤ 7 ∧ works us = handled v

theorem works_snoc (us : List ClientVisit) (u : ClientVisit) :
    works (us ++ [u]) = works us ++ workOf u := by
  simp [works]

/-- Only `CLIENT_STATE_SEND` sends. -/
theorem seen_work_eq_nil {env : CallEnv} {c : Client} (hs : c.state ≠ .CLIENT_STATE_SEND) :
    (clientHandler env c).2.2.filterMap Seen.work = [] := by
  unfold clientHandler
  cases hstate : c.state with
  | CLIENT_SATE_IDLE => rfl
  | CLIENT_SATE_INIT => rfl
  | CLIENT_STATE_WAIT => rfl
  | CLIENT_STATE_FILL_MSG => rfl
  | CLIENT_STATE_SEND => exact absurd hstate hs
  | CLIENT_STATE_SETTINGS =>
      by_cases hmac : c.searchOutMsg.mac.bytes = (getBuffer c).mac.bytes
      · obtain ⟨w, hset⟩ := clientStateSettings_refused env hmac
        simp [hset, Seen.work]
      · obtain ⟨w, hset⟩ := clientStateSettings_ignored env hmac
        simp [hset, Seen.work]
  | CLIENT_STATE_RELOAD =>
      rw [List.filterMap_eq_nil_iff]
      intro e he
      simp only [clientStateReload, List.mem_append] at he
      rcases he with he | he <;> split at he <;> simp at he <;> subst he <;> rfl

/-- A call that neither fills nor sends does no work. -/
theorem workOf_eq_nil {u : ClientVisit} (hfill : u.state.state ≠ .CLIENT_STATE_FILL_MSG)
    (hsend : u.state.state ≠ .CLIENT_STATE_SEND) : workOf u = [] := by
  rw [workOf, seen_work_eq_nil hsend, List.append_nil, fillOf, if_neg (fun h => hfill h.1)]

/-- The datagram has just been received. -/
theorem Answering.begin {c : Client} (h : ClientInv c) (hs : c.state = .CLIENT_STATE_WAIT)
    (tr : List Seen) (env : CallEnv) :
    Answering ⟨c, tr, env⟩ [] (clientStateWait env c) := by
  rw [clientStateWait_eq h]
  obtain ⟨buffer, len, hc, hcmd⟩ := netGetCommand_eq env.received c
  have hcommand : commandOf ⟨c, tr, env⟩ = (netGetCommand env.received c).2 := rfl
  dsimp only
  rw [hc]
  by_cases hE0 : (netGetCommand env.received c).2 = 0xE0
  · rw [if_pos hE0]
    exact ⟨by simp [hc], by simp, fun _ => ⟨hcommand.trans hE0, rfl, rfl⟩, by simp, by simp,
      by simp, by simp⟩
  · rw [if_neg hE0]
    by_cases hE2 : (netGetCommand env.received c).2 = 0xE2
    · rw [if_pos hE2]
      exact ⟨by simp [hc], by simp, by simp,
        fun _ => ⟨hcommand.trans hE2, rfl, rfl, by rw [hc]; rfl⟩, by simp, by simp, by simp⟩
    · rw [if_neg hE2]
      have hnothing : handled ⟨c, tr, env⟩ = [] := by
        rw [handled, hcommand, if_neg hE0, if_neg (fun h => hE2 h.1)]
      by_cases hE4 : (netGetCommand env.received c).2 = 0xE4
      · rw [if_pos hE4]
        exact ⟨by simp [hc], by simp [hs], by simp [hs], by simp [hs], by simp [hs], by simp [hs],
          fun _ => ⟨by simp, hnothing.symm⟩⟩
      · rw [if_neg hE4]
        exact ⟨by simp [hc], by simp [hs], by simp [hs], by simp [hs], by simp [hs], by simp [hs],
          fun _ => ⟨by simp, hnothing.symm⟩⟩

section Steps

variable {v : ClientVisit} {us : List ClientVisit} {c : Client}

/-- The next fill callback has run, or the reply is about to be sent. -/
theorem Answering.fillMsg (ha : Answering v us c) (h : ClientInv c)
    (hs : c.state = .CLIENT_STATE_FILL_MSG) (tr : List Seen) (env : CallEnv) :
    Answering v (us ++ [⟨c, tr, env⟩]) (clientStateFillMsg env c) := by
  obtain ⟨hE0, hlen, hworks⟩ := ha.filling hs
  obtain ⟨htype, hcount⟩ := h.filling hs
  obtain ⟨m, -, heq⟩ := clientStateFillMsg_eq env h hs
  have hwork : workOf ⟨c, tr, env⟩ = fillOf c := by
    rw [workOf, seen_work_eq_nil (by simp [hs]), List.append_nil]
  have hsnoc := works_snoc us ⟨c, tr, env⟩
  rw [hwork, hworks, fillOf, h.fills_registered (by simp [hs])] at hsnoc
  have hmax : CMD_MAX = 4 := rfl
  rw [heq]
  by_cases hmore : c.count < CMD_MAX
  · rw [if_pos ⟨hs, hmore⟩] at hsnoc
    rw [if_pos hmore]
    refine ⟨ha.bufferLen, by simp [hs], fun _ => ⟨hE0, by simp [hlen], ?_⟩, by simp [hs],
      by simp [hs], by simp [hs], by simp [hs]⟩
    rw [hsnoc]
    show _ = (fillCallbacks.take (c.count + 1)).map Work.fill
    have hfour : ∀ n < 4, (fillCallbacks.take n).map Work.fill ++
        ((registered.getD n none).map Work.fill).toList =
          (fillCallbacks.take (n + 1)).map Work.fill := by decide
    exact hfour c.count (by omega)
  · have hall : c.count = 4 := by omega
    rw [if_neg (fun h => hmore h.2), List.append_nil, hall] at hsnoc
    rw [if_neg hmore]
    refine ⟨ha.bufferLen, by simp, by simp, by simp,
      fun _ => ⟨by simp [hlen, hall], .client_sendSearchMsg, by simp [htype, handlerOf], ?_⟩,
      by simp, by simp⟩
    rw [hsnoc, handled, if_pos hE0]
    rfl

/-- The settings request has been looked at. -/
theorem Answering.settingsStep (ha : Answering v us c) (h : ClientInv c)
    (hs : c.state = .CLIENT_STATE_SETTINGS) (tr : List Seen) (env : CallEnv) :
    Answering v (us ++ [⟨c, tr, env⟩]) (clientStateSettings env c).1 := by
  obtain ⟨hE2, rfl, hsearch, hbuffer⟩ := ha.settings hs
  have hcompared : (getBuffer c).mac.bytes = comparedMac v := by
    rw [hbuffer]
    rfl
  obtain ⟨htype, -⟩ := h.settings hs
  have hcommand : commandOf v ≠ 0xE0 := by
    rw [hE2]
    decide
  have hwork : workOf ⟨c, tr, env⟩ = [] := workOf_eq_nil (by simp [hs]) (by simp [hs])
  have hworks : works ([] ++ [⟨c, tr, env⟩]) = [] := by rw [works_snoc, hwork]; rfl
  obtain ⟨w, e, heq⟩ := clientStateSettings_eq env h hs
  rw [heq]
  by_cases hmac : c.searchOutMsg.mac.bytes = (getBuffer c).mac.bytes
  · rw [if_pos hmac]
    rw [hsearch, hcompared] at hmac
    refine ⟨ha.bufferLen, by simp, by simp, by simp,
      fun _ => ⟨by simp, .client_sendSettMsg, by simp [htype, handlerOf], ?_⟩, by simp, by simp⟩
    rw [hworks, handled, if_neg hcommand, if_pos ⟨hE2, hmac⟩]
    rfl
  · rw [if_neg hmac]
    rw [hsearch, hcompared] at hmac
    refine ⟨ha.bufferLen, by simp, by simp, by simp, by simp, by simp,
      fun _ => ⟨by simp, ?_⟩⟩
    rw [hworks, handled, if_neg hcommand, if_neg (fun h => hmac h.2)]

/-- The reply has been sent. -/
theorem Answering.send (ha : Answering v us c) (h : ClientInv c)
    (hs : c.state = .CLIENT_STATE_SEND) (tr : List Seen) (env : CallEnv) :
    Answering v (us ++ [⟨c, tr, env⟩]) (clientStateSend c).1 := by
  obtain ⟨hlen, f, hf, hhandled⟩ := ha.sending hs
  obtain ⟨f', hf', -, heq⟩ := clientStateSend_eq h hs
  rw [hf] at hf'
  cases hf'
  have hwork : workOf ⟨c, tr, env⟩ = [.reply f] := by
    rw [workOf, fillOf, if_neg (by simp [hs])]
    rw [clientHandler, hs]
    simp only [heq]
    rfl
  rw [heq]
  refine ⟨ha.bufferLen, by simp [SendCallback.run, sendBuffer],
    by simp [SendCallback.run, sendBuffer], by simp [SendCallback.run, sendBuffer],
    by simp [SendCallback.run, sendBuffer], fun _ => ⟨?_, ?_⟩,
    by simp [SendCallback.run, sendBuffer]⟩
  · rw [List.length_append, List.length_singleton]
    omega
  · rw [works_snoc, hwork, hhandled]

/-- The client waits again. -/
theorem Answering.reload (ha : Answering v us c) (hs : c.state = .CLIENT_STATE_RELOAD)
    (tr : List Seen) (env : CallEnv) :
    Answering v (us ++ [⟨c, tr, env⟩]) (clientStateReload c).1 := by
  obtain ⟨hlen, hworks⟩ := ha.sent hs
  have hwork : workOf ⟨c, tr, env⟩ = [] := workOf_eq_nil (by simp [hs]) (by simp [hs])
  refine ⟨ha.bufferLen, by simp [clientStateReload], by simp [clientStateReload],
    by simp [clientStateReload], by simp [clientStateReload], by simp [clientStateReload],
    fun _ => ⟨?_, ?_⟩⟩
  · rw [List.length_append, List.length_singleton]
    omega
  · rw [works_snoc, hwork, hworks, List.append_nil]

/-- Every call that does not wait brings the datagram on. -/
theorem Answering.step (ha : Answering v us c) (h : ClientInv c)
    (hbusy : c.state ≠ .CLIENT_STATE_WAIT) (tr : List Seen) (env : CallEnv) :
    Answering v (us ++ [⟨c, tr, env⟩]) (clientHandler env c).1 := by
  unfold clientHandler
  cases hs : c.state with
  | CLIENT_SATE_IDLE => exact absurd hs h.working
  | CLIENT_SATE_INIT => exact absurd hs ha.started
  | CLIENT_STATE_WAIT => exact absurd hs hbusy
  | CLIENT_STATE_FILL_MSG => exact ha.fillMsg h hs tr env
  | CLIENT_STATE_SEND => exact ha.send h hs tr env
  | CLIENT_STATE_SETTINGS => exact ha.settingsStep h hs tr env
  | CLIENT_STATE_RELOAD => exact ha.reload hs tr env

end Steps

/-! ## Runs -/

/-- The calls since the last datagram, after one call more. -/
theorem since_snoc {vs us' : List ClientVisit} {u v : ClientVisit} (h : Since (vs ++ [u]) v us') :
    (us' = [] ∧ v = u ∧ Waits u) ∨ ∃ us, us' = us ++ [u] ∧ Since vs v us ∧ ¬ Waits u := by
  obtain ⟨⟨ws, heq⟩, hwaits, hbusy⟩ := h
  rcases us'.eq_nil_or_concat with rfl | ⟨us, u', rfl⟩
  · obtain ⟨-, hv⟩ := List.append_inj' heq rfl
    rw [List.singleton_inj] at hv
    exact .inl ⟨rfl, hv.symm, hv ▸ hwaits⟩
  · have hsplit : vs ++ [u] = (ws ++ v :: us) ++ [u'] := by simpa using heq
    obtain ⟨hvs, hu⟩ := List.append_inj' hsplit rfl
    rw [List.singleton_inj] at hu
    subst hu
    rw [List.concat_eq_append, List.forall_mem_append, List.forall_mem_singleton] at hbusy
    exact .inr ⟨us, List.concat_eq_append, ⟨⟨ws, hvs⟩, hwaits, hbusy.1⟩, hbusy.2⟩

section Runs

variable {vs : List ClientVisit} {tr : List Seen} {c : Client}

/-- Wherever a run stands, it is answering its last datagram. -/
theorem answering_of_exec (h : Exec clientMachine initClient vs tr c) :
    ∀ v us, Since vs v us → Answering v us c := by
  have hinv : ClientInv c ∧ ∀ v us, Since vs v us → Answering v us c := by
    refine h.inv_run (fun vs c _ => ClientInv c ∧ ∀ v us, Since vs v us → Answering v us c)
      ⟨clientInv_init, ?_⟩ ?_
    · rintro v us ⟨⟨ws, heq⟩, -⟩
      simp at heq
    · rintro vs s tr env s' evs ⟨hI, hall⟩ hs
      obtain ⟨-, rfl, -⟩ := clientMachine_step.mp hs
      refine ⟨hI.step env, fun v us hsince => ?_⟩
      rcases since_snoc hsince with ⟨rfl, rfl, hwaits⟩ | ⟨us, rfl, hsince, hbusy⟩
      · have hstate : s.state = .CLIENT_STATE_WAIT := hwaits
        rw [clientHandler, hstate]
        exact .begin hI hstate tr env
      · exact (hall v us hsince).step hI hbusy tr env
  exact hinv.2

/-- A datagram is dealt with in at most seven calls. -/
theorem Answering.length_le {v : ClientVisit} {us : List ClientVisit} (ha : Answering v us c)
    (h : ClientInv c) : us.length ≤ 7 := by
  cases hs : c.state with
  | CLIENT_SATE_IDLE => exact absurd hs h.working
  | CLIENT_SATE_INIT => exact absurd hs ha.started
  | CLIENT_STATE_WAIT => exact (ha.done hs).1
  | CLIENT_STATE_FILL_MSG =>
      have hlen := (ha.filling hs).2.1
      have hcount := (h.filling hs).2
      have hmax : CMD_MAX = 4 := rfl
      omega
  | CLIENT_STATE_SEND =>
      have hlen := (ha.sending hs).1
      omega
  | CLIENT_STATE_SETTINGS => simp [(ha.settings hs).2.1]
  | CLIENT_STATE_RELOAD =>
      have hlen := (ha.sent hs).1
      omega

/-- **A datagram causes the work it should exactly when it is taken for one for the right
device.** -/
theorem handled_eq_iff {v : ClientVisit} (h : ClientInv v.state) (hw : Waits v) :
    handled v = answerTo v.state.switchNetParam.mac_addr.bytes v.act.received ↔ Addressed v := by
  unfold handled Addressed
  cases hrec : v.act.received with
  | none =>
      -- what is left in the buffer is no request for this device
      have hleft := h.left (.inr (.inl hw))
      have hcommand : commandOf v = v.state.buffer.getD 0 0 := by
        rw [commandOf, hrec]
        rfl
      have hmac : comparedMac v = v.state.settingsMsg.mac.bytes := by
        rw [comparedMac, hrec]
        rfl
      rw [hcommand, hmac, if_neg hleft.1, if_neg (fun hE => hleft.2 hE.1 hE.2)]
      simp [answerTo]
  | some d =>
      have hcommand : commandOf v = d.head?.getD 0 := by
        rw [commandOf, hrec]
        cases d with
        | nil => rfl
        | cons b d => rfl
      rw [hcommand, answerTo]
      cases d with
      | nil => simp
      | cons b d =>
          by_cases hE0 : b = 0xE0
          · simp [hE0]
          · by_cases hE2 : b = 0xE2
            · by_cases hsearch : v.state.searchOutMsg.mac.bytes = comparedMac v
              · by_cases hown : macOf (b :: d) = v.state.switchNetParam.mac_addr.bytes
                · simp [hE2, hsearch, hE2 ▸ hown]
                · simp [hE2, hsearch, hE2 ▸ hown]
              · by_cases hown : macOf (b :: d) = v.state.switchNetParam.mac_addr.bytes
                · simp [hE2, hsearch, hE2 ▸ hown]
                · simp [hE2, hsearch, hE2 ▸ hown]
            · simp [hE0, hE2]

/-- **The slots are right in every run, and every datagram is answered as it should be exactly when
every settings request is taken for one for the device it names.** -/
theorem answered_iff (h : Exec clientMachine initClient vs tr c) :
    ((∀ v ∈ vs, SlotsRight v.state) ∧ SlotsRight c ∧ Answered vs) ↔
      ∀ v us, Cycle vs v us → Addressed v := by
  have hvisit : ∀ {ws w rest}, vs = ws ++ w :: rest →
      Exec clientMachine initClient ws w.past w.state := fun heq => h.upTo heq
  have hcycle : ∀ v us, Cycle vs v us → (works us =
      answerTo v.state.switchNetParam.mac_addr.bytes v.act.received ↔ Addressed v) := by
    rintro v us ⟨ws, w, rest, heq, hw, hsince⟩
    have hrun := hvisit heq
    have hdone := (answering_of_exec hrun v us hsince).done hw
    obtain ⟨ws', rfl⟩ := hsince.split
    rw [hdone.2]
    exact handled_eq_iff (clientInv_of_exec (hrun.upTo rfl)) hsince.waits
  constructor
  · rintro ⟨-, -, hanswered⟩ v us hc
    exact (hcycle v us hc).mp (hanswered.answered v us hc)
  · intro hall
    refine ⟨fun v hv => ?_, (clientInv_of_exec h).slots, ⟨fun v us hsince => ?_,
      fun v us hc => (hcycle v us hc).mpr (hall v us hc)⟩⟩
    · obtain ⟨ws, rest, heq⟩ := List.append_of_mem hv
      exact (clientInv_of_exec (hvisit heq)).slots
    · exact (answering_of_exec h v us hsince).length_le (clientInv_of_exec h)

end Runs

/-- A device that starts and answers a find request. -/
theorem answered_iff_find : ∃ vs tr c, Exec clientMachine initClient vs tr c ∧
    vs.map Visit.act = findRun ∧ works vs = searchWork ∧
    (((∀ v ∈ vs, SlotsRight v.state) ∧ SlotsRight c ∧ Answered vs) ↔
      ∀ v us, Cycle vs v us → Addressed v) := by
  obtain ⟨vs, hvs, hact⟩ := Exec.replay clientMachine initClient findRun rfl
  have hpoints := hvs.points_eq
  rw [hact] at hpoints
  exact ⟨vs, _, _, hvs, hact, by rw [hpoints]; decide +kernel, answered_iff hvs⟩

/-- A settings request for this device that comes before the first find request is not
answered. -/
theorem early_settings_unanswered : ¬ ∀ vs tr c, Exec clientMachine initClient vs tr c →
    (∀ v ∈ vs, SlotsRight v.state) ∧ SlotsRight c ∧ Answered vs := by
  intro h
  have hrun := (((Exec.empty clientMachine initClient).snoc (a := callEnv none) rfl).snoc
    (a := callEnv (some knownUser)) rfl).snoc (a := callEnv none) rfl
  have hanswered := (h _ _ _ (hrun.snoc (a := callEnv none) rfl)).2.2.answered
  have hwork := hanswered _ [_] ⟨_, _, [], rfl, by decide +kernel,
    ⟨⟨[_], rfl⟩, by decide +kernel, by decide +kernel⟩⟩
  revert hwork
  decide +kernel

end DeviceMonitor
