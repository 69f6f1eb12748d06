import TfPack.DeviceMonitor.Client
import TfPack.Lib.Trace

set_option autoImplicit false

/-! # The answer to a settings datagram

A settings datagram should be ignored when its MAC is not that of the device, acknowledged with
`ERR_OK` when `user_handler.lua` has applied it, and with `ERR_AUTHENTICATION` otherwise.

`client_settings` tests the MAC flag with `passFlag &= pass_mac`, which also clears the flag of
the hash; nothing sets that again, so the result is never `ERR_OK`
(`clientSettings_result`). And the MAC it compares with is that of the search message, which is
empty until the first find request. A run answers every settings datagram as it should exactly
when it has no datagram that meets one of the two (`settingsRight_iff_of_exec`).
-/

namespace DeviceMonitor

open EventTrace FlagWord StepMachine

/-! ## The answer -/

abbrev ClientVisit := Visit Client CallEnv Seen

/-- What the shell prints for the command of the settings datagram in the buffer. -/
def scriptLines (env : CallEnv) (c : Client) : List Bytes :=
  shellOutput env (cmdCheckHash (getBuffer c) env.beyond)

/-- The result a settings datagram should have: by the MAC of the device and by what the script
prints. -/
def expected (env : CallEnv) (c : Client) : ErrorCode :=
  if c.switchNetParam.mac_addr.bytes ≠ (getBuffer c).mac.bytes then .INFO_MAC_NOT_IDENTICAL
  else if configOk ∈ scriptLines env c then .ERR_OK
  else .ERR_AUTHENTICATION

/-- The call treats the settings datagram as its result `e` says: no script and no reply for
another MAC; else the script, a reply with `e` in it, and a reload only after `ERR_OK`. -/
structure Answers (env : CallEnv) (c : Client) (e : ErrorCode) : Prop where
  seen : (clientHandler env c).2.2 =
    if e = .INFO_MAC_NOT_IDENTICAL then [.settings e]
    else [.popen (cmdCheckHash (getBuffer c) env.beyond) (scriptLines env c), .settings e]
  state : (clientHandler env c).1.state =
    if e = .INFO_MAC_NOT_IDENTICAL then .CLIENT_STATE_WAIT else .CLIENT_STATE_SEND
  status : (clientHandler env c).1.settingsMsg.pass_md5.bytes.head? = some e.val
  reload : ∀ f, f = .CLIENT_EVENT_SYS_RELOAD ∨ f = .CLIENT_EVENT_NET_RELOAD → e ≠ .ERR_OK →
    (clientHandler env c).1.event.has f = c.event.has f

/-- The settings datagram of this step is answered as it should be. -/
def SettingsRight (v : ClientVisit) : Prop :=
  v.state.state = .CLIENT_STATE_SETTINGS → Answers v.act v.state (expected v.act v.state)

/-- The MAC of the datagram is that of the device and that of the search message, or neither; and
the script does not print `config_ok` for the device's own. -/
def Undisturbed (v : ClientVisit) : Prop :=
  v.state.state = .CLIENT_STATE_SETTINGS →
    (v.state.searchOutMsg.mac.bytes = (getBuffer v.state).mac.bytes ↔
      v.state.switchNetParam.mac_addr.bytes = (getBuffer v.state).mac.bytes) ∧
    ¬(v.state.switchNetParam.mac_addr.bytes = (getBuffer v.state).mac.bytes ∧
      configOk ∈ scriptLines v.act v.state)

/-! ## What the code computes -/

/-- The lines of the script set no flag. -/
theorem checkMD5Sum_md5 (printed : List Bytes) {w : Flags PassId}
    (h : w.has .pass_md5 = false) : (checkMD5Sum printed w).has .pass_md5 = false := by
  unfold checkMD5Sum
  induction printed generalizing w with
  | nil => exact h
  | cons output printed ih =>
      rw [List.foldl_cons]
      apply ih
      split_ifs <;> simp [h]

/-- **The result of `client_settings` is never `ERR_OK`**: with the MAC of the search message it is
`ERR_AUTHENTICATION`, whatever the script prints and whatever flags were set before. -/
theorem clientSettings_result (env : CallEnv) (c : Client) :
    (clientSettings env c).2 =
      if c.searchOutMsg.mac.bytes = (getBuffer c).mac.bytes then
        (.ERR_AUTHENTICATION,
          [.popen (cmdCheckHash (getBuffer c) env.beyond) (scriptLines env c)])
      else (.INFO_MAC_NOT_IDENTICAL, []) := by
  unfold clientSettings
  by_cases hmac : c.searchOutMsg.mac.bytes = (getBuffer c).mac.bytes
  · have hmd5 : ∀ w : Flags PassId,
        (checkMD5Sum (scriptLines env c) (w.keep .pass_mac)).has .pass_md5 = false := fun w =>
      checkMD5Sum_md5 _ (by simp)
    simp only [checkMacAddress, hmac, if_true]
    simp [scriptLines] at hmd5 ⊢
    simp [hmd5]
  · simp [checkMacAddress, hmac]

/-- Of the client, `client_settings` changes the message and the flags. -/
theorem clientSettings_client (env : CallEnv) (c : Client) :
    ∃ w, (clientSettings env c).1 = { c with settingsMsg := getBuffer c, passFlag := w } := by
  unfold clientSettings
  dsimp only
  split <;> exact ⟨_, rfl⟩

/-- The client after a settings datagram with another MAC. -/
theorem clientStateSettings_ignored (env : CallEnv) {c : Client}
    (h : c.searchOutMsg.mac.bytes ≠ (getBuffer c).mac.bytes) :
    ∃ w, clientStateSettings env c =
      ({ c with
          settingsMsg := ackSettings (getBuffer c) .INFO_MAC_NOT_IDENTICAL
          passFlag := w
          state := .CLIENT_STATE_WAIT },
        .INFO_MAC_NOT_IDENTICAL, [.settings .INFO_MAC_NOT_IDENTICAL]) := by
  obtain ⟨w, hc⟩ := clientSettings_client env c
  have hr := clientSettings_result env c
  rw [if_neg h] at hr
  refine ⟨w, ?_⟩
  simp [clientStateSettings, hr, hc]

/-- The client after a settings datagram with the MAC of the search message. -/
theorem clientStateSettings_refused (env : CallEnv) {c : Client}
    (h : c.searchOutMsg.mac.bytes = (getBuffer c).mac.bytes) :
    ∃ w, clientStateSettings env c =
      ({ registerSend c .client_sendSettMsg with
          settingsMsg := ackSettings (getBuffer c) .ERR_AUTHENTICATION
          passFlag := w
          state := .CLIENT_STATE_SEND },
        .ERR_AUTHENTICATION,
        [.popen (cmdCheckHash (getBuffer c) env.beyond) (scriptLines env c),
          .settings .ERR_AUTHENTICATION]) := by
  obtain ⟨w, hc⟩ := clientSettings_client env c
  have hr := clientSettings_result env c
  rw [if_pos h] at hr
  refine ⟨w, ?_⟩
  simp only [clientStateSettings, hr, hc, List.cons_append, List.nil_append]
  unfold registerSend
  split <;> rfl

theorem ackSettings_status (d : SettMsg) (e : ErrorCode) :
    (ackSettings d e).pass_md5.bytes.head? = some e.val := rfl

/-- **The call treats the datagram as the result of `client_settings` says**, and as no other. -/
theorem answers_iff {env : CallEnv} {c : Client} (hs : c.state = .CLIENT_STATE_SETTINGS)
    (e : ErrorCode) : Answers env c e ↔
      e = if c.searchOutMsg.mac.bytes = (getBuffer c).mac.bytes then .ERR_AUTHENTICATION
        else .INFO_MAC_NOT_IDENTICAL := by
  have hcall : clientHandler env c = ((clientStateSettings env c).1,
      (clientStateSettings env c).2.1.val, (clientStateSettings env c).2.2) := by
    rw [clientHandler, hs]
  by_cases hmac : c.searchOutMsg.mac.bytes = (getBuffer c).mac.bytes
  · obtain ⟨w, hset⟩ := clientStateSettings_refused env hmac
    rw [if_pos hmac]
    constructor
    · intro h
      have hseen := h.seen
      rw [hcall, hset] at hseen
      split at hseen <;> simp at hseen
      exact hseen.symm
    · rintro rfl
      rw [hset] at hcall
      refine ⟨by rw [hcall]; rfl, by rw [hcall]; rfl, by rw [hcall]; exact ackSettings_status _ _,
        fun f _ _ => ?_⟩
      rw [hcall]
      unfold registerSend
      split <;> rfl
  · obtain ⟨w, hset⟩ := clientStateSettings_ignored env hmac
    rw [if_neg hmac]
    constructor
    · intro h
      have hseen := h.seen
      rw [hcall, hset] at hseen
      split at hseen
      · assumption
      · simp at hseen
    · rintro rfl
      rw [hset] at hcall
      exact ⟨by rw [hcall]; rfl, by rw [hcall]; rfl, by rw [hcall]; exact ackSettings_status _ _,
        fun f _ _ => by rw [hcall]⟩

/-- **A settings datagram is answered as it should be exactly when it is undisturbed.** -/
theorem settingsRight_iff (v : ClientVisit) : SettingsRight v ↔ Undisturbed v := by
  unfold SettingsRight Undisturbed
  refine forall_congr' (fun hs => ?_)
  rw [answers_iff hs, expected]
  by_cases hconf : v.state.switchNetParam.mac_addr.bytes = (getBuffer v.state).mac.bytes
  · by_cases hsearch : v.state.searchOutMsg.mac.bytes = (getBuffer v.state).mac.bytes
    · by_cases hok : configOk ∈ scriptLines v.act v.state <;> simp [hconf, hsearch, hok]
    · by_cases hok : configOk ∈ scriptLines v.act v.state <;> simp [hconf, hsearch, hok]
  · by_cases hsearch : v.state.searchOutMsg.mac.bytes = (getBuffer v.state).mac.bytes <;>
      simp [hconf, hsearch]

/-! ## The status byte sent back -/

/-- The result of `client_settings` in an event. -/
def Seen.result : Seen → Option ErrorCode
  | .settings e => some e
  | _ => none

/-- The last result of `client_settings`. -/
def lastResult (tr : List Seen) : Option ErrorCode := (tr.filterMap Seen.result).getLast?

/-- Every reply to a settings datagram carries the last result, as far as it is long enough; and
there is none for another MAC. -/
def RepliesRight (tr : List Seen) : Prop :=
  ∀ pre bytes post, tr = pre ++ .sent .client_sendSettMsg bytes :: post →
    ∃ e, lastResult pre = some e ∧ e ≠ .INFO_MAC_NOT_IDENTICAL ∧
      ∀ b, bytes[7]? = some b → b = e.val

/-- The event is a reply to a settings datagram. -/
def Seen.isReply : Seen → Bool
  | .sent .client_sendSettMsg _ => true
  | _ => false

/-- The replies so far are right, and a reply that is registered is about to be sent, with the
last result in it. -/
structure ReplyInv (c : Client) (tr : List Seen) : Prop where
  replies : RepliesRight tr
  registered : ∀ t, c.eventSendMsg t = some .client_sendSettMsg →
    c.state = .CLIENT_STATE_SEND ∧ t = c.msgType ∧
      ∃ e, lastResult tr = some e ∧ e ≠ .INFO_MAC_NOT_IDENTICAL ∧
        c.settingsMsg.pass_md5.bytes.head? = some e.val

/-- Events without a reply keep the replies right. -/
theorem RepliesRight.quiet {tr evs : List Seen} (h : RepliesRight tr)
    (hq : ∀ e ∈ evs, e.isReply = false) : RepliesRight (tr ++ evs) := by
  intro pre bytes post htr
  have hnot : Seen.sent .client_sendSettMsg bytes ∉ evs := fun hmem =>
    absurd (hq _ hmem) (by simp [Seen.isReply])
  obtain ⟨mid, hmid, -⟩ := split_before htr hnot
  exact h pre bytes mid hmid

/-- A step outside `CLIENT_STATE_SEND` that registers no reply. -/
theorem ReplyInv.quiet {c c' : Client} {tr evs : List Seen} (h : ReplyInv c tr)
    (hs : c.state ≠ .CLIENT_STATE_SEND)
    (hslots : ∀ t, c'.eventSendMsg t = some .client_sendSettMsg →
      c.eventSendMsg t = some .client_sendSettMsg)
    (hq : ∀ e ∈ evs, e.isReply = false) : ReplyInv c' (tr ++ evs) :=
  ⟨h.replies.quiet hq, fun t ht => absurd (h.registered t (hslots t ht)).1 hs⟩

theorem clientStateWait_slots (env : CallEnv) (c : Client) :
    (clientStateWait env c).eventSendMsg = c.eventSendMsg := by
  have hget : (netGetCommand env.received c).1.eventSendMsg = c.eventSendMsg := by
    unfold netGetCommand
    cases env.received <;> rfl
  unfold clientStateWait
  dsimp only
  cases clientWaitCommand (netGetCommand env.received c).2 with
  | none => split_ifs <;> exact hget
  | some e => split_ifs <;> exact hget

/-- Registering the search reply registers no settings reply. -/
theorem registerSend_search {c : Client} {t : TypeMsg}
    (h : (registerSend c .client_sendSearchMsg).eventSendMsg t = some .client_sendSettMsg) :
    c.eventSendMsg t = some .client_sendSettMsg := by
  unfold registerSend at h
  split at h
  · rcases eq_or_ne t c.msgType with rfl | hne
    · simp at h
    · simpa [Function.update_of_ne hne] using h
  · exact h

theorem clientStateFillMsg_slots {env : CallEnv} {c : Client} {t : TypeMsg}
    (h : (clientStateFillMsg env c).eventSendMsg t = some .client_sendSettMsg) :
    c.eventSendMsg t = some .client_sendSettMsg := by
  have hemit : (clientEmitFill env c).eventSendMsg = c.eventSendMsg := by
    unfold clientEmitFill
    split <;> rfl
  unfold clientStateFillMsg at h
  dsimp only at h
  split at h
  · have hreg := registerSend_search h
    rwa [← hemit]
  · rwa [← hemit]

/-- The reply that is sent carries the status byte of the message. -/
theorem sendBuffer_status (c : Client) {b : UInt8}
    (h : (sendBuffer c c.settingsMsg.buff).2[7]? = some b) :
    c.settingsMsg.pass_md5.bytes.head? = some b := by
  have hmac : c.settingsMsg.mac.bytes.length = 6 := c.settingsMsg.mac.length_eq
  have hpass : c.settingsMsg.pass_md5.bytes.length = 32 := c.settingsMsg.pass_md5.length_eq
  have hbuff : c.settingsMsg.buff[7]? = c.settingsMsg.pass_md5.bytes.head? := by
    rw [SettMsg.buff, List.getElem?_cons_succ, List.append_assoc,
      List.getElem?_append_right (by omega), hmac,
      List.getElem?_append_left (by omega), List.head?_eq_getElem?]
  have hlong : 7 < c.settingsMsg.buff.length := by
    simp [SettMsg.buff, hmac, hpass]
    omega
  simp only [sendBuffer, List.getElem?_take] at h
  split at h
  · rwa [List.getElem?_append_left hlong, hbuff] at h
  · cases h

theorem lastResult_append (tr : List Seen) (e : ErrorCode) (evs : List Seen)
    (h : evs.filterMap Seen.result = [e]) : lastResult (tr ++ evs) = some e := by
  rw [lastResult, List.filterMap_append, h, List.getLast?_concat]

/-- The step that sends: what is registered is right, and is unregistered. -/
theorem ReplyInv.send {c : Client} {tr : List Seen} (h : ReplyInv c tr) :
    ReplyInv (clientStateSend c).1 (tr ++ (clientStateSend c).2.2) := by
  unfold clientStateSend
  dsimp only
  cases hslot : c.eventSendMsg c.msgType with
  | none =>
      rw [List.append_nil]
      refine ⟨h.replies, fun t ht => ?_⟩
      have hmsg := (h.registered t ht).2.1
      rw [hmsg, hslot] at ht
      cases ht
  | some f =>
      have hslots : ∀ t, Function.update c.eventSendMsg c.msgType none t ≠
          some .client_sendSettMsg := by
        intro t ht
        rcases eq_or_ne t c.msgType with rfl | hne
        · simp at ht
        · rw [Function.update_of_ne hne] at ht
          exact hne (h.registered t ht).2.1
      refine ⟨?_, fun t ht => absurd ht (hslots t)⟩
      cases f with
      | client_sendSearchMsg => exact h.replies.quiet (by simp [SendCallback.run, Seen.isReply])
      | client_sendSettMsg =>
          obtain ⟨-, -, e, hlast, hne, hstatus⟩ := h.registered _ hslot
          intro pre bytes post htr
          rcases split_last htr with ⟨rfl, heq, -⟩ | ⟨mid, hmid, -⟩
          · refine ⟨e, hlast, hne, fun b hb => ?_⟩
            simp only [Seen.sent.injEq, true_and] at heq
            rw [heq] at hb
            have hbyte := sendBuffer_status { c with state := .CLIENT_STATE_RELOAD } hb
            exact Option.some.inj (hbyte.symm.trans hstatus)
          · exact h.replies pre bytes mid hmid

/-- The step that answers a settings datagram registers a reply with its result in it. -/
theorem ReplyInv.settings {env : CallEnv} {c : Client} {tr : List Seen} (h : ReplyInv c tr)
    (hs : c.state = .CLIENT_STATE_SETTINGS) :
    ReplyInv (clientStateSettings env c).1 (tr ++ (clientStateSettings env c).2.2) := by
  have hsend : c.state ≠ .CLIENT_STATE_SEND := by simp [hs]
  by_cases hmac : c.searchOutMsg.mac.bytes = (getBuffer c).mac.bytes
  · obtain ⟨w, hset⟩ := clientStateSettings_refused env hmac
    rw [hset]
    refine ⟨h.replies.quiet (by simp [Seen.isReply]), fun t ht => ?_⟩
    have hnone : ∀ t, c.eventSendMsg t ≠ some .client_sendSettMsg := fun t ht =>
      hsend (h.registered t ht).1
    have hmsgType : (registerSend c .client_sendSettMsg).msgType = c.msgType := by
      unfold registerSend
      split <;> rfl
    refine ⟨rfl, ?_, .ERR_AUTHENTICATION, lastResult_append tr _ _ rfl, by simp,
      ackSettings_status _ _⟩
    show t = (registerSend c .client_sendSettMsg).msgType
    rw [hmsgType]
    by_contra hne
    change (registerSend c .client_sendSettMsg).eventSendMsg t = _ at ht
    unfold registerSend at ht
    split at ht
    · exact hnone t (by simpa [Function.update_of_ne hne] using ht)
    · exact hnone t ht
  · obtain ⟨w, hset⟩ := clientStateSettings_ignored env hmac
    rw [hset]
    exact h.quiet hsend (fun _ ht => ht) (by simp [Seen.isReply])

/-- Every call keeps the replies right. -/
theorem ReplyInv.step {c : Client} {tr : List Seen} (h : ReplyInv c tr) (env : CallEnv) :
    ReplyInv (clientHandler env c).1 (tr ++ (clientHandler env c).2.2) := by
  unfold clientHandler
  cases hs : c.state with
  | CLIENT_SATE_IDLE => exact h.quiet (by simp [hs]) (fun _ ht => ht) (by simp)
  | CLIENT_SATE_INIT => exact h.quiet (by simp [hs]) (fun _ ht => ht) (by simp)
  | CLIENT_STATE_WAIT =>
      refine h.quiet (by simp [hs]) (fun t ht => ?_) (by simp)
      rwa [clientStateWait_slots] at ht
  | CLIENT_STATE_FILL_MSG =>
      exact h.quiet (by simp [hs]) (fun _ ht => clientStateFillMsg_slots ht) (by simp)
  | CLIENT_STATE_SEND => exact h.send
  | CLIENT_STATE_SETTINGS => exact h.settings hs
  | CLIENT_STATE_RELOAD =>
      refine h.quiet (by simp [hs]) (fun _ ht => ht) ?_
      intro e he
      simp only [clientStateReload, List.mem_append] at he
      rcases he with he | he <;> split at he <;> simp at he <;> subst he <;> rfl

/-! ## Runs -/

/-- **A run answers every settings datagram as it should, and every reply carries the result,
exactly when all its settings datagrams are undisturbed.** -/
theorem settingsRight_iff_of_exec {vs : List ClientVisit} {tr : List Seen} {c : Client}
    (h : Exec clientMachine initClient vs tr c) :
    ((∀ v ∈ vs, SettingsRight v) ∧ RepliesRight tr) ↔ ∀ v ∈ vs, Undisturbed v := by
  have hinit : ReplyInv initClient [] :=
    ⟨fun pre bytes post htr => by simp at htr, fun t ht => by simp [initClient] at ht⟩
  have hinv : ReplyInv c tr := by
    refine h.inv ReplyInv hinit (fun s tr env s' evs hI hs => ?_)
    obtain ⟨-, rfl, rfl⟩ := clientMachine_step.mp hs
    exact hI.step env
  constructor
  · rintro ⟨hright, -⟩ v hv
    exact (settingsRight_iff v).mp (hright v hv)
  · intro hcond
    exact ⟨fun v hv => (settingsRight_iff v).mpr (hcond v hv), hinv.replies⟩

/-! ## A datagram of a known user -/

/-- A device with the MAC `02:00:00:00:00:01`, one user with the hash `abc`, and a call that
receives `received`. -/
def callEnv (received : Option Bytes) : CallEnv where
  socketInit := .ERR_OK
  netInfo := ⟨.ofList _ [2, 0, 0, 0, 0, 1], .ofList _ [], .ofList _ [], .ofList _ []⟩
  report := initClient.searchOutMsg
  received := received
  beyond := []
  userdata := some (some [⟨ascii "login", some (ascii "abc")⟩])
  stray := []

/-- The device starts and answers a find request. -/
def findRun : List CallEnv :=
  [callEnv none, callEnv (some [0xE0]), callEnv none, callEnv none, callEnv none, callEnv none,
    callEnv none, callEnv none, callEnv none]

/-- A settings datagram with the device's MAC, the user's hash and an address. -/
def knownUser : Bytes :=
  0xE2 :: ([2, 0, 0, 0, 0, 1] ++ (CArray.ofList MD5_LEN (ascii "abc")).bytes ++
    ascii "#IPADDRESS=[1]")

/-- The answer to that datagram. -/
theorem settingsRight_iff_of_exec_knownUser : ∃ vs tr c, Exec clientMachine initClient vs tr c ∧
    vs.map Visit.act = findRun ++ [callEnv (some knownUser), callEnv none] ∧
    (((∀ v ∈ vs, SettingsRight v) ∧ RepliesRight tr) ↔ ∀ v ∈ vs, Undisturbed v) := by
  obtain ⟨vs, hvs, hact⟩ := Exec.replay clientMachine initClient
    (findRun ++ [callEnv (some knownUser), callEnv none]) rfl
  exact ⟨vs, _, _, hvs, hact, settingsRight_iff_of_exec hvs⟩

/-- The script applies the settings of the known user, and the reply is
`ERR_AUTHENTICATION`. -/
theorem knownUser_refused : ¬ ∀ vs tr c, Exec clientMachine initClient vs tr c →
    (∀ v ∈ vs, SettingsRight v) ∧ RepliesRight tr := by
  intro h
  obtain ⟨vs, hvs, -⟩ := Exec.replay clientMachine initClient
    (findRun ++ [callEnv (some knownUser)]) rfl
  have hright := (h _ _ _ (hvs.snoc (a := callEnv none) rfl)).1 _
    (List.mem_append_right _ (List.mem_singleton_self _))
  obtain ⟨-, hnot⟩ := (settingsRight_iff _).mp hright (by decide +kernel)
  exact hnot ⟨by decide +kernel, by decide +kernel⟩

end DeviceMonitor
