import TfPack.DeviceMonitor.ReplyLength

set_option autoImplicit false

/-! # What one settings datagram takes from another

`getBuffer` copies the bytes of a datagram over the settings message, which keeps what an earlier,
longer datagram has left behind them, and `checkMD5Sum` reads the message as a C string, into
arrays without looking at its length. The script gets one hash and one message after a datagram,
whatever came before, exactly when the string of the message ends within the datagram, the copies
have room, and the datagram itself fits the settings message (`isolated_iff`). Behind a message
that does not end within its datagram any text can stand that there is room for
(`passes_append_of_unended`).
-/

namespace DeviceMonitor

open FlagWord StepMachine

/-! ## Bytes over bytes -/

/-- `d` copied over the start of `b`. -/
def overlay (d b : Bytes) : Bytes := d ++ b.drop d.length

theorem overlay_length_le (d b : Bytes) : b.length ≤ (overlay d b).length := by
  rw [overlay, List.length_append, List.length_drop]
  omega

/-- What is seen from `k` on: the rest of `d`, and then `b` as before. -/
theorem overlay_drop (d b : Bytes) (k : Nat) :
    (overlay d b).drop k = d.drop k ++ b.drop (max k d.length) := by
  have hmax : d.length + (k - d.length) = max k d.length := by omega
  rw [overlay, List.drop_append, List.drop_drop, hmax]

/-- A string ends within some memory exactly when there is a zero in it. -/
theorem cString_length_lt_iff (memory : Bytes) :
    (cString memory).length < memory.length ↔ 0 ∈ memory := by
  unfold cString
  induction memory with
  | nil => simp
  | cons b memory ih =>
      by_cases hb : b = 0
      · simp [hb]
      · simp [hb, Ne.symm hb, ih]

theorem cString_eq_self {memory : Bytes} (h : 0 ∉ memory) : cString memory = memory := by
  unfold cString
  rw [List.takeWhile_eq_self_iff]
  intro b hb
  have hne : b ≠ 0 := fun hzero => h (hzero ▸ hb)
  simpa using hne

/-- A string ended by a zero. -/
theorem cString_ended {l : Bytes} (h : 0 ∉ l) (rest : Bytes) : cString (l ++ 0 :: rest) = l := by
  have hself := cString_eq_self h
  unfold cString at hself ⊢
  rw [List.takeWhile_append, hself]
  simp

/-! ## The settings message -/

/-- The settings message after the datagram `d`. -/
def received (d : Bytes) (c : Client) : SettMsg :=
  .ofBuff (overlay (d.take MAX_BUFFER_SIZE) c.settingsMsg.buff)

/-- Where the message stands in `buff`. -/
theorem SettMsg.buff_drop_msg (m : SettMsg) (j : Nat) :
    m.buff.drop (39 + j) = m.msg.bytes.drop j := by
  have hhead : (m.msg_type :: (m.mac.bytes ++ m.pass_md5.bytes)).length = 39 := by
    simp [m.mac.length_eq, m.pass_md5.length_eq, MAC_LEN, MD5_LEN]
  have hbuff : m.buff = (m.msg_type :: (m.mac.bytes ++ m.pass_md5.bytes)) ++ m.msg.bytes := rfl
  rw [hbuff, ← hhead, List.drop_length_add_append]

/-- Where the MAC stands in `buff`. -/
theorem SettMsg.buff_drop_mac (m : SettMsg) {j : Nat} (hj : j ≤ 6) :
    (m.buff.drop (1 + j)).take (6 - j) = m.mac.bytes.drop j := by
  have hmac : m.mac.bytes.length = 6 := m.mac.length_eq
  have hbuff : m.buff = [m.msg_type] ++ (m.mac.bytes ++ (m.pass_md5.bytes ++ m.msg.bytes)) := by
    simp [SettMsg.buff]
  have hone : [m.msg_type].length = 1 := rfl
  rw [hbuff, ← hone, List.drop_length_add_append, List.drop_append_of_le_length (by omega),
    List.take_append_of_le_length (by rw [List.length_drop]; omega),
    List.take_of_length_le (by rw [List.length_drop]; omega)]

/-- The hash that is passed: the string at byte 7. -/
theorem hashDm_ofBuff {l : Bytes} (h : 39 ≤ l.length) :
    hashDm (.ofBuff l) = cString ((l.drop 7).take 32) := by
  show cString ((l.drop 7 ++ List.replicate 32 0).take 32) = _
  rw [List.take_append_of_le_length (by rw [List.length_drop]; omega)]

/-- `getBuffer` after a datagram. -/
theorem getBuffer_received {d : Bytes} (h : d ≠ []) (c : Client) :
    getBuffer (netGetCommand (some d) c).1 = received d c := by
  have hpos : 0 < (d.take MAX_BUFFER_SIZE).length := by
    have hlen := List.length_pos_of_ne_nil h
    have hmax : MAX_BUFFER_SIZE = 1550 := rfl
    rw [List.length_take]
    omega
  unfold getBuffer netGetCommand
  dsimp only
  rw [if_pos (by omega), Int.toNat_natCast, List.take_left]
  rfl

theorem take_drop_take (d : Bytes) {k n : Nat} (h : k + n ≤ MAX_BUFFER_SIZE) :
    ((d.take MAX_BUFFER_SIZE).drop k).take n = (d.drop k).take n := by
  rw [List.drop_take, List.take_take, Nat.min_eq_left (by omega)]

/-- **The message after a datagram**: what the datagram has of it, and behind that what was there
before. -/
theorem msg_received {d : Bytes} (h : d.length ≤ 1063) (c : Client) :
    (received d c).msg.bytes = d.drop 39 ++ c.settingsMsg.msg.bytes.drop (d.length - 39) := by
  have hall : d.take MAX_BUFFER_SIZE = d :=
    List.take_of_length_le (h.trans (by decide))
  have hmsg : c.settingsMsg.msg.bytes.length = 1024 := c.settingsMsg.msg.length_eq
  have hstart : max 39 d.length = 39 + (d.length - 39) := by omega
  show ((overlay (d.take MAX_BUFFER_SIZE) c.settingsMsg.buff).drop 39 ++
    List.replicate 1024 0).take 1024 = _
  rw [hall, overlay_drop, hstart, SettMsg.buff_drop_msg]
  apply List.take_left'
  rw [List.length_append, List.length_drop, List.length_drop]
  omega

/-- The hash after a datagram that has all of it. -/
theorem hashDm_received {d : Bytes} (h : 39 ≤ d.length) (c : Client) :
    hashDm (received d c) = cString ((d.drop 7).take 32) := by
  have hmax : MAX_BUFFER_SIZE = 1550 := rfl
  have hlong := overlay_length_le (d.take MAX_BUFFER_SIZE) c.settingsMsg.buff
  rw [c.settingsMsg.buff_length] at hlong
  rw [received, hashDm_ofBuff (by omega), overlay_drop, List.take_append_of_le_length,
    take_drop_take d (by omega)]
  rw [List.length_drop, List.length_take]
  omega

/-! ## What is passed to the script -/

/-- What the call of `checkMD5Sum` passes to the script: the hash and the message of the settings
message, or nothing that could be told when the datagram is longer than `settMsg.buff` or a copy
has no room. -/
def passed (env : CallEnv) (c : Client) : Option (Bytes × Bytes) :=
  if c.bufferLen ≤ c.settingsMsg.buff.length ∧ Fits (getBuffer c) env.beyond then
    some (hashDm (getBuffer c), msgDm (getBuffer c) env.beyond)
  else none

/-- There is a sequence of datagrams that ends with `d`, after which the call of `client_settings`
gets past the MAC, and `p` is what it passes to the script. -/
def Passes (d : Bytes) (p : Option (Bytes × Bytes)) : Prop :=
  ∃ vs v tr c env, Exec clientMachine initClient (vs ++ [v]) tr c ∧
    Waits v ∧ v.act.received = some d ∧ c.state = .CLIENT_STATE_SETTINGS ∧
    c.searchOutMsg.mac.bytes = (getBuffer c).mac.bytes ∧ p = passed env c

/-- **Settings isolation**: after `d` the script gets one hash and one message, whatever came
before. -/
def Isolated (d : Bytes) : Prop := ∃ q, ∀ p, Passes d p → p = some q

/-- The datagram fits the settings message, its message ends within it, and hash and message have
room in the command. -/
structure SelfContained (d : Bytes) : Prop where
  fits : d.length ≤ 1063
  ended : 0 ∈ d.drop 39
  short : (cString ((d.drop 7).take 32)).length + (cString (d.drop 39)).length ≤ 202

/-- What is passed after `d` by a device that waits for it. -/
def told (d : Bytes) (c : Client) : Option (Bytes × Bytes) :=
  let hash := hashDm (received d c)
  let msg := cString (received d c).msg.bytes
  if d.length ≤ 1063 ∧ hash.length + msg.length ≤ 202 then some (hash, msg) else none

theorem passed_eq_told {d : Bytes} {env : CallEnv} {c c' : Client}
    (hlen : c'.bufferLen = ((d.take MAX_BUFFER_SIZE).length : Nat))
    (hbuffer : getBuffer c' = received d c) : passed env c' = told d c := by
  have hmax : MAX_BUFFER_SIZE = 1550 := rfl
  have hroom : c'.bufferLen ≤ c'.settingsMsg.buff.length ↔ d.length ≤ 1063 := by
    rw [hlen, c'.settingsMsg.buff_length, List.length_take]
    omega
  unfold passed told
  simp only [hbuffer, hroom, fits_iff]
  by_cases h : d.length ≤ 1063 ∧
      (hashDm (received d c)).length + (cString (received d c).msg.bytes).length ≤ 202
  · rw [if_pos h, if_pos h, Fits.msgDm_eq ((fits_iff _ _).mpr h.2)]
  · rw [if_neg h, if_neg h]

/-- What is passed after a settings datagram is what some device that waits for it passes. -/
theorem exists_told_of_passes {body : Bytes} {p : Option (Bytes × Bytes)}
    (h : Passes (0xE2 :: body) p) : ∃ c, p = told (0xE2 :: body) c := by
  obtain ⟨vs, v, tr, c, env, hex, hwaits, hrec, hs, -, rfl⟩ := h
  have ha := answering_of_exec hex v [] ⟨⟨vs, rfl⟩, hwaits, by simp⟩
  have hlen := ha.bufferLen
  obtain ⟨-, -, -, hbuffer⟩ := ha.settings hs
  rw [hrec] at hlen hbuffer
  rw [getBuffer_received (by simp)] at hbuffer
  exact ⟨v.state, passed_eq_told hlen hbuffer⟩

/-- A datagram that contains its message passes it, whatever came before. -/
theorem isolated_of_selfContained {body : Bytes} (h : SelfContained (0xE2 :: body)) :
    Isolated (0xE2 :: body) := by
  refine ⟨(cString (((0xE2 :: body).drop 7).take 32), cString ((0xE2 :: body).drop 39)), ?_⟩
  intro p hp
  obtain ⟨c, rfl⟩ := exists_told_of_passes hp
  have hlong : 39 ≤ (0xE2 :: body).length := by
    have hpos := List.length_pos_of_mem h.ended
    rw [List.length_drop] at hpos
    omega
  have hmsg : cString (received (0xE2 :: body) c).msg.bytes = cString ((0xE2 :: body).drop 39) := by
    rw [msg_received h.fits]
    exact cString_append ((cString_length_lt_iff _).mpr h.ended) _
  unfold told
  rw [hmsg, hashDm_received hlong]
  exact if_pos ⟨h.fits, h.short⟩

/-! ## Two sequences with the same end -/

/-- The MAC after a datagram: what the datagram has of it, and behind that what was there
before. -/
theorem mac_received (body : Bytes) (c : Client) :
    (received (0xE2 :: body) c).mac.bytes = body.take 6 ++ c.settingsMsg.mac.bytes.drop body.length
    := by
  have hmax : MAX_BUFFER_SIZE = 1550 := rfl
  have hmac : c.settingsMsg.mac.bytes.length = 6 := c.settingsMsg.mac.length_eq
  have hlong := overlay_length_le ((0xE2 :: body).take MAX_BUFFER_SIZE) c.settingsMsg.buff
  rw [c.settingsMsg.buff_length] at hlong
  have hlen : ((0xE2 :: body).take MAX_BUFFER_SIZE).length = min MAX_BUFFER_SIZE (body.length + 1) :=
    List.length_take
  have hstart : max 1 ((0xE2 :: body).take MAX_BUFFER_SIZE).length =
      1 + (min MAX_BUFFER_SIZE (body.length + 1) - 1) := by omega
  show (((overlay ((0xE2 :: body).take MAX_BUFFER_SIZE) c.settingsMsg.buff).drop 1 ++
    List.replicate 6 0).take 6) = _
  rw [List.take_append_of_le_length (by rw [List.length_drop]; omega), overlay_drop, hstart,
    List.take_append, take_drop_take _ (by omega), List.length_drop, hlen]
  by_cases hshort : body.length ≤ 6
  · have hj : min MAX_BUFFER_SIZE (body.length + 1) - 1 = body.length := by omega
    rw [hj, SettMsg.buff_drop_mac _ hshort]
    rfl
  · have hall : 6 - (min MAX_BUFFER_SIZE (body.length + 1) - 1) = 0 := by omega
    have hpast : c.settingsMsg.mac.bytes.drop body.length = [] :=
      List.drop_eq_nil_of_le (by omega)
    rw [hall, hpast, List.take_zero]
    rfl

/-- Six bytes that no device has for its MAC before its first find request. -/
def ones : Bytes := List.replicate 6 1

/-- The MAC of a datagram that is received over `ones`. -/
def paddedMac (body : Bytes) : CArray MAC_LEN := .ofList MAC_LEN (body ++ ones)

theorem mac_received_ones {c : Client} (h : c.settingsMsg.mac.bytes = ones) (body : Bytes) :
    (received (0xE2 :: body) c).mac.bytes = (paddedMac body).bytes := by
  have hones : ones.length = 6 := rfl
  rw [mac_received, h]
  show _ = ((body ++ ones) ++ List.replicate 6 0).take 6
  rw [List.take_append_of_le_length (by rw [List.length_append]; omega), List.take_append]
  congr 1
  rw [ones, List.drop_replicate, List.take_replicate, Nat.min_eq_left (by omega)]

/-- What a call that fills the search message leaves: the settings message, and, from the first
callback on, the MAC of the device in the search message. -/
theorem clientStateFillMsg_mac (env : CallEnv) {c : Client} (h : ClientInv c)
    (hs : c.state = .CLIENT_STATE_FILL_MSG)
    (hmac : c.count = 0 ∨ c.searchOutMsg.mac = c.switchNetParam.mac_addr) :
    (clientStateFillMsg env c).searchOutMsg.mac = c.switchNetParam.mac_addr ∧
      (clientStateFillMsg env c).switchNetParam = c.switchNetParam ∧
      (clientStateFillMsg env c).settingsMsg = c.settingsMsg := by
  obtain ⟨-, hcount⟩ := h.filling hs
  have hmax : CMD_MAX = 4 := rfl
  have hready := h.events .CLIENT_EVENT_MSG_READY (.inr (.inr rfl))
  have hfills := h.fills_registered (by simp [hs])
  unfold clientStateFillMsg clientEmitFill
  rw [hfills]
  by_cases hmore : c.count < CMD_MAX
  · simp only [if_pos hmore, hready, Bool.false_eq_true, if_false]
    refine ⟨?_, trivial, trivial⟩
    by_cases hzero : c.count = 0
    · rw [hzero]
      rfl
    · -- only the first callback writes the MAC
      have hkept := hmac.resolve_left hzero
      have hcases : c.count = 1 ∨ c.count = 2 ∨ c.count = 3 := by omega
      rcases hcases with hn | hn | hn <;> rw [hn] <;> exact hkept
  · have hkept := hmac.resolve_left (by omega)
    simp only [if_neg hmore, Flags.has_set, if_true, registerSend]
    split <;> exact ⟨hkept, rfl, rfl⟩

section Runs

variable {vs : List ClientVisit} {tr : List Seen} {c : Client}

/-- A device that is about to send waits two calls later, with the messages as they are. -/
theorem exists_sent (h : Exec clientMachine initClient vs tr c)
    (hs : c.state = .CLIENT_STATE_SEND) :
    ∃ vs' tr' c', Exec clientMachine initClient vs' tr' c' ∧ c'.state = .CLIENT_STATE_WAIT ∧
      c'.searchOutMsg = c.searchOutMsg ∧ c'.settingsMsg = c.settingsMsg := by
  obtain ⟨f, -, -, heq⟩ := clientStateSend_eq (clientInv_of_exec h) hs
  have hcall : (clientHandler (callEnv none) c).1 = (clientStateSend c).1 := by
    rw [clientHandler, hs]
  have hsent := h.snoc (clientMachine_step_of_ne (callEnv none) (by simp [hs]))
  rw [hcall, heq, f.run_eq] at hsent
  exact ⟨_, _, _, hsent.snoc (a := callEnv none) rfl, rfl, rfl, rfl⟩

/-- A device that fills the search message comes to wait again, with its MAC in it. -/
theorem exists_filled (n : Nat) (h : Exec clientMachine initClient vs tr c)
    (hs : c.state = .CLIENT_STATE_FILL_MSG) (hn : c.count + n = CMD_MAX)
    (hmac : c.count = 0 ∨ c.searchOutMsg.mac = c.switchNetParam.mac_addr) :
    ∃ vs' tr' c', Exec clientMachine initClient vs' tr' c' ∧ c'.state = .CLIENT_STATE_WAIT ∧
      c'.searchOutMsg.mac = c.switchNetParam.mac_addr ∧ c'.settingsMsg = c.settingsMsg := by
  induction n generalizing vs tr c with
  | zero =>
      have hI := clientInv_of_exec h
      obtain ⟨hmac', -, hsett⟩ := clientStateFillMsg_mac (callEnv none) hI hs hmac
      obtain ⟨m, -, heq⟩ := clientStateFillMsg_eq (callEnv none) hI hs
      rw [if_neg (by omega)] at heq
      have hcall : (clientHandler (callEnv none) c).1 = clientStateFillMsg (callEnv none) c := by
        rw [clientHandler, hs]
      have hnext := h.snoc (clientMachine_step_of_ne (callEnv none) (by simp [hs]))
      rw [hcall] at hnext
      obtain ⟨vs', tr', c', hex, hw, hsearch, hsettings⟩ :=
        exists_sent hnext (by rw [heq])
      exact ⟨vs', tr', c', hex, hw, by rw [hsearch, hmac'], hsettings.trans hsett⟩
  | succ n ih =>
      have hI := clientInv_of_exec h
      obtain ⟨hmac', hnet, hsett⟩ := clientStateFillMsg_mac (callEnv none) hI hs hmac
      obtain ⟨m, -, heq⟩ := clientStateFillMsg_eq (callEnv none) hI hs
      rw [if_pos (by omega)] at heq
      have hcall : (clientHandler (callEnv none) c).1 = clientStateFillMsg (callEnv none) c := by
        rw [clientHandler, hs]
      have hnext := h.snoc (clientMachine_step_of_ne (callEnv none) (by simp [hs]))
      rw [hcall] at hnext
      have hcount : (clientStateFillMsg (callEnv none) c).count = c.count + 1 := by rw [heq]
      obtain ⟨vs', tr', c', hex, hw, hsearch, hsettings⟩ := ih hnext
        (by rw [heq]; exact hs) (by omega) (.inr (by rw [hmac', hnet]))
      exact ⟨vs', tr', c', hex, hw, by rw [hsearch, hnet], hsettings.trans hsett⟩

/-- The call that receives a settings datagram. -/
theorem receive_settings (h : Exec clientMachine initClient vs tr c)
    (hw : c.state = .CLIENT_STATE_WAIT) (body : Bytes) :
    let c₁ := (clientHandler (callEnv (some (0xE2 :: body))) c).1
    c₁.state = .CLIENT_STATE_SETTINGS ∧ c₁.searchOutMsg = c.searchOutMsg ∧
      c₁.switchNetParam = c.switchNetParam ∧
      c₁.bufferLen = (((0xE2 :: body).take MAX_BUFFER_SIZE).length : Nat) ∧
      getBuffer c₁ = received (0xE2 :: body) c := by
  have hcall : (clientHandler (callEnv (some (0xE2 :: body))) c).1 =
      clientStateWait (callEnv (some (0xE2 :: body))) c := by
    rw [clientHandler, hw]
  rw [hcall, clientStateWait_eq (clientInv_of_exec h)]
  exact ⟨rfl, rfl, rfl, rfl, getBuffer_received (by simp) c⟩

/-- What a device that waits passes to the script after one more datagram. -/
theorem passes_of_exec (h : Exec clientMachine initClient vs tr c)
    (hw : c.state = .CLIENT_STATE_WAIT) (body : Bytes)
    (hmac : c.searchOutMsg.mac.bytes = (received (0xE2 :: body) c).mac.bytes) :
    Passes (0xE2 :: body) (told (0xE2 :: body) c) := by
  obtain ⟨hstate, hsearch, -, hlen, hbuffer⟩ := receive_settings h hw body
  have hrun := h.snoc (clientMachine_step_of_ne (callEnv (some (0xE2 :: body))) (by simp [hw]))
  refine ⟨vs, _, _, _, callEnv none, hrun, hw, rfl, hstate, ?_, (passed_eq_told hlen hbuffer).symm⟩
  rw [hsearch, hbuffer]
  exact hmac

/-- A device that waits ignores a settings datagram with another MAC than that of its search
message, and keeps what it has of it. -/
theorem exists_ignored (h : Exec clientMachine initClient vs tr c)
    (hw : c.state = .CLIENT_STATE_WAIT) (body : Bytes)
    (hmac : c.searchOutMsg.mac.bytes ≠ (received (0xE2 :: body) c).mac.bytes) :
    ∃ vs' tr' c', Exec clientMachine initClient vs' tr' c' ∧ c'.state = .CLIENT_STATE_WAIT ∧
      c'.switchNetParam = c.switchNetParam ∧
      c'.settingsMsg = ackSettings (received (0xE2 :: body) c) .INFO_MAC_NOT_IDENTICAL := by
  obtain ⟨hstate, hsearch, hnet, -, hbuffer⟩ := receive_settings h hw body
  have h₁ := h.snoc (clientMachine_step_of_ne (callEnv (some (0xE2 :: body))) (by simp [hw]))
  generalize (clientHandler (callEnv (some (0xE2 :: body))) c).1 = c₁ at hstate hsearch hnet hbuffer h₁
  rw [← hsearch, ← hbuffer] at hmac
  obtain ⟨w, hset⟩ := clientStateSettings_ignored (callEnv none) hmac
  have hcall : (clientHandler (callEnv none) c₁).1 = (clientStateSettings (callEnv none) c₁).1 := by
    rw [clientHandler, hstate]
  -- no script is run, so nothing is copied
  have h₂ := h₁.snoc (clientMachine_step.mpr
    ⟨fun _ heq => absurd heq hmac, hcall.trans (by rw [hset]), rfl⟩)
  exact ⟨_, _, _, h₂, rfl, hnet, by rw [← hbuffer]⟩

/-- A device that waits can answer a find request: the search message then has its MAC. -/
theorem exists_found (h : Exec clientMachine initClient vs tr c)
    (hw : c.state = .CLIENT_STATE_WAIT) :
    ∃ vs' tr' c', Exec clientMachine initClient vs' tr' c' ∧ c'.state = .CLIENT_STATE_WAIT ∧
      c'.searchOutMsg.mac = c.switchNetParam.mac_addr ∧ c'.settingsMsg = c.settingsMsg := by
  have hcall : (clientHandler (callEnv (some [0xE0])) c).1 =
      clientStateWait (callEnv (some [0xE0])) c := by
    rw [clientHandler, hw]
  have hfind := h.snoc (clientMachine_step_of_ne (callEnv (some [0xE0])) (by simp [hw]))
  rw [hcall, clientStateWait_eq (clientInv_of_exec h)] at hfind
  have hfilled := exists_filled 4 hfind rfl rfl (.inl rfl)
  exact hfilled

end Runs

/-! ## A stray datagram before -/

/-- A settings datagram with the MAC `ones`, no hash, and this message. -/
def strayDatagram (left : CArray SETTINGS_MSG_LEN) : Bytes :=
  ones ++ (List.replicate 32 0 ++ left.bytes)

theorem strayDatagram_length (left : CArray SETTINGS_MSG_LEN) :
    (strayDatagram left).length = 1062 := by
  rw [strayDatagram, List.length_append, List.length_append, List.length_replicate,
    left.length_eq]
  rfl

theorem strayDatagram_mac (left : CArray SETTINGS_MSG_LEN) (c : Client) :
    (received (0xE2 :: strayDatagram left) c).mac.bytes = ones := by
  have hold : c.settingsMsg.mac.bytes.length = 6 := c.settingsMsg.mac.length_eq
  have hones : ones.length = 6 := rfl
  have hpast : c.settingsMsg.mac.bytes.drop (strayDatagram left).length = [] :=
    List.drop_eq_nil_of_le (by rw [strayDatagram_length]; omega)
  rw [mac_received, hpast, List.append_nil, strayDatagram, List.take_left' hones]

theorem strayDatagram_msg (left : CArray SETTINGS_MSG_LEN) (c : Client) :
    (received (0xE2 :: strayDatagram left) c).msg.bytes = left.bytes := by
  have hlen : (0xE2 :: strayDatagram left).length = 1063 := by
    rw [List.length_cons, strayDatagram_length]
  have hold : c.settingsMsg.msg.bytes.length = 1024 := c.settingsMsg.msg.length_eq
  have hpast : c.settingsMsg.msg.bytes.drop ((0xE2 :: strayDatagram left).length - 39) = [] :=
    List.drop_eq_nil_of_le (by omega)
  have hhead : (ones ++ List.replicate 32 0).length = 38 := by
    rw [List.length_append, List.length_replicate]
    rfl
  rw [msg_received hlen.le, hpast, List.append_nil, List.drop_succ_cons, strayDatagram,
    ← List.append_assoc, List.drop_left' hhead]

/-- A device with any MAC can have had a stray settings datagram, which it has ignored, and then
have answered a find request. -/
theorem exists_left (mac : CArray MAC_LEN) (left : CArray SETTINGS_MSG_LEN) :
    ∃ vs tr c, Exec clientMachine initClient vs tr c ∧ c.state = .CLIENT_STATE_WAIT ∧
      c.searchOutMsg.mac = mac ∧ c.settingsMsg.mac.bytes = ones ∧
      c.settingsMsg.msg.bytes = left.bytes := by
  -- before the first find request the MAC of the search message is zero
  have hstart := (Exec.empty clientMachine initClient).snoc
    (a := { callEnv none with netInfo := ⟨mac, .ofList _ [], .ofList _ [], .ofList _ []⟩ }) rfl
  have hzeros : List.replicate 6 (0 : UInt8) ≠ ones := by decide
  obtain ⟨vs₁, tr₁, c₁, h₁, hw₁, hnet₁, hsett₁⟩ := exists_ignored hstart rfl (strayDatagram left)
    (by rw [strayDatagram_mac]; exact hzeros)
  obtain ⟨vs₂, tr₂, c₂, h₂, hw₂, hsearch₂, hsett₂⟩ := exists_found h₁ hw₁
  refine ⟨vs₂, tr₂, c₂, h₂, hw₂, hsearch₂.trans (by rw [hnet₁]; rfl), ?_, ?_⟩
  · rw [hsett₂, hsett₁]
    exact strayDatagram_mac left _
  · rw [hsett₂, hsett₁]
    exact strayDatagram_msg left _

/-- After a datagram, whatever message is left behind it. -/
theorem exists_passes_left (body : Bytes) (left : CArray SETTINGS_MSG_LEN) :
    ∃ c, Passes (0xE2 :: body) (told (0xE2 :: body) c) ∧
      c.settingsMsg.msg.bytes = left.bytes := by
  obtain ⟨vs, tr, c, hex, hw, hsearch, hmac, hmsg⟩ := exists_left (paddedMac body) left
  exact ⟨c, passes_of_exec hex hw body (by rw [mac_received_ones hmac, hsearch]), hmsg⟩

/-- After a datagram that does not contain its message, a device can pass nothing that could be
told. -/
theorem not_isolated {body : Bytes} (h : ¬ SelfContained (0xE2 :: body)) :
    ¬ Isolated (0xE2 :: body) := by
  rintro ⟨q, hq⟩
  -- a long message without a zero has been left
  obtain ⟨c, hpass, hmsg⟩ := exists_passes_left body
    ⟨List.replicate 1024 0x41, List.length_replicate⟩
  have htold : told (0xE2 :: body) c = none := by
    refine if_neg (fun ⟨hfits, hroom⟩ => h ?_)
    rw [msg_received hfits, hmsg] at hroom
    have hended : 0 ∈ (0xE2 :: body).drop 39 := by
      by_contra hzero
      have hnozero : 0 ∉ (0xE2 :: body).drop 39 ++
          (List.replicate 1024 (0x41 : UInt8)).drop ((0xE2 :: body).length - 39) := fun hmem =>
        (List.mem_append.mp hmem).elim hzero
          (fun hA => absurd (List.eq_of_mem_replicate (List.mem_of_mem_drop hA)) (by decide))
      rw [cString_eq_self hnozero, List.length_append, List.length_drop, List.length_drop,
        List.length_replicate] at hroom
      omega
    have hlong := List.length_pos_of_mem hended
    rw [List.length_drop] at hlong
    rw [hashDm_received (by omega),
      cString_append ((cString_length_lt_iff _).mpr hended)] at hroom
    exact ⟨hfits, hended, hroom⟩
  have hnone := hq _ hpass
  rw [htold] at hnone
  cases hnone

/-- **After a settings datagram the script gets one hash and one message, whatever came before,
exactly when the datagram contains its message.** -/
theorem isolated_iff (body : Bytes) :
    Isolated (0xE2 :: body) ↔ SelfContained (0xE2 :: body) :=
  ⟨fun hiso => by_contra (fun hnot => not_isolated hnot hiso), isolated_of_selfContained⟩

/-- **Any text can stand behind a message that does not end within its datagram**, as far as the
command has room for it. -/
theorem passes_append_of_unended (body text : Bytes) (hhash : 39 ≤ (0xE2 :: body).length)
    (hopen : 0 ∉ (0xE2 :: body).drop 39) (htext : 0 ∉ text)
    (hroom : (cString (((0xE2 :: body).drop 7).take 32)).length +
      ((0xE2 :: body).drop 39 ++ text).length ≤ 202) :
    Passes (0xE2 :: body)
      (some (cString (((0xE2 :: body).drop 7).take 32), (0xE2 :: body).drop 39 ++ text)) := by
  have hlen : ((0xE2 :: body).drop 39 ++ text).length =
      (0xE2 :: body).length - 39 + text.length := by
    rw [List.length_append, List.length_drop]
  obtain ⟨n, hn⟩ : ∃ n, (0xE2 :: body).length - 39 + (text.length + (n + 1)) = 1024 :=
    ⟨1023 - ((0xE2 :: body).length - 39) - text.length, by omega⟩
  obtain ⟨c, hpass, hmsg⟩ := exists_passes_left body
    ⟨List.replicate ((0xE2 :: body).length - 39) 0 ++ (text ++ 0 :: List.replicate n 0), by
      simp only [List.length_append, List.length_replicate, List.length_cons] at hn ⊢
      exact hn⟩
  have hnozero : 0 ∉ (0xE2 :: body).drop 39 ++ text := fun hmem =>
    (List.mem_append.mp hmem).elim hopen htext
  have hstring : cString (received (0xE2 :: body) c).msg.bytes = (0xE2 :: body).drop 39 ++ text := by
    rw [msg_received (by omega), hmsg, List.drop_left' List.length_replicate, ← List.append_assoc,
      cString_ended hnozero]
  have htold : told (0xE2 :: body) c =
      some (cString (((0xE2 :: body).drop 7).take 32), (0xE2 :: body).drop 39 ++ text) := by
    unfold told
    rw [hstring, hashDm_received hhash]
    exact if_pos ⟨by omega, hroom⟩
  rwa [htold] at hpass

/-- The datagram of `knownUser` ends with its message, without a zero: the script gets that message
after it, or the same with an address mask. -/
theorem knownUser_passes_two :
    Passes knownUser (some (ascii "abc", ascii "#IPADDRESS=[1]")) ∧
      Passes knownUser (some (ascii "abc", ascii "#IPADDRESS=[1]#NETMASK=[2]")) := by
  constructor
  · exact passes_append_of_unended knownUser.tail [] (by decide +kernel) (by decide +kernel)
      (by decide +kernel) (by decide +kernel)
  · exact passes_append_of_unended knownUser.tail (ascii "#NETMASK=[2]") (by decide +kernel)
      (by decide +kernel) (by decide +kernel) (by decide +kernel)

/-- Two sequences that end with that datagram pass two different messages. -/
theorem unended_not_isolated : ¬ ∀ body, Isolated (0xE2 :: body) := by
  intro h
  obtain ⟨q, hq⟩ := h knownUser.tail
  obtain ⟨hshort, hlong⟩ := knownUser_passes_two
  have hsame := (hq _ hshort).trans (hq _ hlong).symm
  exact absurd hsame (by decide +kernel)

end DeviceMonitor
