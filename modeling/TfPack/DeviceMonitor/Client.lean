import TfPack.DeviceMonitor.CheckMd5
import TfPack.DeviceMonitor.UserHandler
import TfPack.Lib.Machine

set_option autoImplicit false

/-! # The device monitor: the client state machine

`client_handler` of `state_handler.c` with the functions it calls, one call a step. Everything a
call reads from outside is in its `CallEnv`: the datagram, what the network and board scripts
report, the user table, and what the shell prints for a text that is not one simple command.
`passFlag` and the event word of `clientInfo` are words of flags.

A call whose message does not fit the arrays of `checkMD5Sum` has no result (`Copies`). Two other
writes beyond an array are outside the model: the bytes a datagram has beyond the settings message
are cut off, and the zero `net_getCommand` writes outside the buffer is left out.
-/

namespace DeviceMonitor

open FlagWord StepMachine

/-! ## Data -/

def MAX_BUFFER_SIZE : Nat := 1550
def CMD_MAX : Nat := 4

/-- `CLIENT_STATE_e`. -/
inductive ClientState
  | CLIENT_SATE_IDLE | CLIENT_SATE_INIT | CLIENT_STATE_WAIT | CLIENT_STATE_FILL_MSG
  | CLIENT_STATE_SEND | CLIENT_STATE_SETTINGS | CLIENT_STATE_RELOAD
  deriving DecidableEq, Repr

/-- The flags of `CLIENT_EVENT_e` that are used. -/
inductive ClientEvent
  | CLIENT_EVENT_FIND | CLIENT_EVENT_MSG_READY | CLIENT_EVENT_SETTINGS | CLIENT_EVENT_UPDATE
  | CLIENT_EVENT_NET_RELOAD | CLIENT_EVENT_SYS_RELOAD
  deriving DecidableEq, Repr

/-- `TYPE_MSG_e`. -/
inductive TypeMsg
  | type_idle | type_searchMsg | type_settingsMsg | type_reload
  deriving DecidableEq, Repr

/-- The functions registered in `eventFillMsg_CallbackArray`. -/
inductive FillCallback
  | fillNetInfo | getTimeInfo | getBoardInfo | getSystemInfo
  deriving DecidableEq, Repr

/-- The functions registered in `eventSendMsg_CallbackArray`. -/
inductive SendCallback
  | client_sendSettMsg | client_sendSearchMsg
  deriving DecidableEq, Repr

/-- The fields of `SWITCH_NET_PARAM` that are sent. -/
structure SwitchNetParam where
  mac_addr : CArray MAC_LEN
  ip_addr : CArray 4
  net_mask : CArray 4
  getWay : CArray 4

/-- `search_out_msg_t`; `mac_entry` is kept as its bytes. -/
structure SearchOutMsg where
  msg_type : UInt8
  dev_type : UInt8
  ip : CArray 4
  mac : CArray MAC_LEN
  dev_descr : CArray 128
  dev_loc : CArray 128
  uptime : CArray 4
  firmware : CArray 4
  mask : CArray 4
  gate : CArray 4
  mac_entry : CArray 160

/-- The member `buff` of the union. -/
def SearchOutMsg.buff (m : SearchOutMsg) : Bytes :=
  m.msg_type :: m.dev_type :: (m.ip.bytes ++ m.mac.bytes ++ m.dev_descr.bytes ++ m.dev_loc.bytes ++
    m.uptime.bytes ++ m.firmware.bytes ++ m.mask.bytes ++ m.gate.bytes ++ m.mac_entry.bytes)

/-- The state of the client: `clientInfo`, `passFlag`, the two messages, the callbacks, the buffer
of `net_utils.c`, `switchNetParam` and the two fields of `getSettingInfo` that are read. -/
structure Client where
  state : ClientState
  event : Flags ClientEvent
  msgType : TypeMsg
  count : Nat
  passFlag : Flags PassId
  searchOutMsg : SearchOutMsg
  settingsMsg : SettMsg
  eventFillMsg : List (Option FillCallback)
  eventSendMsg : TypeMsg → Option SendCallback
  buffer : Bytes
  bufferLen : Int
  switchNetParam : SwitchNetParam
  applyNetwork : UInt8
  applySystem : UInt8

/-- The client when it starts. -/
def initClient : Client where
  state := .CLIENT_SATE_INIT
  event := Flags.none
  msgType := .type_idle
  count := 0
  passFlag := Flags.none
  searchOutMsg := ⟨0, 0, .ofList _ [], .ofList _ [], .ofList _ [], .ofList _ [], .ofList _ [],
    .ofList _ [], .ofList _ [], .ofList _ [], .ofList _ []⟩
  settingsMsg := .ofBuff []
  eventFillMsg := List.replicate 5 none
  eventSendMsg := fun _ => none
  buffer := []
  bufferLen := 0
  switchNetParam := ⟨.ofList _ [], .ofList _ [], .ofList _ [], .ofList _ []⟩
  applyNetwork := 0
  applySystem := 0

/-- What one call reads from outside: the result of `net_socketInit` and what `getNetInfo` finds,
what the other scripts report for the search message, the datagram (`none` when `recvfrom`
fails), the memory behind the settings message, the user table, and the lines a text that is no
command of the script prints. -/
structure CallEnv where
  socketInit : ErrorCode
  netInfo : SwitchNetParam
  report : SearchOutMsg
  received : Option Bytes
  beyond : Bytes
  userdata : RpcdReply
  stray : List Bytes

/-- What a call shows: a command given to `popen`, with the lines it prints; the result of
`client_settings`; a datagram sent; a reload. -/
inductive Seen
  | popen (cmd : Bytes) (printed : List Bytes)
  | settings (errorCode : ErrorCode)
  | sent (callback : SendCallback) (bytes : Bytes)
  | sysReload
  | netReload

/-! ## The network buffer -/

/-- `net_getCommand`: the command is the first byte of the buffer, received or not. -/
def netGetCommand (received : Option Bytes) (c : Client) : Client × UInt8 :=
  let c := match received with
    | none => { c with bufferLen := -1 }
    | some d =>
        let d := d.take MAX_BUFFER_SIZE
        { c with buffer := d ++ 0 :: c.buffer.drop (d.length + 1), bufferLen := d.length }
  (c, c.buffer.getD 0 0)

/-- `getBuffer(.., 0)` into the settings message. -/
def getBuffer (c : Client) : SettMsg :=
  if 0 < c.bufferLen then
    .ofBuff (c.buffer.take c.bufferLen.toNat ++ c.settingsMsg.buff.drop c.bufferLen.toNat)
  else c.settingsMsg

/-- `client_waitCommand`: the event of a command. -/
def clientWaitCommand (cmd : UInt8) : Option ClientEvent :=
  if cmd = 0xE0 then some .CLIENT_EVENT_FIND
  else if cmd = 0xE2 then some .CLIENT_EVENT_SETTINGS
  else if cmd = 0xE4 then some .CLIENT_EVENT_UPDATE
  else none

/-- The bytes `net_sendMsg` sends after `msg` has been copied to the buffer: as many as were
received last. -/
def sendBuffer (c : Client) (msg : Bytes) : Client × Bytes :=
  let c := { c with buffer := msg ++ c.buffer.drop msg.length }
  (c, c.buffer.take c.bufferLen.toNat)

/-! ## Callbacks -/

/-- A function of `eventFillMsg_CallbackArray`. -/
def FillCallback.run (env : CallEnv) (c : Client) (m : SearchOutMsg) : FillCallback → SearchOutMsg
  | .fillNetInfo =>
      let net := c.switchNetParam
      { m with mac := net.mac_addr, ip := net.ip_addr, mask := net.net_mask, gate := net.getWay }
  | .getTimeInfo => { m with uptime := env.report.uptime }
  | .getBoardInfo => { m with dev_type := env.report.dev_type, firmware := env.report.firmware }
  | .getSystemInfo => { m with dev_loc := env.report.dev_loc, dev_descr := env.report.dev_descr }

/-- `client_registerEvent_fillmsg`: the first free entry. -/
def registerFill (f : FillCallback) : List (Option FillCallback) → List (Option FillCallback)
  | [] => []
  | none :: slots => some f :: slots
  | some g :: slots => some g :: registerFill f slots

/-- `client_emitEvent_fillmsg`. -/
def clientEmitFill (env : CallEnv) (c : Client) : Client :=
  if c.count < CMD_MAX then
    let m := match (c.eventFillMsg.getD c.count none) with
      | some f => f.run env c c.searchOutMsg
      | none => c.searchOutMsg
    { c with searchOutMsg := m, count := c.count + 1 }
  else { c with event := c.event.set .CLIENT_EVENT_MSG_READY }

/-- `client_registerEvent_sendmsg`. -/
def registerSend (c : Client) (f : SendCallback) : Client :=
  if c.eventSendMsg c.msgType = none then
    { c with eventSendMsg := Function.update c.eventSendMsg c.msgType (some f) }
  else c

/-- A function of `eventSendMsg_CallbackArray`. -/
def SendCallback.run (c : Client) (f : SendCallback) : Client × List Seen :=
  let r := sendBuffer c (match f with
    | .client_sendSettMsg => c.settingsMsg.buff
    | .client_sendSearchMsg => c.searchOutMsg.buff)
  (r.1, [.sent f r.2])

/-! ## Settings -/

/-- `checkMacAddress`: the flag is cleared at the first byte that differs. The word it returns is
the flags themselves. -/
def checkMacAddress (search : SearchOutMsg) (d : SettMsg) (passFlag : Flags PassId) :
    Flags PassId :=
  if search.mac.bytes = d.mac.bytes then passFlag else passFlag.clear .pass_mac

/-- The loop of `checkMD5Sum` over the lines of the script; `hash_not_valid` is none of those it
knows. -/
def checkMD5Sum (printed : List Bytes) (passFlag : Flags PassId) : Flags PassId :=
  printed.foldl (fun w output =>
    if output = hashError then w.clear .pass_md5
    else if output = msgError then w.clear .pass_md5
    else if output = configError then w.clear .pass_md5
    else w) passFlag

/-- What the shell prints for the command of `checkMD5Sum`. -/
def shellOutput (env : CallEnv) (cmd : Bytes) : List Bytes :=
  match ShellLex.words cmd with
  | some (prog :: args) =>
      if prog = user_handler then (runHashTest env.userdata args[0]? args[1]?).printed
      else env.stray
  | _ => env.stray

/-- `client_settings`. In `passFlag |= f()` the call comes first; it changes `passFlag` itself and
returns it. -/
def clientSettings (env : CallEnv) (c : Client) : Client × ErrorCode × List Seen :=
  let passFlag := (c.passFlag.set .pass_mac).set .pass_md5
  let d := getBuffer c
  let passFlag := checkMacAddress c.searchOutMsg d passFlag
  let passFlag := passFlag.union passFlag
  -- `if (passFlag &= pass_mac)`: the test also stores its result
  let passFlag := passFlag.keep .pass_mac
  let c := { c with settingsMsg := d }
  if passFlag.has .pass_mac then
    let cmd := cmdCheckHash d env.beyond
    let printed := shellOutput env cmd
    let passFlag := checkMD5Sum printed passFlag
    let passFlag := passFlag.union passFlag
    let errorCode := if passFlag.has .pass_md5 then .ERR_OK else .ERR_AUTHENTICATION
    ({ c with passFlag := passFlag }, errorCode, [.popen cmd printed])
  else ({ c with passFlag := passFlag }, .INFO_MAC_NOT_IDENTICAL, [])

/-- The answer `client_handler` prepares: the type of an acknowledgement, and the result as the
first byte of `pass_md5`. -/
def ackSettings (d : SettMsg) (errorCode : ErrorCode) : SettMsg :=
  { d with msg_type := 0xE3, pass_md5 := .ofList _ [errorCode.val] }

/-- The event of a field of `getSettingInfo`. -/
def raiseIf (b : Bool) (f : ClientEvent) (w : Flags ClientEvent) : Flags ClientEvent :=
  if b then w.set f else w

/-- `CLIENT_STATE_SETTINGS`. -/
def clientStateSettings (env : CallEnv) (c : Client) : Client × ErrorCode × List Seen :=
  let r := clientSettings env c
  let c := { r.1 with settingsMsg := ackSettings r.1.settingsMsg r.2.1 }
  let c := match r.2.1 with
    | .ERR_AUTHENTICATION =>
        { registerSend c .client_sendSettMsg with state := .CLIENT_STATE_SEND }
    | .ERR_OK =>
        let c := registerSend c .client_sendSettMsg
        { c with
          event := raiseIf (c.applyNetwork != 0) .CLIENT_EVENT_NET_RELOAD
            (raiseIf (c.applySystem == 1) .CLIENT_EVENT_SYS_RELOAD c.event)
          state := .CLIENT_STATE_SEND }
    | .INFO_MAC_NOT_IDENTICAL => { c with state := .CLIENT_STATE_WAIT }
    | _ => c
  (c, r.2.1, r.2.2 ++ [.settings r.2.1])

/-! ## The handler -/

/-- `CLIENT_SATE_INIT`. -/
def clientStateInit (env : CallEnv) (c : Client) : Client :=
  let slots := registerFill .getSystemInfo (registerFill .getBoardInfo
    (registerFill .getTimeInfo (registerFill .fillNetInfo c.eventFillMsg)))
  { c with
    switchNetParam := env.netInfo
    eventFillMsg := slots
    state := .CLIENT_STATE_WAIT }

/-- `CLIENT_STATE_WAIT`. -/
def clientStateWait (env : CallEnv) (c : Client) : Client :=
  let r := netGetCommand env.received c
  let c := match clientWaitCommand r.2 with
    | some e => { r.1 with event := r.1.event.set e }
    | none => r.1
  let c :=
    if c.event.has .CLIENT_EVENT_FIND then
      { c with
        msgType := .type_searchMsg
        event := c.event.clear .CLIENT_EVENT_FIND
        state := .CLIENT_STATE_FILL_MSG
        count := 0 }
    else c
  if c.event.has .CLIENT_EVENT_SETTINGS then
    { c with
      msgType := .type_settingsMsg
      event := c.event.clear .CLIENT_EVENT_SETTINGS
      state := .CLIENT_STATE_SETTINGS
      count := 0 }
  else c

/-- `CLIENT_STATE_FILL_MSG`. -/
def clientStateFillMsg (env : CallEnv) (c : Client) : Client :=
  let c := clientEmitFill env c
  let c := { c with searchOutMsg := { c.searchOutMsg with msg_type := 0xE1 } }
  if c.event.has .CLIENT_EVENT_MSG_READY then
    let c := { c with event := c.event.clear .CLIENT_EVENT_MSG_READY }
    { registerSend c .client_sendSearchMsg with state := .CLIENT_STATE_SEND }
  else c

/-- `CLIENT_STATE_SEND`: the registered function is called and its entry emptied. -/
def clientStateSend (c : Client) : Client × UInt8 × List Seen :=
  let c := { c with state := .CLIENT_STATE_RELOAD }
  match c.eventSendMsg c.msgType with
  | none =>
      (c, ErrorCode.ERR_OBJ_NOT_FOUND.val ||| ErrorCode.ERR_OBJ_NOT_FOUND.val, [])
  | some f =>
      let r := f.run c
      ({ r.1 with eventSendMsg := Function.update r.1.eventSendMsg r.1.msgType none },
        ErrorCode.ERR_OK.val, r.2)

/-- `CLIENT_STATE_RELOAD`. -/
def clientStateReload (c : Client) : Client × List Seen :=
  let seen := (if c.event.has .CLIENT_EVENT_SYS_RELOAD then [Seen.sysReload] else []) ++
    (if c.event.has .CLIENT_EVENT_NET_RELOAD then [Seen.netReload] else [])
  ({ c with
      event := (c.event.clear .CLIENT_EVENT_SYS_RELOAD).clear .CLIENT_EVENT_NET_RELOAD
      state := .CLIENT_STATE_WAIT }, seen)

/-- `client_handler`: the client after the call, the result, and what the call shows. -/
def clientHandler (env : CallEnv) (c : Client) : Client × UInt8 × List Seen :=
  match c.state with
  | .CLIENT_SATE_IDLE => (c, ErrorCode.ERR_OK.val, [])
  | .CLIENT_SATE_INIT => (clientStateInit env c, env.socketInit.val, [])
  | .CLIENT_STATE_WAIT => (clientStateWait env c, ErrorCode.ERR_OK.val, [])
  | .CLIENT_STATE_FILL_MSG => (clientStateFillMsg env c, ErrorCode.ERR_OK.val, [])
  | .CLIENT_STATE_SEND => clientStateSend c
  | .CLIENT_STATE_SETTINGS =>
      let r := clientStateSettings env c
      (r.1, r.2.1.val, r.2.2)
  | .CLIENT_STATE_RELOAD =>
      let r := clientStateReload c
      (r.1, ErrorCode.ERR_OK.val, r.2)

/-- The call copies within the arrays of `checkMD5Sum`: it has no settings datagram for the
device, or hash and message fit. -/
def Copies (env : CallEnv) (c : Client) : Prop :=
  c.state = .CLIENT_STATE_SETTINGS → c.searchOutMsg.mac.bytes = (getBuffer c).mac.bytes →
    Fits (getBuffer c) env.beyond

instance (env : CallEnv) (c : Client) : Decidable (Copies env c) :=
  inferInstanceAs (Decidable (_ → _ → _))

/-- The client as a step machine: one call of `client_handler` a step. -/
def clientMachine : Machine Client CallEnv Seen where
  step c env :=
    if Copies env c then some ((clientHandler env c).1, (clientHandler env c).2.2) else none

theorem clientMachine_step {env : CallEnv} {c c' : Client} {evs : List Seen} :
    clientMachine.step c env = some (c', evs) ↔
      Copies env c ∧ (clientHandler env c).1 = c' ∧ (clientHandler env c).2.2 = evs := by
  simp only [clientMachine, Option.ite_none_right_eq_some, Option.some.injEq, Prod.mk.injEq]

/-- A call in another state copies nothing. -/
theorem clientMachine_step_of_ne (env : CallEnv) {c : Client}
    (h : c.state ≠ .CLIENT_STATE_SETTINGS) :
    clientMachine.step c env = some ((clientHandler env c).1, (clientHandler env c).2.2) :=
  clientMachine_step.mpr ⟨fun hs => absurd hs h, rfl, rfl⟩

end DeviceMonitor
