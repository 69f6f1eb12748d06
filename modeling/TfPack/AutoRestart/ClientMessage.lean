import TfPack.AutoRestart.System

set_option autoImplicit false

/-! # The messages of the clients

A client writes five bytes to the socket, the command and the port. `d_receive_msg` reads up to
five of them into a buffer on the stack and copies all of the buffer, `clientHandler` takes the
command for an index of `cmdHandler`, and `cmd_rebootHandler` takes the port for an index of the
port table; none of them looks at the length or at a range, since `autorestart_ctrl` sends only
commands and ports that exist (`safelyHandled_iff`).
-/

namespace AutoRestart

open FlagWord StepMachine

/-! ## Receiving -/

/-- `CLIENT_STATE`, as far as `clientHandler` returns it. -/
inductive ClientState
  | SOCKET_DISCONNECTED | SOCKET_READ_ERROR | SOCKET_READ_OK
  deriving DecidableEq, Repr

/-- `sock_msg_t`. -/
abbrev SockMsg := Fin 5 → UInt8

/-- `cmdType`, a word of a big-endian machine. -/
def SockMsg.cmdType (m : SockMsg) : Nat :=
  ((((m 0).toNat * 256 + (m 1).toNat) * 256) + (m 2).toNat) * 256 + (m 3).toNat

def SockMsg.port (m : SockMsg) : Nat := (m 4).toNat

/-- `d_receive_msg`: all five bytes of the buffer are copied, however many have been read; the
others are what the stack held. `none` is an error of `read`. -/
def dReceiveMsg (stack : SockMsg) : Option (List UInt8) → ClientState × SockMsg
  | none => (.SOCKET_READ_ERROR, fun _ => 0)
  | some [] => (.SOCKET_DISCONNECTED, fun _ => 0)
  | some bytes => (.SOCKET_READ_OK, fun i => bytes.getD i (stack i))

/-! ## The commands -/

/-- An access outside a table. -/
inductive Fault
  | cmdHandler (cmdType : Nat)
  | portInfoArr (index : Int)
  deriving DecidableEq, Repr

/-- The two tables of the daemon a command works on. -/
structure ClientTables where
  portInfoArr : Table
  resetPort : Fin NUM_PORTS → ResetPort

/-- The entries of `cmdHandler`. -/
inductive CmdHandler
  | cmd_sendStatus | cmd_rebootHandler
  deriving DecidableEq, Repr

/-- `cmdHandler`; the entry of `cmd_error` has no initializer. -/
def cmdHandler : List (Option CmdHandler) :=
  [none, some .cmd_sendStatus, some .cmd_rebootHandler, none]

/-- `cmd_sendStatus`. -/
def cmdSendStatus (s : ClientTables) : ClientTables :=
  { s with resetPort := fun i => replyOf 0 (s.portInfoArr i) }

/-- `cmd_rebootHandler`, for any value of the byte `port`. -/
def cmdRebootPort (port : Nat) (s : ClientTables) : Except Fault ClientTables :=
  if h : 1 ≤ port ∧ port ≤ NUM_PORTS then
    let i : Fin NUM_PORTS := ⟨port - 1, by omega⟩
    let r := cmdRebootHandler (s.portInfoArr i)
    .ok
      { portInfoArr := Function.update s.portInfoArr i r.1
        resetPort := Function.update s.resetPort i r.2 }
  else .error (.portInfoArr (port - 1))

/-- The call through `cmdHandler`. -/
def dispatch (m : SockMsg) (s : ClientTables) : Except Fault ClientTables :=
  match cmdHandler[m.cmdType]? with
  | none => .error (.cmdHandler m.cmdType)
  | some none => .ok s
  | some (some .cmd_sendStatus) => .ok (cmdSendStatus s)
  | some (some .cmd_rebootHandler) => cmdRebootPort m.port s

/-- `clientHandler`, for the bytes `read` gives. -/
def clientHandler (stack : SockMsg) (read : Option (List UInt8)) (s : ClientTables) :
    Except Fault (ClientState × ClientTables) :=
  let r := dReceiveMsg stack read
  if r.1 = .SOCKET_READ_OK then (dispatch r.2 s).map (fun s' => (r.1, s')) else .ok (r.1, s)

/-- What `clientHandler` takes for the message. -/
def received (stack : SockMsg) (bytes : List UInt8) : SockMsg := fun i => bytes.getD i (stack i)

/-- A message that must not change a port: it is short, its command has no handler, or its port
does not exist. -/
def Invalid (stack : SockMsg) (bytes : List UInt8) : Prop :=
  bytes.length < 5 ∨
    ((received stack bytes).cmdType ≠ 1 ∧ (received stack bytes).cmdType ≠ 2) ∨
    ¬(1 ≤ (received stack bytes).port ∧ (received stack bytes).port ≤ NUM_PORTS)

/-- The message is handled without leaving a table, and one that is invalid changes no port. -/
structure SafelyHandled (stack : SockMsg) (bytes : List UInt8) (s : ClientTables) : Prop where
  inBounds : ∃ r, clientHandler stack (some bytes) s = .ok r
  unchanged : Invalid stack bytes → ∀ r, clientHandler stack (some bytes) s = .ok r →
    r.2.portInfoArr = s.portInfoArr

/-! ## What a command does -/

/-- A reboot command leaves the record alone: the port is disabled, or is being rebooted without
another command waiting. -/
def PortInfo.ignoresReboot (p : PortInfo) : Prop :=
  if p.portResetInfo.state = .REBOOT_STATE then p.portResetInfo.event.has .MANUAL_RESTART = false
  else p.enabled = false

theorem cmdRebootHandler_eq_self_iff (p : PortInfo) :
    (cmdRebootHandler p).1 = p ↔ p.ignoresReboot := by
  unfold cmdRebootHandler PortInfo.ignoresReboot
  by_cases hstate : p.portResetInfo.state = .REBOOT_STATE
  · rw [if_neg (not_not.mpr hstate), if_pos hstate]
    constructor
    · intro h
      rw [← h]
      simp
    · intro hnone
      have hevent : p.portResetInfo.event.clear .MANUAL_RESTART = p.portResetInfo.event := by
        ext f
        by_cases hf : f = .MANUAL_RESTART
        · simp [hf, hnone]
        · simp [hf]
      dsimp only
      rw [hevent]
  · rw [if_pos hstate, if_neg hstate]
    cases hen : p.enabled with
    | false => simp
    | true =>
        simp only [if_true]
        refine ⟨fun h => ?_, nofun⟩
        exact absurd (congrArg (fun q => q.portResetInfo.state) h).symm hstate

variable {stack : SockMsg} {bytes : List UInt8} {s s' : ClientTables} {m : SockMsg}

theorem cmdRebootPort_inside {port : Nat} {i : Fin NUM_PORTS} (h : port = i + 1) :
    cmdRebootPort port s = .ok
      { portInfoArr := Function.update s.portInfoArr i (cmdRebootHandler (s.portInfoArr i)).1
        resetPort := Function.update s.resetPort i (cmdRebootHandler (s.portInfoArr i)).2 } := by
  subst h
  have hin : 1 ≤ (i : Nat) + 1 ∧ (i : Nat) + 1 ≤ NUM_PORTS := ⟨Nat.le_add_left _ _, i.isLt⟩
  rw [cmdRebootPort, dif_pos hin]
  rfl

theorem cmdRebootPort_outside {port : Nat} (h : ¬∃ i : Fin NUM_PORTS, port = i + 1) :
    cmdRebootPort port s = .error (.portInfoArr (port - 1)) := by
  apply dif_neg
  rintro ⟨hpos, hle⟩
  exact h ⟨⟨port - 1, by omega⟩, by dsimp only; omega⟩

/-- A reboot command for a port of the table is a step of that port. -/
theorem cmdRebootPort_step (cfg : Config) {port : Nat} {i : Fin NUM_PORTS} (h : port = i + 1)
    (hok : cmdRebootPort port s = .ok s') :
    ∃ evs, (tableMachine cfg).step s.portInfoArr (i, .reboot) = some (s'.portInfoArr, evs) := by
  rw [cmdRebootPort_inside h] at hok
  cases hok
  exact ⟨_, rfl⟩

/-- **The calls `clientHandler` makes**, by the command. -/
theorem dispatch_cases (m : SockMsg) (s : ClientTables) :
    (4 ≤ m.cmdType ∧ dispatch m s = .error (.cmdHandler m.cmdType)) ∨
    ((m.cmdType = 0 ∨ m.cmdType = 3) ∧ dispatch m s = .ok s) ∨
    (m.cmdType = 1 ∧ dispatch m s = .ok (cmdSendStatus s)) ∨
    (m.cmdType = 2 ∧ dispatch m s = cmdRebootPort m.port s) := by
  by_cases hlarge : 4 ≤ m.cmdType
  · have hnone : cmdHandler[m.cmdType]? = none := List.getElem?_eq_none hlarge
    refine .inl ⟨hlarge, ?_⟩
    unfold dispatch
    rw [hnone]
  · have hsmall : m.cmdType = 0 ∨ m.cmdType = 1 ∨ m.cmdType = 2 ∨ m.cmdType = 3 := by omega
    right
    unfold dispatch
    rcases hsmall with h | h | h | h <;> rw [h]
    · exact .inl ⟨.inl rfl, rfl⟩
    · exact .inr (.inl ⟨rfl, rfl⟩)
    · exact .inr (.inr ⟨rfl, rfl⟩)
    · exact .inl ⟨.inr rfl, rfl⟩

/-- A message is dispatched on what is taken for it. -/
theorem clientHandler_ok_iff (h : bytes ≠ []) {r : ClientState × ClientTables} :
    clientHandler stack (some bytes) s = .ok r ↔
      r.1 = .SOCKET_READ_OK ∧ dispatch (received stack bytes) s = .ok r.2 := by
  have hcall : clientHandler stack (some bytes) s =
      (dispatch (received stack bytes) s).map (fun s' => (.SOCKET_READ_OK, s')) := by
    cases bytes with
    | nil => exact absurd rfl h
    | cons b bs => rfl
  rw [hcall]
  cases dispatch (received stack bytes) s with
  | error f => simp [Except.map]
  | ok s' =>
      obtain ⟨c, t⟩ := r
      simp only [Except.map, Except.ok.injEq, Prod.mk.injEq]
      exact and_congr_left fun _ => eq_comm

/-- What is asked of the call a message leads to. -/
theorem safelyHandled_iff_dispatch (h : bytes ≠ []) :
    SafelyHandled stack bytes s ↔
      ∃ s', dispatch (received stack bytes) s = .ok s' ∧
        (Invalid stack bytes → s'.portInfoArr = s.portInfoArr) := by
  constructor
  · intro hsafe
    obtain ⟨r, hr⟩ := hsafe.inBounds
    exact ⟨r.2, ((clientHandler_ok_iff h).mp hr).2, fun hbad => hsafe.unchanged hbad r hr⟩
  · rintro ⟨s', hs', hkept⟩
    refine ⟨⟨(.SOCKET_READ_OK, s'), (clientHandler_ok_iff h).mpr ⟨rfl, hs'⟩⟩, fun hbad r hr => ?_⟩
    have hr' := ((clientHandler_ok_iff h).mp hr).2
    rw [hs'] at hr'
    rw [← Except.ok.inj hr']
    exact hkept hbad

/-- **When a message is handled safely**: its command is one of the four, and a reboot command is
for a port that exists; if the message is short, a reboot command that the stack completes finds
a port that it leaves alone. -/
theorem safelyHandled_iff (h : bytes ≠ []) :
    SafelyHandled stack bytes s ↔
      (received stack bytes).cmdType < 4 ∧
        ((received stack bytes).cmdType = 2 → ∃ i : Fin NUM_PORTS,
          (received stack bytes).port = i + 1 ∧
            (bytes.length < 5 → (s.portInfoArr i).ignoresReboot)) := by
  rw [safelyHandled_iff_dispatch h]
  rcases dispatch_cases (received stack bytes) s with
    ⟨hcmd, hcall⟩ | ⟨hcmd, hcall⟩ | ⟨hcmd, hcall⟩ | ⟨hcmd, hcall⟩
  · rw [hcall]
    constructor
    · rintro ⟨s', hok, -⟩
      cases hok
    · exact fun hlt => absurd hlt.1 (Nat.not_lt.mpr hcmd)
  · rw [hcall]
    refine ⟨fun _ => ⟨by omega, fun htwo => by omega⟩, fun _ => ⟨s, rfl, fun _ => rfl⟩⟩
  · rw [hcall]
    refine ⟨fun _ => ⟨by omega, fun htwo => by omega⟩, fun _ => ⟨_, rfl, fun _ => rfl⟩⟩
  · rw [hcall]
    by_cases hport : ∃ i : Fin NUM_PORTS, (received stack bytes).port = i + 1
    · obtain ⟨i, hi⟩ := hport
      rw [cmdRebootPort_inside hi]
      -- a message that is not short is valid here
      have hinvalid : Invalid stack bytes ↔ bytes.length < 5 := by
        have hin : 1 ≤ (received stack bytes).port ∧ (received stack bytes).port ≤ NUM_PORTS := by
          rw [hi]
          exact ⟨Nat.le_add_left _ _, i.isLt⟩
        rw [Invalid, hcmd]
        simp [hin]
      have hkept : (Function.update s.portInfoArr i (cmdRebootHandler (s.portInfoArr i)).1 =
          s.portInfoArr) ↔ (s.portInfoArr i).ignoresReboot := by
        rw [Function.update_eq_self_iff, cmdRebootHandler_eq_self_iff]
      constructor
      · rintro ⟨s', hs', hsame⟩
        cases hs'
        exact ⟨by omega, fun _ => ⟨i, hi, fun hshort => hkept.mp (hsame (hinvalid.mpr hshort))⟩⟩
      · rintro ⟨-, hreboot⟩
        obtain ⟨j, hj, hignores⟩ := hreboot hcmd
        have hij : j = i := Fin.ext (by omega)
        subst hij
        exact ⟨_, rfl, fun hbad => hkept.mpr (hignores (hinvalid.mp hbad))⟩
    · rw [cmdRebootPort_outside hport]
      constructor
      · rintro ⟨s', hok, -⟩
        cases hok
      · rintro ⟨-, hreboot⟩
        obtain ⟨i, hi, -⟩ := hreboot hcmd
        exact absurd ⟨i, hi⟩ hport

/-- The tables of a daemon whose ports are all in the zeroed state. -/
def zeroTables : ClientTables where
  portInfoArr := fun _ => zeroPortInfo
  resetPort := fun _ => replyOf 0 zeroPortInfo

/-- The reboot command of `autorestart_ctrl` for port 8. -/
theorem safelyHandled_reboot : SafelyHandled (fun _ => 0) [0, 0, 0, 2, 8] zeroTables :=
  (safelyHandled_iff (by decide)).mpr
    ⟨by decide, fun _ => ⟨7, by decide, fun h => absurd h (by decide)⟩⟩

/-- A reboot command for port 0 writes in front of the table. -/
theorem port_zero_outside : ¬∀ (stack : SockMsg) (bytes : List UInt8) (s : ClientTables),
    1 ≤ bytes.length → bytes.length ≤ 5 → SafelyHandled stack bytes s := by
  intro h
  obtain ⟨r, hr⟩ := (h (fun _ => 0) [0, 0, 0, 2, 0] zeroTables (by decide) (by decide)).inBounds
  have hcall := ((clientHandler_ok_iff (by decide)).mp hr).2
  have hreboot : (received (fun _ => 0) [0, 0, 0, 2, 0]).cmdType = 2 := by decide
  have hport : ¬∃ i : Fin NUM_PORTS, (received (fun _ => 0) [0, 0, 0, 2, 0]).port = i + 1 := by
    decide
  unfold dispatch at hcall
  rw [hreboot] at hcall
  exact absurd ((cmdRebootPort_outside hport).symm.trans hcall) nofun

end AutoRestart
