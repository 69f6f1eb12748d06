import TfPack.Lib.FlagWord

set_option autoImplicit false

/-! # The autorestart daemon: its data

The types of `tf_ar_poe/src/global_includs.h` and `autorestartd/port_module.h`. A word of
`error_code_t`, `AR_EVENT` or `REBOOT_EVENT_e` flags is a `Flags` of its enumeration; the C
values of the error flags are `errCoding`.

The table `portInfoArr` is indexed by the port. `getPortParam` stores `index + 1` in
`portConfigInfo.portNum` of the record `index`, and nothing writes it again, so a handler called
with that number works on the record it was called from; the record is passed instead of the
number. The fields `tx_byte_prev`, `tx_byte_current` and `tx_delta`, which nothing reads, are
left out, and so is `portStateInfo.linkState`.
-/

namespace AutoRestart

open FlagWord

/-- Number of ports of the device. -/
abbrev NUM_PORTS : Nat := 8

def MIN_SPEED : UInt32 := 10
def MAX_SPEED : UInt32 := 1000000

/-- `bool_t`. -/
inductive BoolT
  | disable | enable | max_bool
  deriving DecidableEq, Repr

/-- `TYPE_OF_TEST_t`. -/
inductive TypeOfTest
  | test_disable | test_link | test_ping | test_speed | test_max
  deriving DecidableEq, Repr

/-- The flags of `error_code_t`. -/
inductive ErrFlag
  | ERR_PORT_DISABLE | ERR_TEST_TYPE | ERR_TEST_LINK | ERR_TEST_PING | ERR_TEST_SPEED
  | ERR_TIME_ALARM | ERR_TEST_DISABLE | ERR_POE_DOWN | ERR_UNAVAILABLE_RESOURCE | ERR_NULL_OBJ
  | ERR_CREATE_THREAD | ERR_JOIN_THREAD | ERR_IP_NOT_VALID | ERR_PoE_DISABLE
  | ERR_TIME_NOT_VALID | ERR_SPEED_VALUE | ERR_OK | ERR_PORT_SHUTDOWN | ERR_MANUAL_REBOOT
  | ERR_REBOOTING
  deriving DecidableEq, Repr

/-- The bit of each error flag: `ERR_PORT_DISABLE` is `0x00001`, `ERR_OK` is `0x10000`. -/
def ErrFlag.bit : ErrFlag → Fin 32
  | .ERR_PORT_DISABLE => 0 | .ERR_TEST_TYPE => 1 | .ERR_TEST_LINK => 2 | .ERR_TEST_PING => 3
  | .ERR_TEST_SPEED => 4 | .ERR_TIME_ALARM => 5 | .ERR_TEST_DISABLE => 6 | .ERR_POE_DOWN => 7
  | .ERR_UNAVAILABLE_RESOURCE => 8 | .ERR_NULL_OBJ => 9 | .ERR_CREATE_THREAD => 10
  | .ERR_JOIN_THREAD => 11 | .ERR_IP_NOT_VALID => 12 | .ERR_PoE_DISABLE => 13
  | .ERR_TIME_NOT_VALID => 14 | .ERR_SPEED_VALUE => 15 | .ERR_OK => 16
  | .ERR_PORT_SHUTDOWN => 17 | .ERR_MANUAL_REBOOT => 18 | .ERR_REBOOTING => 19

/-- **The error flags are one-bit constants of a 32-bit word**, no two alike, so the operations
on `Flags ErrFlag` are the C operations on `error_code_t` (`Coding.Represents`). -/
def errCoding : Coding ErrFlag 32 where
  bit := ErrFlag.bit
  bit_injective := by
    intro f g h
    cases f <;> cases g <;> first | rfl | (exact absurd h (by decide))

example : errCoding.mask .ERR_OK = 0x10000#32 := by decide

/-- `error_code_t`, as a word of flags. -/
abbrev ErrorCode := Flags ErrFlag

/-- The flags of `AR_EVENT`. -/
inductive ArEvent
  | TEST_OK | AUTO_RESTART | MANUAL_RESTART
  deriving DecidableEq, Repr

/-- `AR_STATE`. -/
inductive ArState
  | IDLE_STATE | REGULAR_STATE | REBOOT_STATE
  deriving DecidableEq, Repr

/-- `REBOOT_STATE_e`. -/
inductive RebootState
  | REBOOT_STATE_IDLE | REBOOT_STATE_INIT | REBOOT_STATE_POE_DOWN | REBOOT_STATE_POE_UP
  deriving DecidableEq, Repr

/-- The flags of `REBOOT_EVENT_e`. -/
inductive RebootEvent
  | REBOOT_EVENT_START | REBOOT_EVENT_TIMER_STOP
  deriving DecidableEq, Repr

/-- The commands `poe_Control` sends (`POE_RESTART`, both at once, has no caller). -/
inductive PoeControl
  | POE_UP | POE_DOWN
  deriving DecidableEq, Repr

/-- `time_h_m`, one scheduled alarm. -/
structure TimeHM where
  status : BoolT
  time_H : UInt8
  time_M : UInt8
  targetTime : UInt32
  remainTime : UInt32

/-- `port_config_info_t`; `timeAlarm[time_up]` and `timeAlarm[time_down]` are two fields. -/
structure PortConfigInfo where
  host : String
  timeAlarmUp : TimeHM
  timeAlarmDown : TimeHM
  min_speed : UInt32
  max_speed : UInt32
  reply_time : UInt32
  rx_byte_prev : UInt32
  rx_byte_current : UInt32
  rx_delta_byte : UInt32
  rx_speed_Kbit : UInt32
  time_current : UInt32
  time_prev : UInt32
  alarm : BoolT
  test : TypeOfTest
  poe_state : UInt8
  timeStr : String

/-- `port_reset_info_t`. -/
structure PortResetInfo where
  resetCount : UInt8
  totalResetCount : UInt8
  errorTestCount : UInt8
  errorCode : ErrorCode
  event : Flags ArEvent
  state : ArState

/-- `port_reboot_info_t`. -/
structure PortRebootInfo where
  rebootState : RebootState
  rebootEvent : Flags RebootEvent
  rebootDelay : UInt32
  rebootTimeStart : UInt32

/-- `port_state_info_t`: what the last admin poll read. -/
structure PortStateInfo where
  port_state : BoolT
  poe_state : BoolT

/-- `portInfo_t`, the record of one port. -/
structure PortInfo where
  portConfigInfo : PortConfigInfo
  portResetInfo : PortResetInfo
  portStateInfo : PortStateInfo
  portRebootInfo : PortRebootInfo

/-- The condition `portStateInfo.port_state == enable && portStateInfo.poe_state == enable`. -/
def PortInfo.enabled (p : PortInfo) : Bool :=
  p.portStateInfo.port_state == .enable && p.portStateInfo.poe_state == .enable

/-- The record of a port in the zero-initialised table. -/
def zeroTimeHM : TimeHM := ⟨.disable, 0, 0, 0, 0⟩

@[inherit_doc zeroTimeHM]
def zeroPortInfo : PortInfo where
  portConfigInfo :=
    { host := "", timeAlarmUp := zeroTimeHM, timeAlarmDown := zeroTimeHM, min_speed := 0
      max_speed := 0, reply_time := 0, rx_byte_prev := 0, rx_byte_current := 0
      rx_delta_byte := 0, rx_speed_Kbit := 0, time_current := 0, time_prev := 0
      alarm := .disable, test := .test_disable, poe_state := 0, timeStr := "" }
  portResetInfo := ⟨0, 0, 0, Flags.none, Flags.none, .IDLE_STATE⟩
  portStateInfo := ⟨.disable, .disable⟩
  portRebootInfo := ⟨.REBOOT_STATE_IDLE, Flags.none, 0, 0⟩

/-! ## What the daemon's steps show -/

/-- Which handler issued a PoE command. -/
inductive Issuer
  | reboot | alarm
  deriving DecidableEq, Repr

/-- The observable events of one port: a PoE command with the clock at its issue, a reboot
counted by `autoResetHandler` or `manualResetHandler`, the completion of a reboot, a reboot
command accepted by `cmd_rebootHandler`, and a pass of the port's configured test. -/
inductive PortEvent
  | poe (by_ : Issuer) (c : PoeControl) (t : Nat)
  | autoReset
  | manualReset
  | rebootDone
  | accepted
  | passed
  deriving DecidableEq, Repr

end AutoRestart
