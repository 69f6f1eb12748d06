import Mathlib.Data.List.Basic
import TfPack.Lib.FlagWord

set_option autoImplicit false

/-! # The device monitor: its data

The types of `dm_mainHeader.h` and `state_handler.h` that the settings path uses. A `char` array
is the list of its bytes with their number; the C string in it ends at its first zero.
-/

namespace DeviceMonitor

open FlagWord

def MAC_LEN : Nat := 6
def MD5_LEN : Nat := 32
def SETTINGS_MSG_LEN : Nat := 1024

abbrev Bytes := List UInt8

/-- The bytes of a string literal. -/
def ascii (s : String) : Bytes := s.toList.map (fun c => UInt8.ofNat c.toNat)

/-! ## Arrays -/

/-- An array of `n` bytes. -/
structure CArray (n : Nat) where
  bytes : Bytes
  length_eq : bytes.length = n

/-- The array that starts with the bytes `l`; zeros where there are none. -/
def CArray.ofList (n : Nat) (l : Bytes) : CArray n :=
  ⟨(l ++ List.replicate n 0).take n, by simp⟩

/-- The C string at the start of some memory: the bytes before the first zero. -/
def cString (memory : Bytes) : Bytes := memory.takeWhile (· != 0)

theorem cString_length_le (memory : Bytes) : (cString memory).length ≤ memory.length :=
  (List.takeWhile_prefix _).length_le

/-- A string that ends within the memory ends there whatever follows. -/
theorem cString_append {memory : Bytes} (h : (cString memory).length < memory.length)
    (beyond : Bytes) : cString (memory ++ beyond) = cString memory := by
  unfold cString at h ⊢
  rw [List.takeWhile_append, if_neg h.ne]

/-- A string that does not end within the memory is at least as long. -/
theorem length_le_cString_append {memory : Bytes} (h : ¬(cString memory).length < memory.length)
    (beyond : Bytes) : memory.length ≤ (cString (memory ++ beyond)).length := by
  have hle := cString_length_le memory
  unfold cString at h hle ⊢
  rw [List.takeWhile_append, if_pos (by omega), List.length_append]
  omega

/-! ## Codes -/

/-- `error_code_t`. -/
inductive ErrorCode
  | ERR_OK | ERR_AUTHENTICATION | ERR_CONFIGURATION | ERR_OBJ_NOT_FOUND
  | ERR_UNAVAILABLE_RESOURCE | ERR_NETWORK | INFO_MAC_NOT_IDENTICAL
  deriving DecidableEq, Repr

/-- The value of an error code. -/
def ErrorCode.val : ErrorCode → UInt8
  | .ERR_OK => 0 | .ERR_AUTHENTICATION => 1 | .ERR_CONFIGURATION => 2 | .ERR_OBJ_NOT_FOUND => 3
  | .ERR_UNAVAILABLE_RESOURCE => 4 | .ERR_NETWORK => 5 | .INFO_MAC_NOT_IDENTICAL => 6

/-- The flags of `pass_id_e`. -/
inductive PassId
  | pass_mac | pass_md5
  deriving DecidableEq, Repr

/-! ## The settings message -/

/-- `sett_msg_t`. -/
structure SettMsg where
  msg_type : UInt8
  mac : CArray MAC_LEN
  pass_md5 : CArray MD5_LEN
  msg : CArray SETTINGS_MSG_LEN

/-- The member `buff` of the union. -/
def SettMsg.buff (m : SettMsg) : Bytes :=
  m.msg_type :: (m.mac.bytes ++ m.pass_md5.bytes ++ m.msg.bytes)

/-- The message with these bytes in `buff`. -/
def SettMsg.ofBuff (l : Bytes) : SettMsg :=
  ⟨l.getD 0 0, .ofList _ (l.drop 1), .ofList _ (l.drop 7), .ofList _ (l.drop 39)⟩

end DeviceMonitor
