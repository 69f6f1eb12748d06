import TfPack.DeviceMonitor.Types
import TfPack.Lib.ShellLex

set_option autoImplicit false

/-! # The device monitor: the command line of `checkMD5Sum`

`checkMD5Sum` pastes the hash and the message of a settings datagram into a command line for
`popen`, the hash bare and the message between double quotes. Both come from the network and
neither is looked at before. The shell gives them back unchanged, in buffers that hold them,
exactly when the hash is not empty and plain to the shell, the message has nothing the shell
sees between double quotes, and the two are short enough together (`undoes_iff_harmless`).
-/

namespace DeviceMonitor

open ShellLex

/-! ## Building the command -/

/-- The path of the script. -/
def user_handler : Bytes := ascii "/etc/tf_device_monitor_scripts/user_handler.lua"

/-- `checkHash_script`, with its blank. -/
def checkHash_script : Bytes := user_handler ++ [32]

/-- `hash_dm`: `strncpy` of `pass_md5`, ended by `hash_dm[32]`. -/
def hashDm (d : SettMsg) : Bytes := cString d.pass_md5.bytes

/-- `msg_dm`: what `strcpy` copies. It goes on into the memory behind the message when that has no
zero. `msg_dm[255] = '\0'` comes after the copy and changes nothing in one that fits. -/
def msgDm (d : SettMsg) (beyond : Bytes) : Bytes := cString (d.msg.bytes ++ beyond)

/-- `cmd_checkHash`. -/
def cmdCheckHash (d : SettMsg) (beyond : Bytes) : Bytes :=
  checkHash_script ++ [32] ++ hashDm d ++ [32, 34] ++ msgDm d beyond ++ [34, 32]

/-- The copies without a length, of `strcpy` and `strcat`, stay within their arrays. What
`checkMD5Sum` does otherwise, C leaves open. -/
structure Fits (d : SettMsg) (beyond : Bytes) : Prop where
  msg_dm : (msgDm d beyond).length + 1 ≤ 256
  cmd_checkHash : (cmdCheckHash d beyond).length + 1 ≤ 256

instance (d : SettMsg) (beyond : Bytes) : Decidable (Fits d beyond) :=
  decidable_of_iff ((msgDm d beyond).length + 1 ≤ 256 ∧ (cmdCheckHash d beyond).length + 1 ≤ 256)
    ⟨fun h => ⟨h.1, h.2⟩, fun h => ⟨h.msg_dm, h.cmd_checkHash⟩⟩

/-! ## When the shell undoes it -/

/-- **Tokenisation undoes the construction**: the command is the script with the received hash
and the received message, and the strings with their zeros fit the three buffers. -/
structure Undoes (d : SettMsg) (beyond : Bytes) : Prop extends Fits d beyond where
  hash_dm : (hashDm d).length + 1 ≤ 33
  words : words (cmdCheckHash d beyond) = some [user_handler, hashDm d, cString d.msg.bytes]

/-- The hash is one plain word to the shell, the message is itself between double quotes, and
together they have at most 202 bytes. -/
structure Harmless (d : SettMsg) : Prop where
  hash : Bare (hashDm d)
  msg : quotable (cString d.msg.bytes) = true
  short : (hashDm d).length + (cString d.msg.bytes).length ≤ 202

theorem user_handler_bare : Bare user_handler := by
  refine ⟨?_, ?_, ?_⟩ <;> decide +kernel

/-- The hash never overflows its buffer. -/
theorem hashDm_length (d : SettMsg) : (hashDm d).length + 1 ≤ 33 := by
  have hle : (hashDm d).length ≤ d.pass_md5.bytes.length := cString_length_le _
  have hlen : d.pass_md5.bytes.length = 32 := d.pass_md5.length_eq
  omega

/-- A message that ends within its array is copied as it was received. -/
theorem msgDm_of_short {d : SettMsg} (h : (cString d.msg.bytes).length < 1024)
    (beyond : Bytes) : msgDm d beyond = cString d.msg.bytes := by
  have hlen : d.msg.bytes.length = 1024 := d.msg.length_eq
  exact cString_append (by omega) beyond

/-- The command, as the tokeniser reads it. -/
theorem cmdCheckHash_eq (d : SettMsg) (beyond : Bytes) : cmdCheckHash d beyond =
    user_handler ++ 32 :: 32 :: (hashDm d ++ 32 :: 34 :: (msgDm d beyond ++ [34, 32])) := by
  simp [cmdCheckHash, checkHash_script]

/-- The words of the command are those of hash and message after the script's path. -/
theorem words_cmdCheckHash (d : SettMsg) (beyond : Bytes) :
    words (cmdCheckHash d beyond) = some [user_handler, hashDm d, msgDm d beyond] ↔
      Bare (hashDm d) ∧ quotable (msgDm d beyond) = true := by
  rw [cmdCheckHash_eq, words_bare_blank user_handler_bare, words_blank,
    ← words_bare_quoted_iff]
  simp

/-- **The copies stay within their arrays exactly when the message ends within its own, and hash
and message have together at most 202 bytes**, whatever stands behind the message. -/
theorem fits_iff (d : SettMsg) (beyond : Bytes) :
    Fits d beyond ↔ (hashDm d).length + (cString d.msg.bytes).length ≤ 202 := by
  have hscript : user_handler.length = 47 := by decide
  have hlen : d.msg.bytes.length = 1024 := d.msg.length_eq
  have hcmd : (cmdCheckHash d beyond).length =
      53 + (hashDm d).length + (msgDm d beyond).length := by
    rw [cmdCheckHash_eq]
    simp [hscript]
    omega
  by_cases hend : (cString d.msg.bytes).length < 1024
  · have hcopied := msgDm_of_short hend beyond
    constructor
    · intro h
      have hroom := h.cmd_checkHash
      rw [hcmd, hcopied] at hroom
      omega
    · intro h
      exact ⟨by rw [hcopied]; omega, by rw [hcmd, hcopied]; omega⟩
  · -- the copy has at least the whole array
    have hlong : d.msg.bytes.length ≤ (msgDm d beyond).length :=
      length_le_cString_append (by omega) beyond
    constructor
    · intro h
      have hroom := h.msg_dm
      omega
    · intro h
      omega

/-- What fits is the message as it was received. -/
theorem Fits.msgDm_eq {d : SettMsg} {beyond : Bytes} (h : Fits d beyond) :
    msgDm d beyond = cString d.msg.bytes := by
  have hshort := (fits_iff d beyond).mp h
  exact msgDm_of_short (by omega) beyond

/-- **The shell undoes the construction, within the buffers, exactly for a harmless hash and
message.** -/
theorem undoes_iff_harmless (d : SettMsg) (beyond : Bytes) : Undoes d beyond ↔ Harmless d := by
  constructor
  · intro h
    have hwords := h.words
    rw [← h.toFits.msgDm_eq] at hwords
    obtain ⟨hbare, hquotable⟩ := (words_cmdCheckHash d beyond).mp hwords
    rw [h.toFits.msgDm_eq] at hquotable
    exact ⟨hbare, hquotable, (fits_iff d beyond).mp h.toFits⟩
  · intro h
    have hfits := (fits_iff d beyond).mpr h.short
    refine ⟨hfits, hashDm_length d, ?_⟩
    rw [← hfits.msgDm_eq, words_cmdCheckHash, hfits.msgDm_eq]
    exact ⟨h.hash, h.msg⟩

/-- A hash that runs `reboot`, and an empty message. -/
def rebootDatagram : SettMsg :=
  ⟨0xE2, .ofList _ [], .ofList _ (ascii "0;reboot;"), .ofList _ []⟩

/-- The command of that datagram is not one simple command. -/
theorem hash_runs_command : ¬ ∀ (d : SettMsg) (beyond : Bytes), Undoes d beyond := by
  intro h
  have hwords := (h rebootDatagram []).words
  have hnone : words (cmdCheckHash rebootDatagram []) = none := by decide +kernel
  rw [hnone] at hwords
  cases hwords

end DeviceMonitor
