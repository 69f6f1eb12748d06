import TfPack.Hwsys.Daemon

set_option autoImplicit false

/-! # The client program: `hwsys_ctrl.c`

`tf_hwsys_ctrl <register> get` and `tf_hwsys_ctrl <register> set <value>`. The program looks the
register up in its own copy of `sock_msgArr`, fills in a message and exchanges it with the
daemon, one request for one connection.
-/

namespace Hwsys

open CStruct

/-- `i2CParam`, a global variable: it starts out zero. -/
def i2CParam : I2cData := zeroData

/-- `i2c_setHandler`: the message with the value. A shift of the 8-bit value leaves nothing of
it in the bytes after the first. -/
def i2cSetHandler (msg : I2cData) (val : UInt8) : I2cData :=
  { msg with
    opcode := Opcode.I2C_OPCODE_WRITE.val
    value := fun i =>
      if (i : Nat) < 4 then UInt8.ofNat (val.toNat <<< (8 * (i : Nat))) else msg.value i }

/-- The message `i2c_getHandler` sends. -/
def i2cGetRequest (msg : I2cData) : I2cData :=
  { msg with lenMSG := UInt8.ofNat sizeofData, opcode := Opcode.I2C_OPCODE_READ.val }

/-- `i2c_getHandler`: the message after the answer `reply` has been read. -/
def i2cGetHandler (msg : I2cData) (buffer : Bytes) (reply : Option Bytes) :
    I2cData × ClientState :=
  receiveMsg reply buffer (i2cGetRequest msg)

/-- `tf_hwsys_ctrl <name> set <val>`: the bytes it sends. -/
def ctrlSet (t : Table) (name : Bytes) (val : UInt8) : Option Bytes :=
  (getI2cAddrByName t name i2CParam).map (fun msg =>
    sendMsg (i2cSetHandler msg val) (UInt8.ofNat sizeofData))

/-- The name `relay` on the command line. -/
def relayName : Bytes := "relay".toList.map (fun c => UInt8.ofNat c.toNat)

/-- A client that runs `tf_hwsys_ctrl relay set <val>`. -/
def setRelay (val : UInt8) : Action :=
  .client ⟨ctrlSet (sockMsgArr fun _ => 0) relayName val, [], zeroData, zeroData⟩

/-! ## A message over the socket -/

/-- `send_msg` with the size of the structure sends all its bytes. -/
theorem sendMsg_sizeofData (m : I2cData) : sendMsg m (UInt8.ofNat sizeofData) = m.bytes :=
  List.take_of_length_le (length_bytes m).le

/-- **`receive_msg` takes the first sixty bytes of a structure.** -/
theorem receiveMsg_bytes (m rec : I2cData) (buffer : Bytes) :
    receiveMsg (some m.bytes) buffer rec = (memcpy rec m MSG_LEN, .SOCKET_READ_OK) := by
  have hlen : (m.bytes.take MSG_LEN).length = MSG_LEN := by
    rw [List.length_take, length_bytes]
    rfl
  have hcopy : splice MSG_LEN (splice MSG_LEN (m.bytes.take MSG_LEN) buffer) rec.bytes =
      splice MSG_LEN m.bytes rec.bytes := by
    calc splice MSG_LEN (splice MSG_LEN (m.bytes.take MSG_LEN) buffer) rec.bytes
        = (m.bytes.take MSG_LEN ++ buffer.drop MSG_LEN).take MSG_LEN ++ rec.bytes.drop MSG_LEN := by
          rw [splice, splice, List.take_take, Nat.min_self]
      _ = m.bytes.take MSG_LEN ++ rec.bytes.drop MSG_LEN := by
          rw [List.take_left' hlen]
  cases hb : m.bytes with
  | nil =>
      have hzero := length_bytes m
      rw [hb] at hzero
      cases hzero
  | cons b bs =>
      rw [hb] at hlen hcopy
      simp only [receiveMsg, hlen, hcopy, memcpy, hb]

/-- What the sixty bytes hold: the whole message but for the values from the twelfth on. -/
theorem memcpy_received (m rec : I2cData) :
    memcpy rec m MSG_LEN =
      { m with value := fun i => if (i : Nat) < 12 then m.value i else rec.value i } :=
  memcpy_intoValue rec m (by decide)

/-- The message the daemon acts on when a client sends a structure. -/
theorem received_bytes {e : ClientEnv} {m : I2cData} (h : e.read = some m.bytes) :
    e.received =
      { m with
        opcode :=
          if m.opcode = Opcode.I2C_OPCODE_READ.val then Opcode.I2C_OPCODE_RESPONSE.val
          else m.opcode
        value := fun i => if (i : Nat) < 12 then m.value i else e.i2cRec.value i } := by
  rw [ClientEnv.received, h, receiveMsg_bytes, memcpy_received]
  by_cases hread : m.opcode = Opcode.I2C_OPCODE_READ.val
  · simp [hread]
  · simp [hread]

end Hwsys
