import TfPack.Hwsys.Registers
import TfPack.Lib.BoundedLoop
import TfPack.Lib.Machine

set_option autoImplicit false

/-! # The hardware daemon: `i2c_module.c`, `client_comm.c` and `main_app.c`

The daemon keeps a copy of the registers of the I/O microcontroller. Its main thread reads them
over the I2C bus, whenever one of two timers is over, and otherwise sends the one write a client
may have left in `i2c_write`. Its second thread answers the clients, and a third calls the event
handlers. A step is one call: an iteration of the main loop, a client's message, a call of
`i2c_getData` by an event handler. A step that C leaves undefined (a lookup without a result, an
array overrun) is none of the model's steps.
-/

namespace Hwsys

open CStruct StepMachine

/-! ## Timers -/

/-- `struct timer`; `clock_time_t` is a 32-bit word. -/
structure Timer where
  start : UInt32
  interval : UInt32
  deriving DecidableEq

/-- `timer_set`. -/
def timerSet (now : Nat) (interval : UInt32) : Timer := ⟨UInt32.ofNat now, interval⟩

/-- `timer_expired`. -/
def timerExpired (now : Nat) (t : Timer) : Bool :=
  decide (t.interval ≤ UInt32.ofNat now - t.start)

/-! ## The bus -/

/-- The size of `i2c_raw_data`. -/
abbrev RAW_LEN : Nat := 1000

abbrev RawData := Fin RAW_LEN → UInt8

/-- `read_buffer`, with the bytes the bus gives, `none` when the transfer fails. The error of
the microcontroller is two bytes `0xAA`. -/
def readBuffer (raw : RawData) (len : Nat) (reply : Option Bytes) : Option (RawData × UInt8) :=
  match reply with
  | none => some (raw, EXIT_FAILURE)
  | some bs =>
      if RAW_LEN < len then none
      else
        let raw : RawData := fun i => if (i : Nat) < len then bs.getD i 0 else raw i
        some (raw, if raw 0 = 0xAA ∧ raw 1 = 0xAA then EXIT_FAILURE else EXIT_SUCCESS)

/-- A write on the bus: the register and the bytes. -/
structure Transfer where
  regaddr : UInt8
  bytes : Bytes
  deriving DecidableEq

/-- The write a message asks for. -/
def I2cData.transfer (m : I2cData) : Transfer := ⟨m.addr.toUInt8, m.data⟩

/-- `write_buffer`: the register, the length and the bytes are gathered in an array of ten. -/
def writeBuffer (m : I2cData) : Option Transfer :=
  if m.lenData.toNat + 2 ≤ 10 then some m.transfer else none

/-! ## The TLV dump -/

/-- A byte of `i2c_raw_data`. -/
def rawByte (raw : RawData) (k : Nat) : Option UInt8 :=
  if h : k < RAW_LEN then some (raw ⟨k, h⟩) else none

/-- `memcpy(sock_msgArr[id].value, tlv->data, tlv->len)`. -/
def storeValue (t : Table) (id : Fin MAX_SENSORS) (raw : RawData) (offset len : Nat) : Table :=
  Function.update t id
    { t id with value := fun i =>
        if (i : Nat) < len then (rawByte raw (offset + i)).getD 0 else (t id).value i }

/-- Where the loop of `i2c_parse_tlv` stands. -/
structure TlvState where
  offset : UInt16
  sock_msgArr : Table

/-- An iteration of the loop of `i2c_parse_tlv`: the bytes of `i2c_raw_data` it reads, and how it
goes on. The loop is left without a result where C does not define one. -/
def tlvIteration (raw : RawData) (len : UInt16) (s : TlvState) :
    List Nat × (TlvState ⊕ Option (Table × UInt8)) :=
  let tlv := s.offset.toNat
  if s.offset < len then
    match rawByte raw tlv with
    | none => ([tlv], .inr none)
    | some regaddr =>
        if MAX_SENSORS < regaddr.toNat then ([tlv], .inr (some (s.sock_msgArr, EXIT_FAILURE)))
        else
          match getIdByAddr s.sock_msgArr regaddr.toUInt32, rawByte raw (tlv + 1) with
          | none, _ => ([tlv], .inr none)
          | some _, none => ([tlv, tlv + 1], .inr none)
          | some id, some n =>
              let offset := s.offset + (n.toUInt16 + 2)
              if n.toNat < VALUE_LEN then
                let reads := tlv :: (tlv + 1) :: List.range' (tlv + 2) n.toNat
                if tlv + 2 + n.toNat ≤ RAW_LEN then
                  (reads, .inl ⟨offset, storeValue s.sock_msgArr id raw (tlv + 2) n.toNat⟩)
                else (reads, .inr none)
              else ([tlv, tlv + 1], .inl ⟨offset, s.sock_msgArr⟩)
  else ([], .inr (some (s.sock_msgArr, EXIT_SUCCESS)))

/-- How the loop goes on. -/
def tlvBody (raw : RawData) (len : UInt16) (s : TlvState) : TlvState ⊕ Option (Table × UInt8) :=
  (tlvIteration raw len s).2

/-- **How the loop comes to its next iteration**: over the header of a record of a register of the
table, whose bytes it stores when they are fewer than a value has. -/
theorem tlvBody_eq_inl {raw : RawData} {len : UInt16} {s s' : TlvState}
    (h : tlvBody raw len s = .inl s') :
    s.offset < len ∧ ∃ regaddr n id, rawByte raw s.offset.toNat = some regaddr ∧
      regaddr.toNat ≤ MAX_SENSORS ∧ rawByte raw (s.offset.toNat + 1) = some n ∧
      getIdByAddr s.sock_msgArr regaddr.toUInt32 = some id ∧
      (n.toNat < VALUE_LEN → s.offset.toNat + 2 + n.toNat ≤ RAW_LEN) ∧
      s' = ⟨s.offset + (n.toUInt16 + 2), if n.toNat < VALUE_LEN
        then storeValue s.sock_msgArr id raw (s.offset.toNat + 2) n.toNat else s.sock_msgArr⟩ := by
  unfold tlvBody tlvIteration at h
  by_cases hlt : s.offset < len
  · rw [if_pos hlt] at h
    cases hr : rawByte raw s.offset.toNat with
    | none => simp [hr] at h
    | some regaddr =>
        by_cases hmax : MAX_SENSORS < regaddr.toNat
        · simp [hr, hmax] at h
        · cases hid : getIdByAddr s.sock_msgArr regaddr.toUInt32 with
          | none => simp [hr, hmax, hid] at h
          | some id =>
              cases hn : rawByte raw (s.offset.toNat + 1) with
              | none => simp [hr, hmax, hid, hn] at h
              | some n =>
                  refine ⟨hlt, regaddr, n, id, rfl, Nat.le_of_not_lt hmax, rfl, hid, ?_⟩
                  simp only [hr, hmax, hid, hn, if_false] at h
                  by_cases hshort : n.toNat < VALUE_LEN
                  · by_cases hfits : s.offset.toNat + 2 + n.toNat ≤ RAW_LEN
                    · simp only [hshort, hfits, if_true, Sum.inl.injEq] at h
                      rw [if_pos hshort]
                      exact ⟨fun _ => hfits, h.symm⟩
                    · simp [hshort, hfits] at h
                  · simp only [hshort, if_false, Sum.inl.injEq] at h
                    rw [if_neg hshort]
                    exact ⟨fun hs => absurd hs hshort, h.symm⟩
  · simp [hlt] at h

/-- A result has the table of the iteration that leaves the loop. -/
theorem tlvBody_eq_inr {raw : RawData} {len : UInt16} {s : TlvState} {t : Table} {c : UInt8}
    (h : tlvBody raw len s = .inr (some (t, c))) : t = s.sock_msgArr := by
  unfold tlvBody tlvIteration at h
  grind

/-- `i2c_parse_tlv`. Every record is at least two bytes long, so that an iteration for every byte
of the dump, and one to leave the loop, are enough. -/
def i2cParseTlv (raw : RawData) (len : UInt16) (t : Table) : Option (Table × UInt8) :=
  (BoundedLoop.run (tlvBody raw len) (len.toNat + 1) ⟨0, t⟩).join

/-! ## The main loop -/

/-- The variables of the daemon. `i2c_write.write_flag` is only ever `0` or `1`. -/
structure Daemon where
  sock_msgArr : Table
  write_flag : Bool
  i2c_write : I2cData
  i2c_raw_data : RawData
  hi_prio_timer : Timer
  low_prio_timer : Timer
  hi_prio_len : UInt16
  low_prio_len : UInt16
  errorCount : UInt8

/-- `MAX_I2C_ERROR`. -/
def MAX_I2C_ERROR : UInt8 := 5

/-- What the daemon's steps show: a write request taken from a client, a write on the bus, a
reply to a client, and a reset of the microcontroller. -/
inductive Event
  | accepted (w : Transfer)
  | transmitted (w : Transfer)
  | replied (bs : Bytes)
  | resetIoMcu
  deriving DecidableEq

/-- What an iteration of the main loop reads from outside: the clock at its timer checks and
when it sets a timer again, and the bus. -/
structure LoopEnv where
  hiNow : Nat
  lowNow : Nat
  setNow : Nat
  reply : Option Bytes

/-- A dump: the transfer and, when it succeeds, its records. -/
def readDump (d : Daemon) (len : UInt16) (reply : Option Bytes) : Option (Daemon × UInt8) :=
  match readBuffer d.i2c_raw_data len.toNat reply with
  | none => none
  | some (raw, errorCode) =>
      let d := { d with i2c_raw_data := raw }
      if errorCode = 0 then
        (i2cParseTlv raw len d.sock_msgArr).map (fun r =>
          ({ d with sock_msgArr := r.1 }, r.2))
      else some (d, errorCode)

/-- `read_i2c`, with the error code it returns. -/
def readI2c (e : LoopEnv) (d : Daemon) : Option (Daemon × UInt8 × List Event) :=
  if timerExpired e.hiNow d.hi_prio_timer then
    (readDump d d.hi_prio_len e.reply).map (fun r =>
      ({ r.1 with hi_prio_timer := timerSet e.setNow 3 }, r.2, []))
  else if timerExpired e.lowNow d.low_prio_timer then
    (readDump d d.low_prio_len e.reply).map (fun r =>
      ({ r.1 with low_prio_timer := timerSet e.setNow 30 }, r.2, []))
  else if d.write_flag then
    (writeBuffer d.i2c_write).map (fun w =>
      ({ d with write_flag := false }, 0, [.transmitted w]))
  else some (d, 0, [])

/-- The error count of `mainHandler`, and whether it resets the microcontroller. -/
def countError (errorCode : UInt8) (d : Daemon) : Daemon × List Event :=
  let count := if errorCode = EXIT_FAILURE then d.errorCount + 1 else 0
  if MAX_I2C_ERROR < count then ({ d with errorCount := 0 }, [.resetIoMcu])
  else ({ d with errorCount := count }, [])

/-- `mainHandler`. -/
def mainHandler (e : LoopEnv) (d : Daemon) : Option (Daemon × List Event) :=
  (readI2c e d).map (fun r =>
    let c := countError r.2.1 r.1
    (c.1, r.2.2 ++ c.2))

/-! ## Clients -/

/-- `i2c_getData`: the entry, and the table with `lenMSG` stored. -/
def i2cGetData (t : Table) (dst : I2cData) (addr : UInt32) (len : Nat) :
    Option (Table × I2cData) :=
  (getIdByAddr t addr).map (fun id =>
    let entry := { t id with lenMSG := UInt8.ofNat len }
    (Function.update t id entry, memcpy dst entry len))

/-- `i2c_setData`. -/
def i2cSetData (d : Daemon) (src : I2cData) (addr : UInt32) (len : Nat) : Option Daemon :=
  (getIdByAddr d.sock_msgArr addr).map (fun id =>
    let entry := { d.sock_msgArr id with lenMSG := UInt8.ofNat len }
    let w := memcpy d.i2c_write src len
    { d with
      i2c_write := w
      sock_msgArr := Function.update d.sock_msgArr id (memcpy entry w len)
      write_flag := true })

/-- `CLIENT_STATE`. -/
inductive ClientState
  | SOCKET_DISCONNECTED | SOCKET_READ_ERROR | SOCKET_READ_OK | SOCKET_RESET | SOCKET_IDLE
  deriving DecidableEq, Repr

/-- The size of the buffer of `receive_msg`. -/
abbrev MSG_LEN : Nat := 60

/-- `receive_msg`: at most sixty bytes are read, and sixty are copied to the message. `msg` is
what the buffer holds before. -/
def receiveMsg (read : Option Bytes) (msg : Bytes) (rec : I2cData) : I2cData × ClientState :=
  match read with
  | none => (rec, .SOCKET_READ_ERROR)
  | some [] => (rec, .SOCKET_DISCONNECTED)
  | some bs =>
      let bs := bs.take MSG_LEN
      (ofBytes (splice MSG_LEN (splice bs.length bs msg) rec.bytes), .SOCKET_READ_OK)

/-- `send_msg`: the bytes written to the socket. -/
def sendMsg (msg : I2cData) (size : UInt8) : Bytes := msg.bytes.take size.toNat

/-- What a call of `clientHandler` finds: what `read` gives, and the contents of its buffers,
which nothing initialises. -/
structure ClientEnv where
  read : Option Bytes
  msg : Bytes
  i2cRec : I2cData
  i2cDataSend : I2cData

/-- `sizeof(i2c_data_t)`. -/
def sizeofData : Nat := 80

/-- The message `clientHandler` acts on. -/
def ClientEnv.received (e : ClientEnv) : I2cData :=
  let r := receiveMsg e.read e.msg e.i2cRec
  if r.1.opcode = Opcode.I2C_OPCODE_READ.val ∧ r.2 = .SOCKET_READ_OK then
    { r.1 with opcode := Opcode.I2C_OPCODE_RESPONSE.val }
  else r.1

/-- The answer to a request to read: the entry of the register. -/
def answerRead (e : ClientEnv) (m : I2cData) (d : Daemon) : Option (Daemon × List Event) :=
  (i2cGetData d.sock_msgArr e.i2cDataSend m.addr sizeofData).map (fun r =>
    let response := { r.2 with opcode := Opcode.I2C_OPCODE_RESPONSE.val }
    ({ d with sock_msgArr := r.1 }, [.replied (sendMsg response response.lenMSG)]))

/-- A request to write. -/
def acceptWrite (m : I2cData) (d : Daemon) : Option (Daemon × List Event) :=
  let m := { m with lenMSG := UInt8.ofNat sizeofData }
  (i2cSetData d m m.addr sizeofData).map (fun d' => (d', [.accepted m.transfer]))

/-- `clientHandler`. -/
def clientHandler (e : ClientEnv) (d : Daemon) : Option (Daemon × List Event) :=
  let m := e.received
  if m.opcode = Opcode.I2C_OPCODE_RESPONSE.val then answerRead e m d
  else if m.opcode = Opcode.I2C_OPCODE_WRITE.val then acceptWrite m d
  else some (d, [])

/-! ## The daemon as a step machine -/

/-- A step of the daemon. -/
inductive Action
  | loop (e : LoopEnv)
  | client (e : ClientEnv)
  | getData (dst : I2cData) (addr : UInt32) (len : Nat)

def hwsysMachine : Machine Daemon Action Event where
  step d
    | .loop e => mainHandler e d
    | .client e => clientHandler e d
    | .getData dst addr len =>
        (i2cGetData d.sock_msgArr dst addr len).map (fun r => ({ d with sock_msgArr := r.1 }, []))

/-- The points of the runs of the daemon. -/
abbrev HwsysVisit := Visit Daemon Action Event

/-- The daemon after `open_i2c`, with the two lengths the microcontroller has reported. -/
def openI2c (handlerAddr : Handler → UInt32) (hiNow lowNow : Nat) (hiLen lowLen : UInt16)
    (raw : RawData) : Daemon where
  sock_msgArr := sockMsgArr handlerAddr
  write_flag := false
  i2c_write := zeroData
  i2c_raw_data := raw
  hi_prio_timer := timerSet hiNow 3
  low_prio_timer := timerSet lowNow 0
  hi_prio_len := hiLen
  low_prio_len := lowLen
  errorCount := 0

/-! ## What a write leaves -/

/-- The message with the length of a whole structure. -/
def I2cData.sized (m : I2cData) : I2cData := { m with lenMSG := UInt8.ofNat sizeofData }

/-- The daemon with `m` as the entry `id` and as the write that waits. -/
def Daemon.stored (d : Daemon) (id : Fin MAX_SENSORS) (m : I2cData) : Daemon :=
  { d with i2c_write := m, sock_msgArr := Function.update d.sock_msgArr id m, write_flag := true }

/-- **What a write does**: the client's structure becomes the entry and the write that waits. -/
theorem acceptWrite_eq_some_iff {m : I2cData} {d d' : Daemon} {evs : List Event} :
    acceptWrite m d = some (d', evs) ↔
      ∃ id, getIdByAddr d.sock_msgArr m.addr = some id ∧ d' = d.stored id m.sized ∧
        evs = [.accepted m.transfer] := by
  have hcopy : ∀ m' : I2cData, memcpy m' m.sized sizeofData = m.sized :=
    fun m' => memcpy_whole m' m.sized
  have hset : ∀ id : Fin MAX_SENSORS,
      ({ d with
        i2c_write := memcpy d.i2c_write m.sized sizeofData
        sock_msgArr := Function.update d.sock_msgArr id
          (memcpy { d.sock_msgArr id with lenMSG := UInt8.ofNat sizeofData }
            (memcpy d.i2c_write m.sized sizeofData) sizeofData)
        write_flag := true } : Daemon) = d.stored id m.sized := by
    intro id
    rw [hcopy, hcopy]
    rfl
  constructor
  · intro h
    simp only [acceptWrite, i2cSetData, Option.map_map, Option.map_eq_some_iff] at h
    obtain ⟨id, hid, heq⟩ := h
    cases heq
    exact ⟨id, hid, hset id, rfl⟩
  · rintro ⟨id, hid, rfl, rfl⟩
    rw [← hset id]
    simp only [acceptWrite, i2cSetData, hid, Option.map_some]
    rfl

end Hwsys
