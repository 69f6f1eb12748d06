import TfPack.Hwsys.TableKeys

set_option autoImplicit false

/-! # Reading a register over the socket

The client sends its message and receives the entry of the register in its place. The entry is
sent whole, but `receive_msg` takes sixty bytes only, and the value begins at the 48th: a client
gets twelve bytes of it, and keeps what its message held after them (`readBack_iff`).
-/

namespace Hwsys

open CStruct StepMachine

/-- What the buffers of both programs hold before a request; nothing initialises them. -/
structure Leftovers where
  serverMsg : Bytes
  i2cRec : I2cData
  i2cDataSend : I2cData
  clientMsg : Bytes

/-- The request `i2c_getHandler` sends, as the daemon finds it. -/
def Leftovers.request (l : Leftovers) (msg : I2cData) : ClientEnv :=
  ⟨some (sendMsg (i2cGetRequest msg) (UInt8.ofNat sizeofData)), l.serverMsg, l.i2cRec,
    l.i2cDataSend⟩

/-- `tf_hwsys_ctrl <register> get`: the request, the daemon's answer, and the client's message
after it. -/
def readRegister (l : Leftovers) (msg : I2cData) (d : Daemon) :
    Option (Daemon × I2cData × ClientState) :=
  match clientHandler (l.request msg) d with
  | some (d', [.replied bs]) => some (d', i2cGetHandler msg l.clientMsg (some bs))
  | _ => none

/-- The entry as the client's message holds it: the bytes of the value that do not fit are those
of the message. -/
def I2cData.cutTo (entry msg : I2cData) : I2cData :=
  { entry with
    lenMSG := UInt8.ofNat sizeofData
    opcode := Opcode.I2C_OPCODE_RESPONSE.val
    value := fun i => if (i : Nat) < 12 then entry.value i else msg.value i }

section Read

variable {l : Leftovers} {msg m : I2cData} {d d' : Daemon} {i : Fin MAX_SENSORS}

/-- The structure the daemon sends for an entry. -/
def I2cData.answer (entry : I2cData) : I2cData :=
  { entry with lenMSG := UInt8.ofNat sizeofData, opcode := Opcode.I2C_OPCODE_RESPONSE.val }

/-- **What the daemon answers**: the entry, whole. -/
theorem answerRead_eq {e : ClientEnv} (h : getIdByAddr d.sock_msgArr m.addr = some i) :
    answerRead e m d =
      some ({ d with sock_msgArr := Function.update d.sock_msgArr i (d.sock_msgArr i).sized },
        [.replied (d.sock_msgArr i).answer.bytes]) := by
  have hcopy : memcpy e.i2cDataSend (d.sock_msgArr i).sized sizeofData = (d.sock_msgArr i).sized :=
    memcpy_whole _ _
  have hsend := sendMsg_sizeofData (d.sock_msgArr i).answer
  rw [← hsend]
  simp only [answerRead, i2cGetData, h, Option.map_some]
  show some (_, [Event.replied (sendMsg { memcpy e.i2cDataSend (d.sock_msgArr i).sized sizeofData
    with opcode := Opcode.I2C_OPCODE_RESPONSE.val } _)]) = _
  rw [hcopy]
  rfl

/-- The message the daemon acts on. -/
theorem request_received : (l.request msg).received =
    { i2cGetRequest msg with
      opcode := Opcode.I2C_OPCODE_RESPONSE.val
      value := fun i => if (i : Nat) < 12 then msg.value i else l.i2cRec.value i } := by
  have hread : (l.request msg).read = some (i2cGetRequest msg).bytes := by
    rw [Leftovers.request, sendMsg_sizeofData]
  rw [received_bytes hread]
  simp only [i2cGetRequest, if_true, Leftovers.request]

/-- A request of the client is answered with the entry of its register. -/
theorem clientHandler_request (h : getIdByAddr d.sock_msgArr msg.addr = some i) :
    clientHandler (l.request msg) d =
      some ({ d with sock_msgArr := Function.update d.sock_msgArr i (d.sock_msgArr i).sized },
        [.replied (d.sock_msgArr i).answer.bytes]) := by
  have hrec : (l.request msg).received = _ := request_received
  have haddr : (l.request msg).received.addr = msg.addr := by rw [hrec, i2cGetRequest]
  have hop : (l.request msg).received.opcode = Opcode.I2C_OPCODE_RESPONSE.val := by rw [hrec]
  rw [clientHandler]
  simp only [hop, if_true]
  rw [← haddr] at h
  exact answerRead_eq h

/-- The client's message after the answer. -/
theorem i2cGetHandler_answer (entry : I2cData) (buffer : Bytes) :
    i2cGetHandler msg buffer (some entry.answer.bytes) = (entry.cutTo msg, .SOCKET_READ_OK) := by
  rw [i2cGetHandler, receiveMsg_bytes, memcpy_received]
  rfl

variable (l msg) in
/-- **What a request to read brings.** -/
theorem readRegister_eq (h : getIdByAddr d.sock_msgArr msg.addr = some i) :
    ∃ d', readRegister l msg d = some (d', (d.sock_msgArr i).cutTo msg, .SOCKET_READ_OK) := by
  have hanswer := clientHandler_request (l := l) h
  refine ⟨{ d with sock_msgArr := Function.update d.sock_msgArr i (d.sock_msgArr i).sized }, ?_⟩
  unfold readRegister
  simp only [hanswer, i2cGetHandler_answer]

/-- The client has the value of the entry `i`. -/
def ReadsBack (l : Leftovers) (msg : I2cData) (d : Daemon) (i : Fin MAX_SENSORS) : Prop :=
  ∃ d' msg', readRegister l msg d = some (d', msg', .SOCKET_READ_OK) ∧
    msg'.data = (d.sock_msgArr i).data

/-- The bytes of the value past the twelfth are those of the client's message. -/
def TailAgrees (entry msg : I2cData) : Prop :=
  ∀ k : Fin VALUE_LEN, 12 ≤ (k : Nat) → (k : Nat) < entry.lenData.toNat →
    entry.value k = msg.value k

instance (entry msg : I2cData) : Decidable (TailAgrees entry msg) :=
  inferInstanceAs (Decidable (∀ k : Fin VALUE_LEN, 12 ≤ (k : Nat) →
    (k : Nat) < entry.lenData.toNat → entry.value k = msg.value k))

theorem data_cutTo_iff {entry : I2cData} : (entry.cutTo msg).data = entry.data ↔
    TailAgrees entry msg := by
  rw [I2cData.data, I2cData.data]
  show (List.ofFn (fun k : Fin VALUE_LEN => if (k : Nat) < 12 then entry.value k else msg.value k)
    ).take entry.lenData.toNat = _ ↔ _
  rw [take_ofFn_eq_iff]
  constructor
  · -- past the twelfth byte the client's copy is its own
    intro hsame k hk hlt
    have hcut := hsame k hlt
    rw [if_neg (by omega)] at hcut
    exact hcut.symm
  · intro htail k hlt
    split
    · rfl
    · exact (htail k (by omega) hlt).symm

theorem readsBack_of_found (h : getIdByAddr d.sock_msgArr msg.addr = some i) :
    ReadsBack l msg d i ↔ TailAgrees (d.sock_msgArr i) msg := by
  obtain ⟨d', hread⟩ := readRegister_eq l _ h
  rw [← data_cutTo_iff]
  constructor
  · rintro ⟨d₁, msg', hread', hdata⟩
    rw [hread] at hread'
    cases hread'
    exact hdata
  · intro hdata
    exact ⟨d', _, hread, hdata⟩

end Read

/-! ## The registers of the table -/

/-- The daemon's table has the addresses it started with. -/
def AddrsKept (handlerAddr : Handler → UInt32) (d : Daemon) : Prop :=
  ∀ i, (d.sock_msgArr i).addr = (sockMsgArr handlerAddr i).addr

theorem clientHandler_write {e : ClientEnv} {d d' : Daemon} {evs : List Event}
    (hop : e.received.opcode = Opcode.I2C_OPCODE_WRITE.val)
    (h : hwsysMachine.step d (.client e) = some (d', evs)) :
    acceptWrite e.received d = some (d', evs) := by
  replace h : clientHandler e d = some (d', evs) := h
  rw [clientHandler] at h
  rw [if_neg (by rw [hop]; decide), if_pos hop] at h
  exact h

/-- No step changes an address: a write is stored where its own address was found. -/
theorem step_addrs {d d' : Daemon} {a : Action} {evs : List Event}
    (h : hwsysMachine.step d a = some (d', evs)) (i : Fin MAX_SENSORS) :
    (d'.sock_msgArr i).addr = (d.sock_msgArr i).addr := by
  by_cases hkeys : a.Rekeys d
  · cases a with
    | loop e => exact hkeys.elim
    | getData dst addr len => exact hkeys.elim
    | client e =>
        obtain ⟨id, hid, rfl, -⟩ := acceptWrite_eq_some_iff.mp (clientHandler_write hkeys.1 h)
        have haddr : (d.sock_msgArr id).addr = e.received.addr := by
          simpa using List.find?_some hid
        by_cases hi : i = id
        · subst hi
          rw [stored_entry, haddr]
          rfl
        · exact congrArg I2cData.addr (Function.update_of_ne hi _ _)
  · exact addr_of_keys ((step_keys_iff h).mpr hkeys) i

theorem addrsKept_run {handlerAddr : Handler → UInt32} {hiNow lowNow : Nat}
    {hiLen lowLen : UInt16} {raw : RawData} {vs : List HwsysVisit} {tr : List Event} {d : Daemon}
    (h : Exec hwsysMachine (openI2c handlerAddr hiNow lowNow hiLen lowLen raw) vs tr d) :
    AddrsKept handlerAddr d := by
  refine h.inv (fun d _ => AddrsKept handlerAddr d) (fun _ => rfl) ?_
  intro d tr a d' evs hkept hs i
  rw [step_addrs hs i]
  exact hkept i

/-- **A client reads the value of a register exactly when the bytes past the twelfth are those
its message held before.** -/
theorem readBack_iff {handlerAddr : Handler → UInt32} {d : Daemon} {i : Fin MAX_SENSORS}
    (hd : AddrsKept handlerAddr d) (hi : (i : Nat) < registers.length) (l : Leftovers)
    (msg : I2cData) (haddr : msg.addr = (sockMsgArr handlerAddr i).addr) :
    ReadsBack l msg d i ↔ TailAgrees (d.sock_msgArr i) msg := by
  apply readsBack_of_found
  rw [getIdByAddr_congr hd, haddr]
  exact getIdByAddr_register handlerAddr hi

/-- The command line `portSfpVendor_1`, the name of the entry 41. -/
def vendorName : Bytes := "portSfpVendor_1".toList.map (fun c => UInt8.ofNat c.toNat)

/-- The client's message for it. -/
def vendorMessage : I2cData :=
  (getI2cAddrByName (sockMsgArr fun _ => 0) vendorName i2CParam).getD zeroData

/-- A daemon whose low-priority dump is one record of sixteen bytes. -/
def vendorDaemon : Daemon := openI2c (fun _ => 0) 1 1 0 18 (fun _ => 0)

/-- The iteration that reads the dump: the vendor is the bytes from 1 to 16. -/
def vendorDump : Action :=
  .loop ⟨1, 1, 1, some ([62, 16] ++ (List.range 16).map (fun k => UInt8.ofNat (k + 1)))⟩

def emptyBuffers : Leftovers := ⟨[], zeroData, zeroData, []⟩

/-- The same with a vendor of twelve bytes, filled up with zeros. -/
def shortVendorDump : Action :=
  .loop ⟨1, 1, 1, some ([62, 16] ++ (List.range 12).map (fun k => UInt8.ofNat (k + 1)) ++
    [0, 0, 0, 0])⟩

/-- A vendor of twelve bytes is read back: the client's message has zeros behind them too. -/
theorem readBack_iff_vendor : ∃ vs tr d, Exec hwsysMachine vendorDaemon vs tr d ∧
    vs.map (fun v => v.act) = [shortVendorDump] ∧
    (d.sock_msgArr 41).data = (List.range 12).map (fun k => UInt8.ofNat (k + 1)) ++ [0, 0, 0, 0] ∧
    (ReadsBack emptyBuffers vendorMessage d 41 ↔ TailAgrees (d.sock_msgArr 41) vendorMessage) ∧
    TailAgrees (d.sock_msgArr 41) vendorMessage := by
  obtain ⟨vs, hvs, hact⟩ := Exec.replay hwsysMachine vendorDaemon [shortVendorDump] rfl
  have haddr : vendorMessage.addr = (sockMsgArr (fun _ => 0) 41).addr := by decide +kernel
  refine ⟨vs, _, _, hvs, hact, by decide +kernel, ?_, by decide +kernel⟩
  exact readBack_iff (addrsKept_run hvs) (by decide) emptyBuffers vendorMessage haddr

/-- Of a vendor name of sixteen bytes the client gets twelve. -/
theorem long_value_cut : ∃ vs tr d, Exec hwsysMachine vendorDaemon vs tr d ∧
    vs.map (fun v => v.act) = [vendorDump] ∧ vendorMessage.addr = (d.sock_msgArr 41).addr ∧
    (d.sock_msgArr 41).data = (List.range 16).map (fun k => UInt8.ofNat (k + 1)) ∧
    ¬ ReadsBack emptyBuffers vendorMessage d 41 := by
  obtain ⟨vs, hvs, hact⟩ := Exec.replay hwsysMachine vendorDaemon [vendorDump] rfl
  refine ⟨vs, _, _, hvs, hact, by decide +kernel, by decide +kernel, ?_⟩
  have haddr : vendorMessage.addr = (sockMsgArr (fun _ => 0) 41).addr := by decide +kernel
  have hfound := (getIdByAddr_congr (addrsKept_run hvs) vendorMessage.addr).trans
    (haddr ▸ getIdByAddr_register (i := 41) (fun _ => 0) (by decide))
  intro hread
  exact absurd ((readsBack_of_found hfound).mp hread) (by decide +kernel)

end Hwsys
