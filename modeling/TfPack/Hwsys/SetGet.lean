import TfPack.Hwsys.PrintedText
import TfPack.Hwsys.WriteSlot

set_option autoImplicit false

/-! # The client program: setting a register and getting it

`tf_hwsys_ctrl <register> set <value>` and, when the daemon has sent the write,
`tf_hwsys_ctrl <register> get`. The value passes through a `uint8_t` on its way in, so that a number
comes back exactly when it fits in one byte, however long the register is (`setThenGet_iff`).
-/

namespace Hwsys

open AutoRestart (strtol)
open StepMachine

/-! ## The command line -/

/-- `gpio_name`. -/
def gpio_name : List Bytes :=
  ["SYS_LED", "SYS_RESET", "empty", "empty", "empty", "empty", "empty", "empty", "empty", "empty",
    "empty", "IOMCU_RESET", "empty", "POE_RESET", "BOOT0"].map
    (fun s => s.toList.map (fun c => UInt8.ofNat c.toNat))

/-- The message for the register that is named on the command line; a GPIO line goes before a
register of its name. -/
def registerMessage (t : Table) (name : Bytes) : Option I2cData :=
  if gpio_name.contains name then none else getI2cAddrByName t name i2CParam

/-- `value`, from the command line. -/
def argValue (arg : Text) : UInt8 := UInt8.ofInt (strtol arg)

/-- What the programs find besides what they send each other: the clients' register table, the
buffers of the daemon when the write comes, the iteration of its main loop, and the buffers when
the value is read. -/
structure Session where
  clientTable : Handler → UInt32
  setMsg : Bytes
  setRec : I2cData
  setSend : I2cData
  loop : LoopEnv
  left : Leftovers

/-- The daemon after `tf_hwsys_ctrl <name> set <arg>`. -/
def Session.set (e : Session) (d : Daemon) (name : Bytes) (arg : Text) : Option Daemon :=
  (registerMessage (sockMsgArr e.clientTable) name).bind (fun msg =>
    (clientHandler ⟨some (sendMsg (i2cSetHandler msg (argValue arg)) (UInt8.ofNat sizeofData)),
      e.setMsg, e.setRec, e.setSend⟩ d).map Prod.fst)

/-- What `tf_hwsys_ctrl <name> get` prints. -/
def Session.get (e : Session) (d : Daemon) (name : Bytes) : Option Text :=
  (registerMessage (sockMsgArr e.clientTable) name).bind (fun msg =>
    (readRegister e.left msg d).bind (fun r => printed r.2.1 r.2.2))

/-- What is printed after a value has been set and an iteration of the daemon's loop. -/
def Session.setThenGet (e : Session) (d : Daemon) (name : Bytes) (arg : Text) : Option Text :=
  (e.set d name arg).bind (fun d =>
    (mainHandler e.loop d).bind (fun r => e.get r.1 name))

/-- Neither timer is over, so that the iteration sends the write that waits. -/
def Session.Applies (e : Session) (d : Daemon) : Prop :=
  timerExpired e.loop.hiNow d.hi_prio_timer = false ∧
    timerExpired e.loop.lowNow d.low_prio_timer = false

/-- The name of a register, as it is typed. -/
def Register.typed (r : Register) : Bytes := cName (nameBytes r.name)

section SetGet

variable {handlerAddr : Handler → UInt32} {r : Register} {d : Daemon}

theorem typed_nodup : (registers.map Register.typed).Nodup := by decide +kernel

theorem typed_not_gpio : ∀ r ∈ registers, ¬gpio_name.contains r.typed := by decide +kernel

variable (handlerAddr) in
/-- **Every register is found by its name.** -/
theorem findByName_register {i : Fin MAX_SENSORS} (h : (i : Nat) < registers.length) :
    findByName (sockMsgArr handlerAddr) registers[(i : Nat)].typed = some i := by
  have hname : ∀ {j : Fin MAX_SENSORS} (hj : (j : Nat) < registers.length),
      cName (sockMsgArr handlerAddr j).name = registers[(j : Nat)].typed := by
    intro j hj
    rw [sockMsgArr_register handlerAddr hj]
    rfl
  rw [findByName, ← Fin.find?_eq_find?_finRange, Fin.find?_eq_some_iff]
  constructor
  · rw [hname h]
    exact beq_self_eq_true _
  · intro j hj
    have hj' : (j : Nat) < registers.length := lt_trans hj h
    have hne : registers[(j : Nat)].typed ≠ registers[(i : Nat)].typed := by
      intro heq
      have hjm : (j : Nat) < (registers.map Register.typed).length := by simpa using hj'
      have him : (i : Nat) < (registers.map Register.typed).length := by simpa using h
      have hij : (j : Nat) = i := (@List.Nodup.getElem_inj_iff _ _ typed_nodup j hjm i him).mp (by
        rw [List.getElem_map, List.getElem_map, heq])
      exact absurd hij (Nat.ne_of_lt hj)
    rw [hname hj']
    exact beq_false_of_ne hne

/-- The message of a client for a register. -/
def Register.message (r : Register) : I2cData :=
  { i2CParam with
    opcode := Opcode.I2C_OPCODE_IDLE.val, addr := r.addr, lenData := r.lenData, type := r.type.val }

theorem registerMessage_eq (h : r ∈ registers) :
    registerMessage (sockMsgArr handlerAddr) r.typed = some r.message := by
  obtain ⟨i, hi, rfl⟩ := List.getElem_of_mem h
  have hlt : i < MAX_SENSORS := lt_of_lt_of_le hi (by decide)
  have hfound := findByName_register handlerAddr (i := ⟨i, hlt⟩) hi
  rw [registerMessage, if_neg (typed_not_gpio _ h), getI2cAddrByName, hfound, Option.map_some,
    sockMsgArr_register handlerAddr (i := ⟨i, hlt⟩) hi]
  rfl

/-- The register is in the daemon's table. -/
theorem exists_entry (hd : AddrsKept handlerAddr d) (h : r ∈ registers) :
    ∃ id, getIdByAddr d.sock_msgArr r.addr = some id := by
  obtain ⟨i, hi, rfl⟩ := List.getElem_of_mem h
  have hlt : i < MAX_SENSORS := lt_of_lt_of_le hi (by decide)
  refine ⟨⟨i, hlt⟩, ?_⟩
  have hfound := getIdByAddr_register handlerAddr (i := ⟨i, hlt⟩) hi
  rw [sockMsgArr_register handlerAddr (i := ⟨i, hlt⟩) hi] at hfound
  rw [getIdByAddr_congr hd]
  exact hfound

/-! ## The write -/

/-- The structure that the daemon stores for a write. -/
def Session.written (e : Session) (r : Register) (val : UInt8) : I2cData :=
  { (i2cSetHandler r.message val).sized with
    value := fun i =>
      if (i : Nat) < 12 then (i2cSetHandler r.message val).value i else e.setRec.value i }

/-- **A write is stored whole.** -/
theorem set_eq (e : Session) (h : r ∈ registers) {id : Fin MAX_SENSORS}
    (hid : getIdByAddr d.sock_msgArr r.addr = some id) (arg : Text) :
    e.set d r.typed arg = some (d.stored id (e.written r (argValue arg))) := by
  have hrec : ClientEnv.received ⟨some (sendMsg (i2cSetHandler r.message (argValue arg))
      (UInt8.ofNat sizeofData)), e.setMsg, e.setRec, e.setSend⟩ =
      { i2cSetHandler r.message (argValue arg) with
        value := fun i =>
          if (i : Nat) < 12 then (i2cSetHandler r.message (argValue arg)).value i
          else e.setRec.value i } :=
    received_bytes (by rw [sendMsg_sizeofData])
  have haccept := (acceptWrite_eq_some_iff (m := { i2cSetHandler r.message (argValue arg) with
    value := fun i => if (i : Nat) < 12 then (i2cSetHandler r.message (argValue arg)).value i
      else e.setRec.value i }) (d := d)).mpr ⟨id, hid, rfl, rfl⟩
  rw [Session.set, registerMessage_eq h, Option.bind_some, clientHandler, hrec]
  show Option.map Prod.fst (if Opcode.I2C_OPCODE_WRITE.val = Opcode.I2C_OPCODE_RESPONSE.val then _
    else if Opcode.I2C_OPCODE_WRITE.val = Opcode.I2C_OPCODE_WRITE.val then _ else _) = _
  rw [if_neg (by decide), if_pos rfl, haccept]
  rfl

/-- The bytes of the value that is written: the first is the number, the next three are zero. -/
theorem value_written (e : Session) (r : Register) (val : UInt8) (k : Fin 4) :
    (e.written r val).value (k.castLE (by decide)) = if (k : Nat) = 0 then val else 0 := by
  have hk : (k : Nat) < 12 := lt_trans k.isLt (by decide)
  show (if (k : Nat) < 12 then
    (if (k : Nat) < 4 then UInt8.ofNat (val.toNat <<< (8 * (k : Nat))) else _) else _) = _
  rw [if_pos hk, if_pos k.isLt]
  -- a whole byte further up nothing is left of the number
  have hlt := val.toNat_lt
  apply UInt8.toNat_inj.mp
  match k with
  | 0 => simp
  | 1 => simp [Nat.shiftLeft_eq]
  | 2 => simp [Nat.shiftLeft_eq]
  | 3 => simp [Nat.shiftLeft_eq]

/-! ## The answer -/

/-- What is printed for a byte followed by zeros. -/
theorem printed_byte {m : I2cData} {val : UInt8}
    (hop : m.opcode = Opcode.I2C_OPCODE_RESPONSE.val)
    (hlen : m.lenData = 1 ∨ m.lenData = 2 ∨ m.lenData = 4) (htype : m.type = I2cType.TYPE_UINT.val)
    (h0 : valueByte m.value 0 = val) (hrest : ∀ k, 0 < k → k < 4 → valueByte m.value k = 0) :
    printed m .SOCKET_READ_OK = some (Nat.toDigits 10 val.toNat ++ ['\n']) := by
  have hlt := val.toNat_lt
  have h1 := hrest 1 (by decide) (by decide)
  have h2 := hrest 2 (by decide) (by decide)
  have h3 := hrest 3 (by decide) (by decide)
  have herror : m.errorResponse = false := by
    rw [I2cData.errorResponse, h1]
    exact Bool.and_false _
  have hbyte : intText (val.toNat : Int) = Nat.toDigits 10 val.toNat := by
    rw [intText, if_neg (by omega), Int.natAbs_natCast]
  have htext : valueText m = some (Nat.toDigits 10 val.toNat) := by
    unfold valueText
    rcases hlen with hlen | hlen | hlen
    · rw [hlen, h0]
      exact congrArg some hbyte
    · have h16 : m.value16.toNat = val.toNat := by
        simp [I2cData.value16, get16bitValue, h0, h1]
      rw [hlen, htype]
      show some (intText (m.value16.toNat : Int)) = _
      rw [h16, hbyte]
    · have h32 : m.value32.toInt32.toInt = val.toNat := by
        have hword : m.value32 = UInt32.ofNat val.toNat := by
          simp [I2cData.value32, h0, h1, h2, h3]
        rw [hword, UInt32.toInt32_ofNat', Int32.toInt_ofNat_of_lt (by omega)]
      rw [hlen]
      show some (intText m.value32.toInt32.toInt) = _
      rw [h32, hbyte]
  simp only [printed, hop, if_true, htext, Option.map_some, herror]
  rfl

/-- **What is printed after a write has been sent**: the byte that was written. -/
theorem setThenGet_eq (e : Session) (hd : AddrsKept handlerAddr d) (h : r ∈ registers)
    (hlen : r.lenData = 1 ∨ r.lenData = 2 ∨ r.lenData = 4) (htype : r.type = .TYPE_UINT)
    (happlies : e.Applies d) (arg : Text) :
    e.setThenGet d r.typed arg = some (Nat.toDigits 10 (argValue arg).toNat ++ ['\n']) := by
  obtain ⟨id, hid⟩ := exists_entry hd h
  have hfits : r.lenData.toNat + 2 ≤ 10 := by
    rcases hlen with hlen | hlen | hlen <;> rw [hlen] <;> decide
  have hsends := mainHandler_sends (d := d.stored id (e.written r (argValue arg))) (e := e.loop)
    rfl happlies.1 happlies.2 hfits
  have hsame : getIdByAddr (d.stored id (e.written r (argValue arg))).sock_msgArr r.addr =
      some id := by
    rw [← hid]
    refine getIdByAddr_congr (fun j => ?_) _
    by_cases hj : j = id
    · subst hj
      have haddr : (d.sock_msgArr j).addr = r.addr := by simpa using List.find?_some hid
      rw [stored_entry, haddr]
      rfl
    · exact congrArg I2cData.addr (Function.update_of_ne hj _ _)
  obtain ⟨d', hread⟩ := readRegister_eq e.left r.message
    (d := { d.stored id (e.written r (argValue arg)) with write_flag := false, errorCount := 0 })
    hsame
  rw [Session.setThenGet, set_eq e h hid, Option.bind_some, hsends, Option.bind_some, Session.get,
    registerMessage_eq h, Option.bind_some, hread, Option.bind_some]
  have hentry : ({ d.stored id (e.written r (argValue arg)) with
      write_flag := false, errorCount := 0 } : Daemon).sock_msgArr id =
        e.written r (argValue arg) :=
    Function.update_self id _ d.sock_msgArr
  rw [hentry]
  refine printed_byte rfl hlen (congrArg I2cType.val htype) ?_ ?_
  · exact value_written e r (argValue arg) 0
  · intro k hpos hk
    have hbyte := value_written e r (argValue arg) ⟨k, hk⟩
    rw [if_neg (Nat.ne_of_gt hpos)] at hbyte
    have hlt : k < VALUE_LEN := lt_trans hk (by decide)
    rw [valueByte, List.getD_eq_getElem?_getD, List.getElem?_ofFn, dif_pos hlt, Option.getD_some]
    show (if k < 12 then (e.written r (argValue arg)).value ⟨k, hlt⟩ else _) = _
    rw [if_pos (lt_trans hk (by decide))]
    exact hbyte

/-- What becomes of a number on the command line. -/
theorem toNat_argValue (v : Nat) :
    (argValue (Nat.toDigits 10 v)).toNat = min v 2147483647 % 256 := by
  have hread : strtol (Nat.toDigits 10 v) = ((min v 2147483647 : Nat) : Int) := by
    have hstrtol := AutoRestart.strtol_toDigits v (show AutoRestart.NoDigit [] from nofun)
    rw [List.append_nil] at hstrtol
    rw [hstrtol, AutoRestart.LONG_MAX]
    omega
  rw [argValue, hread, UInt8.ofInt]
  simp
  omega

/-- **When a number comes back**: when it fits in one byte. -/
theorem setThenGet_iff (e : Session) {hiNow lowNow : Nat} {hiLen lowLen : UInt16} {raw : RawData}
    {vs : List HwsysVisit} {tr : List Event}
    (hrun : Exec hwsysMachine (openI2c handlerAddr hiNow lowNow hiLen lowLen raw) vs tr d)
    (happlies : e.Applies d) (h : r ∈ registers)
    (hlen : r.lenData = 1 ∨ r.lenData = 2 ∨ r.lenData = 4) (htype : r.type = .TYPE_UINT)
    (v : Nat) :
    e.setThenGet d r.typed (Nat.toDigits 10 v) = some (Nat.toDigits 10 v ++ ['\n']) ↔ v < 256 := by
  rw [setThenGet_eq e (addrsKept_run hrun) h hlen htype happlies, Option.some.injEq,
    List.append_left_inj, toNat_argValue]
  constructor
  · intro heq
    have hval := congrArg AutoRestart.digitsVal heq
    rw [AutoRestart.digitsVal_toDigits, AutoRestart.digitsVal_toDigits] at hval
    omega
  · intro hlt
    rw [Nat.min_eq_left (by omega), Nat.mod_eq_of_lt hlt]

/-- A session on clear buffers, with the write sent at second 3. -/
def clearSession : Session :=
  ⟨fun _ => 0, [], zeroData, zeroData, ⟨3, 3, 3, some []⟩, emptyBuffers⟩

/-- The register `relay`, of one byte, and `upsBatteryTime`, of two. -/
def relayRegister : Register := registers[10]
def batteryTimeRegister : Register := registers[28]

/-- A daemon that has read its dumps. -/
theorem exists_applies : ∃ vs tr d, Exec hwsysMachine quietDaemon vs tr d ∧
    clearSession.Applies d := by
  obtain ⟨vs, hvs, -⟩ := Exec.replay hwsysMachine quietDaemon [iteration 2] rfl
  exact ⟨vs, _, _, hvs, by decide +kernel, by decide +kernel⟩

/-- The relay is switched on, and read back. -/
theorem setThenGet_iff_relay : ∃ d, clearSession.setThenGet d relayRegister.typed ['1'] =
    some ['1', '\n'] := by
  obtain ⟨vs, tr, d, hrun, happlies⟩ := exists_applies
  exact ⟨d, (setThenGet_iff clearSession hrun happlies (List.getElem_mem _) (.inl rfl) rfl 1).mpr
    (by decide)⟩

/-- The battery time is set to 300, and 44 is read back. -/
theorem second_byte_lost : ¬∀ (e : Session) (vs : List HwsysVisit) (tr : List Event) (d : Daemon),
    Exec hwsysMachine quietDaemon vs tr d → e.Applies d → ∀ r ∈ registers,
      (r.lenData = 1 ∨ r.lenData = 2 ∨ r.lenData = 4) → r.type = .TYPE_UINT →
        ∀ v < 256 ^ r.lenData.toNat, e.setThenGet d r.typed (Nat.toDigits 10 v) =
          some (Nat.toDigits 10 v ++ ['\n']) := by
  intro h
  obtain ⟨vs, tr, d, hrun, happlies⟩ := exists_applies
  have hmem : batteryTimeRegister ∈ registers := List.getElem_mem _
  have hback := h clearSession vs tr d hrun happlies batteryTimeRegister hmem (.inr (.inl rfl)) rfl
    300 (by decide)
  rw [setThenGet_eq clearSession (addrsKept_run hrun) hmem (.inr (.inl rfl)) rfl happlies,
    toNat_argValue] at hback
  revert hback
  decide

end SetGet

end Hwsys
