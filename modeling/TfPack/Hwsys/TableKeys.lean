import TfPack.Hwsys.Ctrl

set_option autoImplicit false

/-! # The keys of the register table

An entry of `sock_msgArr` holds the value of a register and what the register is found by: its
address and name, its length and type, and its event handler. `i2c_setData` copies the client's
whole structure over the entry, so a write keeps these keys only when the client sends them
along (`writes_keep_keys_iff`); the client program never does (`ctrlSet_loses_keys`).
-/

namespace Hwsys

open CStruct StepMachine

/-- The fields of an entry that are not data. -/
structure Keys where
  addr : UInt32
  name : Fin I2C_NAME_MAX_LEN → UInt8
  lenData : UInt8
  type : UInt32
  eventsHandler : UInt32
  deriving DecidableEq

def I2cData.keys (m : I2cData) : Keys := ⟨m.addr, m.name, m.lenData, m.type, m.eventsHandler⟩

/-- The keys of a table. -/
def keysOf (t : Table) : Fin MAX_SENSORS → Keys := I2cData.keys ∘ t

/-- The addresses of the handlers `i2c_events_handler` calls. -/
def calledHandlers (t : Table) : List UInt32 := (i2cEventsHandler t).map Prod.fst

/-! ## What the keys decide -/

section Keys

variable {t t' : Table}

theorem addr_of_keys (h : keysOf t = keysOf t') (i : Fin MAX_SENSORS) :
    (t i).addr = (t' i).addr :=
  congrArg Keys.addr (congrFun h i)

theorem findByName_congr (h : keysOf t = keysOf t') (name : Bytes) :
    findByName t name = findByName t' name := by
  show (List.finRange MAX_SENSORS).find? (fun i => cName (keysOf t i).name == name) = _
  rw [h]
  rfl

theorem calledHandlers_eq (t : Table) :
    calledHandlers t = (List.finRange MAX_SENSORS).filterMap (fun i =>
      if (keysOf t i).eventsHandler = 0 then none else some (keysOf t i).eventsHandler) := by
  rw [calledHandlers, i2cEventsHandler, List.map_filterMap]
  congr 1
  funext i
  show Option.map Prod.fst (if (t i).eventsHandler = 0 then none else _) =
    if (t i).eventsHandler = 0 then none else some (t i).eventsHandler
  split <;> rfl

/-- **Registers and handlers are found as in the table `t₀`.** -/
structure TableKept (t₀ t : Table) : Prop where
  keys : keysOf t = keysOf t₀
  byAddr : ∀ addr, getIdByAddr t addr = getIdByAddr t₀ addr
  byName : ∀ name, findByName t name = findByName t₀ name
  handlers : calledHandlers t = calledHandlers t₀

theorem tableKept_iff {t₀ : Table} : TableKept t₀ t ↔ keysOf t = keysOf t₀ := by
  constructor
  · exact TableKept.keys
  · intro h
    refine ⟨h, getIdByAddr_congr (addr_of_keys h), findByName_congr h, ?_⟩
    rw [calledHandlers_eq, calledHandlers_eq, h]

/-- The keys after an entry is replaced. -/
theorem keysOf_update (t : Table) (id : Fin MAX_SENSORS) (m : I2cData) :
    keysOf (Function.update t id m) = Function.update (keysOf t) id m.keys :=
  Function.comp_update ..

theorem keysOf_update_eq {id : Fin MAX_SENSORS} {m : I2cData} (h : m.keys = (t id).keys) :
    keysOf (Function.update t id m) = keysOf t := by
  rw [keysOf_update, h]
  exact Function.update_eq_self id (keysOf t)

/-- An entry that is replaced by one with the same keys is all that is needed. -/
theorem keysOf_update_iff {id : Fin MAX_SENSORS} {m : I2cData} :
    keysOf (Function.update t id m) = keysOf t ↔ m.keys = (t id).keys := by
  rw [keysOf_update, Function.update_eq_self_iff]
  rfl

end Keys

/-! ## One write -/

section Write

variable {d d' : Daemon} {m : I2cData}

theorem stored_entry (d : Daemon) (id : Fin MAX_SENSORS) (m : I2cData) :
    (d.stored id m).sock_msgArr id = m :=
  Function.update_self ..

/-- The message repeats the keys of the register it addresses. -/
def Repeats (m : I2cData) (t : Table) : Prop :=
  ∃ id, getIdByAddr t m.addr = some id ∧ m.keys = (t id).keys

/-- The message also carries the header the entry has. -/
def RepeatsAll (m : I2cData) (t : Table) : Prop :=
  ∃ id, getIdByAddr t m.addr = some id ∧ m.keys = (t id).keys ∧
    (t id).lenMSG = UInt8.ofNat sizeofData ∧ m.opcode = (t id).opcode

/-- The write is taken, the keys of the entry stay, and so does every other entry. -/
def WriteKeepsKeys (m : I2cData) (d : Daemon) : Prop :=
  ∃ d' evs id, acceptWrite m d = some (d', evs) ∧ getIdByAddr d.sock_msgArr m.addr = some id ∧
    (d'.sock_msgArr id).keys = (d.sock_msgArr id).keys ∧
    ∀ j, j ≠ id → d'.sock_msgArr j = d.sock_msgArr j

/-- The write is taken, and nothing but the value of the entry changes. -/
def WritesOnlyValue (m : I2cData) (d : Daemon) : Prop :=
  ∃ d' evs id, acceptWrite m d = some (d', evs) ∧ getIdByAddr d.sock_msgArr m.addr = some id ∧
    ∃ v, d'.sock_msgArr = Function.update d.sock_msgArr id { d.sock_msgArr id with value := v }

/-- **One write keeps the keys exactly when its message repeats them.** -/
theorem writeKeepsKeys_iff : WriteKeepsKeys m d ↔ Repeats m d.sock_msgArr := by
  constructor
  · rintro ⟨d', evs, id, hs, hid, hkeys, -⟩
    obtain ⟨id', hid', rfl, -⟩ := acceptWrite_eq_some_iff.mp hs
    cases hid.symm.trans hid'
    rw [stored_entry] at hkeys
    exact ⟨id, hid, hkeys⟩
  · rintro ⟨id, hid, hkeys⟩
    refine ⟨_, _, id, acceptWrite_eq_some_iff.mpr ⟨id, hid, rfl, rfl⟩, hid, ?_, ?_⟩
    · rw [stored_entry]
      exact hkeys
    · intro j hj
      exact Function.update_of_ne hj _ _

/-- **It changes the value alone exactly when the message repeats the header too.** -/
theorem writesOnlyValue_iff : WritesOnlyValue m d ↔ RepeatsAll m d.sock_msgArr := by
  constructor
  · rintro ⟨d', evs, id, hs, hid, v, hv⟩
    obtain ⟨id', hid', rfl, -⟩ := acceptWrite_eq_some_iff.mp hs
    cases hid.symm.trans hid'
    -- the entry is the message with its length filled in, so every other field has to agree
    have hentry := congrFun hv id
    rw [stored_entry, Function.update_self] at hentry
    simp only [I2cData.sized, I2cData.mk.injEq] at hentry
    obtain ⟨hlen, haddr, hname, hop, hdata, htype, hhandler, -⟩ := hentry
    refine ⟨id, hid, ?_, hlen.symm, hop⟩
    rw [I2cData.keys, I2cData.keys, haddr, hname, hdata, htype, hhandler]
  · rintro ⟨id, hid, hkeys, hlen, hop⟩
    refine ⟨_, _, id, acceptWrite_eq_some_iff.mpr ⟨id, hid, rfl, rfl⟩, hid, m.value, ?_⟩
    simp only [I2cData.keys, Keys.mk.injEq] at hkeys
    obtain ⟨haddr, hname, hdata, htype, hhandler⟩ := hkeys
    have hm : m.sized = { d.sock_msgArr id with value := m.value } := by
      rw [I2cData.sized, haddr, hname, hop, hdata, htype, hhandler, ← hlen]
    rw [← hm]
    rfl

end Write

/-! ## The client program -/

/-- The client's message has no name. -/
theorem getI2cAddrByName_name {t : Table} {name : Bytes} {msg : I2cData}
    (h : getI2cAddrByName t name i2CParam = some msg) : msg.name = zeroData.name := by
  simp only [getI2cAddrByName, Option.map_eq_some_iff] at h
  obtain ⟨i, -, rfl⟩ := h
  rfl

/-- **No `tf_hwsys_ctrl <name> set <val>` repeats the keys**, so each of them loses those of the
register it sets. -/
theorem ctrlSet_loses_keys {handlerAddr : Handler → UInt32} {t t' : Table} {name bs : Bytes}
    {val : UInt8} {e : ClientEnv} (h : keysOf t = keysOf (sockMsgArr handlerAddr))
    (hctrl : ctrlSet t' name val = some bs) (he : e.read = some bs) :
    ¬ Repeats e.received t := by
  rintro ⟨id, hid, hkeys⟩
  simp only [ctrlSet, Option.map_eq_some_iff] at hctrl
  obtain ⟨msg, hmsg, rfl⟩ := hctrl
  rw [sendMsg_sizeofData] at he
  rw [received_bytes he] at hid hkeys
  have hentry : (t id).keys = (sockMsgArr handlerAddr id).keys := congrFun h id
  rw [getIdByAddr_congr (addr_of_keys h)] at hid
  have hlt := register_of_getIdByAddr handlerAddr hid
  rw [hentry, sockMsgArr_register handlerAddr hlt] at hkeys
  -- every register has a name, and the message has none
  have hname : msg.name = nameBytes registers[(id : Nat)].name := congrArg Keys.name hkeys
  have hnone := getI2cAddrByName_name hmsg
  exact registers_named _ (List.getElem_mem hlt) (hname.symm.trans hnone)

/-! ## Steps and runs -/

section Steps

variable {d d' : Daemon} {evs : List Event}

theorem storeValue_keys (t : Table) (id : Fin MAX_SENSORS) (raw : RawData) (offset len : Nat) :
    keysOf (storeValue t id raw offset len) = keysOf t :=
  keysOf_update_eq rfl

/-- The TLV parser changes no key: an iteration stores into a value, or nothing. -/
theorem i2cParseTlv_keys {raw : RawData} {len : UInt16} {c : UInt8} {t t' : Table}
    (h : i2cParseTlv raw len t = some (t', c)) : keysOf t' = keysOf t := by
  have hrun := Option.join_eq_some_iff.mp h
  -- the invariant of the loop is that the keys are those of the first table
  refine BoundedLoop.run_inv (P := fun s => keysOf s.sock_msgArr = keysOf t)
    (Q := fun r => ∀ t' c, r = some (t', c) → keysOf t' = keysOf t) ?_ ?_ rfl hrun t' c rfl
  · intro s s' hs hbody
    obtain ⟨-, regaddr, n, id, -, -, -, -, -, rfl⟩ := tlvBody_eq_inl hbody
    dsimp only
    split
    · rw [storeValue_keys, hs]
    · exact hs
  · rintro s _ hs hbody t' c rfl
    rw [tlvBody_eq_inr hbody, hs]

theorem readDump_keys {len : UInt16} {reply : Option Bytes} {c : UInt8}
    (h : readDump d len reply = some (d', c)) : keysOf d'.sock_msgArr = keysOf d.sock_msgArr := by
  unfold readDump at h
  split at h
  · cases h
  · split at h
    · simp only [Option.map_eq_some_iff, Prod.mk.injEq] at h
      obtain ⟨⟨t, c'⟩, hparse, rfl, -⟩ := h
      exact i2cParseTlv_keys hparse
    · cases h
      rfl

theorem readI2c_keys {e : LoopEnv} {c : UInt8} (h : readI2c e d = some (d', c, evs)) :
    keysOf d'.sock_msgArr = keysOf d.sock_msgArr := by
  unfold readI2c at h
  split at h
  · simp only [Option.map_eq_some_iff, Prod.mk.injEq] at h
    obtain ⟨⟨d₁, c₁⟩, hdump, rfl, -⟩ := h
    show keysOf d₁.sock_msgArr = _
    exact readDump_keys hdump
  · split at h
    · simp only [Option.map_eq_some_iff, Prod.mk.injEq] at h
      obtain ⟨⟨d₁, c₁⟩, hdump, rfl, -⟩ := h
      show keysOf d₁.sock_msgArr = _
      exact readDump_keys hdump
    · split at h
      · simp only [Option.map_eq_some_iff, Prod.mk.injEq] at h
        obtain ⟨w, -, rfl, -⟩ := h
        rfl
      · cases h
        rfl

theorem mainHandler_keys {e : LoopEnv} (h : mainHandler e d = some (d', evs)) :
    keysOf d'.sock_msgArr = keysOf d.sock_msgArr := by
  simp only [mainHandler, Option.map_eq_some_iff, Prod.mk.injEq] at h
  obtain ⟨⟨d₁, c, evs₁⟩, hread, rfl, -⟩ := h
  rw [← readI2c_keys hread]
  unfold countError
  dsimp only
  generalize (if c = EXIT_FAILURE then d₁.errorCount + 1 else 0) = count
  split <;> rfl

/-- `i2c_getData` stores the length of the message, and no key. -/
theorem i2cGetData_keys {t t' : Table} {dst m : I2cData} {addr : UInt32} {len : Nat}
    (h : i2cGetData t dst addr len = some (t', m)) : keysOf t' = keysOf t := by
  simp only [i2cGetData, Option.map_eq_some_iff, Prod.mk.injEq] at h
  obtain ⟨id, -, rfl, -⟩ := h
  exact keysOf_update_eq rfl

/-- The step is a write whose message does not repeat the keys of its register. -/
def Action.Rekeys (d : Daemon) : Action → Prop
  | .client e =>
      e.received.opcode = Opcode.I2C_OPCODE_WRITE.val ∧ ¬ Repeats e.received d.sock_msgArr
  | _ => False

theorem acceptWrite_keys_iff {m : I2cData} (h : acceptWrite m d = some (d', evs)) :
    keysOf d'.sock_msgArr = keysOf d.sock_msgArr ↔ Repeats m d.sock_msgArr := by
  obtain ⟨id, hid, rfl, -⟩ := acceptWrite_eq_some_iff.mp h
  show keysOf (Function.update d.sock_msgArr id m.sized) = _ ↔ _
  rw [keysOf_update_iff]
  constructor
  · intro hkeys
    exact ⟨id, hid, hkeys⟩
  · rintro ⟨id', hid', hkeys⟩
    cases hid.symm.trans hid'
    exact hkeys

/-- **One step keeps the keys exactly when it is no such write.** -/
theorem step_keys_iff {a : Action} (h : hwsysMachine.step d a = some (d', evs)) :
    keysOf d'.sock_msgArr = keysOf d.sock_msgArr ↔ ¬ a.Rekeys d := by
  -- only a client's write stores a structure that somebody else has made
  cases a with
  | loop e =>
      simp only [Action.Rekeys, not_false_iff, iff_true]
      exact mainHandler_keys h
  | getData dst addr len =>
      simp only [hwsysMachine, Option.map_eq_some_iff, Prod.mk.injEq] at h
      obtain ⟨⟨t, m⟩, hget, rfl, -⟩ := h
      simp only [Action.Rekeys, not_false_iff, iff_true]
      exact i2cGetData_keys hget
  | client e =>
      replace h : clientHandler e d = some (d', evs) := h
      unfold clientHandler at h
      dsimp only at h
      split at h
      · rename_i hop
        have hread : e.received.opcode ≠ Opcode.I2C_OPCODE_WRITE.val := by
          rw [hop]
          decide
        simp only [answerRead, Option.map_eq_some_iff, Prod.mk.injEq] at h
        obtain ⟨⟨t, m⟩, hget, rfl, -⟩ := h
        simp only [Action.Rekeys, hread, false_and, not_false_iff, iff_true]
        exact i2cGetData_keys hget
      · split at h
        · rename_i hop
          rw [acceptWrite_keys_iff h]
          simp only [Action.Rekeys, hop, true_and, not_not]
        · rename_i hop
          cases h
          simp only [Action.Rekeys, hop, false_and, not_false_iff]

end Steps

/-- The step taken at a point of a run loses the keys of a register. -/
def LosesKeys (v : HwsysVisit) : Prop := v.act.Rekeys v.state

/-- **A run keeps all keys exactly when every write repeats those of its register.** -/
theorem tableKept_run_iff {handlerAddr : Handler → UInt32} {hiNow lowNow : Nat}
    {hiLen lowLen : UInt16} {raw : RawData} {vs : List HwsysVisit} {tr : List Event} {d : Daemon}
    (h : Exec hwsysMachine (openI2c handlerAddr hiNow lowNow hiLen lowLen raw) vs tr d) :
    ((∀ v ∈ vs, TableKept (sockMsgArr handlerAddr) v.state.sock_msgArr) ∧
        TableKept (sockMsgArr handlerAddr) d.sock_msgArr) ↔
      ∀ v ∈ vs, ¬ LosesKeys v := by
  refine h.inv_iff (fun d _ => TableKept (sockMsgArr handlerAddr) d.sock_msgArr)
    (fun v => ¬ LosesKeys v) (tableKept_iff.mpr rfl) ?_
  intro d tr a d' evs hkept hs
  rw [tableKept_iff, ← tableKept_iff.mp hkept]
  exact step_keys_iff hs

/-- **A write leaves all but the value of its register alone exactly when the message repeats
the entry**, for one write on any table and for the keys over whole runs. -/
theorem writes_keep_keys_iff (m : I2cData) (d₁ : Daemon) {handlerAddr : Handler → UInt32}
    {hiNow lowNow : Nat} {hiLen lowLen : UInt16} {raw : RawData} {vs : List HwsysVisit}
    {tr : List Event} {d : Daemon}
    (h : Exec hwsysMachine (openI2c handlerAddr hiNow lowNow hiLen lowLen raw) vs tr d) :
    (WriteKeepsKeys m d₁ ↔ Repeats m d₁.sock_msgArr) ∧
    (WritesOnlyValue m d₁ ↔ RepeatsAll m d₁.sock_msgArr) ∧
    (((∀ v ∈ vs, TableKept (sockMsgArr handlerAddr) v.state.sock_msgArr) ∧
        TableKept (sockMsgArr handlerAddr) d.sock_msgArr) ↔
      ∀ v ∈ vs, ¬ LosesKeys v) :=
  ⟨writeKeepsKeys_iff, writesOnlyValue_iff, tableKept_run_iff h⟩

/-- The handler of the relay is at the address 2, the others are at 1. -/
def relayHandlerAt (h : Handler) : UInt32 := if h = .handler_RELAY1 then 2 else 1

def relayDaemon : Daemon := openI2c relayHandlerAt 1 1 0 0 (fun _ => 0)

/-- The whole entry of the relay, to be written with the value 1. -/
def wholeEntry : I2cData :=
  { sockMsgArr relayHandlerAt 10 with
    opcode := Opcode.I2C_OPCODE_WRITE.val
    value := fun i => if (i : Nat) = 0 then 1 else 0 }

/-- A client that sends the whole entry back keeps the keys. -/
theorem writes_keep_keys_iff_whole : ∃ vs tr d, Exec hwsysMachine relayDaemon vs tr d ∧
    vs.map (fun v => v.act) = [.client ⟨some wholeEntry.bytes, [], zeroData, zeroData⟩] ∧
    findByName d.sock_msgArr relayName = some 10 ∧ (d.sock_msgArr 10).data = [1] ∧
    (WriteKeepsKeys wholeEntry relayDaemon ↔ Repeats wholeEntry relayDaemon.sock_msgArr) ∧
    (WritesOnlyValue wholeEntry relayDaemon ↔ RepeatsAll wholeEntry relayDaemon.sock_msgArr) ∧
    (((∀ v ∈ vs, TableKept (sockMsgArr relayHandlerAt) v.state.sock_msgArr) ∧
        TableKept (sockMsgArr relayHandlerAt) d.sock_msgArr) ↔ ∀ v ∈ vs, ¬ LosesKeys v) := by
  obtain ⟨vs, hvs, hact⟩ := Exec.replay hwsysMachine relayDaemon
    [.client ⟨some wholeEntry.bytes, [], zeroData, zeroData⟩] rfl
  exact ⟨vs, _, _, hvs, hact, by decide +kernel, by decide +kernel,
    writes_keep_keys_iff wholeEntry relayDaemon hvs⟩

/-- The relay is set by the client program: it is no longer found by its name, and its handler
is no longer called. -/
theorem relay_write_loses_keys : ∃ vs tr d, Exec hwsysMachine relayDaemon vs tr d ∧
    vs.map (fun v => v.act) = [setRelay 1] ∧
    findByName relayDaemon.sock_msgArr relayName = some 10 ∧
    findByName d.sock_msgArr relayName = none ∧
    2 ∈ calledHandlers relayDaemon.sock_msgArr ∧ 2 ∉ calledHandlers d.sock_msgArr := by
  obtain ⟨vs, hvs, hact⟩ := Exec.replay hwsysMachine relayDaemon [setRelay 1] rfl
  refine ⟨vs, _, _, hvs, hact, ?_, ?_, ?_, ?_⟩
  · decide +kernel
  · decide +kernel
  · decide +kernel
  · decide +kernel

end Hwsys
