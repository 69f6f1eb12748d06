import TfPack.Hwsys.Ctrl

set_option autoImplicit false

/-! # The write requests of the clients

`i2c_setData` leaves a client's write in `i2c_write` and sets `write_flag`; an iteration of the
main loop in which neither timer is over sends it and clears the flag. Nothing looks at the flag
before the next write is stored, so a write that comes while one is waiting takes its place
(`writesKept_iff`).
-/

namespace Hwsys

open StepMachine

/-- The writes taken from clients. -/
def acceptedWrites (tr : List Event) : List Transfer :=
  tr.filterMap (fun
    | .accepted w => some w
    | _ => none)

/-- The writes sent on the bus. -/
def transmittedWrites (tr : List Event) : List Transfer :=
  tr.filterMap (fun
    | .transmitted w => some w
    | _ => none)

/-- The write that waits. -/
def Daemon.waiting (d : Daemon) : List Transfer :=
  if d.write_flag then [d.i2c_write.transfer] else []

/-- **No write is lost, duplicated or merged**: the writes sent so far, and then the one that
waits, are the writes accepted so far, in order. -/
def WritesKept (d : Daemon) (tr : List Event) : Prop :=
  acceptedWrites tr = transmittedWrites tr ++ d.waiting

instance (d : Daemon) (tr : List Event) : Decidable (WritesKept d tr) :=
  inferInstanceAs (Decidable (acceptedWrites tr = transmittedWrites tr ++ d.waiting))

/-- The step is a client's write while another one waits. -/
def Action.overwrites (d : Daemon) : Action → Bool
  | .client e => e.received.opcode == Opcode.I2C_OPCODE_WRITE.val && d.write_flag
  | _ => false

section Steps

variable {d d' : Daemon} {tr evs : List Event}

theorem acceptedWrites_append (tr tr' : List Event) :
    acceptedWrites (tr ++ tr') = acceptedWrites tr ++ acceptedWrites tr' :=
  List.filterMap_append

theorem transmittedWrites_append (tr tr' : List Event) :
    transmittedWrites (tr ++ tr') = transmittedWrites tr ++ transmittedWrites tr' :=
  List.filterMap_append

/-- The slot of the writes is as it was. -/
structure SlotSame (d d' : Daemon) : Prop where
  flag : d'.write_flag = d.write_flag
  write : d'.i2c_write = d.i2c_write

theorem SlotSame.waiting (h : SlotSame d d') : d'.waiting = d.waiting := by
  rw [Daemon.waiting, Daemon.waiting, h.flag, h.write]

/-- A step that leaves the slot alone and shows no write keeps the order. -/
theorem WritesKept.quiet (h : WritesKept d tr) (hslot : SlotSame d d')
    (ha : acceptedWrites evs = []) (ht : transmittedWrites evs = []) :
    WritesKept d' (tr ++ evs) := by
  rw [WritesKept, acceptedWrites_append, transmittedWrites_append, ha, ht, List.append_nil,
    List.append_nil, hslot.waiting]
  exact h

/-! ## The main loop -/

theorem readDump_slot {len : UInt16} {reply : Option Bytes} {c : UInt8}
    (h : readDump d len reply = some (d', c)) : SlotSame d d' := by
  unfold readDump at h
  split at h
  · cases h
  · split at h
    · simp only [Option.map_eq_some_iff, Prod.mk.injEq] at h
      obtain ⟨r, -, rfl, -⟩ := h
      exact ⟨rfl, rfl⟩
    · cases h
      exact ⟨rfl, rfl⟩

/-- An iteration sends the write that waits, or leaves the slot alone. -/
theorem readI2c_cases {e : LoopEnv} {c : UInt8} (h : readI2c e d = some (d', c, evs)) :
    (SlotSame d d' ∧ evs = []) ∨
      (d.write_flag = true ∧ d'.write_flag = false ∧
        evs = [.transmitted d.i2c_write.transfer]) := by
  unfold readI2c at h
  split at h
  · -- the high-priority dump goes before the write, whatever waits
    simp only [Option.map_eq_some_iff, Prod.mk.injEq] at h
    obtain ⟨r, hr, rfl, -, rfl⟩ := h
    have hslot := readDump_slot hr
    exact .inl ⟨⟨hslot.flag, hslot.write⟩, rfl⟩
  · split at h
    · -- and so does the low-priority one
      simp only [Option.map_eq_some_iff, Prod.mk.injEq] at h
      obtain ⟨r, hr, rfl, -, rfl⟩ := h
      have hslot := readDump_slot hr
      exact .inl ⟨⟨hslot.flag, hslot.write⟩, rfl⟩
    · split at h
      · -- `write_buffer` is called, and the flag is cleared whatever it returns
        rename_i hflag
        simp only [Option.map_eq_some_iff, Prod.mk.injEq, writeBuffer] at h
        obtain ⟨w, hw, rfl, -, rfl⟩ := h
        split at hw
        · cases hw
          exact .inr ⟨hflag, rfl, rfl⟩
        · cases hw
      · cases h
        exact .inl ⟨⟨rfl, rfl⟩, rfl⟩

theorem countError_slot (c : UInt8) (d : Daemon) :
    SlotSame d (countError c d).1 ∧ acceptedWrites (countError c d).2 = [] ∧
      transmittedWrites (countError c d).2 = [] := by
  unfold countError
  dsimp only
  generalize (if c = EXIT_FAILURE then d.errorCount + 1 else 0) = count
  split <;> exact ⟨⟨rfl, rfl⟩, rfl, rfl⟩

theorem mainHandler_kept {e : LoopEnv} (h : WritesKept d tr)
    (hs : mainHandler e d = some (d', evs)) : WritesKept d' (tr ++ evs) := by
  simp only [mainHandler, Option.map_eq_some_iff, Prod.mk.injEq] at hs
  obtain ⟨⟨d₁, c, evs₁⟩, hread, rfl, rfl⟩ := hs
  have hread' : WritesKept d₁ (tr ++ evs₁) := by
    rcases readI2c_cases hread with ⟨hslot, rfl⟩ | ⟨hflag, hflag', rfl⟩
    · exact h.quiet hslot rfl rfl
    · -- the write that waits becomes the last one sent
      have hwaits : d.waiting = [d.i2c_write.transfer] := if_pos hflag
      have hnone : d₁.waiting = [] := by simp [Daemon.waiting, hflag']
      calc acceptedWrites (tr ++ [.transmitted d.i2c_write.transfer])
          = acceptedWrites tr := by
            rw [acceptedWrites_append]
            exact List.append_nil _
        _ = transmittedWrites tr ++ [d.i2c_write.transfer] := by rw [h, hwaits]
        _ = transmittedWrites (tr ++ [.transmitted d.i2c_write.transfer]) ++ d₁.waiting := by
            rw [transmittedWrites_append, hnone, List.append_nil]
            rfl
  obtain ⟨hslot, ha, ht⟩ := countError_slot c d₁
  rw [← List.append_assoc]
  exact hread'.quiet hslot ha ht

/-! ## Clients -/

/-- What an accepted write does to the slot. -/
theorem acceptWrite_slot {m : I2cData} (hs : acceptWrite m d = some (d', evs)) :
    d'.write_flag = true ∧ d'.i2c_write.transfer = m.transfer ∧ evs = [.accepted m.transfer] := by
  obtain ⟨id, -, rfl, rfl⟩ := acceptWrite_eq_some_iff.mp hs
  exact ⟨rfl, rfl, rfl⟩

/-- A write keeps the order exactly when none waits. -/
theorem acceptWrite_kept_iff {m : I2cData} (h : WritesKept d tr)
    (hs : acceptWrite m d = some (d', evs)) :
    WritesKept d' (tr ++ evs) ↔ d.write_flag = false := by
  obtain ⟨hflag, hwrite, rfl⟩ := acceptWrite_slot hs
  rw [WritesKept] at h ⊢
  rw [acceptedWrites_append, transmittedWrites_append, h, Daemon.waiting, Daemon.waiting, hflag,
    hwrite]
  cases d.write_flag with
  | false => simp [acceptedWrites, transmittedWrites]
  | true =>
      -- the waiting write is gone: one write more has been accepted than is sent or waits
      simp only [if_true, Bool.true_eq_false, iff_false]
      intro heq
      have hlen := congrArg List.length heq
      simp [acceptedWrites, transmittedWrites] at hlen

theorem answerRead_kept {e : ClientEnv} {m : I2cData} (h : WritesKept d tr)
    (hs : answerRead e m d = some (d', evs)) : WritesKept d' (tr ++ evs) := by
  simp only [answerRead, Option.map_eq_some_iff, Prod.mk.injEq] at hs
  obtain ⟨r, -, rfl, rfl⟩ := hs
  exact h.quiet ⟨rfl, rfl⟩ rfl rfl

theorem clientHandler_kept_iff {e : ClientEnv} (h : WritesKept d tr)
    (hs : clientHandler e d = some (d', evs)) :
    WritesKept d' (tr ++ evs) ↔ (Action.client e).overwrites d = false := by
  unfold clientHandler at hs
  dsimp only at hs
  split at hs
  · rename_i hop
    have hread : (e.received.opcode == Opcode.I2C_OPCODE_WRITE.val) = false := by
      rw [hop]
      rfl
    simp only [Action.overwrites, hread, Bool.false_and, iff_true]
    exact answerRead_kept h hs
  · split at hs
    · rename_i hop
      have hwrite : (e.received.opcode == Opcode.I2C_OPCODE_WRITE.val) = true := by
        rw [hop]
        rfl
      rw [acceptWrite_kept_iff h hs, Action.overwrites, hwrite, Bool.true_and]
    · rename_i hop
      cases hs
      have hother : (e.received.opcode == Opcode.I2C_OPCODE_WRITE.val) = false := by
        simpa using hop
      simp only [Action.overwrites, hother, Bool.false_and, iff_true]
      exact h.quiet ⟨rfl, rfl⟩ rfl rfl

/-- **One step keeps the order exactly when it does not overwrite a waiting write.** -/
theorem step_kept_iff {a : Action} (h : WritesKept d tr)
    (hs : hwsysMachine.step d a = some (d', evs)) :
    WritesKept d' (tr ++ evs) ↔ a.overwrites d = false := by
  cases a with
  | loop e => simpa [Action.overwrites] using mainHandler_kept h hs
  | client e => exact clientHandler_kept_iff h hs
  | getData dst addr len =>
      simp only [hwsysMachine, Option.map_eq_some_iff, Prod.mk.injEq] at hs
      obtain ⟨r, -, rfl, rfl⟩ := hs
      simp only [Action.overwrites, iff_true]
      exact h.quiet ⟨rfl, rfl⟩ rfl rfl

end Steps

/-- A write that waits is sent by the first iteration in which neither timer is over. -/
theorem mainHandler_sends {d : Daemon} {e : LoopEnv} (hflag : d.write_flag = true)
    (hhi : timerExpired e.hiNow d.hi_prio_timer = false)
    (hlow : timerExpired e.lowNow d.low_prio_timer = false)
    (hfits : d.i2c_write.lenData.toNat + 2 ≤ 10) :
    mainHandler e d = some ({ d with write_flag := false, errorCount := 0 },
      [.transmitted d.i2c_write.transfer]) := by
  simp only [mainHandler, readI2c, hhi, hlow, hflag, writeBuffer, hfits, if_true,
    Bool.false_eq_true, if_false, Option.map_some]
  rfl

/-! ## Runs -/

/-- The step taken at a point of a run overwrites a waiting write. -/
def Overwrites (v : HwsysVisit) : Prop := v.act.overwrites v.state = true

/-- **The writes of the clients reach the microcontroller one by one and in order exactly when no
write comes while another one waits.** -/
theorem writesKept_iff {handlerAddr : Handler → UInt32} {hiNow lowNow : Nat}
    {hiLen lowLen : UInt16} {raw : RawData} {vs : List HwsysVisit} {tr : List Event} {d : Daemon}
    (h : Exec hwsysMachine (openI2c handlerAddr hiNow lowNow hiLen lowLen raw) vs tr d) :
    ((∀ v ∈ vs, WritesKept v.state v.past) ∧ WritesKept d tr) ↔ ∀ v ∈ vs, ¬ Overwrites v := by
  have hstart : WritesKept (openI2c handlerAddr hiNow lowNow hiLen lowLen raw) [] := rfl
  refine h.inv_iff WritesKept (fun v => ¬ Overwrites v) hstart ?_
  intro d tr a d' evs hkept hs
  rw [step_kept_iff hkept hs, Overwrites, Bool.not_eq_true]

/-- The daemon at second 1, its handlers at no address, both dumps empty. -/
def quietDaemon : Daemon := openI2c (fun _ => 0) 1 1 0 0 (fun _ => 0)

/-- An iteration of the main loop at second `now`, on a bus that answers nothing. -/
def iteration (now : Nat) : Action := .loop ⟨now, now, now, some []⟩

/-- The relay is set, and two iterations later, the low-priority dump first, it is sent. -/
theorem writesKept_iff_relay : ∃ vs tr d, Exec hwsysMachine quietDaemon vs tr d ∧
    vs.map (fun v => v.act) = [setRelay 1, iteration 2, iteration 3] ∧
    tr = [.accepted ⟨13, [1]⟩, .transmitted ⟨13, [1]⟩] ∧
    (((∀ v ∈ vs, WritesKept v.state v.past) ∧ WritesKept d tr) ↔ ∀ v ∈ vs, ¬ Overwrites v) := by
  obtain ⟨vs, hvs, hact⟩ := Exec.replay hwsysMachine quietDaemon
    [setRelay 1, iteration 2, iteration 3] rfl
  exact ⟨vs, _, _, hvs, hact, by decide +kernel, writesKept_iff hvs⟩

/-- The relay is set and set back before the loop comes to it: the first write is lost. -/
theorem second_write_overwrites : ¬ ∀ vs tr d, Exec hwsysMachine quietDaemon vs tr d →
    WritesKept d tr := by
  intro h
  obtain ⟨vs, hvs, -⟩ := Exec.replay hwsysMachine quietDaemon [setRelay 1, setRelay 0] rfl
  exact absurd (h _ _ _ hvs) (by decide +kernel)

end Hwsys
