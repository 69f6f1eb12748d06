import Mathlib.Data.Fintype.Basic
import Mathlib.Data.List.FinRange
import Mathlib.Logic.Function.Basic

set_option autoImplicit false

/-! # The PoE MCU daemon: frames

The daemon and the PoE microcontroller exchange frames of twelve bytes: the command id, a
sequence number, nine bytes of data and the sum of the eleven bytes before it. Command ids pass
through a table from the Broadcom to the Realtek dialect, all of whose entries are commented
out in the source.
-/

namespace RealtekPoe

/-- A frame, `unsigned char cmd[12]`. -/
abbrev Frame := Fin 12 → UInt8

/-- The bytes of a frame are numbered from `0`. -/
instance frameLength : @NeZero Nat Zero.ofOfNat0 12 := ⟨Nat.succ_ne_zero 11⟩

/-- The sum of the first eleven bytes, as `poe_cmd_queue` and `poe_reply_consume` compute it. -/
def Frame.sum (f : Frame) : UInt8 := (List.finRange 11).foldl (fun s i => s + f i.castSucc) 0

/-- The last byte is the sum of the others. -/
def Frame.sumOk (f : Frame) : Bool := f 11 == f.sum

/-- The condition `(reply[0] & 0xf0) == 0xf0`: the MCU rejects the command. -/
def Frame.rejects (f : Frame) : Bool := f 0 &&& 0xf0 == 0xf0

/-- The last byte does not count. -/
theorem Frame.sum_congr {f g : Frame} (h : ∀ i : Fin 11, f i.castSucc = g i.castSucc) :
    f.sum = g.sum := by
  simp only [Frame.sum, h]

/-! ## Command ids -/

/-- `bcm_to_rtl_map`: every entry is commented out. -/
def bcm_to_rtl_map : UInt8 → UInt8 := fun _ => 0

/-- `close_map`, one entry. -/
def closeEntry (map : UInt8 → UInt8) (i : Nat) : UInt8 → UInt8 :=
  let cmd := map (UInt8.ofNat i)
  if cmd = 0 then map else Function.update map cmd (UInt8.ofNat i)

/-- `close_map`: every entry gets its inverse. -/
def closeMap (map : UInt8 → UInt8) : UInt8 → UInt8 := (List.range 0x100).foldl closeEntry map

/-- The table after `main` has closed it. -/
def closedMap : UInt8 → UInt8 := closeMap bcm_to_rtl_map

/-- A table without entries has no inverses either. -/
theorem closeMap_empty {map : UInt8 → UInt8} (h : ∀ i, map i = 0) : closeMap map = map := by
  unfold closeMap
  induction List.range 0x100 with
  | nil => rfl
  | cons i is ih =>
      rw [List.foldl_cons, closeEntry, if_pos (h _)]
      exact ih

/-- `bcm_to_rtl_cmd_id`. -/
def bcmToRtlCmdId (id : UInt8) : UInt8 := if closedMap id = 0 then id else closedMap id

/-- `rtl_to_bcm_cmd_id`. -/
def rtlToBcmCmdId (id : UInt8) : UInt8 := bcmToRtlCmdId id

/-- With no entry in the table, ids are the same in both dialects. -/
@[simp] theorem bcmToRtlCmdId_eq (id : UInt8) : bcmToRtlCmdId id = id := by
  have hclosed : closedMap = bcm_to_rtl_map := closeMap_empty (fun _ => rfl)
  rw [bcmToRtlCmdId, hclosed]
  rfl

@[simp] theorem rtlToBcmCmdId_eq (id : UInt8) : rtlToBcmCmdId id = id := bcmToRtlCmdId_eq id

/-! ## Commands -/

/-- The bytes `poe_cmd_queue` lays out before it adds the checksum: the given ones, `0xff` after
them, the translated id and the sequence number. -/
def layOut (bytes : List UInt8) (seq : UInt8) : Frame := fun i =>
  if i = 0 then bcmToRtlCmdId (bytes.getD 0 0xff)
  else if i = 1 then seq
  else if i = 11 then 0
  else bytes.getD i 0xff

/-- The frame `poe_cmd_queue` builds. Its callers pass at most ten bytes. -/
def buildFrame (bytes : List UInt8) (seq : UInt8) : Frame :=
  Function.update (layOut bytes seq) 11 (layOut bytes seq).sum

@[simp] theorem buildFrame_zero (bytes : List UInt8) (seq : UInt8) :
    buildFrame bytes seq 0 = bytes.getD 0 0xff := by
  simp [buildFrame, layOut]

@[simp] theorem buildFrame_one (bytes : List UInt8) (seq : UInt8) :
    buildFrame bytes seq 1 = seq := by
  simp [buildFrame, layOut]

/-- **Every queued command carries its checksum.** -/
theorem buildFrame_sumOk (bytes : List UInt8) (seq : UInt8) :
    (buildFrame bytes seq).sumOk = true := by
  have hsum : (buildFrame bytes seq).sum = (layOut bytes seq).sum := by
    refine Frame.sum_congr (fun i => ?_)
    have hne : i.castSucc ≠ (11 : Fin 12) := by
      intro h
      have := congrArg Fin.val h
      simp at this
      omega
    rw [buildFrame, Function.update_of_ne hne]
  rw [Frame.sumOk, hsum, buildFrame, Function.update_self, beq_self_eq_true]

/-! ## Reply handlers -/

/-- The handlers of the table `reply_handler`. -/
inductive ReplyHandler
  | poe_reply_status | poe_reply_power_stats | poe_reply_port_config | poe_reply_port_ext_config
  | poe_reply_4_port_status | poe_reply_port_power_stats
  deriving DecidableEq, Repr

/-- `ARRAY_SIZE(reply_handler)`; the last entry is `[0x49]`. -/
def HANDLERS : Nat := 0x4a

/-- `reply_handler[id]`. -/
def replyHandler (id : UInt8) : Option ReplyHandler :=
  if id = 0x40 then some .poe_reply_status
  else if id = 0x41 then some .poe_reply_power_stats
  else if id = 0x48 then some .poe_reply_port_config
  else if id = 0x49 then some .poe_reply_port_ext_config
  else if id = 0x43 then some .poe_reply_4_port_status
  else if id = 0x44 then some .poe_reply_port_power_stats
  else none

/-- A reply with a handler has an id within the table, and is not a rejection. -/
theorem replyHandler_id {id : UInt8} {h : ReplyHandler} (hh : replyHandler id = some h) :
    id.toNat < HANDLERS ∧ (id &&& 0xf0 == 0xf0) = false := by
  unfold replyHandler at hh
  repeat' split at hh
  all_goals first
    | (subst_vars; decide)
    | cases hh

end RealtekPoe
