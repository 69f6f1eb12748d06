import Mathlib.Data.Fintype.Basic
import Mathlib.Data.List.OfFn
import Mathlib.Logic.Function.Basic
import TfPack.Lib.CStruct

set_option autoImplicit false

/-! # The hardware daemon: its data

The types of `tf_hwsys/lib/i2c_lib/i2c_module.h`. Daemon and client exchange the structure
`i2c_data_t` itself over the socket, so its bytes are part of the model: `I2cData.bytes` lays the
fields out as the compiler of the device does, a 32-bit big-endian machine. A C enumeration in
the structure is the word that holds it, since a message can carry any.
-/

namespace Hwsys

open CStruct

abbrev Bytes := List UInt8

abbrev I2C_NAME_MAX_LEN : Nat := 24
abbrev VALUE_LEN : Nat := 32

/-- The number of entries of `sock_msgArr`. -/
abbrev MAX_SENSORS : Nat := 144

def EXIT_SUCCESS : UInt8 := 0
def EXIT_FAILURE : UInt8 := 1

/-- `I2C_TYPE`. -/
inductive I2cType
  | TYPE_UINT | TYPE_PSEUDO_FLOAT | TYPE_FLOAT_SFP
  deriving DecidableEq, Repr

/-- The value of a type. -/
def I2cType.val : I2cType → UInt32
  | .TYPE_UINT => 1 | .TYPE_PSEUDO_FLOAT => 2 | .TYPE_FLOAT_SFP => 3

/-- `I2C_OPCODE`. -/
inductive Opcode
  | I2C_OPCODE_READ | I2C_OPCODE_WRITE | I2C_OPCODE_RESPONSE | I2C_OPCODE_RESET
  | I2C_OPCODE_IDLE
  deriving DecidableEq, Repr

/-- The value of an opcode. -/
def Opcode.val : Opcode → UInt32
  | .I2C_OPCODE_READ => 1 | .I2C_OPCODE_WRITE => 2 | .I2C_OPCODE_RESPONSE => 3
  | .I2C_OPCODE_RESET => 4 | .I2C_OPCODE_IDLE => 5

/-- `i2c_data_t`. The field `eventsHandler` is the address of a function, `0` for `NULL`. -/
structure I2cData where
  lenMSG : UInt8
  addr : UInt32
  name : Fin I2C_NAME_MAX_LEN → UInt8
  opcode : UInt32
  lenData : UInt8
  type : UInt32
  eventsHandler : UInt32
  value : Fin VALUE_LEN → UInt8
  deriving DecidableEq

/-- The zero-initialised structure. -/
def zeroData : I2cData := ⟨0, 0, fun _ => 0, 0, 0, 0, 0, fun _ => 0⟩

/-- The bytes of the value that the length counts. -/
def I2cData.data (m : I2cData) : Bytes := (List.ofFn m.value).take m.lenData.toNat

/-! ## The bytes of the structure -/

/-- The bytes of a word. -/
def wordBytes (w : UInt32) : Bytes :=
  [UInt8.ofNat (w.toNat >>> 24), UInt8.ofNat (w.toNat >>> 16), UInt8.ofNat (w.toNat >>> 8),
    UInt8.ofNat w.toNat]

/-- The word with the given bytes. -/
def wordOf (bs : Bytes) : UInt32 := UInt32.ofNat (bs.foldl (fun n b => 256 * n + b.toNat) 0)

/-- The first `n` bytes, as an array. -/
def arrayOf (n : Nat) (bs : Bytes) : Fin n → UInt8 := fun i => bs.getD i 0

/-- Alignment and bytes of each field, in the order of the structure. -/
def I2cData.fields (m : I2cData) : List (Nat × Bytes) :=
  [(1, [m.lenMSG]), (4, wordBytes m.addr), (1, List.ofFn m.name), (4, wordBytes m.opcode),
    (1, [m.lenData]), (4, wordBytes m.type), (4, wordBytes m.eventsHandler),
    (1, List.ofFn m.value)]

/-- Alignment and length of each field. -/
def layout : List (Nat × Nat) :=
  [(1, 1), (4, 4), (1, I2C_NAME_MAX_LEN), (4, 4), (1, 1), (4, 4), (4, 4), (1, VALUE_LEN)]

/-- The offsets of the fields, from `lenMSG` to `value`. -/
example : offsets 0 layout = [0, 4, 8, 32, 36, 40, 44, 48] := by decide

/-- The bytes of a structure. -/
def I2cData.bytes (m : I2cData) : Bytes := pack 0 0 m.fields

/-- The structure with the given fields. -/
def ofFields : List Bytes → I2cData
  | [lenMSG, addr, name, opcode, lenData, type, eventsHandler, value] =>
      { lenMSG := lenMSG.headD 0, addr := wordOf addr, name := arrayOf _ name
        opcode := wordOf opcode, lenData := lenData.headD 0, type := wordOf type
        eventsHandler := wordOf eventsHandler, value := arrayOf _ value }
  | _ => zeroData

/-- The structure with the given bytes. -/
def ofBytes (bs : Bytes) : I2cData := ofFields (unpack 0 layout bs)

/-- `memcpy` of `len` bytes of the structure `src` over `dst`. -/
def memcpy (dst src : I2cData) (len : Nat) : I2cData := ofBytes (splice len src.bytes dst.bytes)

section Layout

variable (m m' : I2cData)

theorem length_wordBytes (w : UInt32) : (wordBytes w).length = 4 := rfl

theorem wordOf_wordBytes (w : UInt32) : wordOf (wordBytes w) = w := by
  apply UInt32.toNat_inj.mp
  have hlt := w.toNat_lt
  simp only [wordOf, wordBytes, List.foldl_cons, List.foldl_nil, UInt32.toNat_ofNat',
    UInt8.toNat_ofNat']
  omega

theorem arrayOf_ofFn {n : Nat} (f : Fin n → UInt8) : arrayOf n (List.ofFn f) = f := by
  funext i
  simp [arrayOf]

theorem arrayOf_splice {n : Nat} (k : Nat) (f g : Fin n → UInt8) :
    arrayOf n (splice k (List.ofFn f) (List.ofFn g)) =
      fun i : Fin n => if (i : Nat) < k then f i else g i := by
  funext i
  rw [arrayOf, List.getD_eq_getElem?_getD, getElem?_splice (by simp)]
  split <;> simp

theorem shape_fields : shape m.fields = layout := by
  simp [shape, I2cData.fields, layout, length_wordBytes]

theorem ofBytes_bytes : ofBytes m.bytes = m := by
  rw [ofBytes, I2cData.bytes, ← shape_fields m, unpack_pack]
  simp only [I2cData.fields, List.map_cons, List.map_nil, ofFields, wordOf_wordBytes,
    arrayOf_ofFn, List.headD_cons]

/-- **The size of the structure**: `sizeof(i2c_data_t)`. -/
theorem length_bytes : m.bytes.length = 80 := by
  have hsize := length_pack 0 0 m.fields
  rw [shape_fields, Nat.zero_add] at hsize
  exact hsize

/-- A copy of the whole structure. -/
@[simp] theorem memcpy_whole : memcpy m m' 80 = m' := by
  rw [memcpy, splice_of_le (length_bytes m').le (length_bytes m).le, ofBytes_bytes]

/-- A copy, field by field. -/
theorem memcpy_eq (len : Nat) :
    memcpy m m' len = ofFields (spliceFields len 0 m'.fields m.fields) := by
  have hshape : shape m'.fields = shape m.fields := by rw [shape_fields, shape_fields]
  have hunpack : unpack 0 (shape m'.fields)
      (splice (len - 0) (pack 0 0 m'.fields) (pack 0 0 m.fields)) =
        spliceFields len 0 m'.fields m.fields :=
    unpack_splice 0 hshape
  rw [memcpy, ofBytes, I2cData.bytes, I2cData.bytes, ← shape_fields m']
  rw [Nat.sub_zero] at hunpack
  rw [hunpack]

/-- **A copy of `len` bytes that ends in `value`** takes all other fields and the first
`len - 48` bytes of the value. -/
theorem memcpy_intoValue {len : Nat} (h : 48 ≤ len) :
    memcpy m m' len =
      { m' with value := fun i => if (i : Nat) < len - 48 then m'.value i else m.value i } := by
  have hcut : spliceFields len 0 m'.fields m.fields =
      [[m'.lenMSG], wordBytes m'.addr, List.ofFn m'.name, wordBytes m'.opcode, [m'.lenData],
        wordBytes m'.type, wordBytes m'.eventsHandler,
        splice (len - 48) (List.ofFn m'.value) (List.ofFn m.value)] := by
    simp only [I2cData.fields, spliceFields, padding, length_wordBytes, List.length_ofFn,
      List.length_singleton, I2C_NAME_MAX_LEN, Nat.reduceAdd, Nat.reduceMod, Nat.reduceSub]
    repeat rw [splice_of_le (by simp [length_wordBytes]; omega) (by simp [length_wordBytes]; omega)]
  rw [memcpy_eq, hcut]
  simp only [ofFields, wordOf_wordBytes, arrayOf_ofFn, arrayOf_splice, List.headD_cons]

/-- **A copy that ends before `addr`** takes the length of the message alone. -/
theorem memcpy_intoHeader {len : Nat} (hpos : 1 ≤ len) (h : len ≤ 4) :
    memcpy m m' len = { m with lenMSG := m'.lenMSG } := by
  have hcut : spliceFields len 0 m'.fields m.fields =
      [[m'.lenMSG], wordBytes m.addr, List.ofFn m.name, wordBytes m.opcode, [m.lenData],
        wordBytes m.type, wordBytes m.eventsHandler, List.ofFn m.value] := by
    simp only [I2cData.fields, spliceFields, padding, length_wordBytes, List.length_ofFn,
      List.length_singleton, I2C_NAME_MAX_LEN, Nat.reduceAdd, Nat.reduceMod, Nat.reduceSub]
    rw [splice_of_le hpos hpos]
    repeat rw [splice_of_none (by omega)]
  rw [memcpy_eq, hcut]
  simp only [ofFields, wordOf_wordBytes, arrayOf_ofFn, List.headD_cons]

end Layout

end Hwsys
