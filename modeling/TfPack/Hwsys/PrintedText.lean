import TfPack.AutoRestart.ClockTexts
import TfPack.Hwsys.Events
import TfPack.Hwsys.ReadBack

set_option autoImplicit false

/-! # The client program: what it prints

`i2c_getHandler` prints the register it has received, by the length and the type of its value.
-/

namespace Hwsys

open AutoRestart (digitsVal)

abbrev Text := List Char

/-! ## `printf` -/

/-- `%d`. -/
def intText (n : Int) : Text :=
  if n < 0 then '-' :: Nat.toDigits 10 n.natAbs else Nat.toDigits 10 n.natAbs

/-- `%d.%d`. -/
def pointText (whole part : Int) : Text := intText whole ++ '.' :: intText part

/-- `%s` of an array of bytes, `none` when no byte of it is zero. -/
def bytesText (bs : Bytes) : Option Text :=
  if 0 ∈ bs then some ((bs.takeWhile (· != 0)).map (fun b => Char.ofNat b.toNat)) else none

/-! ## `i2c_getHandler` -/

/-- `value[0] | value[1] << 8`. -/
def I2cData.value16 (m : I2cData) : UInt16 := get16bitValue m.value

/-- `value[0] | value[1] << 8 | value[2] << 16 | value[3] << 24`. -/
def I2cData.value32 (m : I2cData) : UInt32 :=
  (valueByte m.value 0).toUInt32 ||| (valueByte m.value 1).toUInt32 <<< 8 |||
    (valueByte m.value 2).toUInt32 <<< 16 ||| (valueByte m.value 3).toUInt32 <<< 24

/-- The text of a value of type `TYPE_PSEUDO_FLOAT`. -/
def pseudoFloatText (tmp16 : UInt16) : Text :=
  let n : Int := tmp16.toNat
  if n < 1000 then pointText (n.tdiv 10) (n.tmod 10) else pointText (n.tdiv 1000) (n.tmod 1000)

/-- The text of a value of type `TYPE_FLOAT_SFP`, whose fraction goes through `abs`. -/
def floatSfpText (itmp16 : Int16) : Text :=
  let n : Int := itmp16.toInt
  if n < 1000 then pointText (n.tdiv 10) (n.tmod 10).natAbs
  else pointText (n.tdiv 1000) (n.tmod 1000).natAbs

/-- The text of the value of a register. `%d` prints the words of four bytes as signed ones. -/
def valueText (m : I2cData) : Option Text :=
  match m.lenData.toNat with
  | 1 => some (intText (valueByte m.value 0).toNat)
  | 2 =>
      if m.type = I2cType.TYPE_PSEUDO_FLOAT.val then some (pseudoFloatText m.value16)
      else if m.type = I2cType.TYPE_FLOAT_SFP.val then some (floatSfpText m.value16.toInt16)
      else some (intText m.value16.toNat)
  | 4 => some (intText m.value32.toInt32.toInt)
  | _ => bytesText (List.ofFn m.value)

/-- The microcontroller has answered with its error. -/
def I2cData.errorResponse (m : I2cData) : Bool :=
  valueByte m.value 0 == 0xAA && valueByte m.value 1 == 0xAA

/-- What `i2c_getHandler` prints. -/
def printed (m : I2cData) : ClientState → Option Text
  | .SOCKET_READ_OK =>
      if m.opcode = Opcode.I2C_OPCODE_RESPONSE.val then
        (valueText m).map (fun text =>
          (if m.errorResponse then "error response\n".toList else []) ++ (text ++ ['\n']))
      else some []
  | _ => some ("error opcode: ".toList ++ (Nat.toDigits 16 m.opcode.toNat ++ ['\n']))

end Hwsys
