import Mathlib.Algebra.Order.Ring.Rat
import Mathlib.Data.Nat.Cast.Order.Ring
import Mathlib.Algebra.Field.Rat
import Mathlib.Data.List.DropRight
import TfPack.AutoRestart.Utils
import TfPack.Lib.LuaPattern

set_option autoImplicit false

/-! # The texts of the configuration: `tf_utilities.lua` and `tf_module.lua`

The command line checks a time and a host before it stores them, and the tables of the SNMP agent
take a stored time apart again. All three are Lua, and use `tonumber`; its numerals are those of
the manual of Lua 5.1: blanks around it, a sign, and either decimal digits with a fraction and an
exponent or hexadecimal digits after `0x`.
-/

/-! ## Numbers -/

namespace Lua

open AutoRestart

abbrev Text := List Char

/-- What Lua keeps of a value: the next number of the machine. Small whole numbers are exact. -/
structure Rounding where
  round : ℚ → ℚ
  mono : Monotone round
  exact : ∀ n : Nat, n ≤ 2 ^ 53 → round n = n

/-- Lua that keeps every number. -/
def unrounded : Rounding := ⟨id, monotone_id, fun _ _ => rfl⟩

/-- The value of a hexadecimal digit. -/
def hexDigit (c : Char) : Option Nat :=
  if c.isDigit then some (c.toNat - '0'.toNat)
  else if 'a' ≤ c ∧ c ≤ 'f' then some (c.toNat - 'a'.toNat + 10)
  else if 'A' ≤ c ∧ c ≤ 'F' then some (c.toNat - 'A'.toNat + 10)
  else none

/-- A sign is taken off a text. -/
def takeSign : Text → Bool × Text
  | '-' :: t => (true, t)
  | '+' :: t => (false, t)
  | t => (false, t)

/-- The exponent of a numeral, `0` when there is none. -/
def exponent : Text → Option Int
  | [] => some 0
  | c :: t =>
      let (neg, ds) := takeSign t
      if (c = 'e' ∨ c = 'E') ∧ ds ≠ [] ∧ ds.all Char.isDigit = true then
        some (if neg then -(digitsVal ds : Int) else digitsVal ds)
      else none

/-- Decimal digits with a fraction and an exponent. -/
def decimalNumeral (s : Text) : Option ℚ :=
  let whole := s.takeWhile Char.isDigit
  let (frac, rest) := match s.dropWhile Char.isDigit with
    | '.' :: t => (t.takeWhile Char.isDigit, t.dropWhile Char.isDigit)
    | t => ([], t)
  if whole = [] ∧ frac = [] then none
  else (exponent rest).map (fun e => (digitsVal (whole ++ frac) : ℚ) * 10 ^ (e - (frac.length : Int)))

/-- A numeral without a sign. -/
def numeral (s : Text) : Option ℚ :=
  match s with
  | '0' :: x :: ds =>
      if x = 'x' ∨ x = 'X' then
        if ds = [] then none
        else (ds.mapM hexDigit).map (fun l => ((l.foldl (fun n d => 16 * n + d) 0 : Nat) : ℚ))
      else decimalNumeral s
  | _ => decimalNumeral s

/-- `tonumber` of a text; `none` is `nil`. -/
def tonumber (R : Rounding) (s : Text) : Option ℚ :=
  let (neg, t) := takeSign ((s.dropWhile isSpace).rdropWhile isSpace)
  (numeral t).map (fun v => R.round (if neg then -v else v))

end Lua

open Lua LuaPattern

/-! ## `tf_utilities.lua` -/

namespace TfUtilities

/-- `(%d+):(%d+)`. -/
def timePattern : List (Item Char) := [.plus Char.isDigit, .one (· == ':'), .plus Char.isDigit]

/-- The hour and the minute `is_valid_time` compares. -/
def hourMinute (R : Rounding) (time : Text) : Option (ℚ × ℚ) :=
  match LuaPattern.find timePattern time with
  | some [hh, mm] => (tonumber R hh).bind (fun hh => (tonumber R mm).map (fun mm => (hh, mm)))
  | _ => none

/-- `is_valid_time`. -/
def isValidTime (R : Rounding) (time : Text) : Bool :=
  match hourMinute R time with
  | none => false
  | some (hh, mm) => !(decide (mm < 0 ∨ 59 < mm ∨ hh < 0 ∨ 24 < hh))

/-- `(%d+)%.(%d+)%.(%d+)%.(%d+)`. -/
def ipPattern : List (Item Char) :=
  [.plus Char.isDigit, .one (· == '.'), .plus Char.isDigit, .one (· == '.'), .plus Char.isDigit,
    .one (· == '.'), .plus Char.isDigit]

/-- A part of an address: at most 255, and without a zero in front. -/
def validPart (R : Rounding) (part : Text) : Bool :=
  match tonumber R part with
  | none => false
  | some n => !(decide (n < 0 ∨ 255 < n)) && !(decide (1 < part.length ∧ part.head? = some '0'))

/-- `is_valid_ip`. -/
def isValidIp (R : Rounding) (ip : Text) : Bool :=
  match LuaPattern.find ipPattern ip with
  | none => false
  | some parts => decide (parts.length = 4) && parts.all (validPart R)

end TfUtilities

/-! ## `tf_module.lua` -/

namespace TfModule

/-- A part that is a number of a range; `nil` is not inserted, and what is no number at all
cannot be compared. -/
def inRange (R : Rounding) (limit : ℚ) (part : Text) : Option (List Text) :=
  (tonumber R part).map (fun n => if n < 0 ∨ limit < n then [] else [part])

/-- The loop of `get_hour_minutes`, from part number `count` on. -/
def hourMinutesFrom (R : Rounding) : Nat → List Text → Option (List Text)
  | _, [] => some []
  | count, part :: rest =>
      (if count = 1 then inRange R 24 part
        else if count = 2 then inRange R 60 part else some [part]).bind
        (fun kept => (hourMinutesFrom R (count + 1) rest).map (fun l => kept ++ l))

/-- The parts of a text between colons, `([^:]+)`. -/
def colonParts (s : Text) : List Text := (s.splitOn ':').filter (fun p => !p.isEmpty)

/-- `get_hour_minutes`; `none` is an error of the script. -/
def getHourMinutes (R : Rounding) (timeStr : Text) : Option (List Text) :=
  hourMinutesFrom R 1 (colonParts timeStr)

end TfModule
