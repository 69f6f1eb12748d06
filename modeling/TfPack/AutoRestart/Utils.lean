import TfPack.AutoRestart.Types

set_option autoImplicit false

/-! # The autorestart daemon: `utils_module.c`

The text functions the daemon's configuration goes through. A C string is a `List Char`. What
the C library does (`strstr`, `strtol`, the `%d` conversion) is written out here after its
documented behaviour; `localtime` and `mktime`, which depend on the time zone, are the fields of
a parameter `CTime`.
-/

namespace AutoRestart

/-! ## The C library -/

/-- The fields of `struct tm` the daemon uses. -/
structure Tm where
  tm_sec : Int
  tm_min : Int
  tm_hour : Int
  tm_mday : Int
  tm_mon : Int
  tm_year : Int
  tm_isdst : Int
  deriving DecidableEq

/-- `localtime` and `mktime` in the time zone of the device. `mktime` also normalises the
structure it is given; the normalised structure is `localtime` of its result. The clock is never
before the epoch, but a time of the epoch's day can be. -/
structure CTime where
  localtime : Int → Tm
  mktime : Tm → Int

/-- A 64-bit `time_t` stored in a `uint32_t` keeps its low 32 bits. -/
def toU32 (t : Nat) : UInt32 := UInt32.ofNat t

/-- `strstr`: the rest of `hay` from the first occurrence of `needle`. -/
def strstr (needle : List Char) : List Char → Option (List Char)
  | [] => if needle = [] then some [] else none
  | c :: cs => if needle.isPrefixOf (c :: cs) then some (c :: cs) else strstr needle cs

/-- `strchr`: the rest of the string from the first `c`. -/
def strchr (c : Char) (s : List Char) : Option (List Char) :=
  match s.dropWhile (· != c) with
  | [] => none
  | t => some t

/-- The number a block of decimal digits denotes. -/
def digitsVal (ds : List Char) : Nat := ds.foldl (fun n d => 10 * n + (d.toNat - '0'.toNat)) 0

/-- `isspace`: a blank, or one of the characters from tab to carriage return. -/
def isSpace (c : Char) : Bool := c == ' ' || ('\t' ≤ c && c ≤ '\r')

/-- White space, an optional sign and decimal digits, as `strtol` and `%d` read them: the value
and the rest of the text, `none` without a digit. -/
def scanInt (s : List Char) : Option (Int × List Char) :=
  let s := s.dropWhile isSpace
  let (neg, s) := match s with
    | '-' :: t => (true, t)
    | '+' :: t => (false, t)
    | t => (false, t)
  match s.takeWhile Char.isDigit with
  | [] => none
  | ds => some (if neg then -(digitsVal ds : Int) else digitsVal ds, s.dropWhile Char.isDigit)

/-- The largest `long` of the target, a 32-bit machine. -/
def LONG_MAX : Int := 2147483647

/-- `strtol(s, NULL, 10)`: `0` without a digit, clamped to the range of `long`. -/
def strtol (s : List Char) : Int :=
  match scanInt s with
  | none => 0
  | some (v, _) => max (-LONG_MAX - 1) (min LONG_MAX v)

/-! ## `utils_module.c` -/

/-- `getValueFromJson`: the first occurrence of `name` in the text, then the next `:`, then the
next quote, then up to nine characters before a closing quote. `value` stays as it was when the
name is missing and when nothing stands between the quotes (and, in the model only, when no `:` or
quote follows: the source then follows a null pointer). -/
def getValueFromJson (json name value : List Char) : List Char :=
  match (strstr name json).bind (strchr ':') |>.bind (strchr '"') with
  | none => value
  | some ptr =>
      match (ptr.tail.takeWhile (· != '"')).take 9 with
      | [] => value
      | v => v

/-- `checkValidIp`: the regular expression `^([0-9]{1,3}\.){3}[0-9]{1,3}$`. -/
def checkValidIp (ip : List Char) : Bool :=
  let parts := ip.splitOn '.'
  parts.length == 4 &&
    parts.all (fun d => decide (1 ≤ d.length) && decide (d.length ≤ 3) && d.all Char.isDigit)

/-- `isValidTime`: the text as `%d:%d`, with the hour in `0..23` and the minute in `0..59`.
`none` is `ERR_TIME_NOT_VALID`. -/
def isValidTime (s : List Char) : Option (Int × Int) :=
  match scanInt s with
  | some (hour, ':' :: rest) =>
      match scanInt rest with
      | some (minute, _) =>
          if hour < 0 ∨ 23 < hour ∨ minute < 0 ∨ 59 < minute then none else some (hour, minute)
      | none => none
  | _ => none

/-- `monthTable`; the index is `tm_mon + 1`. -/
def monthTable : List String :=
  ["\n", "January", "February", "March", "April", "May", "June", "Julie", "August",
    "September", "October", "November", "December"]

/-- `%02d`. -/
def twoDigits (n : Int) : String :=
  if 0 ≤ n ∧ n < 10 then "0" ++ toString n else toString n

/-- `getTimeDate`: the text stored in `timeStr` when a reboot starts. -/
def getTimeDate (C : CTime) (now : Nat) : String :=
  let tm := C.localtime now
  twoDigits tm.tm_hour ++ ":" ++ twoDigits tm.tm_min ++ ":" ++ twoDigits tm.tm_sec ++ ", " ++
    monthTable.getD (tm.tm_mon + 1).toNat "" ++ "-" ++ toString (tm.tm_year + 1900)

end AutoRestart
