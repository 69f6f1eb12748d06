import TfPack.DeviceMonitor.Types

set_option autoImplicit false

/-! # The device monitor: `user_handler.lua`

The script that checks the hash of a settings request against the users of the `rpcd`
configuration and, when a user has it, takes the settings out of the message and applies them.
A Lua error ends the script before it prints anything; it is `none` here.
-/

namespace DeviceMonitor

/-! ## The check of the hash -/

/-- A section of the `rpcd` configuration: its `.type`, and its `hash` when that is a string. -/
structure RpcdSection where
  type : Bytes
  hash : Option Bytes

/-- What `tf.collectJsonTable` returns: `none` when there is no JSON, `some none` when it has no
field `values`. -/
abbrev RpcdReply := Option (Option (List RpcdSection))

/-- The results of `check_valid_hash`. -/
inductive HashCheck
  | hash_ok | hash_error | hash_not_valid
  deriving DecidableEq, Repr

/-- `check_valid_hash`. Indexing a reply that is not there is an error, and so is a loop over
`values` that are not. -/
def checkValidHash (userdata : RpcdReply) (arg1 : Option Bytes) : Option HashCheck :=
  match userdata, arg1 with
  | none, _ => none
  | some _, none | some _, some [] => some .hash_not_valid
  | some values, some hash =>
      values.map (fun users =>
        if users.any (fun user => user.type == ascii "login" && user.hash == some hash) then
          .hash_ok
        else .hash_error)

/-! ## The settings -/

/-- `configTable`. -/
abbrev ConfigTable := Bytes → Option Bytes

/-- The matches of `"#([^#]+)"`: what stands between a `#` and the next, if anything does. -/
def settingParts (s : Bytes) : List Bytes := ((s.splitOn 35).tail).filter (fun p => p != [])

/-- One part `KEY=[VALUE]`: the key is what stands before the first `[`, without `=`, the value
what stands from there to the first `]`. Without these brackets the arithmetic on `nil` is an
error. -/
def loadPart (table : ConfigTable) (part : Bytes) : Option ConfigTable :=
  match part.idxOf? 91, part.idxOf? 93 with
  | some i, some j =>
      let key := (part.take i).filter (fun c => c != 61)
      let value := (part.take j).drop (i + 1)
      some (fun k => if k = key then some value else table k)
  | _, _ => none

/-- The results of `getSettingTable`: `msg_ok` with the table, or `msg_error`. -/
inductive SettingTable
  | msg_ok (configTable : ConfigTable)
  | msg_error

/-- `getSettingTable`. -/
def getSettingTable (arg2 : Option Bytes) : Option SettingTable :=
  match arg2 with
  | none | some [] => some .msg_error
  | some s => ((settingParts s).foldlM loadPart (fun _ => none)).map .msg_ok

/-- `set_ip`, `set_mask` and `set_gate`: the command they run, for the name of their parameter. -/
def setIpif (name : String) (value : Bytes) : List Bytes :=
  [ascii "/etc/tf_clish/scripts/ipif/set_ipif.lua ifname  lan  proto static " ++ ascii name ++
    value]

/-- `keys_configTable`; four of its functions do nothing. -/
def keys_configTable : List (String × (Bytes → List Bytes)) :=
  [("IPADDRESS", setIpif "ip"), ("NETMASK", setIpif "netmask"), ("GATEWAY", setIpif "gateway"),
    ("SYSTEM_NAME", fun _ => []), ("SYSTEM_LOCATION", fun _ => []), ("SNMP_STATE", fun _ => []),
    ("LLDP_STATE", fun _ => [])]

/-- The commands `setConfig` runs. It returns `config_ok` whatever they do: `configTable` is never
`nil`. -/
def setConfig (configTable : ConfigTable) : List Bytes :=
  keys_configTable.flatMap (fun key =>
    match configTable (ascii key.1) with
    | some value => key.2 value
    | none => [])

/-! ## The script -/

def configOk : Bytes := ascii "config_ok\n"
def configError : Bytes := ascii "config_error\n"
def hashError : Bytes := ascii "hash_error\n"
def hashNotValid : Bytes := ascii "hash_not_valid\n"
def msgError : Bytes := ascii "msg_error\n"

/-- A run of the script: the lines it prints, and the settings it applies. -/
structure HandlerRun where
  printed : List Bytes
  applied : Option ConfigTable

/-- The commands a run of the script has run. -/
def HandlerRun.commands (r : HandlerRun) : List Bytes := (r.applied.map setConfig).getD []

/-- `run_hash_test`. -/
def runHashTest (userdata : RpcdReply) (arg1 arg2 : Option Bytes) : HandlerRun :=
  match checkValidHash userdata arg1 with
  | none => ⟨[], none⟩
  | some .hash_error => ⟨[hashError], none⟩
  | some .hash_not_valid => ⟨[hashNotValid], none⟩
  | some .hash_ok =>
      match getSettingTable arg2 with
      | none => ⟨[], none⟩
      | some .msg_error => ⟨[msgError], none⟩
      | some (.msg_ok configTable) => ⟨[configOk], some configTable⟩

/-- **The script prints `config_ok` exactly when it has applied the settings**, and nothing
else then. -/
theorem runHashTest_printed (userdata : RpcdReply) (arg1 arg2 : Option Bytes) :
    let r := runHashTest userdata arg1 arg2
    (r.applied.isSome = true ∧ r.printed = [configOk]) ∨
      (r.applied = none ∧ configOk ∉ r.printed) := by
  have herror : configOk ∉ [hashError] := by decide
  have hnotValid : configOk ∉ [hashNotValid] := by decide
  have hmsg : configOk ∉ [msgError] := by decide
  unfold runHashTest
  rcases checkValidHash userdata arg1 with _ | _ | _ | _
  · exact .inr ⟨rfl, List.not_mem_nil⟩
  · rcases getSettingTable arg2 with _ | table | _
    · exact .inr ⟨rfl, List.not_mem_nil⟩
    · exact .inl ⟨rfl, rfl⟩
    · exact .inr ⟨rfl, hmsg⟩
  · exact .inr ⟨rfl, herror⟩
  · exact .inr ⟨rfl, hnotValid⟩

end DeviceMonitor
