import TfPack.DeviceMonitor.SettingTable
import TfPack.Lib.ShellLex

set_option autoImplicit false

/-! # The address settings: `set_ipif.lua`

`user_handler.lua` passes the address, the mask and the gateway on to `set_ipif.lua`, each with a
command line of its own. `tf.getparam` takes the arguments of that script in pairs, and looks for a
parameter at its own place in `ipif_paramList` only. No value ever gets there: the command lines
have no blank between the name of the parameter and the value, and `netmask` and `gateway` stand
where `ip` should. What is set is `proto`, so the settings are applied exactly when the interface
had them before (`applied_iff`).
-/

namespace DeviceMonitor

/-! ## `tf.getparam` -/

/-- `getparam`: `arg_v` is read in pairs, and the name of a pair is compared with the parameter at
its own place only. -/
def getparam : List Bytes → List Bytes → List (Bytes × Bytes)
  | p :: ps, a :: v :: rest =>
      (if a = p ∧ v ≠ [] then [(p, v)] else []) ++ getparam ps rest
  | _, _ => []

/-- `ipif_paramList`. -/
def ipif_paramList : List Bytes :=
  [ascii "ifname", ascii "proto", ascii "ip", ascii "netmask", ascii "gateway", ascii "dns"]

/-! ## `set_ipif.lua` -/

/-- `cmd_ubus_set` and the rest of the command: the values to set in a section. -/
def ubusSet (section_ : Bytes) (values : List (Bytes × Bytes)) : Bytes :=
  ascii "ubus call uci set '\x7b\"config\":\"network\",\"type\":\"interface\",\"section\":\"" ++
    section_ ++ ascii "\",\"values\":\x7b" ++
    [44].intercalate
      (values.map (fun v => ascii "\"" ++ v.1 ++ ascii "\":\"" ++ v.2 ++ ascii "\"")) ++
    ascii "\x7d\x7d'"

/-- `cmd_ubus_del` and the rest of the command. -/
def ubusDelete (section_ : Bytes) : Bytes :=
  ascii "ubus call uci delete '\x7b\"config\":\"network\",\"type\":\"interface\",\"section\":\"" ++
    section_ ++ ascii "\", \"options\":[\"ipaddr\", \"netmask\", \"gateway\", \"dns\"]\x7d'"

/-- The options of `ipif_config` besides `proto`, and the parameters they come from. -/
def ipifOptions : List (Bytes × Bytes) :=
  [(ascii "ipaddr", ascii "ip"), (ascii "netmask", ascii "netmask"),
    (ascii "gateway", ascii "gateway"), (ascii "dns", ascii "dns")]

/-- `ipif_config`: the commands it runs. -/
def ipifConfig (ifname : Bytes) (listArg : List (Bytes × Bytes)) : List Bytes :=
  if listArg.lookup (ascii "proto") = some (ascii "static") then
    [ubusSet ifname ((ascii "proto", ascii "static") ::
      ipifOptions.filterMap (fun o =>
        ((listArg.lookup o.2).filter (fun v => v != [])).map (fun v => (o.1, v))))]
  else if listArg.lookup (ascii "proto") = some (ascii "dhcp") then
    [ubusDelete ifname, ubusSet ifname [(ascii "proto", ascii "dhcp")]]
  else []

/-- The options of an interface. -/
abbrev IfOptions := Bytes → Option Bytes

/-- The interfaces of the network configuration. -/
abbrev Network := Bytes → Option IfOptions

/-- `set_ipif_param`: the commands it runs. -/
def setIpifParam (network : Network) (args : List Bytes) : List Bytes :=
  let listArg := getparam ipif_paramList args
  match listArg.lookup (ascii "ifname") with
  | none => []
  | some ifname =>
      if network ifname = none ∨ ifname = ascii "loopback" then [] else ipifConfig ifname listArg

/-! ## A run of the command lines -/

/-- The script, as the command lines name it. -/
def setIpifPath : Bytes := ascii "/etc/tf_clish/scripts/ipif/set_ipif.lua"

/-- What a command line does to the network; `tools` is what any other program does. -/
def runLine (tools : Bytes → Network → Network) (net : Network) (line : Bytes) : Network :=
  match ShellLex.words line with
  | some (command :: args) =>
      if command = setIpifPath then
        (setIpifParam net args).foldl (fun n cmd => tools cmd n) net
      else tools line net
  | _ => tools line net

/-- What several command lines do. -/
def runLines (tools : Bytes → Network → Network) (lines : List Bytes) (net : Network) : Network :=
  lines.foldl (runLine tools) net

/-- An option of an interface set to a value. -/
def IfOptions.set (opts : IfOptions) (option value : Bytes) : IfOptions :=
  fun o => if o = option then some value else opts o

/-- An interface with other options. -/
def Network.set (net : Network) (ifname : Bytes) (opts : IfOptions) : Network :=
  fun i => if i = ifname then some opts else net i

/-- `ubus` sets `proto`, and nothing else, when it is told to. -/
def SetsProto (tools : Bytes → Network → Network) : Prop :=
  ∀ net opts, net (ascii "lan") = some opts →
    tools (ubusSet (ascii "lan") [(ascii "proto", ascii "static")]) net =
      net.set (ascii "lan") (opts.set (ascii "proto") (ascii "static"))

/-! ## The message -/

/-- The settings that `set_ipif.lua` is for. -/
inductive IpSetting
  | IPADDRESS | NETMASK | GATEWAY
  deriving DecidableEq

/-- The key of a setting, the parameter of `set_ipif.lua` and the option of the interface. -/
def IpSetting.key : IpSetting → Bytes
  | .IPADDRESS => ascii "IPADDRESS"
  | .NETMASK => ascii "NETMASK"
  | .GATEWAY => ascii "GATEWAY"
def IpSetting.param : IpSetting → Bytes
  | .IPADDRESS => ascii "ip"
  | .NETMASK => ascii "netmask"
  | .GATEWAY => ascii "gateway"
def IpSetting.option : IpSetting → Bytes
  | .IPADDRESS => ascii "ipaddr"
  | .NETMASK => ascii "netmask"
  | .GATEWAY => ascii "gateway"

/-- Some settings with their values. -/
abbrev Settings := List (IpSetting × Bytes)

/-- `KEY=[VALUE]`. -/
def settingText (p : IpSetting × Bytes) : Bytes := p.1.key ++ ascii "=[" ++ p.2 ++ ascii "]"

/-- `#KEY=[VALUE]#KEY=[VALUE]..`. -/
def settingsText (l : Settings) : Bytes := l.flatMap (fun p => 35 :: settingText p)

/-- A byte that stands for itself in a message and in a word of a command line. -/
def isPlain (c : UInt8) : Bool :=
  ShellLex.kind c == .plain && c != 42 && c != 63 && c != 91 && c != 93

/-- The values of the settings are single words. -/
def Settings.Plain (l : Settings) : Prop := ∀ p ∈ l, ∀ c ∈ p.2, isPlain c = true

/-- The options of the interface with the settings in them. -/
def Settings.into (l : Settings) (opts : IfOptions) : IfOptions :=
  l.foldl (fun o p => o.set p.1.option p.2) (opts.set (ascii "proto") (ascii "static"))

/-- **The settings are applied**: the options they name have the given values, `proto` is static,
and every other option and interface is as it was. -/
def Applied (l : Settings) (before after : Network) : Prop :=
  ∃ opts, before (ascii "lan") = some opts ∧ after = before.set (ascii "lan") (l.into opts)

/-- The interface has the settings already. -/
def AlreadySet (l : Settings) (net : Network) : Prop :=
  ∃ opts, net (ascii "lan") = some opts ∧ (∀ p ∈ l, opts p.1.option = some p.2) ∧
    (l = [] → opts (ascii "proto") = some (ascii "static"))

/-! ## What the message says -/

/-- A plain value has none of the bytes that end a part or a value. -/
theorem not_mem_plain {v : Bytes} (h : ∀ c ∈ v, isPlain c = true) : 35 ∉ v ∧ 93 ∉ v :=
  ⟨fun hmem => absurd (h 35 hmem) (by decide), fun hmem => absurd (h 93 hmem) (by decide)⟩

theorem not_mem_key (s : IpSetting) : 35 ∉ s.key ∧ 91 ∉ s.key ∧ 93 ∉ s.key ∧ 61 ∉ s.key := by
  cases s <;> decide

theorem not_mem_settingText {p : IpSetting × Bytes} (h : ∀ c ∈ p.2, isPlain c = true) :
    35 ∉ settingText p := by
  have hassign : (35 : UInt8) ∉ ascii "=[" := by decide
  have hclose : (35 : UInt8) ∉ ascii "]" := by decide
  simp only [settingText, List.mem_append, not_or]
  exact ⟨⟨⟨(not_mem_key p.1).1, hassign⟩, (not_mem_plain h).1⟩, hclose⟩

/-- The parts of the message are the settings. -/
theorem settingParts_settingsText {l : Settings} (h : l.Plain) :
    settingParts (settingsText l) = l.map settingText := by
  induction l with
  | nil => rfl
  | cons p l ih =>
      rw [Settings.Plain, List.forall_mem_cons] at h
      have htext : settingsText (p :: l) = 35 :: (settingText p ++ settingsText l) := rfl
      have hrest : settingsText l = [] ∨ ∃ t, settingsText l = 35 :: t := by
        cases l with
        | nil => exact .inl rfl
        | cons q l => exact .inr ⟨_, rfl⟩
      rw [htext, settingParts_cons (not_mem_settingText h.1) (by simp [settingText, ascii]) hrest,
        ih h.2]
      rfl

/-- A part gives its key and its value. -/
theorem loadPart_settingText (table : ConfigTable) {p : IpSetting × Bytes}
    (h : ∀ c ∈ p.2, isPlain c = true) :
    loadPart table (settingText p) =
      some (fun k => if k = p.1.key then some p.2 else table k) := by
  obtain ⟨hhash, hopen, hclose, hassign⟩ := not_mem_key p.1
  have hitem := loadPart_item table
    ⟨p.1.key, p.2, ⟨hhash, hassign, hopen, hclose⟩, (not_mem_plain h).2⟩
  have htext : settingText p = p.1.key ++ 61 :: 91 :: (p.2 ++ [93]) := by
    simp [settingText, ascii]
  rw [htext]
  exact hitem

/-- The table of the settings. -/
def Settings.table (l : Settings) : ConfigTable :=
  l.foldl (fun t p => fun k => if k = p.1.key then some p.2 else t k) (fun _ => none)

theorem getSettingTable_settingsText {l : Settings} (h : l.Plain) (hne : l ≠ []) :
    getSettingTable (some (settingsText l)) = some (.msg_ok l.table) := by
  have hload : ∀ table : ConfigTable, (l.map settingText).foldlM loadPart table =
      some (l.foldl (fun t p => fun k => if k = p.1.key then some p.2 else t k) table) := by
    clear hne
    induction l with
    | nil => exact fun _ => rfl
    | cons p l ih =>
        rw [Settings.Plain, List.forall_mem_cons] at h
        intro table
        rw [List.map_cons, List.foldlM_cons, loadPart_settingText table h.1]
        exact ih h.2 _
  cases l with
  | nil => exact absurd rfl hne
  | cons p l =>
      have hparts := settingParts_settingsText h
      have htext : settingsText (p :: l) = 35 :: (settingText p ++ settingsText l) := rfl
      rw [htext] at hparts ⊢
      show ((settingParts _).foldlM loadPart _).map SettingTable.msg_ok = _
      rw [hparts, hload]
      rfl

theorem key_injective {s t : IpSetting} (h : s.key = t.key) : s = t := by
  cases s <;> cases t <;> first | rfl | exact absurd h (by decide)

/-- The table has the settings of the message. -/
theorem table_key {l : Settings} (h : (l.map Prod.fst).Nodup) (s : IpSetting) :
    l.table s.key = l.lookup s := by
  have hfold : ∀ table : ConfigTable,
      l.foldl (fun t p => fun k => if k = p.1.key then some p.2 else t k) table s.key =
        (l.lookup s).or (table s.key) := by
    induction l with
    | nil => exact fun _ => rfl
    | cons p l ih =>
        obtain ⟨t, v⟩ := p
        rw [List.map_cons, List.nodup_cons] at h
        intro table
        rw [List.foldl_cons, ih h.2]
        by_cases hs : s = t
        · subst hs
          have hnone : l.lookup s = none := by
            rw [List.lookup_eq_none_iff]
            intro q hq
            simpa using fun heq : s = q.1 => h.1 (List.mem_map.mpr ⟨q, hq, heq.symm⟩)
          simp [hnone]
        · have hkey : s.key ≠ t.key := fun heq => hs (key_injective heq)
          have hbeq : (s == t) = false := by simpa using hs
          simp [List.lookup_cons, hkey, hbeq]
  rw [Settings.table, hfold, Option.or_none]

/-- The commands for the settings of a message. -/
theorem setConfig_table {l : Settings} (h : (l.map Prod.fst).Nodup) :
    setConfig l.table =
      ((l.lookup .IPADDRESS).toList.flatMap (setIpif "ip") ++
        (l.lookup .NETMASK).toList.flatMap (setIpif "netmask")) ++
      (l.lookup .GATEWAY).toList.flatMap (setIpif "gateway") := by
  have hip := table_key h .IPADDRESS
  have hmask := table_key h .NETMASK
  have hgate := table_key h .GATEWAY
  have hterm : setConfig l.table =
      keys_configTable.flatMap (fun key => (l.table (ascii key.1)).toList.flatMap key.2) := by
    unfold setConfig
    congr 1
    funext key
    cases l.table (ascii key.1) <;> simp
  have hidle : ∀ r : List Bytes, r.flatMap (fun _ => ([] : List Bytes)) = [] := by simp
  rw [← hip, ← hmask, ← hgate, hterm]
  simp only [keys_configTable, List.flatMap_cons, List.flatMap_nil, hidle, List.append_nil,
    List.append_assoc]
  rfl

/-! ## What the command lines do -/

theorem bare_ascii {t : String} (hne : ascii t ≠ [])
    (hhead : (ascii t).head?.map ShellLex.kind ≠ some .comment)
    (h : (ascii t).all ShellLex.isBare = true) : ShellLex.Bare (ascii t) :=
  ⟨hne, hhead, List.all_eq_true.mp h⟩

/-- The words of a command line of `user_handler.lua`: the value is part of the last. -/
theorem words_setIpif (s : IpSetting) {v : Bytes} (h : ∀ c ∈ v, isPlain c = true) :
    ShellLex.words (ascii "/etc/tf_clish/scripts/ipif/set_ipif.lua ifname  lan  proto static " ++
        s.param ++ v) =
      some [setIpifPath, ascii "ifname", ascii "lan", ascii "proto", ascii "static",
        s.param ++ v] := by
  have hline : ascii "/etc/tf_clish/scripts/ipif/set_ipif.lua ifname  lan  proto static " ++
      s.param ++ v = setIpifPath ++ 32 :: (ascii "ifname" ++ 32 :: 32 :: (ascii "lan" ++
        32 :: 32 :: (ascii "proto" ++ 32 :: (ascii "static" ++ 32 :: (s.param ++ v))))) := rfl
  have hbare : ∀ c ∈ v, ShellLex.isBare c = true := by
    intro c hc
    have hplain := h c hc
    simp only [isPlain, Bool.and_eq_true] at hplain
    simp [ShellLex.isBare, hplain]
  have hlast : ShellLex.Bare (s.param ++ v) := by
    have hparam : s.param ≠ [] ∧ s.param.head?.map ShellLex.kind ≠ some .comment ∧
        s.param.all ShellLex.isBare = true := by
      cases s <;> decide
    obtain ⟨hne, hhead, hall⟩ := hparam
    refine ⟨by simp [hne], ?_, fun c hc => ?_⟩
    · rwa [List.head?_append_of_ne_nil _ hne]
    · exact (List.mem_append.mp hc).elim (List.all_eq_true.mp hall c) (hbare c)
  have hpath : ShellLex.Bare setIpifPath := bare_ascii (by decide) (by decide) (by decide)
  have hifname : ShellLex.Bare (ascii "ifname") := bare_ascii (by decide) (by decide) (by decide)
  have hlan : ShellLex.Bare (ascii "lan") := bare_ascii (by decide) (by decide) (by decide)
  have hproto : ShellLex.Bare (ascii "proto") := bare_ascii (by decide) (by decide) (by decide)
  have hstatic : ShellLex.Bare (ascii "static") := bare_ascii (by decide) (by decide) (by decide)
  rw [hline, ShellLex.words_bare_blank hpath, ShellLex.words_bare_blank hifname,
    ShellLex.words_blank, ShellLex.words_bare_blank hlan, ShellLex.words_blank,
    ShellLex.words_bare_blank hproto, ShellLex.words_bare_blank hstatic, ShellLex.words_bare hlast]
  rfl

/-- **A command line sets `proto` only**: the value is not among the parameters. -/
theorem setIpifParam_glued (net : Network) (last : Bytes) :
    setIpifParam net [ascii "ifname", ascii "lan", ascii "proto", ascii "static", last] =
      if net (ascii "lan") = none then []
      else [ubusSet (ascii "lan") [(ascii "proto", ascii "static")]] := by
  have hparam : getparam ipif_paramList
      [ascii "ifname", ascii "lan", ascii "proto", ascii "static", last] =
        [(ascii "ifname", ascii "lan"), (ascii "proto", ascii "static")] := rfl
  have hconfig : ipifConfig (ascii "lan")
      [(ascii "ifname", ascii "lan"), (ascii "proto", ascii "static")] =
        [ubusSet (ascii "lan") [(ascii "proto", ascii "static")]] := by
    rw [ipifConfig, if_pos (by decide)]
    rfl
  have hlan : ascii "lan" ≠ ascii "loopback" := by decide
  rw [setIpifParam, hparam]
  show (if net (ascii "lan") = none ∨ ascii "lan" = ascii "loopback" then [] else
    ipifConfig (ascii "lan") _) = _
  rw [hconfig]
  by_cases h : net (ascii "lan") = none
  · rw [if_pos (.inl h), if_pos h]
  · rw [if_neg (by simp [h, hlan]), if_neg h]

/-- The network with a static interface. -/
def Network.static (net : Network) : Network :=
  match net (ascii "lan") with
  | none => net
  | some opts => net.set (ascii "lan") (opts.set (ascii "proto") (ascii "static"))

theorem static_static (net : Network) : net.static.static = net.static := by
  cases h : net (ascii "lan") with
  | none => simp only [Network.static, h]
  | some opts =>
      have hset : net.static = net.set (ascii "lan") (opts.set (ascii "proto") (ascii "static")) := by
        simp only [Network.static, h]
      have hlan : net.static (ascii "lan") = some (opts.set (ascii "proto") (ascii "static")) := by
        rw [hset, Network.set, if_pos rfl]
      have htwice : (opts.set (ascii "proto") (ascii "static")).set (ascii "proto")
          (ascii "static") = opts.set (ascii "proto") (ascii "static") := by
        funext o
        by_cases ho : o = ascii "proto" <;> simp [IfOptions.set, ho]
      funext i
      by_cases hi : i = ascii "lan"
      · rw [hi, Network.static, hlan]
        show (net.static.set _ _) _ = _
        rw [Network.set, if_pos rfl, htwice]
      · rw [Network.static, hlan]
        show (net.static.set _ _) _ = _
        rw [Network.set, if_neg hi]

/-- The command lines of `user_handler.lua`. -/
def IsSetIpif (line : Bytes) : Prop :=
  ∃ (s : IpSetting) (v : Bytes), (∀ c ∈ v, isPlain c = true) ∧
    line = ascii "/etc/tf_clish/scripts/ipif/set_ipif.lua ifname  lan  proto static " ++
      s.param ++ v

theorem runLine_setIpif {tools : Bytes → Network → Network} (htools : SetsProto tools)
    {line : Bytes} (h : IsSetIpif line) (net : Network) : runLine tools net line = net.static := by
  obtain ⟨s, v, hv, rfl⟩ := h
  rw [runLine, words_setIpif s hv]
  show (if setIpifPath = setIpifPath then _ else _) = _
  rw [if_pos rfl, setIpifParam_glued, Network.static]
  cases hnet : net (ascii "lan") with
  | none => rfl
  | some opts => exact htools net opts hnet

/-- Some command lines do what one does. -/
theorem runLines_setIpif {tools : Bytes → Network → Network} (htools : SetsProto tools)
    {lines : List Bytes} (h : ∀ line ∈ lines, IsSetIpif line) (net : Network) :
    runLines tools lines net = if lines = [] then net else net.static := by
  induction lines generalizing net with
  | nil => rfl
  | cons line lines ih =>
      rw [List.forall_mem_cons] at h
      have hrest := ih h.2 net.static
      have hstep : runLines tools (line :: lines) net = runLines tools lines net.static := by
        rw [runLines, List.foldl_cons, runLine_setIpif htools h.1]
        rfl
      rw [hstep, hrest, if_neg (List.cons_ne_nil _ _), static_static, ite_self]

/-! ## The settings -/

theorem set_option_ne {opts : IfOptions} {o o' : Bytes} (h : o' ≠ o) (v : Bytes) :
    opts.set o v o' = opts o' := if_neg h

theorem option_injective {s t : IpSetting} (h : s.option = t.option) : s = t := by
  cases s <;> cases t <;> first | rfl | exact absurd h (by decide)

theorem option_ne_proto (s : IpSetting) : s.option ≠ ascii "proto" := by
  cases s <;> decide

/-- The options of other settings stay. -/
theorem foldl_set_of_not_mem {l : Settings} {s : IpSetting} (h : s ∉ l.map Prod.fst)
    (opts : IfOptions) :
    l.foldl (fun o p => o.set p.1.option p.2) opts s.option = opts s.option := by
  induction l generalizing opts with
  | nil => rfl
  | cons p l ih =>
      rw [List.map_cons, List.mem_cons, not_or] at h
      rw [List.foldl_cons, ih h.2, set_option_ne (fun heq => h.1 (option_injective heq))]

/-- The settings are in the options. -/
theorem into_option {l : Settings} (h : (l.map Prod.fst).Nodup) (opts : IfOptions)
    {p : IpSetting × Bytes} (hp : p ∈ l) : l.into opts p.1.option = some p.2 := by
  rw [Settings.into]
  generalize opts.set (ascii "proto") (ascii "static") = opts'
  induction l generalizing opts' with
  | nil => cases hp
  | cons q l ih =>
      rw [List.map_cons, List.nodup_cons] at h
      rw [List.foldl_cons]
      rcases List.mem_cons.mp hp with rfl | hp
      · rw [foldl_set_of_not_mem h.1, IfOptions.set, if_pos rfl]
      · exact ih h.2 hp _

/-- Nothing is changed by settings that are there. -/
theorem into_of_set {l : Settings} {opts : IfOptions}
    (h : ∀ p ∈ l, opts p.1.option = some p.2) :
    l.into opts = opts.set (ascii "proto") (ascii "static") := by
  have hset : ∀ p ∈ l, (opts.set (ascii "proto") (ascii "static")) p.1.option = some p.2 := by
    intro p hp
    rw [set_option_ne (option_ne_proto p.1), h p hp]
  rw [Settings.into]
  generalize opts.set (ascii "proto") (ascii "static") = opts' at hset
  clear h
  induction l with
  | nil => rfl
  | cons p l ih =>
      rw [List.forall_mem_cons] at hset
      have hp : opts'.set p.1.option p.2 = opts' := by
        funext o
        by_cases ho : o = p.1.option
        · rw [ho, hset.1, IfOptions.set, if_pos rfl]
        · exact set_option_ne ho _
      rw [List.foldl_cons, hp]
      exact ih hset.2

/-- The commands of an authenticated message, and what they do. -/
theorem runLines_message {tools : Bytes → Network → Network} (htools : SetsProto tools)
    {userdata : RpcdReply} {hash : Bytes} (hhash : checkValidHash userdata (some hash) = some .hash_ok)
    {l : Settings} (hkeys : (l.map Prod.fst).Nodup) (hplain : l.Plain) (net : Network) :
    runLines tools (runHashTest userdata (some hash) (some (settingsText l))).commands net =
      if l = [] then net else net.static := by
  by_cases hl : l = []
  · subst hl
    have hrun : runHashTest userdata (some hash) (some (settingsText [])) = ⟨[msgError], none⟩ := by
      rw [runHashTest, hhash]
      rfl
    rw [hrun]
    rfl
  · have hrun : runHashTest userdata (some hash) (some (settingsText l)) =
        ⟨[configOk], some l.table⟩ := by
      simp only [runHashTest, hhash, getSettingTable_settingsText hplain hl]
    have hline : ∀ (s : IpSetting) (name : String), s.param = ascii name →
        ∀ line ∈ (l.lookup s).toList.flatMap (setIpif name), IsSetIpif line := by
      intro s name hname line hmem
      simp only [List.mem_flatMap, Option.mem_toList, setIpif, List.mem_singleton] at hmem
      obtain ⟨v, hv, rfl⟩ := hmem
      obtain ⟨l₁, l₂, rfl, -⟩ := List.lookup_eq_some_iff.mp hv
      exact ⟨s, v, hplain (s, v) (by simp), by rw [hname]⟩
    have hlines : ∀ line ∈ setConfig l.table, IsSetIpif line := by
      intro line hmem
      rw [setConfig_table hkeys, List.mem_append, List.mem_append] at hmem
      rcases hmem with (hmem | hmem) | hmem
      · exact hline .IPADDRESS "ip" rfl line hmem
      · exact hline .NETMASK "netmask" rfl line hmem
      · exact hline .GATEWAY "gateway" rfl line hmem
    have hne : setConfig l.table ≠ [] := by
      obtain ⟨⟨s, v⟩, l', rfl⟩ := List.exists_cons_of_ne_nil hl
      rw [setConfig_table hkeys]
      cases s <;> simp [setIpif]
    rw [hrun]
    show runLines tools (setConfig l.table) net = _
    rw [runLines_setIpif htools hlines, if_neg hne, if_neg hl]

theorem applied_self_iff {l : Settings} (hkeys : (l.map Prod.fst).Nodup) {net : Network}
    {opts : IfOptions} (h : net (ascii "lan") = some opts) :
    Applied l net net.static ↔ ∀ p ∈ l, opts p.1.option = some p.2 := by
  have hstatic : net.static = net.set (ascii "lan") (opts.set (ascii "proto") (ascii "static")) := by
    simp only [Network.static, h]
  constructor
  · rintro ⟨opts', hopts', heq⟩ p hp
    obtain rfl : opts = opts' := Option.some.inj (h.symm.trans hopts')
    have hinto := congrFun heq (ascii "lan")
    rw [hstatic, Network.set, Network.set, if_pos rfl, if_pos rfl, Option.some.injEq] at hinto
    have hoption := into_option hkeys opts hp
    rwa [← hinto, set_option_ne (option_ne_proto p.1)] at hoption
  · intro hset
    exact ⟨opts, h, by rw [hstatic, into_of_set hset]⟩

/-- **An authenticated message with plain values is applied exactly when the interface has its
settings already.** -/
theorem applied_iff {tools : Bytes → Network → Network} (htools : SetsProto tools)
    {userdata : RpcdReply} {hash : Bytes}
    (hhash : checkValidHash userdata (some hash) = some .hash_ok)
    {l : Settings} (hkeys : (l.map Prod.fst).Nodup) (hplain : l.Plain) (net : Network) :
    Applied l net
        (runLines tools (runHashTest userdata (some hash) (some (settingsText l))).commands net) ↔
      AlreadySet l net := by
  rw [runLines_message htools hhash hkeys hplain]
  cases h : net (ascii "lan") with
  | none =>
      constructor
      · rintro ⟨opts, hopts, -⟩
        exact absurd (h.symm.trans hopts) (Option.some_ne_none opts).symm
      · rintro ⟨opts, hopts, -, -⟩
        exact absurd (h.symm.trans hopts) (Option.some_ne_none opts).symm
  | some opts =>
      have halready : AlreadySet l net ↔ (∀ p ∈ l, opts p.1.option = some p.2) ∧
          (l = [] → opts (ascii "proto") = some (ascii "static")) := by
        constructor
        · rintro ⟨opts', hopts', hset⟩
          obtain rfl : opts = opts' := Option.some.inj (h.symm.trans hopts')
          exact hset
        · exact fun hset => ⟨opts, h, hset⟩
      rw [halready]
      by_cases hl : l = []
      · subst hl
        rw [if_pos rfl]
        constructor
        · rintro ⟨opts', hopts', heq⟩
          obtain rfl : opts = opts' := Option.some.inj (h.symm.trans hopts')
          have hlan := congrFun heq (ascii "lan")
          rw [h, Network.set, if_pos rfl, Option.some.injEq] at hlan
          refine ⟨by simp, fun _ => ?_⟩
          rw [hlan, Settings.into, List.foldl_nil, IfOptions.set, if_pos rfl]
        · rintro ⟨-, hproto⟩
          have hset : opts.set (ascii "proto") (ascii "static") = opts := by
            funext o
            by_cases ho : o = ascii "proto"
            · rw [ho, hproto rfl, IfOptions.set, if_pos rfl]
            · exact set_option_ne ho _
          refine ⟨opts, h, funext fun i => ?_⟩
          by_cases hi : i = ascii "lan"
          · rw [hi, h, Network.set, if_pos rfl]
            exact congrArg some hset.symm
          · rw [Network.set, if_neg hi]
      · rw [if_neg hl, applied_self_iff hkeys h]
        exact ⟨fun hset => ⟨hset, fun hnil => absurd hnil hl⟩, fun hset => hset.1⟩

/-- What `ubus` does to `proto` of `lan`. -/
def protoTools (line : Bytes) (net : Network) : Network :=
  if line = ubusSet (ascii "lan") [(ascii "proto", ascii "static")] then net.static else net

theorem setsProto_protoTools : SetsProto protoTools := by
  intro net opts h
  rw [protoTools, if_pos rfl, Network.static, h]

/-- A user, and a network with a static interface without an address. -/
def someUser : RpcdReply := some (some [⟨ascii "login", some (ascii "1a2b")⟩])
def staticNet : Network := fun i =>
  if i = ascii "lan" then
    some (fun o => if o = ascii "proto" then some (ascii "static") else none)
  else none

/-- The address of a message. -/
def addressMessage : Settings := [(.IPADDRESS, ascii "192.168.0.2")]

theorem plain_addressMessage : addressMessage.Plain := by
  intro p hp
  obtain rfl := List.mem_singleton.mp hp
  exact List.all_eq_true.mp (by decide : (ascii "192.168.0.2").all isPlain = true)

theorem applied_iff_address :
    Applied addressMessage staticNet
        (runLines protoTools (runHashTest someUser (some (ascii "1a2b"))
          (some (settingsText addressMessage))).commands staticNet) ↔
      AlreadySet addressMessage staticNet :=
  applied_iff setsProto_protoTools (by decide) (by decide) plain_addressMessage staticNet

/-- **An address is not set**: the last word of its command line is `ip192.168.0.2`. -/
theorem address_not_applied :
    ¬ ∀ (tools : Bytes → Network → Network), SetsProto tools →
      ∀ (userdata : RpcdReply) (hash : Bytes),
        checkValidHash userdata (some hash) = some .hash_ok →
      ∀ (l : Settings), (l.map Prod.fst).Nodup → l.Plain → ∀ net : Network,
        (∃ opts, net (ascii "lan") = some opts) →
        Applied l net
          (runLines tools (runHashTest userdata (some hash) (some (settingsText l))).commands
            net) := by
  intro h
  obtain ⟨opts, hopts, heq⟩ := h protoTools setsProto_protoTools someUser (ascii "1a2b")
    (by decide) addressMessage (by decide) plain_addressMessage staticNet ⟨_, rfl⟩
  have hvalue := into_option (l := addressMessage) (by decide) opts List.mem_cons_self
  have hleft : (staticNet.static (ascii "lan")).map (fun opts => opts (ascii "ipaddr")) =
      some none := by decide
  rw [runLines_message setsProto_protoTools (by decide) (by decide) plain_addressMessage,
    if_neg (by simp [addressMessage])] at heq
  rw [heq, Network.set, if_pos rfl, Option.map_some, Option.some.injEq] at hleft
  exact absurd (hleft.symm.trans hvalue) (by simp)

end DeviceMonitor
