import TfPack.AutoRestart.ClockTexts
import TfPack.Lib.SectionStore
import Mathlib.Algebra.Order.BigOperators.Group.List

set_option autoImplicit false

/-! # Remote logging: `config_rsyslog.lua`

The selectors of the configuration `rsyslog` say where messages go. One is local when it has a
source and a destination that does not begin with `@`. A run deletes all others, and then adds for
each local one a section with the same source and the remote destination. So whatever earlier runs
have left, the last one alone decides what the remote selectors are (`remoteRight`). The values are
pasted into a command: an address with a quote or a backslash in it leaves sections without options
(`contents_of_special`).
-/

namespace RemoteLog

open AutoRestart Lua SectionStore

/-- The configuration `rsyslog`. No value in it is empty. -/
abbrev Config := Store String Text

abbrev Selector := Section String Text

/-! ## Values in a command -/

/-- What stands for a character behind a backslash in JSON. -/
def escaped (c : Char) : Option Char :=
  if c = '"' ∨ c = '\\' ∨ c = '/' then some c
  else if c = 'n' then some '\n'
  else if c = 't' then some '\t'
  else if c = 'r' then some '\r'
  else if c = 'b' then some (Char.ofNat 8)
  else if c = 'f' then some (Char.ofNat 12)
  else none

/-- The text that JSON has between two quotes; `none` when they do not hold it. -/
def unescape : Text → Option Text
  | [] => some []
  | ['\\'] => none
  | '\\' :: c :: t => (escaped c).bind (fun d => (unescape t).map (fun r => d :: r))
  | c :: t => if c = '"' then none else (unescape t).map (fun r => c :: r)

/-- A text that is pasted between the quotes of JSON, which stands in single quotes itself. -/
def pasted (t : Text) : Option Text := if '\'' ∈ t then none else unescape t

/-- `addBackSlash`. -/
def addBackSlash (str : Text) : Text := str.flatMap (fun c => if c = '"' then ['\\', c] else [c])

/-! ## The script -/

/-- The options `log_ip`, `log_port`, `log_proto` and `log_state` of the configuration `system`. -/
structure System where
  log_ip : Option Text
  log_port : Option Text
  log_proto : Option Text
  log_state : Option Text

/-- What Lua and `uci` are free in: the order in which `pairs` goes through the sections, and the
name of a new section, which is not taken. -/
structure Uci where
  pairs : Config → List Selector
  perm : ∀ cfg, (pairs cfg).Perm cfg
  newName : Config → String
  fresh : ∀ cfg, find (newName cfg) cfg = none

/-- `log_proto_sym`. -/
def logProtoSym (proto : Text) : Option Text :=
  if proto = "tcp".toList then some "@@".toList
  else if proto = "udp".toList then some "@".toList
  else none

/-- A selector that `log_disableRemoteParam` deletes. -/
def removed (sec : Selector) : Bool :=
  sec.type == "selector" &&
    ((sec.options "destination").isNone || (sec.options "source").isNone ||
      (sec.options "destination").bind List.head? == some '@')

/-- `log_disableRemoteParam`. -/
def logDisableRemoteParam (u : Uci) (cfg : Config) : Config :=
  (u.pairs cfg).foldl (fun c sec => if removed sec then delete sec.name c else c) cfg

/-- `ubus call uci set` with values that are pasted; nothing is set when one does not survive. -/
def uciSet (id : String) (values : List (String × Text)) (cfg : Config) : Config :=
  match values.mapM (fun v => (pasted v.2).map (fun t => (v.1, t))) with
  | some options => setAll id options cfg
  | none => cfg

/-- The sections that a run leaves, and whether it ends with an error of Lua. -/
structure Result where
  config : Config
  raised : Bool

/-- The loop of `log_setRemoteParam`. The sections that are gone through are those at its start. -/
def setRemoteFrom (u : Uci) (ip port proto : Text) : List Selector → Config → Result
  | [], cfg => ⟨cfg, false⟩
  | sec :: rest, cfg =>
      if sec.type = "selector" then
        match sec.options "source", sec.options "destination" with
        | some source, some _ =>
            let id := u.newName cfg
            let added := SectionStore.add "selector" id cfg
            match logProtoSym proto with
            | none => ⟨added, true⟩
            | some sym =>
                setRemoteFrom u ip port proto rest
                  (uciSet id [("destination", sym ++ (ip ++ ':' :: port)),
                    ("source", addBackSlash source)] added)
        | _, _ => setRemoteFrom u ip port proto rest cfg
      else setRemoteFrom u ip port proto rest cfg

/-- `log_setRemoteParam`. -/
def logSetRemoteParam (u : Uci) (ip port proto : Text) (cfg : Config) : Result :=
  setRemoteFrom u ip port proto (u.pairs cfg) cfg

/-- `run_config_log`, with the options of the system as they are after its first command. -/
def runConfigLog (R : Rounding) (u : Uci) (sys : System) (cfg : Config) : Result :=
  match sys.log_ip, sys.log_port, sys.log_proto, sys.log_state with
  | some ip, some port, some proto, some state =>
      let cfg := logDisableRemoteParam u cfg
      if tonumber R state = some 1 then logSetRemoteParam u ip port proto cfg else ⟨cfg, false⟩
  | _, _, _, _ => ⟨cfg, false⟩

/-- A run of the script: what it finds in the system, and how it goes through the sections. -/
structure Call where
  uci : Uci
  sys : System

/-- Runs one after the other. -/
def runAll (R : Rounding) (calls : List Call) (cfg : Config) : Config :=
  calls.foldl (fun cfg c => (runConfigLog R c.uci c.sys cfg).config) cfg

/-! ## What should hold -/

/-- A complete local selector. -/
def isLocal (sec : Selector) : Bool := sec.type == "selector" && !removed sec

/-- The sections that are no selectors, and the local selectors. -/
def kept (cfg : Config) : Config := cfg.filter (fun sec => !removed sec)

/-- The selectors that are not local. -/
def others (cfg : Config) : Config := cfg.filter removed

/-- A configuration with names of its own, and sources without a single quote or a backslash. -/
structure Selectors where
  config : Config
  named : config.Named
  plain : ∀ sec ∈ config, isLocal sec = true → ∀ source, sec.options "source" = some source →
    '\'' ∉ source ∧ '\\' ∉ source

/-- A system where the remote host is defined, with a protocol that is known. -/
structure Defined where
  ip : Text
  port : Text
  proto : Text
  sym : Text
  known : logProtoSym proto = some sym

/-- An address and a port have no quotes and no backslashes in them. -/
def Defined.Plain (d : Defined) : Prop := ∀ c ∈ d.ip ++ d.port, c ≠ '\'' ∧ c ≠ '"' ∧ c ≠ '\\'

/-- The system with a `log_state`. -/
def Defined.system (d : Defined) (state : Text) : System :=
  ⟨some d.ip, some d.port, some d.proto, some state⟩

/-- The current destination. -/
def Defined.destination (d : Defined) : Text := d.sym ++ (d.ip ++ ':' :: d.port)

/-- The source and the destination of a selector. -/
def contents (sec : Selector) : Option Text × Option Text :=
  (sec.options "source", sec.options "destination")

/-- **The remote selectors are those of the local ones**: what is no selector, and the local
selectors, are as before; the other selectors are one for each local one, with its source and the
current destination. -/
structure Remote (d : Defined) (before after : Config) : Prop where
  kept : kept after = kept before
  remote : ((others after).map contents).Perm
    ((before.filter isLocal).map (fun sec => (sec.options "source", some d.destination)))

/-- **There are only local selectors.** -/
structure OnlyLocal (before after : Config) : Prop where
  kept : kept after = kept before
  none : others after = []

/-- Nothing is changed but the order of what is not local, and its names. -/
structure Unchanged (before after : Config) : Prop where
  kept : kept after = kept before
  remote : ((others after).map contents).Perm ((others before).map contents)

/-! ## What survives the quotes -/

theorem unescape_cons {c : Char} (hback : c ≠ '\\') (hquote : c ≠ '"') (t : Text) :
    unescape (c :: t) = (unescape t).map (fun r => c :: r) := by
  cases t with
  | nil => simp [unescape, hback, hquote]
  | cons a t => simp [unescape, hback, hquote]

/-- A text without quotes and backslashes is held as it is. -/
theorem pasted_plain {t : Text} (h : ∀ c ∈ t, c ≠ '\'' ∧ c ≠ '"' ∧ c ≠ '\\') :
    pasted t = some t := by
  rw [pasted, if_neg (fun hmem => (h _ hmem).1 rfl)]
  induction t with
  | nil => rfl
  | cons c t ih =>
      rw [List.forall_mem_cons] at h
      rw [unescape_cons h.1.2.2 h.1.2.1, ih h.2, Option.map_some]

/-- **A source with its quotes escaped is held as it is.** -/
theorem pasted_addBackSlash {t : Text} (hsingle : '\'' ∉ t) (hback : '\\' ∉ t) :
    pasted (addBackSlash t) = some t := by
  have hno : '\'' ∉ addBackSlash t := by
    rw [addBackSlash, List.mem_flatMap]
    rintro ⟨c, hc, hmem⟩
    split at hmem
    · simp_all
    · exact hsingle (List.mem_singleton.mp hmem ▸ hc)
  rw [pasted, if_neg hno]
  clear hno hsingle
  induction t with
  | nil => rfl
  | cons c t ih =>
      rw [List.mem_cons, not_or] at hback
      rw [addBackSlash, List.flatMap_cons, ← addBackSlash]
      by_cases hc : c = '"'
      · subst hc
        show (escaped '"').bind (fun d => (unescape (addBackSlash t)).map (fun r => d :: r)) = _
        rw [ih hback.2]
        rfl
      · rw [if_neg hc, List.singleton_append, unescape_cons (Ne.symm hback.1) hc, ih hback.2,
          Option.map_some]

/-- The first character of a destination stays. -/
theorem head_of_pasted {t r : Text} (h : pasted ('@' :: t) = some r) : r.head? = some '@' := by
  rw [pasted] at h
  split at h
  · cases h
  · rw [unescape_cons (by decide) (by decide), Option.map_eq_some_iff] at h
    obtain ⟨r', -, rfl⟩ := h
    rfl

theorem logProtoSym_cases {proto sym : Text} (h : logProtoSym proto = some sym) :
    sym = ['@', '@'] ∨ sym = ['@'] := by
  rw [logProtoSym] at h
  split at h
  · exact .inl (Option.some.inj h).symm
  · split at h
    · exact .inr (Option.some.inj h).symm
    · cases h

theorem logProtoSym_head {proto sym : Text} (h : logProtoSym proto = some sym) :
    ∃ rest, sym = '@' :: rest := by
  rcases logProtoSym_cases h with rfl | rfl
  · exact ⟨['@'], rfl⟩
  · exact ⟨[], rfl⟩

/-- The current destination is held as it is. -/
theorem pasted_destination {d : Defined} (hplain : d.Plain) :
    pasted d.destination = some d.destination := by
  refine pasted_plain (fun c hc => ?_)
  have hsym : ∀ c ∈ d.sym, c = '@' := by
    rcases logProtoSym_cases d.known with h | h <;> rw [h] <;> simp
  simp only [Defined.destination, List.mem_append, List.mem_cons] at hc
  rcases hc with hc | hc | rfl | hc
  · rw [hsym c hc]
    decide
  · exact hplain c (List.mem_append_left _ hc)
  · decide
  · exact hplain c (List.mem_append_right _ hc)

/-! ## Deleting -/

theorem foldl_delete (l : Config) (cfg : Config) :
    l.foldl (fun c sec => if removed sec then delete sec.name c else c) cfg =
      cfg.filter (fun s => l.all (fun t => !(removed t && s.name == t.name))) := by
  induction l generalizing cfg with
  | nil => simp
  | cons t l ih =>
      rw [List.foldl_cons, ih]
      by_cases ht : removed t = true
      · rw [if_pos ht, delete, List.filter_filter]
        refine List.filter_congr (fun s _ => ?_)
        rw [List.all_cons, ht, Bool.true_and, Bool.and_comm]
        rfl
      · rw [if_neg ht]
        refine List.filter_congr (fun s _ => ?_)
        rw [Bool.not_eq_true] at ht
        rw [List.all_cons, ht, Bool.false_and, Bool.not_false, Bool.true_and]

/-- **What is left is what should be kept.** -/
theorem logDisableRemoteParam_eq (u : Uci) {cfg : Config} (hnamed : cfg.Named) :
    logDisableRemoteParam u cfg = kept cfg := by
  rw [logDisableRemoteParam, foldl_delete, kept]
  refine List.filter_congr (fun s hs => ?_)
  rw [Bool.eq_iff_iff, List.all_eq_true, Bool.not_eq_true']
  constructor
  · intro hall
    have hself := hall s ((u.perm cfg).mem_iff.mpr hs)
    simpa using hself
  · intro hs' t ht
    have htcfg : t ∈ cfg := (u.perm cfg).mem_iff.mp ht
    by_contra hboth
    simp only [Bool.not_eq_true', Bool.not_eq_false, Bool.and_eq_true, beq_iff_eq] at hboth
    have heq := eq_of_name hnamed hs htcfg hboth.2
    rw [heq, hboth.1] at hs'
    cases hs'

theorem named_kept {cfg : Config} (hnamed : cfg.Named) : Store.Named (kept cfg) :=
  List.Nodup.sublist (List.Sublist.map _ List.filter_sublist) hnamed

/-! ## Adding -/

/-- The section that is added for a source. -/
def addRemote (u : Uci) (ip port sym source : Text) (cfg : Config) : Config :=
  uciSet (u.newName cfg)
    [("destination", sym ++ (ip ++ ':' :: port)), ("source", addBackSlash source)]
    (SectionStore.add "selector" (u.newName cfg) cfg)

/-- A selector without options is no local one. -/
theorem removed_empty (name : String) : removed ⟨name, "selector", fun _ => none⟩ = true := rfl

/-- Two values are both set, or none. -/
theorem uciSet_of_pasted {id a b : String} {x y x' y' : Text} (hx : pasted x = some x')
    (hy : pasted y = some y') (cfg : Config) :
    uciSet id [(a, x), (b, y)] cfg = setAll id [(a, x'), (b, y')] cfg := by
  rw [uciSet, List.mapM_cons, List.mapM_cons, List.mapM_nil, hx, hy]
  rfl

theorem uciSet_cases (id a b : String) (x y : Text) (cfg : Config) :
    (∃ x' y', pasted x = some x' ∧ uciSet id [(a, x), (b, y)] cfg =
      setAll id [(a, x'), (b, y')] cfg) ∨ uciSet id [(a, x), (b, y)] cfg = cfg := by
  cases hx : pasted x with
  | none =>
      refine .inr ?_
      rw [uciSet, List.mapM_cons, hx]
      rfl
  | some x' =>
      cases hy : pasted y with
      | none =>
          refine .inr ?_
          rw [uciSet, List.mapM_cons, List.mapM_cons, hx, hy]
          rfl
      | some y' => exact .inl ⟨x', y', rfl, uciSet_of_pasted hx hy cfg⟩

/-- **One section is added, and it is not local.** -/
theorem addRemote_eq (u : Uci) (ip port source : Text) {proto sym : Text}
    (hsym : logProtoSym proto = some sym) (cfg : Config) :
    ∃ sec, addRemote u ip port sym source cfg = cfg ++ [sec] ∧ sec.name = u.newName cfg ∧
      removed sec = true := by
  obtain ⟨rest, rfl⟩ := logProtoSym_head hsym
  rw [addRemote]
  obtain ⟨dest, src, hdest, hset⟩ | hset := uciSet_cases (u.newName cfg) "destination" "source"
    ('@' :: rest ++ (ip ++ ':' :: port)) (addBackSlash source)
    (SectionStore.add "selector" (u.newName cfg) cfg)
  · have hhead : dest.head? = some '@' := head_of_pasted hdest
    rw [hset]
    exact ⟨_, setAll_add_of_new (u.fresh cfg) "selector" _, rfl,
      by simp [removed, writeOptions, hhead]⟩
  · rw [hset]
    exact ⟨_, setAll_add_of_new (u.fresh cfg) "selector" [], rfl, removed_empty _⟩

/-- The section of a source that survives the quotes. -/
theorem addRemote_defined (u : Uci) {d : Defined} (hplain : d.Plain) {source : Text}
    (hsource : '\'' ∉ source ∧ '\\' ∉ source) (cfg : Config) :
    ∃ sec, addRemote u d.ip d.port d.sym source cfg = cfg ++ [sec] ∧ removed sec = true ∧
      contents sec = (some source, some d.destination) := by
  obtain ⟨rest, hrest⟩ := logProtoSym_head d.known
  have hhead : d.destination.head? = some '@' := by
    rw [Defined.destination, hrest]
    rfl
  have hadd : addRemote u d.ip d.port d.sym source cfg = cfg ++ [⟨u.newName cfg, "selector",
      writeOptions [("destination", d.destination), ("source", source)] (fun _ => none)⟩] := by
    rw [addRemote, ← Defined.destination,
      uciSet_of_pasted (pasted_destination hplain) (pasted_addBackSlash hsource.1 hsource.2),
      setAll_add_of_new (u.fresh cfg)]
  refine ⟨_, hadd, ?_, ?_⟩
  · simp [removed, writeOptions, hhead]
  · simp [contents, writeOptions]

theorem named_append {cfg : Config} (hnamed : cfg.Named) {sec : Selector}
    (hnew : find sec.name cfg = none) : Store.Named (cfg ++ [sec]) := by
  rw [Store.Named, List.map_append]
  refine List.Nodup.append hnamed (List.nodup_singleton _) ?_
  intro k hk hk'
  obtain ⟨t, ht, rfl⟩ := List.mem_map.mp hk
  exact find_eq_none.mp hnew t ht (List.mem_singleton.mp hk')

/-- What a run adds are sections that are not local. -/
theorem setRemoteFrom_eq (u : Uci) (ip port proto : Text) (l : List Selector) {cfg : Config}
    (hnamed : cfg.Named) :
    ∃ new, (setRemoteFrom u ip port proto l cfg).config = cfg ++ new ∧
      (∀ sec ∈ new, removed sec = true) ∧
      Store.Named (setRemoteFrom u ip port proto l cfg).config := by
  induction l generalizing cfg with
  | nil => exact ⟨[], (List.append_nil cfg).symm, by simp, hnamed⟩
  | cons sec l ih =>
      rw [setRemoteFrom]
      split
      · split
        · rename_i source dest hsource hdest
          dsimp only
          split
          · have hadd : SectionStore.add "selector" (u.newName cfg) cfg =
                cfg ++ [⟨u.newName cfg, "selector", fun _ => none⟩] :=
              setAll_add_of_new (u.fresh cfg) "selector" []
            refine ⟨_, hadd, by simp [removed_empty], ?_⟩
            exact named_add hnamed
          · rename_i sym hsym
            obtain ⟨new, hadd, hname, hremoved⟩ := addRemote_eq u ip port source hsym cfg
            rw [addRemote] at hadd
            have hfresh : find new.name cfg = none := hname ▸ u.fresh cfg
            have hnamed' := named_append hnamed hfresh
            rw [hadd]
            obtain ⟨news, hconfig, hnews, hnamed''⟩ := ih hnamed'
            refine ⟨new :: news, ?_, List.forall_mem_cons.mpr ⟨hremoved, hnews⟩, hnamed''⟩
            rw [hconfig, List.append_assoc, List.singleton_append]
        · exact ih hnamed
      · exact ih hnamed

/-- **What a run adds for local selectors.** -/
theorem setRemoteFrom_defined (u : Uci) {d : Defined} (hd : d.Plain) {l : List Selector}
    (hl : ∀ sec ∈ l, removed sec = false ∧ (isLocal sec = true →
      ∀ source, sec.options "source" = some source → '\'' ∉ source ∧ '\\' ∉ source))
    (cfg : Config) :
    ∃ new, setRemoteFrom u d.ip d.port d.proto l cfg = ⟨cfg ++ new, false⟩ ∧
      (∀ sec ∈ new, removed sec = true) ∧
      new.map contents =
        (l.filter isLocal).map (fun sec => (sec.options "source", some d.destination)) := by
  induction l generalizing cfg with
  | nil => exact ⟨[], by rw [setRemoteFrom, List.append_nil], by simp, rfl⟩
  | cons sec l ih =>
      rw [List.forall_mem_cons] at hl
      obtain ⟨⟨hremoved, hplain⟩, hl⟩ := hl
      rw [setRemoteFrom]
      by_cases htype : sec.type = "selector"
      · have hlocal : isLocal sec = true := by simp [isLocal, htype, hremoved]
        rw [if_pos htype, List.filter_cons_of_pos hlocal, List.map_cons]
        cases hsource : sec.options "source" with
        | none => simp [removed, htype, hsource] at hremoved
        | some source =>
            cases hdest : sec.options "destination" with
            | none => simp [removed, htype, hdest] at hremoved
            | some dest =>
                obtain ⟨new, hadd, hnew, hcontents⟩ :=
                  addRemote_defined u hd (hplain hlocal source hsource) cfg
                obtain ⟨news, hconfig, hnews, hmap⟩ := ih hl (cfg ++ [new])
                rw [addRemote] at hadd
                dsimp only
                rw [d.known]
                dsimp only
                rw [hadd, hconfig]
                refine ⟨new :: news, ?_, List.forall_mem_cons.mpr ⟨hnew, hnews⟩, ?_⟩
                · rw [List.append_assoc, List.singleton_append]
                · rw [List.map_cons, hcontents, hmap]
      · have hlocal : ¬isLocal sec = true := by simp [isLocal, htype]
        rw [if_neg htype, List.filter_cons_of_neg hlocal]
        exact ih hl cfg

/-! ## Runs -/

theorem kept_append_removed (cfg : Config) {new : Config} (h : ∀ sec ∈ new, removed sec = true) :
    kept (kept cfg ++ new) = kept cfg ∧ others (kept cfg ++ new) = new := by
  have hnew : new.filter (fun sec => !removed sec) = [] :=
    List.filter_eq_nil_iff.mpr (fun sec hsec => by simp [h sec hsec])
  have hkept : (kept cfg).filter removed = [] := by
    refine List.filter_eq_nil_iff.mpr (fun sec hsec => ?_)
    rw [kept, List.mem_filter] at hsec
    simpa using hsec.2
  constructor
  · rw [kept, List.filter_append, hnew, List.append_nil, kept, List.filter_filter]
    simp
  · rw [others, List.filter_append, hkept, List.nil_append, List.filter_eq_self]
    exact h

/-- **Every run keeps what should be kept**, whatever it finds in the system. -/
theorem runConfigLog_kept (R : Rounding) (u : Uci) (sys : System) {cfg : Config}
    (hnamed : cfg.Named) :
    kept (runConfigLog R u sys cfg).config = kept cfg ∧
      Store.Named (runConfigLog R u sys cfg).config := by
  rw [runConfigLog]
  split
  · dsimp only
    rw [logDisableRemoteParam_eq u hnamed]
    split
    · rename_i ip port proto state _ _ _ _ _
      obtain ⟨new, hconfig, hnew, hnamed'⟩ :=
        setRemoteFrom_eq u ip port proto (u.pairs (kept cfg)) (named_kept hnamed)
      refine ⟨?_, hnamed'⟩
      rw [logSetRemoteParam, hconfig]
      exact (kept_append_removed _ hnew).1
    · refine ⟨?_, named_kept hnamed⟩
      have hnil := (kept_append_removed cfg (List.forall_mem_nil _)).1
      rwa [List.append_nil] at hnil
  · exact ⟨rfl, hnamed⟩

theorem runAll_kept (R : Rounding) (calls : List Call) {cfg : Config} (hnamed : cfg.Named) :
    kept (runAll R calls cfg) = kept cfg ∧ Store.Named (runAll R calls cfg) := by
  induction calls generalizing cfg with
  | nil => exact ⟨rfl, hnamed⟩
  | cons c calls ih =>
      obtain ⟨hkept, hnamed'⟩ := runConfigLog_kept R c.uci c.sys hnamed
      rw [runAll, List.foldl_cons, ← runAll]
      obtain ⟨hkept', hnamed''⟩ := ih hnamed'
      exact ⟨hkept'.trans hkept, hnamed''⟩

theorem runAll_concat (R : Rounding) (calls : List Call) (c : Call) (cfg : Config) :
    runAll R (calls ++ [c]) cfg = (runConfigLog R c.uci c.sys (runAll R calls cfg)).config := by
  rw [runAll, List.foldl_append]
  rfl

theorem filter_isLocal (cfg : Config) : cfg.filter isLocal = (kept cfg).filter isLocal := by
  rw [kept, List.filter_filter]
  refine List.filter_congr (fun sec _ => ?_)
  rw [isLocal, Bool.and_assoc, Bool.and_self]

/-- `log_state` is a number. -/
theorem tonumber_state (R : Rounding) (n : Nat) (h : n < 10) :
    tonumber R [Nat.digitChar n] = some (n : ℚ) := by
  have hdigits : Nat.toDigits 10 n = [Nat.digitChar n] := Nat.toDigits_of_lt_base h
  have hd := digits_toDigits n
  rw [hdigits] at hd
  have hval := digitsVal_toDigits n
  rw [hdigits] at hval
  rw [tonumber_digits R hd, hval, R.exact n (by omega)]

/-- **A run with remote logging**, after any others. -/
theorem remote_run (R : Rounding) (sel : Selectors) (u : Uci) {d : Defined} (hplain : d.Plain)
    {cfg : Config} (hnamed : cfg.Named) (hkept : kept cfg = kept sel.config) :
    (runConfigLog R u (d.system ['1']) cfg).raised = false ∧
      Remote d sel.config (runConfigLog R u (d.system ['1']) cfg).config := by
  have hone : tonumber R ['1'] = some 1 := tonumber_state R 1 (by decide)
  have hrun : runConfigLog R u (d.system ['1']) cfg =
      setRemoteFrom u d.ip d.port d.proto (u.pairs (kept cfg)) (kept cfg) := by
    rw [runConfigLog, Defined.system]
    dsimp only
    rw [if_pos hone, logDisableRemoteParam_eq u hnamed, logSetRemoteParam]
  have hl : ∀ sec ∈ u.pairs (kept cfg), removed sec = false ∧ (isLocal sec = true →
      ∀ source, sec.options "source" = some source → '\'' ∉ source ∧ '\\' ∉ source) := by
    intro sec hsec
    rw [(u.perm _).mem_iff, hkept, kept, List.mem_filter, Bool.not_eq_true'] at hsec
    exact ⟨hsec.2, sel.plain sec hsec.1⟩
  obtain ⟨new, hconfig, hnew, hmap⟩ := setRemoteFrom_defined u hplain hl (kept cfg)
  obtain ⟨hkept', hothers⟩ := kept_append_removed cfg hnew
  rw [hrun, hconfig]
  refine ⟨rfl, hkept'.trans hkept, ?_⟩
  rw [hothers, hmap, filter_isLocal sel.config, ← hkept]
  exact ((u.perm _).filter isLocal).map _

/-- A run without remote logging, after any others. -/
theorem local_run (R : Rounding) (u : Uci) (d : Defined) {before cfg : Config}
    (hnamed : cfg.Named) (hkept : kept cfg = kept before) :
    OnlyLocal before (runConfigLog R u (d.system ['0']) cfg).config := by
  have hzero : tonumber R ['0'] = some 0 := tonumber_state R 0 (by decide)
  have hne : ¬tonumber R ['0'] = some 1 := by
    rw [hzero, Option.some.injEq]
    decide
  have hrun : runConfigLog R u (d.system ['0']) cfg = ⟨kept cfg, false⟩ := by
    rw [runConfigLog, Defined.system]
    dsimp only
    rw [if_neg hne, logDisableRemoteParam_eq u hnamed]
  have hself := kept_append_removed cfg (List.forall_mem_nil _)
  rw [List.append_nil] at hself
  rw [hrun]
  exact ⟨hself.1.trans hkept, hself.2⟩

/-- **The last run decides.** After any runs, one with remote logging leaves the local selectors
and a remote one for each of them; more such runs leave the same; and a run without remote logging
leaves the local selectors. -/
theorem remoteRight (R : Rounding) (sel : Selectors) (before : List Call) (u : Uci) (d : Defined)
    (hplain : d.Plain) (again : List Uci) :
    ((runConfigLog R u (d.system ['1']) (runAll R before sel.config)).raised = false ∧
      Remote d sel.config
        (runConfigLog R u (d.system ['1']) (runAll R before sel.config)).config) ∧
    Unchanged (runConfigLog R u (d.system ['1']) (runAll R before sel.config)).config
      (runAll R (again.map (fun v => ⟨v, d.system ['1']⟩))
        (runConfigLog R u (d.system ['1']) (runAll R before sel.config)).config) ∧
    OnlyLocal sel.config
      (runConfigLog R u (d.system ['0']) (runAll R before sel.config)).config := by
  obtain ⟨hkept, hnamed⟩ := runAll_kept R before sel.named
  obtain ⟨hraised, hremote⟩ := remote_run R sel u hplain hnamed hkept
  refine ⟨⟨hraised, hremote⟩, ?_, local_run R u d hnamed hkept⟩
  obtain ⟨-, hnamed'⟩ := runConfigLog_kept R u (d.system ['1']) hnamed
  rcases List.eq_nil_or_concat again with rfl | ⟨vs, v, rfl⟩
  · exact ⟨rfl, .refl _⟩
  · rw [List.concat_eq_append, List.map_append, List.map_singleton, runAll_concat]
    obtain ⟨hkept'', hnamed''⟩ :=
      runAll_kept R (vs.map (fun v => (⟨v, d.system ['1']⟩ : Call))) hnamed'
    obtain ⟨-, hagain⟩ := remote_run R sel v hplain hnamed'' (hkept''.trans hremote.kept)
    exact ⟨hagain.kept.trans hremote.kept.symm, hagain.remote.trans hremote.remote.symm⟩

/-- A name that is longer than all others. -/
def longerName (cfg : Config) : String :=
  String.ofList (List.replicate ((cfg.map (fun sec => sec.name.length)).sum + 1) 'x')

theorem find_longerName (cfg : Config) : find (longerName cfg) cfg = none := by
  rw [find_eq_none]
  intro sec hsec hname
  have hle : sec.name.length ≤ (cfg.map (fun sec => sec.name.length)).sum :=
    List.le_sum_of_mem (List.mem_map_of_mem hsec)
  rw [hname, longerName, String.length_ofList, List.length_replicate] at hle
  omega

/-- The sections one after the other, and a new name that is longer than theirs. -/
def inOrder : Uci := ⟨id, fun cfg => .refl cfg, longerName, find_longerName⟩

/-- A selector with the options. -/
def selector (name : String) (options : List (String × String)) : Selector :=
  ⟨name, "selector", writeOptions (options.map (fun o => (o.1, o.2.toList))) (fun _ => none)⟩

/-- A local selector, one of a host that was the remote one, and one without a destination. -/
def logConfig : Config :=
  [selector "messages" [("source", "*.info"), ("destination", "/var/log/messages")],
    selector "host" [("source", "*.info"), ("destination", "@@10.0.0.9:514")],
    selector "begun" [("source", "mail.*")]]

theorem logConfig_plain : ∀ sec ∈ logConfig, isLocal sec = true → ∀ source,
    sec.options "source" = some source → '\'' ∉ source ∧ '\\' ∉ source := by
  intro sec hsec _ source hsource
  have hall : logConfig.all (fun sec => (sec.options "source").all
      (fun t => !t.contains '\'' && !t.contains '\\')) = true := by decide +kernel
  have hplain := List.all_eq_true.mp hall sec hsec
  rw [hsource] at hplain
  simpa using hplain

def logSelectors : Selectors :=
  ⟨logConfig, by rw [Store.Named]; decide, logConfig_plain⟩

/-- The host `10.0.0.1`, or one with more characters in the address. -/
def logHost (rest : Text) : Defined :=
  ⟨"10.0.0.1".toList ++ rest, "514".toList, "udp".toList, "@".toList, rfl⟩

/-- A run with another host, and one with the current host after it. -/
def otherSent : Config := runAll Lua.unrounded [⟨inOrder, (logHost ['0']).system ['1']⟩] logConfig

def hostSent : Config :=
  (runConfigLog Lua.unrounded inOrder ((logHost []).system ['1']) otherSent).config

theorem logHost_plain : (logHost []).Plain := by
  intro c hc
  have hall : ((logHost []).ip ++ (logHost []).port).all
      (fun c => c != '\'' && (c != '"' && c != '\\')) = true := by decide +kernel
  simpa using List.all_eq_true.mp hall c hc

theorem remoteRight_logSelectors :
    Remote (logHost []) logConfig hostSent ∧
      Unchanged hostSent
        (runAll Lua.unrounded [⟨inOrder, (logHost []).system ['1']⟩] hostSent) ∧
      OnlyLocal logConfig
        (runConfigLog Lua.unrounded inOrder ((logHost []).system ['0']) otherSent).config := by
  obtain ⟨⟨-, hremote⟩, hunchanged, honly⟩ := remoteRight Lua.unrounded logSelectors
    [⟨inOrder, (logHost ['0']).system ['1']⟩] inOrder (logHost []) logHost_plain [inOrder]
  exact ⟨hremote, hunchanged, honly⟩

/-- An address with a quote or a backslash leaves a section without options. -/
theorem contents_of_special : ∀ c ∈ ['\'', '"', '\\'],
    (others (runConfigLog Lua.unrounded inOrder ((logHost [c]).system ['1']) logConfig).config).map
      contents = [(none, none)] := by
  intro c hc
  simp only [List.mem_cons, List.not_mem_nil, or_false] at hc
  rcases hc with rfl | rfl | rfl <;> decide +kernel

/-- **An address with a quote is not sent to.** -/
theorem quoted_address_not_sent :
    ¬ ∀ (R : Rounding) (sel : Selectors) (u : Uci) (d : Defined),
      Remote d sel.config (runConfigLog R u (d.system ['1']) sel.config).config := by
  intro h
  have hremote := (h Lua.unrounded logSelectors inOrder (logHost ['\''])).remote
  have hcontents := contents_of_special '\'' List.mem_cons_self
  have hempty := hcontents ▸ List.mem_singleton_self (none, none)
  obtain ⟨sec, -, heq⟩ := List.mem_map.mp (hremote.mem_iff.mp hempty)
  cases congrArg Prod.snd heq

end RemoteLog
