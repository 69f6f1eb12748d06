import TfPack.Lib.Machine
import TfPack.Lib.SectionStore

set_option autoImplicit false

/-! # Rules of the system log: `log_config.lua` and `log_module.lua`

A rule sends the messages of a filter to an action; filters, actions and rules are sections of the
configuration `log`, with a name as an option. `rule_handler` reads the rules into the table of the
filters, so it finds no rule, and makes a new section for each rule it is given, of type `action`.
Only commands that are refused leave the rules as they should be (`rulesRight_iff`).
-/

namespace Rsyslog

open SectionStore StepMachine

/-! ## Reading the configuration -/

/-- The configuration `log`. -/
abbrev Config := Store String String

/-- The options that are given on the command line. -/
abbrev ArgList := List (String × String)

/-- A table of sections by their option `name`. -/
abbrev ListConfig := List (String × String)

/-- `rule_paramList`. -/
def ruleParamList : List String := ["name", "filter", "action"]

/-- `log_getparam`: each parameter is taken from its place, when it has a value. -/
def logGetparam : List String → List String → ArgList
  | param :: params, key :: value :: args =>
      if key = param ∧ value ≠ "" then (param, value) :: logGetparam params args
      else logGetparam params args
  | _, _ => []

/-- `getFilter_list`, `getAction_list` and `getRules_list`: the sections of a type with a name. -/
def sectionList (type : String) (cfg : Config) : ListConfig :=
  cfg.filterMap (fun s =>
    if s.type = type then (s.options "name").map (fun name => (name, s.name)) else none)

/-- Reading a second type into the same table replaces the names it has too. -/
def getFilterList (cfg : Config) (listConfig : ListConfig) : ListConfig :=
  sectionList "filter" cfg ++ listConfig

def getActionList (cfg : Config) (listConfig : ListConfig) : ListConfig :=
  sectionList "action" cfg ++ listConfig

def getRulesList (cfg : Config) (listConfig : ListConfig) : ListConfig :=
  sectionList "rule" cfg ++ listConfig

/-! ## The rule commands -/

inductive Cmd
  | add | edit | delete
  deriving DecidableEq, Repr

/-- The errors that are printed, and an error of the script itself. -/
inductive Msg
  | filterNotFound (name : String)
  | actionNotFound (name : String)
  | mustBePresented
  | needParameter (name : String)
  | ruleNotPresented (name : String)
  | script
  deriving DecidableEq, Repr

/-- The values of the parameters that are given. -/
def valueList (args : ArgList) (params : List String) : ArgList :=
  params.filterMap (fun param => (args.lookup param).map (fun value => (param, value)))

/-- `log_rule_edit`. The section of a new rule is made with the command that makes an action; `new`
is the name that it is given. -/
def logRuleEdit (ruleArg : ArgList) (ruleListConfig : ListConfig) (isFind : Bool) (new : String)
    (cfg : Config) : Config × List Msg :=
  let name := (ruleArg.lookup "name").getD ""
  if isFind then
    match ruleListConfig.lookup name with
    | some id =>
        let values := valueList ruleArg ["filter", "action"]
        if values = [] then (cfg, [.needParameter name]) else (setAll id values cfg, [])
    | none => (cfg, [.script])
  else
    let cfg := SectionStore.add "action" new cfg
    let values := valueList ruleArg ["name", "filter", "action"]
    if values = [] then (cfg, [.needParameter ""]) else (setAll new values cfg, [])

/-- The error of a parameter that is given and that its table does not have. -/
def optionError (value : Option String) (listConfig : ListConfig) (msg : String → Msg) : List Msg :=
  match value with
  | some name => if (listConfig.lookup name).isSome then [] else [msg name]
  | none => []

/-- `log_find_byName`. -/
def logFindByName (name : Option String) (listConfig : ListConfig) : Bool :=
  match name with
  | some name => (listConfig.lookup name).isSome
  | none => false

/-- `rule_handler` for `add` and `edit`. -/
def ruleSave (ruleArg : ArgList) (filterListConfig actionListConfig ruleListConfig : ListConfig)
    (new : String) (cfg : Config) : Config × List Msg :=
  let filterError := optionError (ruleArg.lookup "filter") filterListConfig .filterNotFound
  let actionError := optionError (ruleArg.lookup "action") actionListConfig .actionNotFound
  if (ruleArg.lookup "filter").isNone && (ruleArg.lookup "action").isNone then
    (cfg, [.mustBePresented])
  else if filterError ++ actionError = [] then
    logRuleEdit ruleArg ruleListConfig (logFindByName (ruleArg.lookup "name") ruleListConfig) new
      cfg
  else (cfg, filterError ++ actionError)

/-- `rule_handler` for `delete`. -/
def ruleDelete (ruleArg : ArgList) (ruleListConfig : ListConfig) (cfg : Config) :
    Config × List Msg :=
  match ruleArg.lookup "name" with
  | none => (cfg, [.script])
  | some name =>
      match ruleListConfig.lookup name with
      | some id => (SectionStore.delete id cfg, [])
      | none => (cfg, [.ruleNotPresented name])

/-- `rule_handler`. The rules are read into the table of the filters, and their own stays empty. -/
def ruleHandler (cmd : Cmd) (args : List String) (new : String) (cfg : Config) :
    Config × List Msg :=
  let ruleArg := logGetparam ruleParamList args
  let filterListConfig := getRulesList cfg []
  let ruleListConfig : ListConfig := []
  match cmd with
  | .delete => ruleDelete ruleArg ruleListConfig cfg
  | _ =>
      ruleSave ruleArg (getFilterList cfg filterListConfig) (getActionList cfg []) ruleListConfig
        new cfg

/-! ## What a command does -/

/-- The section is one of a type and has the name as its option. -/
def Called (sec : Section String String) (type name : String) : Prop :=
  sec.type = type ∧ sec.options "name" = some name

/-- There is a section of the type with the name. -/
def Has (cfg : Config) (type name : String) : Prop := ∃ sec ∈ cfg, Called sec type name

/-- A name is in the table of a type when a section of the type has it. -/
theorem lookup_sectionList {type : String} {cfg : Config} {name : String} :
    ((sectionList type cfg).lookup name).isSome ↔ Has cfg type name := by
  rw [List.lookup_isSome_iff]
  constructor
  · rintro ⟨p, hp, hname⟩
    obtain ⟨sec, hsec, hsome⟩ := List.mem_filterMap.mp hp
    split at hsome
    · next htype =>
        obtain ⟨n, hn, rfl⟩ := Option.map_eq_some_iff.mp hsome
        exact ⟨sec, hsec, htype, (beq_iff_eq.mp hname) ▸ hn⟩
    · cases hsome
  · rintro ⟨sec, hsec, htype, hname⟩
    refine ⟨(name, sec.name), List.mem_filterMap.mpr ⟨sec, hsec, ?_⟩, beq_self_eq_true name⟩
    rw [if_pos htype, hname, Option.map_some]

/-- **The filter is taken for one**: a filter has the name, or a rule. -/
theorem filter_found_iff {cfg : Config} {name : String} :
    ((getFilterList cfg (getRulesList cfg [])).lookup name).isSome ↔
      Has cfg "filter" name ∨ Has cfg "rule" name := by
  rw [getFilterList, getRulesList, List.append_nil, List.lookup_append, Option.isSome_or,
    Bool.or_eq_true, lookup_sectionList, lookup_sectionList]

theorem action_found_iff {cfg : Config} {name : String} :
    ((getActionList cfg []).lookup name).isSome ↔ Has cfg "action" name := by
  rw [getActionList, List.append_nil, lookup_sectionList]

/-- **An add or edit is refused**: it has neither a filter nor an action, or one of the two is not
found. -/
def Refused (cfg : Config) (ruleArg : ArgList) : Prop :=
  (ruleArg.lookup "filter" = none ∧ ruleArg.lookup "action" = none) ∨
  (∃ filter, ruleArg.lookup "filter" = some filter ∧
    ¬(Has cfg "filter" filter ∨ Has cfg "rule" filter)) ∨
  ∃ action, ruleArg.lookup "action" = some action ∧ ¬ Has cfg "action" action

theorem optionError_eq_nil {value : Option String} {listConfig : ListConfig}
    {msg : String → Msg} : optionError value listConfig msg = [] ↔
      ∀ name, value = some name → (listConfig.lookup name).isSome = true := by
  cases value with
  | none => exact iff_of_true rfl (fun name h => by cases h)
  | some name =>
      rw [optionError]
      by_cases hfound : (listConfig.lookup name).isSome = true
      · rw [if_pos hfound]
        exact iff_of_true rfl (fun n h => Option.some.inj h ▸ hfound)
      · rw [if_neg hfound]
        exact iff_of_false (List.cons_ne_nil _ _) (fun h => hfound (h name rfl))

/-- The values of a command that is not refused. -/
theorem valueList_ne_nil {ruleArg : ArgList}
    (h : ¬(ruleArg.lookup "filter" = none ∧ ruleArg.lookup "action" = none)) :
    valueList ruleArg ["name", "filter", "action"] ≠ [] := by
  intro hnil
  rw [valueList, List.filterMap_eq_nil_iff] at hnil
  have hfilter := hnil "filter" (by simp)
  have haction := hnil "action" (by simp)
  rw [Option.map_eq_none_iff] at hfilter haction
  exact h ⟨hfilter, haction⟩

theorem logFindByName_nil (name : Option String) : logFindByName name [] = false := by
  cases name <;> rfl

/-- The tables of the two options have what is given exactly when the command is not refused. -/
theorem refused_iff (cfg : Config) (ruleArg : ArgList) : Refused cfg ruleArg ↔
    (ruleArg.lookup "filter" = none ∧ ruleArg.lookup "action" = none) ∨
    optionError (ruleArg.lookup "filter") (getFilterList cfg (getRulesList cfg []))
        .filterNotFound ++
      optionError (ruleArg.lookup "action") (getActionList cfg []) .actionNotFound ≠ [] := by
  rw [Refused, Ne, List.append_eq_nil_iff, optionError_eq_nil, optionError_eq_nil,
    not_and_or]
  simp only [filter_found_iff, action_found_iff]
  push Not
  rfl

/-- **What an add or an edit does**: nothing when it is refused, else a new section is made. -/
theorem ruleSave_cases (ruleArg : ArgList) (new : String) (cfg : Config) :
    let r := ruleSave ruleArg (getFilterList cfg (getRulesList cfg [])) (getActionList cfg []) []
      new cfg
    (Refused cfg ruleArg → r.1 = cfg ∧ r.2 ≠ []) ∧
    (¬ Refused cfg ruleArg → r = (setAll new (valueList ruleArg ["name", "filter", "action"])
      (SectionStore.add "action" new cfg), [])) := by
  intro r
  by_cases hneither : ruleArg.lookup "filter" = none ∧ ruleArg.lookup "action" = none
  · have hr : r = (cfg, [.mustBePresented]) := by
      have hnone : ((ruleArg.lookup "filter").isNone && (ruleArg.lookup "action").isNone) = true := by
        rw [hneither.1, hneither.2]
        rfl
      exact if_pos hnone
    rw [hr]
    exact ⟨fun _ => ⟨rfl, List.cons_ne_nil _ _⟩, fun hno => absurd (.inl hneither) hno⟩
  · have hgiven : ¬((ruleArg.lookup "filter").isNone && (ruleArg.lookup "action").isNone) = true := by
      rwa [Bool.and_eq_true, Option.isNone_iff_eq_none, Option.isNone_iff_eq_none]
    have hrefused := refused_iff cfg ruleArg
    by_cases herror : optionError (ruleArg.lookup "filter")
        (getFilterList cfg (getRulesList cfg [])) .filterNotFound ++
      optionError (ruleArg.lookup "action") (getActionList cfg []) .actionNotFound = []
    · have hr : r = logRuleEdit ruleArg [] false new cfg := by
        refine (if_neg hgiven).trans ((if_pos herror).trans ?_)
        rw [logFindByName_nil]
      have hedit : logRuleEdit ruleArg [] false new cfg =
          (setAll new (valueList ruleArg ["name", "filter", "action"])
            (SectionStore.add "action" new cfg), []) := by
        rw [logRuleEdit, if_neg Bool.false_ne_true]
        exact if_neg (valueList_ne_nil hneither)
      rw [hr, hedit]
      refine ⟨fun href => ?_, fun _ => rfl⟩
      rcases hrefused.mp href with hnone | hne
      · exact absurd hnone hneither
      · exact absurd herror hne
    · have hr : r = (cfg, _) := (if_neg hgiven).trans (if_neg herror)
      rw [hr]
      exact ⟨fun _ => ⟨rfl, herror⟩, fun hno => absurd (hrefused.mpr (.inr herror)) hno⟩

/-! ## Runs -/

/-- A rule command, and the name that `uci` gives to a section made by it. -/
structure RuleCommand where
  cmd : Cmd
  args : List String
  new : String

def RuleCommand.arg (c : RuleCommand) : ArgList := logGetparam ruleParamList c.args

/-- The result of a command: the configuration and the errors. -/
def RuleCommand.run (c : RuleCommand) (cfg : Config) : Config × List Msg :=
  ruleHandler c.cmd c.args c.new cfg

/-- The commands one after the other; the name of a new section is not taken. -/
def ruleMachine : Machine Config RuleCommand Empty where
  step cfg c := if (find c.new cfg).isNone then some ((c.run cfg).1, []) else none

/-- **Each rule name is that of one section.** -/
def AtMostOne (cfg : Config) : Prop :=
  ∀ name, ∀ s ∈ cfg, ∀ t ∈ cfg, Called s "rule" name → Called t "rule" name → s = t

/-- A rule is saved as it should be. -/
structure Saved (ruleArg : ArgList) (cfg cfg' : Config) : Prop where
  /-- A section that is made is a rule. -/
  made : ∀ sec ∈ cfg', find sec.name cfg = none → sec.type = "rule"
  filter : ∀ name, ruleArg.lookup "filter" = some name → Has cfg "filter" name
  action : ∀ name, ruleArg.lookup "action" = some name → Has cfg "action" name
  /-- A rule that has the name already is the one that gets the options. -/
  updated : ∀ name, ruleArg.lookup "name" = some name → ∀ old ∈ cfg, Called old "rule" name →
    cfg'.map Section.name = cfg.map Section.name ∧ ∃ sec ∈ cfg', sec.name = old.name ∧
      Called sec "rule" name ∧
        ∀ o ∈ valueList ruleArg ["filter", "action"], sec.options o.1 = some o.2

/-- **A command does what it says**: an add or edit that reports no error saves the rule, and a
delete removes the rule of its name without an error. -/
def RuleRight (cfg : Config) (c : RuleCommand) : Prop :=
  match c.cmd with
  | .delete => ∀ name, c.arg.lookup "name" = some name → Has cfg "rule" name →
      (c.run cfg).2 = [] ∧ ¬ Has (c.run cfg).1 "rule" name
  | _ => (c.run cfg).2 = [] → Saved c.arg cfg (c.run cfg).1

/-- The command is refused, or is the delete of a rule that is not there. -/
def Idle (cfg : Config) (c : RuleCommand) : Prop :=
  match c.cmd with
  | .delete => ∀ name, c.arg.lookup "name" = some name → ¬ Has cfg "rule" name
  | _ => Refused cfg c.arg

/-- A delete leaves the configuration, and always with an error. -/
theorem run_delete {c : RuleCommand} (hcmd : c.cmd = .delete) (cfg : Config) :
    (c.run cfg).1 = cfg ∧ (c.run cfg).2 ≠ [] := by
  have hrun : c.run cfg = ruleDelete (logGetparam ruleParamList c.args) [] cfg := by
    rw [RuleCommand.run, hcmd]
    rfl
  rw [hrun, ruleDelete]
  cases (logGetparam ruleParamList c.args).lookup "name" with
  | none => exact ⟨rfl, List.cons_ne_nil _ _⟩
  | some name => exact ⟨rfl, List.cons_ne_nil _ _⟩

/-- An add or edit does nothing when it is refused, else it makes an action of the rule. -/
theorem run_save {c : RuleCommand} (hcmd : c.cmd ≠ .delete) (cfg : Config) :
    (Refused cfg c.arg → (c.run cfg).1 = cfg ∧ (c.run cfg).2 ≠ []) ∧
    (¬ Refused cfg c.arg → c.run cfg =
      (setAll c.new (valueList c.arg ["name", "filter", "action"])
        (SectionStore.add "action" c.new cfg), [])) := by
  have hcases := ruleSave_cases c.arg c.new cfg
  have hrun : c.run cfg = ruleSave c.arg (getFilterList cfg (getRulesList cfg []))
      (getActionList cfg []) [] c.new cfg := by
    rw [RuleCommand.run]
    cases hc : c.cmd with
    | delete => exact absurd hc hcmd
    | add => rfl
    | edit => rfl
  rw [hrun]
  exact hcases

theorem action_ne_rule : "action" ≠ "rule" := by decide

/-- One command does what it says exactly when there is nothing for it to do. -/
theorem ruleRight_iff_idle {cfg : Config} {c : RuleCommand} (hnew : find c.new cfg = none) :
    RuleRight cfg c ↔ Idle cfg c := by
  have hsave : c.cmd ≠ .delete →
      (((c.run cfg).2 = [] → Saved c.arg cfg (c.run cfg).1) ↔ Refused cfg c.arg) := by
    intro hcmd
    obtain ⟨hrefused, haccepted⟩ := run_save hcmd cfg
    by_cases href : Refused cfg c.arg
    · exact iff_of_true (fun hnil => absurd hnil (hrefused href).2) href
    · refine iff_of_false (fun hsaved => ?_) href
      rw [haccepted href] at hsaved
      have hfind := find_setAll_add "action" c.new
        (valueList c.arg ["name", "filter", "action"]) cfg c.new
      rw [if_pos rfl] at hfind
      -- the new section is an action
      have htype := (hsaved rfl).made _ (mem_of_find hfind) hnew
      exact action_ne_rule htype
  rw [RuleRight, Idle]
  cases hcmd : c.cmd with
  | delete =>
      obtain ⟨hsame, herror⟩ := run_delete hcmd cfg
      refine forall_congr' fun name => forall_congr' fun _ =>
        ⟨fun hright hhas => ?_, fun hno hhas => ?_⟩
      · exact herror (hright hhas).1
      · exact absurd hhas hno
  | add => exact hsave (by rw [hcmd]; decide)
  | edit => exact hsave (by rw [hcmd]; decide)

/-- No command makes or changes a section of type `rule`. -/
theorem atMostOne_run {cfg : Config} (hnamed : Store.Named cfg) (h : AtMostOne cfg)
    (c : RuleCommand) : Store.Named (c.run cfg).1 ∧ AtMostOne (c.run cfg).1 := by
  by_cases hcmd : c.cmd = .delete
  · rw [(run_delete hcmd cfg).1]
    exact ⟨hnamed, h⟩
  · obtain ⟨hrefused, haccepted⟩ := run_save hcmd cfg
    by_cases href : Refused cfg c.arg
    · rw [(hrefused href).1]
      exact ⟨hnamed, h⟩
    · rw [haccepted href]
      have hnamed' : Store.Named (setAll c.new (valueList c.arg ["name", "filter", "action"])
          (SectionStore.add "action" c.new cfg)) := named_setAll (named_add hnamed)
      refine ⟨hnamed', ?_⟩
      have hold : ∀ s ∈ setAll c.new (valueList c.arg ["name", "filter", "action"])
          (SectionStore.add "action" c.new cfg), ∀ name, Called s "rule" name → s ∈ cfg := by
        rintro s hs name ⟨htype, -⟩
        have hfind := find_of_mem hnamed' hs
        rw [find_setAll_add] at hfind
        by_cases hname : s.name = c.new
        · rw [if_pos hname, Option.some.injEq] at hfind
          rw [← hfind] at htype
          exact absurd htype action_ne_rule
        · rw [if_neg hname] at hfind
          exact mem_of_find hfind
      exact fun name s hs t ht hcalled hcalled' =>
        h name s (hold s hs name hcalled) t (hold t ht name hcalled') hcalled hcalled'

/-- **In every run the rules are as they should be exactly when every add and edit is refused and
every delete is of a rule that is not there.** -/
theorem rulesRight_iff {cfg₀ cfg : Config} (hnamed : Store.Named cfg₀) (hone : AtMostOne cfg₀)
    {vs : List (Visit Config RuleCommand Empty)} {tr : List Empty}
    (h : Exec ruleMachine cfg₀ vs tr cfg) :
    ((∀ v ∈ vs, AtMostOne v.state ∧ RuleRight v.state v.act) ∧ AtMostOne cfg) ↔
      ∀ v ∈ vs, Idle v.state v.act := by
  have hsteps : ∀ s (c : RuleCommand) s' evs, ruleMachine.step s c = some (s', evs) →
      find c.new s = none ∧ s' = (c.run s).1 := by
    intro s c s' evs hstep
    simp only [ruleMachine, Option.ite_none_right_eq_some] at hstep
    exact ⟨Option.isNone_iff_eq_none.mp hstep.1,
      (Prod.mk.inj (Option.some.inj hstep.2)).1.symm⟩
  have hgood := (h.inv_iff (fun s _ => Store.Named s ∧ AtMostOne s) (fun _ => True)
    ⟨hnamed, hone⟩ (by
      rintro s tr c s' evs ⟨hn, ho⟩ hstep
      obtain ⟨-, rfl⟩ := hsteps s c s' evs hstep
      exact iff_of_true (atMostOne_run hn ho c) trivial)).mpr (fun _ _ => trivial)
  constructor
  · intro hall v hv
    obtain ⟨s', evs, hstep, -⟩ := h.visit_step v hv
    exact (ruleRight_iff_idle (hsteps _ _ _ _ hstep).1).mp (hall.1 v hv).2
  · intro hidle
    refine ⟨fun v hv => ⟨(hgood.1 v hv).2, ?_⟩, hgood.2.2⟩
    obtain ⟨s', evs, hstep, -⟩ := h.visit_step v hv
    exact (ruleRight_iff_idle (hsteps _ _ _ _ hstep).1).mpr (hidle v hv)

/-- A filter and an action. -/
def mailConfig : Config :=
  setAll "cfg02" [("name", "send_mail"), ("action", "email")] (SectionStore.add "action" "cfg02"
    (setAll "cfg01" [("name", "port_filter"), ("content", "port")]
      (SectionStore.add "filter" "cfg01" [])))

theorem mailConfig_named : Store.Named mailConfig :=
  named_setAll (named_add (named_setAll (named_add List.nodup_nil)))

theorem mailConfig_atMostOne : AtMostOne mailConfig := by
  intro name s hs t ht hcalled
  have hnone : mailConfig.all (fun sec => sec.type != "rule") = true := by decide +kernel
  have hne := List.all_eq_true.mp hnone s hs
  rw [hcalled.1] at hne
  cases hne

/-- A rule with a filter that is not there. -/
def addUnfiltered : RuleCommand :=
  ⟨.add, ["name", "mails", "filter", "all", "action", "send_mail"], "cfg03"⟩

/-- A rule with a filter and an action that are. -/
def addMails : RuleCommand :=
  ⟨.add, ["name", "mails", "filter", "port_filter", "action", "send_mail"], "cfg03"⟩

theorem rulesRight_iff_addUnfiltered : ∃ vs tr cfg, Exec ruleMachine mailConfig vs tr cfg ∧
    vs.map (fun v => v.act) = [addUnfiltered] ∧
    (∀ v ∈ vs, AtMostOne v.state ∧ RuleRight v.state v.act) ∧ AtMostOne cfg := by
  have hrun : Exec ruleMachine mailConfig _ _ _ :=
    (Exec.empty ruleMachine mailConfig).snoc (a := addUnfiltered) rfl
  refine ⟨_, _, _, hrun, rfl, (rulesRight_iff mailConfig_named mailConfig_atMostOne hrun).mpr ?_⟩
  intro v hv
  obtain rfl := List.mem_singleton.mp hv
  have hno : ∀ type, type = "filter" ∨ type = "rule" → ¬ Has mailConfig type "all" := by
    intro type htype ⟨sec, hsec, hcalled⟩
    have hnone : mailConfig.all (fun sec => sec.options "name" != some "all") = true := by
      decide +kernel
    have hne := List.all_eq_true.mp hnone sec hsec
    rw [hcalled.2] at hne
    simp at hne
  refine .inr (.inl ⟨"all", by decide +kernel, ?_⟩)
  rintro (hhas | hhas)
  · exact hno "filter" (.inl rfl) hhas
  · exact hno "rule" (.inr rfl) hhas

/-- **A rule that is added becomes an action.** -/
theorem addMails_not_right :
    ¬ ∀ (cfg₀ cfg : Config) (vs : List (Visit Config RuleCommand Empty)) (tr : List Empty),
      Store.Named cfg₀ → AtMostOne cfg₀ → Exec ruleMachine cfg₀ vs tr cfg →
      (∀ v ∈ vs, AtMostOne v.state ∧ RuleRight v.state v.act) ∧ AtMostOne cfg := by
  intro h
  have hrun : Exec ruleMachine mailConfig _ _ _ :=
    (Exec.empty ruleMachine mailConfig).snoc (a := addMails) rfl
  obtain ⟨hall, -⟩ := h _ _ _ _ mailConfig_named mailConfig_atMostOne hrun
  have hright := (hall _ List.mem_cons_self).2
  have hnil : (addMails.run mailConfig).2 = [] := by decide +kernel
  have hmade := (hright hnil).made
  have haction : (addMails.run mailConfig).1.any (fun sec =>
      sec.type == "action" && (find sec.name mailConfig).isNone) = true := by decide +kernel
  obtain ⟨sec, hsec, hnew⟩ := List.any_eq_true.mp haction
  rw [Bool.and_eq_true, beq_iff_eq, Option.isNone_iff_eq_none] at hnew
  have htype := hmade sec hsec hnew.2
  rw [hnew.1] at htype
  exact absurd htype (by decide)

end Rsyslog
