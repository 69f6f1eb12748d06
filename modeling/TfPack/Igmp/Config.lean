import Mathlib.Logic.Function.Basic
import TfPack.Lib.Machine

set_option autoImplicit false

/-! # IGMP snooping: `igmp_config.lua`

The settings are options of the section `switch` of the network configuration, the intervals in
hundredths of a second. The response interval is checked against the query interval when it is set;
nothing is checked when the query interval is set, and zero passes the check (`responds_iff`).
-/

namespace Igmp

open StepMachine

/-! ## Commands -/

/-- `igmp_module.option`, and the commands of the same places. -/
inductive IgmpOption
  | igmp_snooping | hash_max | multicast_querier | robustness | query_interval
  | query_response_interval | last_member_interval
  deriving DecidableEq, Repr

open IgmpOption

def optionList : List IgmpOption :=
  [igmp_snooping, hash_max, multicast_querier, robustness, query_interval, query_response_interval,
    last_member_interval]

/-- The options of the section `switch` that are set. -/
abbrev Switch := IgmpOption → Option Nat

/-- The switch after a command, and the error that is written. -/
abbrev Result := Switch × Option String

/-- `uci:set`. -/
def uciSet (option : IgmpOption) (value : Nat) (cfg : Switch) : Switch :=
  Function.update cfg option (some value)

/-- `uci_delete` of the options of the places `start` to the last one. -/
def uciDelete (start : Nat) (cfg : Switch) : Switch :=
  (optionList.drop (start - 1)).foldl (fun cfg option => Function.update cfg option none) cfg

/-- `canti_sec`. -/
def cantiSec : Nat := 100

/-- What `getIgmpSatus` makes of an option. -/
inductive Status
  | notdef
  | zero
  | value (n : Nat)

def getIgmpSatus (option : IgmpOption) (cfg : Switch) : Status :=
  match cfg option with
  | none => .notdef
  | some 0 => .zero
  | some n => .value n

/-- A number of hundredths in seconds, as Lua writes it. -/
def seconds (n : Nat) : String :=
  toString (n / cantiSec) ++
    (if n % cantiSec = 0 then ""
    else if n % 10 = 0 then "." ++ toString (n % cantiSec / 10)
    else if n % cantiSec < 10 then ".0" ++ toString (n % cantiSec)
    else "." ++ toString (n % cantiSec))

/-- `igmp_config_State` and `igmp_config_Enable_multicast_querier`: 1 sets the option, and 0 deletes
it with those after it. -/
def configSwitch (option : IgmpOption) (start stateValue : Nat) (cfg : Switch) : Result :=
  match stateValue with
  | 1 => (uciSet option 1 cfg, none)
  | 0 => (uciDelete start cfg, none)
  | _ => (cfg, none)

def igmpConfigState := configSwitch igmp_snooping 1
def igmpConfigEnableMulticastQuerier := configSwitch multicast_querier 3

/-- A value that must be in a range, written in a unit. -/
def configRange (min max unit : Nat) (error : String) (option : IgmpOption) (value : Nat)
    (cfg : Switch) : Result :=
  if value < min ∨ max < value then (cfg, some error) else (uciSet option (value * unit) cfg, none)

def igmpConfigMaxSnoopingTableSize :=
  configRange 1 1024 1 "error: max snooping table size must be in range 1 - 1024" hash_max
def igmpConfigRobustness :=
  configRange 2 255 1 "error: robustness count must be in range 2 - 255" robustness
def igmpConfigQueryInterval :=
  configRange 60 600 cantiSec "error: query interval must be in range 60 - 600 sec" query_interval
/-- The error is that of the table size. -/
def igmpConfigLastMemberInterval :=
  configRange 1 25 cantiSec "error: max snooping table size must be in range 1 - 1024"
    last_member_interval

/-- `igmp_config_Query_response_interval`. -/
def igmpConfigQueryResponseInterval (value : Nat) (cfg : Switch) : Result :=
  match getIgmpSatus query_interval cfg with
  | .notdef => (cfg, some "error: Query Response Interval must be set after Query Interval")
  | .zero =>
      (cfg, some "error: Query Response Interval must be lower than the query interval value")
  | .value n =>
      -- `value >= n / 100` with the division of real numbers
      if n ≤ value * cantiSec then
        (cfg, some ("error: the Query Response Interval must be lower than the query interval " ++
          "value: " ++ seconds n))
      else (uciSet query_response_interval (value * cantiSec) cfg, none)

/-- `config_igmp`: the command of a place with its number. -/
def configIgmp : IgmpOption → Nat → Switch → Result
  | igmp_snooping => igmpConfigState
  | hash_max => igmpConfigMaxSnoopingTableSize
  | multicast_querier => igmpConfigEnableMulticastQuerier
  | robustness => igmpConfigRobustness
  | query_interval => igmpConfigQueryInterval
  | query_response_interval => igmpConfigQueryResponseInterval
  | last_member_interval => igmpConfigLastMemberInterval

/-! ## The two intervals -/

/-- **The response interval is below the query interval.** -/
def Responds (cfg : Switch) : Prop :=
  ∀ response, cfg query_response_interval = some response →
    ∃ query, cfg query_interval = some query ∧ 0 < response ∧ response < query

/-- A command sets a query interval that is not above the response interval, or a response interval
of zero. -/
def Breaks (cfg : Switch) : IgmpOption × Nat → Prop
  | (query_interval, value) =>
      60 ≤ value ∧ value ≤ 600 ∧
        ∃ response, cfg query_response_interval = some response ∧ value * cantiSec ≤ response
  | (query_response_interval, value) =>
      value = 0 ∧ ∃ query, cfg query_interval = some query ∧ 0 < query
  | _ => False

/-- A command that leaves the two intervals keeps them so. -/
theorem responds_congr {cfg cfg' : Switch}
    (hquery : cfg' query_interval = cfg query_interval)
    (hresponse : cfg' query_response_interval = cfg query_response_interval) :
    Responds cfg' ↔ Responds cfg := by
  rw [Responds, Responds, hquery, hresponse]

theorem responds_of_none {cfg : Switch} (h : cfg query_response_interval = none) :
    Responds cfg := by
  intro response hresponse
  rw [h] at hresponse
  cases hresponse

/-- Setting another option. -/
theorem responds_uciSet {option : IgmpOption} (hquery : option ≠ query_interval)
    (hresponse : option ≠ query_response_interval) (value : Nat) {cfg : Switch}
    (h : Responds cfg) : Responds (uciSet option value cfg) :=
  (responds_congr (Function.update_of_ne hquery.symm _ _)
    (Function.update_of_ne hresponse.symm _ _)).mpr h

theorem responds_configRange {min max unit : Nat} {error : String} {option : IgmpOption}
    (hquery : option ≠ query_interval) (hresponse : option ≠ query_response_interval) (value : Nat)
    {cfg : Switch} (h : Responds cfg) :
    Responds (configRange min max unit error option value cfg).1 := by
  rw [configRange]
  split
  · exact h
  · exact responds_uciSet hquery hresponse _ h

/-- Both deletions take the response interval with them. -/
theorem responds_configSwitch {option : IgmpOption} {start : Nat} (hstart : start ≤ 3)
    (hquery : option ≠ query_interval) (hresponse : option ≠ query_response_interval) (value : Nat)
    {cfg : Switch} (h : Responds cfg) : Responds (configSwitch option start value cfg).1 := by
  rcases value with _ | _ | n
  · apply responds_of_none
    obtain rfl | rfl | rfl | rfl : start = 0 ∨ start = 1 ∨ start = 2 ∨ start = 3 := by omega
    all_goals rfl
  · exact responds_uciSet hquery hresponse 1 h
  · exact h

/-- A new query interval must be above the response interval that is set. -/
theorem responds_queryInterval {cfg : Switch} (h : Responds cfg) (value : Nat) :
    Responds (igmpConfigQueryInterval value cfg).1 ↔ ¬ Breaks cfg (query_interval, value) := by
  rw [igmpConfigQueryInterval, configRange]
  by_cases hrange : value < 60 ∨ 600 < value
  · rw [if_pos hrange]
    refine iff_of_true h ?_
    rintro ⟨hmin, hmax, -⟩
    omega
  · rw [if_neg hrange]
    dsimp only
    have hquery : uciSet query_interval (value * cantiSec) cfg query_interval =
        some (value * cantiSec) := Function.update_self _ _ _
    have hresponse : uciSet query_interval (value * cantiSec) cfg query_response_interval =
        cfg query_response_interval := Function.update_of_ne (by decide) _ _
    constructor
    · rintro hresponds ⟨-, -, response, hset, hle⟩
      obtain ⟨query, hq, -, hlt⟩ := hresponds response (hresponse.trans hset)
      rw [hquery, Option.some.injEq] at hq
      omega
    · intro hbreaks response hset
      rw [hresponse] at hset
      obtain ⟨-, -, hpos, -⟩ := h response hset
      refine ⟨_, hquery, hpos, ?_⟩
      by_contra hge
      exact hbreaks ⟨by omega, by omega, response, hset, by omega⟩

/-- A response interval that passes the check is below the query interval, and may be zero. -/
theorem responds_queryResponseInterval {cfg : Switch} (h : Responds cfg) (value : Nat) :
    Responds (igmpConfigQueryResponseInterval value cfg).1 ↔
      ¬ Breaks cfg (query_response_interval, value) := by
  rw [igmpConfigQueryResponseInterval]
  cases hset : cfg query_interval with
  | none =>
      have hstatus : getIgmpSatus query_interval cfg = .notdef := by rw [getIgmpSatus, hset]
      rw [hstatus]
      refine iff_of_true h ?_
      rintro ⟨-, query, hq, -⟩
      rw [hset] at hq
      cases hq
  | some n =>
      cases n with
      | zero =>
          have hstatus : getIgmpSatus query_interval cfg = .zero := by
            rw [getIgmpSatus, hset]
            rfl
          rw [hstatus]
          refine iff_of_true h ?_
          rintro ⟨-, query, hq, hpos⟩
          rw [hset, Option.some.injEq] at hq
          omega
      | succ n =>
          have hstatus : getIgmpSatus query_interval cfg = .value (n + 1) := by
            rw [getIgmpSatus, hset]
            rfl
          rw [hstatus]
          dsimp only
          by_cases hle : n + 1 ≤ value * cantiSec
          · rw [if_pos hle]
            refine iff_of_true h ?_
            rintro ⟨rfl, -⟩
            omega
          · rw [if_neg hle]
            dsimp only
            have hquery : uciSet query_response_interval (value * cantiSec) cfg query_interval =
                some (n + 1) := (Function.update_of_ne (by decide) _ _).trans hset
            have hresponse : uciSet query_response_interval (value * cantiSec) cfg
                query_response_interval = some (value * cantiSec) := Function.update_self _ _ _
            have hunit : 0 < value * cantiSec ↔ value ≠ 0 := by
              rw [cantiSec]
              omega
            constructor
            · rintro hresponds ⟨hzero, -⟩
              obtain ⟨query, -, hpos, -⟩ := hresponds _ hresponse
              exact hunit.mp hpos hzero
            · intro hbreaks response hset'
              rw [hresponse, Option.some.injEq] at hset'
              subst hset'
              refine ⟨n + 1, hquery, hunit.mpr fun hzero => ?_, by omega⟩
              exact hbreaks ⟨hzero, n + 1, hset, Nat.succ_pos n⟩

/-- **One command keeps the response interval below exactly when it does not break it.** -/
theorem responds_configIgmp {cfg : Switch} (h : Responds cfg) (option : IgmpOption) (value : Nat) :
    Responds (configIgmp option value cfg).1 ↔ ¬ Breaks cfg (option, value) := by
  cases option with
  | query_interval => exact responds_queryInterval h value
  | query_response_interval => exact responds_queryResponseInterval h value
  | igmp_snooping =>
      exact iff_of_true (responds_configSwitch (by decide) (by decide) (by decide) value h) id
  | multicast_querier =>
      exact iff_of_true (responds_configSwitch (by decide) (by decide) (by decide) value h) id
  | hash_max => exact iff_of_true (responds_configRange (by decide) (by decide) value h) id
  | robustness => exact iff_of_true (responds_configRange (by decide) (by decide) value h) id
  | last_member_interval =>
      exact iff_of_true (responds_configRange (by decide) (by decide) value h) id

/-! ## Runs -/

/-- The commands one after the other. -/
def igmpMachine : Machine Switch (IgmpOption × Nat) String where
  step cfg c := some ((configIgmp c.1 c.2 cfg).1, (configIgmp c.1 c.2 cfg).2.toList)

/-- **In every run the response interval stays below the query interval exactly when no command
breaks it.** -/
theorem responds_iff {cfg₀ cfg : Switch} (h₀ : Responds cfg₀)
    {vs : List (Visit Switch (IgmpOption × Nat) String)} {tr : List String}
    (h : Exec igmpMachine cfg₀ vs tr cfg) :
    ((∀ v ∈ vs, Responds v.state) ∧ Responds cfg) ↔ ∀ v ∈ vs, ¬ Breaks v.state v.act := by
  refine h.inv_iff (fun cfg _ => Responds cfg) (fun v => ¬ Breaks v.state v.act) h₀ ?_
  rintro cfg tr ⟨option, value⟩ cfg' evs hresponds hstep
  obtain ⟨rfl, -⟩ := Prod.mk.inj (Option.some.inj hstep)
  exact responds_configIgmp hresponds option value

/-- The switch without settings. -/
def unset : Switch := fun _ => none

theorem unset_responds : Responds unset := responds_of_none rfl

theorem responds_iff_raised : ∃ vs tr cfg, Exec igmpMachine unset vs tr cfg ∧
    vs.map (fun v => v.act) = [(query_interval, 60), (query_response_interval, 59)] ∧
    (∀ v ∈ vs, Responds v.state) ∧ Responds cfg := by
  have hrun : Exec igmpMachine unset _ _ _ := (Exec.empty igmpMachine unset).snoc
    (a := (query_interval, 60)) rfl |>.snoc (a := (query_response_interval, 59)) rfl
  refine ⟨_, _, _, hrun, rfl, (responds_iff unset_responds hrun).mpr ?_⟩
  intro v hv
  rcases List.mem_append.mp hv with hv | hv <;> obtain rfl := List.mem_singleton.mp hv
  · rintro ⟨-, -, response, hset, -⟩
    cases hset
  · rintro ⟨hzero, -⟩
    cases hzero

/-- **A query interval of 60 s is accepted below a response interval of 100 s.** -/
theorem lowered_not_responds :
    ¬ ∀ (cfg₀ cfg : Switch) (vs : List (Visit Switch (IgmpOption × Nat) String))
      (tr : List String), Responds cfg₀ → Exec igmpMachine cfg₀ vs tr cfg → Responds cfg := by
  intro h
  have hrun : Exec igmpMachine unset _ _ _ := (Exec.empty igmpMachine unset).snoc
    (a := (query_interval, 600)) rfl |>.snoc (a := (query_response_interval, 100)) rfl |>.snoc
    (a := (query_interval, 60)) rfl
  obtain ⟨query, hquery, -, hlt⟩ := h _ _ _ _ unset_responds hrun 10000 rfl
  obtain rfl := Option.some.inj hquery
  exact absurd hlt (by decide)

end Igmp
