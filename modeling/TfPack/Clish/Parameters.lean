import TfPack.DeviceMonitor.Ipif
import TfPack.Lib.PairedArgs
import TfPack.Rsyslog.Rules

set_option autoImplicit false

/-! # Options of the command line: `getparam` and `log_getparam`

`tf.getparam` and the `log_getparam` of the log commands go through the arguments and the list of
parameters in lockstep. An option that is left out moves all that follow it to a place where they
are not looked for (`paramsRight_iff`).
-/

namespace Clish

open DeviceMonitor (ascii getparam ipif_paramList)
open PairedArgs
open Rsyslog (logGetparam ruleParamList)

/-! ## The readers -/

theorem getparam_eq (params args : List (List UInt8)) :
    getparam params args = inPlace [] params args := by
  induction params generalizing args with
  | nil => rfl
  | cons param params ih =>
      match args with
      | [] => rfl
      | [_] => rfl
      | key :: value :: args =>
          rw [getparam, inPlace, ih]
          by_cases h : key = param ∧ value ≠ []
          · rw [if_pos h, if_pos h, List.singleton_append]
          · rw [if_neg h, if_neg h, List.nil_append]

theorem logGetparam_eq (params args : List String) :
    logGetparam params args = inPlace "" params args := by
  induction params generalizing args with
  | nil => rfl
  | cons param params ih =>
      match args with
      | [] => rfl
      | [_] => rfl
      | key :: value :: args => rw [logGetparam, inPlace, ih]

/-- `logConfig_list`. -/
inductive LogParam
  | filter | action | rule
  deriving DecidableEq, Repr

/-- `filter_paramList`, `action_paramList` and `rule_paramList`. -/
def LogParam.paramList : LogParam → List String
  | .filter => ["name", "facility", "severity", "progname", "content"]
  | .action => ["name", "action", "log_email", "log_syslog"]
  | .rule => ruleParamList

/-! ## What is read -/

/-- **The options of a command line are read**: exactly when they are the first parameters of the
list, in its order. -/
theorem paramsRight_iff (params : List (List UInt8)) (c : CommandLine params [])
    (log : LogParam) (l : CommandLine log.paramList "") :
    (Takes (getparam params) c ↔ c.keys <+: params) ∧
      (Takes (logGetparam log.paramList) l ↔ l.keys <+: log.paramList) := by
  have hget : getparam params = inPlace [] params := funext (getparam_eq params)
  have hlog : logGetparam log.paramList = inPlace "" log.paramList :=
    funext (logGetparam_eq log.paramList)
  rw [hget, hlog]
  exact ⟨takes_inPlace_iff c, takes_inPlace_iff l⟩

/-- `ifname lan ip 10.0.0.2`. -/
def lanAddress : CommandLine ipif_paramList [] where
  pairs := [(ascii "ifname", ascii "lan"), (ascii "ip", ascii "10.0.0.2")]
  known := by decide
  distinct := by decide
  valued := by decide

/-- **The address is lost when `proto` is left out.** -/
theorem address_not_read : ¬Takes (getparam ipif_paramList) lanAddress := by
  intro h
  exact absurd (h (ascii "ip")) (by decide)

end Clish
