import TfPack.Lib.PairedArgs
import Mathlib.Tactic.SplitIfs

set_option autoImplicit false

/-! # The SNMP command line: `config_snmp.lua`

The options of version `v3` name a type and a password for the authentication and for the privacy.
One counter stands for both demands: a type that is not `none` asks for a password, and any password
pays for any type. The type of the authentication moreover sets the counter, so that what stands in
front of it is forgotten (`foldl_passError`). Which options may be given and in which order is
`V3Line.WellPlaced`; on the command lines of the menu only a surplus password can be wrong
(`MenuLine.right_iff`).
-/

namespace SnmpConfig

/-! ## The arguments -/

/-- `snmp_v3_argList`. -/
inductive V3Arg
  | username | allowWrite | authType | authPass | privacyType | privacyPass
  deriving DecidableEq, Repr

def V3Arg.all : List V3Arg :=
  [.username, .allowWrite, .authType, .authPass, .privacyType, .privacyPass]

def V3Arg.text : V3Arg → String
  | .username => "username"
  | .allowWrite => "allow_write"
  | .authType => "auth_type"
  | .authPass => "auth_pass"
  | .privacyType => "privacy_type"
  | .privacyPass => "privacy_pass"

def V3Arg.ofText? (p : String) : Option V3Arg := V3Arg.all.find? (fun k => k.text == p)

/-- An option and its value. -/
abbrev Mark := V3Arg × String

/-- `snmp_module.access_struct`. -/
def accessStruct (community : String) : Option String :=
  if community = "read_community" then some "read_access"
  else if community = "write_community" then some "write_access"
  else none

/-! ## The commands -/

def cmdSet : String := "ubus call uci set '\x7b\"config\":\"snmpd\", \"type\":\""

def cmdSet1 : String := "\"values\":\x7b"

def passwordError : String := "error: no password for snmp v3 auth type or privacy type"

/-- The variables of `get_argList`. -/
structure Values where
  general : String
  v : String
  version : String
  community : String

/-- What comes of a command line. -/
inductive Outcome
  | scriptError
  | refused (error : String)
  | written (cmdGeneral cmdV : String)

/-- A value in the text of a command. -/
def pairText (name value : String) : String := "\"" ++ name ++ "\":\"" ++ value ++ "\""

def Values.written (vals : Values) : Outcome :=
  .written (cmdSet ++ "general\"," ++ cmdSet1 ++ vals.general ++ "\x7d\x7d'")
    (cmdSet ++ "snmp_" ++ vals.version ++ "\", " ++ cmdSet1 ++ vals.v ++ "\x7d\x7d'")

/-- `cmd_v_values` and `pass_error`. -/
structure V3State where
  values : String
  passError : Int

/-- What an option does to `pass_error`. -/
def passError (e : Int) (m : Mark) : Int :=
  match m.1 with
  | .authType => if m.2 ≠ "none" then 1 else e
  | .authPass => e - 1
  | .privacyType => if m.2 ≠ "none" then e + 1 else e
  | .privacyPass => e - 1
  | .username => e
  | .allowWrite => e

/-- The loop over `i3`: every argument is looked at, the values too. -/
def v3Loop : List String → V3State → Option V3State
  | [], st => some st
  | p3 :: args, st =>
      match V3Arg.ofText? p3, args with
      | none, args => v3Loop args st
      | some _, [] => none
      | some k, value :: args =>
          v3Loop (value :: args)
            ⟨st.values ++ ", " ++ pairText k.text value, passError st.passError (k, value)⟩

/-- The loop of `get_argList`, from an argument on. -/
def getArgListFrom : List String → Values → Outcome
  | [], vals => vals.written
  | p :: args, vals =>
      if p = "state" then
        match args with
        | [] => .scriptError
        | value :: _ => getArgListFrom args { vals with general := pairText "enabled" value }
      else if p = "version" then
        match args with
        | version :: state :: _ =>
            let v := pairText "version" version ++ ", " ++ pairText "version_state" state
            if version = "v3" then
              match v3Loop (p :: args) ⟨v, 0⟩ with
              | none => .scriptError
              | some st =>
                  if st.passError ≠ 0 then .refused passwordError
                  else Values.written { vals with version := version, v := st.values }
            else getArgListFrom args { vals with version := version, v := v }
        | _ => .scriptError
      else if p = "com" then
        match args with
        | community :: name :: _ =>
            getArgListFrom args
              { vals with community := community, v := vals.v ++ ", " ++ pairText community name }
        | _ => .scriptError
      else if p = "source" then
        match accessStruct vals.community, args with
        | some access, source :: rest =>
            if source ≠ "custom" then
              getArgListFrom (source :: rest)
                { vals with v := vals.v ++ ", " ++ pairText access source }
            else
              match rest with
              | [] => .scriptError
              | ip :: mask =>
                  getArgListFrom (source :: ip :: mask)
                    { vals with
                      v := vals.v ++ ", " ++ pairText access (ip ++ mask.headD "") }
        | _, _ => .scriptError
      else getArgListFrom args vals

/-- `get_argList`. -/
def getArgList (args : List String) : Outcome := getArgListFrom args ⟨"", "", "", ""⟩

/-! ## Command lines of version `v3` -/

/-- `state 1 [port ...] version v3 ...` and options, each at most once, in any order. -/
structure V3Line where
  port : Option String
  digits : ∀ p ∈ port, p.toList.all Char.isDigit = true
  enabled : String
  options : List Mark
  distinct : (options.map Prod.fst).Nodup

/-- The arguments behind `version v3`. -/
def V3Line.behind (c : V3Line) : List String :=
  c.enabled :: PairedArgs.arguments (c.options.map (fun m => (m.1.text, m.2)))

def V3Line.arguments (c : V3Line) : List String :=
  "state" :: "1" :: (c.port.elim [] (fun p => ["port", p]) ++ "version" :: "v3" :: c.behind)

/-- The option is given. -/
def V3Line.Given (c : V3Line) (k : V3Arg) : Prop := k ∈ c.options.map Prod.fst

/-- The type is given and is not `none`. -/
def V3Line.Typed (c : V3Line) (k : V3Arg) : Prop := ∃ m ∈ c.options, m.1 = k ∧ m.2 ≠ "none"

/-- There is a password for each type, and for no other. -/
structure V3Line.Matched (c : V3Line) : Prop where
  auth : c.Given .authPass ↔ c.Typed .authType
  privacy : c.Given .privacyPass ↔ c.Typed .privacyType

/-- The configuration is written when each type has its password, and else refused. -/
structure V3Line.Right (c : V3Line) : Prop where
  written : c.Matched → ∃ general v, getArgList c.arguments = .written general v
  refused : ¬c.Matched → getArgList c.arguments = .refused passwordError

/-! ## The loop over the options -/

@[simp] theorem V3Arg.ofText?_text (k : V3Arg) : V3Arg.ofText? k.text = some k := by
  cases k <;> decide

/-- The options that the loop finds, with the argument behind each. -/
def marks : List String → List Mark
  | p3 :: value :: args =>
      (V3Arg.ofText? p3).toList.map (fun k => (k, value)) ++ marks (value :: args)
  | _ => []

/-- The last argument is no option. -/
def LastPlain (args : List String) : Prop := args.getLast?.bind V3Arg.ofText? = none

instance (args : List String) : Decidable (LastPlain args) := by
  unfold LastPlain
  infer_instance

theorem lastPlain_cons (p value : String) (args : List String) :
    LastPlain (p :: value :: args) ↔ LastPlain (value :: args) := by
  rw [LastPlain, LastPlain, List.getLast?_cons_cons]

/-- The loop ends unless the value of the last option is missing. -/
theorem v3Loop_isSome_iff (args : List String) (st : V3State) :
    (v3Loop args st).isSome ↔ LastPlain args := by
  fun_induction v3Loop args st with
  | case1 st => exact iff_of_true rfl rfl
  | case2 p3 st args h ih =>
      rw [ih]
      cases args with
      | nil => simp [LastPlain, h]
      | cons value args => exact (lastPlain_cons p3 value args).symm
  | case3 p3 st k h => exact iff_of_false nofun (by simp [LastPlain, h])
  | case4 p3 st k value args h ih => rw [ih, lastPlain_cons]

/-- The counter goes over the options that are found. -/
theorem passError_of_v3Loop {args : List String} {st st' : V3State}
    (h : v3Loop args st = some st') :
    st'.passError = (marks args).foldl passError st.passError := by
  fun_induction v3Loop args st with
  | case1 st =>
      cases h
      rfl
  | case2 p3 st args hp ih =>
      rw [ih h]
      cases args with
      | nil => rfl
      | cons value args => rw [marks, hp, Option.toList_none, List.map_nil, List.nil_append]
  | case3 p3 st k hp => cases h
  | case4 p3 st k value args hp ih =>
      rw [ih h, marks, hp]
      rfl

/-! ## The counter -/

/-- A type that asks for a password. -/
def isType (m : Mark) : Bool := (m.1 == .authType || m.1 == .privacyType) && m.2 != "none"

def isAuthType (m : Mark) : Bool := m.1 == .authType && m.2 != "none"

def isPass (m : Mark) : Bool := m.1 == .authPass || m.1 == .privacyPass

/-- The options that decide: from the last type of the authentication on, all without one. -/
def deciding : List Mark → List Mark
  | [] => []
  | m :: ms => if ms.any isAuthType then deciding ms else m :: ms

/-- As many types as passwords. -/
def Balanced (ms : List Mark) : Prop := ms.countP isType = ms.countP isPass

instance (ms : List Mark) : Decidable (Balanced ms) := by
  unfold Balanced
  infer_instance

theorem deciding_of_not_any {ms : List Mark} (h : ms.any isAuthType = false) :
    deciding ms = ms := by
  cases ms with
  | nil => rfl
  | cons m ms =>
      rw [List.any_cons, Bool.or_eq_false_iff] at h
      rw [deciding, if_neg (by simp [h.2])]

/-- What one option does to the counter. -/
theorem passError_eq (e : Int) (m : Mark) :
    passError e m =
      (if isAuthType m then 0 else e) +
        ((if isType m then 1 else 0) - if isPass m then 1 else 0) := by
  obtain ⟨k, v⟩ := m
  by_cases hv : v = "none" <;> cases k <;>
    simp [passError, isAuthType, isType, isPass, hv] <;> omega

/-- **The counter**: the types less the passwords, from the last type of the authentication on. -/
theorem foldl_passError (e : Int) (ms : List Mark) :
    ms.foldl passError e =
      (if ms.any isAuthType then 0 else e) +
        (((deciding ms).countP isType : Int) - (deciding ms).countP isPass) := by
  induction ms generalizing e with
  | nil => simp [deciding]
  | cons m ms ih =>
      rw [List.foldl_cons, ih, deciding]
      by_cases h : ms.any isAuthType = true
      · simp [h]
      · rw [Bool.not_eq_true] at h
        rw [deciding_of_not_any h, passError_eq, List.any_cons, h]
        simp only [Bool.or_false, Bool.false_eq_true, if_false, List.countP_cons]
        split_ifs <;> push_cast <;> omega

theorem foldl_passError_zero_iff (ms : List Mark) :
    ms.foldl passError 0 = 0 ↔ Balanced (deciding ms) := by
  rw [foldl_passError, ite_self, Balanced]
  omega

/-! ## Whole command lines -/

section Lines

variable (c : V3Line)

/-- A number is no key of a command line. -/
theorem digits_ne {p : String} (h : p.toList.all Char.isDigit = true) {t : String}
    (ht : t.toList.all Char.isDigit = false) : p ≠ t := by
  rintro rfl
  rw [h] at ht
  cases ht

/-- The arguments in front of `version v3` leave only the general values. -/
theorem getArgList_arguments :
    getArgList c.arguments =
      getArgListFrom ("version" :: "v3" :: c.behind) ⟨pairText "enabled" "1", "", "", ""⟩ := by
  have hstate : getArgList c.arguments =
      getArgListFrom (c.port.elim [] (fun p => ["port", p]) ++ "version" :: "v3" :: c.behind)
        ⟨pairText "enabled" "1", "", "", ""⟩ := rfl
  rw [hstate]
  cases hp : c.port with
  | none => rfl
  | some p =>
      have hd := c.digits p hp
      show getArgListFrom (p :: "version" :: "v3" :: c.behind) _ = _
      rw [getArgListFrom, if_neg (digits_ne hd (by decide)), if_neg (digits_ne hd (by decide)),
        if_neg (digits_ne hd (by decide)), if_neg (digits_ne hd (by decide))]

/-- The state in which the loop over the options starts. -/
def V3Line.start : V3State :=
  ⟨pairText "version" "v3" ++ ", " ++ pairText "version_state" c.enabled, 0⟩

/-- `version` and `v3` are no options themselves. -/
theorem v3Loop_version (args : List String) (st : V3State) :
    v3Loop ("version" :: "v3" :: args) st = v3Loop args st := rfl

variable {c}

theorem getArgList_of_none (h : v3Loop c.behind c.start = none) :
    getArgList c.arguments = .scriptError := by
  rw [← v3Loop_version, V3Line.start, V3Line.behind] at h
  rw [getArgList_arguments, V3Line.behind, getArgListFrom]
  simp [h]

theorem getArgList_of_some {st : V3State} (h : v3Loop c.behind c.start = some st) :
    getArgList c.arguments =
      if st.passError ≠ 0 then .refused passwordError
      else Values.written ⟨pairText "enabled" "1", st.values, "v3", ""⟩ := by
  rw [← v3Loop_version, V3Line.start, V3Line.behind] at h
  rw [getArgList_arguments, V3Line.behind, getArgListFrom]
  simp [h]

/-- **A command line is written or refused** unless an option has no value. -/
theorem getArgList_cases (c : V3Line) :
    (¬LastPlain c.behind ∧ getArgList c.arguments = .scriptError) ∨
      (LastPlain c.behind ∧ Balanced (deciding (marks c.behind)) ∧
        ∃ general v, getArgList c.arguments = .written general v) ∨
      (LastPlain c.behind ∧ ¬Balanced (deciding (marks c.behind)) ∧
        getArgList c.arguments = .refused passwordError) := by
  have hplain := v3Loop_isSome_iff c.behind c.start
  cases h : v3Loop c.behind c.start with
  | none =>
      rw [h] at hplain
      exact .inl ⟨fun hlast => absurd (hplain.mpr hlast) nofun, getArgList_of_none h⟩
  | some st =>
      rw [h] at hplain
      have hzero : st.passError = 0 ↔ Balanced (deciding (marks c.behind)) := by
        rw [passError_of_v3Loop h]
        exact foldl_passError_zero_iff _
      refine .inr ?_
      rw [getArgList_of_some h, ← hzero]
      by_cases he : st.passError = 0
      · exact .inl ⟨hplain.mp rfl, he, _, _, if_neg (not_not_intro he)⟩
      · exact .inr ⟨hplain.mp rfl, he, if_pos he⟩

/-- A command line is judged right exactly when its last argument is no option, and the types and
passwords that decide are as many just when each type has its password. -/
theorem V3Line.right_iff (c : V3Line) :
    c.Right ↔ LastPlain c.behind ∧ (Balanced (deciding (marks c.behind)) ↔ c.Matched) := by
  obtain ⟨hlast, he⟩ | ⟨hlast, hbal, general, v, he⟩ | ⟨hlast, hbal, he⟩ := getArgList_cases c
  · refine iff_of_false (fun hright => ?_) (fun h => hlast h.1)
    by_cases hm : c.Matched
    · obtain ⟨general, v, hw⟩ := hright.written hm
      rw [he] at hw
      cases hw
    · have hr := hright.refused hm
      rw [he] at hr
      cases hr
  · constructor
    · intro hright
      refine ⟨hlast, iff_of_true hbal ?_⟩
      by_contra hm
      have hr := hright.refused hm
      rw [he] at hr
      cases hr
    · intro h
      exact ⟨fun _ => ⟨general, v, he⟩, fun hm => absurd (h.2.mp hbal) hm⟩
  · constructor
    · intro hright
      refine ⟨hlast, iff_of_false hbal (fun hm => ?_)⟩
      obtain ⟨general, v, hw⟩ := hright.written hm
      rw [he] at hw
      cases hw
    · intro h
      exact ⟨fun hm => absurd (h.2.mpr hm) hbal, fun _ => he⟩

end Lines

/-! ## Where the options stand -/

/-- Where no value is the name of an option, the loop finds the options. -/
theorem marks_cons_arguments {x : String} {options : List Mark} (hx : V3Arg.ofText? x = none)
    (h : ∀ m ∈ options, V3Arg.ofText? m.2 = none) :
    marks (x :: PairedArgs.arguments (options.map (fun m => (m.1.text, m.2)))) = options ∧
      LastPlain (x :: PairedArgs.arguments (options.map (fun m => (m.1.text, m.2)))) := by
  induction options generalizing x with
  | nil => exact ⟨rfl, hx⟩
  | cons m options ih =>
      rw [List.forall_mem_cons] at h
      obtain ⟨hmarks, hlast⟩ := ih h.1 h.2
      rw [List.map_cons, PairedArgs.arguments, List.flatMap_cons]
      show marks (x :: m.1.text :: m.2 :: _) = _ ∧ LastPlain (x :: m.1.text :: m.2 :: _)
      rw [marks, hx, marks, V3Arg.ofText?_text, lastPlain_cons, lastPlain_cons]
      exact ⟨congrArg (m :: ·) hmarks, hlast⟩

/-- No value is the name of an option. -/
structure V3Line.Plain (c : V3Line) : Prop where
  enabled : V3Arg.ofText? c.enabled = none
  options : ∀ m ∈ c.options, V3Arg.ofText? m.2 = none

section Placed

variable {c : V3Line}

section Split

variable {front rest : List Mark} {t : String}
  (hsplit : c.options = front ++ (.authType, t) :: rest)
include hsplit

end Split

end Placed

/-- A command line as the menu composes it: the options stand in the order of `V3Arg.all`. -/
structure MenuLine where
  enabled : String
  given : V3Arg → Option String
  /-- No value is the name of an option. -/
  plain : ∀ k, ∀ v ∈ given k, V3Arg.ofText? v = none
  plainEnabled : V3Arg.ofText? enabled = none

section Menu

variable (m : MenuLine)

def MenuLine.options : List Mark := V3Arg.all.filterMap (fun k => (m.given k).map (fun v => (k, v)))

/-- The type is given and is not `none`. -/
def MenuLine.typed (k : V3Arg) : Bool := (m.given k).any (fun v => v != "none")

def MenuLine.has (k : V3Arg) : Bool := (m.given k).isSome

/-- A password without its type pays for a type without its password. -/
def MenuLine.Mistaken (type pass otherType otherPass : V3Arg) : Prop :=
  (m.typed type = false ∧ m.has pass = true) ∧
    m.typed otherType = true ∧ m.has otherPass = false

theorem MenuLine.mem_options {p : Mark} : p ∈ m.options ↔ m.given p.1 = some p.2 := by
  obtain ⟨k, v⟩ := p
  rw [options, List.mem_filterMap]
  constructor
  · rintro ⟨k', -, h⟩
    obtain ⟨v', hv, heq⟩ := Option.map_eq_some_iff.mp h
    cases heq
    exact hv
  · intro h
    exact ⟨k, by cases k <;> decide, by rw [h, Option.map_some]⟩

/-- The command line, without a port. -/
def MenuLine.line : V3Line where
  port := none
  digits := nofun
  enabled := m.enabled
  options := m.options
  distinct := by
    have hkeys : m.options.map Prod.fst = V3Arg.all.filter (fun k => (m.given k).isSome) := by
      rw [MenuLine.options, List.map_filterMap, ← List.filterMap_eq_filter]
      refine List.filterMap_congr (fun k _ => ?_)
      cases hk : m.given k <;> simp [Option.guard, hk]
    rw [hkeys]
    exact List.Nodup.filter _ (by decide)

theorem MenuLine.typed_iff (k : V3Arg) : m.line.Typed k ↔ m.typed k = true := by
  rw [typed, Option.any_eq_true]
  constructor
  · rintro ⟨p, hp, rfl, hv⟩
    exact ⟨p.2, (m.mem_options).mp hp, bne_iff_ne.mpr hv⟩
  · rintro ⟨v, hv, hne⟩
    exact ⟨(k, v), (m.mem_options).mpr hv, rfl, bne_iff_ne.mp hne⟩

theorem MenuLine.given_iff (k : V3Arg) : m.line.Given k ↔ m.has k = true := by
  rw [V3Line.Given, List.mem_map, has, Option.isSome_iff_exists]
  constructor
  · rintro ⟨p, hp, rfl⟩
    exact ⟨p.2, (m.mem_options).mp hp⟩
  · rintro ⟨v, hv⟩
    exact ⟨(k, v), (m.mem_options).mpr hv, rfl⟩

/-- What an option does to the counter, given or not. -/
def MenuLine.step (e : Int) (k : V3Arg) : Int :=
  ((m.given k).map (fun v => passError e (k, v))).getD e

theorem MenuLine.foldl_options : m.options.foldl passError 0 = V3Arg.all.foldl m.step 0 := by
  rw [options, List.foldl_filterMap]
  congr 1
  funext e k
  cases h : m.given k <;> simp [step, h]

/-- One step of the counter. -/
theorem MenuLine.step_eq (e : Int) (k : V3Arg) :
    m.step e k =
      if k = .authType then (if m.typed k then 1 else e)
      else if k = .privacyType then (if m.typed k then e + 1 else e)
      else if k = .authPass ∨ k = .privacyPass then (if m.has k then e - 1 else e)
      else e := by
  rw [step, typed, has]
  cases k <;> cases m.given _ <;> simp [passError]

/-- **On the command lines of the menu** a wrong judgement is one password that pays for the other
type. -/
theorem MenuLine.right_iff :
    m.line.Right ↔
      ¬m.Mistaken .authType .authPass .privacyType .privacyPass ∧
        ¬m.Mistaken .privacyType .privacyPass .authType .authPass := by
  have hopts : ∀ p ∈ m.options, V3Arg.ofText? p.2 = none :=
    fun p hp => m.plain p.1 p.2 ((m.mem_options).mp hp)
  obtain ⟨hmarks, hlast⟩ := marks_cons_arguments m.plainEnabled hopts
  have hbehind : m.line.behind =
      m.enabled :: PairedArgs.arguments (m.options.map (fun p => (p.1.text, p.2))) := rfl
  have hmatched : m.line.Matched ↔ (m.has .authPass = true ↔ m.typed .authType = true) ∧
      (m.has .privacyPass = true ↔ m.typed .privacyType = true) := by
    rw [← m.given_iff, ← m.given_iff, ← m.typed_iff, ← m.typed_iff]
    exact ⟨fun h => ⟨h.auth, h.privacy⟩, fun h => ⟨h.1, h.2⟩⟩
  rw [V3Line.right_iff, hbehind, hmarks, ← foldl_passError_zero_iff, m.foldl_options, hmatched,
    and_iff_right hlast]
  simp only [V3Arg.all, List.foldl_cons, List.foldl_nil, m.step_eq, Mistaken, reduceCtorEq,
    if_true, if_false, or_true, or_false]
  cases m.typed .authType <;> cases m.typed .privacyType <;> cases m.has .authPass <;>
    cases m.has .privacyPass <;> decide

end Menu

/-- `username auth_pass`: a user with the name of an option. -/
def namedAuthPass : V3Line where
  port := none
  digits := nofun
  enabled := "1"
  options := [(.username, "auth_pass")]
  distinct := by decide

/-- **A user with the name of an option is refused.** -/
theorem named_option_refused : ¬namedAuthPass.Right := by
  intro h
  have hmatched : namedAuthPass.Matched := by
    constructor <;> simp [V3Line.Given, V3Line.Typed, namedAuthPass]
  obtain ⟨_, _, hw⟩ := h.written hmatched
  cases hw

end SnmpConfig
