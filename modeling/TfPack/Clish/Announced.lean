import TfPack.Clish.Setters

set_option autoImplicit false

/-! # The announced ranges

A setting is right when it is a decimal integer of the range that the error of its command names.
Whether a sequence of commands keeps the settings so, and refuses every other argument without an
error of Lua, is decided by the form of the arguments (`asAnnounced_iff`): nothing but the path cost
leaves its range, but fractions, hexadecimal digits and exponents pass for integers, and what is no
number at all ends the command.
-/

namespace Setters

open AutoRestart Lua Clish SignificantDigits StepMachine
open Igmp (IgmpOption optionList)
open Vlan (decimal)

/-! ## What the commands should do -/

/-- Digits, with a sign at most, and their value. -/
inductive DecimalInteger : Text → ℤ → Prop
  | mk {g d : Text} (hg : g = [] ∨ g = ['-'] ∨ g = ['+']) (hd : Digits d) :
      DecimalInteger (g ++ d) (signed g (digitsVal d))

/-- A decimal integer of a range. -/
def InRange (min max : Nat) (t : Text) : Prop := ∃ v, DecimalInteger t v ∧ min ≤ v ∧ v ≤ max

/-- The range that the error of a command announces, in the unit of the option; where the error
names none, the range that is checked. -/
def Key.range : Key → Option (Nat × Nat)
  | .loglevel => some (0, 4)
  | .treeprio => some (0, 15)
  | .ageing => some (10, 1000000)
  | .hello => some (1, 10)
  | .fdelay => some (4, 30)
  | .maxage => some (6, 40)
  | .txholdcount => some (1, 10)
  | .port _ .treeprio => some (0, 15)
  | .port _ .pathcost => some (0, 200000000)
  | .igmp .hash_max => some (1, 1024)
  | .igmp .robustness => some (2, 255)
  | .igmp .query_interval => some (60 * 100, 600 * 100)
  -- the error says the range of the table size
  | .igmp .last_member_interval => some (1 * 100, 1024 * 100)
  | _ => none

/-- The value is one of the announced range. -/
def Key.Announces (key : Key) (value : Text) : Prop :=
  ∀ min max, key.range = some (min, max) → InRange min max value

/-- A range of ports that has a number or a name. -/
def Ranged (R : Rounding) (arg : Text) : Prop :=
  arg = "all".toList ∨ arg = "switch".toList ∨ numbers R arg ≠ []

/-- The options of a port that are numbers. -/
def PortOption.NotNumber (R : Rounding) (arg : Text) (o : PortOption) : Prop :=
  (o = .treeprio ∨ o = .pathcost) ∧ tonumber R arg = none

/-- A command has an argument that should be a number and is none. -/
def Call.NotNumber (R : Rounding) : Call → Prop
  | .stp arg1 arg2 => ∃ c : StpCmd, arg1 = c.word ∧ c ≠ .protocol ∧ tonumber R arg2 = none
  | .stpPort arg1 arg2 arg3 =>
      ¬Ranged R arg1 ∨ ∃ o : PortOption, arg2 = o.word ∧ o.NotNumber R arg3
  | .igmp arg1 arg2 => ∃ o, arg1 = igmpWord o ∧ tonumber R arg2 = none

/-- **A command does what it announces**: it writes only values of the announced range, and when it
refuses its argument, or has none that is a number, it changes nothing and goes through. -/
structure StepRight (noNumber : Prop) (cfg : Config) (evs : List Event) : Prop where
  written : ∀ key value, .set key value ∈ evs → key.Announces value
  refused : noNumber ∨ (∃ text, .error text ∈ evs) → cfg.after evs = cfg ∧ .raised ∉ evs

/-- **All settings are as announced**: every value a run has written, and every refusal. -/
structure AsAnnounced (D : Device) (vs : List (Visit Config Call Event)) (tr : List Event) :
    Prop where
  written : ∀ key value, .set key value ∈ tr → key.Announces value
  refused : ∀ v ∈ vs, v.act.NotNumber D.R.toRounding ∨
    (∃ text, .error text ∈ D.events v.state v.act) →
      v.state.after (D.events v.state v.act) = v.state ∧ .raised ∉ D.events v.state v.act

/-! ## When they do -/

section Sound

variable (R : SignedRounding)

/-- A number, written as a decimal integer when it is in the range. -/
def Typed (min max : Nat) (arg : Text) : Prop :=
  ∃ v, tonumber R.toRounding arg = some v ∧ ((min : ℚ) ≤ v → v ≤ max → ∃ m, DecimalInteger arg m)

/-- A number whose multiple is whole in 14 digits when it is in the range. -/
def Multiple (min max : Nat) (scale : ℚ → ℚ) (arg : Text) : Prop :=
  ∃ v, tonumber R.toRounding arg = some v ∧ ((min : ℚ) ≤ v → v ≤ max → Whole 14 (scale v))

def StpCmd.Sound (arg : Text) : StpCmd → Prop
  | state => True
  | loglevel => Typed R 0 4 arg
  | priority => Typed R 0 15 arg
  | protocol => True
  | ageing => Typed R 10 1000000 arg
  | hellotime => Typed R 1 10 arg
  | forwarddelay => Typed R 4 30 arg
  | maxage => Typed R 6 40 arg
  | txholdcount => Typed R 1 10 arg

/-- The path cost must be in its range: the check does not see to it. -/
def PortOption.Sound (arg : Text) : PortOption → Prop
  | treeprio => Typed R 0 15 arg
  | pathcost => InRange 0 200000000 arg
  | _ => True

/-- There is no query interval to compare with. -/
def Unset (cfg : Config) : Prop :=
  ∀ query ∈ cfg (.igmp .query_interval), query = "null".toList ∨ query = "0".toList

def IgmpSound (cfg : Config) (arg : Text) : IgmpOption → Prop
  | .igmp_snooping => True
  | .hash_max => (tonumber R.toRounding arg).isSome
  | .multicast_querier => True
  | .robustness => Multiple R 2 255 id arg
  | .query_interval => Multiple R 60 600 (fun v => R.round (v * 100)) arg
  | .query_response_interval => (tonumber R.toRounding arg).isSome ∨ Unset cfg
  | .last_member_interval => Multiple R 1 25 (fun v => R.round (v * 100)) arg

/-- The port is in the range. -/
def Selected (r : Range) (portStr : Text) : Prop :=
  ∃ n ∈ portNum R portStr, r.first ≤ n ∧ n ≤ r.last

instance (r : Range) (portStr : Text) : Decidable (Selected R r portStr) := by
  unfold Selected
  infer_instance

end Sound

/-- The arguments of a command are such that it does what it announces. -/
def Device.Sound (D : Device) (cfg : Config) : Call → Prop
  | .stp arg1 arg2 => ∀ c : StpCmd, arg1 = c.word → c.Sound D.R arg2
  | .stpPort arg1 arg2 arg3 =>
      Ranged D.R.toRounding arg1 ∧
        ∀ r, checkPortRange D.R.toRounding arg1 = .range r → (∃ x ∈ D.ports.names, Selected D.R r x) →
          ∀ o : PortOption, arg2 = o.word → o.Sound D.R arg3
  | .igmp arg1 arg2 => ∀ o, arg1 = igmpWord o → IgmpSound D.R cfg arg2 o

/-! ## Whole numbers and their texts -/

section Numbers

variable {R : SignedRounding} {arg : Text} {min max : Nat} {m : ℤ} {v : ℚ}

theorem SignedRounding.exactInt (h : m.natAbs ≤ 2 ^ 53) : R.round m = m := by
  obtain ⟨n, rfl | rfl⟩ := m.eq_nat_or_neg
  · exact_mod_cast R.exact n (by omega)
  · have hexact := R.exact n (by omega)
    rw [Int.cast_neg, Int.cast_natCast, R.neg, hexact]

/-- A rounded whole number is on the same side of a small one. -/
theorem natCast_le_round_iff (hmin : min ≤ 2 ^ 53) : (min : ℚ) ≤ R.round m ↔ (min : ℤ) ≤ m := by
  constructor
  · intro hle
    by_contra hlt
    have hbelow : R.round m ≤ R.round ((min - 1 : ℤ) : ℚ) := R.mono (by
      exact_mod_cast (show m ≤ (min : ℤ) - 1 by omega))
    rw [SignedRounding.exactInt (m := min - 1) (by omega)] at hbelow
    have hcast : (min : ℚ) ≤ ((min - 1 : ℤ) : ℚ) := hle.trans hbelow
    have hint : (min : ℤ) ≤ min - 1 := by exact_mod_cast hcast
    omega
  · intro hle
    rw [← R.exact min hmin]
    exact R.mono (by exact_mod_cast hle)

theorem round_le_natCast_iff (hmax : max < 2 ^ 53) : R.round m ≤ max ↔ m ≤ max := by
  constructor
  · intro hle
    by_contra hlt
    have habove : R.round ((max + 1 : ℤ) : ℚ) ≤ R.round m := R.mono (by
      exact_mod_cast (show (max : ℤ) + 1 ≤ m by omega))
    rw [SignedRounding.exactInt (m := max + 1) (by omega)] at habove
    have hcast : ((max + 1 : ℤ) : ℚ) ≤ max := habove.trans hle
    have hint : (max : ℤ) + 1 ≤ max := by exact_mod_cast hcast
    omega
  · intro hle
    rw [← R.exact max hmax.le]
    exact R.mono (by exact_mod_cast hle)

/-- Lua reads a decimal integer. -/
theorem tonumber_of_decimalInteger (h : DecimalInteger arg m) :
    tonumber R.toRounding arg = some (R.round m) := by
  obtain ⟨hg, hd⟩ := h
  exact tonumber_lead _ ⟨[], _, rfl, by simp, hg⟩ hd

theorem decimalInteger_decimal (n : Nat) : DecimalInteger (decimal n) n := by
  have hint := DecimalInteger.mk (.inl rfl) (digits_toDigits n)
  rw [digitsVal_toDigits, List.nil_append] at hint
  exact hint

/-- There is no point in a decimal integer. -/
theorem DecimalInteger.no_point (h : DecimalInteger arg m) : '.' ∉ arg := by
  obtain ⟨hg, hd⟩ := h
  rw [List.mem_append, not_or]
  refine ⟨?_, hd.not_mem (by decide)⟩
  rcases hg with rfl | rfl | rfl <;> decide

/-- **A number in the range is stored right** when it is typed as a decimal integer. -/
theorem inRange_typed (hmin : min ≤ 2 ^ 53) (hmax : max < 2 ^ 53)
    (hv : tonumber R.toRounding arg = some v) (hle : (min : ℚ) ≤ v) (hge : v ≤ max) :
    InRange min max arg ↔ ∃ m, DecimalInteger arg m := by
  refine ⟨fun ⟨m, hm, _⟩ => ⟨m, hm⟩, ?_⟩
  rintro ⟨m, hm⟩
  rw [tonumber_of_decimalInteger hm, Option.some.injEq] at hv
  subst hv
  exact ⟨m, hm, (natCast_le_round_iff hmin).mp hle, (round_le_natCast_iff hmax).mp hge⟩

/-- **A number in the range is written right** when 14 digits of it are whole. -/
theorem inRange_tostring (hmin : 1 ≤ min) (hmax : max < 10 ^ 13) (hle : (min : ℚ) ≤ v)
    (hge : v ≤ max) : InRange min max (tostring v) ↔ Whole 14 v := by
  have hone : (1 : ℚ) ≤ v := le_trans (by exact_mod_cast hmin) hle
  have hsmall : v < 10 ^ 13 := hge.trans_lt (by exact_mod_cast hmax)
  have hdigits : v < 10 ^ 14 := hsmall.trans (by norm_num)
  have hexp := exponent_lt hone hsmall
  constructor
  · rintro ⟨m, hm, -⟩
    by_contra hno
    exact hm.no_point (point_mem_tostring hone hexp hno)
  · rintro ⟨n, hn⟩
    have hlow := le_significant hone hdigits hle
    have hhigh := significant_le hone hdigits hge
    rw [hn] at hlow hhigh
    rw [tostring_whole hone hexp hn]
    exact ⟨n, decimalInteger_decimal n, by exact_mod_cast hlow, by exact_mod_cast hhigh⟩

/-- A number of hundredths is in the range of hundredths. -/
theorem hundredths_bounds (hmin : min * 100 ≤ 2 ^ 53) (hmax : max * 100 ≤ 2 ^ 53)
    (hle : (min : ℚ) ≤ v) (hge : v ≤ max) :
    ((min * 100 : Nat) : ℚ) ≤ R.round (v * 100) ∧
      R.round (v * 100) ≤ ((max * 100 : Nat) : ℚ) := by
  rw [← R.exact _ hmin, ← R.exact _ hmax]
  push_cast
  exact ⟨R.mono (by linarith), R.mono (by linarith)⟩

end Numbers

/-! ## One command -/

section Steps

variable {noNumber : Prop} {cfg : Config} {evs : List Event} {key : Key} {min max : Nat}

theorem announces_iff {value : Text} (h : key.range = some (min, max)) :
    key.Announces value ↔ InRange min max value := by
  constructor
  · intro hann
    exact hann min max h
  · intro hin min' max' h'
    rw [h, Option.some.injEq, Prod.mk.injEq] at h'
    obtain ⟨rfl, rfl⟩ := h'
    exact hin

theorem announces_of_none (h : key.range = none) (value : Text) : key.Announces value := by
  intro min max hsome
  rw [h] at hsome
  cases hsome

/-- Errors that are written change nothing. -/
theorem after_errors (h : ∀ e ∈ evs, ∃ text, e = .error text) (cfg : Config) :
    cfg.after evs = cfg := by
  induction evs with
  | nil => rfl
  | cons e evs ih =>
      rw [List.forall_mem_cons] at h
      obtain ⟨⟨text, rfl⟩, hrest⟩ := h
      exact ih hrest

theorem stepRight_nil (noNumber : Prop) (cfg : Config) : StepRight noNumber cfg [] :=
  ⟨by simp, fun _ => ⟨rfl, by simp⟩⟩

theorem stepRight_congr {noNumber' : Prop} (h : noNumber ↔ noNumber') :
    StepRight noNumber cfg evs ↔ StepRight noNumber' cfg evs := by
  rw [propext h]

/-- What a setter does with its option. -/
inductive Outcome
  | stores (value : Text)
  | refuses (text : String)
  | raises

def Outcome.event (key : Key) : Outcome → Event
  | stores value => .set key value
  | refuses text => .error text
  | raises => .raised

/-- The outcome is right for an option exactly when `sound` holds. -/
def Outcome.Meets (sound noNumber : Prop) (key : Key) : Outcome → Prop
  | stores value => ¬noNumber ∧ (sound ↔ key.Announces value)
  | refuses _ => sound
  | raises => sound ↔ ¬noNumber

/-- The same outcome for several options. An error of Lua ends the command at the first. -/
theorem inTurn_outcome (out : Outcome) (keys : List Key) :
    inTurn (keys.map (fun key => [out.event key])) =
      match out with
      | .raises => if keys = [] then [] else [.raised]
      | _ => keys.map (fun key => out.event key) := by
  induction keys with
  | nil => cases out <;> rfl
  | cons key keys ih =>
      rw [List.map_cons, inTurn, ih]
      cases out <;> simp [Outcome.event]

theorem stepRight_errors (h : ∀ e ∈ evs, ∃ text, e = .error text) :
    StepRight noNumber cfg evs := by
  refine ⟨fun key value hset => ?_, fun _ => ⟨after_errors h _, fun hraised => ?_⟩⟩
  · obtain ⟨_, heq⟩ := h _ hset
    cases heq
  · obtain ⟨_, heq⟩ := h _ hraised
    cases heq

theorem stepRight_sets {value : Text} {keys : List Key} (hnumber : ¬noNumber)
    (h : ∀ key ∈ keys, key.Announces value) :
    StepRight noNumber cfg (keys.map (fun key => .set key value)) := by
  refine ⟨fun key v hset => ?_, fun hrefused => ?_⟩
  · obtain ⟨_, hkey, heq⟩ := List.mem_map.mp hset
    cases heq
    exact h _ hkey
  · obtain ⟨_, herror⟩ := hrefused.resolve_left hnumber
    obtain ⟨_, _, heq⟩ := List.mem_map.mp herror
    cases heq

/-- An error of Lua is right for a number only. -/
theorem stepRight_raised : StepRight noNumber cfg [.raised] ↔ ¬noNumber := by
  constructor
  · intro hright hno
    exact (hright.refused (.inl hno)).2 (List.mem_singleton.mpr rfl)
  · intro hnumber
    refine ⟨by simp, fun hrefused => ?_⟩
    obtain ⟨_, herror⟩ := hrefused.resolve_left hnumber
    cases List.mem_singleton.mp herror

/-- **A setter of several options is right** when its outcome is, unless there are none. -/
theorem Outcome.stepRight_iff {out : Outcome} {sound : Prop} {keys : List Key}
    (h : ∀ key ∈ keys, out.Meets sound noNumber key) :
    StepRight noNumber cfg (inTurn (keys.map (fun key => [out.event key]))) ↔
      (keys ≠ [] → sound) := by
  rw [inTurn_outcome]
  rcases keys.eq_nil_or_concat' with rfl | ⟨keys, last, rfl⟩
  · have hnil : StepRight noNumber cfg [] := stepRight_nil _ _
    cases out <;> exact iff_of_true hnil (fun hne => absurd rfl hne)
  · have hne : keys ++ [last] ≠ [] := by simp
    have hlast : last ∈ keys ++ [last] := by simp
    rw [forall_prop_of_true hne]
    cases out with
    | stores value =>
        obtain ⟨hnumber, hsound⟩ := h last hlast
        constructor
        · intro hright
          exact hsound.mpr (hright.written last value (List.mem_map_of_mem hlast))
        · exact fun hs => stepRight_sets hnumber fun key hkey => (h key hkey).2.mp hs
    | refuses text =>
        refine iff_of_true (stepRight_errors fun e he => ?_) (h last hlast)
        obtain ⟨_, _, rfl⟩ := List.mem_map.mp he
        exact ⟨text, rfl⟩
    | raises =>
        have hmeets : sound ↔ ¬noNumber := h last hlast
        rw [if_neg hne, hmeets, stepRight_raised]

/-- The same for one option. -/
theorem Outcome.stepRight_single {out : Outcome} {sound : Prop}
    (h : out.Meets sound noNumber key) :
    StepRight noNumber cfg [out.event key] ↔ sound := by
  have hkeys : ∀ k ∈ [key], out.Meets sound noNumber k := by
    rw [List.forall_mem_singleton]
    exact h
  have hright : StepRight noNumber cfg (inTurn ([key].map (fun key => [out.event key]))) ↔
      ([key] ≠ [] → sound) := Outcome.stepRight_iff hkeys
  rw [inTurn_outcome] at hright
  cases out <;> simpa [Outcome.event] using hright

end Steps

/-! ## The setters -/

section Outcomes

variable (R : SignedRounding) {noNumber : Prop} {min max : Nat} {arg : Text}

/-- **A number stored as it was typed.** -/
theorem setTyped_outcome (hmin : min ≤ 2 ^ 53) (hmax : max < 2 ^ 53)
    (hno : noNumber ↔ tonumber R.toRounding arg = none) (error : String) :
    ∃ out : Outcome, ∀ key : Key, key.range = some (min, max) →
      setTyped R min max key error arg = [out.event key] ∧
        out.Meets (Typed R min max arg) noNumber key := by
  simp only [setTyped]
  cases hv : tonumber R.toRounding arg with
  | none =>
      refine ⟨.raises, fun key hkey => ⟨rfl, iff_of_false ?_ (not_not.mpr (hno.mpr hv))⟩⟩
      rintro ⟨v, hv', -⟩
      rw [hv] at hv'
      cases hv'
  | some v =>
      have hnumber : ¬noNumber := by
        rw [hno, hv]
        exact Option.some_ne_none v
      by_cases hin : (min : ℚ) ≤ v ∧ v ≤ max
      · refine ⟨.stores arg, fun key hkey => ⟨if_pos hin, hnumber, ?_⟩⟩
        rw [announces_iff hkey, inRange_typed hmin hmax hv hin.1 hin.2, Typed, hv]
        simp [hin.1, hin.2]
      · refine ⟨.refuses error, fun key hkey => ⟨if_neg hin, v, hv, fun hle hge => ?_⟩⟩
        exact absurd ⟨hle, hge⟩ hin

/-- A word. -/
theorem setWord_outcome (first second error : String) (hno : ¬noNumber) (arg : Text) :
    ∃ out : Outcome, ∀ key : Key, key.range = none →
      setWord first second key error arg = [out.event key] ∧ out.Meets True noNumber key := by
  by_cases hword : arg = first.toList ∨ arg = second.toList
  · refine ⟨.stores arg, fun key hkey => ⟨if_pos hword, hno, ?_⟩⟩
    exact iff_of_true trivial (announces_of_none hkey arg)
  · exact ⟨.refuses error, fun key _ => ⟨if_neg hword, trivial⟩⟩

/-- The path cost is never refused. -/
theorem configPortPathcost_outcome (hno : noNumber ↔ tonumber R.toRounding arg = none) :
    ∃ out : Outcome, ∀ port, configPortPathcost R port arg = [out.event (.port port .pathcost)] ∧
      out.Meets (InRange 0 200000000 arg) noNumber (.port port .pathcost) := by
  simp only [configPortPathcost]
  cases hv : tonumber R.toRounding arg with
  | none =>
      refine ⟨.raises, fun port => ⟨rfl, iff_of_false ?_ (not_not.mpr (hno.mpr hv))⟩⟩
      rintro ⟨m, hm, -⟩
      rw [tonumber_of_decimalInteger hm] at hv
      cases hv
  | some v =>
      have hnumber : ¬noNumber := by
        rw [hno, hv]
        exact Option.some_ne_none v
      have hpass : 0 ≤ v ∨ v ≤ 200000000 := by
        rcases le_total 0 v with hpos | hneg
        · exact .inl hpos
        · exact .inr (hneg.trans (by norm_num))
      exact ⟨.stores arg, fun port => ⟨if_pos hpass, hnumber, (announces_iff rfl).symm⟩⟩

/-- **A number stored as it is written.** -/
theorem setWritten_outcome (hno : noNumber ↔ tonumber R.toRounding arg = none) {option : IgmpOption}
    {write : ℚ → Text} {P : ℚ → Prop}
    (hwrite : ∀ v : ℚ, min ≤ v → v ≤ max → (P v ↔ (Key.igmp option).Announces (write v)))
    (error : String) :
    ∃ out : Outcome, setWritten R min max option error write arg = [out.event (.igmp option)] ∧
      out.Meets (∃ v, tonumber R.toRounding arg = some v ∧ ((min : ℚ) ≤ v → v ≤ max → P v))
        noNumber (.igmp option) := by
  simp only [setWritten]
  cases hv : tonumber R.toRounding arg with
  | none => exact ⟨.raises, rfl, iff_of_false (by simp) (not_not.mpr (hno.mpr hv))⟩
  | some v =>
      have hnumber : ¬noNumber := by
        rw [hno, hv]
        exact Option.some_ne_none v
      by_cases hout : v < min ∨ max < v
      · refine ⟨.refuses error, if_pos hout, v, rfl, fun hle hge => ?_⟩
        rcases hout with hlt | hlt
        · exact absurd hle hlt.not_ge
        · exact absurd hge hlt.not_ge
      · have hin : (min : ℚ) ≤ v ∧ v ≤ max := by rwa [not_or, not_lt, not_lt] at hout
        refine ⟨.stores (write v), if_neg hout, hnumber, ?_⟩
        rw [← hwrite v hin.1 hin.2]
        simp [hin.1, hin.2]

theorem StpCmd.func_outcome (c : StpCmd) (arg : Text) :
    ∃ (out : Outcome) (key : Key), c.func R arg = [out.event key] ∧
      out.Meets (c.Sound R arg) (c ≠ .protocol ∧ tonumber R.toRounding arg = none) key := by
  have hno : c ≠ .protocol → (c ≠ .protocol ∧ tonumber R.toRounding arg = none ↔
      tonumber R.toRounding arg = none) := fun hc => and_iff_right hc
  cases c with
  | state =>
      by_cases hstate : tonumber R.toRounding arg = some 0 ∨ tonumber R.toRounding arg = some 1
      · refine ⟨.stores arg, .stp, if_pos hstate, ?_, ?_⟩
        · rintro ⟨-, hnone⟩
          rw [hnone] at hstate
          simp at hstate
        · exact iff_of_true trivial (announces_of_none rfl arg)
      · exact ⟨.refuses _, .stp, if_neg hstate, trivial⟩
  | protocol =>
      exact (setWord_outcome _ _ _ (fun h => h.1 rfl) arg).imp
        fun out hout => ⟨.forcevers, hout _ rfl⟩
  | loglevel =>
      exact (setTyped_outcome R (by norm_num) (by norm_num) (hno nofun) _).imp
        fun out hout => ⟨.loglevel, hout _ rfl⟩
  | priority =>
      exact (setTyped_outcome R (by norm_num) (by norm_num) (hno nofun) _).imp
        fun out hout => ⟨.treeprio, hout _ rfl⟩
  | ageing =>
      exact (setTyped_outcome R (by norm_num) (by norm_num) (hno nofun) _).imp
        fun out hout => ⟨.ageing, hout _ rfl⟩
  | hellotime =>
      exact (setTyped_outcome R (by norm_num) (by norm_num) (hno nofun) _).imp
        fun out hout => ⟨.hello, hout _ rfl⟩
  | forwarddelay =>
      exact (setTyped_outcome R (by norm_num) (by norm_num) (hno nofun) _).imp
        fun out hout => ⟨.fdelay, hout _ rfl⟩
  | maxage =>
      exact (setTyped_outcome R (by norm_num) (by norm_num) (hno nofun) _).imp
        fun out hout => ⟨.maxage, hout _ rfl⟩
  | txholdcount =>
      exact (setTyped_outcome R (by norm_num) (by norm_num) (hno nofun) _).imp
        fun out hout => ⟨.txholdcount, hout _ rfl⟩

theorem PortOption.func_outcome (o : PortOption) (arg : Text) :
    ∃ out : Outcome, ∀ port, o.func R port arg = [out.event (.port port o)] ∧
      out.Meets (o.Sound R arg) (o.NotNumber R.toRounding arg) (.port port o) := by
  have hno : o = .treeprio ∨ o = .pathcost →
      (o.NotNumber R.toRounding arg ↔ tonumber R.toRounding arg = none) := fun ho => and_iff_right ho
  have hword : ¬(o = .treeprio ∨ o = .pathcost) → ¬o.NotNumber R.toRounding arg :=
    fun ho h => ho h.1
  cases o with
  | treeprio =>
      exact (setTyped_outcome R (by norm_num) (by norm_num) (hno (.inl rfl)) _).imp
        fun out hout port => hout (.port port .treeprio) rfl
  | pathcost => exact configPortPathcost_outcome R (hno (.inr rfl))
  | adminedge =>
      exact (setWord_outcome _ _ _ (hword nofun) arg).imp fun out hout port => hout _ rfl
  | autoedge =>
      exact (setWord_outcome _ _ _ (hword nofun) arg).imp fun out hout port => hout _ rfl
  | bpdufilter =>
      exact (setWord_outcome _ _ _ (hword nofun) arg).imp fun out hout port => hout _ rfl
  | bpduguard =>
      exact (setWord_outcome _ _ _ (hword nofun) arg).imp fun out hout port => hout _ rfl

end Outcomes

/-! ## The commands of IGMP -/

section Igmp

variable {R : SignedRounding} {U : Ubus} {cfg : Config} {arg : Text}

/-- Whatever its argument is, a switch writes no number. -/
theorem igmpSwitch_right {option : IgmpOption} (hrange : (Key.igmp option).range = none)
    (start : Nat) : StepRight (tonumber R.toRounding arg = none) cfg
      (igmpSwitch R option start arg) := by
  rw [igmpSwitch]
  by_cases hone : tonumber R.toRounding arg = some 1
  · rw [if_pos hone]
    refine ⟨fun key value hset => ?_, fun hrefused => ?_⟩
    · cases List.mem_singleton.mp hset
      exact announces_of_none hrange _
    · rw [hone] at hrefused
      simp at hrefused
  · rw [if_neg hone]
    by_cases hzero : tonumber R.toRounding arg = some 0
    · rw [if_pos hzero, hzero]
      refine ⟨fun key value hset => ?_, fun hrefused => ?_⟩
      · obtain ⟨_, _, heq⟩ := List.mem_map.mp hset
        cases heq
      · obtain ⟨_, herror⟩ := hrefused.resolve_left (Option.some_ne_none 0)
        obtain ⟨_, _, heq⟩ := List.mem_map.mp herror
        cases heq
    · rw [if_neg hzero]
      exact stepRight_nil _ _

/-- The table size reaches `uci` as a number. -/
theorem announces_tableSize (U : Ubus) {v : ℚ} (hle : ((1 : Nat) : ℚ) ≤ v)
    (hge : v ≤ ((1024 : Nat) : ℚ)) : (Key.igmp .hash_max).Announces (U.text v) := by
  have hpos : 0 ≤ v := le_trans (by norm_num) hle
  obtain ⟨m, htext, hfloor, hceil⟩ := U.whole v hpos (lt_of_le_of_lt hge (by norm_num))
  have hlow : 1 ≤ ⌊v⌋₊ := Nat.le_floor hle
  have hhigh : ⌈v⌉₊ ≤ 1024 := Nat.ceil_le.mpr hge
  rw [announces_iff rfl, htext]
  exact ⟨m, decimalInteger_decimal m, by omega, by omega⟩

/-- The intervals are stored in hundredths. -/
theorem announces_hundredths {option : IgmpOption} {min max last : Nat}
    (hrange : (Key.igmp option).range = some (min * 100, last * 100)) (hmin : 1 ≤ min)
    (hlast : max ≤ last) (hsmall : last ≤ 10 ^ 10) {v : ℚ} (hle : (min : ℚ) ≤ v) (hge : v ≤ max) :
    Whole 14 (R.round (v * 100)) ↔ (Key.igmp option).Announces (hundredths R v) := by
  have hv : v ≤ last := hge.trans (by exact_mod_cast hlast)
  have hmin' : (min : ℚ) ≤ last := hle.trans hv
  have hle' : min ≤ last := by exact_mod_cast hmin'
  obtain ⟨hlow, hhigh⟩ := hundredths_bounds (R := R) (by omega) (by omega) hle hv
  rw [announces_iff hrange, hundredths, inRange_tostring (by omega) (by omega) hlow hhigh]

/-- A number stored as it is written is right when what is written is. -/
theorem setWritten_right {option : IgmpOption} {min max : Nat} {write : ℚ → Text} {P : ℚ → Prop}
    (hwrite : ∀ v : ℚ, min ≤ v → v ≤ max → (P v ↔ (Key.igmp option).Announces (write v)))
    (error : String) :
    StepRight (tonumber R.toRounding arg = none) cfg
        (setWritten R min max option error write arg) ↔
      ∃ v, tonumber R.toRounding arg = some v ∧ ((min : ℚ) ≤ v → v ≤ max → P v) := by
  obtain ⟨out, hout, hmeets⟩ := setWritten_outcome R Iff.rfl hwrite error
  rw [hout, Outcome.stepRight_single hmeets]

/-- Without a query interval there is nothing to compare with, and no number is needed. -/
theorem queryResponse_outcome (R : SignedRounding) (cfg : Config) (arg : Text) :
    ∃ out : Outcome, igmpConfigQueryResponseInterval R cfg arg =
        [out.event (.igmp .query_response_interval)] ∧
      out.Meets ((tonumber R.toRounding arg).isSome ∨ Unset cfg) (tonumber R.toRounding arg = none)
        (.igmp .query_response_interval) := by
  rw [igmpConfigQueryResponseInterval]
  cases hquery : cfg (.igmp .query_interval) with
  | none => exact ⟨.refuses _, rfl, .inr (by simp [Unset, hquery])⟩
  | some query =>
      dsimp only
      by_cases hnull : query = "null".toList
      · rw [if_pos hnull]
        exact ⟨.refuses _, rfl, .inr (by simp [Unset, hquery, hnull])⟩
      · by_cases hzero : query = "0".toList
        · rw [if_neg hnull, if_pos hzero]
          exact ⟨.refuses _, rfl, .inr (by simp [Unset, hquery, hzero])⟩
        · rw [if_neg hnull, if_neg hzero]
          have hset : ¬Unset cfg := fun hunset => (hunset query hquery).elim hnull hzero
          cases tonumber R.toRounding arg with
          | none =>
              refine ⟨.raises, rfl, iff_of_false ?_ (not_not.mpr rfl)⟩
              exact fun hsound => hsound.elim (by simp) hset
          | some v =>
              cases tonumber R.toRounding query with
              -- what is stored is no number: this is not about the argument
              | none => exact ⟨.raises, rfl, iff_of_true (.inl rfl) (Option.some_ne_none v)⟩
              | some limit =>
                  dsimp only
                  by_cases hle : R.round (limit / 100) ≤ v
                  · rw [if_pos hle]
                    exact ⟨.refuses _, rfl, .inl rfl⟩
                  · rw [if_neg hle]
                    exact ⟨.stores _, rfl, Option.some_ne_none v,
                      iff_of_true (.inl rfl) (announces_of_none rfl _)⟩

/-- **A command of IGMP is right exactly when its argument is.** -/
theorem igmpFunc_right (R : SignedRounding) (U : Ubus) (cfg : Config) (o : IgmpOption)
    (arg : Text) : StepRight (tonumber R.toRounding arg = none) cfg (igmpFunc R U cfg o arg) ↔
      IgmpSound R cfg arg o := by
  cases o with
  | igmp_snooping => exact iff_of_true (igmpSwitch_right rfl 1) trivial
  | multicast_querier => exact iff_of_true (igmpSwitch_right rfl 3) trivial
  | hash_max =>
      have hwrite : ∀ v : ℚ, ((1 : Nat) : ℚ) ≤ v → v ≤ ((1024 : Nat) : ℚ) →
          (True ↔ (Key.igmp .hash_max).Announces (U.text v)) :=
        fun v hle hge => iff_of_true trivial (announces_tableSize U hle hge)
      rw [igmpFunc, igmpConfigMaxSnoopingTableSize, setWritten_right hwrite, IgmpSound,
        Option.isSome_iff_exists]
      simp
  | robustness =>
      have hwrite : ∀ v : ℚ, ((2 : Nat) : ℚ) ≤ v → v ≤ ((255 : Nat) : ℚ) →
          (Whole 14 (id v) ↔ (Key.igmp .robustness).Announces (tostring v)) := by
        intro v hle hge
        rw [announces_iff rfl, inRange_tostring (by norm_num) (by norm_num) hle hge, id]
      exact setWritten_right hwrite _
  | query_interval =>
      have hwrite : ∀ v : ℚ, ((60 : Nat) : ℚ) ≤ v → v ≤ ((600 : Nat) : ℚ) →
          (Whole 14 (R.round (v * 100)) ↔
            (Key.igmp .query_interval).Announces (hundredths R v)) :=
        fun v => announces_hundredths rfl (by norm_num) le_rfl (by norm_num)
      exact setWritten_right hwrite _
  | query_response_interval =>
      obtain ⟨out, hout, hmeets⟩ := queryResponse_outcome R cfg arg
      rw [igmpFunc, hout, Outcome.stepRight_single hmeets]
      rfl
  | last_member_interval =>
      have hlast : 25 ≤ 1024 := by norm_num
      have hwrite : ∀ v : ℚ, ((1 : Nat) : ℚ) ≤ v → v ≤ ((25 : Nat) : ℚ) →
          (Whole 14 (R.round (v * 100)) ↔
            (Key.igmp .last_member_interval).Announces (hundredths R v)) :=
        fun v => announces_hundredths rfl (by norm_num) hlast (by norm_num)
      exact setWritten_right hwrite _

end Igmp

end Setters
