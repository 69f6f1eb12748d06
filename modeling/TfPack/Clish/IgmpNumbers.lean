import TfPack.Clish.AnnouncedRuns

set_option autoImplicit false

/-! # The commands of IGMP on decimal numbers

`Igmp.configIgmp` takes numbers and keeps numbers, the script takes texts and keeps texts. On decimal
numbers they do the same (`configIgmp_shows`), and so do sequences of commands (`igmpRun_shows`):
what holds of the intervals in every run of numbers holds of the texts that are stored.
-/

namespace Setters

open AutoRestart Lua StepMachine
open Igmp (IgmpOption Switch optionList)
open Vlan (decimal)

/-- The texts that are stored are the numbers of a switch. -/
def Shows (sw : Switch) (cfg : Config) : Prop :=
  ∀ o, cfg (.igmp o) = (sw o).map decimal

section Commands

variable {sw : Switch} {cfg : Config} {n : Nat}

/-! ## Setting and deleting -/

theorem Shows.set (h : Shows sw cfg) (option : IgmpOption) (n : Nat) :
    Shows (Igmp.uciSet option n sw) (cfg.after [.set (.igmp option) (decimal n)]) := by
  intro o
  by_cases ho : o = option
  · subst ho
    have hnum : Igmp.uciSet o n sw o = some n := Function.update_self _ _ _
    rw [hnum]
    exact Function.update_self _ _ _
  · have hkey : Key.igmp o ≠ .igmp option := fun heq => ho (Key.igmp.inj heq)
    have hnum : Igmp.uciSet option n sw o = sw o := Function.update_of_ne ho _ _
    rw [hnum, ← h o]
    exact Function.update_of_ne hkey _ _

theorem Shows.unset (h : Shows sw cfg) (option : IgmpOption) :
    Shows (Function.update sw option none) (Event.apply cfg (.delete (.igmp option))) := by
  intro o
  by_cases ho : o = option
  · subst ho
    rw [Function.update_self]
    exact Function.update_self _ _ _
  · have hkey : Key.igmp o ≠ .igmp option := fun heq => ho (Key.igmp.inj heq)
    rw [Function.update_of_ne ho, ← h o]
    exact Function.update_of_ne hkey _ _

theorem Shows.delete (l : List IgmpOption) (h : Shows sw cfg) :
    Shows (l.foldl (fun sw option => Function.update sw option none) sw)
      (cfg.after (l.map (fun o => .delete (.igmp o)))) := by
  induction l generalizing sw cfg with
  | nil => exact h
  | cons option l ih => exact ih (h.unset option)

/-! ## One command -/

theorem tonumber_decimal (n : Nat) : tonumber exactly.toRounding (decimal n) = some (n : ℚ) := by
  rw [tonumber_of_decimalInteger (decimalInteger_decimal n)]
  exact congrArg some (Int.cast_natCast n)

theorem hundredths_decimal (hn : n < 10 ^ 12) : hundredths exactly n = decimal (n * 100) := by
  have hscaled : exactly.round ((n : ℚ) * 100) = ((n * 100 : Nat) : ℚ) := by
    push_cast
    rfl
  rw [hundredths, hscaled, tostring_natCast (by omega)]

theorem igmpSwitch_shows (h : Shows sw cfg) (option : IgmpOption) (start n : Nat) :
    Shows (Igmp.configSwitch option start n sw).1
      (cfg.after (igmpSwitch exactly option start (decimal n))) := by
  rw [igmpSwitch, tonumber_decimal]
  rcases n with _ | _ | n
  · rw [if_neg (by simp), if_pos (by simp)]
    exact h.delete _
  · rw [if_pos (by simp)]
    exact h.set option 1
  · have hone : ¬some ((n + 1 + 1 : Nat) : ℚ) = some 1 := by
      rw [Option.some.injEq]
      exact_mod_cast (by omega : n + 1 + 1 ≠ 1)
    have hzero : ¬some ((n + 1 + 1 : Nat) : ℚ) = some 0 := by
      rw [Option.some.injEq]
      exact_mod_cast Nat.succ_ne_zero (n + 1)
    rw [if_neg hone, if_neg hzero]
    exact h

theorem setWritten_shows (h : Shows sw cfg) {min max unit : Nat} {option : IgmpOption}
    {write : ℚ → Text} (hwrite : min ≤ n → n ≤ max → write n = decimal (n * unit))
    (error error' : String) :
    Shows (Igmp.configRange min max unit error option n sw).1
      (cfg.after (setWritten exactly min max option error' write (decimal n))) := by
  have hout : (n : ℚ) < min ∨ (max : ℚ) < n ↔ n < min ∨ max < n := by
    rw [Nat.cast_lt, Nat.cast_lt]
  rw [Igmp.configRange, setWritten, tonumber_decimal]
  dsimp only
  by_cases hbad : n < min ∨ max < n
  · rw [if_pos hbad, if_pos (hout.mpr hbad)]
    exact h
  · rw [if_neg hbad, if_neg (fun hrat => hbad (hout.mp hrat)), hwrite (by omega) (by omega)]
    exact h.set option _

/-- The text of a number is no word, and `0` for zero only. -/
theorem decimal_eq_zero_iff (n : Nat) : decimal n = "0".toList ↔ n = 0 := by
  constructor
  · intro heq
    have hval : digitsVal (decimal n) = n := digitsVal_toDigits n
    rw [heq] at hval
    exact hval.symm
  · rintro rfl
    rfl

theorem decimal_ne_null (n : Nat) : decimal n ≠ "null".toList := by
  intro heq
  have hdigits : Digits (decimal n) := digits_toDigits n
  rw [heq] at hdigits
  exact absurd (hdigits.2 'n' List.mem_cons_self) (by decide)

theorem queryResponse_shows (h : Shows sw cfg) (hn : n < 10 ^ 12) :
    Shows (Igmp.igmpConfigQueryResponseInterval n sw).1
      (cfg.after (igmpConfigQueryResponseInterval exactly cfg (decimal n))) := by
  have hstored := h .query_interval
  rw [Igmp.igmpConfigQueryResponseInterval, igmpConfigQueryResponseInterval, Igmp.getIgmpSatus,
    hstored]
  rcases sw .query_interval with _ | _ | query
  · exact h
  · exact h
  · have hzero : decimal (query + 1) ≠ "0".toList := by
      rw [Ne, decimal_eq_zero_iff]
      exact Nat.succ_ne_zero query
    have hlimit : exactly.round (((query + 1 : Nat) : ℚ) / 100) ≤ n ↔ query + 1 ≤ n * 100 := by
      show ((query + 1 : Nat) : ℚ) / 100 ≤ n ↔ _
      rw [div_le_iff₀ (by norm_num)]
      exact_mod_cast Iff.rfl
    simp only [Option.map_some, if_neg (decimal_ne_null _), if_neg hzero, tonumber_decimal]
    by_cases hle : query + 1 ≤ n * Igmp.cantiSec
    · rw [if_pos hle, if_pos (hlimit.mpr hle)]
      exact h
    · rw [if_neg hle, if_neg (fun hrat => hle (hlimit.mp hrat)), hundredths_decimal hn]
      exact h.set _ _

/-- **On decimal numbers the script does what the command on numbers does.** -/
theorem configIgmp_shows (U : Ubus) (h : Shows sw cfg) (o : IgmpOption) (hn : n < 10 ^ 12) :
    Shows (Igmp.configIgmp o n sw).1
      (cfg.after (configIgmp exactly U cfg (igmpWord o) (decimal n))) := by
  rw [configIgmp, filter_igmpWord, List.map_singleton, inTurn_singleton]
  cases o with
  | igmp_snooping => exact igmpSwitch_shows h _ 1 n
  | multicast_querier => exact igmpSwitch_shows h _ 3 n
  | hash_max =>
      -- a whole number has only itself next to it
      refine setWritten_shows h (fun _ hmax => ?_) _ _
      have hsmall : (n : ℚ) < 2 ^ 31 := by exact_mod_cast (by omega : n < 2 ^ 31)
      obtain ⟨m, htext, hfloor, hceil⟩ := U.whole n (Nat.cast_nonneg n) hsmall
      rw [Nat.floor_natCast] at hfloor
      rw [Nat.ceil_natCast] at hceil
      rw [htext, Nat.mul_one, le_antisymm hceil hfloor]
  | robustness =>
      refine setWritten_shows h (fun _ hmax => ?_) _ _
      rw [tostring_natCast (by omega), Nat.mul_one]
  | query_interval => exact setWritten_shows h (fun _ _ => hundredths_decimal hn) _ _
  | query_response_interval => exact queryResponse_shows h hn
  | last_member_interval => exact setWritten_shows h (fun _ _ => hundredths_decimal hn) _ _

end Commands

/-! ## Runs -/

/-- The call of a command with a number. -/
def igmpCall (c : IgmpOption × Nat) : Call := .igmp (igmpWord c.1) (decimal c.2)

/-- **Every run of commands with numbers is a run of the script**, and ends with the texts of the
same numbers. -/
theorem igmpRun_shows (U : Ubus) (ports : SwitchPorts) {sw₀ sw : Switch} {cfg₀ : Config}
    (h₀ : Shows sw₀ cfg₀) {vs : List (Visit Switch (IgmpOption × Nat) String)}
    {tr : List String} (h : Exec Igmp.igmpMachine sw₀ vs tr sw)
    (hsmall : ∀ v ∈ vs, v.act.2 < 10 ^ 12) :
    ∃ ws evs cfg, Exec (Device.machine ⟨exactly, U, ports⟩) cfg₀ ws evs cfg ∧
      ws.map (fun w => w.act) = vs.map (fun v => igmpCall v.act) ∧ Shows sw cfg := by
  induction h with
  | nil => exact ⟨[], [], cfg₀, .nil, rfl, h₀⟩
  | @snoc vs tr evs sw sw' c _ hstep ih =>
      rw [List.forall_mem_append, List.forall_mem_singleton] at hsmall
      obtain ⟨ws, es, cfg, hrun, hacts, hshows⟩ := ih hsmall.1
      obtain ⟨rfl, -⟩ := Prod.mk.inj (Option.some.inj hstep)
      refine ⟨_, _, _, hrun.snoc (a := igmpCall c) rfl, ?_, configIgmp_shows U hshows c.1 hsmall.2⟩
      rw [List.map_append, List.map_append, hacts]
      rfl

end Setters
