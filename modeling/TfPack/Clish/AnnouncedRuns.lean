import TfPack.Clish.Announced

set_option autoImplicit false

/-! # Sequences of STP and IGMP commands

A script looks its first argument up in a list of words, and `config_stp_port.lua` goes through the
ports of a range. From what one setter does follows what a call does (`Device.stepRight_iff`), and
from that what a sequence of calls does (`asAnnounced_iff`).
-/

namespace Setters

open AutoRestart Lua Clish SignificantDigits StepMachine
open Igmp (IgmpOption optionList)

/-! ## Words -/

section Words

variable {ι : Type} {l : List ι} {word : ι → Text}

/-- An argument is one word of the list, or none. -/
theorem filter_cases (h : ∀ c, l.filter (fun d => word c = word d) = [c]) (arg : Text) :
    (∃ c, l.filter (fun d => arg = word d) = [c] ∧ ∀ d, arg = word d ↔ d = c) ∨
      l.filter (fun d => arg = word d) = [] ∧ ∀ d, arg ≠ word d := by
  by_cases hword : ∃ c, arg = word c
  · obtain ⟨c, rfl⟩ := hword
    refine .inl ⟨c, h c, fun d => ⟨fun heq => ?_, fun heq => heq ▸ rfl⟩⟩
    have hd := h d
    rw [← heq, h c, List.singleton_inj] at hd
    exact hd.symm
  · push Not at hword
    refine .inr ⟨List.filter_eq_nil_iff.mpr fun d _ => ?_, hword⟩
    simpa using hword d

theorem StpCmd.filter_word (c : StpCmd) : stpCmdList.filter (fun d => c.word = d.word) = [c] := by
  cases c <;> decide

theorem PortOption.filter_word (o : PortOption) :
    cmdPortList.filter (fun d => o.word = d.word) = [o] := by
  cases o <;> decide

theorem filter_igmpWord (o : IgmpOption) :
    optionList.filter (fun d => igmpWord o = igmpWord d) = [o] := by
  cases o <;> decide

end Words

theorem inTurn_singleton (evs : List Event) : inTurn [evs] = evs := by
  rw [inTurn, inTurn, List.append_nil, ite_self]

/-- What does nothing can be left out. -/
theorem inTurn_map_ite {ι : Type} (p : ι → Prop) [DecidablePred p] (f : ι → List Event)
    (l : List ι) : inTurn (l.map (fun x => if p x then f x else [])) =
      inTurn ((l.filter (fun x => p x)).map f) := by
  induction l with
  | nil => rfl
  | cons x l ih =>
      by_cases hx : p x
      · rw [List.filter_cons_of_pos (by simpa using hx), List.map_cons, List.map_cons, if_pos hx,
          inTurn, inTurn, ih]
      · rw [List.filter_cons_of_neg (by simpa using hx), List.map_cons, if_neg hx, inTurn,
          if_neg List.not_mem_nil, List.nil_append, ih]

/-! ## The three scripts -/

section Scripts

variable {R : SignedRounding} {cfg : Config}

theorem runConfigStp_right (R : SignedRounding) (cfg : Config) (arg1 arg2 : Text) :
    StepRight ((Call.stp arg1 arg2).NotNumber R.toRounding) cfg (runConfigStp R arg1 arg2) ↔
      ∀ c : StpCmd, arg1 = c.word → c.Sound R arg2 := by
  rw [runConfigStp]
  rcases filter_cases StpCmd.filter_word arg1 with ⟨c, hfilter, hword⟩ | ⟨hfilter, hword⟩
  · obtain ⟨out, key, hfunc, hmeets⟩ := c.func_outcome R arg2
    have hnumber : (Call.stp arg1 arg2).NotNumber R.toRounding ↔
        c ≠ .protocol ∧ tonumber R.toRounding arg2 = none := by
      simp only [Call.NotNumber, hword, exists_eq_left]
    rw [hfilter, List.map_singleton, inTurn_singleton, hfunc, stepRight_congr hnumber,
      Outcome.stepRight_single hmeets]
    simp only [hword, forall_eq]
  · rw [hfilter, List.map_nil, inTurn]
    exact iff_of_true (stepRight_nil _ _) fun c hc => absurd hc (hword c)

theorem configIgmp_right (R : SignedRounding) (U : Ubus) (cfg : Config) (arg1 arg2 : Text) :
    StepRight ((Call.igmp arg1 arg2).NotNumber R.toRounding) cfg (configIgmp R U cfg arg1 arg2) ↔
      ∀ o, arg1 = igmpWord o → IgmpSound R cfg arg2 o := by
  rw [configIgmp]
  rcases filter_cases filter_igmpWord arg1 with ⟨o, hfilter, hword⟩ | ⟨hfilter, hword⟩
  · have hnumber : (Call.igmp arg1 arg2).NotNumber R.toRounding ↔
        tonumber R.toRounding arg2 = none := by
      simp only [Call.NotNumber, hword, exists_eq_left]
    rw [hfilter, List.map_singleton, inTurn_singleton, stepRight_congr hnumber,
      igmpFunc_right R U cfg o arg2]
    simp only [hword, forall_eq]
  · rw [hfilter, List.map_nil, inTurn]
    exact iff_of_true (stepRight_nil _ _) fun o ho => absurd ho (hword o)

/-- `checkPortRange` ends with an error of Lua without a number. -/
theorem checkPortRange_raised_iff (R : Rounding) (arg : Text) :
    checkPortRange R arg = .raised ↔ ¬Ranged R arg := by
  have hrange : ∀ r, Checked.range r ≠ .raised := by
    intro r heq
    cases heq
  rw [checkPortRange, Ranged]
  by_cases hall : arg = "all".toList
  · rw [if_pos hall]
    exact iff_of_false (hrange _) (not_not.mpr (.inl hall))
  · by_cases hswitch : arg = "switch".toList
    · rw [if_neg hall, if_pos hswitch]
      exact iff_of_false (hrange _) (not_not.mpr (.inr (.inl hswitch)))
    · rw [if_neg hall, if_neg hswitch]
      cases numbers R arg with
      | nil =>
          refine iff_of_true rfl ?_
          rintro (hword | hword | hne)
          · exact hall hword
          · exact hswitch hword
          · exact hne rfl
      | cons a rest =>
          refine iff_of_false ?_ (not_not.mpr (.inr (.inr (List.cons_ne_nil a rest))))
          cases rest with
          | nil => exact hrange _
          | cons b extra =>
              intro hraised
              by_cases hlt : b < a
              · simp only [if_pos hlt] at hraised
                cases hraised
              · simp only [if_neg hlt] at hraised
                cases hraised

/-- Every port of the bridge has a number. -/
theorem SwitchPorts.exists_portNum (R : SignedRounding) (ports : SwitchPorts) {x : Text}
    (hx : x ∈ ports.names) : ∃ n, portNum R x = some n := by
  obtain ⟨⟨num, str⟩, hport⟩ := Option.isSome_iff_exists.mp (ports.numbered x hx)
  have hdigits := (Lldp.of_getPort hport).2
  refine ⟨R.round (digitsVal num), ?_⟩
  rw [portNum, hport, Option.bind_some, tonumber_digits _ hdigits]

/-- One round of the loop. -/
theorem configPort_eq (ports : SwitchPorts) {r : Range} {arg2 arg3 x : Text}
    (hx : x ∈ ports.names) : configPort R r arg2 arg3 x =
      if Selected R r x then inTurn ((cmdPortList.filter (fun o => arg2 = o.word)).map
        (fun o => o.func R x arg3)) else [] := by
  obtain ⟨n, hn⟩ := ports.exists_portNum R hx
  have hselected : Selected R r x ↔ r.first ≤ n ∧ n ≤ r.last := by
    simp [Selected, hn]
  rw [configPort, hn]
  dsimp only
  simp only [hselected]

/-- The loop over the ports, for one option. -/
theorem portLoop_eq (ports : SwitchPorts) {r : Range} {arg2 arg3 : Text} {o : PortOption}
    (hfilter : cmdPortList.filter (fun o => arg2 = o.word) = [o]) {out : Outcome}
    (hfunc : ∀ port, o.func R port arg3 = [out.event (.port port o)]) :
    inTurn (ports.names.map (configPort R r arg2 arg3)) =
      inTurn (((ports.names.filter (fun x => Selected R r x)).map (fun x => Key.port x o)).map
        (fun key => [out.event key])) := by
  have hround : ∀ x ∈ ports.names, configPort R r arg2 arg3 x =
      if Selected R r x then [out.event (.port x o)] else [] := by
    intro x hx
    rw [configPort_eq ports hx, hfilter, List.map_singleton, inTurn_singleton, hfunc]
  rw [List.map_congr_left hround, inTurn_map_ite, List.map_map]
  rfl

/-- **The loop over the ports is right** when no port is in the range, or the argument is. -/
theorem portLoop_right (ports : SwitchPorts) (cfg : Config) {r : Range} {arg1 arg2 arg3 : Text}
    (hranged : Ranged R.toRounding arg1) :
    StepRight ((Call.stpPort arg1 arg2 arg3).NotNumber R.toRounding) cfg
        (inTurn (ports.names.map (configPort R r arg2 arg3))) ↔
      ((∃ x ∈ ports.names, Selected R r x) →
        ∀ o : PortOption, arg2 = o.word → o.Sound R arg3) := by
  rcases filter_cases PortOption.filter_word arg2 with ⟨o, hfilter, hword⟩ | ⟨hfilter, hword⟩
  · obtain ⟨out, hout⟩ := o.func_outcome R arg3
    have hnumber : (Call.stpPort arg1 arg2 arg3).NotNumber R.toRounding ↔
        o.NotNumber R.toRounding arg3 := by
      simp only [Call.NotNumber, hranged, not_true_eq_false, false_or, hword, exists_eq_left]
    have hmeets : ∀ key ∈ (ports.names.filter (fun x => Selected R r x)).map
        (fun x => Key.port x o), out.Meets (o.Sound R arg3) (o.NotNumber R.toRounding arg3) key := by
      intro key hkey
      obtain ⟨x, -, rfl⟩ := List.mem_map.mp hkey
      exact (hout x).2
    rw [portLoop_eq ports hfilter (fun port => (hout port).1), stepRight_congr hnumber,
      Outcome.stepRight_iff hmeets]
    simp [hword, List.filter_eq_nil_iff]
  -- the option is unknown: no round does anything
  · have hnothing : ∀ x ∈ ports.names, configPort R r arg2 arg3 x = if False then [] else [] := by
      intro x hx
      rw [configPort_eq ports hx, hfilter, List.map_nil, inTurn, ite_self, ite_self]
    rw [List.map_congr_left hnothing, inTurn_map_ite]
    simp only [decide_false, List.filter_false, List.map_nil, inTurn]
    exact iff_of_true (stepRight_nil _ _) fun _ o ho => absurd ho (hword o)

theorem runConfigStpPort_right (R : SignedRounding) (ports : SwitchPorts) (cfg : Config)
    (arg1 arg2 arg3 : Text) :
    StepRight ((Call.stpPort arg1 arg2 arg3).NotNumber R.toRounding) cfg
        (runConfigStpPort R ports arg1 arg2 arg3) ↔
      Ranged R.toRounding arg1 ∧ ∀ r, checkPortRange R.toRounding arg1 = .range r →
        (∃ x ∈ ports.names, Selected R r x) →
          ∀ o : PortOption, arg2 = o.word → o.Sound R arg3 := by
  have hraised := checkPortRange_raised_iff R.toRounding arg1
  have hranged : checkPortRange R.toRounding arg1 ≠ .raised → Ranged R.toRounding arg1 :=
    fun hne => by_contra fun hno => hne (hraised.mpr hno)
  rw [runConfigStpPort]
  cases hcheck : checkPortRange R.toRounding arg1 with
  | raised =>
      have hno : ¬Ranged R.toRounding arg1 := hraised.mp hcheck
      refine iff_of_false (fun hright => ?_) (fun hsound => hno hsound.1)
      exact (hright.refused (.inl (.inl hno))).2 (List.mem_singleton.mpr rfl)
  | wrong =>
      rw [hcheck] at hranged
      refine iff_of_true (stepRight_errors ?_) ⟨hranged nofun, nofun⟩
      simp
  | range r =>
      rw [hcheck] at hranged
      dsimp only
      rw [portLoop_right ports cfg (hranged nofun)]
      simp [hranged nofun]

end Scripts

/-! ## Runs -/

/-- **A call does what it announces exactly when its arguments are right.** -/
theorem Device.stepRight_iff (D : Device) (cfg : Config) (c : Call) :
    StepRight (c.NotNumber D.R.toRounding) cfg (D.events cfg c) ↔ D.Sound cfg c := by
  cases c with
  | stp arg1 arg2 => exact runConfigStp_right D.R cfg arg1 arg2
  | stpPort arg1 arg2 arg3 => exact runConfigStpPort_right D.R D.ports cfg arg1 arg2 arg3
  | igmp arg1 arg2 => exact configIgmp_right D.R D.ubus cfg arg1 arg2

section Runs

variable {D : Device} {cfg₀ cfg : Config} {vs : List (Visit Config Call Event)} {tr : List Event}

/-- A run is as announced when each of its calls is. -/
theorem asAnnounced_iff_steps (h : Exec D.machine cfg₀ vs tr cfg) :
    AsAnnounced D vs tr ↔
      ∀ v ∈ vs, StepRight (v.act.NotNumber D.R.toRounding) v.state (D.events v.state v.act) := by
  have hwritten : (∀ e ∈ tr, ∀ key value, e = .set key value → key.Announces value) ↔
      ∀ v ∈ vs, ∀ e ∈ D.events v.state v.act, ∀ key value, e = .set key value →
        key.Announces value := by
    refine h.forall_events_iff _ _ ?_
    rintro cfg tr c cfg' evs hstep
    obtain ⟨-, rfl⟩ := Prod.mk.inj (Option.some.inj hstep)
    rfl
  constructor
  · intro hann v hv
    refine ⟨fun key value hset => ?_, hann.refused v hv⟩
    exact hwritten.mp (fun e he key value heq => hann.written key value (heq ▸ he)) v hv _ hset
      key value rfl
  · intro hright
    refine ⟨fun key value hset => ?_, fun v hv => (hright v hv).refused⟩
    refine hwritten.mpr (fun v hv e he key value heq => ?_) _ hset key value rfl
    exact (hright v hv).written key value (heq ▸ he)

/-- What an option holds after a call. -/
theorem set_of_after {evs : List Event} {key : Key} {value : Text}
    (h : cfg.after evs key = some value) : cfg key = some value ∨ .set key value ∈ evs := by
  induction evs generalizing cfg with
  | nil => exact .inl h
  | cons e evs ih =>
      rcases ih h with hafter | hset
      · cases e with
        | set key' value' =>
            by_cases hkey : key = key'
            · subst hkey
              rw [Event.apply, Function.update_self, Option.some.injEq] at hafter
              subst hafter
              exact .inr List.mem_cons_self
            · rw [Event.apply, Function.update_of_ne hkey] at hafter
              exact .inl hafter
        | delete key' =>
            by_cases hkey : key = key'
            · subst hkey
              rw [Event.apply, Function.update_self] at hafter
              cases hafter
            · rw [Event.apply, Function.update_of_ne hkey] at hafter
              exact .inl hafter
        | error text => exact .inl hafter
        | raised => exact .inl hafter
      · exact .inr (List.mem_cons_of_mem _ hset)

/-- **An option that a run has left as announced** was so at first, or is in its range. -/
theorem AsAnnounced.option (hann : AsAnnounced D vs tr) (h : Exec D.machine cfg₀ vs tr cfg)
    {key : Key} {value : Text} (hvalue : cfg key = some value) :
    cfg₀ key = some value ∨ key.Announces value := by
  have hrun : ∀ key value, cfg key = some value →
      cfg₀ key = some value ∨ .set key value ∈ tr := by
    refine h.inv (fun cfg tr => ∀ key value, cfg key = some value →
      cfg₀ key = some value ∨ .set key value ∈ tr) (fun _ _ => .inl) ?_
    rintro cfg tr c cfg' evs hpast hstep key value hvalue
    obtain ⟨rfl, rfl⟩ := Prod.mk.inj (Option.some.inj hstep)
    rcases set_of_after hvalue with hbefore | hset
    · exact (hpast key value hbefore).imp_right (List.mem_append_left _)
    · exact .inr (List.mem_append_right _ hset)
  exact (hrun key value hvalue).imp_right (hann.written key value)

/-- **A sequence of commands keeps all settings as announced exactly when every call has the right
arguments.** -/
theorem asAnnounced_iff (h : Exec D.machine cfg₀ vs tr cfg) :
    AsAnnounced D vs tr ↔ ∀ v ∈ vs, D.Sound v.state v.act := by
  rw [asAnnounced_iff_steps h]
  exact forall₂_congr fun v _ => D.stepRight_iff v.state v.act

end Runs

/-! ## A device -/

/-- Two ports, and numbers as they are. -/
def twoPorts : Device where
  R := exactly
  ubus := cutOff
  ports := ⟨["lan1".toList, "lan2".toList], by decide⟩

theorem typed_of_decimalInteger {R : SignedRounding} {min max : Nat} {arg : Text} {m : ℤ}
    (h : DecimalInteger arg m) : Typed R min max arg :=
  ⟨_, tonumber_of_decimalInteger h, fun _ _ => ⟨m, h⟩⟩

theorem ranged_one : Ranged exactly.toRounding ['1'] := by
  have hdigit : Digits ['1'] := digits_of_all (by decide) (by decide)
  refine .inr (.inr ?_)
  rw [numbers_once hdigit]
  exact List.cons_ne_nil _ _

theorem checkPortRange_one :
    checkPortRange exactly.toRounding ['1'] = .range ⟨1, 1, .once, []⟩ := by
  have hdigit : Digits ['1'] := digits_of_all (by decide) (by decide)
  have hvalue : value exactly.toRounding ['1'] = 1 := rfl
  rw [checkPortRange, if_neg (by decide), if_neg (by decide), numbers_once hdigit, hvalue]

theorem selected_lan1 : Selected exactly ⟨1, 1, .once, []⟩ "lan1".toList := by
  have hdigit : Digits ['1'] := digits_of_all (by decide) (by decide)
  have hport : Lldp.getPort "lan1".toList = some (['1'], "lan".toList) := by decide
  refine ⟨1, ?_, le_rfl, le_rfl⟩
  rw [portNum, hport, Option.bind_some, tonumber_digits _ hdigit]
  rfl

/-- Decimal integers in their ranges. -/
theorem asAnnounced_iff_plain : ∃ vs tr cfg, Exec twoPorts.machine (fun _ => none) vs tr cfg ∧
    vs.map (fun v => v.act) = [.stp "ageing".toList "300".toList,
      .stpPort "1".toList "pathcost".toList "20000".toList,
      .igmp "query_interval".toList "60".toList] ∧ AsAnnounced twoPorts vs tr := by
  have hrun : Exec twoPorts.machine (fun _ => none) _ _ _ :=
    (Exec.empty twoPorts.machine (fun _ => none)).snoc
      (a := .stp "ageing".toList "300".toList) rfl |>.snoc
      (a := .stpPort "1".toList "pathcost".toList "20000".toList) rfl |>.snoc
      (a := .igmp "query_interval".toList "60".toList) rfl
  refine ⟨_, _, _, hrun, rfl, (asAnnounced_iff hrun).mpr ?_⟩
  rw [List.forall_mem_append, List.forall_mem_append, List.forall_mem_append,
    List.forall_mem_singleton, List.forall_mem_singleton, List.forall_mem_singleton]
  refine ⟨⟨⟨List.forall_mem_nil _, fun c hc => ?_⟩, ranged_one, fun r _ _ o ho => ?_⟩,
    fun o ho => ?_⟩
  · obtain rfl : c = .ageing := by
      cases c <;> first | rfl | exact absurd hc (by decide)
    exact typed_of_decimalInteger (decimalInteger_decimal 300)
  · obtain rfl : o = .pathcost := by
      cases o <;> first | rfl | exact absurd ho (by decide)
    exact ⟨20000, decimalInteger_decimal 20000, by norm_num, by norm_num⟩
  · obtain rfl : o = .query_interval := by
      cases o <;> first | rfl | exact absurd ho (by decide)
    have hscaled : exactly.round (60 * 100) = (6000 : Nat) := by
      show (60 * 100 : ℚ) = (6000 : Nat)
      norm_num
    have hwhole : significant 14 (exactly.round (60 * 100)) = (6000 : Nat) := by
      rw [hscaled]
      exact significant_natCast (by norm_num) (by norm_num)
    exact ⟨60, tonumber_of_decimalInteger (decimalInteger_decimal 60), fun _ _ => ⟨6000, hwhole⟩⟩

/-- **A path cost of 300000000 is stored.** -/
theorem pathcost_not_asAnnounced :
    ¬ ∀ (D : Device) (cfg₀ cfg : Config) (vs : List (Visit Config Call Event))
      (tr : List Event), Exec D.machine cfg₀ vs tr cfg → AsAnnounced D vs tr := by
  intro h
  have hrun : Exec twoPorts.machine (fun _ => none) _ _ _ :=
    (Exec.empty twoPorts.machine (fun _ => none)).snoc
      (a := .stpPort "1".toList "pathcost".toList "300000000".toList) rfl
  have hsteps := (asAnnounced_iff_steps hrun).mp (h _ _ _ _ _ hrun)
  have hsound := (twoPorts.stepRight_iff _ _).mp (hsteps _ List.mem_cons_self)
  obtain ⟨m, hm, -, hle⟩ := hsound.2 _ checkPortRange_one
    ⟨"lan1".toList, List.mem_cons_self, selected_lan1⟩ .pathcost rfl
  have hstored : tonumber exactly.toRounding "300000000".toList = some 300000000 :=
    tonumber_of_decimalInteger (decimalInteger_decimal 300000000)
  have hkept : exactly.round m = (m : ℚ) := rfl
  rw [tonumber_of_decimalInteger hm, Option.some.injEq, hkept] at hstored
  have hvalue : m = 300000000 := by exact_mod_cast hstored
  omega

end Setters
