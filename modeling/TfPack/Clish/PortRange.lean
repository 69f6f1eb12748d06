import TfPack.AutoRestart.ClockTexts
import TfPack.Vlan.Config

set_option autoImplicit false

/-! # Ranges of ports: `checkPortRange` and its callers

`tf.checkPortRange` takes a text apart at its hyphens and keeps the parts that are numbers: empty
parts and parts that are none leave no trace, and what follows the second number is not looked at.
Without any number it compares `nil` with `nil`. It is right about the forms it is made for, and
where it finds two numbers in the wrong order (`right_iff`). Of a text of numbers it makes what the
VLAN commands take for a range (`checkPortRange_vlanText`).
-/

namespace Clish

open AutoRestart Lua Tokens
open Vlan (VlanRange VlanInfo Net decimal getVlanArr)

/-! ## The check -/

inductive Kind
  | all | switch | range | once
  deriving DecidableEq, Repr

/-- The table that is returned: two numbers, the kind, and further numbers behind it. -/
structure Range where
  first : ℚ
  last : ℚ
  kind : Kind
  extra : List ℚ

/-- What `checkPortRange` does: it returns a range, prints an error and returns `nil`, or ends with
an error of Lua. -/
inductive Checked
  | range (r : Range)
  | wrong
  | raised

/-- The numbers among the parts, `[^-]+`. Inserting `nil` into a table changes nothing. -/
def numbers (R : Rounding) (range : Text) : List ℚ :=
  (tokens (· == '-') range).filterMap (tonumber R)

/-- `checkPortRange`. -/
def checkPortRange (R : Rounding) (range : Text) : Checked :=
  if range = "all".toList then .range ⟨1, 10, .all, []⟩
  else if range = "switch".toList then .range ⟨0, 0, .switch, []⟩
  else
    match numbers R range with
    | [] => .raised
    | [a] => .range ⟨a, a, .once, []⟩
    | a :: b :: extra => if b < a then .wrong else .range ⟨a, b, .range, extra⟩

/-- The range that is returned, if any. -/
def Checked.result : Checked → Option Range
  | .range r => some r
  | .wrong => none
  | .raised => none

/-! ## The ranges there are -/

/-- The value that Lua has of decimal digits. -/
def value (R : Rounding) (x : Text) : ℚ := R.round (digitsVal x)

/-- The texts of a range, with its ends. -/
inductive Meant (R : Rounding) : Text → ℚ → ℚ → Prop
  | all : Meant R "all".toList 1 10
  | switch : Meant R "switch".toList 0 0
  | once {x : Text} (hx : Digits x) : Meant R x (value R x) (value R x)
  | range {x y : Text} (hx : Digits x) (hy : Digits y) (hle : digitsVal x ≤ digitsVal y) :
      Meant R (x ++ '-' :: y) (value R x) (value R y)

/-- A text is checked right: its range is returned, and what is none is reported. -/
structure Right (R : Rounding) (s : Text) : Prop where
  range : ∀ a b, (∃ r, checkPortRange R s = .range r ∧ r.first = a ∧ r.last = b) ↔ Meant R s a b
  wrong : (∀ a b, ¬Meant R s a b) → checkPortRange R s = .wrong

/-- The first two numbers stand in the wrong order. -/
def Reversed (R : Rounding) (s : Text) : Prop :=
  ∃ a b extra, numbers R s = a :: b :: extra ∧ b < a

section Check

variable {R : Rounding} {s x y : Text}

theorem not_hyphen_of_digits (hx : Digits x) : ∀ c ∈ x, (c == '-') = false := by
  intro c hc
  rw [beq_eq_false_iff_ne]
  exact ne_of_isDigit (hx.2 c hc) (by decide)

/-- One numeral is one number. -/
theorem numbers_once (hx : Digits x) : numbers R x = [value R x] := by
  have hparts := @tokens_block Char (· == '-') _ [] (not_hyphen_of_digits hx) hx.1 (by simp)
  rw [List.append_nil] at hparts
  rw [numbers, hparts, List.filterMap_cons_some (tonumber_digits R hx)]
  rfl

/-- Two numerals with a hyphen are two numbers. -/
theorem numbers_range (hx : Digits x) (hy : Digits y) :
    numbers R (x ++ '-' :: y) = [value R x, value R y] := by
  have hparts : tokens (· == '-') (x ++ '-' :: y) = x :: tokens (· == '-') y := by
    rw [tokens_block (not_hyphen_of_digits hx) hx.1 (by simp), tokens_sep rfl]
  have hrest : (tokens (· == '-') y).filterMap (tonumber R) = [value R y] := numbers_once hy
  rw [numbers, hparts, List.filterMap_cons_some (tonumber_digits R hx), hrest]
  rfl

theorem ne_of_digits (hx : Digits x) {t : Text} (ht : ∃ c ∈ t, c.isDigit = false) : x ≠ t := by
  rintro rfl
  obtain ⟨c, hc, hno⟩ := ht
  rw [hx.2 c hc] at hno
  cases hno

theorem ne_of_hyphen {t : Text} (ht : '-' ∉ t) : x ++ '-' :: y ≠ t := by
  rintro rfl
  exact ht (by simp)

/-- **The range of a text that has one is returned.** -/
theorem checkPortRange_of_meant {a b : ℚ} (h : Meant R s a b) :
    ∃ kind, checkPortRange R s = .range ⟨a, b, kind, []⟩ := by
  cases h with
  | all => exact ⟨.all, rfl⟩
  | switch => exact ⟨.switch, rfl⟩
  | once hx =>
      have hall := ne_of_digits hx (t := "all".toList) ⟨'a', by decide, by decide⟩
      have hswitch := ne_of_digits hx (t := "switch".toList) ⟨'s', by decide, by decide⟩
      exact ⟨.once, by rw [checkPortRange, if_neg hall, if_neg hswitch, numbers_once hx]⟩
  | @range x y hx hy hle =>
      have hall : x ++ '-' :: y ≠ "all".toList := ne_of_hyphen (by decide)
      have hswitch : x ++ '-' :: y ≠ "switch".toList := ne_of_hyphen (by decide)
      have hround : value R x ≤ value R y := R.mono (by exact_mod_cast hle)
      refine ⟨.range, ?_⟩
      rw [checkPortRange, if_neg hall, if_neg hswitch, numbers_range hx hy]
      exact if_neg (not_lt.mpr hround)

/-- An error is reported for two numbers in the wrong order, and for nothing else. -/
theorem checkPortRange_wrong_iff (hno : ∀ a b, ¬Meant R s a b) :
    checkPortRange R s = .wrong ↔ Reversed R s := by
  have hall : s ≠ "all".toList := fun h => hno 1 10 (h ▸ Meant.all)
  have hswitch : s ≠ "switch".toList := fun h => hno 0 0 (h ▸ Meant.switch)
  rw [checkPortRange, if_neg hall, if_neg hswitch, Reversed]
  cases hnums : numbers R s with
  | nil => exact iff_of_false nofun (by simp)
  | cons a rest =>
      cases rest with
      | nil => exact iff_of_false nofun (by simp)
      | cons b extra =>
          constructor
          · intro h
            refine ⟨a, b, extra, rfl, ?_⟩
            by_contra hlt
            simp only [if_neg hlt] at h
            cases h
          · rintro ⟨a', b', extra', heq, hlt⟩
            cases heq
            exact if_pos hlt

/-- **A text is checked right**: exactly when it has the form of a range, or its first two numbers
stand in the wrong order. -/
theorem right_iff (R : Rounding) (s : Text) :
    Right R s ↔ (∃ a b, Meant R s a b) ∨ Reversed R s := by
  constructor
  · intro hright
    by_cases hm : ∃ a b, Meant R s a b
    · exact .inl hm
    · have hno : ∀ a b, ¬Meant R s a b := fun a b h => hm ⟨a, b, h⟩
      exact .inr ((checkPortRange_wrong_iff hno).mp (hright.wrong hno))
  · intro h
    by_cases hm : ∃ a b, Meant R s a b
    · obtain ⟨a, b, hab⟩ := hm
      obtain ⟨kind, hcheck⟩ := checkPortRange_of_meant hab
      refine ⟨fun a' b' => ⟨?_, fun h' => ?_⟩, fun hno => absurd hab (hno a b)⟩
      · rintro ⟨r, hr, rfl, rfl⟩
        rw [hcheck] at hr
        cases hr
        exact hab
      · obtain ⟨kind', hcheck'⟩ := checkPortRange_of_meant h'
        exact ⟨_, hcheck', rfl, rfl⟩
    · have hno : ∀ a b, ¬Meant R s a b := fun a b h => hm ⟨a, b, h⟩
      have hwrong := (checkPortRange_wrong_iff hno).mpr (h.resolve_left hm)
      refine ⟨fun a b => iff_of_false ?_ (hno a b), fun _ => hwrong⟩
      rintro ⟨r, hr, -⟩
      rw [hwrong] at hr
      cases hr

end Check

/-! ## The callers -/

/-- What a command does with the result: it ends after what it prints, it goes on, or it ends with
an error of Lua. -/
inductive Next
  | stop (printed : List String)
  | goOn (range : Option Range)
  | raise

/-- A command that tests the result first. -/
def guarded (errors : List String) : Option Range → Next
  | none => .stop errors
  | some r => .goOn (some r)

/-- A command that looks at the kind at once. -/
def byKind (kinds : List Kind) (error : String) : Option Range → Next
  | none => .raise
  | some r => if kinds.contains r.kind then .goOn (some r) else .stop [error]

/-- `set_ports` of `config_lldp.lua`. -/
def setPorts : Option Range → Next
  | none => .stop []
  | some r => if [Kind.range, .once].contains r.kind then .goOn (some r) else .stop []

/-- `run_show_lldp`. -/
def runShowLldp : Option Range → Next := guarded ["error: lldp port range is wrong"]

/-- `run_config_ar`. The table it is given is never the text `switch`. -/
def runConfigAr : Option Range → Next := guarded ["Port range is wrong"]

/-- `run_config_stp_port`. -/
def runConfigStpPort : Option Range → Next := guarded ["error: stp port range is wrong\n"]

/-- `run_stp_show_config`. -/
def runStpShowConfig : Option Range → Next := guarded ["error: stp port range is wrong\n"]

/-- `main_show_igmp`. -/
def mainShowIgmp : Option Range → Next := guarded []

/-- `stp_status_main`: it tests the text, not the result. -/
def stpStatusMain : Option Range → Next := .goOn

/-- `run_mian_net` of `fdb.lua`. -/
def runMianNet : Option Range → Next := byKind [.once, .range] "port range not corrected"

/-- `set_port_config` of `show_packets.lua`. -/
def showPackets : Option Range → Next := byKind [.once, .range] "port range not corrected"

/-- `run_show_ports`. -/
def runShowPorts : Option Range → Next := byKind [.once, .range] "port range not corrected"

/-- `set_port_config` of `config_ports_poe.lua`. -/
def setPortConfig : Option Range → Next := byKind [.all, .range, .once] "port range not corrected"

/-- `run_config_vlan` for `mngt_vlan`. -/
def mngtVlan : Option Range → Next := byKind [.once] "error: vlan id not corrected"

/-- The commands with one range. -/
inductive Caller
  | setPorts | showLldp | configAr | configStpPort | showStpConfig | showIgmp | stpStatus
  | fdb | packets | showPorts | portConfig | mngtVlan
  deriving DecidableEq, Repr

def Caller.next : Caller → Option Range → Next
  | .setPorts => Clish.setPorts
  | .showLldp => runShowLldp
  | .configAr => runConfigAr
  | .configStpPort => runConfigStpPort
  | .showStpConfig => runStpShowConfig
  | .showIgmp => mainShowIgmp
  | .stpStatus => stpStatusMain
  | .fdb => runMianNet
  | .packets => showPackets
  | .showPorts => runShowPorts
  | .portConfig => setPortConfig
  | .mngtVlan => Clish.mngtVlan

/-- Without a range the command ends, after an error at most. -/
def Caller.Refuses (c : Caller) : Prop := ∃ printed, c.next none = .stop printed

/-- The command tests whether there is a range. -/
def Caller.Tests (c : Caller) : Prop :=
  c ∈ [Caller.setPorts, .showLldp, .configAr, .configStpPort, .showStpConfig, .showIgmp]

theorem Caller.refuses_iff (c : Caller) : c.Refuses ↔ c.Tests := by
  cases c
  case setPorts | showLldp | configAr | configStpPort | showStpConfig | showIgmp =>
    exact iff_of_true ⟨_, rfl⟩ (by simp [Tests])
  case stpStatus | fdb | packets | showPorts | portConfig | mngtVlan =>
    exact iff_of_false (fun ⟨_, h⟩ => by cases h) (by simp [Tests])

/-! ## `run_config_vlan` for `vlan_id` -/

/-- `cmdVlanList`. -/
inductive VlanCmd
  | add | edit | delete | name | state | mngt_vlan | show
  deriving DecidableEq, Repr

/-- A run: the VLANs it creates, and whether it goes on to the command. -/
structure VlanRun where
  created : List Nat
  goesOn : Bool

/-- The VLANs that `add` creates: those of the range that are not there. -/
def missing (vlanArr : List VlanInfo) (vlans : VlanRange) : List Nat :=
  vlans.created.filter (fun num => vlanArr.all (fun v => v.num != num))

/-- `run_config_vlan` for `vlan_id`, up to the command; `none` is an error of Lua. The ranges are
tested together, after `add` has looked at the kind of the first. -/
def runVlanId (R : Rounding) (cmd : VlanCmd) (vlans : VlanRange) (portList : Text) (net : Net) :
    Option VlanRun :=
  match checkPortRange R portList, getVlanArr net with
  | .raised, _ => none
  | _, none => none
  | ports, some (vlanArr, _) =>
      let goesOn := ports.result.isSome && vlans.check.isSome
      match cmd, vlans.check with
      | .add, none => none
      | .add, some _ => some ⟨missing vlanArr vlans, goesOn⟩
      | _, _ => some ⟨[], goesOn⟩

/-- A command line of `vlan_id`, and the configuration it meets. -/
structure VlanLine where
  cmd : VlanCmd
  vlans : VlanRange
  portList : Text
  net : Net

/-- There is no range of ports, or none of VLANs. -/
def VlanLine.NoRange (R : Rounding) (l : VlanLine) : Prop :=
  checkPortRange R l.portList = .wrong ∨
    (∃ r, checkPortRange R l.portList = .range r) ∧ l.vlans.check = none

/-- Without a range the command does nothing. -/
def VlanLine.Refuses (R : Rounding) (l : VlanLine) : Prop :=
  l.NoRange R → runVlanId R l.cmd l.vlans l.portList l.net = some ⟨[], false⟩

/-- The configuration can be read, and `add` has a range of VLANs that are all there. -/
def VlanLine.Harmless (l : VlanLine) : Prop :=
  ∃ vlanArr deleted, getVlanArr l.net = some (vlanArr, deleted) ∧
    (l.cmd = .add → l.vlans.check ≠ none ∧
      ∀ num ∈ l.vlans.created, ∃ v ∈ vlanArr, v.num = num)

theorem missing_eq_nil_iff (vlanArr : List VlanInfo) (vlans : VlanRange) :
    missing vlanArr vlans = [] ↔ ∀ num ∈ vlans.created, ∃ v ∈ vlanArr, v.num = num := by
  simp [missing, List.filter_eq_nil_iff]

/-- A run without a range. -/
theorem runVlanId_of_noRange {R : Rounding} {l : VlanLine} (hno : l.NoRange R)
    {vlanArr : List VlanInfo} {deleted : List Vlan.Text}
    (harr : getVlanArr l.net = some (vlanArr, deleted)) :
    runVlanId R l.cmd l.vlans l.portList l.net =
      if l.cmd = .add then
        if l.vlans.check = none then none else some ⟨missing vlanArr l.vlans, false⟩
      else some ⟨[], false⟩ := by
  obtain hwrong | ⟨⟨r, hr⟩, hnil⟩ := hno
  · cases hcmd : l.cmd <;> cases hcheck : l.vlans.check <;>
      simp [runVlanId, hwrong, harr, hcheck, Checked.result]
  · cases hcmd : l.cmd <;> simp [runVlanId, hr, harr, hnil, Checked.result]

theorem runVlanId_unreadable (R : Rounding) {l : VlanLine} (harr : getVlanArr l.net = none) :
    runVlanId R l.cmd l.vlans l.portList l.net = none := by
  cases hcheck : checkPortRange R l.portList <;> simp [runVlanId, hcheck, harr]

/-- **A VLAN command without a range does nothing**: exactly when the configuration can be read,
and it is not `add` with VLANs to create or without a range of VLANs. -/
theorem VlanLine.refuses_iff (R : Rounding) (l : VlanLine) :
    l.Refuses R ↔ (l.NoRange R → l.Harmless) := by
  refine imp_congr_right (fun hno => ?_)
  rw [Harmless]
  cases harr : getVlanArr l.net with
  | none =>
      rw [runVlanId_unreadable R harr]
      exact iff_of_false nofun (by simp)
  | some p =>
      obtain ⟨vlanArr, deleted⟩ := p
      rw [runVlanId_of_noRange hno harr]
      simp only [Option.some.injEq, Prod.mk.injEq, ← missing_eq_nil_iff]
      by_cases hcmd : l.cmd = .add
      · rw [if_pos hcmd]
        by_cases hcheck : l.vlans.check = none
        · rw [if_pos hcheck]
          exact iff_of_false nofun (fun ⟨_, _, _, h⟩ => (h hcmd).1 hcheck)
        · rw [if_neg hcheck]
          simp [hcmd, hcheck]
      · simp [hcmd]

/-- The text of a range of VLANs. -/
def vlanText : VlanRange → Text
  | .once num => decimal num
  | .range first last => decimal first ++ '-' :: decimal last
  | .all => "all".toList

/-- Lua keeps the numbers of a range. -/
def Kept : VlanRange → Prop
  | .once num => num ≤ 2 ^ 53
  | .range first last => first ≤ 2 ^ 53 ∧ last ≤ 2 ^ 53
  | .all => True

theorem value_decimal (R : Rounding) {n : Nat} (h : n ≤ 2 ^ 53) : value R (decimal n) = n := by
  rw [value, decimal, digitsVal_toDigits, R.exact n h]

/-- Two numbers that Lua keeps are compared as they are. -/
theorem checkPortRange_decimal (R : Rounding) {a b : Nat} (ha : a ≤ 2 ^ 53) (hb : b ≤ 2 ^ 53) :
    checkPortRange R (decimal a ++ '-' :: decimal b) =
      if b < a then .wrong else .range ⟨a, b, .range, []⟩ := by
  have hda : Digits (decimal a) := digits_toDigits a
  have hdb : Digits (decimal b) := digits_toDigits b
  have hall : decimal a ++ '-' :: decimal b ≠ "all".toList := ne_of_hyphen (by decide)
  have hswitch : decimal a ++ '-' :: decimal b ≠ "switch".toList := ne_of_hyphen (by decide)
  rw [checkPortRange, if_neg hall, if_neg hswitch, numbers_range hda hdb, value_decimal R ha,
    value_decimal R hb]
  simp only [Nat.cast_lt]

/-- **The ranges of VLANs are checked as `VlanRange.check` has it**, as far as Lua keeps their
numbers. -/
theorem checkPortRange_vlanText (R : Rounding) {vlans : VlanRange} (h : Kept vlans) :
    (checkPortRange R (vlanText vlans)).result.map (fun r => (r.first, r.last)) =
      vlans.check.map (fun p => ((p.1 : ℚ), (p.2 : ℚ))) := by
  cases vlans with
  | once num =>
      have hm := Meant.once (R := R) (digits_toDigits num)
      obtain ⟨kind, hcheck⟩ := checkPortRange_of_meant hm
      rw [vlanText, decimal, hcheck, ← decimal, value_decimal R h]
      rfl
  | range first last =>
      rw [vlanText, checkPortRange_decimal R h.1 h.2, VlanRange.check]
      by_cases hlt : last < first
      · simp [hlt, Checked.result]
      · simp [hlt, Checked.result]
  | all => rfl

/-- **Ranges are checked right**, of a text, of the command that reads it and of the two ranges of
a VLAN command. -/
theorem portRange_iff (R : Rounding) (s : Text) (c : Caller) (l : VlanLine) :
    (Right R s ↔ (∃ a b, Meant R s a b) ∨ Reversed R s) ∧
      (c.Refuses ↔ c.Tests) ∧ (l.Refuses R ↔ (l.NoRange R → l.Harmless)) :=
  ⟨right_iff R s, c.refuses_iff, l.refuses_iff R⟩

/-- **A range without numbers ends with an error of Lua**, and `show_port.lua` does so without a
range. -/
theorem no_numbers_raises : ¬Right unrounded "lan".toList ∧ ¬Caller.showPorts.Refuses := by
  have hraised : checkPortRange unrounded "lan".toList = .raised := rfl
  refine ⟨fun h => ?_, fun h => ?_⟩
  · have hno : ∀ a b, ¬Meant unrounded "lan".toList a b := by
      intro a b hm
      obtain ⟨kind, hcheck⟩ := checkPortRange_of_meant hm
      rw [hraised] at hcheck
      cases hcheck
    rw [h.wrong hno] at hraised
    cases hraised
  · obtain ⟨printed, hstop⟩ := h
    cases hstop

end Clish
