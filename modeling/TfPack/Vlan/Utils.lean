import Mathlib.Data.List.AList
import TfPack.Lib.LuaPattern

set_option autoImplicit false

/-! # VLAN ports: `vlan_utils.lua`

The configuration has a list of port names for each VLAN, `lan3` for an untagged port and `lan3:t`
for a tagged one. The commands work on a decoded copy, a table from the numbers of ports to `U` and
`T`, and write the names of a table back. The number of a tagged port is taken out of its name with
`(%w+)(%d+):(%a+)`, where `%w+` takes digits too, and leaves the last one: `lan10:t` is decoded as
port 0 (`getPortType_tagged`).
-/

namespace Vlan

open LuaPattern

abbrev Text := List Char

/-! ## Ports -/

/-- `tagget_enum`. -/
inductive PortState
  | tagged | untagged
  deriving DecidableEq, Repr

/-- The number in a name or a command. -/
def decimal (n : Nat) : Text := Nat.toDigits 10 n

/-- `"lan" .. num` and `"lan" .. num .. ":t"`. -/
def portStr (num : Nat) : PortState → Text
  | .untagged => "lan".toList ++ decimal num
  | .tagged => "lan".toList ++ (decimal num ++ [':', 't'])

/-- The patterns of `getPortType`: `(%w+)(%d+):(%a+)`, `(%a+)(%d+)` and `:t`. -/
def taggedPattern : List (Item Char) :=
  [.plus Char.isAlphanum, .plus Char.isDigit, .one (· == ':'), .plus Char.isAlpha]
def untaggedPattern : List (Item Char) := [.plus Char.isAlpha, .plus Char.isDigit]
def markPattern : List (Item Char) := [.one (· == ':'), .one (· == 't')]

/-- `tonumber` of the second capture. -/
def portNumber : Option (List Text) → Option Nat
  | some (_ :: num :: _) => some (Nat.ofDigitChars 10 num 0)
  | _ => none

/-- `getPortType`; there is no number when the pattern does not match. -/
def getPortType (portStr : Text) : Option (Nat × PortState) :=
  if (LuaPattern.find markPattern portStr).isSome then
    (portNumber (LuaPattern.find taggedPattern portStr)).map (fun n => (n, .tagged))
  else (portNumber (LuaPattern.find untaggedPattern portStr)).map (fun n => (n, .untagged))

/-- The decoded ports of a VLAN. -/
abbrev PortTable := AList (fun _ : Nat => PortState)

/-- `setPorts`. A port without a number is an error. -/
def setPorts (ports : List Text) : Option PortTable :=
  (ports.mapM getPortType).map (fun l => l.foldl (fun t p => t.insert p.1 p.2) ∅)

/-! ## VLANs -/

/-- A section `bridge-vlan`: its name, its number, and its ports; `[]` when there are none. -/
structure BridgeVlan where
  name : Text
  vlan : Nat
  ports : List Text

/-- The sections `bridge-vlan` of the network configuration. -/
abbrev Network := List BridgeVlan

/-- An entry of `vlanArr`. -/
structure VlanEntry where
  id : Text
  num : Nat
  ports : PortTable

/-- `getBridgeVlanList`. -/
def getBridgeVlanList (net : Network) : Option (List VlanEntry) :=
  net.mapM (fun s => (setPorts s.ports).map (fun ports => ⟨s.name, s.vlan, ports⟩))

/-- The entry of a VLAN. -/
def entryOf (vlanArr : List VlanEntry) (num : Nat) : Option VlanEntry :=
  vlanArr.find? (fun v => v.num == num)

/-- The ports of a section replaced: `uci del` and an `uci add_list` for each port of the table. -/
def setSectionPorts (id : Text) (ports : PortTable) (net : Network) : Network :=
  net.map (fun s =>
    if s.name = id then { s with ports := ports.entries.map (fun p => portStr p.1 p.2) } else s)

/-- `uciSetVlanParam`. The lists are those of entries of `vlanArr`. -/
def uciSetVlanParam (vlanArr : List VlanEntry) (busy : List (Nat × PortTable)) (net : Network) :
    Network :=
  busy.foldl (fun net p =>
    match entryOf vlanArr p.1 with
    | some v => setSectionPorts v.id p.2 net
    | none => net) net

/-! ## What is decoded -/

theorem decimal_ne_nil (n : Nat) : decimal n ≠ [] := Nat.toDigits_ne_nil

theorem isDigit_decimal {n : Nat} {c : Char} (h : c ∈ decimal n) : c.isDigit = true :=
  Nat.isDigit_of_mem_toDigits (by decide) (by decide) h

/-- The digits of a number but the last, and the last. -/
theorem decimal_split (n : Nat) :
    ∃ pre, decimal n = pre ++ [Nat.digitChar (n % 10)] ∧ ∀ c ∈ pre, c.isDigit = true := by
  by_cases h : n < 10
  · refine ⟨[], ?_, by simp⟩
    rw [decimal, Nat.toDigits_of_lt_base h, Nat.mod_eq_of_lt h, List.nil_append]
  · refine ⟨decimal (n / 10), Nat.toDigits_of_base_le (by decide) (by omega), ?_⟩
    exact fun c hc => isDigit_decimal hc

theorem isAlphanum_of_isDigit {c : Char} (h : c.isDigit = true) : c.isAlphanum = true := by
  rw [Char.isAlphanum, h, Bool.or_true]

theorem not_isAlpha_of_isDigit {c : Char} (h : c.isDigit = true) : c.isAlpha = false := by
  simp only [Char.isDigit, Bool.and_eq_true, decide_eq_true_eq, ge_iff_le,
    UInt32.le_iff_toNat_le] at h
  change 48 ≤ c.val.toNat ∧ c.val.toNat ≤ 57 at h
  rw [Bool.eq_false_iff]
  intro halpha
  change (decide (65 ≤ c.val ∧ c.val ≤ 90) || (decide (97 ≤ c.val) && decide (c.val ≤ 122))) = true
    at halpha
  simp only [Bool.or_eq_true, Bool.and_eq_true, decide_eq_true_eq, UInt32.le_iff_toNat_le] at halpha
  change (65 ≤ c.val.toNat ∧ c.val.toNat ≤ 90) ∨ (97 ≤ c.val.toNat ∧ c.val.toNat ≤ 122) at halpha
  omega

theorem lan_letters : ∀ c ∈ "lan".toList, c.isAlpha = true ∧ c.isAlphanum = true ∧
    (c == ':') = false := by
  have hall : "lan".toList.all (fun c => c.isAlpha && c.isAlphanum && !(c == ':')) = true := by
    decide
  intro c hc
  have hletter := List.all_eq_true.mp hall c hc
  simpa [and_assoc] using hletter

theorem ne_colon_of_isDigit {c : Char} (h : c.isDigit = true) : (c == ':') = false := by
  have hcolon : Char.isDigit ':' = false := by decide
  rw [beq_eq_false_iff_ne]
  rintro rfl
  rw [hcolon] at h
  cases h

/-- An untagged port is decoded as what it is. -/
theorem getPortType_untagged (n : Nat) :
    getPortType (portStr n .untagged) = some (n, .untagged) := by
  have hmark : LuaPattern.find markPattern (portStr n .untagged) = none := by
    have hskip := find_skip (· == ':') (x := portStr n .untagged) (fun c hc => by
      rcases List.mem_append.mp hc with hc | hc
      · exact (lan_letters c hc).2.2
      · exact ne_colon_of_isDigit (isDigit_decimal hc)) [.one (· == 't')] []
    rw [List.append_nil] at hskip
    exact hskip
  have hfind : LuaPattern.find untaggedPattern (portStr n .untagged) =
      some ["lan".toList, decimal n] := by
    apply find_of_matchHere
    apply matchHere_plus_all (by decide) (fun c hc => (lan_letters c hc).1)
    · intro c hc
      exact not_isAlpha_of_isDigit (isDigit_decimal (List.mem_of_mem_head? hc))
    · have hdigits := @matchHere_plus_all Char _ [] _ [] _ (decimal_ne_nil n)
        (fun c => isDigit_decimal) (by simp) rfl
      rwa [List.append_nil] at hdigits
  rw [getPortType, hmark, hfind]
  simp [portNumber, decimal]

/-- **Of the number of a tagged port only the last digit is decoded.** -/
theorem getPortType_tagged (n : Nat) :
    getPortType (portStr n .tagged) = some (n % 10, .tagged) := by
  obtain ⟨pre, hsplit, hpre⟩ := decimal_split n
  have hmark : LuaPattern.find markPattern (portStr n .tagged) = some [] := by
    have hname : portStr n .tagged = ("lan".toList ++ decimal n) ++ [':', 't'] := by
      rw [portStr, List.append_assoc]
    rw [hname, markPattern, find_skip]
    · rfl
    · intro c hc
      rcases List.mem_append.mp hc with hc | hc
      · exact (lan_letters c hc).2.2
      · exact ne_colon_of_isDigit (isDigit_decimal hc)
  have hfind : LuaPattern.find taggedPattern (portStr n .tagged) =
      some ["lan".toList ++ pre, [Nat.digitChar (n % 10)], ['t']] := by
    have hname : portStr n .tagged =
        ("lan".toList ++ pre) ++ ([Nat.digitChar (n % 10)] ++ [':', 't']) := by
      rw [portStr, hsplit, List.append_assoc, List.append_assoc]
    have hdigit : (Nat.digitChar (n % 10)).isDigit = true := by
      rw [Nat.isDigit_digitChar]
      exact decide_eq_true (Nat.mod_lt n (by omega))
    rw [hname]
    apply find_of_matchHere
    apply matchHere_plus (by simp)
    · intro c hc
      simp only [List.mem_append, List.mem_singleton] at hc
      rcases hc with (hc | hc) | rfl
      · exact (lan_letters c hc).2.1
      · exact isAlphanum_of_isDigit (hpre c hc)
      · exact isAlphanum_of_isDigit hdigit
    · intro c hc
      cases hc
      decide
    · -- the colon is no digit, so one digit is needed before it
      apply matchHere_plus_all (by simp)
      · simpa using hdigit
      · intro c hc
        cases hc
        decide
      · rfl
    · intro z hz hne
      obtain rfl : z = [] := by
        rcases List.suffix_cons_iff.mp hz with heq | hnil
        · exact absurd heq hne
        · exact List.suffix_nil.mp hnil
      apply matchHere_plus_none
      intro c hc
      cases hc
      decide
  have hvalue : Nat.ofDigitChars 10 [Nat.digitChar (n % 10)] 0 = n % 10 := by
    have hlt : n % 10 < 10 := Nat.mod_lt n (by omega)
    rw [Nat.ofDigitChars_cons_digitChar_of_lt_ten hlt, Nat.ofDigitChars_nil, Nat.mul_zero,
      Nat.zero_add]
  rw [getPortType, hmark, hfind]
  simp [portNumber, hvalue]

end Vlan
