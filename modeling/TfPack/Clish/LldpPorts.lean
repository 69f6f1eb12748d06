import TfPack.AutoRestart.ConfigOptions
import TfPack.Clish.PortRange

set_option autoImplicit false

/-! # LLDP interfaces: `config_lldp.lua`

`lldp ports` takes each interface apart into letters and a number, deletes the whole list, and adds
the interfaces again from the parts. An interface comes back as it was when it is letters and a
number without zeros in front, or `switch.` and a number (`portsRight_iff`). One without letters and
digits in this order ends the command when the list is gone already.
-/

namespace Lldp

open AutoRestart Lua LuaPattern Tokens
open Vlan (decimal)

/-- The text of a number, `%.14g`: whole numbers up to 14 digits are printed as they are, larger
ones with an exponent. -/
structure Printing where
  text : ℚ → Text
  whole : ∀ n : Nat, n < 10 ^ 14 → text n = decimal n
  large : ∀ q, 10 ^ 14 ≤ q → ∃ d e, (text q).filter (· != '.') = d ++ 'e' :: e ∧ Digits d ∧
    d.length ≤ 14

/-! ## The interfaces -/

/-- The list option `lldpd.config.interface`; `[]` when it is not set. -/
abbrev Interfaces := List Text

/-- A range of ports. -/
structure Ports where
  first : Nat
  last : Nat
  first_le : first ≤ last

/-- `(%a+)(%d+)`. -/
def portPattern : List (Item Char) := [.plus Char.isAlpha, .plus Char.isDigit]

/-- `getPort`: the number and the letters. -/
def getPort (inputString : Text) : Option (Text × Text) :=
  match find portPattern (inputString.filter (· != '.')) with
  | some [str, num] => some (num, str)
  | _ => none

/-- A row of `portList_old`. -/
structure PortS where
  str : Option Text
  port : Option ℚ

def readPort (R : Rounding) (portStr : Text) : PortS :=
  match getPort portStr with
  | some (num, str) => ⟨some str, tonumber R num⟩
  | none => ⟨none, none⟩

/-- The list that a command leaves, and whether it ends with an error of Lua. -/
structure Run where
  interface : Interfaces
  raised : Bool

inductive PortState
  | enable | disable
  deriving DecidableEq, Repr

section Commands

variable (C : Printing) (R : Rounding) (r : Ports)

/-- The numbers of a range, as Lua counts them. -/
def numberText (n : Nat) : Text := C.text (R.round n)

/-- The first loop of `enable_lldp_Ports`. -/
def lanPorts : Interfaces :=
  (List.range' r.first (r.last + 1 - r.first)).map (fun port => "lan".toList ++ numberText C R port)

/-- The loop over `portList_old`, the same in both commands. `nil` cannot be part of a name. -/
def addOld : List PortS → Interfaces → Run
  | [], added => ⟨added, false⟩
  | p :: rest, added =>
      match p.str, p.port with
      | some str, some port =>
          if str = "switch".toList then addOld rest (added ++ ["switch.".toList ++ C.text port])
          else if str = "lan".toList then
            if port < R.round r.first ∨ R.round r.last < port then
              addOld rest (added ++ [str ++ C.text port])
            else addOld rest added
          else addOld rest (added ++ [str ++ C.text port])
      | _, _ => ⟨added, true⟩

/-- `set_ports`, with a range. -/
def setPorts (portState : PortState) (l : Interfaces) : Run :=
  let added := match portState with
    | .enable => lanPorts C R r
    | .disable => []
  if l = [] then ⟨added, false⟩
  else addOld C R r (l.map (readPort R)) added

end Commands

/-! ## What the commands should do -/

/-- The interface of a port. -/
def lan (port : Nat) : Text := "lan".toList ++ decimal port

/-- The interfaces of a range. -/
def Ports.names (r : Ports) : Interfaces := (List.range' r.first (r.last + 1 - r.first)).map lan

/-- The interfaces that are no ports of the range. -/
def Ports.others (r : Ports) (l : Interfaces) : Interfaces :=
  l.filter (fun x => !r.names.contains x)

/-- **The ports are enabled and disabled, and all else stays**: each command is done once for all,
no command ends half way, and one undoes the other. -/
structure PortsRight (C : Printing) (R : Rounding) (r : Ports) (l : Interfaces) : Prop where
  whole : ∀ state, (setPorts C R r state l).raised = false
  enabled : ∀ x ∈ r.names, (setPorts C R r .enable l).interface.count x = 1
  enable_others : r.others (setPorts C R r .enable l).interface = r.others l
  disabled : (setPorts C R r .disable l).interface = r.others l
  again : ∀ state, setPorts C R r state (setPorts C R r state l).interface = setPorts C R r state l
  undone : r.others l = l →
    (setPorts C R r .disable (setPorts C R r .enable l).interface).interface = l

/-- A name that is read as it is written: letters and a number, with a dot behind `switch` only. -/
def glue (str : Text) : Text := if str = "switch".toList then "switch.".toList else str

def Plain (x : Text) : Prop :=
  ∃ str n, (str ≠ [] ∧ ∀ c ∈ str, c.isAlpha = true) ∧ n < 10 ^ 14 ∧ x = glue str ++ decimal n

/-! ## Names and their parts -/

section Names

variable {C : Printing} {R : Rounding} {r : Ports} {l : Interfaces} {x str d : Text} {n : Nat}

/-- Letters, as the pattern takes them. -/
def Letters (str : Text) : Prop := str ≠ [] ∧ ∀ c ∈ str, c.isAlpha = true

/-- **The parts of a name**: letters, and the digits behind them. -/
theorem getPort_eq {t : Text} (hstr : Letters str) (hd : Digits d) (ht : NoDigit t)
    (hx : x.filter (· != '.') = str ++ (d ++ t)) : getPort x = some (d, str) := by
  have hnum : matchHere [.plus Char.isDigit] (d ++ t) = some [d] :=
    matchHere_plus_end_iff.mpr ⟨d, t, rfl, hd.1, hd.2, ht, rfl⟩
  have hstop : ∀ c ∈ (d ++ t).head?, c.isAlpha = false := by
    intro c hc
    obtain ⟨a, u, rfl, ha⟩ := hd.exists_cons
    cases hc
    exact Vlan.not_isAlpha_of_isDigit ha
  have hmatch : find portPattern (str ++ (d ++ t)) = some [str, d] :=
    find_of_matchHere (matchHere_plus_all hstr.1 hstr.2 hstop hnum)
  rw [getPort, hx, hmatch]

/-- What is read of a name is letters and digits. -/
theorem of_getPort {num : Text} (h : getPort x = some (num, str)) : Letters str ∧ Digits num := by
  unfold getPort at h
  split at h
  · rename_i str' num' hfind
    cases h
    obtain ⟨_, _, -, hr, -⟩ := find_eq_some_iff.mp hfind
    obtain ⟨_, _, r', -, hne, hstr, hrest, heq⟩ := of_matchHere_plus hr
    obtain ⟨_, _, -, hne', hnum, -, hr'⟩ := matchHere_plus_end_iff.mp hrest
    rw [hr'] at heq
    cases heq
    exact ⟨⟨hne, hstr⟩, hne', hnum⟩
  · cases h

theorem filter_dots_digits (hd : Digits d) : d.filter (· != '.') = d :=
  List.filter_eq_self.mpr (fun c hc => bne_iff_ne.mpr (ne_of_isDigit (hd.2 c hc) (by decide)))

theorem filter_dots_glue (hstr : Letters str) : (glue str).filter (· != '.') = str := by
  have hself : str.filter (· != '.') = str := by
    refine List.filter_eq_self.mpr (fun c hc => bne_iff_ne.mpr ?_)
    rintro rfl
    exact absurd (hstr.2 _ hc) (by decide)
  rw [glue]
  split
  · rename_i heq
    rw [heq]
    decide
  · exact hself

theorem getPort_plain (hstr : Letters str) (n : Nat) :
    getPort (glue str ++ decimal n) = some (decimal n, str) := by
  have hd : Digits (decimal n) := digits_toDigits n
  refine getPort_eq (t := []) hstr hd (by simp [NoDigit]) ?_
  rw [List.filter_append, filter_dots_glue hstr, filter_dots_digits hd, List.append_nil]

theorem letters_lan : Letters "lan".toList := ⟨by decide, List.all_eq_true.mp (by decide)⟩

theorem getPort_lan (n : Nat) : getPort (lan n) = some (decimal n, "lan".toList) :=
  getPort_plain letters_lan n

theorem decimal_injective : Function.Injective decimal := by
  intro n m h
  have hval := congrArg digitsVal h
  rwa [decimal, decimal, digitsVal_toDigits, digitsVal_toDigits] at hval

/-- A name is the one of a port only when it is written so. -/
theorem glue_eq_lan_iff (hstr : Letters str) (n m : Nat) :
    glue str ++ decimal n = lan m ↔ str = "lan".toList ∧ n = m := by
  constructor
  · intro h
    have hparts := getPort_plain hstr n
    rw [h, getPort_lan, Option.some.injEq, Prod.mk.injEq] at hparts
    exact ⟨hparts.2.symm, (decimal_injective hparts.1).symm⟩
  · rintro ⟨rfl, rfl⟩
    rfl

theorem Ports.mem_names {r : Ports} {x : Text} :
    x ∈ r.names ↔ ∃ n, (r.first ≤ n ∧ n ≤ r.last) ∧ lan n = x := by
  have hle := r.first_le
  simp only [Ports.names, List.mem_map, List.mem_range'_1]
  constructor
  · rintro ⟨n, hn, rfl⟩
    exact ⟨n, ⟨hn.1, by omega⟩, rfl⟩
  · rintro ⟨n, hn, rfl⟩
    exact ⟨n, ⟨hn.1, by omega⟩, rfl⟩

/-! ## Numbers -/

/-- Numbers of up to 14 digits are printed as they are. -/
theorem numberText_small (h : n < 10 ^ 14) : numberText C R n = decimal n := by
  have hexact : n ≤ 2 ^ 53 := h.le.trans (by decide)
  rw [numberText, R.exact n hexact, C.whole n h]

theorem le_round_of_large (h : 10 ^ 14 ≤ n) : (10 : ℚ) ^ 14 ≤ R.round n := by
  have hexact := R.exact (10 ^ 14) (by decide)
  have hmono : R.round ((10 ^ 14 : Nat) : ℚ) ≤ R.round n := R.mono (by exact_mod_cast h)
  rw [hexact] at hmono
  exact_mod_cast hmono

/-- Larger numbers are printed with an exponent. -/
theorem numberText_large (h : 10 ^ 14 ≤ n) :
    ∃ d e, (numberText C R n).filter (· != '.') = d ++ 'e' :: e ∧ Digits d ∧ d.length ≤ 14 :=
  C.large _ (le_round_of_large h)

/-- **What is glued together is the name of a port** only for a number of up to 14 digits. -/
theorem small_of_glued {str : Text} {v : Nat}
    (h : glue str ++ numberText C R v = lan n) (hstr : Letters str) : n < 10 ^ 14 := by
  rcases Nat.lt_or_ge v (10 ^ 14) with hv | hv
  · rw [numberText_small hv, glue_eq_lan_iff hstr] at h
    exact h.2 ▸ hv
  · obtain ⟨d, e, htext, -, -⟩ := numberText_large (C := C) (R := R) hv
    have he : 'e' ∈ (lan n).filter (· != '.') := by
      rw [← h, List.filter_append, htext]
      simp
    have hno : 'e' ∉ decimal n := (digits_toDigits n).not_mem (by decide)
    simp [lan, hno] at he

/-! ## One entry of the list -/

/-- The name that an entry is given back as; `none` for a port of the range. -/
def kept (C : Printing) (R : Rounding) (r : Ports) (x : Text) : Option Text :=
  (getPort x).bind (fun p =>
    if p.2 = "lan".toList ∧ R.round r.first ≤ R.round (digitsVal p.1) ∧
        R.round (digitsVal p.1) ≤ R.round r.last then none
    else some (glue p.2 ++ numberText C R (digitsVal p.1)))

theorem readPort_eq {num : Text} (h : getPort x = some (num, str)) :
    readPort R x = ⟨some str, some (R.round (digitsVal num))⟩ := by
  rw [readPort, h]
  exact congrArg (PortS.mk (some str)) (tonumber_digits R (of_getPort h).2)

/-- One round of the loop. -/
theorem addOld_cons {num : Text} (h : getPort x = some (num, str)) (rest : List PortS)
    (added : Interfaces) :
    addOld C R r (readPort R x :: rest) added =
      addOld C R r rest (added ++ (kept C R r x).toList) := by
  rw [readPort_eq h, addOld, kept, h, Option.bind_some, glue, numberText]
  dsimp only
  by_cases hswitch : str = "switch".toList
  · have hlan : "switch".toList ≠ "lan".toList := by decide
    subst hswitch
    rw [if_pos rfl, if_pos rfl, if_neg (fun hboth => hlan hboth.1), Option.toList_some]
  · by_cases hlan : str = "lan".toList
    · rw [if_neg hswitch, if_pos hlan, if_neg hswitch]
      by_cases hin : R.round r.first ≤ R.round (digitsVal num) ∧
          R.round (digitsVal num) ≤ R.round r.last
      · have hout : ¬(R.round (digitsVal num) < R.round r.first ∨
            R.round r.last < R.round (digitsVal num)) := by
          rw [not_or, not_lt, not_lt]
          exact hin
        rw [if_neg hout, if_pos ⟨hlan, hin⟩, Option.toList_none, List.append_nil]
      · have hout : R.round (digitsVal num) < R.round r.first ∨
            R.round r.last < R.round (digitsVal num) := by
          rwa [not_and_or, not_le, not_le] at hin
        rw [if_pos hout, if_neg (fun hboth => hin hboth.2), Option.toList_some]
    · rw [if_neg hswitch, if_neg hlan, if_neg hswitch, if_neg (fun hboth => hlan hboth.1),
        Option.toList_some]

/-- The loop goes through when every entry can be read. -/
theorem addOld_readable (h : ∀ x ∈ l, (getPort x).isSome) (added : Interfaces) :
    addOld C R r (l.map (readPort R)) added = ⟨added ++ l.filterMap (kept C R r), false⟩ := by
  induction l generalizing added with
  | nil => rw [List.filterMap_nil, List.append_nil, List.map_nil, addOld]
  | cons x l ih =>
      rw [List.forall_mem_cons] at h
      obtain ⟨⟨num, str⟩, hport⟩ := Option.isSome_iff_exists.mp h.1
      rw [List.map_cons, addOld_cons hport, ih h.2, List.append_assoc]
      cases hk : kept C R r x with
      | none => rw [List.filterMap_cons_none hk, Option.toList_none, List.nil_append]
      | some y => rw [List.filterMap_cons_some hk, Option.toList_some, List.singleton_append]

/-- The loop ends with an error at an entry that cannot be read. -/
theorem readable_of_addOld {added : Interfaces}
    (h : (addOld C R r (l.map (readPort R)) added).raised = false) :
    ∀ x ∈ l, (getPort x).isSome := by
  induction l generalizing added with
  | nil => simp
  | cons x l ih =>
      rw [List.forall_mem_cons]
      cases hport : getPort x with
      | none =>
          have hread : readPort R x = ⟨none, none⟩ := by rw [readPort, hport]
          rw [List.map_cons, hread, addOld] at h
          cases h
      | some p =>
          rw [List.map_cons, addOld_cons hport] at h
          exact ⟨rfl, ih h⟩

/-- The interfaces that a command adds first. -/
def added (C : Printing) (R : Rounding) (r : Ports) : PortState → Interfaces
  | .enable => lanPorts C R r
  | .disable => []

theorem setPorts_eq (state : PortState) (l : Interfaces) :
    setPorts C R r state l = addOld C R r (l.map (readPort R)) (added C R r state) := by
  cases l with
  | nil => cases state <;> rfl
  | cons x l => cases state <;> rfl

theorem setPorts_readable (h : ∀ x ∈ l, (getPort x).isSome) (state : PortState) :
    setPorts C R r state l = ⟨added C R r state ++ l.filterMap (kept C R r), false⟩ := by
  rw [setPorts_eq, addOld_readable h]

/-! ## Plain names -/

theorem Plain.readable (h : Plain x) : (getPort x).isSome := by
  obtain ⟨str, n, hstr, -, rfl⟩ := h
  rw [getPort_plain hstr]
  rfl

theorem plain_lan (h : n < 10 ^ 14) : Plain (lan n) := ⟨"lan".toList, n, letters_lan, h, rfl⟩

theorem round_mem_iff (hlast : r.last < 10 ^ 14) (n : Nat) :
    (R.round r.first ≤ R.round n ∧ R.round n ≤ R.round r.last) ↔ r.first ≤ n ∧ n ≤ r.last := by
  have hle := r.first_le
  have hsmall : r.last < 2 ^ 53 := hlast.trans (by decide)
  rw [R.exact r.last hsmall.le, round_le_iff R n hsmall, and_congr_left_iff]
  intro hn
  rw [R.exact r.first (by omega), R.exact n (by omega)]
  exact Nat.cast_le

/-- **A plain name comes back as it is** unless it is a port of the range. -/
theorem kept_plain (hlast : r.last < 10 ^ 14) (hx : Plain x) :
    kept C R r x = if r.names.contains x then none else some x := by
  obtain ⟨str, n, hstr, hn, rfl⟩ := hx
  have hval : digitsVal (decimal n) = n := digitsVal_toDigits n
  have hnames : r.names.contains (glue str ++ decimal n) = true ↔
      str = "lan".toList ∧ r.first ≤ n ∧ n ≤ r.last := by
    rw [List.contains_iff_mem, Ports.mem_names]
    constructor
    · rintro ⟨m, hm, heq⟩
      obtain ⟨rfl, rfl⟩ := (glue_eq_lan_iff hstr n m).mp heq.symm
      exact ⟨rfl, hm⟩
    · rintro ⟨rfl, hm⟩
      exact ⟨n, hm, rfl⟩
  rw [kept, getPort_plain hstr, Option.bind_some]
  dsimp only
  have hround := and_congr_right_iff.mpr
    (fun _ : str = "lan".toList => round_mem_iff (R := R) hlast n)
  rw [hval, numberText_small hn]
  by_cases hin : str = "lan".toList ∧ r.first ≤ n ∧ n ≤ r.last
  · rw [if_pos (hround.mpr hin), if_pos (hnames.mpr hin)]
  · rw [if_neg (fun h => hin (hround.mp h)), if_neg (fun h => hin (hnames.mp h))]

/-- A name that comes back as it is is plain. -/
theorem plain_of_kept (h : kept C R r x = some x) : Plain x := by
  rw [kept, Option.bind_eq_some_iff] at h
  obtain ⟨⟨num, str⟩, hport, hk⟩ := h
  dsimp only at hk
  split at hk
  · cases hk
  · rw [Option.some.injEq] at hk
    obtain ⟨hstr, hnum⟩ := of_getPort hport
    rcases Nat.lt_or_ge (digitsVal num) (10 ^ 14) with hv | hv
    · rw [numberText_small hv] at hk
      exact ⟨str, digitsVal num, hstr, hv, hk.symm⟩
    · -- the number that was printed begins with at most 14 digits, so another one was read
      obtain ⟨d, e, htext, hd, hlen⟩ := numberText_large (C := C) (R := R) hv
      have hx : x.filter (· != '.') = str ++ (d ++ 'e' :: e) := by
        rw [← hk, List.filter_append, filter_dots_glue hstr, htext]
      have hstop : NoDigit ('e' :: e) := by simp [NoDigit]
      rw [getPort_eq hstr hd hstop hx, Option.some.injEq, Prod.mk.injEq] at hport
      have hlt := digitsVal_lt hd.2
      rw [hport.1] at hlt hlen
      have hpow : 10 ^ num.length ≤ 10 ^ 14 := Nat.pow_le_pow_right (by decide) hlen
      omega

/-! ## Whole lists -/

theorem length_filterMap_le {f : Text → Option Text} {p : Text → Bool}
    (hout : ∀ x ∈ l, p x = false → f x = none) : (l.filterMap f).length ≤ (l.filter p).length := by
  rw [List.length_filterMap_eq_countP, ← List.countP_eq_length_filter]
  refine List.countP_mono_left (fun x hx hf => ?_)
  by_contra hp
  rw [hout x hx (by simpa using hp)] at hf
  cases hf

/-- A list that is gone through without what `p` leaves out is the filtered one exactly when every
entry that is kept comes back as it was. -/
theorem filterMap_eq_filter_iff {f : Text → Option Text} {p : Text → Bool}
    (hout : ∀ x ∈ l, p x = false → f x = none) :
    l.filterMap f = l.filter p ↔ ∀ x ∈ l, p x = true → f x = some x := by
  induction l with
  | nil => simp
  | cons x l ih =>
      rw [List.forall_mem_cons] at hout
      rw [List.forall_mem_cons, ← ih hout.2]
      cases hp : p x with
      | false =>
          rw [List.filterMap_cons_none (hout.1 hp), List.filter_cons_of_neg (by simp [hp])]
          simp
      | true =>
          rw [List.filter_cons_of_pos hp]
          cases hf : f x with
          | none =>
              rw [List.filterMap_cons_none hf]
              refine iff_of_false (fun heq => ?_) (by simp)
              have hlen := length_filterMap_le hout.2
              rw [heq, List.length_cons] at hlen
              omega
          | some y =>
              rw [List.filterMap_cons_some hf, List.cons.injEq]
              simp

theorem mem_others {r : Ports} : x ∈ r.others l ↔ x ∈ l ∧ x ∉ r.names := by
  simp [Ports.others]

theorem lanPorts_eq (hlast : r.last < 10 ^ 14) : lanPorts C R r = r.names := by
  have hle := r.first_le
  refine List.map_congr_left (fun n hn => ?_)
  rw [List.mem_range'_1] at hn
  rw [numberText_small (by omega), lan]

theorem others_append_names (r : Ports) (l : Interfaces) :
    r.others (r.names ++ l) = r.others l := by
  rw [Ports.others, List.filter_append, List.filter_eq_nil_iff.mpr (by simp), List.nil_append]
  rfl

theorem others_others (r : Ports) (l : Interfaces) : r.others (r.others l) = r.others l := by
  rw [Ports.others, Ports.others, List.filter_filter]
  simp

theorem nodup_names (r : Ports) : r.names.Nodup :=
  List.Nodup.map (fun _ _ h => decimal_injective (List.append_cancel_left h)) List.nodup_range'

/-- **What the commands leave of plain names.** -/
theorem setPorts_plain (hlast : r.last < 10 ^ 14) (hl : ∀ x ∈ l, Plain x) (state : PortState) :
    setPorts C R r state l = ⟨added C R r state ++ r.others l, false⟩ := by
  have hkept : l.filterMap (kept C R r) = r.others l := by
    rw [Ports.others, filterMap_eq_filter_iff]
    · intro x hx hp
      rw [kept_plain hlast (hl x hx), if_neg (by simpa using hp)]
    · intro x hx hp
      rw [kept_plain hlast (hl x hx), if_pos (by simpa using hp)]
  rw [setPorts_readable (fun x hx => (hl x hx).readable), hkept]

theorem added_enable (hlast : r.last < 10 ^ 14) : added C R r .enable = r.names :=
  lanPorts_eq hlast

/-- The numbers of a range that is enabled right have up to 14 digits. -/
theorem last_small (h : lan r.last ∈ (setPorts C R r .enable l).interface)
    (hread : ∀ x ∈ l, (getPort x).isSome) : r.last < 10 ^ 14 := by
  rw [setPorts_readable hread, List.mem_append] at h
  rcases h with h | h
  · obtain ⟨n, -, hn⟩ := List.mem_map.mp h
    have hglue : glue "lan".toList ++ numberText C R n = lan r.last := hn
    exact small_of_glued hglue letters_lan
  · obtain ⟨x, -, hx⟩ := List.mem_filterMap.mp h
    rw [kept, Option.bind_eq_some_iff] at hx
    obtain ⟨⟨num, str⟩, hport, hk⟩ := hx
    dsimp only at hk
    split at hk
    · cases hk
    · exact small_of_glued (Option.some.inj hk) (of_getPort hport).1

/-- The names of small ports are plain. -/
theorem Ports.plain_of_mem (hlast : r.last < 10 ^ 14) {x : Text} (hx : x ∈ r.names) : Plain x := by
  obtain ⟨n, hn, rfl⟩ := Ports.mem_names.mp hx
  exact plain_lan (by omega)

/-- A list that is treated right has small ports and plain names. -/
theorem PortsRight.plain (h : PortsRight C R r l) : r.last < 10 ^ 14 ∧ ∀ x ∈ l, Plain x := by
  have hread : ∀ x ∈ l, (getPort x).isSome := by
    have hwhole := h.whole .enable
    rw [setPorts_eq] at hwhole
    exact readable_of_addOld hwhole
  have hmem : lan r.last ∈ r.names := Ports.mem_names.mpr ⟨r.last, ⟨r.first_le, le_rfl⟩, rfl⟩
  have hlast : r.last < 10 ^ 14 := by
    have hcount := h.enabled _ hmem
    exact last_small (List.count_pos_iff.mp (hcount ▸ Nat.one_pos)) hread
  refine ⟨hlast, fun x hx => ?_⟩
  by_cases hname : x ∈ r.names
  · exact Ports.plain_of_mem hlast hname
  · have hdisabled := h.disabled
    rw [setPorts_readable hread] at hdisabled
    have hout : ∀ x ∈ l, (!r.names.contains x) = false → kept C R r x = none := by
      intro x _ hp
      rw [kept_plain hlast (Ports.plain_of_mem hlast (by simpa using hp))]
      simpa using hp
    refine plain_of_kept ((filterMap_eq_filter_iff hout).mp hdisabled x hx ?_)
    simpa using hname

theorem portsRight_of_plain (hlast : r.last < 10 ^ 14) (hl : ∀ x ∈ l, Plain x) :
    PortsRight C R r l := by
  have hothers : ∀ x ∈ r.others l, Plain x := fun x hx => hl x (mem_others.mp hx).1
  have hall : ∀ x ∈ r.names ++ r.others l, Plain x := by
    intro x hx
    exact (List.mem_append.mp hx).elim (Ports.plain_of_mem hlast) (hothers x)
  have henable : setPorts C R r .enable l = ⟨r.names ++ r.others l, false⟩ := by
    rw [setPorts_plain hlast hl, added_enable hlast]
  have hdisable : setPorts C R r .disable l = ⟨r.others l, false⟩ := setPorts_plain hlast hl _
  refine ⟨?_, ?_, ?_, ?_, ?_, ?_⟩
  · intro state
    rw [setPorts_plain hlast hl]
  · intro x hx
    rw [henable]
    have hno : x ∉ r.others l := fun h => (mem_others.mp h).2 hx
    rw [List.count_append, List.count_eq_zero_of_not_mem hno,
      List.count_eq_one_of_mem (nodup_names r) hx]
  · rw [henable, others_append_names, others_others]
  · rw [hdisable]
  · intro state
    cases state with
    | enable =>
        rw [henable, setPorts_plain hlast hall, added_enable hlast, others_append_names,
          others_others]
    | disable =>
        rw [hdisable, setPorts_plain hlast hothers, others_others]
        rfl
  · intro hnew
    rw [henable, setPorts_plain hlast hall, others_append_names, others_others, hnew]
    rfl

/-- **The commands are right**: exactly for numbers of up to 14 digits and names that are read as
they are written. -/
theorem portsRight_iff (C : Printing) (R : Rounding) (r : Ports) (l : Interfaces) :
    PortsRight C R r l ↔ r.last < 10 ^ 14 ∧ ∀ x ∈ l, Plain x :=
  ⟨PortsRight.plain, fun h => portsRight_of_plain h.1 h.2⟩

/-- **From the command line to the list**: of a range that is typed, `checkPortRange` hands the two
numbers on, and the commands with them are right. -/
theorem portsRight_of_typed (hlast : r.last < 10 ^ 14) (hl : ∀ x ∈ l, Plain x) :
    Clish.setPorts (Clish.checkPortRange R (decimal r.first ++ '-' :: decimal r.last)).result =
      .goOn (some ⟨r.first, r.last, .range, []⟩) ∧ PortsRight C R r l := by
  refine ⟨?_, portsRight_of_plain hlast hl⟩
  have hle := r.first_le
  have hkept : r.last ≤ 2 ^ 53 := by omega
  rw [Clish.checkPortRange_decimal R (hle.trans hkept) hkept, if_neg (Nat.not_lt.mpr hle)]
  rfl

end Names

/-- Numbers of up to 14 digits as they are, and one text for all others. -/
def printing : Printing where
  text q := if q < 10 ^ 14 then decimal q.num.toNat else "1e+14".toList
  whole n h := by
    have hlt : (n : ℚ) < 10 ^ 14 := by exact_mod_cast h
    rw [if_pos hlt, Rat.num_natCast, Int.toNat_natCast]
  large q h := ⟨['1'], "+14".toList, by rw [if_neg (not_lt.mpr h)]; decide,
    digits_of_all (by decide) (by decide), by decide⟩

/-- **An interface without a number ends the command** when the list is deleted. -/
theorem bridge_not_rebuilt :
    ¬PortsRight printing Lua.unrounded ⟨1, 1, le_rfl⟩ ["br-lan".toList] := by
  intro h
  have hraised : (setPorts printing Lua.unrounded ⟨1, 1, le_rfl⟩ .disable
      ["br-lan".toList]).raised = true := rfl
  rw [h.whole] at hraised
  cases hraised

end Lldp
