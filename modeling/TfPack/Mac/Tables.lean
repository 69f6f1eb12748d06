import TfPack.AutoRestart.ClockTexts
import TfPack.Mac.Scripts
import TfPack.Vlan.Utils

set_option autoImplicit false

/-! # The MAC table and the ARP table

The lines of `bridge fdb show` and `ip neigh show`, and what the two scripts make of them. The fifth
word is the VLAN of a line when no destination stands in front of it, and the MAC address of a
neighbour when it has one. A line without a VLAN is taken for one with a VLAN when the name of an
interface in it says `vlan` (`fdbArpRight_iff`).
-/

namespace MacTables

open AutoRestart Lua Tokens JsonText
open Vlan (decimal)

/-! ## The two scripts -/

/-- `fdb_module`, with `bridge fdb show dynamic`. -/
def fdbModule : Script where
  marker := "vlan".toList
  first := "mac".toList
  fifth := "vid".toList
  label := "VLAN".toList
  third := "interface".toList

/-- `arp_module`, with `ip neigh show nud reachable`. -/
def arpModule : Script where
  marker := "dev".toList
  first := "ip".toList
  fifth := "mac".toList
  label := []
  third := "device".toList

/-! ## The lines of the two commands -/

/-- A word in an output. The name of an interface can be any. -/
structure Word where
  text : Text
  ne_nil : text ≠ []
  noBlank : ∀ c ∈ text, c ≠ ' ' ∧ c ≠ '\n'

/-- The characters of MAC and IP addresses. -/
def isAddrChar (c : Char) : Bool :=
  c.isDigit || decide ('a' ≤ c ∧ c ≤ 'f') || c == ':' || c == '.'

/-- An address is a word with a colon or a dot. -/
structure Addr where
  text : Text
  chars : ∀ c ∈ text, isAddrChar c = true
  parts : ':' ∈ text ∨ '.' ∈ text

/-- A line of `bridge fdb show`: what stands behind the VLAN is not looked at. -/
structure FdbLine where
  mac : Addr
  dev : Word
  dst : Option Addr
  vlan : Option Nat
  rest : List Word

/-- A line of `ip neigh show`. -/
structure ArpLine where
  ip : Addr
  dev : Word
  lladdr : Option Addr
  rest : List Word

/-- A keyword and its value, when there is one. -/
def option (key : String) : Option Text → List Text
  | none => []
  | some value => [key.toList, value]

def FdbLine.words (l : FdbLine) : List Text :=
  l.mac.text :: "dev".toList :: l.dev.text :: (option "dst" (l.dst.map Addr.text) ++
    (option "vlan" (l.vlan.map decimal) ++ l.rest.map Word.text))

def ArpLine.words (l : ArpLine) : List Text :=
  l.ip.text :: "dev".toList :: l.dev.text :: (option "lladdr" (l.lladdr.map Addr.text) ++
    l.rest.map Word.text)

/-! ## What the tables should say -/

/-- The object of a line with a VLAN. -/
def FdbLine.entry (l : FdbLine) : Option Json :=
  l.vlan.map (fun vlan =>
    .obj [("mac".toList, str l.mac.text), ("vid".toList, str ("VLAN".toList ++ decimal vlan)),
      ("interface".toList, str l.dev.text)])

/-- The object of a neighbour: what the line does not say, it does not say either. -/
def ArpLine.entry (l : ArpLine) : Json :=
  .obj (("ip".toList, str l.ip.text) :: ((l.lladdr.map (fun mac =>
    ("mac".toList, str mac.text))).toList ++ [("device".toList, str l.dev.text)]))

def FdbRight (L : Layout) (ls : List FdbLine) : Prop :=
  TableRight fdbModule (L.output (ls.map FdbLine.words)) (ls.filterMap FdbLine.entry)

def ArpRight (L : Layout) (ls : List ArpLine) : Prop :=
  TableRight arpModule (L.output (ls.map ArpLine.words)) (ls.map ArpLine.entry)

/-! ## One line -/

theorem unescaped_of_isAddrChar {c : Char} (h : isAddrChar c = true) : Unescaped c := by
  have hsmall : ∀ {d : Char}, isAddrChar d = false → c ≠ d := by
    rintro d hd rfl
    rw [h] at hd
    cases hd
  refine ⟨hsmall (by decide), hsmall (by decide), ?_⟩
  rw [isAddrChar, Bool.or_eq_true, Bool.or_eq_true, Bool.or_eq_true, beq_iff_eq, beq_iff_eq,
    decide_eq_true_eq] at h
  obtain ((hdigit | hletter) | rfl) | rfl := h
  · simp only [Char.isDigit, Bool.and_eq_true, decide_eq_true_eq, ge_iff_le,
      UInt32.le_iff_toNat_le] at hdigit
    change 48 ≤ c.toNat ∧ _ at hdigit
    omega
  · have hle : 97 ≤ c.toNat := UInt32.le_iff_toNat_le.mp hletter.1
    omega
  · decide
  · decide

theorem Addr.plain (a : Addr) : Plain a.text :=
  fun c hc => unescaped_of_isAddrChar (a.chars c hc)

theorem isAddrChar_of_isDigit {c : Char} (h : c.isDigit = true) : isAddrChar c = true := by
  rw [isAddrChar, h]
  rfl

theorem plain_decimal (n : Nat) : Plain (decimal n) :=
  fun c hc => unescaped_of_isAddrChar (isAddrChar_of_isDigit ((digits_toDigits n).2 c hc))

/-- An address is no number. -/
theorem Addr.ne_decimal (a : Addr) (n : Nat) : a.text ≠ decimal n := by
  intro heq
  have hdigits : Digits (decimal n) := digits_toDigits n
  obtain hmem | hmem := a.parts
  · exact hdigits.not_mem (c := ':') (by decide) (heq ▸ hmem)
  · exact hdigits.not_mem (c := '.') (by decide) (heq ▸ hmem)

theorem Addr.ne_nil (a : Addr) : a.text ≠ [] := by
  obtain hmem | hmem := a.parts
  · exact List.ne_nil_of_mem hmem
  · exact List.ne_nil_of_mem hmem

theorem plain_of_all {t : Text} (h : t.all (fun c => decide (Unescaped c)) = true) : Plain t := by
  intro c hc
  exact of_decide_eq_true (List.all_eq_true.mp h c hc)

theorem plain_append {x y : Text} (hx : Plain x) (hy : Plain y) : Plain (x ++ y) :=
  fun c hc => (List.mem_append.mp hc).elim (hx c) (hy c)

section FdbLine

variable {l : FdbLine} {n : Nat}

theorem FdbLine.entry_eq (h : l.vlan = some n) :
    l.entry = some (fdbModule.entry l.mac.text ("VLAN".toList ++ decimal n) l.dev.text) := by
  rw [FdbLine.entry, h]
  rfl

/-- The fifth word of a line with a VLAN. -/
theorem FdbLine.compleat_words (h : l.vlan = some n) : fdbModule.compleat l.words =
    some (fdbModule.object l.mac.text ((l.dst.map Addr.text).getD (decimal n)) l.dev.text) := by
  cases hdst : l.dst with
  | none => simp [Script.compleat, FdbLine.words, option, h, hdst]
  | some a => simp [Script.compleat, FdbLine.words, option, h, hdst]

/-- **The object of a line with a VLAN is its entry exactly when there is no destination** and the
name of the interface can stand between quotes. -/
theorem FdbLine.scanned_iff (h : l.vlan = some n) :
    fdbModule.scanned l.words = l.entry.bind meant ↔ l.dst = none ∧ Plain l.dev.text := by
  have hlabel : Plain fdbModule.label := plain_of_all (by decide)
  have hfive : Plain (fdbModule.label ++ (l.dst.map Addr.text).getD (decimal n)) := by
    refine plain_append hlabel ?_
    cases l.dst with
    | none => exact plain_decimal n
    | some a => exact a.plain
  rw [Script.scanned, FdbLine.compleat_words h, FdbLine.entry_eq h, Option.bind_some,
    Option.bind_some, scan_object_iff (plain_of_all (by decide)) l.mac.plain
      (plain_of_all (by decide)) hfive (plain_of_all (by decide))]
  refine and_congr_left (fun _ => ?_)
  rw [show fdbModule.label = "VLAN".toList from rfl, List.append_right_inj]
  cases l.dst with
  | none => simp
  | some a => simpa using a.ne_decimal n

end FdbLine

section ArpLine

variable {l : ArpLine} {mac : Addr}

/-- **The object of a neighbour is its entry exactly when it has an address** and the name of the
interface can stand between quotes. -/
theorem ArpLine.scanned_iff (l : ArpLine) :
    arpModule.scanned l.words = meant l.entry ↔ l.lladdr ≠ none ∧ Plain l.dev.text := by
  cases h : l.lladdr with
  | none =>
      refine iff_of_false ?_ (by simp)
      rw [Script.scanned]
      intro heq
      obtain ⟨x, hx, hscan⟩ := Option.bind_eq_some_iff.mp heq
      have hobject : ∃ five, x = arpModule.object l.ip.text five l.dev.text := by
        have hone : l.words[0]? = some l.ip.text := rfl
        have hthree : l.words[2]? = some l.dev.text := rfl
        rw [Script.compleat, hone, hthree] at hx
        cases hfive : l.words[4]? with
        | none =>
            rw [hfive] at hx
            cases hx
        | some five =>
            rw [hfive] at hx
            exact ⟨five, (Option.some.inj hx).symm⟩
      obtain ⟨five, rfl⟩ := hobject
      rw [scan_object (plain_of_all (by decide)) l.ip.plain (plain_of_all (by decide)),
        Option.map_eq_some_iff] at hscan
      obtain ⟨q, -, hq⟩ := hscan
      simp [ArpLine.entry, h, str, Json.tokens, members, arpModule] at hq
  | some mac =>
      have hcompleat : arpModule.compleat l.words =
          some (arpModule.object l.ip.text mac.text l.dev.text) := by
        simp [Script.compleat, ArpLine.words, option, h]
      have hentry : l.entry = arpModule.entry l.ip.text mac.text l.dev.text := by
        rw [ArpLine.entry, h]
        rfl
      have hmember : Plain (arpModule.label ++ mac.text) := mac.plain
      rw [Script.scanned, hcompleat, hentry, Option.bind_some,
        scan_object_iff (plain_of_all (by decide)) l.ip.plain (plain_of_all (by decide)) hmember
          (plain_of_all (by decide))]
      simp [arpModule]

end ArpLine

/-! ## The lines that are taken -/

section Taken

variable {L : Layout}

theorem Addr.wordOk (a : Addr) : a.text ≠ [] ∧ ∀ c ∈ a.text, c ≠ ' ' ∧ c ≠ '\n' := by
  refine ⟨a.ne_nil, fun c hc => ?_⟩
  have hchar := a.chars c hc
  constructor
  · rintro rfl
    exact absurd hchar (by decide)
  · rintro rfl
    exact absurd hchar (by decide)

theorem Word.wordOk (w : Word) : w.text ≠ [] ∧ ∀ c ∈ w.text, c ≠ ' ' ∧ c ≠ '\n' :=
  ⟨w.ne_nil, w.noBlank⟩

theorem decimal_wordOk (n : Nat) : decimal n ≠ [] ∧ ∀ c ∈ decimal n, c ≠ ' ' ∧ c ≠ '\n' := by
  have hdigits : Digits (decimal n) := digits_toDigits n
  exact ⟨hdigits.1, fun c hc => ⟨ne_of_isDigit (hdigits.2 c hc) (by decide),
    ne_of_isDigit (hdigits.2 c hc) (by decide)⟩⟩

theorem keyword_wordOk {key : Text} (hne : key ≠ [])
    (hall : key.all (fun c => c != ' ' && c != '\n') = true) :
    key ≠ [] ∧ ∀ c ∈ key, c ≠ ' ' ∧ c ≠ '\n' := by
  refine ⟨hne, fun c hc => ?_⟩
  simpa using List.all_eq_true.mp hall c hc

theorem wordsOk_option {key : String} {value : Option Text}
    (hkey : key.toList ≠ [] ∧ ∀ c ∈ key.toList, c ≠ ' ' ∧ c ≠ '\n')
    (h : ∀ v ∈ value, v ≠ [] ∧ ∀ c ∈ v, c ≠ ' ' ∧ c ≠ '\n') : WordsOk (option key value) := by
  cases value with
  | none => exact List.forall_mem_nil _
  | some v =>
      exact List.forall_mem_cons.mpr ⟨hkey, List.forall_mem_singleton.mpr (h v rfl)⟩

theorem wordsOk_rest (ws : List Word) : WordsOk (ws.map Word.text) := by
  intro w hw
  obtain ⟨w, -, rfl⟩ := List.mem_map.mp hw
  exact w.wordOk

theorem FdbLine.wordsOk (l : FdbLine) : WordsOk l.words := by
  refine List.forall_mem_cons.mpr ⟨l.mac.wordOk, List.forall_mem_cons.mpr
    ⟨keyword_wordOk (by decide) (by decide), List.forall_mem_cons.mpr ⟨l.dev.wordOk, ?_⟩⟩⟩
  refine List.forall_mem_append.mpr ⟨?_, List.forall_mem_append.mpr ⟨?_, wordsOk_rest l.rest⟩⟩
  · refine wordsOk_option (keyword_wordOk (by decide) (by decide)) (fun v hv => ?_)
    obtain ⟨a, -, rfl⟩ := Option.map_eq_some_iff.mp hv
    exact a.wordOk
  · refine wordsOk_option (keyword_wordOk (by decide) (by decide)) (fun v hv => ?_)
    obtain ⟨n, -, rfl⟩ := Option.map_eq_some_iff.mp hv
    exact decimal_wordOk n

theorem ArpLine.wordsOk (l : ArpLine) : WordsOk l.words := by
  refine List.forall_mem_cons.mpr ⟨l.ip.wordOk, List.forall_mem_cons.mpr
    ⟨keyword_wordOk (by decide) (by decide), List.forall_mem_cons.mpr ⟨l.dev.wordOk, ?_⟩⟩⟩
  refine List.forall_mem_append.mpr ⟨?_, wordsOk_rest l.rest⟩
  refine wordsOk_option (keyword_wordOk (by decide) (by decide)) (fun v hv => ?_)
  obtain ⟨a, -, rfl⟩ := Option.map_eq_some_iff.mp hv
  exact a.wordOk

/-- A line holds a marker when a word does. -/
theorem marker_infix_iff {marker : Text} {ws : List Text} (hne : marker ≠ [])
    (hblank : ' ' ∉ marker) (hws : WordsOk ws) :
    marker <:+: L.line ws ↔ ∃ w ∈ ws, marker <:+: w := by
  have hsep : ∀ c ∈ marker, (c == ' ') = false := by
    intro c hc
    exact beq_eq_false_iff_ne.mpr (fun heq => hblank (heq ▸ hc))
  rw [infix_iff_tokens hne hsep]
  have htokens : tokens (· == ' ') (L.line ws) = ws := L.words ws hws
  rw [htokens]

/-- The line says `vlan` elsewhere: in the name of its interface or of another one. -/
def FdbLine.Named (l : FdbLine) : Prop := ∃ w ∈ l.dev :: l.rest, fdbModule.marker <:+: w.text

theorem Addr.not_marker (a : Addr) : ¬fdbModule.marker <:+: a.text := by
  intro h
  have hmem : 'v' ∈ a.text := h.subset (by decide)
  exact absurd (a.chars 'v' hmem) (by decide)

/-- **A line is taken when it has a VLAN**, or says so elsewhere. -/
theorem FdbLine.taken_iff (l : FdbLine) :
    fdbModule.marker <:+: L.line l.words ↔ l.vlan ≠ none ∨ l.Named := by
  have hdev : ¬fdbModule.marker <:+: "dev".toList := by decide
  have hdst : ¬∃ w ∈ option "dst" (l.dst.map Addr.text), fdbModule.marker <:+: w := by
    have hkey : ¬fdbModule.marker <:+: "dst".toList := by decide
    cases l.dst with
    | none => simp [option]
    | some a =>
        rintro ⟨w, hw, hin⟩
        rcases List.mem_cons.mp hw with rfl | hw
        · exact hkey hin
        · exact a.not_marker (List.mem_singleton.mp hw ▸ hin)
  have hvlan : (∃ w ∈ option "vlan" (l.vlan.map decimal), fdbModule.marker <:+: w) ↔
      l.vlan ≠ none := by
    cases l.vlan with
    | none => simp [option]
    | some n =>
        refine iff_of_true ⟨_, List.mem_cons_self, ?_⟩ nofun
        exact List.infix_rfl
  have hrest : (∃ w ∈ l.rest.map Word.text, fdbModule.marker <:+: w) ↔
      ∃ w ∈ l.rest, fdbModule.marker <:+: w.text := by simp
  rw [marker_infix_iff (by decide) (by decide) l.wordsOk, FdbLine.words, FdbLine.Named]
  simp only [List.exists_mem_cons_iff, List.mem_append, or_and_right, exists_or, hdst, hvlan, hrest,
    hdev, l.mac.not_marker, false_or]
  exact or_left_comm

/-- Every neighbour is taken. -/
theorem ArpLine.taken (l : ArpLine) : arpModule.marker <:+: L.line l.words :=
  (marker_infix_iff (by decide) (by decide) l.wordsOk).mpr
    ⟨"dev".toList, List.mem_cons_of_mem _ List.mem_cons_self, List.infix_rfl⟩

end Taken

/-! ## Both tables -/

/-- The outputs that `fdb_module` gets right: there is a line with a VLAN, the others do not say
`vlan`, and a line with a VLAN has no destination and a name that can stand between quotes. -/
structure FdbClean (ls : List FdbLine) : Prop where
  vlan : ∃ l ∈ ls, l.vlan ≠ none
  others : ∀ l ∈ ls, l.vlan = none → ¬l.Named
  dst : ∀ l ∈ ls, l.vlan ≠ none → l.dst = none
  plain : ∀ l ∈ ls, l.vlan ≠ none → Plain l.dev.text

/-- The outputs that `arp_module` gets right: there is a neighbour, and each has an address, and a
name that can stand between quotes. -/
structure ArpClean (ls : List ArpLine) : Prop where
  neighbour : ls ≠ []
  lladdr : ∀ l ∈ ls, l.lladdr ≠ none
  plain : ∀ l ∈ ls, Plain l.dev.text

theorem flat_entry (s : Script) (one five three : Text) : Flat (s.entry one five three).tokens := by
  simp [Flat, Script.entry, str, Json.tokens, members]

theorem ArpLine.flat_entry (l : ArpLine) : Flat l.entry.tokens := by
  cases h : l.lladdr <;> simp [Flat, ArpLine.entry, h, str, Json.tokens, members]

section Both

variable {L : Layout}

/-- The entries are those of the lines with a VLAN. -/
theorem filterMap_entry (ls : List FdbLine) (f : Json → Option (List Token × Mode)) :
    (ls.filterMap FdbLine.entry).map f =
      (ls.filter (fun l => l.vlan ≠ none)).map (fun l => l.entry.bind f) := by
  induction ls with
  | nil => rfl
  | cons l ls ih =>
      cases h : l.vlan with
      | none =>
          have hentry : l.entry = none := by rw [FdbLine.entry, h]; rfl
          rw [List.filterMap_cons_none hentry, List.filter_cons_of_neg (by simp [h]), ih]
      | some n =>
          have hentry := FdbLine.entry_eq h
          rw [List.filterMap_cons_some hentry, List.filter_cons_of_pos (by simp [h]), List.map_cons,
            List.map_cons, ih, hentry, Option.bind_some]

/-- The lines with a VLAN are among those that are taken. -/
theorem vlan_sublist (L : Layout) (ls : List FdbLine) :
    (ls.filter (fun l => l.vlan ≠ none)).Sublist
      (ls.filter (fun l => fdbModule.marker <:+: L.line l.words)) := by
  refine List.monotone_filter_right ls (fun l hl => ?_)
  exact decide_eq_true (l.taken_iff.mpr (.inl (of_decide_eq_true hl)))

/-- Where the others do not say `vlan`, no other line is taken. -/
theorem filter_taken_iff (L : Layout) (ls : List FdbLine) :
    ls.filter (fun l => fdbModule.marker <:+: L.line l.words) =
        ls.filter (fun l => l.vlan ≠ none) ↔
      ∀ l ∈ ls, l.vlan = none → ¬l.Named := by
  constructor
  · intro heq l hl hnone hnamed
    have hmem : l ∈ ls.filter (fun l => fdbModule.marker <:+: L.line l.words) :=
      List.mem_filter.mpr ⟨hl, decide_eq_true (l.taken_iff.mpr (.inr hnamed))⟩
    rw [heq] at hmem
    exact of_decide_eq_true (List.mem_filter.mp hmem).2 hnone
  · intro h
    refine List.filter_congr (fun l hl => ?_)
    rw [decide_eq_decide, l.taken_iff]
    exact or_iff_left_of_imp (fun hnamed hnone => h l hl hnone hnamed)

/-- **The MAC table is right exactly for clean outputs.** -/
theorem fdbRight_iff (L : Layout) (ls : List FdbLine) : FdbRight L ls ↔ FdbClean ls := by
  have htaken : (ls.map FdbLine.words).filter (fun ws => fdbModule.marker <:+: L.line ws) =
      (ls.filter (fun l => fdbModule.marker <:+: L.line l.words)).map FdbLine.words := by
    rw [List.filter_map]
    rfl
  have hws : ∀ ws ∈ ls.map FdbLine.words, WordsOk ws := by
    intro ws hws
    obtain ⟨l, -, rfl⟩ := List.mem_map.mp hws
    exact l.wordsOk
  have hflat : ∀ v ∈ ls.filterMap FdbLine.entry, Flat v.tokens := by
    intro v hv
    obtain ⟨l, -, hl⟩ := List.mem_filterMap.mp hv
    obtain ⟨n, -, rfl⟩ := Option.map_eq_some_iff.mp hl
    exact flat_entry fdbModule _ _ _
  have hlen : (ls.filterMap FdbLine.entry).length = (ls.filter (fun l => l.vlan ≠ none)).length := by
    simpa using congrArg List.length (filterMap_entry ls meant)
  have hle : (ls.filterMap FdbLine.entry).length ≤
      (ls.filter (fun l => fdbModule.marker <:+: L.line l.words)).length :=
    hlen ▸ (vlan_sublist L ls).length_le
  have hline : ∀ l ∈ ls.filter (fun l => l.vlan ≠ none),
      (fdbModule.scanned l.words = l.entry.bind meant ↔ l.dst = none ∧ Plain l.dev.text) := by
    intro l hl
    obtain ⟨n, hn⟩ := Option.ne_none_iff_exists'.mp (of_decide_eq_true (List.mem_filter.mp hl).2)
    exact FdbLine.scanned_iff hn
  rw [FdbRight, tableRight_iff (by decide) hws hflat (by rw [htaken, List.length_map]; exact hle),
    htaken, List.map_map, filterMap_entry]
  constructor
  · rintro ⟨hne, heq⟩
    have hsame : ls.filter (fun l => l.vlan ≠ none) =
        ls.filter (fun l => fdbModule.marker <:+: L.line l.words) := by
      refine (vlan_sublist L ls).eq_of_length ?_
      simpa using (congrArg List.length heq).symm
    rw [← hsame] at hne heq
    have hlines := List.map_inj_left.mp heq
    have hall : ∀ l ∈ ls, l.vlan ≠ none → l.dst = none ∧ Plain l.dev.text := by
      intro l hl hvlan
      have hmem : l ∈ ls.filter (fun l => l.vlan ≠ none) :=
        List.mem_filter.mpr ⟨hl, decide_eq_true hvlan⟩
      exact (hline l hmem).mp (hlines l hmem)
    obtain ⟨l, hl⟩ := List.exists_mem_of_ne_nil (ls.filter (fun l => l.vlan ≠ none))
      (fun hnil => hne (hnil ▸ rfl))
    obtain ⟨hmem, hvlan⟩ := List.mem_filter.mp hl
    exact ⟨⟨l, hmem, of_decide_eq_true hvlan⟩, (filter_taken_iff L ls).mp hsame.symm,
      fun l hl hvlan => (hall l hl hvlan).1, fun l hl hvlan => (hall l hl hvlan).2⟩
  · intro h
    rw [(filter_taken_iff L ls).mpr h.others]
    obtain ⟨l, hl, hvlan⟩ := h.vlan
    have hmem : l ∈ ls.filter (fun l => l.vlan ≠ none) :=
      List.mem_filter.mpr ⟨hl, decide_eq_true hvlan⟩
    refine ⟨fun hnil => ?_, List.map_inj_left.mpr (fun l hl => (hline l hl).mpr ?_)⟩
    · rw [List.map_eq_nil_iff.mp hnil] at hmem
      cases hmem
    · obtain ⟨hl, hvlan⟩ := List.mem_filter.mp hl
      exact ⟨h.dst l hl (of_decide_eq_true hvlan), h.plain l hl (of_decide_eq_true hvlan)⟩

/-- **The ARP table is right exactly for clean outputs.** -/
theorem arpRight_iff (L : Layout) (ls : List ArpLine) : ArpRight L ls ↔ ArpClean ls := by
  have htaken : (ls.map ArpLine.words).filter (fun ws => arpModule.marker <:+: L.line ws) =
      ls.map ArpLine.words := by
    refine List.filter_eq_self.mpr (fun ws hws => ?_)
    obtain ⟨l, -, rfl⟩ := List.mem_map.mp hws
    exact decide_eq_true l.taken
  have hws : ∀ ws ∈ ls.map ArpLine.words, WordsOk ws := by
    intro ws hws
    obtain ⟨l, -, rfl⟩ := List.mem_map.mp hws
    exact l.wordsOk
  have hflat : ∀ v ∈ ls.map ArpLine.entry, Flat v.tokens := by
    intro v hv
    obtain ⟨l, -, rfl⟩ := List.mem_map.mp hv
    exact l.flat_entry
  rw [ArpRight, tableRight_iff (by decide) hws hflat (by rw [htaken]; simp), htaken, List.map_map,
    List.map_map, List.map_inj_left]
  simp only [Function.comp, ArpLine.scanned_iff]
  constructor
  · rintro ⟨hne, h⟩
    exact ⟨fun heq => hne (heq ▸ rfl), fun l hl => (h l hl).1, fun l hl => (h l hl).2⟩
  · intro h
    exact ⟨fun heq => h.neighbour (List.map_eq_nil_iff.mp heq),
      fun l hl => ⟨h.lladdr l hl, h.plain l hl⟩⟩

end Both

/-- **The tables are right exactly for clean outputs**, however the words are put on the lines. -/
theorem fdbArpRight_iff (L : Layout) (fdb : List FdbLine) (arp : List ArpLine) :
    (FdbRight L fdb ↔ FdbClean fdb) ∧ (ArpRight L arp ↔ ArpClean arp) :=
  ⟨fdbRight_iff L fdb, arpRight_iff L arp⟩

/-- A blank behind each word. -/
def spaced : Layout where
  line ws := ws.flatMap (· ++ [' '])
  words ws hws := by
    induction ws with
    | nil => rfl
    | cons w ws ih =>
        obtain ⟨⟨hne, hw⟩, hws⟩ := List.forall_mem_cons.mp hws
        have hblank : ∀ c ∈ w, (c == ' ') = false := fun c hc => beq_eq_false_iff_ne.mpr (hw c hc).1
        rw [List.flatMap_cons, List.append_assoc, substrings,
          tokens_block hblank hne (by rintro c hc; cases hc; rfl), List.singleton_append,
          tokens_sep rfl]
        exact congrArg (w :: ·) (ih hws)
  newline ws hws hmem := by
    obtain ⟨w, hw, hc⟩ := List.mem_flatMap.mp hmem
    obtain hc | hc := List.mem_append.mp hc
    · exact ((hws w hw).2 '\n' hc).2 rfl
    · exact absurd (List.mem_singleton.mp hc) (by decide)

/-- **Without a line there is no array**: the bracket is cut off in place of the last comma. -/
theorem no_lines_no_array : fdbModule.getJson (spaced.output []) = some [']'] ∧
    ¬FdbRight spaced [] ∧ ¬ArpRight spaced [] := by
  refine ⟨rfl, ?_, ?_⟩
  · rintro ⟨t, ht, hdecode⟩
    cases ht
    cases hdecode
  · rintro ⟨t, ht, hdecode⟩
    cases ht
    cases hdecode

end MacTables
