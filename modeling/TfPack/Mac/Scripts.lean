import TfPack.AutoRestart.LuaChecks
import TfPack.Lib.JsonArray

set_option autoImplicit false

/-! # Tables from the output of a command: `fdb_module.lua`, `arp_module.lua`

Both scripts take an output apart at its newlines and blanks, and paste the first, the fifth and the
third word of the lines that hold a certain text into JSON. The comma behind the last object is cut
off; without an object it is the bracket that goes. Otherwise the text is the array that is meant
when each object is (`tableRight_iff`), and an object is when its words can stand between quotes
(`scan_object_iff`).
-/

namespace MacTables

open Lua Tokens JsonText

/-! ## The scripts -/

/-- What the two scripts differ in: the text a line must hold, the keys of the first, the fifth and
the third word, and what is put in front of the fifth. -/
structure Script where
  marker : Text
  first : Text
  fifth : Text
  label : Text
  third : Text

/-- The matches of `(.-)\n`: what follows the last newline is none. -/
def lines (text : Text) : List Text := (text.splitOn '\n').dropLast

/-- `substrings`: the matches of `[^ ]+`. -/
def substrings (line : Text) : List Text := tokens (· == ' ') line

def member (key value : Text) : Text :=
  '"' :: (key ++ '"' :: ':' :: '"' :: (value ++ ['"']))

namespace Script

variable (s : Script)

/-- `compleat` of three words. -/
def object (one five three : Text) : Text :=
  '{' :: (member s.first one ++ ',' :: (member s.fifth (s.label ++ five) ++
    ',' :: (member s.third three ++ ['}'])))

/-- `compleat`; `nil` cannot be part of a text. -/
def compleat (substrings : List Text) : Option Text :=
  match substrings[0]?, substrings[4]?, substrings[2]? with
  | some one, some five, some three => some (s.object one five three)
  | _, _, _ => none

/-- The loop over the lines. -/
def addLines : Text → List Text → Option Text
  | superline, [] => some superline
  | superline, line :: rest =>
      if s.marker <:+: line then
        (s.compleat (substrings line)).bind (fun compleat =>
          addLines (superline ++ compleat ++ [',']) rest)
      else addLines superline rest

/-- `getJson`, of the output of its command; `none` is an error of Lua. -/
def getJson (text : Text) : Option Text :=
  (s.addLines ['['] (lines text)).map (fun superline => superline.dropLast ++ [']'])

end Script

/-- Texts that can be the words of a line. -/
def WordsOk (ws : List Text) : Prop := ∀ w ∈ ws, w ≠ [] ∧ ∀ c ∈ w, c ≠ ' ' ∧ c ≠ '\n'

/-- How words are put on a line. -/
structure Layout where
  line : List Text → Text
  words : ∀ ws, WordsOk ws → substrings (line ws) = ws
  newline : ∀ ws, WordsOk ws → '\n' ∉ line ws

/-- The output of a command. -/
def Layout.output (L : Layout) (ls : List (List Text)) : Text :=
  ls.flatMap (fun ws => L.line ws ++ ['\n'])

/-! ## What a table should say -/

def str (s : Text) : Json := .scalar (.str s)

/-- **The table is the array of the entries**, in the order of the lines. -/
def TableRight (s : Script) (text : Text) (entries : List Json) : Prop :=
  ∃ t, s.getJson text = some t ∧ decode t = some (.arr entries)

/-! ## The text that is returned -/

section Output

variable {s : Script} {L : Layout} {wss : List (List Text)} {entries : List Json}

/-- The lines of an output are the lines that have been printed. -/
theorem lines_output (h : ∀ ws ∈ wss, WordsOk ws) : lines (L.output wss) = wss.map L.line := by
  have hsplit : (L.output wss).splitOn '\n' = wss.map L.line ++ [[]] := by
    induction wss with
    | nil => rfl
    | cons ws wss ih =>
        obtain ⟨hws, hwss⟩ := List.forall_mem_cons.mp h
        have hcons : L.output (ws :: wss) = L.line ws ++ '\n' :: L.output wss := by
          simp [Layout.output]
        rw [hcons, List.splitOn_append_cons_self_of_not_mem (L.newline ws hws), ih hwss]
        rfl
  rw [lines, hsplit, List.dropLast_concat]

/-- The objects of the lines that are taken, each with a comma. -/
theorem addLines_eq_some_iff {superline t : Text} {ls : List Text} :
    s.addLines superline ls = some t ↔
      ∃ objs : List Text, (ls.filter (s.marker <:+: ·)).map (fun l => s.compleat (substrings l)) =
        objs.map some ∧ t = superline ++ objs.flatMap (· ++ [',']) := by
  induction ls generalizing superline with
  | nil =>
      simp only [Script.addLines, List.filter_nil, List.map_nil, Option.some.injEq]
      constructor
      · rintro rfl
        exact ⟨[], rfl, by simp⟩
      · rintro ⟨objs, hobjs, rfl⟩
        rw [List.map_eq_nil_iff.mp hobjs.symm, List.flatMap_nil, List.append_nil]
  | cons line rest ih =>
      rw [Script.addLines]
      split
      · rename_i hmark
        rw [List.filter_cons_of_pos (by simpa using hmark), List.map_cons]
        cases s.compleat (substrings line) with
        | none =>
            refine iff_of_false nofun ?_
            rintro ⟨objs, hobjs, -⟩
            cases objs with
            | nil => cases hobjs
            | cons x objs => cases hobjs
        | some x =>
            rw [Option.bind_some, ih]
            constructor
            · rintro ⟨objs, hobjs, rfl⟩
              exact ⟨x :: objs, by rw [hobjs]; rfl, by simp⟩
            · rintro ⟨objs, hobjs, rfl⟩
              cases objs with
              | nil => cases hobjs
              | cons y objs =>
                  rw [List.map_cons, List.cons.injEq, Option.some.injEq] at hobjs
                  obtain ⟨rfl, hobjs⟩ := hobjs
                  exact ⟨objs, hobjs, by simp⟩
      · rename_i hmark
        rw [List.filter_cons_of_neg (by simpa using hmark)]
        exact ih

/-- Cutting off the last comma and closing the bracket. -/
theorem dropLast_objects {objs : List Text} (hne : objs ≠ []) (superline : Text) :
    (superline ++ objs.flatMap (· ++ [','])).dropLast ++ [']'] = superline ++ joined objs := by
  obtain ⟨x, objs, rfl⟩ := List.exists_cons_of_ne_nil hne
  induction objs generalizing superline x with
  | nil => simp [joined, ← List.append_assoc]
  | cons y objs ih =>
      have hnext := ih (superline ++ x ++ [',']) y (List.cons_ne_nil y objs)
      rw [joined]
      simpa using hnext

theorem isItem_object {one five three : Text}
    (hkey : scan .plain (s.first ++ ['"']) = none) : IsItem (s.object one five three) where
  closes := ⟨'{' :: (member s.first one ++ ',' :: (member s.fifth (s.label ++ five) ++
    ',' :: '"' :: (s.third ++ '"' :: ':' :: '"' :: three))), by simp [Script.object, member]⟩
  opens := ⟨s.first, ':' :: '"' :: (one ++ '"' :: ',' :: (member s.fifth (s.label ++ five) ++
    ',' :: (member s.third three ++ ['}']))), by simp [Script.object, member], hkey⟩

theorem isItem_compleat {x : Text} {subs : List Text}
    (hkey : scan .plain (s.first ++ ['"']) = none) (h : s.compleat subs = some x) : IsItem x := by
  unfold Script.compleat at h
  split at h
  · cases h
    exact isItem_object hkey
  · cases h

/-- What the scanner makes of the object of a line. -/
def Script.scanned (s : Script) (ws : List Text) : Option (List Token × Mode) :=
  (s.compleat ws).bind (scan .plain)

/-- The tokens of a value, scanned alone. -/
def meant (v : Json) : Option (List Token × Mode) := some (v.tokens, .plain)

/-- Objects that are pasted are scanned one by one. -/
theorem map_scanned {sel : List (List Text)} {objs : List Text}
    (h : sel.map s.compleat = objs.map some) : sel.map s.scanned = objs.map (scan .plain) := by
  have hbind := congrArg (List.map (fun x : Option Text => x.bind (scan .plain))) h
  rw [List.map_map, List.map_map] at hbind
  exact hbind

theorem exists_objects {sel : List (List Text)} (h : sel.map s.scanned = entries.map meant) :
    ∃ objs : List Text, sel.map s.compleat = objs.map some := by
  refine ⟨sel.map (fun ws => (s.compleat ws).getD []), ?_⟩
  rw [List.map_map]
  refine List.map_congr_left (fun ws hws => ?_)
  have hmem : s.scanned ws ∈ entries.map meant := h ▸ List.mem_map_of_mem hws
  obtain ⟨v, -, hv⟩ := List.mem_map.mp hmem
  obtain ⟨x, hx, -⟩ := Option.bind_eq_some_iff.mp hv.symm
  simp [hx]

/-- **A table is right exactly when each object is**: when a line is taken, and the objects of those
that are taken are the entries. -/
theorem tableRight_iff (hkey : scan .plain (s.first ++ ['"']) = none)
    (hws : ∀ ws ∈ wss, WordsOk ws) (hflat : ∀ v ∈ entries, Flat v.tokens)
    (hle : entries.length ≤ (wss.filter (fun ws => s.marker <:+: L.line ws)).length) :
    TableRight s (L.output wss) entries ↔
      wss.filter (fun ws => s.marker <:+: L.line ws) ≠ [] ∧
        (wss.filter (fun ws => s.marker <:+: L.line ws)).map s.scanned = entries.map meant := by
  have htaken : ((lines (L.output wss)).filter (s.marker <:+: ·)).map
      (fun l => s.compleat (substrings l)) =
        (wss.filter (fun ws => s.marker <:+: L.line ws)).map s.compleat := by
    rw [lines_output hws, List.filter_map, List.map_map]
    refine List.map_congr_left (fun ws hmem => ?_)
    exact congrArg s.compleat (L.words ws (hws ws (List.mem_of_mem_filter hmem)))
  generalize wss.filter (fun ws => s.marker <:+: L.line ws) = sel at hle htaken ⊢
  have hright : ∀ objs : List Text, sel.map s.compleat = objs.map some → objs ≠ [] →
      (decode ('[' :: joined objs) = some (.arr entries) ↔
        sel.map s.scanned = entries.map meant) := by
    intro objs heq hne
    have hlen : objs.length = sel.length := by simpa using (congrArg List.length heq).symm
    rw [decode_joined_iff hne ?_ hflat (hlen ▸ hle), map_scanned heq]
    · rfl
    · intro x hx
      have hmem : some x ∈ sel.map s.compleat := heq ▸ List.mem_map_of_mem hx
      obtain ⟨ws, -, hx⟩ := List.mem_map.mp hmem
      exact isItem_compleat hkey hx
  constructor
  · rintro ⟨t, hjson, hdecode⟩
    obtain ⟨superline, hlines, rfl⟩ := Option.map_eq_some_iff.mp hjson
    obtain ⟨objs, heq, rfl⟩ := addLines_eq_some_iff.mp hlines
    rw [htaken] at heq
    have hne : objs ≠ [] := by
      rintro rfl
      cases hdecode
    rw [dropLast_objects hne] at hdecode
    refine ⟨?_, (hright objs heq hne).mp hdecode⟩
    rintro rfl
    exact hne (List.map_eq_nil_iff.mp heq.symm)
  · rintro ⟨hne, hmeant⟩
    obtain ⟨objs, heq⟩ := exists_objects hmeant
    have hobjs : objs ≠ [] := by
      rintro rfl
      exact hne (List.map_eq_nil_iff.mp heq)
    refine ⟨_, Option.map_eq_some_iff.mpr
      ⟨_, addLines_eq_some_iff.mpr ⟨objs, htaken.trans heq, rfl⟩, rfl⟩, ?_⟩
    rw [dropLast_objects hobjs]
    exact (hright objs heq hobjs).mpr hmeant

end Output

/-! ## One line -/

section Line

variable {s : Script} {one five three : Text}

/-- The tokens of an object up to the value of its second member. -/
theorem scan_object (hfirst : Plain s.first) (hone : Plain one) (hfifth : Plain s.fifth) :
    scan .plain (s.object one five three) =
      (scan .plain ('"' :: ((s.label ++ five) ++ '"' :: ',' ::
        (member s.third three ++ ['}'])))).map
          (fun q => (.lbrace :: .text s.first :: .colon :: .text one :: .comma :: .text s.fifth ::
            .colon :: q.1, q.2)) := by
  have hbrace : start '{' = some ([.lbrace], .plain) := rfl
  have hcolon : start ':' = some ([.colon], .plain) := rfl
  have hcomma : start ',' = some ([.comma], .plain) := rfl
  simp only [Script.object, member, List.cons_append, List.append_assoc, List.nil_append,
    scan_cons hbrace, scan_string hfirst, scan_cons hcolon, scan_string hone, scan_cons hcomma,
    scan_string hfifth, Option.map_map]
  rfl

/-- The rest of it. -/
theorem scan_rest (hfive : Plain (s.label ++ five)) (hthird : Plain s.third) :
    scan .plain ('"' :: ((s.label ++ five) ++ '"' :: ',' :: (member s.third three ++ ['}']))) =
      (scan (.text []) (three ++ ['"', '}'])).map
        (fun q => (.text (s.label ++ five) :: .comma :: .text s.third :: .colon :: q.1, q.2)) := by
  have hcolon : start ':' = some ([.colon], .plain) := rfl
  have hcomma : start ',' = some ([.comma], .plain) := rfl
  have hquote : ∀ t, scan .plain ('"' :: t) = scan (.text []) t := by
    intro t
    have hstep : step .plain '"' = some ([], .text []) := rfl
    rw [scan, hstep, Option.bind_some]
    simp
  rw [scan_string hfive, scan_cons hcomma, member, List.cons_append, List.append_assoc,
    List.cons_append, List.cons_append, scan_string hthird, scan_cons hcolon]
  simp only [List.cons_append, List.append_assoc, List.nil_append, hquote, Option.map_map]
  rfl

/-- **The last member is what it means exactly when it is plain.** -/
theorem scan_last_iff : scan (.text []) (three ++ ['"', '}']) =
    some ([.text three, .rbrace], .plain) ↔ Plain three := by
  constructor
  · exact plain_of_scan
  · intro h
    rw [scan_append_some (scan_text h [])]
    simp [scan, step, unescape_plain h, start, isBlank, isWordChar, punctuation]

/-- The object with three members. -/
def Script.entry (s : Script) (one five three : Text) : Json :=
  .obj [(s.first, str one), (s.fifth, str five), (s.third, str three)]

/-- An object is the one with these members exactly when the second is the fifth word with its
label, and the third can stand between quotes. -/
theorem scan_object_iff {v : Text} (hfirst : Plain s.first) (hone : Plain one)
    (hfifth : Plain s.fifth) (hfive : Plain (s.label ++ five)) (hthird : Plain s.third) :
    scan .plain (s.object one five three) = meant (s.entry one v three) ↔
      s.label ++ five = v ∧ Plain three := by
  rw [scan_object hfirst hone hfifth, scan_rest hfive hthird, ← scan_last_iff, Option.map_map,
    meant, Option.map_eq_some_iff]
  have htokens : (s.entry one v three).tokens = .lbrace :: .text s.first :: .colon :: .text one ::
      .comma :: .text s.fifth :: .colon :: .text v :: .comma :: .text s.third :: .colon ::
        [.text three, .rbrace] := by
    simp [Script.entry, str, Json.tokens, members]
  rw [htokens]
  constructor
  · rintro ⟨⟨T, m⟩, hscan, heq⟩
    simp only [Function.comp, Prod.mk.injEq, List.cons.injEq, Token.scalar.injEq,
      Scalar.str.injEq, true_and] at heq
    obtain ⟨⟨hv, rfl⟩, rfl⟩ := heq
    exact ⟨hv, hscan⟩
  · rintro ⟨rfl, hscan⟩
    exact ⟨_, hscan, rfl⟩

end Line

end MacTables
