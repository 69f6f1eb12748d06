import TfPack.DeviceMonitor.UserHandler

set_option autoImplicit false

/-! # The grammar of the settings: `getSettingTable`

A message is a sequence of items `#KEY=[VALUE]`. `getSettingTable` cuts it at every `#` and looks
for the two brackets in each piece, so a `#` in a value leaves a piece without its closing bracket,
and the arithmetic on what was not found ends the script. A text that is no message is an error of
that kind too, or is loaded all the same; `msg_error` is for the empty one only
(`messageRight_iff`).
-/

namespace DeviceMonitor

/-! ## Items -/

/-- `#KEY=[VALUE]`. The key has none of the separators, the value does not have the last one. -/
structure SettingItem where
  key : Bytes
  value : Bytes
  key_plain : 35 ∉ key ∧ 61 ∉ key ∧ 91 ∉ key ∧ 93 ∉ key
  value_plain : 93 ∉ value

/-- `KEY=[VALUE]`. -/
def SettingItem.part (i : SettingItem) : Bytes := i.key ++ 61 :: 91 :: (i.value ++ [93])

/-- The text of some items. -/
def itemsText (items : List SettingItem) : Bytes := items.flatMap (fun i => 35 :: i.part)

/-- An item is put into the table. -/
def ConfigTable.put (table : ConfigTable) (i : SettingItem) : ConfigTable :=
  fun k => if k = i.key then some i.value else table k

/-- The table of some items: the last one of a key is in it. -/
def itemsTable (items : List SettingItem) : ConfigTable :=
  items.foldl ConfigTable.put (fun _ => none)

/-- The message is a sequence of items, of one at least. -/
def IsMessage (s : Bytes) : Prop := ∃ items, items ≠ [] ∧ s = itemsText items

/-- A text is taken right: without an error, as its items when it is a message, and with nothing
applied when it is none. -/
structure MessageRight (s : Bytes) : Prop where
  no_error : getSettingTable (some s) ≠ none
  message : ∀ items, items ≠ [] → s = itemsText items →
    getSettingTable (some s) = some (.msg_ok (itemsTable items))
  other : ¬IsMessage s → getSettingTable (some s) = some .msg_error ∧
    ∀ userdata arg1, (runHashTest userdata arg1 (some s)).commands = []

/-! ## Parts -/

theorem idxOf?_append_cons {a : UInt8} {x : Bytes} (h : a ∉ x) (y : Bytes) :
    (x ++ a :: y).idxOf? a = some x.length := by
  induction x with
  | nil => simp [List.idxOf?_cons]
  | cons b x ih =>
      rw [List.mem_cons, not_or] at h
      have hne : (b == a) = false := by simpa using fun heq => h.1 heq.symm
      rw [List.cons_append, List.idxOf?_cons, hne, ih h.2]
      rfl

/-- What stands in front of a byte for the first time, and behind it. -/
theorem append_cons_inj {a : UInt8} {x x' y y' : Bytes} (hx : a ∉ x) (hx' : a ∉ x')
    (h : x ++ a :: y = x' ++ a :: y') : x = x' ∧ y = y' := by
  have hindex := idxOf?_append_cons hx y
  rw [h, idxOf?_append_cons hx' y'] at hindex
  obtain ⟨hfront, hback⟩ := List.append_inj h (Option.some.inj hindex).symm
  exact ⟨hfront, List.tail_eq_of_cons_eq hback⟩

/-- The part in front of a message, or of the end, is the first one. -/
theorem settingParts_cons {p rest : Bytes} (hp : 35 ∉ p) (hne : p ≠ [])
    (hrest : rest = [] ∨ ∃ t, rest = 35 :: t) :
    settingParts (35 :: (p ++ rest)) = p :: settingParts rest := by
  have hkeep : (p != []) = true := by simpa using hne
  have htail : ∀ t : Bytes, ((35 :: t).splitOn 35).tail = t.splitOn 35 := by
    intro t
    have hsplit := List.splitOn_append_cons_self (a := (35 : UInt8)) [] t
    rw [List.nil_append, List.splitOn_nil] at hsplit
    rw [hsplit]
    rfl
  rw [settingParts, htail]
  rcases hrest with rfl | ⟨t, rfl⟩
  · rw [List.append_nil, List.splitOn_eq_singleton hp, List.filter_cons, if_pos hkeep]
    rfl
  · rw [List.splitOn_append_cons_self, List.splitOn_eq_singleton hp, List.singleton_append,
      List.filter_cons, if_pos hkeep, settingParts, htail]

/-- **A part without a closing bracket is an error.** -/
theorem loadPart_open (table : ConfigTable) {p : Bytes} (h : 93 ∉ p) : loadPart table p = none := by
  have hclose : p.idxOf? 93 = none := List.idxOf?_eq_none_iff.mpr h
  rw [loadPart, hclose]
  cases p.idxOf? 91 <;> rfl

/-- **The part of an item gives its key and its value.** -/
theorem loadPart_item (table : ConfigTable) (i : SettingItem) :
    loadPart table i.part = some (table.put i) := by
  obtain ⟨-, hassign, hopen, hclose⟩ := i.key_plain
  have hpart : i.part = (i.key ++ [61]) ++ 91 :: (i.value ++ [93]) := by simp [SettingItem.part]
  have hpart' : i.part = (i.key ++ [61, 91] ++ i.value) ++ 93 :: [] := by simp [SettingItem.part]
  have hi : i.part.idxOf? 91 = some (i.key ++ [61]).length := by
    rw [hpart]
    exact idxOf?_append_cons (by simpa using hopen) _
  have hj : i.part.idxOf? 93 = some (i.key ++ [61, 91] ++ i.value).length := by
    rw [hpart']
    exact idxOf?_append_cons (by simpa using ⟨hclose, i.value_plain⟩) _
  have hkey : (i.part.take (i.key ++ [61]).length).filter (fun c => c != 61) = i.key := by
    rw [hpart, List.take_left, List.filter_append, List.filter_eq_self.mpr (fun c hc => ?_)]
    · simp
    · simpa using fun heq : c = 61 => hassign (heq ▸ hc)
  have hvalue : (i.part.take (i.key ++ [61, 91] ++ i.value).length).drop
      ((i.key ++ [61]).length + 1) = i.value := by
    have hlen : (i.key ++ [61]).length + 1 = (i.key ++ [61, 91]).length := by simp
    rw [hpart', List.take_left, hlen, List.drop_left]
  simp only [loadPart, hi, hj, hkey, hvalue]
  rfl

/-! ## Messages -/

theorem itemsText_cons (i : SettingItem) (items : List SettingItem) :
    itemsText (i :: items) = 35 :: (i.part ++ itemsText items) := rfl

theorem itemsText_shape (items : List SettingItem) :
    itemsText items = [] ∨ ∃ t, itemsText items = 35 :: t := by
  cases items with
  | nil => exact .inl rfl
  | cons i items => exact .inr ⟨_, rfl⟩

/-- **The parts of a message are loaded**, unless a value has a `#`. -/
theorem foldlM_itemsText (items : List SettingItem) (table : ConfigTable) :
    (settingParts (itemsText items)).foldlM loadPart table =
      if ∀ i ∈ items, 35 ∉ i.value then some (items.foldl ConfigTable.put table) else none := by
  induction items generalizing table with
  | nil => rfl
  | cons i items ih =>
      rw [itemsText_cons]
      by_cases hvalue : 35 ∈ i.value
      · -- the piece up to the `#` has no closing bracket
        rw [if_neg (fun hall => hall i List.mem_cons_self hvalue)]
        obtain ⟨v, w, hsplit, hv⟩ := List.eq_append_cons_of_mem hvalue
        have hopen : 93 ∉ i.key ++ 61 :: 91 :: v := by
          have hclose := i.value_plain
          rw [hsplit, List.mem_append, not_or] at hclose
          simpa using ⟨i.key_plain.2.2.2, hclose.1⟩
        have htext : i.part ++ itemsText items =
            (i.key ++ 61 :: 91 :: v) ++ 35 :: (w ++ [93] ++ itemsText items) := by
          simp [SettingItem.part, hsplit]
        rw [htext, settingParts_cons (by simpa using ⟨i.key_plain.1, hv⟩) (by simp)
          (.inr ⟨_, rfl⟩), List.foldlM_cons, loadPart_open table hopen]
        rfl
      · have hall : (∀ j ∈ i :: items, 35 ∉ j.value) ↔ ∀ j ∈ items, 35 ∉ j.value := by
          rw [List.forall_mem_cons]
          exact and_iff_right hvalue
        have hpart : 35 ∉ i.part := by
          simpa [SettingItem.part] using ⟨i.key_plain.1, hvalue⟩
        rw [settingParts_cons hpart (by simp [SettingItem.part]) (itemsText_shape items),
          List.foldlM_cons, loadPart_item, Option.bind_eq_bind, Option.bind_some, ih,
          List.foldl_cons]
        simp only [hall]

/-- A text has one sequence of items at most. -/
theorem itemsText_injective {items items' : List SettingItem}
    (h : itemsText items = itemsText items') : items = items' := by
  induction items generalizing items' with
  | nil =>
      cases items' with
      | nil => rfl
      | cons i' items' => cases h
  | cons i items ih =>
      cases items' with
      | nil => cases h
      | cons i' items' =>
          have htext : ∀ (j : SettingItem) (js : List SettingItem), itemsText (j :: js) =
              35 :: (j.key ++ 61 :: 91 :: (j.value ++ 93 :: itemsText js)) := by
            intro j js
            simp [itemsText_cons, SettingItem.part]
          rw [htext, htext] at h
          obtain ⟨hkey, hrest⟩ := append_cons_inj i.key_plain.2.1 i'.key_plain.2.1
            (List.tail_eq_of_cons_eq h)
          obtain ⟨hvalue, hitems⟩ := append_cons_inj i.value_plain i'.value_plain
            (List.tail_eq_of_cons_eq hrest)
          rw [ih hitems]
          congr 1
          cases i
          cases i'
          cases hkey
          cases hvalue
          rfl

/-- What `getSettingTable` makes of a text that is not empty. -/
theorem getSettingTable_eq {s : Bytes} (h : s ≠ []) :
    getSettingTable (some s) =
      ((settingParts s).foldlM loadPart (fun _ => none)).map .msg_ok := by
  cases s with
  | nil => exact absurd rfl h
  | cons c s => rfl

/-- `msg_error` is for the empty text. -/
theorem getSettingTable_ne_msg_error {s : Bytes} (h : s ≠ []) :
    getSettingTable (some s) ≠ some .msg_error := by
  rw [getSettingTable_eq h]
  cases (settingParts s).foldlM loadPart (fun _ => none) <;> simp

/-- **What `getSettingTable` makes of a message.** -/
theorem getSettingTable_itemsText {items : List SettingItem} (hne : items ≠ []) :
    getSettingTable (some (itemsText items)) =
      if ∀ i ∈ items, 35 ∉ i.value then some (.msg_ok (itemsTable items)) else none := by
  have htext : itemsText items ≠ [] := by
    cases items with
    | nil => exact absurd rfl hne
    | cons i items => exact List.cons_ne_nil _ _
  rw [getSettingTable_eq htext, foldlM_itemsText]
  split <;> rfl

/-- Nothing is applied after an empty text. -/
theorem runHashTest_nil (userdata : RpcdReply) (arg1 : Option Bytes) :
    (runHashTest userdata arg1 (some [])).commands = [] := by
  unfold runHashTest
  rcases checkValidHash userdata arg1 with _ | _ | _ | _ <;> rfl

/-- **When a text is taken right**: when it is empty, and when it is a message whose values have no
`#`. -/
theorem messageRight_iff (s : Bytes) :
    MessageRight s ↔
      s = [] ∨ ∃ items, items ≠ [] ∧ s = itemsText items ∧ ∀ i ∈ items, 35 ∉ i.value := by
  constructor
  · intro h
    rcases eq_or_ne s [] with hempty | hne
    · exact .inl hempty
    · have hmessage : IsMessage s := by
        by_contra hnot
        exact getSettingTable_ne_msg_error hne (h.other hnot).1
      obtain ⟨items, hitems, rfl⟩ := hmessage
      refine .inr ⟨items, hitems, rfl, ?_⟩
      by_contra hvalue
      have herror := getSettingTable_itemsText hitems
      rw [if_neg hvalue] at herror
      exact h.no_error herror
  · rintro (rfl | ⟨items, hitems, rfl, hvalue⟩)
    · refine ⟨Option.some_ne_none _, ?_, fun _ => ⟨rfl, runHashTest_nil⟩⟩
      intro items hitems hempty
      obtain ⟨i, items, rfl⟩ := List.exists_cons_of_ne_nil hitems
      cases hempty
    · have hok := getSettingTable_itemsText hitems
      rw [if_pos hvalue] at hok
      refine ⟨by simp [hok], ?_, fun hnot => absurd ⟨items, hitems, rfl⟩ hnot⟩
      intro items' _ hsame
      rw [hok, itemsText_injective hsame]

/-- A message with a `#` in a value. -/
def hashItem : SettingItem := ⟨ascii "SYSTEM_NAME", ascii "rack #2", by decide, by decide⟩

theorem hash_in_value_ends : ¬∀ s, MessageRight s := by
  intro h
  have hmessage := (h (itemsText [hashItem])).message [hashItem] (List.cons_ne_nil _ _) rfl
  have herror := getSettingTable_itemsText (List.cons_ne_nil hashItem [])
  have hvalue : ¬∀ i ∈ [hashItem], 35 ∉ i.value := by decide
  rw [if_neg hvalue, hmessage] at herror
  cases herror

end DeviceMonitor
