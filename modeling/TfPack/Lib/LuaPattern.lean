import TfPack.Lib.Tokens

set_option autoImplicit false

/-! # Lua patterns

The matcher of Lua for patterns made of single characters and captured repetitions. A repetition
`(x+)` first takes all the characters it can, and gives them back one by one until the rest of the
pattern matches (`maxExpand`). So of two repetitions that could share some characters the first
takes as many as it can, and leaves the second one (`matchHere_plus`).
-/

namespace LuaPattern

open Tokens

variable {α β : Type}

/-- A character of a class, or a captured repetition of a class. -/
inductive Item (α : Type)
  | one (cls : α → Bool)
  | plus (cls : α → Bool)

/-- The longest of the first `n` prefixes after which the rest of the pattern matches. -/
def maxExpand (rest : List α → Option β) (s : List α) : Nat → Option (List α × β)
  | 0 => none
  | n + 1 =>
      match rest (s.drop (n + 1)) with
      | some r => some (s.take (n + 1), r)
      | none => maxExpand rest s n

/-- The captures of a match at the start of a string. -/
def matchHere : List (Item α) → List α → Option (List (List α))
  | [], _ => some []
  | .one _ :: _, [] => none
  | .one cls :: items, c :: s => if cls c then matchHere items s else none
  | .plus cls :: items, s =>
      (maxExpand (matchHere items) s (s.takeWhile cls).length).map (fun r => r.1 :: r.2)

/-- `string.match`: the captures of the first match. -/
def find (items : List (Item α)) : List α → Option (List (List α))
  | [] => matchHere items []
  | c :: s => (matchHere items (c :: s)).or (find items s)

/-- A prefix after which the rest matches, when it does not match after any longer one. -/
theorem maxExpand_eq {rest : List α → Option β} {s : List α} {n k : Nat} {r : β} (hk : 0 < k)
    (hr : rest (s.drop k) = some r) (hkn : k ≤ n)
    (hnone : ∀ j, k < j → j ≤ n → rest (s.drop j) = none) :
    maxExpand rest s n = some (s.take k, r) := by
  induction n with
  | zero => omega
  | succ n ih =>
      rw [maxExpand]
      by_cases hlast : k = n + 1
      · rw [← hlast, hr]
      · rw [hnone (n + 1) (by omega) (Nat.le_refl _)]
        exact ih (by omega) (fun j hj hjn => hnone j hj (by omega))

/-- No prefix leaves what the rest of the pattern matches. -/
theorem maxExpand_eq_none {rest : List α → Option β} {s : List α} {n : Nat}
    (h : ∀ j, 0 < j → j ≤ n → rest (s.drop j) = none) : maxExpand rest s n = none := by
  induction n with
  | zero => rfl
  | succ n ih =>
      rw [maxExpand, h (n + 1) (by omega) (Nat.le_refl _)]
      exact ih (fun j hj hjn => h j hj (by omega))

/-- What a repetition takes is a prefix after which the rest matches. -/
theorem of_maxExpand_eq_some {rest : List α → Option β} {s x : List α} {n : Nat} {r : β}
    (h : maxExpand rest s n = some (x, r)) :
    ∃ k, 0 < k ∧ k ≤ n ∧ x = s.take k ∧ rest (s.drop k) = some r := by
  induction n with
  | zero => cases h
  | succ n ih =>
      rw [maxExpand] at h
      split at h
      · rename_i r' hr
        cases h
        exact ⟨n + 1, Nat.succ_pos n, Nat.le_refl _, rfl, hr⟩
      · obtain ⟨k, hk, hkn, hx, hr⟩ := ih h
        exact ⟨k, hk, Nat.le_succ_of_le hkn, hx, hr⟩

/-- A match of a repetition: some characters of its class, and a match of the rest. -/
theorem of_matchHere_plus {cls : α → Bool} {items : List (Item α)} {s : List α}
    {r : List (List α)} (h : matchHere (.plus cls :: items) s = some r) :
    ∃ x t r', s = x ++ t ∧ x ≠ [] ∧ (∀ c ∈ x, cls c = true) ∧ matchHere items t = some r' ∧
      r = x :: r' := by
  rw [matchHere, Option.map_eq_some_iff] at h
  obtain ⟨⟨x, r'⟩, hexpand, rfl⟩ := h
  obtain ⟨k, hk, hkn, rfl, hr⟩ := of_maxExpand_eq_some hexpand
  have hlen : (s.takeWhile cls).length ≤ s.length := (List.takeWhile_prefix cls).length_le
  have htake : s.take k = (s.takeWhile cls).take k := by
    conv_lhs => rw [← List.takeWhile_append_dropWhile (p := cls) (l := s)]
    exact List.take_append_of_le_length hkn
  refine ⟨s.take k, s.drop k, r', (List.take_append_drop k s).symm, ?_, ?_, hr, rfl⟩
  · rw [Ne, List.take_eq_nil_iff]
    rintro (hzero | rfl)
    · omega
    · rw [List.length_nil] at hlen
      omega
  · intro c hc
    rw [htake] at hc
    exact List.all_eq_true.mp List.all_takeWhile c (List.mem_of_mem_take hc)

/-- **What a repetition leaves.** It takes `x` and leaves `y` when the rest of the pattern matches
what follows `x`, and nothing shorter of what the repetition could take. -/
theorem matchHere_plus {cls : α → Bool} {items : List (Item α)} {x y t : List α}
    {r : List (List α)} (hx : x ≠ []) (hcls : ∀ c ∈ x ++ y, cls c = true)
    (ht : ∀ c ∈ t.head?, cls c = false) (hr : matchHere items (y ++ t) = some r)
    (hnone : ∀ z, z <:+ y → z ≠ y → matchHere items (z ++ t) = none) :
    matchHere (.plus cls :: items) (x ++ (y ++ t)) = some (x :: r) := by
  have htake : (x ++ (y ++ t)).takeWhile cls = x ++ y := by
    rw [← List.append_assoc, takeWhile_block hcls ht]
  have hlen : 0 < x.length := List.length_pos_of_ne_nil hx
  have hexpand : maxExpand (matchHere items) (x ++ (y ++ t)) (x ++ y).length =
      some ((x ++ (y ++ t)).take x.length, r) := by
    apply maxExpand_eq hlen
    · rw [List.drop_left, hr]
    · rw [List.length_append]
      omega
    · intro j hj hjn
      rw [List.length_append] at hjn
      have hdrop : (x ++ (y ++ t)).drop j = y.drop (j - x.length) ++ t := by
        rw [List.drop_append, List.drop_eq_nil_of_le (by omega), List.nil_append,
          List.drop_append_of_le_length (by omega)]
      rw [hdrop]
      apply hnone _ (List.drop_suffix _ _)
      intro heq
      have hshort := congrArg List.length heq
      rw [List.length_drop] at hshort
      omega
  rw [matchHere, htake, hexpand, List.take_left]
  rfl

/-- A repetition before something else takes all it can. -/
theorem matchHere_plus_all {cls : α → Bool} {items : List (Item α)} {x t : List α}
    {r : List (List α)} (hx : x ≠ []) (hcls : ∀ c ∈ x, cls c = true)
    (ht : ∀ c ∈ t.head?, cls c = false) (hr : matchHere items t = some r) :
    matchHere (.plus cls :: items) (x ++ t) = some (x :: r) := by
  have hall := matchHere_plus (y := []) (t := t) hx (by simpa using hcls) ht (by simpa using hr)
    (fun z hz hne => absurd (List.suffix_nil.mp hz) hne)
  simpa using hall

/-- A repetition without anything to take. -/
theorem matchHere_plus_none {cls : α → Bool} {items : List (Item α)} {t : List α}
    (ht : ∀ c ∈ t.head?, cls c = false) : matchHere (.plus cls :: items) t = none := by
  have htail : t.takeWhile cls = [] := takeWhile_block (x := []) (by simp) ht
  rw [matchHere, htail]
  rfl

/-- A repetition before a character it cannot take: it takes all it can. -/
theorem matchHere_plus_one {cls sep : α → Bool} (hsep : ∀ c, cls c = true → sep c = false)
    (items : List (Item α)) {x : List α} (hx : ∀ c ∈ x, cls c = true) (hne : x ≠ []) {t : List α}
    (ht : ∀ c ∈ t.head?, cls c = false) :
    matchHere (.plus cls :: .one sep :: items) (x ++ t) =
      (matchHere (.one sep :: items) t).map (fun r => x :: r) := by
  cases hrest : matchHere (.one sep :: items) t with
  | some r => exact matchHere_plus_all hne hx ht hrest
  | none =>
      rw [matchHere, takeWhile_block hx ht, maxExpand_eq_none]
      · rfl
      · intro j hj hjn
        by_cases hall : j = x.length
        · rw [hall, List.drop_left, hrest]
        · -- what is given back begins with a character of the repetition
          have hback : j < x.length := by omega
          rw [List.drop_append_of_le_length hjn, List.drop_eq_getElem_cons hback, List.cons_append,
            matchHere, hsep _ (hx _ (List.getElem_mem hback)), if_neg Bool.false_ne_true]

/-- A match of a repetition before a character it cannot take. -/
theorem matchHere_plus_one_iff {cls sep : α → Bool} (hsep : ∀ c, cls c = true → sep c = false)
    {items : List (Item α)} {s : List α} {r : List (List α)} :
    matchHere (.plus cls :: .one sep :: items) s = some r ↔
      ∃ x c t r', s = x ++ c :: t ∧ x ≠ [] ∧ (∀ a ∈ x, cls a = true) ∧ sep c = true ∧
        matchHere items t = some r' ∧ r = x :: r' := by
  constructor
  · intro h
    obtain ⟨x, t, rfl, hx, ht⟩ := exists_block cls s
    have hne : x ≠ [] := by
      rintro rfl
      rw [List.nil_append, matchHere_plus_none ht] at h
      cases h
    rw [matchHere_plus_one hsep items hx hne ht, Option.map_eq_some_iff] at h
    obtain ⟨r', hr', rfl⟩ := h
    cases t with
    | nil => cases hr'
    | cons c t =>
        rw [matchHere] at hr'
        split at hr'
        case isTrue hc => exact ⟨x, c, t, r', rfl, hne, hx, hc, hr', rfl⟩
        case isFalse => cases hr'
  · rintro ⟨x, c, t, r', rfl, hne, hx, hc, hr', rfl⟩
    have hstop : ∀ a ∈ (c :: t).head?, cls a = false := by
      intro a ha
      cases ha
      rw [Bool.eq_false_iff]
      intro hcls
      rw [hsep c hcls] at hc
      cases hc
    rw [matchHere_plus_one hsep items hx hne hstop, matchHere, if_pos hc, hr', Option.map_some]

/-- A repetition at the end of a pattern takes all it can. -/
theorem matchHere_plus_end_iff {cls : α → Bool} {s : List α} {r : List (List α)} :
    matchHere [.plus cls] s = some r ↔
      ∃ x t, s = x ++ t ∧ x ≠ [] ∧ (∀ a ∈ x, cls a = true) ∧ (∀ a ∈ t.head?, cls a = false) ∧
        r = [x] := by
  have hall : ∀ x t, x ≠ [] → (∀ a ∈ x, cls a = true) → (∀ a ∈ t.head?, cls a = false) →
      matchHere [.plus cls] (x ++ t) = some [x] :=
    fun x t hne hx ht => matchHere_plus_all hne hx ht rfl
  constructor
  · intro h
    obtain ⟨x, t, rfl, hx, ht⟩ := exists_block cls s
    have hne : x ≠ [] := by
      rintro rfl
      rw [List.nil_append, matchHere_plus_none ht] at h
      cases h
    rw [hall x t hne hx ht] at h
    exact ⟨x, t, rfl, hne, hx, ht, (Option.some.inj h).symm⟩
  · rintro ⟨x, t, rfl, hne, hx, ht, rfl⟩
    exact hall x t hne hx ht

/-- A match at the start is the first. -/
theorem find_of_matchHere {items : List (Item α)} {s : List α} {r : List (List α)}
    (h : matchHere items s = some r) : find items s = some r := by
  cases s with
  | nil => exact h
  | cons c s => rw [find, h, Option.some_or]

/-- No match starts at a character that the first item does not allow. -/
theorem find_skip (cls : α → Bool) {x : List α} (h : ∀ c ∈ x, cls c = false)
    (items : List (Item α)) (t : List α) :
    find (.one cls :: items) (x ++ t) = find (.one cls :: items) t := by
  induction x with
  | nil => rfl
  | cons c x ih =>
      rw [List.forall_mem_cons] at h
      rw [List.cons_append, find, matchHere, if_neg (by simp [h.1]), Option.none_or]
      exact ih h.2

/-- **The first match** is at the first place where the pattern matches. -/
theorem find_eq_some_iff {items : List (Item α)} {s : List α} {r : List (List α)} :
    find items s = some r ↔
      ∃ x t, s = x ++ t ∧ matchHere items t = some r ∧
        ∀ x' t', s = x' ++ t' → x'.length < x.length → matchHere items t' = none := by
  constructor
  · intro h
    induction s with
    | nil => exact ⟨[], [], rfl, h, fun x' t' _ hlt => absurd hlt (Nat.not_lt_zero _)⟩
    | cons c s ih =>
        cases hhere : matchHere items (c :: s) with
        | some r' =>
            rw [find, hhere, Option.some_or] at h
            exact ⟨[], c :: s, rfl, by rw [hhere, h], fun x' t' _ hlt =>
              absurd hlt (Nat.not_lt_zero _)⟩
        | none =>
            rw [find, hhere, Option.none_or] at h
            obtain ⟨x, t, rfl, hr, hfirst⟩ := ih h
            refine ⟨c :: x, t, rfl, hr, ?_⟩
            intro x' t' heq hlt
            cases x' with
            | nil => rwa [← List.nil_append t', ← heq]
            | cons d x' =>
                rw [List.cons_append, List.cons.injEq] at heq
                exact hfirst x' t' heq.2 (Nat.lt_of_succ_lt_succ hlt)
  · rintro ⟨x, t, rfl, hr, hfirst⟩
    induction x with
    | nil => exact find_of_matchHere hr
    | cons c x ih =>
        rw [List.cons_append, find, hfirst [] (c :: (x ++ t)) rfl (Nat.succ_pos _), Option.none_or]
        apply ih
        intro x' t' heq hlt
        exact hfirst (c :: x') t' (by rw [List.cons_append, heq, List.cons_append])
          (Nat.succ_lt_succ hlt)

end LuaPattern
