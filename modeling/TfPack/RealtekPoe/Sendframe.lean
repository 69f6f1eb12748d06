import TfPack.Lib.Tokens
import TfPack.RealtekPoe.SetupLoop

set_option autoImplicit false

/-! # The ubus request `sendframe`

The request carries the bytes of a command as text. `ubus_poe_sendframe_cb` lets `strtoul` read one
number after the other, until the text ends or nine bytes are full, and returns what `poe_cmd_queue`
returns. So a text is cut off after its ninth byte, two numbers need nothing between them but the
sign of the second, and a frame queued for an empty queue while the back-off timer is pending is
reported as `-EBUSY`. These are the only cases in which the request does not do what its text says
(`sendsExactly_iff`).
-/

namespace RealtekPoe

open Tokens

/-! ## The request -/

/-- The status codes a request ends with. -/
def UBUS_STATUS_OK : Int := 0
def UBUS_STATUS_INVALID_ARGUMENT : Int := 2
def EBUSY : Int := 16

/-- What `poe_cmd_queue` returns: the result of `poe_cmd_send` when the queue was empty. -/
def poeCmdQueueStatus (q : Queue) : Int :=
  if q.cmd_pending.isEmpty && q.mcu_error_timeout then -EBUSY else 0

/-- What `ubus_poe_sendframe_cb` returns. -/
def sendframeStatus (q : Queue) (frame : Option (List Char)) : Int :=
  match frame.bind (frameBytes 9) with
  | none => UBUS_STATUS_INVALID_ARGUMENT
  | some _ => poeCmdQueueStatus q

/-! ## The words of a text -/

/-- Hexadecimal digits, at least one. -/
def HexDigits (ds : List Char) : Prop := ds ≠ [] ∧ ∀ c ∈ ds, digitVal c < 16

/-- The number they denote. -/
def hexVal (ds : List Char) : Nat := ds.foldl (fun n d => 16 * n + digitVal d) 0

/-- A sign or none. -/
def Sign (g : List Char) : Prop := g = [] ∨ g = ['-'] ∨ g = ['+']

/-- A word that is a hexadecimal number of one byte; `0x` and a sign may stand in front. -/
def IsHexByte (w : List Char) (v : UInt8) : Prop :=
  ∃ g p ds, w = g ++ (p ++ ds) ∧ Sign g ∧ (p = [] ∨ p = ['0', 'x'] ∨ p = ['0', 'X']) ∧
    HexDigits ds ∧ hexVal ds ≤ 0xff ∧ (g = ['-'] → hexVal ds = 0) ∧ v = UInt8.ofNat (hexVal ds)

/-- The words of the text, between white space, are the bytes `vs`. -/
def HexValues (s : List Char) (vs : Bytes) : Prop :=
  List.Forall₂ IsHexByte (Tokens.tokens isspace s) vs

/-- The request does what its text says: it is refused, and nothing is queued; or it succeeds, and
one frame is queued, of the bytes of the text. -/
def SendsExactly (q : Queue) (frame : Option (List Char)) : Prop :=
  (sendframeStatus q frame ≠ UBUS_STATUS_OK ∧
      (queueAll q (ubusPoeSendframeCb frame)).1.cmd_pending = q.cmd_pending) ∨
    sendframeStatus q frame = UBUS_STATUS_OK ∧ ∃ s vs, frame = some s ∧ HexValues s vs ∧
      ubusPoeSendframeCb frame = [vs] ∧
      (queueAll q (ubusPoeSendframeCb frame)).1.cmd_pending.map Cmd.cmd =
        q.cmd_pending.map Cmd.cmd ++ [buildFrame vs (q.cmd_seq + 1)]

/-! ## What `strtoul` reads -/

/-- A text that does not begin with a hexadecimal digit. -/
def NoHexDigit (t : List Char) : Prop := ∀ c ∈ t.head?, ¬digitVal c < 16

/-- A number at the beginning of a text: blanks, a sign, `0x` where it has a digit behind it, and
all the hexadecimal digits there are. -/
structure HexNumber (s b g p ds rest : List Char) : Prop where
  text : s = b ++ (g ++ (p ++ (ds ++ rest)))
  blanks : ∀ c ∈ b, isspace c = true
  sign : Sign g
  pre : p = [] ∧ hexPrefix (ds ++ rest) = false ∨ p = ['0', 'x'] ∨ p = ['0', 'X']
  digits : HexDigits ds
  stop : NoHexDigit rest

/-- The value `strtoul` gives a number that is not too large. -/
def unsignedVal (g ds : List Char) : Nat :=
  if g = ['-'] then (ULONG_MAX + 1 - hexVal ds) % (ULONG_MAX + 1) else hexVal ds

/-- The sign of `strtoul`. -/
def stripSign : List Char → Bool × List Char
  | '-' :: u => (true, u)
  | '+' :: u => (false, u)
  | u => (false, u)

/-- `strtoul` in base 16 from its parts. -/
theorem strtoul_eq (s : List Char) (neg : Bool) (t u : List Char)
    (hs : stripSign (s.dropWhile isspace) = (neg, t))
    (hu : (if hexPrefix t = true then t.drop 2 else t) = u) :
    strtoul s 16 =
      if u.takeWhile (fun c => decide (digitVal c < 16)) = [] then (0, false, s)
      else if ULONG_MAX < hexVal (u.takeWhile (fun c => decide (digitVal c < 16))) then
        (ULONG_MAX, true, u.dropWhile (fun c => decide (digitVal c < 16)))
      else (if neg then
          (ULONG_MAX + 1 - hexVal (u.takeWhile (fun c => decide (digitVal c < 16)))) %
            (ULONG_MAX + 1)
        else hexVal (u.takeWhile (fun c => decide (digitVal c < 16))), false,
        u.dropWhile (fun c => decide (digitVal c < 16))) := by
  -- base 16 takes a prefix away and stays as it is without one
  have hbase : strtoulBase 16 t = (16, u) := by
    rw [strtoulBase, ← hu]
    by_cases hp : hexPrefix t = true
    · rw [if_pos ⟨.inr rfl, hp⟩, if_pos hp]
    · rw [if_neg (fun h => hp h.2), if_pos (by decide), if_neg hp]
  unfold stripSign at hs
  unfold strtoul
  split at hs
  all_goals
    obtain ⟨rfl, rfl⟩ := Prod.mk.inj hs
    simp only [*]
    split
    case h_1 heq => exact (if_pos heq).symm
    case h_2 heq => exact (if_neg heq).symm

theorem not_isspace_of_digit {c : Char} (h : digitVal c < 16) : isspace c = false := by
  rw [Bool.eq_false_iff]
  intro hspace
  have hle : c.toNat ≤ 32 := by
    rw [isspace, Bool.or_eq_true, beq_iff_eq, Bool.and_eq_true, decide_eq_true_eq,
      decide_eq_true_eq] at hspace
    rcases hspace with rfl | ⟨-, hle⟩
    · decide
    · omega
  -- white space lies at or below 32, where no character is a digit
  have hall : ∀ n : Fin 33, digitVal (Char.ofNat n) = 36 := by decide
  have hval := hall ⟨c.toNat, Nat.lt_succ_of_le hle⟩
  rw [Char.ofNat_toNat] at hval
  omega

/-- The number begins with a digit, behind what stands in front of it. -/
theorem HexNumber.head {s b g p ds rest : List Char} (h : HexNumber s b g p ds rest) :
    ∃ c u, p ++ (ds ++ rest) = c :: u ∧ digitVal c < 16 := by
  rcases h.pre with ⟨rfl, -⟩ | rfl | rfl
  · obtain ⟨hne, hd⟩ := h.digits
    cases ds with
    | nil => exact absurd rfl hne
    | cons c u => exact ⟨c, u ++ rest, rfl, hd c List.mem_cons_self⟩
  · exact ⟨'0', _, rfl, by decide⟩
  · exact ⟨'0', _, rfl, by decide⟩

/-- The sign of a number is taken off. -/
theorem stripSign_number {g t : List Char} (hg : Sign g)
    (ht : ∃ c u, t = c :: u ∧ digitVal c < 16) :
    stripSign (g ++ t) = (decide (g = ['-']), t) := by
  rcases hg with rfl | rfl | rfl
  · obtain ⟨c, u, rfl, hc⟩ := ht
    rw [List.nil_append]
    unfold stripSign
    split
    case h_1 heq =>
      rw [(List.cons.inj heq).1] at hc
      exact absurd hc (by decide)
    case h_2 heq =>
      rw [(List.cons.inj heq).1] at hc
      exact absurd hc (by decide)
    case h_3 => rfl
  · rfl
  · rfl

/-- **`strtoul` reads the number** at the beginning of a text. -/
theorem strtoul_number {s b g p ds rest : List Char} (h : HexNumber s b g p ds rest) :
    strtoul s 16 = if ULONG_MAX < hexVal ds then (ULONG_MAX, true, rest)
      else (unsignedVal g ds, false, rest) := by
  have hdigits : ∀ c ∈ ds, decide (digitVal c < 16) = true := fun c hc =>
    decide_eq_true (h.digits.2 c hc)
  have hstop : ∀ c ∈ rest.head?, decide (digitVal c < 16) = false := fun c hc =>
    decide_eq_false (h.stop c hc)
  have hdrop : s.dropWhile isspace = g ++ (p ++ (ds ++ rest)) := by
    rw [h.text]
    apply dropWhile_block h.blanks
    -- behind the blanks comes a sign or the first digit, and neither is a blank
    rcases h.sign with rfl | rfl | rfl
    · obtain ⟨c, u, heq, hc⟩ := h.head
      rw [List.nil_append, heq]
      intro a ha
      cases ha
      exact not_isspace_of_digit hc
    · intro c hc
      cases hc
      decide
    · intro c hc
      cases hc
      decide
  have hsign := stripSign_number h.sign h.head
  rw [← hdrop] at hsign
  have hprefix : (if hexPrefix (p ++ (ds ++ rest)) = true then (p ++ (ds ++ rest)).drop 2
      else p ++ (ds ++ rest)) = ds ++ rest := by
    obtain ⟨hne, hd⟩ := h.digits
    rcases h.pre with ⟨rfl, hno⟩ | rfl | rfl
    · rw [List.nil_append, hno]
      rfl
    · cases ds with
      | nil => exact absurd rfl hne
      | cons c u => simp [hexPrefix, hd c List.mem_cons_self]
    · cases ds with
      | nil => exact absurd rfl hne
      | cons c u => simp [hexPrefix, hd c List.mem_cons_self]
  rw [strtoul_eq s _ _ _ hsign hprefix, takeWhile_block hdigits hstop,
    dropWhile_block hdigits hstop, if_neg h.digits.1]
  simp only [decide_eq_true_eq, unsignedVal]

/-- What stands in front of a number, and its sign. -/
theorem exists_sign (s : List Char) :
    ∃ g t, Sign g ∧ s = g ++ t ∧ stripSign s = (decide (g = ['-']), t) := by
  unfold stripSign
  split
  case h_1 u => exact ⟨['-'], u, .inr (.inl rfl), rfl, rfl⟩
  case h_2 u => exact ⟨['+'], u, .inr (.inr rfl), rfl, rfl⟩
  case h_3 => exact ⟨[], s, .inl rfl, rfl, rfl⟩

theorem hexPrefix_eq_true {t : List Char} (h : hexPrefix t = true) :
    ∃ x d u, t = '0' :: x :: d :: u ∧ (x = 'x' ∨ x = 'X') ∧ digitVal d < 16 := by
  unfold hexPrefix at h
  split at h
  case h_1 x d u =>
    rw [Bool.and_eq_true, Bool.or_eq_true, beq_iff_eq, beq_iff_eq, decide_eq_true_eq] at h
    exact ⟨x, d, u, rfl, h.1, h.2⟩
  case h_2 => cases h

/-- A text begins with a number, or `strtoul` reads nothing. -/
theorem exists_number (s : List Char) :
    (∃ b g p ds rest, HexNumber s b g p ds rest) ∨ strtoul s 16 = (0, false, s) := by
  obtain ⟨b, s', hs, hb, hs'⟩ := exists_block isspace s
  obtain ⟨g, t, hg, hgt, hsign⟩ := exists_sign s'
  have hdrop : s.dropWhile isspace = s' := by rw [hs, dropWhile_block hb hs']
  have hblock : ∀ u : List Char, ∃ ds rest, u = ds ++ rest ∧ (∀ c ∈ ds, digitVal c < 16) ∧
      NoHexDigit rest := by
    intro u
    obtain ⟨ds, rest, hu, hds, hrest⟩ := exists_block (fun c => decide (digitVal c < 16)) u
    exact ⟨ds, rest, hu, fun c hc => of_decide_eq_true (hds c hc),
      fun c hc => of_decide_eq_false (hrest c hc)⟩
  -- with a prefix there is a digit behind it, so only without one is nothing read
  cases hp : hexPrefix t with
  | true =>
      obtain ⟨x, d, u, ht, hx, hd⟩ := hexPrefix_eq_true hp
      obtain ⟨ds, rest, hu, hds, hrest⟩ := hblock u
      refine .inl ⟨b, g, ['0', x], d :: ds, rest, ?_, hb, hg, .inr ?_,
        ⟨List.cons_ne_nil d ds, List.forall_mem_cons.mpr ⟨hd, hds⟩⟩, hrest⟩
      · rw [hs, hgt, ht, hu]
        rfl
      · rcases hx with rfl | rfl
        · exact .inl rfl
        · exact .inr rfl
  | false =>
      obtain ⟨ds, rest, ht, hds, hrest⟩ := hblock t
      by_cases hne : ds = []
      · -- no digit, so `strtoul` gives the text back
        right
        have hnone : t.takeWhile (fun c => decide (digitVal c < 16)) = [] := by
          rw [ht, hne]
          exact takeWhile_block (x := []) (by simp) (fun c hc => decide_eq_false (hrest c hc))
        rw [strtoul_eq s _ t t (by rw [hdrop, hsign]) (by rw [hp]; rfl), if_pos hnone]
      · refine .inl ⟨b, g, [], ds, rest, ?_, hb, hg, .inl ⟨rfl, by rwa [← ht]⟩, ⟨hne, hds⟩, hrest⟩
        rw [hs, hgt, ht]
        rfl

/-! ## What the loop takes -/

/-- The text begins with the number `v` of one byte, as `strtoul` reads it. -/
def ByteNumber (s : List Char) (v : Nat) (rest : List Char) : Prop :=
  ∃ b g p ds, HexNumber s b g p ds rest ∧ hexVal ds ≤ ULONG_MAX ∧ v = unsignedVal g ds ∧ v ≤ 0xff

/-- The text is one number of a byte after the other, up to `room` of them; what follows them is
anything. -/
inductive ByteRun : Nat → List Char → Prop
  | full (s : List Char) : ByteRun 0 s
  | done (room : Nat) : ByteRun room []
  | more {room : Nat} {s rest : List Char} (v : Nat) (number : ByteNumber s v rest)
      (run : ByteRun room rest) : ByteRun (room + 1) s

theorem HexNumber.length_lt {s b g p ds rest : List Char} (h : HexNumber s b g p ds rest) :
    rest.length < s.length := by
  have hpos : 0 < ds.length := List.length_pos_of_ne_nil h.digits.1
  rw [h.text]
  simp only [List.length_append]
  omega

/-- The loop takes a number of one byte. -/
theorem frameBytes_number {room v : Nat} {s rest : List Char} (h : ByteNumber s v rest) :
    frameBytes (room + 1) s = (frameBytes room rest).map (UInt8.ofNat v :: ·) := by
  obtain ⟨b, g, p, ds, hnum, hmax, rfl, hv⟩ := h
  have hread : strtoul s 16 = (unsignedVal g ds, false, rest) := by
    rw [strtoul_number hnum, if_neg (Nat.not_lt.mpr hmax)]
  have hlt := hnum.length_lt
  cases s with
  | nil => exact absurd hlt (Nat.not_lt_zero _)
  | cons c cs =>
      have hmoved : (rest == c :: cs) = false := by
        rw [beq_eq_false_iff_ne]
        rintro rfl
        exact absurd hlt (Nat.lt_irrefl _)
      have hsmall : ¬0xff < unsignedVal g ds := Nat.not_lt.mpr hv
      simp only [frameBytes, hread, hmoved, decide_eq_false hsmall, Bool.or_false,
        Bool.false_eq_true, if_false]

/-- The loop refuses anything else. -/
theorem frameBytes_none {room : Nat} {s : List Char} (hs : s ≠ [])
    (h : ∀ v rest, ¬ByteNumber s v rest) : frameBytes (room + 1) s = none := by
  cases s with
  | nil => exact absurd rfl hs
  | cons c cs =>
      rcases exists_number (c :: cs) with ⟨b, g, p, ds, rest, hnum⟩ | hread
      · -- a number that is refused fits in no unsigned long, or in no byte
        by_cases hmax : ULONG_MAX < hexVal ds
        · have hread := strtoul_number hnum
          rw [if_pos hmax] at hread
          simp only [frameBytes, hread, Bool.true_or, if_true]
        · have hread := strtoul_number hnum
          rw [if_neg hmax] at hread
          have hbig : 0xff < unsignedVal g ds := by
            by_contra hle
            exact h _ rest ⟨b, g, p, ds, hnum, Nat.not_lt.mp hmax, rfl, Nat.not_lt.mp hle⟩
          simp only [frameBytes, hread, decide_eq_true hbig, Bool.or_true, if_true]
      · simp only [frameBytes, hread, beq_self_eq_true, Bool.or_true, Bool.true_or, if_true]

/-- **The loop takes the texts that are a run of bytes.** -/
theorem frameBytes_isSome_iff {room : Nat} {s : List Char} :
    (∃ bs, frameBytes room s = some bs) ↔ ByteRun room s := by
  constructor
  · rintro ⟨bs, hbs⟩
    -- on the room left in the frame
    induction room generalizing s bs with
    | zero => exact .full s
    | succ room ih =>
        by_cases hs : s = []
        · rw [hs]
          exact .done _
        · by_cases hnum : ∃ v rest, ByteNumber s v rest
          · obtain ⟨v, rest, hnum⟩ := hnum
            rw [frameBytes_number hnum, Option.map_eq_some_iff] at hbs
            obtain ⟨bs', hbs', -⟩ := hbs
            exact .more v hnum (ih _ hbs')
          · rw [frameBytes_none hs (fun v rest hv => hnum ⟨v, rest, hv⟩)] at hbs
            cases hbs
  · intro h
    induction h with
    | full s => exact ⟨[], rfl⟩
    | done room => exact ⟨[], by cases room <;> rfl⟩
    | more v number run ih =>
        obtain ⟨bs, hbs⟩ := ih
        exact ⟨UInt8.ofNat v :: bs, by rw [frameBytes_number number, hbs, Option.map_some]⟩

theorem length_frameBytes {room : Nat} {s : List Char} {bs : Bytes}
    (h : frameBytes room s = some bs) : bs.length ≤ room := by
  induction room generalizing s bs with
  | zero =>
      cases h
      exact Nat.le_refl _
  | succ room ih =>
      by_cases hs : s = []
      · rw [hs] at h
        cases h
        exact Nat.zero_le _
      · by_cases hnum : ∃ v rest, ByteNumber s v rest
        · obtain ⟨v, rest, hnum⟩ := hnum
          rw [frameBytes_number hnum, Option.map_eq_some_iff] at h
          obtain ⟨bs', hbs', rfl⟩ := h
          exact Nat.succ_le_succ (ih hbs')
        · rw [frameBytes_none hs (fun v rest hv => hnum ⟨v, rest, hv⟩)] at h
          cases h

/-- Digits and nothing else are not read as `0x`. -/
theorem hexPrefix_digits {ds t : List Char} (hds : HexDigits ds)
    (ht : ∀ c ∈ t.head?, isspace c = true) : hexPrefix (ds ++ t) = false := by
  rw [Bool.eq_false_iff]
  intro h
  obtain ⟨x, d, u, heq, hx, -⟩ := hexPrefix_eq_true h
  have hdigit : ¬digitVal x < 16 := by rcases hx with rfl | rfl <;> decide
  have hspace : ¬isspace x = true := by rcases hx with rfl | rfl <;> decide
  obtain ⟨hne, hds⟩ := hds
  -- after a lone 0 comes a blank, after more digits a digit, and neither is x
  cases ds with
  | nil => exact absurd rfl hne
  | cons a ds =>
      have htail : ds ++ t = x :: d :: u := (List.cons.inj heq).2
      cases ds with
      | nil =>
          rw [List.nil_append] at htail
          rw [htail] at ht
          exact hspace (ht x rfl)
      | cons c ds =>
          apply hdigit
          rw [← (List.cons.inj htail).1]
          exact hds c (List.mem_cons_of_mem a List.mem_cons_self)

/-- A word that is a byte is the number the loop takes. -/
theorem IsHexByte.byteNumber {b w t : List Char} {v : UInt8} (h : IsHexByte w v)
    (hb : ∀ c ∈ b, isspace c = true) (ht : ∀ c ∈ t.head?, isspace c = true) :
    ∃ n, v = UInt8.ofNat n ∧ ByteNumber (b ++ (w ++ t)) n t := by
  obtain ⟨g, p, ds, rfl, hg, hp, hds, hmax, hneg, rfl⟩ := h
  have hstop : NoHexDigit t := by
    intro c hc hdigit
    have hspace := ht c hc
    rw [not_isspace_of_digit hdigit] at hspace
    cases hspace
  -- a minus sign stands only in front of zero
  have hval : unsignedVal g ds = hexVal ds := by
    unfold unsignedVal
    split
    case isTrue hminus =>
      rw [hneg hminus]
      rfl
    case isFalse => rfl
  refine ⟨hexVal ds, rfl, b, g, p, ds, ⟨by simp, hb, hg, ?_, hds, hstop⟩, ?_, hval.symm, hmax⟩
  · rcases hp with rfl | hp
    · exact .inl ⟨rfl, hexPrefix_digits hds ht⟩
    · exact .inr hp
  · exact le_trans hmax (by decide)

/-- Blanks alone are no number. -/
theorem not_byteNumber_blanks {s : List Char} (hs : ∀ c ∈ s, isspace c = true) (v : Nat)
    (rest : List Char) : ¬ByteNumber s v rest := by
  rintro ⟨b, g, p, ds, hnum, -⟩
  obtain ⟨hne, hds⟩ := hnum.digits
  obtain ⟨c, hc⟩ := List.exists_mem_of_ne_nil ds hne
  have hmem : c ∈ s := by
    rw [hnum.text]
    simp [hc]
  have hspace := hs c hmem
  rw [not_isspace_of_digit (hds c hc)] at hspace
  cases hspace

/-- **Of a text of bytes the loop takes the first ones**, as many as there is room for. -/
theorem hexValues_take {room : Nat} {s : List Char} {vs bs : Bytes} (hvs : HexValues s vs)
    (hbs : frameBytes room s = some bs) : bs = vs.take room := by
  induction room generalizing s vs bs with
  | zero =>
      cases hbs
      rfl
  | succ room ih =>
      unfold HexValues at hvs
      cases hw : tokens isspace s with
      | nil =>
          rw [hw] at hvs
          cases hvs
          by_cases hs : s = []
          · rw [hs] at hbs
            cases hbs
            rfl
          · rw [frameBytes_none hs (not_byteNumber_blanks (tokens_eq_nil_iff.mp hw))] at hbs
            cases hbs
      | cons w ws =>
          obtain ⟨b, t, rfl, hb, -, -, ht, rfl⟩ := tokens_eq_cons hw
          rw [hw] at hvs
          cases hvs with
          | cons hbyte hrest =>
              obtain ⟨n, rfl, hnum⟩ := hbyte.byteNumber hb ht
              rw [frameBytes_number hnum, Option.map_eq_some_iff] at hbs
              obtain ⟨bs', hbs', rfl⟩ := hbs
              rw [List.take_succ_cons, ih hrest hbs']

/-! ## The request -/

/-- A text that is not a run of bytes is refused. -/
theorem sendframe_refused {q : Queue} {frame : Option (List Char)}
    (h : frame.bind (frameBytes 9) = none) :
    sendframeStatus q frame = UBUS_STATUS_INVALID_ARGUMENT ∧ ubusPoeSendframeCb frame = [] := by
  rw [sendframeStatus, ubusPoeSendframeCb, h]
  exact ⟨rfl, rfl⟩

/-- A run of bytes is queued as one frame. -/
theorem sendframe_queued {q : Queue} {s : List Char} {bs : Bytes} (h : frameBytes 9 s = some bs) :
    sendframeStatus q (some s) = poeCmdQueueStatus q ∧ ubusPoeSendframeCb (some s) = [bs] := by
  rw [sendframeStatus, ubusPoeSendframeCb, Option.bind_some, h]
  exact ⟨rfl, rfl⟩

theorem queueAll_singleton (q : Queue) (bs : Bytes) :
    (queueAll q [bs]).1.cmd_pending.map Cmd.cmd =
      q.cmd_pending.map Cmd.cmd ++ [buildFrame bs (q.cmd_seq + 1)] := by
  simp [queueAll, poeCmdQueue]

/-- What is queued is not what was pending. -/
theorem queueAll_ne (q : Queue) (bs : Bytes) :
    (queueAll q [bs]).1.cmd_pending ≠ q.cmd_pending := by
  intro h
  have hlen := congrArg (fun l => (List.map Cmd.cmd l).length) h
  rw [queueAll_singleton] at hlen
  simp at hlen

/-- The queue accepts a command without an error unless it is empty and has to wait. -/
theorem poeCmdQueueStatus_eq_ok_iff (q : Queue) :
    poeCmdQueueStatus q = UBUS_STATUS_OK ↔
      ¬(q.cmd_pending = [] ∧ q.mcu_error_timeout = true) := by
  unfold poeCmdQueueStatus
  rw [← List.isEmpty_iff, ← Bool.and_eq_true]
  split
  case isTrue h => simp [h, EBUSY, UBUS_STATUS_OK]
  case isFalse h => simp [h, UBUS_STATUS_OK]

/-- **When `sendframe` does what its text says**: the text is no run of bytes; or all of it is at
most nine bytes with white space between them, and the queue does not have to wait. -/
theorem sendsExactly_iff (q : Queue) (frame : Option (List Char)) :
    SendsExactly q frame ↔ ∀ s, frame = some s → ByteRun 9 s →
      (∃ vs, HexValues s vs ∧ vs.length ≤ 9) ∧
        ¬(q.cmd_pending = [] ∧ q.mcu_error_timeout = true) := by
  constructor
  · rintro hexact s rfl hrun
    obtain ⟨bs, hbs⟩ := frameBytes_isSome_iff.mpr hrun
    obtain ⟨hstatus, hcmds⟩ := sendframe_queued (q := q) hbs
    rcases hexact with ⟨-, hsame⟩ | ⟨hok, s', vs, hs', hvs, hqueued, -⟩
    · rw [hcmds] at hsame
      exact absurd hsame (queueAll_ne q bs)
    · -- an accepted text has queued its own bytes, of which no more than nine are kept
      cases hs'
      rw [hcmds] at hqueued
      cases hqueued
      refine ⟨⟨bs, hvs, length_frameBytes hbs⟩, ?_⟩
      rw [← poeCmdQueueStatus_eq_ok_iff, ← hstatus]
      exact hok
  · intro h
    cases hread : frame.bind (frameBytes 9) with
    | none =>
        obtain ⟨hstatus, hcmds⟩ := sendframe_refused (q := q) hread
        left
        rw [hstatus, hcmds]
        exact ⟨by decide, rfl⟩
    | some bs =>
        obtain ⟨s, rfl, hbs⟩ := Option.bind_eq_some_iff.mp hread
        obtain ⟨⟨vs, hvs, hlen⟩, hwait⟩ := h s rfl (frameBytes_isSome_iff.mp ⟨bs, hbs⟩)
        obtain ⟨hstatus, hcmds⟩ := sendframe_queued (q := q) hbs
        have hbytes : bs = vs := by rw [hexValues_take hvs hbs, List.take_of_length_le hlen]
        subst hbytes
        right
        rw [hstatus, hcmds]
        exact ⟨(poeCmdQueueStatus_eq_ok_iff q).mpr hwait, s, bs, rfl, hvs, rfl,
          queueAll_singleton q bs⟩

/-- Ten bytes are cut to nine, and the request succeeds. -/
theorem ten_bytes_cut : ¬∀ q frame, SendsExactly q frame := by
  intro h
  rcases h initQueue (some "1 2 3 4 5 6 7 8 9 a".toList) with
    ⟨hrefused, -⟩ | ⟨-, s, vs, hs, hvs, hq, -⟩
  · exact hrefused (by decide)
  · cases hs
    have hlen : vs.length = 10 := by
      rw [← List.Forall₂.length_eq hvs]
      decide
    have hnine :
        (ubusPoeSendframeCb (some "1 2 3 4 5 6 7 8 9 a".toList)).map List.length = [9] := by
      decide
    rw [hq] at hnine
    simp [hlen] at hnine

end RealtekPoe
