import TfPack.AutoRestart.Types
import TfPack.Lib.Separated

set_option autoImplicit false

/-! # The status text of a port

`printBufferJson` lists the messages of the error bits of each port in a buffer of 256 characters.
It looks at the length of the buffer to see whether a separator is needed, except for the second
message: there it looks at the variable the length was last stored in, which keeps its value from
port to port. So the separator in front of `rebooting...` depends on what was printed for the ports
before (`statusText_iff`).
-/

namespace AutoRestart

open FlagWord Separated

/-! ## The messages -/

/-- `code & f`. -/
def errSet (code : BitVec 32) (f : ErrFlag) : Bool := code &&& errCoding.mask f != 0#32

/-- The separator. -/
def comma : List Char := [',', ' ']

def manualMessage : List Char := "manual rebooting... ".toList
def rebootingMessage : List Char := "rebooting... ".toList

/-- The messages after the two of a reboot, in the order of the code. -/
def lateMessages : List (ErrFlag × List Char) :=
  [(.ERR_POE_DOWN, "info: PoE switched off according to the schedule".toList),
    (.ERR_UNAVAILABLE_RESOURCE, "error: unavailable resource".toList),
    (.ERR_NULL_OBJ, "error: obj null".toList),
    (.ERR_CREATE_THREAD, "error: create thread".toList),
    (.ERR_JOIN_THREAD, "error: join thread".toList),
    (.ERR_PoE_DISABLE, "error: PoE disabled".toList),
    (.ERR_TEST_TYPE, "error: test type".toList),
    (.ERR_IP_NOT_VALID, "error: ip not valid".toList),
    (.ERR_TIME_NOT_VALID, "error: time not valid".toList),
    (.ERR_SPEED_VALUE, "error: speed not in range".toList),
    (.ERR_PORT_DISABLE, "port disable".toList),
    (.ERR_TEST_DISABLE, "test disable".toList),
    (.ERR_TEST_LINK, "error: test link".toList),
    (.ERR_TEST_PING, "error: test ping".toList),
    (.ERR_TEST_SPEED, "error: test speed".toList),
    (.ERR_TIME_ALARM, "error: time alarm".toList),
    (.ERR_PORT_SHUTDOWN, "error: reboot disabled after max resets".toList)]

/-! ## `printBufferJson` -/

/-- One of the later messages; the state is `errorMsg` and `lenErrorMsg`. -/
def lateStep (code : BitVec 32) (s : List Char × Nat) (m : ErrFlag × List Char) :
    List Char × Nat :=
  if errSet code m.1 then (appendSep comma s.1 m.2, s.1.length) else s

/-- The two messages of a reboot, with `lenErrorMsg` as the port before left it. -/
def rebootMessages (code : BitVec 32) (lenErrorMsg : Nat) : List Char :=
  let errorMsg := if errSet code .ERR_MANUAL_REBOOT then manualMessage else []
  if errSet code .ERR_REBOOTING then
    (if lenErrorMsg ≠ 0 then errorMsg ++ comma else errorMsg) ++ rebootingMessage
  else errorMsg

/-- The text of a port, and the length left behind. -/
def portText (code : BitVec 32) (lenErrorMsg : Nat) : List Char × Nat :=
  if code = errCoding.mask .ERR_OK then ("OK".toList, lenErrorMsg)
  else lateMessages.foldl (lateStep code) (rebootMessages code lenErrorMsg, lenErrorMsg)

/-- The texts `printBufferJson` prints, in order; nothing more is known from the port on whose text
overflows `errorMsg`. -/
def printedTexts : Nat → List (BitVec 32) → List (List Char)
  | _, [] => []
  | lenErrorMsg, code :: codes =>
      let r := portText code lenErrorMsg
      if r.1.length < 256 then r.1 :: printedTexts r.2 codes else []

/-- The text printed for port `k`. -/
def statusText (buffer : Fin NUM_PORTS → BitVec 32) (k : Fin NUM_PORTS) : Option (List Char) :=
  (printedTexts 0 (List.ofFn buffer))[(k : Nat)]?

/-! ## What the text should be -/

/-- The messages of the bits that are set. -/
def messagesOf (code : BitVec 32) : List (List Char) :=
  (((.ERR_MANUAL_REBOOT, manualMessage) :: (.ERR_REBOOTING, rebootingMessage) ::
    lateMessages).filter fun m => errSet code m.1).map Prod.snd

/-- The messages joined; the code without an error is `OK`. -/
def joined (code : BitVec 32) : List Char :=
  if code = errCoding.mask .ERR_OK then "OK".toList else comma.intercalate (messagesOf code)

/-- The later messages of the bits that are set. -/
def lateOf (code : BitVec 32) : List (List Char) :=
  (lateMessages.filter fun m => errSet code m.1).map Prod.snd

/-- Whether a port leaves a length other than zero behind: with a later message it does so when
that is not its only one, and without it leaves what it found. -/
def staleAfter (stale : Bool) (code : BitVec 32) : Bool :=
  if lateOf code = [] then stale else decide (2 ≤ (messagesOf code).length)

/-- Whether `lenErrorMsg` is not zero before port `k`. -/
def staleAt (codes : List (BitVec 32)) (k : Nat) : Bool := (codes.take k).foldl staleAfter false

/-- The separator in front of `rebooting...` is right: there is one when the message is the
second. -/
def SeparatorRight (stale : Bool) (code : BitVec 32) : Prop :=
  errSet code .ERR_REBOOTING = true → errSet code .ERR_MANUAL_REBOOT = stale

/-- The text fits into `errorMsg`, a separator too much or one that is missing counted. -/
def Fits (stale : Bool) (code : BitVec 32) : Prop :=
  (joined code).length +
      (if errSet code .ERR_REBOOTING && !errSet code .ERR_MANUAL_REBOOT && stale then 2 else 0) <
    256 + (if errSet code .ERR_REBOOTING && errSet code .ERR_MANUAL_REBOOT && !stale then 2 else 0)

/-! ## One port -/

theorem lateMessages_ne_nil : ∀ m ∈ lateMessages, m.2 ≠ [] := by
  have hall : lateMessages.all (fun m => !m.2.isEmpty) = true := by decide
  intro m hm
  have hne := List.all_eq_true.mp hall m hm
  rw [Bool.not_eq_true'] at hne
  exact List.isEmpty_eq_false_iff.mp hne

/-- The later messages, behind what is in the buffer. -/
theorem foldl_lateStep (code : BitVec 32) {ms : List (ErrFlag × List Char)}
    (hms : ∀ m ∈ ms, m.2 ≠ []) (t : List Char) (len : Nat) :
    (ms.foldl (lateStep code) (t, len)).1 =
        ((ms.filter fun m => errSet code m.1).map Prod.snd).foldl (appendSep comma) t ∧
      ((ms.foldl (lateStep code) (t, len)).2 ≠ 0 ↔
        if (ms.filter fun m => errSet code m.1) = [] then len ≠ 0
        else t ≠ [] ∨ 2 ≤ (ms.filter fun m => errSet code m.1).length) := by
  -- the length stored is the one before the last message, so it tells whether one was there
  induction ms generalizing t len with
  | nil => simp
  | cons m ms ih =>
      rw [List.forall_mem_cons] at hms
      obtain ⟨hm, hms⟩ := hms
      cases hset : errSet code m.1 with
      | false =>
          have hstep : lateStep code (t, len) m = (t, len) := by simp [lateStep, hset]
          rw [List.foldl_cons, hstep, List.filter_cons_of_neg (by simp [hset])]
          exact ih hms t len
      | true =>
          have hstep : lateStep code (t, len) m = (appendSep comma t m.2, t.length) := by
            simp [lateStep, hset]
          obtain ⟨htext, hlen⟩ := ih hms (appendSep comma t m.2) t.length
          rw [List.foldl_cons, hstep, List.filter_cons_of_pos (by simp [hset])]
          refine ⟨htext, hlen.trans ?_⟩
          rw [if_neg (List.cons_ne_nil _ _)]
          split
          case isTrue hnil =>
            rw [hnil, List.length_singleton, ne_eq, List.length_eq_zero_iff]
            exact ⟨.inl, fun h => h.resolve_right (by decide)⟩
          case isFalse hcons =>
            have hpos := List.length_pos_of_ne_nil hcons
            refine ⟨fun _ => .inr ?_, fun _ => .inl (appendSep_ne_nil hm)⟩
            rw [List.length_cons]
            omega

/-- The messages of a reboot as they should stand in the buffer. -/
def rebootStart (code : BitVec 32) : List Char :=
  if errSet code .ERR_REBOOTING then
    if errSet code .ERR_MANUAL_REBOOT then manualMessage ++ (comma ++ rebootingMessage)
    else rebootingMessage
  else if errSet code .ERR_MANUAL_REBOOT then manualMessage else []

variable {code : BitVec 32} {len : Nat}

theorem length_messagesOf (code : BitVec 32) : (messagesOf code).length =
    (if errSet code .ERR_MANUAL_REBOOT then 1 else 0) +
      (if errSet code .ERR_REBOOTING then 1 else 0) + (lateOf code).length := by
  unfold messagesOf lateOf
  cases hman : errSet code .ERR_MANUAL_REBOOT <;> cases hreb : errSet code .ERR_REBOOTING <;>
    simp [hman, hreb] <;> omega

theorem messagesOf_ne_nil : ∀ m ∈ messagesOf code, m ≠ [] := by
  intro m hm
  obtain ⟨f, hf, rfl⟩ := List.mem_map.mp hm
  rcases List.mem_cons.mp (List.mem_filter.mp hf).1 with rfl | hf
  · decide
  · rcases List.mem_cons.mp hf with rfl | hf
    · decide
    · exact lateMessages_ne_nil f hf

/-- The joined text is the later messages behind those of a reboot. -/
theorem joined_eq (h : code ≠ errCoding.mask .ERR_OK) :
    joined code = (lateOf code).foldl (appendSep comma) (rebootStart code) := by
  rw [joined, if_neg h, ← foldl_appendSep_nil messagesOf_ne_nil]
  unfold messagesOf lateOf rebootStart
  cases hman : errSet code .ERR_MANUAL_REBOOT <;> cases hreb : errSet code .ERR_REBOOTING
  all_goals
    simp only [List.filter_cons, hman, hreb, if_true, if_false, Bool.false_eq_true, List.map_cons,
      List.foldl_cons] <;> rfl

theorem portText_eq (h : code ≠ errCoding.mask .ERR_OK) :
    (portText code len).1 =
      (lateOf code).foldl (appendSep comma) (rebootMessages code len) := by
  rw [portText, if_neg h]
  exact (foldl_lateStep code lateMessages_ne_nil _ _).1

/-- The messages of a reboot differ from what they should be by the separator. -/
theorem rebootMessages_cases (code : BitVec 32) (len : Nat) :
    (errSet code .ERR_REBOOTING = false ∧ rebootMessages code len = rebootStart code) ∨
    (errSet code .ERR_REBOOTING = true ∧ rebootMessages code len ≠ [] ∧ rebootStart code ≠ [] ∧
      (rebootMessages code len).length +
          (if errSet code .ERR_MANUAL_REBOOT && !decide (len ≠ 0) then 2 else 0) =
        (rebootStart code).length +
          (if !errSet code .ERR_MANUAL_REBOOT && decide (len ≠ 0) then 2 else 0) ∧
      (errSet code .ERR_MANUAL_REBOOT = decide (len ≠ 0) →
        rebootMessages code len = rebootStart code)) := by
  -- four cases of the two bits and of a length left behind
  unfold rebootMessages rebootStart
  cases hreb : errSet code .ERR_REBOOTING with
  | false => exact .inl ⟨rfl, rfl⟩
  | true =>
      right
      by_cases hlen : len = 0
      all_goals
        cases hman : errSet code .ERR_MANUAL_REBOOT
        all_goals
          simp only [hlen, ne_eq, not_true_eq_false, not_false_eq_true, decide_true, decide_false,
            if_true, if_false, Bool.false_eq_true, true_and]
          decide

/-- The text of the code without an error. -/
theorem errSet_ok : errSet (errCoding.mask .ERR_OK) .ERR_REBOOTING = false := by
  decide

/-- **The text of a port is right exactly when the separator of its second message is.** -/
theorem portText_right_iff :
    (portText code len).1 = joined code ↔ SeparatorRight (decide (len ≠ 0)) code := by
  by_cases hok : code = errCoding.mask .ERR_OK
  · subst hok
    rw [SeparatorRight, errSet_ok, portText, joined, if_pos rfl, if_pos rfl]
    exact ⟨fun _ => nofun, fun _ => rfl⟩
  · rw [portText_eq hok, joined_eq hok, SeparatorRight]
    rcases rebootMessages_cases code len with
      ⟨hreb, hsame⟩ | ⟨hreb, hne, hne', hlength, hsame⟩
    · rw [hsame, hreb]
      exact ⟨fun _ => nofun, fun _ => rfl⟩
    · -- what is appended later does not make up for a separator too much or too little
      rw [foldl_appendSep_inj hne hne', hreb]
      refine ⟨fun heq _ => ?_, fun hsep => hsame (hsep rfl)⟩
      rw [heq] at hlength
      cases hman : errSet code .ERR_MANUAL_REBOOT <;> cases hstale : decide (len ≠ 0) <;>
        simp [hman, hstale] at hlength ⊢

/-- The text of a port fits into the buffer when it fits by count. -/
theorem portText_fits_iff :
    (portText code len).1.length < 256 ↔ Fits (decide (len ≠ 0)) code := by
  unfold Fits
  by_cases hok : code = errCoding.mask .ERR_OK
  · subst hok
    rw [errSet_ok, portText, joined, if_pos rfl, if_pos rfl]
    simp
  · rcases rebootMessages_cases code len with
      ⟨hreb, hsame⟩ | ⟨hreb, hne, hne', hlength, -⟩
    · rw [portText_eq hok, joined_eq hok, hsame, hreb]
      simp
    · have htotal := length_foldl_appendSep comma (lateOf code) hne hne'
      rw [portText_eq hok, joined_eq hok, hreb]
      simp only [Bool.true_and]
      omega

/-- The length a port leaves behind. -/
theorem staleAfter_eq :
    decide ((portText code len).2 ≠ 0) = staleAfter (decide (len ≠ 0)) code := by
  by_cases hok : code = errCoding.mask .ERR_OK
  · have hlate : lateOf code = [] := by
      subst hok
      decide
    rw [staleAfter, if_pos hlate, portText, if_pos hok]
  · have hlen := (foldl_lateStep code lateMessages_ne_nil (rebootMessages code len) len).2
    have hnil : (lateMessages.filter fun m => errSet code m.1) = [] ↔ lateOf code = [] :=
      List.map_eq_nil_iff.symm
    have hcount : (lateMessages.filter fun m => errSet code m.1).length = (lateOf code).length :=
      (List.length_map _).symm
    rw [portText, if_neg hok, staleAfter]
    simp only [hnil, hcount] at hlen
    by_cases hlate : lateOf code = []
    · rw [if_pos hlate] at hlen ⊢
      exact decide_eq_decide.mpr hlen
    · rw [if_neg hlate] at hlen ⊢
      -- with a later message the length left behind counts the messages before the last one
      rw [decide_eq_decide, hlen, length_messagesOf]
      have hpos := List.length_pos_of_ne_nil hlate
      have hstart : rebootMessages code len ≠ [] ↔
          errSet code .ERR_MANUAL_REBOOT = true ∨ errSet code .ERR_REBOOTING = true := by
        have hmanual : manualMessage ≠ [] := by decide
        have hrebooting : rebootingMessage ≠ [] := by decide
        unfold rebootMessages
        cases hman : errSet code .ERR_MANUAL_REBOOT <;> cases hreb : errSet code .ERR_REBOOTING <;>
          simp [hmanual, hrebooting]
      rw [hstart]
      cases hman : errSet code .ERR_MANUAL_REBOOT <;> cases hreb : errSet code .ERR_REBOOTING <;>
        simp <;> omega

/-! ## All ports -/

/-- `lenErrorMsg` before port `k`. -/
def lenAt (len : Nat) (codes : List (BitVec 32)) (k : Nat) : Nat :=
  (codes.take k).foldl (fun len code => (portText code len).2) len

theorem staleAt_eq (codes : List (BitVec 32)) (k : Nat) :
    decide (lenAt 0 codes k ≠ 0) = staleAt codes k := by
  -- the ports are printed in turn, each with the length that the one before left
  have hfold : ∀ (cs : List (BitVec 32)) (len : Nat),
      decide (cs.foldl (fun len code => (portText code len).2) len ≠ 0) =
        cs.foldl staleAfter (decide (len ≠ 0)) := by
    intro cs
    induction cs with
    | nil => exact fun _ => rfl
    | cons c cs ih =>
        intro len
        rw [List.foldl_cons, List.foldl_cons, ih, staleAfter_eq]
  exact hfold _ 0

/-- A text is printed when it and those of the ports before fit into the buffer. -/
theorem printedTexts_eq_some_iff {codes : List (BitVec 32)} {k : Nat} {t : List Char} :
    (printedTexts len codes)[k]? = some t ↔
      (∃ code, codes[k]? = some code ∧ (portText code (lenAt len codes k)).1 = t) ∧
        ∀ j ≤ k, ∀ code, codes[j]? = some code →
          (portText code (lenAt len codes j)).1.length < 256 := by
  induction codes generalizing len k with
  | nil => simp [printedTexts]
  | cons c cs ih =>
      by_cases hfits : (portText c len).1.length < 256
      · have hprint : printedTexts len (c :: cs) =
            (portText c len).1 :: printedTexts (portText c len).2 cs := if_pos hfits
        rw [hprint]
        cases k with
        | zero =>
            rw [List.getElem?_cons_zero, Option.some.injEq]
            refine ⟨fun h => ⟨⟨c, rfl, h⟩, fun j hj code hcode => ?_⟩, ?_⟩
            · obtain rfl : j = 0 := Nat.le_zero.mp hj
              cases hcode
              exact hfits
            · rintro ⟨⟨code, hcode, h⟩, -⟩
              cases hcode
              exact h
        | succ k =>
            rw [List.getElem?_cons_succ, ih]
            refine and_congr Iff.rfl ⟨fun h j hj code hcode => ?_, fun h j hj code hcode => ?_⟩
            · cases j with
              | zero =>
                  cases hcode
                  exact hfits
              | succ j => exact h j (Nat.le_of_succ_le_succ hj) code hcode
            · exact h (j + 1) (Nat.succ_le_succ hj) code hcode
      · have hprint : printedTexts len (c :: cs) = [] := if_neg hfits
        rw [hprint, List.getElem?_nil]
        refine ⟨nofun, fun h => ?_⟩
        exact absurd (h.2 0 (Nat.zero_le k) c rfl) hfits

/-- **When the text printed for a port is the messages of its own bits, joined.** The texts of it
and the ports before fit into the buffer; and if its `rebooting...` is listed, it is the second
message exactly when the last port before with a later message had two messages or more. -/
theorem statusText_iff (buffer : Fin NUM_PORTS → BitVec 32) (k : Fin NUM_PORTS) :
    statusText buffer k = some (joined (buffer k)) ↔
      (∀ j ≤ k, Fits (staleAt (List.ofFn buffer) j) (buffer j)) ∧
        SeparatorRight (staleAt (List.ofFn buffer) k) (buffer k) := by
  have hget : ∀ j : Fin NUM_PORTS, (List.ofFn buffer)[(j : Nat)]? = some (buffer j) := by
    intro j
    rw [List.getElem?_ofFn, dif_pos j.isLt]
  rw [statusText, printedTexts_eq_some_iff, and_comm]
  refine and_congr ?_ ?_
  · simp only [← staleAt_eq, ← portText_fits_iff]
    constructor
    · exact fun h j hj => h j hj _ (hget j)
    · intro h j hj code hcode
      have hlt : j < NUM_PORTS := Nat.lt_of_le_of_lt hj k.isLt
      have hj' := h ⟨j, hlt⟩ hj
      rw [hget ⟨j, hlt⟩] at hcode
      cases hcode
      exact hj'
  · rw [← staleAt_eq, ← portText_right_iff]
    constructor
    · rintro ⟨code, hcode, h⟩
      rw [hget k] at hcode
      cases hcode
      exact h
    · exact fun h => ⟨buffer k, hget k, h⟩

/-- A port that is rebooted by a command while an automatic reboot is still marked: the separator
between the two messages is missing. -/
theorem separator_missing : ¬∀ buffer k, statusText buffer k = some (joined (buffer k)) := by
  intro h
  have hport := h (fun _ => 0xC0000#32) 0
  have hlength := congrArg (Option.map List.length) hport
  exact absurd hlength (by decide)

end AutoRestart
