import TfPack.AutoRestart.ConfigOptions
import TfPack.AutoRestart.Init

set_option autoImplicit false

/-! # The range of the speed test

`setSpeed` copies each option into a buffer of 64 characters and reads it into a `uint16_t`, so a
speed from 65536 on loses its upper bits before its range is checked; `port_setSpeedParam` stores
the maximum before it looks at the minimum; and when both options are there, `setSpeed` first
compares an `errorCode` it has not set. The range comes out right otherwise (`speedRight_iff`).
-/

namespace AutoRestart

open FlagWord Lua

/-- The text fits into `value_str`. -/
def FitsValueStr (o : Option String) : Prop := ∀ s, o = some s → s.toList.length < 64

/-- What is left of a number in a `uint16_t`. -/
def word (s : String) : Int := strtol s.toList % 65536

/-- The options denote a range: whole numbers from `MIN_SPEED` to `MAX_SPEED`, in order. -/
def DenoteRange (mx mn : Option String) (x y : Int) : Prop :=
  ∃ s t, mx = some s ∧ mn = some t ∧ IsInt s.toList x ∧ IsInt t.toList y ∧
    MIN_SPEED.toNat ≤ y ∧ y ≤ x ∧ x ≤ MAX_SPEED.toNat

/-- `setSpeed` overflows no buffer; it stores the range the options denote and returns `ERR_OK`; and
without such a range it returns `ERR_SPEED_VALUE` and leaves the old one. -/
structure SpeedRight (c : PortConfigInfo) (r : UbusReply) (stray : Bool) : Prop where
  fits : FitsValueStr (r.data "max_speed") ∧ FitsValueStr (r.data "min_speed")
  accepted : ∀ x y, DenoteRange (r.data "max_speed") (r.data "min_speed") x y →
    (setSpeed c r stray).2 = Flags.none.set .ERR_OK ∧
      ((setSpeed c r stray).1.max_speed.toNat : Int) = x ∧
      ((setSpeed c r stray).1.min_speed.toNat : Int) = y
  refused : (∀ x y, ¬DenoteRange (r.data "max_speed") (r.data "min_speed") x y) →
    (setSpeed c r stray).2 = Flags.none.set .ERR_SPEED_VALUE ∧
      (setSpeed c r stray).1.max_speed = c.max_speed ∧
      (setSpeed c r stray).1.min_speed = c.min_speed

variable {c : PortConfigInfo} {r : UbusReply} {stray : Bool}

/-! ## What `setSpeed` does -/

/-- A speed as `setSpeed` reads it. -/
def readSpeed (s : String) : UInt32 := (UInt16.ofInt (strtol s.toList)).toUInt32

theorem toNat_readSpeed (s : String) : ((readSpeed s).toNat : Int) = word s := by
  simp [readSpeed, word, UInt16.ofInt]
  omega

theorem readSpeed_le (s : String) : (readSpeed s).toNat ≤ 65535 := by
  have heq := toNat_readSpeed s
  rw [word] at heq
  omega

/-- Without one of the options the range is refused. -/
theorem setSpeed_missing (h : r.data "max_speed" = none ∨ r.data "min_speed" = none) :
    setSpeed c r stray = (c, Flags.none.set .ERR_SPEED_VALUE) := by
  unfold setSpeed
  rcases h with h | h
  · rw [h]
  · rw [h]
    cases r.data "max_speed" <;> rfl

/-- **`setSpeed` by the two words**: refused, refused with the maximum stored, or accepted. -/
theorem setSpeed_cases {s t : String} (hs : r.data "max_speed" = some s)
    (ht : r.data "min_speed" = some t) :
    ((stray = true ∨ word s < word t ∨ word s < 10) ∧
      setSpeed c r stray = (c, Flags.none.set .ERR_SPEED_VALUE)) ∨
    (stray = false ∧ word t ≤ word s ∧ 10 ≤ word s ∧ word t < 10 ∧ setSpeed c r stray =
      ({ c with max_speed := readSpeed s }, Flags.none.set .ERR_SPEED_VALUE)) ∨
    (stray = false ∧ word t ≤ word s ∧ 10 ≤ word t ∧ setSpeed c r stray =
      ({ c with max_speed := readSpeed s, min_speed := readSpeed t }, Flags.none.set .ERR_OK)) := by
  have hread : setSpeed c r stray = if stray then (c, Flags.none.set .ERR_SPEED_VALUE)
      else portSetSpeedParam c (readSpeed s) (readSpeed t) := by
    unfold setSpeed
    rw [hs, ht]
    rfl
  have hlt : readSpeed s < readSpeed t ↔ word s < word t := by
    rw [UInt32.lt_iff_toNat_lt, ← toNat_readSpeed, ← toNat_readSpeed]
    exact Int.ofNat_lt.symm
  have hmin : ∀ u, readSpeed u < MIN_SPEED ↔ word u < 10 := by
    intro u
    rw [UInt32.lt_iff_toNat_lt, ← toNat_readSpeed]
    exact Int.ofNat_lt.symm
  have hmax : ∀ u, ¬MAX_SPEED < readSpeed u := by
    intro u
    rw [UInt32.lt_iff_toNat_lt]
    exact Nat.not_lt.mpr (le_trans (readSpeed_le u) (by decide))
  rw [hread]
  cases stray with
  | true => exact .inl ⟨.inl rfl, rfl⟩
  | false =>
      rw [if_neg Bool.false_ne_true, portSetSpeedParam]
      by_cases horder : word s < word t
      · rw [if_pos (hlt.mpr horder)]
        exact .inl ⟨.inr (.inl horder), rfl⟩
      · rw [if_neg (fun h => horder (hlt.mp h))]
        by_cases hsmall : word s < 10
        · rw [if_pos (.inl ((hmin s).mpr hsmall))]
          exact .inl ⟨.inr (.inr hsmall), rfl⟩
        · rw [if_neg (fun h => h.elim (fun h => hsmall ((hmin s).mp h)) (hmax s))]
          right
          by_cases hlow : word t < 10
          · refine .inl ⟨rfl, by omega, by omega, hlow, ?_⟩
            exact if_pos (.inl ((hmin t).mpr hlow))
          · refine .inr ⟨rfl, by omega, by omega, ?_⟩
            exact if_neg (fun h => h.elim (fun h => hlow ((hmin t).mp h)) (hmax t))

/-! ## When the range comes out right -/

/-- An integer in the range passes through the `uint16_t` when it fits into one. -/
theorem word_eq_iff {s : String} {x : Int} (h : IsInt s.toList x) (hpos : 0 ≤ x)
    (hmax : x ≤ MAX_SPEED.toNat) : word s = x ↔ x ≤ 65535 := by
  have hval : strtol s.toList = x := by
    rw [strtol_of_isInt h, LONG_MAX]
    have hle : x ≤ 1000000 := hmax
    omega
  rw [word, hval]
  omega

theorem DenoteRange.unique {mx mn : Option String} {x y x' y' : Int} (h : DenoteRange mx mn x y)
    (h' : DenoteRange mx mn x' y') : x = x' ∧ y = y' := by
  obtain ⟨s, t, rfl, rfl, hx, hy, -⟩ := h
  obtain ⟨s', t', hs, ht, hx', hy', -⟩ := h'
  cases hs
  cases ht
  exact ⟨hx.unique hx', hy.unique hy'⟩

/-- A range is taken as it is when nothing of it is cut off. -/
theorem setSpeed_range_iff {x y : Int}
    (h : DenoteRange (r.data "max_speed") (r.data "min_speed") x y) :
    ((setSpeed c r stray).2 = Flags.none.set .ERR_OK ∧
      ((setSpeed c r stray).1.max_speed.toNat : Int) = x ∧
      ((setSpeed c r stray).1.min_speed.toNat : Int) = y) ↔ stray = false ∧ x ≤ 65535 := by
  obtain ⟨s, t, hs, ht, hx, hy, hmin, hle, hmax⟩ := h
  have hlow : (10 : Int) ≤ y := hmin
  have hxword := word_eq_iff hx (by omega) hmax
  have hyword := word_eq_iff hy (by omega) (by omega)
  have hne : (Flags.none : ErrorCode).set .ERR_SPEED_VALUE ≠ Flags.none.set .ERR_OK := by
    intro heq
    have hbit := congrArg (fun w : ErrorCode => w.has .ERR_OK) heq
    exact absurd hbit (by decide)
  rcases setSpeed_cases (c := c) hs ht with
    ⟨hcond, hout⟩ | ⟨-, -, -, hcond, hout⟩ | ⟨hstray, -, -, hout⟩
  · rw [hout]
    refine ⟨fun h => absurd h.1 hne, fun ⟨hstray, hfits⟩ => ?_⟩
    rw [hstray, hxword.mpr hfits, hyword.mpr (by omega)] at hcond
    rcases hcond with hcond | hcond
    · cases hcond
    · omega
  · rw [hout]
    refine ⟨fun h => absurd h.1 hne, fun ⟨_, hfits⟩ => ?_⟩
    rw [hyword.mpr (by omega)] at hcond
    omega
  · rw [hout]
    dsimp only
    rw [toNat_readSpeed, toNat_readSpeed, hxword, hyword]
    exact ⟨fun h => ⟨hstray, h.2.1⟩, fun h => ⟨rfl, h.2, by omega⟩⟩

/-- Two texts that denote no range are refused as they should be when the words made of them are
refused, and the maximum is either not reached or what it was. -/
theorem setSpeed_refused_iff {s t : String} (hs : r.data "max_speed" = some s)
    (ht : r.data "min_speed" = some t) :
    ((setSpeed c r stray).2 = Flags.none.set .ERR_SPEED_VALUE ∧
      (setSpeed c r stray).1.max_speed = c.max_speed ∧
      (setSpeed c r stray).1.min_speed = c.min_speed) ↔
    stray = true ∨ word s < word t ∨ word s < 10 ∨
      word t < 10 ∧ (c.max_speed.toNat : Int) = word s := by
  have hstored : readSpeed s = c.max_speed ↔ (c.max_speed.toNat : Int) = word s := by
    rw [← toNat_readSpeed, ← UInt32.toNat_inj]
    omega
  have hne : (Flags.none : ErrorCode).set .ERR_OK ≠ Flags.none.set .ERR_SPEED_VALUE := by
    intro heq
    have hbit := congrArg (fun w : ErrorCode => w.has .ERR_OK) heq
    exact absurd hbit (by decide)
  rcases setSpeed_cases (c := c) hs ht with
    ⟨hcond, hout⟩ | ⟨hstray, horder, hhigh, hlow, hout⟩ | ⟨hstray, horder, hlow, hout⟩
  · rw [hout]
    refine ⟨fun _ => ?_, fun _ => ⟨rfl, rfl, rfl⟩⟩
    rcases hcond with h | h | h
    · exact .inl h
    · exact .inr (.inl h)
    · exact .inr (.inr (.inl h))
  · rw [hout]
    constructor
    · rintro ⟨-, hsame, -⟩
      exact .inr (.inr (.inr ⟨hlow, hstored.mp hsame⟩))
    · rintro (h | h | h | ⟨-, hsame⟩)
      · rw [hstray] at h
        cases h
      · omega
      · omega
      · exact ⟨rfl, hstored.mpr hsame, rfl⟩
  · rw [hout]
    refine ⟨fun h => absurd h.1 hne, ?_⟩
    rintro (h | h | h | ⟨h, -⟩)
    · rw [hstray] at h
      cases h
    · omega
    · omega
    · omega

/-- **When `setSpeed` comes out right.** Both texts fit into the buffer; a range they denote ends
below 65536, and the unset `errorCode` does not hold `ERR_SPEED_VALUE`; and two texts that denote
no range are refused: `errorCode` happens to hold `ERR_SPEED_VALUE`, or the words made of them are
out of order, or the maximum is too small, or the minimum is and the maximum does not change. -/
theorem speedRight_iff (c : PortConfigInfo) (r : UbusReply) (stray : Bool) :
    SpeedRight c r stray ↔
      (FitsValueStr (r.data "max_speed") ∧ FitsValueStr (r.data "min_speed")) ∧
      (∀ x y, DenoteRange (r.data "max_speed") (r.data "min_speed") x y →
        stray = false ∧ x ≤ 65535) ∧
      ((∀ x y, ¬DenoteRange (r.data "max_speed") (r.data "min_speed") x y) →
        ∀ s t, r.data "max_speed" = some s → r.data "min_speed" = some t →
          stray = true ∨ word s < word t ∨ word s < 10 ∨
            word t < 10 ∧ (c.max_speed.toNat : Int) = word s) := by
  constructor
  · intro h
    exact ⟨h.fits, fun x y hrange => (setSpeed_range_iff hrange).mp (h.accepted x y hrange),
      fun hnone s t hs ht => (setSpeed_refused_iff hs ht).mp (h.refused hnone)⟩
  · rintro ⟨hfits, haccepted, hrefused⟩
    refine ⟨hfits, fun x y hrange => (setSpeed_range_iff hrange).mpr (haccepted x y hrange),
      fun hnone => ?_⟩
    cases hs : r.data "max_speed" with
    | none =>
        rw [setSpeed_missing (.inl hs)]
        exact ⟨rfl, rfl, rfl⟩
    | some s =>
        cases ht : r.data "min_speed" with
        | none =>
            rw [setSpeed_missing (.inr ht)]
            exact ⟨rfl, rfl, rfl⟩
        | some t => exact (setSpeed_refused_iff hs ht).mpr (hrefused hnone s t hs ht)

/-- The reply for a port with a speed test. -/
def speedReply (mx mn : String) : UbusReply where
  text := ""
  data key := if key = "max_speed" then some mx else if key = "min_speed" then some mn else none

/-- A range up to 100000 Kbit/s is stored as one up to 34464. -/
theorem range_cut_off : ¬∀ c r stray, SpeedRight c r stray := by
  intro h
  have hrange : DenoteRange (some "100000") (some "10") 100000 10 :=
    ⟨"100000", "10", rfl, rfl, isInt_digits (by decide) (by decide) (by decide),
      isInt_digits (by decide) (by decide) (by decide), by decide, by decide, by decide⟩
  have hright := h zeroPortInfo.portConfigInfo (speedReply "100000" "10") false
  have hsmall := ((setSpeed_range_iff (r := speedReply "100000" "10") hrange).mp
    (hright.accepted _ _ hrange)).2
  exact absurd hsmall (by decide)

end AutoRestart
