import TfPack.Hwsys.Daemon

set_option autoImplicit false

/-! # The hardware daemon: threshold events

`events_handlers.c`: a handler is called with the value of its register over and over. It compares
the value with the one it kept, `0xFFFF` before it has any, and where the two differ by more than
`STABLE_VALUE` it compares the value with the limits too, keeps it, and logs what it found.
-/

namespace Hwsys

/-- `event_t`. -/
inductive EventT
  | I2C_OVER_MAX | I2C_LESS_MIN | I2C_LONG_PRESSED | I2C_CHANGED_TO_VAC | I2C_CHANGED_TO_BAT
  | I2C_CHANGED_TO_OPEN | I2C_CHANGED_TO_CLOSE | I2C_ERR_CHANGE_VALUE | I2C_ERR_OK
  | I2C_CRITICAL_ERROR
  deriving DecidableEq, Repr

def STABLE_VALUE : UInt16 := 10

/-- `value[k]`. -/
def valueByte (value : Fin VALUE_LEN → UInt8) (k : Nat) : UInt8 := (List.ofFn value).getD k 0

/-- `get_16bitValue`. -/
def get16bitValue (value : Fin VALUE_LEN → UInt8) : UInt16 :=
  (valueByte value 0).toUInt16 ||| (valueByte value 1).toUInt16 <<< 8

/-- `check_out_of_range`. All its parameters are unsigned words, their difference a half word. -/
def checkOutOfRange (value prevValue max min : UInt32) : EventT :=
  let dif : UInt16 :=
    if prevValue ≤ value then (value - prevValue).toUInt16 else (prevValue - value).toUInt16
  if STABLE_VALUE < dif then
    if prevValue ≠ 0xFFFF then
      if max < value then .I2C_OVER_MAX
      else if value < min then .I2C_LESS_MIN
      else .I2C_ERR_CHANGE_VALUE
    else .I2C_ERR_CHANGE_VALUE
  else .I2C_ERR_OK

/-- The two events of a value out of its range. -/
def EventT.isAlarm (e : EventT) : Bool := e == .I2C_OVER_MAX || e == .I2C_LESS_MIN

/-- What a handler finds at a call: the register table, the value of its register, and its local
`i2c_data_t`, which nothing initialises. -/
structure HandlerCall where
  sock_msgArr : Table
  value : Fin VALUE_LEN → UInt8
  data : I2cData

/-- What a call leaves and returns: the value the handler keeps, the event, and its calls of
`send_log`, as format and number. What `syslog` prints is not the number: `send_log` hands it its
`va_list` in the number's place. -/
structure Handled where
  prevValue : UInt16
  event : EventT
  log : List (String × Int)
  deriving DecidableEq

/-- `data.value[0]` after `i2c_getData(&data, addr, 1)`. -/
def HandlerCall.presentByte (c : HandlerCall) (addr : UInt32) : Option UInt8 :=
  (i2cGetData c.sock_msgArr c.data addr 1).map (fun r => valueByte r.2.value 0)

/-! ## Limits of a 16-bit value -/

/-- The limits of a threshold handler, and the formats it logs with above and below them. -/
structure Limits where
  max : UInt32
  min : UInt32
  le : min ≤ max
  overText : String
  lessText : String

/-- What a handler does after the check: a value that has changed is kept, and logged when it is
out of its range. -/
def Limits.handled (l : Limits) (prevValue value : UInt16) (event : EventT) : Handled where
  event
  prevValue :=
    if event = .I2C_ERR_CHANGE_VALUE ∨ event = .I2C_OVER_MAX ∨ event = .I2C_LESS_MIN then value
    else prevValue
  log :=
    if event = .I2C_OVER_MAX then [(l.overText, value.toNat)]
    else if event = .I2C_LESS_MIN then [(l.lessText, value.toNat)]
    else []

/-- What most threshold handlers do with a value. -/
def thresholdHandler (l : Limits) (prevValue value : UInt16) : Handled :=
  l.handled prevValue value
    (checkOutOfRange value.toUInt32 prevValue.toUInt32 l.max l.min)

/-- The value differs from the one the handler keeps, and is kept in its place. -/
def Takes (prevValue value : UInt16) : Prop :=
  prevValue.toNat + STABLE_VALUE.toNat < value.toNat ∨
    value.toNat + STABLE_VALUE.toNat < prevValue.toNat

instance (prevValue value : UInt16) : Decidable (Takes prevValue value) := by
  unfold Takes; infer_instance

/-- The value is on a side of the limits, which the event names. -/
def Limits.Beyond (l : Limits) (value : UInt16) : EventT → Prop
  | .I2C_OVER_MAX => l.max.toNat < value.toNat
  | .I2C_LESS_MIN => value.toNat < l.min.toNat
  | _ => False

/-- The value is out of the range by more than `STABLE_VALUE`. -/
def Limits.Far (l : Limits) (value : UInt16) : EventT → Prop
  | .I2C_OVER_MAX => l.max.toNat + STABLE_VALUE.toNat < value.toNat
  | .I2C_LESS_MIN => value.toNat + STABLE_VALUE.toNat < l.min.toNat
  | _ => False

/-- The value is inside the range. -/
def Limits.inside (l : Limits) (value : UInt16) : Bool :=
  decide (l.min.toNat ≤ value.toNat ∧ value.toNat ≤ l.max.toNat)

section Threshold

variable (l : Limits) (prevValue value : UInt16)

theorem difference_lt_iff :
    STABLE_VALUE < (if prevValue.toUInt32 ≤ value.toUInt32
      then (value.toUInt32 - prevValue.toUInt32).toUInt16
      else (prevValue.toUInt32 - value.toUInt32).toUInt16) ↔ Takes prevValue value := by
  -- both are 16-bit values, so their difference fits in a half word
  have hp := prevValue.toNat_lt
  have hv := value.toNat_lt
  have hten : STABLE_VALUE.toNat = 10 := rfl
  unfold Takes
  split
  case isTrue h =>
    rw [UInt32.le_iff_toNat_le, UInt16.toNat_toUInt32, UInt16.toNat_toUInt32] at h
    rw [UInt16.lt_iff_toNat_lt, UInt32.toNat_toUInt16,
      UInt32.toNat_sub_of_le _ _ (by rw [UInt32.le_iff_toNat_le]; simpa using h),
      UInt16.toNat_toUInt32, UInt16.toNat_toUInt32]
    omega
  case isFalse h =>
    rw [UInt32.le_iff_toNat_le, UInt16.toNat_toUInt32, UInt16.toNat_toUInt32] at h
    rw [UInt16.lt_iff_toNat_lt, UInt32.toNat_toUInt16,
      UInt32.toNat_sub_of_le _ _ (by rw [UInt32.le_iff_toNat_le]; simp; omega),
      UInt16.toNat_toUInt32, UInt16.toNat_toUInt32]
    omega

/-- What a value is compared with the limits. -/
def Limits.side : EventT :=
  if l.max < value.toUInt32 then .I2C_OVER_MAX
  else if value.toUInt32 < l.min then .I2C_LESS_MIN
  else .I2C_ERR_CHANGE_VALUE

/-- **The limits count for a value that is taken, unless there was none before.** -/
theorem checkOutOfRange_eq :
    checkOutOfRange value.toUInt32 prevValue.toUInt32 l.max l.min =
      if Takes prevValue value then
        if prevValue ≠ 0xFFFF then l.side value else .I2C_ERR_CHANGE_VALUE
      else .I2C_ERR_OK := by
  have hnone : prevValue.toUInt32 ≠ 0xFFFF ↔ prevValue ≠ 0xFFFF := by
    rw [ne_eq, ne_eq, ← UInt32.toNat_inj, ← UInt16.toNat_inj, UInt16.toNat_toUInt32]
    rfl
  unfold checkOutOfRange
  by_cases h : Takes prevValue value
  · rw [if_pos ((difference_lt_iff prevValue value).mpr h), if_pos h]
    simp only [hnone, Limits.side]
  · rw [if_neg h]
    exact if_neg (fun hlt => h ((difference_lt_iff prevValue value).mp hlt))

/-- The side of a value out of the range. -/
theorem side_of_beyond {side : EventT} (h : l.Beyond value side) : l.side value = side := by
  have hle := l.le
  rw [UInt32.le_iff_toNat_le] at hle
  unfold Limits.side
  simp only [UInt32.lt_iff_toNat_lt, UInt16.toNat_toUInt32]
  cases side with
  | I2C_OVER_MAX =>
      have hover : l.max.toNat < value.toNat := h
      rw [if_pos hover]
  | I2C_LESS_MIN =>
      have hless : value.toNat < l.min.toNat := h
      rw [if_neg (by omega), if_pos hless]
  | _ => cases h

/-- A value that is not taken leaves the handler as it is. -/
theorem thresholdHandler_quiet (h : ¬ Takes prevValue value) :
    thresholdHandler l prevValue value = ⟨prevValue, .I2C_ERR_OK, []⟩ := by
  simp [thresholdHandler, Limits.handled, checkOutOfRange_eq, h]

/-- A value that is taken is kept. -/
theorem prevValue_of_takes (h : Takes prevValue value) :
    (thresholdHandler l prevValue value).prevValue = value := by
  -- every event of a value that is taken is one with which it is kept
  have hside : l.side value = .I2C_ERR_CHANGE_VALUE ∨ l.side value = .I2C_OVER_MAX ∨
      l.side value = .I2C_LESS_MIN := by
    unfold Limits.side
    grind
  simp only [thresholdHandler, Limits.handled, checkOutOfRange_eq, if_pos h]
  by_cases hnone : prevValue ≠ 0xFFFF
  · rw [if_pos hnone, if_pos hside]
  · rw [if_neg hnone]
    exact if_pos (.inl rfl)

/-- The first value that is taken raises no event. -/
theorem event_of_first (h : prevValue = 0xFFFF) :
    (thresholdHandler l prevValue value).event.isAlarm = false := by
  simp only [thresholdHandler, Limits.handled, checkOutOfRange_eq, h, ne_eq, not_true_eq_false, if_false]
  split <;> rfl

/-- **A later one out of the range raises the event of its side.** -/
theorem event_of_beyond (h : Takes prevValue value) (hprev : prevValue ≠ 0xFFFF) {side : EventT}
    (hside : l.Beyond value side) : (thresholdHandler l prevValue value).event = side := by
  simp only [thresholdHandler, Limits.handled, checkOutOfRange_eq, if_pos h, if_pos hprev]
  exact side_of_beyond l value hside

end Threshold

end Hwsys
