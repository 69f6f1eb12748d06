import Mathlib.Data.List.Basic
import Mathlib.Data.Nat.ModEq
import Mathlib.Tactic.Ring

set_option autoImplicit false

/-! # Numbers in network order in memory

`encode n x` is the number `x` as `n` bytes, the most significant one first, and `field` reads such
a number from memory. Memory that starts with the bytes of some fields (`Holds`) gives the numbers
back, whatever lies behind them.
-/

namespace BigEndian

/-- The last `n` bytes of `x`, the most significant one first. -/
def encode : Nat → Nat → List UInt8
  | 0, _ => []
  | n + 1, x => UInt8.ofNat (x / 256 ^ n) :: encode n x

/-- The number with the given bytes. -/
def decode : List UInt8 → Nat
  | [] => 0
  | d :: l => d.toNat * 256 ^ l.length + decode l

@[simp] theorem length_encode (n x : Nat) : (encode n x).length = n := by
  induction n with
  | zero => rfl
  | succ n ih => rw [encode, List.length_cons, ih]

/-- **A number read back is the number, as far as the bytes reach.** -/
theorem decode_encode (n x : Nat) : decode (encode n x) = x % 256 ^ n := by
  induction n with
  | zero => rw [encode, decode, Nat.pow_zero, Nat.mod_one]
  | succ n ih =>
      have hsplit : x % 256 ^ (n + 1) = x % 256 ^ n + 256 ^ n * (x / 256 ^ n % 256) := by
        rw [Nat.pow_succ, Nat.mod_mul]
      have hd : (UInt8.ofNat (x / 256 ^ n)).toNat = x / 256 ^ n % 256 := UInt8.toNat_ofNat' ..
      rw [encode, decode, ih, length_encode, hd, hsplit]
      ring

/-! ## Memory -/

/-- The bytes `l` are in memory from the address `off` on. -/
def Holds (mem : Nat → UInt8) (off : Nat) (l : List UInt8) : Prop :=
  ∀ i (h : i < l.length), mem (off + i) = l[i]

/-- The `n` bytes in memory from the address `off` on. -/
def slice (mem : Nat → UInt8) (off n : Nat) : List UInt8 :=
  (List.range n).map (fun i => mem (off + i))

/-- The number in the `n` bytes from the address `off` on. -/
def field (mem : Nat → UInt8) (off n : Nat) : Nat := decode (slice mem off n)

variable {mem : Nat → UInt8} {off : Nat} {l r : List UInt8}

theorem holds_append :
    Holds mem off (l ++ r) ↔ Holds mem off l ∧ Holds mem (off + l.length) r := by
  constructor
  · intro h
    refine ⟨fun i hi => ?_, fun i hi => ?_⟩
    · rw [h i (by rw [List.length_append]; omega), List.getElem_append_left]
    · rw [Nat.add_assoc, h (l.length + i) (by rw [List.length_append]; omega),
        List.getElem_append_right (by omega)]
      simp
  · rintro ⟨hl, hr⟩ i hi
    rcases Nat.lt_or_ge i l.length with hlt | hge
    · rw [hl i hlt, List.getElem_append_left]
    · have hi' : i - l.length < r.length := by rw [List.length_append] at hi; omega
      have hat := hr (i - l.length) hi'
      rw [List.getElem_append_right hge, ← hat]
      congr 1
      omega

/-- Memory with the bytes of `l` and zeros behind them. -/
theorem holds_getD (l : List UInt8) : Holds (fun i => l.getD i 0) 0 l := by
  intro i hi
  simp [List.getD_eq_getElem?_getD, hi]

theorem slice_of_holds (h : Holds mem off l) : slice mem off l.length = l := by
  refine List.ext_getElem (by simp [slice]) ?_
  intro i hi hi'
  simpa [slice] using h i hi'

/-- **A number in memory.** -/
theorem field_of_holds {n x : Nat} (h : Holds mem off (encode n x)) :
    field mem off n = x % 256 ^ n := by
  have hs := slice_of_holds h
  rw [length_encode] at hs
  rw [field, hs, decode_encode]

theorem field_of_holds_lt {n x : Nat} (h : Holds mem off (encode n x)) (hx : x < 256 ^ n) :
    field mem off n = x := by
  rw [field_of_holds h, Nat.mod_eq_of_lt hx]

end BigEndian
