import Mathlib.Data.BitVec
import Mathlib.Logic.Function.Basic

set_option autoImplicit false

/-! # Words of flags

A C program keeps sets of named one-bit flags in an integer: `w |= F` sets a flag, `w &= ~F`
clears it, `w & F` tests it. `Flags F` is such a word seen as the set of the flags of the
enumeration `F`; `Coding.Represents` says when an integer of `n` bits holds it, and the lemmas
after it say that setting and clearing a bit of the integer are the operations on the set.
-/

namespace FlagWord

/-- A word of flags: which flags of `F` are set. -/
@[ext] structure Flags (F : Type) where
  has : F → Bool

namespace Flags

variable {F : Type}

/-- The word `0`. -/
def none : Flags F := ⟨fun _ => false⟩

/-- `w |= v`, for a whole word `v`. -/
def union (w v : Flags F) : Flags F := ⟨fun g => w.has g || v.has g⟩

@[simp] theorem has_none (f : F) : (none : Flags F).has f = false := rfl

@[simp] theorem has_union (w v : Flags F) (g : F) :
    (w.union v).has g = (w.has g || v.has g) := rfl

variable [DecidableEq F]

/-- `w |= f`. -/
def set (w : Flags F) (f : F) : Flags F := ⟨fun g => if g = f then true else w.has g⟩

/-- `w &= ~f`. -/
def clear (w : Flags F) (f : F) : Flags F := ⟨fun g => if g = f then false else w.has g⟩

/-- `w &= f`: only the flag `f` of `w` stays. -/
def keep (w : Flags F) (f : F) : Flags F := ⟨fun g => if g = f then w.has g else false⟩

@[simp] theorem has_set (w : Flags F) (f g : F) :
    (w.set f).has g = if g = f then true else w.has g := rfl

@[simp] theorem has_clear (w : Flags F) (f g : F) :
    (w.clear f).has g = if g = f then false else w.has g := rfl

@[simp] theorem has_keep (w : Flags F) (f g : F) :
    (w.keep f).has g = if g = f then w.has g else false := rfl

end Flags

/-! ## Flags in machine words -/

/-- The bit each flag has in a word of `n` bits; no two flags share one. -/
structure Coding (F : Type) (n : Nat) where
  bit : F → Fin n
  bit_injective : Function.Injective bit

namespace Coding

variable {F : Type} {n : Nat}

/-- The C constant of a flag. -/
def mask (c : Coding F n) (f : F) : BitVec n := BitVec.twoPow n (c.bit f)

/-- The integer `x` holds the flags `w`. -/
def Represents (c : Coding F n) (w : Flags F) (x : BitVec n) : Prop :=
  ∀ f, x.getLsbD (c.bit f) = w.has f

theorem getLsbD_mask [DecidableEq F] (c : Coding F n) (f g : F) :
    (c.mask f).getLsbD (c.bit g) = decide (g = f) := by
  have hbit : (c.bit g : Nat) = c.bit f ↔ g = f :=
    ⟨fun h => c.bit_injective (Fin.ext h), fun h => by rw [h]⟩
  simp [mask, hbit]

/-- `x |= F` sets the flag. -/
theorem Represents.set [DecidableEq F] {c : Coding F n} {w : Flags F} {x : BitVec n}
    (h : c.Represents w x) (f : F) : c.Represents (w.set f) (x ||| c.mask f) := by
  intro g
  rw [BitVec.getLsbD_or, h g, getLsbD_mask, Flags.has_set]
  by_cases hg : g = f <;> simp [hg]

/-- `x &= ~F` clears the flag. -/
theorem Represents.clear [DecidableEq F] {c : Coding F n} {w : Flags F} {x : BitVec n}
    (h : c.Represents w x) (f : F) : c.Represents (w.clear f) (x &&& ~~~c.mask f) := by
  intro g
  have hlt : (c.bit g : Nat) < n := (c.bit g).isLt
  rw [BitVec.getLsbD_and, BitVec.getLsbD_not, h g, getLsbD_mask, Flags.has_clear]
  by_cases hg : g = f <;> simp [hg, hlt]

end Coding

end FlagWord
