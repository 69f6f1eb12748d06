import Mathlib.Data.List.Basic
import Mathlib.Data.List.OfFn

set_option autoImplicit false

/-! # Structures in memory

A C compiler lays the fields of a structure out in order, each at the next offset its alignment
allows. `pack` gives the bytes of a structure from the bytes of its fields, `unpack` the fields
from the bytes, and `splice n` is what copying the first `n` bytes of one object over another
leaves. `unpack_splice` says which part of each field such a copy replaces.
-/

namespace CStruct

variable {β : Type}

/-! ## Copying a prefix -/

/-- The bytes `old` with the first `n` replaced by those of `new`. -/
def splice (n : Nat) (new old : List β) : List β := new.take n ++ old.drop n

theorem splice_of_le {n : Nat} {new old : List β} (h : new.length ≤ n) (h' : old.length ≤ n) :
    splice n new old = new := by
  rw [splice, List.take_of_length_le h, List.drop_eq_nil_of_le h', List.append_nil]

theorem splice_of_none {n : Nat} {new old : List β} (h : n = 0) : splice n new old = old := by
  rw [splice, h, List.take_zero, List.nil_append, List.drop_zero]

theorem length_splice {n : Nat} {new old : List β} (h : new.length = old.length) :
    (splice n new old).length = new.length := by
  rw [splice, List.length_append, List.length_take, List.length_drop]
  omega

/-- A copy that ends in the second of two objects replaces the first one. -/
theorem splice_append {n : Nat} {x y : List β} (h : x.length = y.length) (r s : List β) :
    splice n (x ++ r) (y ++ s) = splice n x y ++ splice (n - x.length) r s := by
  simp only [splice, List.take_append, List.drop_append]
  rcases Nat.le_total n x.length with hle | hle
  · have hzero : n - x.length = 0 := by omega
    have hzero' : n - y.length = 0 := by omega
    simp [hzero, hzero']
  · have hdrop : y.drop n = [] := List.drop_eq_nil_of_le (by omega)
    simp [hdrop, h]

/-- The byte at a position after a copy. -/
theorem getElem?_splice {n : Nat} {new old : List β} (h : new.length = old.length) (k : Nat) :
    (splice n new old)[k]? = if k < n then new[k]? else old[k]? := by
  rw [splice, List.getElem?_append]
  simp only [List.length_take, List.getElem?_take, List.getElem?_drop]
  split_ifs with hlt hn hn
  · rfl
  · omega
  · -- past the end of both
    have hpast : new.length ≤ k := by omega
    rw [List.getElem?_eq_none hpast, List.getElem?_eq_none (by omega)]
  · by_cases hle : n ≤ new.length
    · congr 1
      omega
    · rw [List.getElem?_eq_none (by omega), List.getElem?_eq_none (by omega)]

/-- Two arrays with the same first `m` elements. -/
theorem take_ofFn_eq_iff {n m : Nat} {f g : Fin n → β} :
    (List.ofFn f).take m = (List.ofFn g).take m ↔ ∀ k : Fin n, (k : Nat) < m → f k = g k := by
  rw [List.ext_getElem?_iff]
  constructor
  · intro heq k hk
    have hat := heq k
    rw [List.getElem?_take_of_lt hk, List.getElem?_take_of_lt hk] at hat
    simpa using hat
  · intro hsame k
    by_cases hk : k < m
    · rw [List.getElem?_take_of_lt hk, List.getElem?_take_of_lt hk, List.getElem?_ofFn,
        List.getElem?_ofFn]
      split
      · rename_i hlt
        rw [hsame ⟨k, hlt⟩ hk]
      · rfl
    · rw [List.getElem?_eq_none (by simp; omega), List.getElem?_eq_none (by simp; omega)]

/-! ## Layout -/

/-- The bytes left out before a field of alignment `a` after `off` bytes. -/
def padding (off a : Nat) : Nat := (a - off % a) % a

/-- The alignments and lengths of some fields. -/
def shape (fs : List (Nat × List β)) : List (Nat × Nat) := fs.map (fun f => (f.1, f.2.length))

/-- The offsets of fields of the given alignments and lengths, after `off` bytes. -/
def offsets : Nat → List (Nat × Nat) → List Nat
  | _, [] => []
  | off, (a, n) :: fs =>
      (off + padding off a) :: offsets (off + padding off a + n) fs

/-- Where the fields of the given alignments and lengths end. -/
def size : Nat → List (Nat × Nat) → Nat
  | off, [] => off
  | off, (a, n) :: fs => size (off + padding off a + n) fs

/-- The bytes of some fields after `off` bytes; the padding is filled with `z`. -/
def pack (z : β) : Nat → List (Nat × List β) → List β
  | _, [] => []
  | off, (a, bs) :: fs =>
      List.replicate (padding off a) z ++ (bs ++ pack z (off + padding off a + bs.length) fs)

/-- The fields in some bytes. -/
def unpack : Nat → List (Nat × Nat) → List β → List (List β)
  | _, [], _ => []
  | off, (a, n) :: fs, bs =>
      (bs.drop (padding off a)).take n ::
        unpack (off + padding off a + n) fs (bs.drop (padding off a + n))

/-- The fields after `off` bytes, when all bytes before the offset `n` have been copied from
`fs` over `gs`. -/
def spliceFields (n : Nat) : Nat → List (Nat × List β) → List (Nat × List β) → List (List β)
  | off, (a, x) :: fs, (_, y) :: gs =>
      splice (n - (off + padding off a)) x y ::
        spliceFields n (off + padding off a + x.length) fs gs
  | _, _, _ => []

variable (z : β)

theorem length_pack (off : Nat) (fs : List (Nat × List β)) :
    off + (pack z off fs).length = size off (shape fs) := by
  induction fs generalizing off with
  | nil => rfl
  | cons f fs ih =>
      obtain ⟨a, bs⟩ := f
      simp only [shape, List.map_cons, pack, size, List.length_append,
        List.length_replicate] at ih ⊢
      rw [← ih (off + padding off a + bs.length)]
      omega

/-- **Unpacking what was packed gives the fields back.** -/
theorem unpack_pack (off : Nat) (fs : List (Nat × List β)) :
    unpack off (shape fs) (pack z off fs) = fs.map Prod.snd := by
  induction fs generalizing off with
  | nil => rfl
  | cons f fs ih =>
      obtain ⟨a, bs⟩ := f
      simp only [shape, List.map_cons, pack, unpack] at ih ⊢
      congr 1
      · simp
      · rw [← List.drop_drop]
        simpa using ih (off + padding off a + bs.length)

/-- **A copied prefix, field by field.** -/
theorem unpack_splice {off n : Nat} {fs gs : List (Nat × List β)} (h : shape fs = shape gs) :
    unpack off (shape fs) (splice (n - off) (pack z off fs) (pack z off gs)) =
      spliceFields n off fs gs := by
  induction fs generalizing off gs with
  | nil =>
      cases gs with
      | nil => rfl
      | cons g gs => simp [shape] at h
  | cons f fs ih =>
      cases gs with
      | nil => simp [shape] at h
      | cons g gs =>
          obtain ⟨a, x⟩ := f
          obtain ⟨b, y⟩ := g
          simp only [shape, List.map_cons, List.cons.injEq, Prod.mk.injEq] at h
          obtain ⟨⟨rfl, hlen⟩, hrest⟩ := h
          -- the padding of both is the same, the first field is cut off, the others follow
          have hpad : splice (n - off) (pack z off ((a, x) :: fs)) (pack z off ((a, y) :: gs)) =
              List.replicate (padding off a) z ++
                (splice (n - (off + padding off a)) x y ++
                  splice (n - (off + padding off a + x.length))
                    (pack z (off + padding off a + x.length) fs)
                    (pack z (off + padding off a + x.length) gs)) := by
            simp only [pack]
            rw [splice_append rfl, splice_append hlen, List.length_replicate, ← hlen,
              Nat.sub_sub, Nat.sub_sub]
            congr 1
            simp [splice]
            omega
          have hfield : (splice (n - (off + padding off a)) x y).length = x.length :=
            length_splice hlen
          rw [hpad]
          simp only [shape, List.map_cons, unpack, spliceFields]
          congr 1
          · rw [List.drop_left' (List.length_replicate ..)]
            rw [List.take_left' hfield]
          · rw [← List.drop_drop, List.drop_left' (List.length_replicate ..),
              List.drop_left' hfield]
            exact ih hrest

end CStruct
