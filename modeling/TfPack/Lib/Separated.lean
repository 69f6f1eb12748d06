import Mathlib.Data.List.Basic

set_option autoImplicit false

/-! # Texts put together with a separator

A C program that lists things in a buffer writes the separator in front of each but the first, and
takes an empty buffer for the sign of the first: `appendSep`. Over nonempty parts the buffer then
holds the parts joined by the separator (`foldl_appendSep_nil`); a buffer that does not start empty
keeps what it holds in front of them (`foldl_appendSep_of_ne_nil`).
-/

namespace Separated

variable {α : Type}

/-- `if (strlen(buf)) strcat(buf, sep); strcat(buf, m)`. -/
def appendSep (sep buf m : List α) : List α := if buf = [] then m else buf ++ (sep ++ m)

variable {sep buf : List α} {ms : List (List α)}

theorem appendSep_ne_nil {m : List α} (hm : m ≠ []) : appendSep sep buf m ≠ [] := by
  unfold appendSep
  split
  case isTrue => exact hm
  case isFalse h => exact List.append_ne_nil_of_left_ne_nil h _

/-- Behind what a buffer holds every part has its separator. -/
theorem foldl_appendSep_of_ne_nil (hbuf : buf ≠ []) :
    ms.foldl (appendSep sep) buf = buf ++ ms.flatMap (sep ++ ·) := by
  induction ms generalizing buf with
  | nil => rw [List.foldl_nil, List.flatMap_nil, List.append_nil]
  | cons m ms ih =>
      have hstep : appendSep sep buf m = buf ++ (sep ++ m) := if_neg hbuf
      rw [List.foldl_cons, hstep, ih (List.append_ne_nil_of_left_ne_nil hbuf _), List.flatMap_cons,
        List.append_assoc]

/-- **The parts joined by the separator.** -/
theorem foldl_appendSep_nil (hms : ∀ m ∈ ms, m ≠ []) :
    ms.foldl (appendSep sep) [] = sep.intercalate ms := by
  have hjoin : ∀ (m : List α) (ms : List (List α)),
      m ++ ms.flatMap (sep ++ ·) = sep.intercalate (m :: ms) := by
    intro m ms
    induction ms generalizing m with
    | nil => rw [List.flatMap_nil, List.append_nil, List.intercalate_singleton]
    | cons m' ms ih =>
        rw [List.flatMap_cons, List.intercalate_cons_cons, ← ih m']
        simp only [List.append_assoc]
  cases ms with
  | nil => rfl
  | cons m ms =>
      have hm : m ≠ [] := hms m List.mem_cons_self
      have hfirst : appendSep sep [] m = m := if_pos rfl
      rw [List.foldl_cons, hfirst, foldl_appendSep_of_ne_nil hm, hjoin]

/-- What stood in the buffer at first can be told from what stands there at last. -/
theorem foldl_appendSep_inj {buf' : List α} (hbuf : buf ≠ []) (hbuf' : buf' ≠ []) :
    ms.foldl (appendSep sep) buf = ms.foldl (appendSep sep) buf' ↔ buf = buf' := by
  rw [foldl_appendSep_of_ne_nil hbuf, foldl_appendSep_of_ne_nil hbuf', List.append_left_inj]

variable (sep ms) in
/-- What more stood in the buffer at first is there at last. -/
theorem length_foldl_appendSep {buf' : List α} (hbuf : buf ≠ []) (hbuf' : buf' ≠ []) :
    (ms.foldl (appendSep sep) buf).length + buf'.length =
      (ms.foldl (appendSep sep) buf').length + buf.length := by
  rw [foldl_appendSep_of_ne_nil hbuf, foldl_appendSep_of_ne_nil hbuf', List.length_append,
    List.length_append]
  omega

end Separated
