import Mathlib.Algebra.Order.Group.Nat
import Mathlib.Data.List.Induction
import Mathlib.Data.List.TakeDrop

set_option autoImplicit false

/-! # Reading blocks from a stream that arrives in chunks

A stream is cut into blocks of `n` elements. The reader is notified once for every chunk that
arrives, and at each notification it takes at most one block out of its buffer. What it has taken
after a list of chunks is a prefix of the blocks of the stream (`Reading`), and its length
(`served`) follows the recursion of a server that handles one customer per slot. So nothing stays
behind exactly when the chunks keep up: from no moment on do more blocks become complete than
there are notifications left (`served_eq_iff_keepsUp`).
-/

namespace BlockStream

variable {α β : Type}

/-! ## Blocks -/

/-- The complete consecutive blocks of `n` elements, as `read` reads them. -/
def blocks (n : Nat) (read : List α → β) (l : List α) : List β :=
  (List.range (l.length / n)).map (fun i => read (l.drop (n * i)))

@[simp] theorem length_blocks (n : Nat) (read : List α → β) (l : List α) :
    (blocks n read l).length = l.length / n := by
  simp [blocks]

/-- `read` looks at the first `n` elements only. -/
def ReadsFirst (n : Nat) (read : List α → β) : Prop :=
  ∀ l t : List α, n ≤ l.length → read (l ++ t) = read l

/-- What arrives later does not change the blocks that are complete. -/
theorem take_blocks_append {n : Nat} {read : List α → β} (hread : ReadsFirst n read)
    (l t : List α) {k : Nat} (hk : k ≤ l.length / n) :
    (blocks n read (l ++ t)).take k = (blocks n read l).take k := by
  apply List.ext_getElem
  · have hmono : l.length / n ≤ (l ++ t).length / n :=
      Nat.div_le_div_right (by simp)
    simp only [List.length_take, length_blocks]
    omega
  · intro i hi hi'
    rw [List.length_take, length_blocks] at hi'
    have hlen : n * i + n ≤ l.length := by
      have hle : n * (i + 1) ≤ n * (l.length / n) := Nat.mul_le_mul_left n (by omega)
      calc n * i + n = n * (i + 1) := (Nat.mul_succ n i).symm
        _ ≤ n * (l.length / n) := hle
        _ ≤ l.length := Nat.mul_div_le _ _
    have hdrop : (l ++ t).drop (n * i) = l.drop (n * i) ++ t :=
      List.drop_append_of_le_length (by omega)
    simp only [blocks, List.getElem_take, List.getElem_map, List.getElem_range]
    rw [hdrop]
    exact hread _ _ (by rw [List.length_drop]; omega)

/-- The next block. -/
theorem take_succ_blocks (n : Nat) (read : List α → β) (l : List α) {k : Nat}
    (hk : k < l.length / n) :
    (blocks n read l).take (k + 1) = (blocks n read l).take k ++ [read (l.drop (n * k))] := by
  rw [List.take_succ_eq_append_getElem (by simpa using hk)]
  simp [blocks]

/-! ## One block per notification -/

/-- A notification: the chunk joins the buffer, and one block at most is taken. -/
def feed (n : Nat) (read : List α → β) (buf chunk : List α) : List β × List α :=
  let buf := buf ++ chunk
  if buf.length < n then ([], buf) else ([read buf], buf.drop n)

theorem feed_short {n : Nat} {read : List α → β} {buf chunk : List α}
    (h : (buf ++ chunk).length < n) : feed n read buf chunk = ([], buf ++ chunk) := if_pos h

theorem feed_full {n : Nat} {read : List α → β} {buf chunk : List α}
    (h : ¬ (buf ++ chunk).length < n) :
    feed n read buf chunk = ([read (buf ++ chunk)], (buf ++ chunk).drop n) := if_neg h

/-- The length of the stream and the number of blocks taken, after one more chunk. -/
def serve (n : Nat) (p : Nat × Nat) (chunk : List α) : Nat × Nat :=
  (p.1 + chunk.length, min (p.2 + 1) ((p.1 + chunk.length) / n))

/-- How many blocks have been taken after the chunks. -/
def served (n : Nat) (chunks : List (List α)) : Nat := (chunks.foldl (serve n) (0, 0)).2

theorem foldl_serve_fst (n : Nat) (chunks : List (List α)) :
    (chunks.foldl (serve n) (0, 0)).1 = chunks.flatten.length := by
  induction chunks using List.reverseRecOn with
  | nil => rfl
  | append_singleton cs c ih =>
      rw [List.foldl_append, List.flatten_append, List.length_append, ← ih]
      simp [serve]

@[simp] theorem served_nil (n : Nat) : served n ([] : List (List α)) = 0 := rfl

theorem served_snoc (n : Nat) (chunks : List (List α)) (c : List α) :
    served n (chunks ++ [c]) =
      min (served n chunks + 1) ((chunks ++ [c]).flatten.length / n) := by
  have hlen := foldl_serve_fst n chunks
  simp only [served, List.foldl_append, List.foldl_cons, List.foldl_nil, serve]
  rw [hlen]
  simp

/-- No more blocks are taken than are complete. -/
theorem served_le (n : Nat) (chunks : List (List α)) :
    served n chunks ≤ chunks.flatten.length / n := by
  induction chunks using List.reverseRecOn with
  | nil => simp
  | append_singleton cs c _ =>
      rw [served_snoc]
      exact Nat.min_le_right _ _

/-- The blocks `fs` taken and the buffer `buf` left after the chunks. -/
structure Reading (n : Nat) (read : List α → β) (chunks : List (List α)) (fs : List β)
    (buf : List α) : Prop where
  taken : fs = (blocks n read chunks.flatten).take (served n chunks)
  left : buf = chunks.flatten.drop (n * served n chunks)

theorem Reading.nil (n : Nat) (read : List α → β) : Reading n read [] [] [] := ⟨rfl, rfl⟩

/-- **One more notification.** -/
theorem Reading.feed {n : Nat} (hn : 0 < n) {read : List α → β} (hread : ReadsFirst n read)
    {chunks : List (List α)} {fs : List β} {buf : List α} (h : Reading n read chunks fs buf)
    (c : List α) :
    Reading n read (chunks ++ [c]) (fs ++ (BlockStream.feed n read buf c).1)
      (BlockStream.feed n read buf c).2 := by
  have hle := served_le n chunks
  have hstep := served_snoc n chunks c
  have hflat : (chunks ++ [c]).flatten = chunks.flatten ++ c := by simp
  rw [hflat] at hstep
  have hin : n * served n chunks ≤ chunks.flatten.length :=
    (Nat.mul_le_mul_left n hle).trans (Nat.mul_div_le _ _)
  have hbuf : buf ++ c = (chunks.flatten ++ c).drop (n * served n chunks) := by
    rw [h.left, List.drop_append_of_le_length hin]
  have hold : (blocks n read (chunks.flatten ++ c)).take (served n chunks) = fs := by
    rw [take_blocks_append hread _ _ hle, h.taken]
  by_cases hshort : (buf ++ c).length < n
  · -- the block is not complete yet
    have hsame : (chunks.flatten ++ c).length / n = served n chunks := by
      apply Nat.div_eq_of_lt_le
      · rw [Nat.mul_comm, List.length_append]
        omega
      · rw [hbuf, List.length_drop] at hshort
        rw [Nat.mul_comm, Nat.mul_succ]
        omega
    have hserved : served n (chunks ++ [c]) = served n chunks := by
      rw [hstep, hsame]
      omega
    refine ⟨?_, ?_⟩
    · rw [hflat, hserved, hold, feed_short hshort, List.append_nil]
    · rw [hflat, hserved, ← hbuf, feed_short hshort]
  · have hmore : served n chunks < (chunks.flatten ++ c).length / n := by
      rw [Nat.lt_div_iff_mul_lt hn]
      rw [hbuf, List.length_drop] at hshort
      have := Nat.mul_comm n (served n chunks)
      omega
    have hserved : served n (chunks ++ [c]) = served n chunks + 1 := by
      rw [hstep]
      omega
    refine ⟨?_, ?_⟩
    · rw [hflat, hserved, take_succ_blocks n read _ hmore, hold, ← hbuf, feed_full hshort]
    · rw [feed_full hshort, hflat, hserved, hbuf, List.drop_drop, Nat.mul_succ]

/-! ## Keeping up -/

/-- From no moment on do more blocks become complete than there are notifications left. -/
def KeepsUp (n : Nat) (chunks : List (List α)) : Prop :=
  ∀ k ≤ chunks.length, chunks.flatten.length / n ≤
    (chunks.take k).flatten.length / n + (chunks.length - k)

instance (n : Nat) (chunks : List (List α)) : Decidable (KeepsUp n chunks) :=
  inferInstanceAs (Decidable (∀ k ≤ chunks.length, _))

/-- What was complete at some moment, and one block for every notification after it. -/
theorem served_le_take (n : Nat) (chunks : List (List α)) {k : Nat} (hk : k ≤ chunks.length) :
    served n chunks ≤ (chunks.take k).flatten.length / n + (chunks.length - k) := by
  induction chunks using List.reverseRecOn with
  | nil => simp
  | append_singleton cs c ih =>
      rcases Nat.eq_or_lt_of_le hk with rfl | hlt
      · rw [List.take_length]
        exact (served_le n _).trans (Nat.le_add_right _ _)
      · rw [List.length_append, List.length_singleton] at hlt ⊢
        have hpast := ih (Nat.le_of_lt_succ hlt)
        rw [List.take_append_of_le_length (Nat.le_of_lt_succ hlt)]
        calc served n (cs ++ [c]) ≤ served n cs + 1 := by
              rw [served_snoc]
              exact Nat.min_le_left _ _
          _ ≤ (cs.take k).flatten.length / n + (cs.length - k) + 1 := Nat.succ_le_succ hpast
          _ = (cs.take k).flatten.length / n + (cs.length + 1 - k) := by omega

/-- Since some moment a block has been taken at every notification, and before it all were. -/
theorem exists_served_eq_take (n : Nat) (chunks : List (List α)) : ∃ k ≤ chunks.length,
    served n chunks = (chunks.take k).flatten.length / n + (chunks.length - k) := by
  induction chunks using List.reverseRecOn with
  | nil => exact ⟨0, Nat.le_refl _, by simp⟩
  | append_singleton cs c ih =>
      rcases Nat.le_total ((cs ++ [c]).flatten.length / n) (served n cs + 1) with hle | hle
      · refine ⟨(cs ++ [c]).length, Nat.le_refl _, ?_⟩
        rw [served_snoc, Nat.min_eq_right hle, List.take_length, Nat.sub_self, Nat.add_zero]
      · obtain ⟨k, hk, hserved⟩ := ih
        refine ⟨k, by simp; omega, ?_⟩
        rw [served_snoc, Nat.min_eq_left hle, List.take_append_of_le_length hk, hserved,
          List.length_append, List.length_singleton]
        omega

/-- **All complete blocks have been taken exactly when the chunks keep up.** -/
theorem served_eq_iff_keepsUp (n : Nat) (chunks : List (List α)) :
    served n chunks = chunks.flatten.length / n ↔ KeepsUp n chunks := by
  constructor
  · intro h k hk
    exact h ▸ served_le_take n chunks hk
  · intro h
    obtain ⟨k, hk, hserved⟩ := exists_served_eq_take n chunks
    exact Nat.le_antisymm (served_le n chunks) (hserved ▸ h k hk)

/-- **The reader has taken all complete blocks exactly when the chunks keep up.** -/
theorem Reading.all_iff {n : Nat} {read : List α → β} {chunks : List (List α)} {fs : List β}
    {buf : List α} (h : Reading n read chunks fs buf) :
    fs = blocks n read chunks.flatten ↔ KeepsUp n chunks := by
  rw [← served_eq_iff_keepsUp, h.taken, List.take_eq_self_iff, length_blocks]
  have := served_le n chunks
  omega

end BlockStream
