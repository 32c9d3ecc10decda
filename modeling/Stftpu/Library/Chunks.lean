import Mathlib.Data.List.Basic
import Mathlib.Tactic

/-!
# Cutting a list into blocks

A list is sent as blocks of `b` elements, the last one strictly shorter and
possibly empty: `chunk b l k` is block `k`, counted from zero, and
`chunkCount b l` is the number of blocks.  The first `n` blocks put together are
`l.take (n * b)`.

A sender that repeats itself sends `repeated counts f`: item `f i`, as often in a row as
`counts` says.
-/

namespace Library

variable {α : Type*}

/-- Block `k`, counted from zero, in blocks of `b` elements. -/
def chunk (b : Nat) (l : List α) (k : Nat) : List α :=
  (l.drop (k * b)).take b

/-- The number of blocks, the short last one included. -/
def chunkCount (b : Nat) (l : List α) : Nat :=
  l.length / b + 1

theorem chunk_length (b : Nat) (l : List α) (k : Nat) :
    (chunk b l k).length = min b (l.length - k * b) := by
  simp [chunk]

theorem chunk_length_le (b : Nat) (l : List α) (k : Nat) : (chunk b l k).length ≤ b := by
  rw [chunk_length]
  omega

/-- Another block behind the first `n`. -/
theorem take_succ_mul (b : Nat) (l : List α) (n : Nat) :
    l.take ((n + 1) * b) = l.take (n * b) ++ chunk b l n := by
  rw [Nat.succ_mul, List.take_add, chunk]

/-- The first `n` blocks put together. -/
theorem flatMap_chunk (b : Nat) (l : List α) (n : Nat) :
    (List.range n).flatMap (chunk b l) = l.take (n * b) := by
  induction n with
  | zero => simp
  | succ n ih => rw [List.range_succ, List.flatMap_append, ih, take_succ_mul]; simp

/-- A block is full exactly when the list goes on to the end of it. -/
theorem chunk_full_iff (b : Nat) (l : List α) (k : Nat) :
    (chunk b l k).length = b ↔ b = 0 ∨ (k + 1) * b ≤ l.length := by
  rw [chunk_length, Nat.succ_mul]
  omega

/-- Full blocks come before the last one. -/
theorem lt_of_chunk_full {b : Nat} (hb : 0 < b) {l : List α} {k : Nat}
    (h : (chunk b l k).length = b) : k + 1 < chunkCount b l := by
  have hle : (k + 1) * b ≤ l.length := by
    rcases (chunk_full_iff b l k).mp h with h0 | hle
    · omega
    · exact hle
  have hdiv := (Nat.le_div_iff_mul_le hb).mpr hle
  unfold chunkCount
  omega

/-- A short block ends the list. -/
theorem take_of_chunk_short {b : Nat} {l : List α} {k : Nat}
    (h : (chunk b l k).length ≠ b) : l.take ((k + 1) * b) = l := by
  apply List.take_of_length_le
  by_contra hlong
  exact h ((chunk_full_iff b l k).mpr (Or.inr (by omega)))

/-- Block `l.length / b` is the short one, and it is empty exactly when the blocks
fit the list. -/
theorem chunk_last_length {b : Nat} (hb : 0 < b) (l : List α) :
    (chunk b l (l.length / b)).length = l.length % b := by
  have hmod := Nat.mod_lt l.length hb
  have hdiv := Nat.div_add_mod l.length b
  rw [Nat.mul_comm] at hdiv
  rw [chunk_length]
  omega

/-- A short block that is reached is the last one. -/
theorem eq_last_of_chunk_short {b : Nat} (hb : 0 < b) {l : List α} {k : Nat}
    (hk : k < chunkCount b l) (h : (chunk b l k).length ≠ b) : k = l.length / b := by
  have hle : k ≤ l.length / b := by
    unfold chunkCount at hk
    omega
  rcases Nat.lt_or_ge k (l.length / b) with hlt | hge
  · exfalso
    apply h
    apply (chunk_full_iff b l k).mpr
    exact Or.inr ((Nat.le_div_iff_mul_le hb).mp hlt)
  · omega

/-- All blocks but the last are full. -/
theorem chunk_full_of_lt {b : Nat} {l : List α} {k : Nat} (h : k + 1 < chunkCount b l) :
    (chunk b l k).length = b := by
  rcases Nat.eq_zero_or_pos b with rfl | hb
  · simp [chunk]
  · have hle : k + 1 ≤ l.length / b := by
      unfold chunkCount at h
      omega
    exact (chunk_full_iff b l k).mpr (Or.inr ((Nat.le_div_iff_mul_le hb).mp hle))

/-- The length of the first blocks, with one block more. -/
theorem min_succ_mul (b : Nat) (l : List α) {k : Nat} (hk : k * b ≤ l.length) :
    min ((k + 1) * b) l.length = min (k * b) l.length + (chunk b l k).length := by
  rw [chunk_length, Nat.succ_mul]
  omega

/-! ### Repetitions -/

/-- The items `f 0`, `f 1`, …, each repeated as often as its count says. -/
def repeated (counts : List Nat) (f : Nat → α) : List α :=
  counts.zipIdx.flatMap fun c => List.replicate c.1 (f c.2)

theorem repeated_concat (counts : List Nat) (c : Nat) (f : Nat → α) :
    repeated (counts ++ [c]) f = repeated counts f ++ List.replicate c (f counts.length) := by
  simp [repeated, List.zipIdx_append]

/-- The first time an item is sent. -/
theorem repeated_first (counts : List Nat) (f : Nat → α) :
    repeated (counts ++ [1]) f = repeated counts f ++ [f counts.length] := by
  rw [repeated_concat, List.replicate_one]

/-- The last item once more. -/
theorem repeated_again (counts : List Nat) (c : Nat) (f : Nat → α) :
    repeated (counts ++ [c + 1]) f = repeated (counts ++ [c]) f ++ [f counts.length] := by
  rw [repeated_concat, repeated_concat, List.replicate_succ', List.append_assoc]

end Library
