import LogTail.Log.Buffer
import Mathlib.Algebra.Group.Nat.Defs

/-!
# Arithmetic in words

Sums, differences and the like as they are worked out in words of 64 bits: there is no result where
a sum is too large for a word, a difference is below zero, a remainder is by zero, the bounds of a
clamp are the wrong way round, or a slice is not within its array. Differences that stop at zero
always have a result and stay as they are.

The name of an operation in words ends in `?`, and `f?_eq` says when `f?` has a result and that it
is that of `f`. What counts things that are in memory, as lengths and the number of spans do, is a
word; so is a position in a line, and a number that goes up one by one from zero, as epochs do. A
snapshot is `Small` if it counts fewer than 2^63 lines.
-/

namespace LogTail.Words

/-- A sum, if it is a word. -/
def sum? (a b : Nat) : Option Nat := if a + b < 2 ^ 64 then some (a + b) else none

/-- A difference, if it is not below zero. -/
def difference? (a b : Nat) : Option Nat := if b ≤ a then some (a - b) else none

/-- A remainder, unless it is by zero. -/
def remainder? (a b : Nat) : Option Nat := if b = 0 then none else some (a % b)

/-- The nearest number between two bounds, if they are in order. -/
def clamp? (low high n : Nat) : Option Nat :=
  if low ≤ high then some (max low (min n high)) else none

/-- The part of an array between two positions, if they are in order and within it. -/
def slice? {α : Type} (xs : Array α) (start stop : Nat) : Option (Array α) :=
  if start ≤ stop ∧ stop ≤ xs.size then some (xs.extract start stop) else none

theorem sum?_eq {a b : Nat} (h : a + b < 2 ^ 64) : sum? a b = some (a + b) := if_pos h

theorem difference?_eq {a b : Nat} (h : b ≤ a) : difference? a b = some (a - b) := if_pos h

theorem remainder?_eq {a b : Nat} (h : b ≠ 0) : remainder? a b = some (a % b) := if_neg h

theorem clamp?_eq {low high : Nat} (h : low ≤ high) (n : Nat) :
    clamp? low high n = some (max low (min n high)) := if_pos h

/-- Where each item has a result, so has the list. -/
theorem mapM_eq {α β : Type} {f : α → Option β} {g : α → β} {xs : List α}
    (h : ∀ x ∈ xs, f x = some (g x)) : xs.mapM f = some (xs.map g) := by
  induction xs with
  | nil => rfl
  | cons x xs ih =>
    obtain ⟨hx, hxs⟩ := List.forall_mem_cons.1 h
    simp [List.mapM_cons, hx, ih hxs]

theorem slice?_eq {α : Type} {xs : Array α} {start stop : Nat} (h : start ≤ stop)
    (hstop : stop ≤ xs.size) : slice? xs start stop = some (xs.extract start stop) :=
  if_pos ⟨h, hstop⟩

end LogTail.Words

/-! ## Snapshots -/

namespace LogTail.Log

open Words

namespace Snapshot

/-- Whether the lines are counted far below the largest word. -/
def Small (s : Snapshot) : Prop := s.lineCount < 2 ^ 63

/-- The number of lines in words. -/
def lineCount? (s : Snapshot) : Option Nat := sum? s.firstLine s.lines.size

/-- The retained lines from number `start` on, with their numbers in words. -/
def linesFrom? (s : Snapshot) (start : Nat) : Option (List (Nat × String)) := do
  let skip := min (start - s.firstLine) s.lines.size
  let rest ← slice? s.lines skip s.lines.size
  let first ← sum? s.firstLine skip
  rest.toList.zipIdx.mapM fun (line, i) => (sum? first i).map fun n => (n, line)

variable {s : Snapshot}

theorem small_empty (version generation : Nat) :
    ({ version := version, generation := generation } : Snapshot).Small :=
  Nat.two_pow_pos 63

theorem Small.lineCount?_eq (h : s.Small) : s.lineCount? = some s.lineCount :=
  sum?_eq (Nat.lt_trans h (by decide))

theorem Small.linesFrom?_eq (h : s.Small) (start : Nat) :
    s.linesFrom? start = some (s.linesFrom start) := by
  have hcount : s.firstLine + s.lines.size < 2 ^ 63 := h
  unfold linesFrom? linesFrom
  generalize hskip : min (start - s.firstLine) s.lines.size = skip
  have hle : skip ≤ s.lines.size := hskip ▸ Nat.min_le_right ..
  have hrest : (s.lines.extract skip s.lines.size).toList = s.lines.toList.drop skip := by
    rw [Array.toList_extract, List.extract_eq_take_drop, List.take_of_length_le (by simp)]
  have hnumbers : ∀ p ∈ (s.lines.toList.drop skip).zipIdx,
      ((sum? (s.firstLine + skip) p.2).map fun n => (n, p.1)) =
        some (s.firstLine + skip + p.2, p.1) := by
    intro p hp
    have hlt : p.2 < (s.lines.toList.drop skip).length := by
      simpa using List.snd_lt_of_mem_zipIdx hp
    have hword : s.firstLine + skip + p.2 < 2 ^ 64 := by
      simp only [List.length_drop, Array.length_toList] at hlt
      omega
    rw [sum?_eq hword, Option.map_some]
  simp only [slice?_eq hle (Nat.le_refl _), sum?_eq (show s.firstLine + skip < 2 ^ 64 by omega),
    Option.bind_eq_bind, Option.bind_some, hrest]
  rw [mapM_eq hnumbers, List.zipIdx_eq_map_add (i := s.firstLine + skip), List.map_map]
  rfl

end Snapshot

/-! ## The buffer -/

/-- The buffer applied to the whole text of the log, with the lines so far counted in words. -/
def Buffer.applied? (b : Buffer) (text : String) : Option (Update × Buffer) := do
  let lines := Text.lines text
  let previous ← b.snapshot.lineCount?
  if lines.size < previous then
    let generation := b.snapshot.generation + 1
    return (.reset generation, { b with snapshot := b.snapshotOf generation lines })
  else if lines.size = previous ∧ lines.back? = b.snapshot.lines.back? then return (.unchanged, b)
  else
    return (.appended previous, { b with snapshot := b.snapshotOf b.snapshot.generation lines })

theorem Buffer.applied?_eq {b : Buffer} (h : b.snapshot.Small) (text : String) :
    b.applied? text = some (b.apply text) := by
  simp only [applied?, apply, h.lineCount?_eq, Option.bind_eq_bind, Option.bind_some]
  split
  · rfl
  · split <;> rfl

end LogTail.Log
