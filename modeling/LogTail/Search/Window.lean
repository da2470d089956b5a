/-!
# The window of results

Only a stretch of the matched lines around the active one is worked out.
-/

namespace LogTail.Search

/-- Which positions of an order are shown; `stop` is one past the last. -/
structure Window where
  start : Nat := 0
  stop : Nat := 0
  deriving DecidableEq, Repr, Inhabited

/-- At most `limit` of `total` positions: the first ones, or those around the cursor. -/
def Window.around (total : Nat) (cursor : Option Nat) (limit : Nat) : Window :=
  let limit := max limit 1
  match cursor.filter (· < total) with
  | none => ⟨0, min total limit⟩
  | some c =>
    let start := c - limit / 2
    ⟨start, min (start + limit) total⟩

namespace Window

/-- A window ends within the order. -/
theorem around_stop_le (total : Nat) (cursor : Option Nat) (limit : Nat) :
    (around total cursor limit).stop ≤ total := by
  unfold around
  split
  · exact Nat.min_le_left ..
  · exact Nat.min_le_right ..

/-- A window does not end before it starts. -/
theorem around_start_le_stop (total : Nat) (cursor : Option Nat) (limit : Nat) :
    (around total cursor limit).start ≤ (around total cursor limit).stop := by
  unfold around
  split
  · exact Nat.zero_le _
  · rename_i c hc
    have hlt : c < total := by simpa using (Option.filter_eq_some_iff.1 hc).2
    simp only
    omega

/-- A window has at most `limit` positions; a limit of zero counts as one. -/
theorem around_size_le (total : Nat) (cursor : Option Nat) (limit : Nat) :
    (around total cursor limit).stop - (around total cursor limit).start ≤ max limit 1 := by
  unfold around
  split <;> simp only <;> omega

/-- A cursor within the order is in its window. -/
theorem mem_around {total c : Nat} (h : c < total) (limit : Nat) :
    (around total (some c) limit).start ≤ c ∧ c < (around total (some c) limit).stop := by
  simp only [around, Option.filter, h, decide_true, if_true]
  omega

end Window

end LogTail.Search
