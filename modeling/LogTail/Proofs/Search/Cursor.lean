import LogTail.Proofs.Search.Live

/-!
# The active match is one of the matches

The cursor is a position in the order of matched lines. An index is only exchanged together with a
look for the active line in the new one, so there is a match at the cursor after every operation,
and only matched lines are gone to.
-/

namespace LogTail.Search

namespace LiveSearch

/-- There is a match at the cursor. -/
def Points (s : LiveSearch) : Prop := ∀ position, s.cursor = some position → position < s.index.size

variable {s : LiveSearch}

/-- A search that begins anew has no active match. -/
theorem points_of_none (h : s.cursor = none) : s.Points :=
  fun _ hsome => absurd (h.symm.trans hsome) (by simp)

theorem Points.cursor_of_empty (h : s.Points) (hindex : s.index = {}) : s.cursor = none := by
  refine Option.eq_none_iff_forall_not_mem.2 fun position hposition => ?_
  have hlt := h position hposition
  rw [hindex] at hlt
  exact Nat.not_lt_zero _ hlt

theorem enterGeneration_points (h : s.Points) (generation : Nat) :
    (s.enterGeneration generation).Points := by
  unfold enterGeneration
  split
  · exact h
  · exact points_of_none rfl

theorem clear_points (h : s.Points) : s.clear.Points := by
  unfold clear
  split
  · exact h
  · exact points_of_none rfl

theorem commit_points (h : s.Points) (term : String) (latest : Log.Snapshot) :
    (s.commit term latest).1.Points := by
  unfold commit
  split
  · exact h
  · by_cases hterm : term = ""
    · simpa [hterm] using points_of_none rfl
    · simpa [hterm] using points_of_none rfl

theorem reindex_points (s : LiveSearch) (index : MatchIndex) : (s.reindex index).Points := by
  intro position hposition
  obtain ⟨line, -, hline⟩ := Option.bind_eq_some_iff.1 hposition
  exact MatchIndex.position?_lt hline

theorem prune_points (h : s.Points) (firstLine : Nat) : (s.prune firstLine).Points := by
  unfold prune
  split
  · exact h
  · exact s.reindex_points _

theorem follow_points (h : s.Points) (latest : Log.Snapshot) : (s.follow latest).1.Points := by
  have hpruned := prune_points (enterGeneration_points h latest.generation) latest.firstLine
  unfold follow
  generalize (s.enterGeneration latest.generation).prune latest.firstLine = t at hpruned
  simp only
  repeat' split
  all_goals exact hpruned

theorem accept_points (h : s.Points) (report : ScanReport) : (s.accept report).2.Points := by
  unfold accept
  split
  · exact h
  · exact s.reindex_points _

theorem navigate_points (h : s.Points) (direction : Direction) :
    (s.navigate direction).2.Points := by
  unfold navigate
  split
  · exact h
  · rename_i hsome
    intro position hposition
    cases hposition
    exact turn_lt s.cursor (Nat.pos_of_ne_zero hsome) direction

theorem select_fst (s : LiveSearch) (position : Nat) :
    (s.select position).1 = s.index.lineAt? position := by
  unfold select
  split
  · rename_i hnone
    exact hnone.symm
  · rename_i hline
    exact hline.symm

/-- A match is known by its position. -/
theorem select_isSome {position : Nat} :
    (s.select position).1.isSome = true ↔ position < s.index.size := by
  rw [select_fst, MatchIndex.lineAt?_isSome]

theorem select_points (h : s.Points) (position : Nat) : (s.select position).2.Points := by
  unfold select
  split
  · exact h
  · rename_i line hline
    intro other hother
    cases hother
    exact MatchIndex.lineAt?_isSome.1 (Option.isSome_of_eq_some hline)

/-! ## The line that is gone to -/

theorem navigate_mem {direction : Direction} {line : Nat}
    (h : (s.navigate direction).1 = some line) :
    ∃ entry ∈ s.index.entries.toList, entry.line = line := by
  unfold navigate at h
  split at h
  · cases h
  · exact MatchIndex.mem_of_lineAt? h

theorem select_mem {position line : Nat} (h : (s.select position).1 = some line) :
    ∃ entry ∈ s.index.entries.toList, entry.line = line := by
  exact MatchIndex.mem_of_lineAt? (s.select_fst position ▸ h)

end LiveSearch

end LogTail.Search
