/-!
# Ranges of characters

A set of characters is kept as the first and last numbers of its ranges, in ascending order.
-/

namespace LogTail.Text

/-- Whether a range has the number. The ranges ascend. -/
def inRanges : List (Nat × Nat) → Nat → Bool
  | [], _ => false
  | (first, last) :: rest, n => if n < first then false else n ≤ last || inRanges rest n

/-! ## Small laws -/

/-- A number is found in a range that has it. -/
theorem exists_of_inRanges {ranges : List (Nat × Nat)} {n : Nat} (h : inRanges ranges n = true) :
    ∃ r ∈ ranges, r.1 ≤ n ∧ n ≤ r.2 := by
  induction ranges with
  | nil => simp [inRanges] at h
  | cons r rest ih =>
    obtain ⟨first, last⟩ := r
    by_cases hf : n < first
    · simp [inRanges, hf] at h
    · by_cases hl : n ≤ last
      · exact ⟨(first, last), by simp, by omega, hl⟩
      · obtain ⟨r, hr, hn⟩ := ih (by simpa [inRanges, hf, hl] using h)
        exact ⟨r, by simp [hr], hn⟩

/-- A number in a range is found, if the ranges ascend. -/
theorem inRanges_of_mem {ranges : List (Nat × Nat)} {r : Nat × Nat} {n : Nat}
    (ascend : ranges.Pairwise fun a b => a.1 ≤ b.1) (hr : r ∈ ranges) (h : r.1 ≤ n)
    (h' : n ≤ r.2) : inRanges ranges n = true := by
  induction ascend with
  | nil => simp at hr
  | @cons a rest ha _ ih =>
    have hf : a.1 ≤ n := by
      rcases List.mem_cons.1 hr with rfl | hr
      · exact h
      · exact Nat.le_trans (ha r hr) h
    rcases List.mem_cons.1 hr with rfl | hr
    · simp [inRanges, h', Nat.not_lt.2 h]
    · simp [inRanges, Nat.not_lt.2 hf, ih hr]

/-- What ascending ranges have is what is in one of them. -/
theorem inRanges_iff {ranges : List (Nat × Nat)} {n : Nat}
    (ascend : ranges.Pairwise fun a b => a.1 ≤ b.1) :
    inRanges ranges n = true ↔ ∃ r ∈ ranges, r.1 ≤ n ∧ n ≤ r.2 :=
  ⟨exists_of_inRanges, fun ⟨_, hr, h, h'⟩ => inRanges_of_mem ascend hr h h'⟩

end LogTail.Text
