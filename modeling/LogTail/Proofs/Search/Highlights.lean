import LogTail.Proofs.Search.Scan
import LogTail.Proofs.Search.Segments

/-!
# What is counted and what is shown

A scan looks for the term in the lines as they were fetched, escape sequences and all, while the
segments on the screen are cut from the plain text. On a line without escape sequences as many
matches are shown as are counted. On a styled line that holds only if the term occurs as often in
the line as in its plain text: a term such as `31` also occurs in the sequence for a color, and
one that a sequence cuts in two occurs in the plain text alone.
-/

namespace LogTail.Search

open Text (Escape.present Escape.strip)

/-- A whole scan lists the lines in which the term occurs. -/
theorem mem_lineOrder_answer {scan : Scan} {n : Nat} : n ∈ scan.answer.index.lineOrder ↔
    scan.startLine ≤ n ∧
      ∃ text, scan.snapshot.line? n = some text ∧ 0 < countIn scan.term text := by
  simp only [MatchIndex.lineOrder, Scan.answer, Scan.report, MatchIndex.entries_ofEntries,
    List.map_toArray, List.mem_toArray, List.mem_map, mem_matchedFrom, ← length_findSpans,
    List.length_pos_iff]
  constructor
  · rintro ⟨e, ⟨hstart, text, hline, hspans, hne⟩, rfl⟩
    exact ⟨hstart, text, hline, hspans ▸ hne⟩
  · rintro ⟨hstart, text, hline, hne⟩
    exact ⟨⟨n, _⟩, ⟨hstart, text, hline, rfl, hne⟩, rfl⟩

/-- **Shown and counted matches agree just when the escape sequences make no difference.**
Whatever the store was asked before, a line shows as many matched segments as the scan counts
spans on it if and only if the term occurs as often in the line as in its plain text, and so on
every line without escape sequences. A scan lists a line just when it counts spans on it. -/
theorem shown_eq_counted_iff (capacity : Nat) (queries : List (String × String)) (scan : Scan)
    (line : String) :
    let cache := (SegmentCache.empty capacity).afterAll queries
    let shown := (cache.lookup line scan.term).1.segments.countP (·.matched)
    let counted := ((Needle.ofTerm scan.term).findSpans line).length
    (shown = counted ↔ countIn scan.term (Escape.strip line) = countIn scan.term line) ∧
    (Escape.present line = false → shown = counted) ∧
    ∃ report, (scan.start.run scan.epoch).2 = some report ∧
      ∀ n, scan.startLine ≤ n → scan.snapshot.line? n = some line →
        (n ∈ report.index.lineOrder ↔ 0 < counted) := by
  intro cache shown counted
  have hshown : shown = countIn scan.term (Escape.strip line) := by
    have hfaithful := (SegmentCache.faithful_empty capacity).afterAll queries
    exact (congrArg (List.countP (·.matched)) (hfaithful.lookup line scan.term).1).trans
      (countP_lineSegments scan.term line)
  have hcounted : counted = countIn scan.term line := length_findSpans scan.term line
  refine ⟨by rw [hshown, hcounted], fun hplain => ?_, scan.answer, scan.run_start,
    fun n hstart hline => ?_⟩
  · rw [hshown, hcounted, Text.Escape.strip_of_absent hplain]
  · rw [hcounted, mem_lineOrder_answer]
    constructor
    · rintro ⟨-, text, htext, hoccurs⟩
      cases hline.symm.trans htext
      exact hoccurs
    · intro hoccurs
      exact ⟨hstart, line, hline, hoccurs⟩

/-- A line in red. -/
def redLine : String := "\x1b[31merror\x1b[0m"

/-- The number of the color is counted on a red line, where no match is shown. -/
theorem redLine_miscounted : ¬ ∀ (capacity : Nat) (queries : List (String × String))
    (term line : String),
    (((SegmentCache.empty capacity).afterAll queries).lookup line term).1.segments.countP
      (·.matched) = ((Needle.ofTerm term).findSpans line).length := by
  intro h
  have hshown := ((SegmentCache.faithful_empty 1).lookup redLine "31").1
  have hred := h 1 [] "31" redLine
  rw [show (SegmentCache.empty 1).afterAll [] = SegmentCache.empty 1 from rfl, hshown] at hred
  exact absurd hred (by decide +kernel)

/-- A word of the text is shown on a red line as often as it is counted. -/
theorem shown_eq_counted_redLine :
    let scan : Scan := ⟨0, "error", { lines := #[redLine] }, 0, false, 1⟩
    ∃ report, (scan.start.run 0).2 = some report ∧ 0 ∈ report.index.lineOrder ∧
      ((SegmentCache.empty 1).lookup redLine "error").1.segments.countP (·.matched) = 1 := by
  intro scan
  obtain ⟨hagree, -, report, hrun, hlisted⟩ := shown_eq_counted_iff 1 [] scan redLine
  have hcounted : ((Needle.ofTerm "error").findSpans redLine).length = 1 := by decide +kernel
  refine ⟨report, hrun, (hlisted 0 (Nat.le_refl 0) rfl).2 (hcounted ▸ Nat.one_pos), ?_⟩
  exact (hagree.2 (by decide +kernel)).trans hcounted

end LogTail.Search
