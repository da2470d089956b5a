import LogTail.Proofs.Search.Needle
import LogTail.Proofs.Text.Escape
import LogTail.Search.SegmentCache

/-!
# Segments of a line

A line has one matched segment for each of its spans, and what is cut into segments is its plain
text. A store of segments answers with the segments of the line it is asked about, whatever it was
asked before: `Faithful` holds of an empty store and is kept by every question.
-/

namespace LogTail

namespace Search

/-! ## Cutting a line -/

theorem countP_segmentsFrom (cs : List Char) (length : Nat) (spans : List Span) : ∀ pos : Nat,
    (segmentsFrom cs length pos spans).countP (·.matched) = spans.length := by
  induction spans with
  | nil =>
    intro pos
    rw [segmentsFrom]
    split
    · rfl
    · rfl
  | cons span spans ih =>
    intro pos
    simp only [segmentsFrom]
    split
    · simp [ih]
    · simp [ih]

/-- **Every span is one matched segment.** -/
theorem countP_splitSegments (line : String) (spans : List Span) :
    (splitSegments line spans).countP (·.matched) = spans.length := by
  unfold splitSegments
  split
  · rename_i h
    rw [List.isEmpty_iff.1 h]
    rfl
  · exact countP_segmentsFrom _ _ _ _

/-- What is searched and cut is the plain text of the line. -/
theorem lineSegments_eq (needle : Needle) (line : String) : lineSegments needle line =
    splitSegments (Text.Escape.strip line) (needle.findSpans (Text.Escape.strip line)) := by
  simp only [lineSegments]
  split
  · rfl
  · rename_i h
    rw [Text.Escape.strip_of_absent (Bool.eq_false_iff.2 h)]

/-- A line has as many matched segments as the term occurs in its plain text. -/
theorem countP_lineSegments (term line : String) :
    (lineSegments (Needle.ofTerm term) line).countP (·.matched) =
      countIn term (Text.Escape.strip line) := by
  rw [lineSegments_eq, countP_splitSegments, length_findSpans]

/-! ## The store -/

namespace SegmentCache

/-- The store holds nothing but segments of its term. -/
structure Faithful (cache : SegmentCache) : Prop where
  needle : cache.needle = Needle.ofTerm cache.term
  entries : ∀ (line : String) (hit : CachedSegments), cache.entries[line]? = some hit →
    hit.segments = lineSegments (Needle.ofTerm cache.term) line

theorem faithful_empty (capacity : Nat) : (empty capacity).Faithful where
  needle := rfl
  entries line hit h := by simp [empty] at h

variable {cache : SegmentCache}

theorem forTerm_term (cache : SegmentCache) (term : String) : (cache.forTerm term).term = term := by
  unfold forTerm
  split
  · rename_i h
    exact h.symm
  · rfl

theorem Faithful.forTerm (h : cache.Faithful) (term : String) : (cache.forTerm term).Faithful := by
  unfold SegmentCache.forTerm
  split
  · exact h
  · exact ⟨rfl, fun line hit hhit => by simp at hhit⟩

/-- **A store in use answers as an empty one would**, and goes on to do so. -/
theorem Faithful.lookup (h : cache.Faithful) (line term : String) :
    (cache.lookup line term).1.segments = lineSegments (Needle.ofTerm term) line ∧
    (cache.lookup line term).2.Faithful := by
  have hterm := cache.forTerm_term term
  have hfaithful := h.forTerm term
  unfold SegmentCache.lookup
  generalize cache.forTerm term = c at hterm hfaithful
  subst hterm
  simp only
  split
  · rename_i hit hhit
    exact ⟨hfaithful.entries line hit hhit, hfaithful⟩
  · refine ⟨by rw [hfaithful.needle], hfaithful.needle, fun other hit hhit => ?_⟩
    rw [Std.HashMap.getElem?_insert] at hhit
    split at hhit
    · -- The new entry is of the line asked about.
      rename_i hsame
      cases hhit
      rw [hfaithful.needle, eq_of_beq hsame]
    · split at hhit
      · simp at hhit
      · exact hfaithful.entries other hit hhit

/-- The store after some questions for segments, each of a line and a term. -/
def afterAll (cache : SegmentCache) (queries : List (String × String)) : SegmentCache :=
  queries.foldl (fun cache query => (cache.lookup query.1 query.2).2) cache

theorem Faithful.afterAll (queries : List (String × String)) : ∀ {cache : SegmentCache},
    cache.Faithful → (cache.afterAll queries).Faithful := by
  induction queries with
  | nil => intro cache h; exact h
  | cons query queries ih => intro cache h; exact ih (h.lookup query.1 query.2).2

end SegmentCache

end Search

end LogTail
