import LogTail.Proofs.Search.Segments
import LogTail.Search.Results

/-!
# Results without a store

The results are worked out with a store of segments, which is only there to save work:
`buildResults_eq` says that they are those of the search, the snapshot and the options alone, and
that the store stays faithful.
-/

namespace LogTail.Search

open Log (Snapshot)

/-- The retained lines around a matched line, cut into segments. -/
def snippetOf (snapshot : Snapshot) (term : String) (matchLine : Nat) (lines : List Nat) :
    List SnippetLine :=
  lines.filterMap fun n => (snapshot.line? n).map fun text =>
    ⟨n, lineSegments (Needle.ofTerm term) text, n == matchLine⟩

/-- The cards of the matched lines that are retained. -/
def cardsOf (search : LiveSearch) (snapshot : Snapshot) (context : Nat)
    (shown : List (MatchedLine × Nat)) : List ResultCard :=
  (shown.filter fun (e, _) => snapshot.firstLine ≤ e.line ∧ e.line < snapshot.lineCount).map
    fun (e, position) => ⟨position, e.line, search.cursor == some position,
      snippetOf snapshot search.term e.line (contextLines snapshot context e.line)⟩

/-- The results to show. -/
def resultsOf (search : LiveSearch) (snapshot : Snapshot) (options : WindowOptions) : Results :=
  let window := Window.around search.index.size search.cursor options.limit
  let shown := (search.index.entries.extract window.start window.stop).toList
  ⟨cardsOf search snapshot options.context (shown.zipIdx window.start), window, search.cursor,
    search.index.matchCount, search.index.size⟩

theorem buildSnippet_eq (snapshot : Snapshot) (term : String) (matchLine : Nat) (lines : List Nat) :
    ∀ {cache : SegmentCache}, cache.Faithful →
      (buildSnippet snapshot term matchLine lines cache).1 =
        snippetOf snapshot term matchLine lines ∧
      (buildSnippet snapshot term matchLine lines cache).2.Faithful := by
  induction lines with
  | nil => intro cache h; exact ⟨rfl, h⟩
  | cons n lines ih =>
    intro cache h
    cases htext : snapshot.line? n with
    | none => simpa [buildSnippet, snippetOf, htext] using ih h
    | some text =>
      obtain ⟨hsegments, hkept⟩ := h.lookup text term
      obtain ⟨hrest, hfaithful⟩ := ih hkept
      refine ⟨?_, by simpa [buildSnippet, htext] using hfaithful⟩
      simp only [buildSnippet, htext, hsegments, hrest]
      simp [snippetOf, htext]

theorem buildCards_eq (search : LiveSearch) (snapshot : Snapshot) (context : Nat)
    (shown : List (MatchedLine × Nat)) : ∀ {cache : SegmentCache}, cache.Faithful →
      (buildCards search snapshot context shown cache).1 =
        cardsOf search snapshot context shown ∧
      (buildCards search snapshot context shown cache).2.Faithful := by
  induction shown with
  | nil => intro cache h; exact ⟨rfl, h⟩
  | cons p shown ih =>
    intro cache h
    obtain ⟨e, position⟩ := p
    by_cases hretained : snapshot.firstLine ≤ e.line ∧ e.line < snapshot.lineCount
    · obtain ⟨hsnippet, hkept⟩ := buildSnippet_eq snapshot search.term e.line
        (contextLines snapshot context e.line) h
      obtain ⟨hrest, hfaithful⟩ := ih hkept
      refine ⟨?_, by simpa [buildCards, hretained] using hfaithful⟩
      simp only [buildCards, hretained, and_self, if_true, hsnippet, hrest]
      simp [cardsOf, hretained]
    · simpa [buildCards, cardsOf, hretained] using ih h

/-- **The store makes no difference to the results.** -/
theorem buildResults_eq (search : LiveSearch) (snapshot : Snapshot) (options : WindowOptions)
    {cache : SegmentCache} (h : cache.Faithful) :
    (buildResults search snapshot options cache).1 = resultsOf search snapshot options ∧
    (buildResults search snapshot options cache).2.Faithful := by
  obtain ⟨hcards, hfaithful⟩ := buildCards_eq search snapshot options.context
    (((search.index.entries.extract
      (Window.around search.index.size search.cursor options.limit).start
      (Window.around search.index.size search.cursor options.limit).stop).toList).zipIdx
      (Window.around search.index.size search.cursor options.limit).start) h
  refine ⟨?_, hfaithful⟩
  simp only [buildResults, hcards, resultsOf]

/-- Without a match there is nothing that a text could add to the results. -/
theorem resultsOf_of_empty {search : LiveSearch} (h : search.index = {}) (old latest : Snapshot)
    (options : WindowOptions) :
    resultsOf search latest options = resultsOf search old options := by
  simp [resultsOf, h, cardsOf]

theorem resultsOf_nothing {search : LiveSearch} (hindex : search.index = {})
    (hcursor : search.cursor = none) (snapshot : Snapshot) (options : WindowOptions) :
    resultsOf search snapshot options = {} := by
  simp [resultsOf, hindex, hcursor, cardsOf, MatchIndex.size, Window.around]

/-- A card is about one of the matches. -/
theorem position_lt_of_mem_cards {search : LiveSearch} {snapshot : Snapshot}
    {options : WindowOptions} {card : ResultCard}
    (h : card ∈ (resultsOf search snapshot options).cards) :
    card.position < search.index.size := by
  obtain ⟨⟨e, position⟩, hshown, rfl⟩ := List.mem_map.1 h
  obtain ⟨hstart, hstop, -⟩ := List.mem_zipIdx (List.mem_filter.1 hshown).1
  simp only [Array.length_toList, Array.size_extract] at hstop
  simp only [MatchIndex.size]
  omega

end LogTail.Search
