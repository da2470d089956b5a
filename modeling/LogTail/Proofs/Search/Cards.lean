import LogTail.Proofs.Search.Cursor
import LogTail.Proofs.Search.Results

/-!
# Cards and the window

There is a card for each position of the window, and none is left out, as long as the snapshot has
the line of every match. `Pictures` says what the results show of the matched lines, `Surrounds`
what a card shows of the log, and `resultsOf_pictures` that the results of a search do.
-/

namespace LogTail.Search

open Log (Snapshot)

/-- A card shows the retained lines around its own, in order, with its own marked. -/
structure ResultCard.Surrounds (snapshot : Snapshot) (term : String) (context : Nat)
    (card : ResultCard) : Prop where
  ascending : (card.snippet.map (·.line)).SortedLT
  /-- The lines are the retained ones at most `context` away. -/
  mem : ∀ n, n ∈ card.snippet.map (·.line) ↔
    (snapshot.line? n).isSome = true ∧ card.line ≤ n + context ∧ n ≤ card.line + context
  shown : ∀ l ∈ card.snippet, ∃ text, snapshot.line? l.line = some text ∧
    l.segments = lineSegments (Needle.ofTerm term) text
  flagged : ∀ l ∈ card.snippet, l.isMatch = true ↔ l.line = card.line
  once : card.snippet.countP (·.isMatch) = 1

/-- Results show a stretch of the matched lines with a card for each. -/
structure Results.Pictures (search : LiveSearch) (snapshot : Snapshot) (options : WindowOptions)
    (r : Results) : Prop where
  active : r.active = search.cursor
  totalMatches : r.totalMatches = search.index.matchCount
  totalLines : r.totalLines = search.index.lineOrder.size
  ordered : r.window.start ≤ r.window.stop
  bounded : r.window.stop ≤ r.totalLines
  small : r.window.stop - r.window.start ≤ max options.limit 1
  around : ∀ c, r.active = some c → r.window.start ≤ c ∧ c < r.window.stop
  length : r.cards.length = r.window.stop - r.window.start
  position : ∀ k card, r.cards[k]? = some card → card.position = r.window.start + k
  line : ∀ k card, r.cards[k]? = some card →
    search.index.lineOrder[r.window.start + k]? = some card.line
  /-- The card at the cursor is active and no other, if there is a cursor. -/
  activeCard : ∀ c, r.active = some c → c - r.window.start < r.cards.length ∧
    ∀ k card, r.cards[k]? = some card → (card.active = true ↔ k = c - r.window.start)
  noneActive : r.active = none → ∀ card ∈ r.cards, card.active = false
  surrounds : ∀ card ∈ r.cards, card.Surrounds snapshot search.term options.context

/-- The match at the cursor, or else that of the first card, is where the results say, and at the
line they show. -/
theorem Results.Pictures.opened {search : LiveSearch} {snapshot : Snapshot}
    {options : WindowOptions} {r : Results} (h : r.Pictures search snapshot options)
    (hpoints : search.Points) {card : ResultCard} (hcard : r.cards.head? = some card) :
    search.index.lineAt? (r.active.getD card.position) =
      some (search.activeLine?.getD card.line) := by
  rw [h.active]
  cases hcursor : search.cursor with
  | none =>
    have hfirst : r.cards[0]? = some card := by rw [← List.head?_eq_getElem?, hcard]
    have hline := h.line 0 card hfirst
    rw [← h.position 0 card hfirst] at hline
    simpa [LiveSearch.activeLine?, hcursor, MatchIndex.lineAt?, MatchIndex.lineOrder] using hline
  | some position =>
    obtain ⟨line, hline⟩ := Option.isSome_iff_exists.1
      (MatchIndex.lineAt?_isSome.2 (hpoints position hcursor))
    simp [LiveSearch.activeLine?, hcursor, hline]

/-! ## Snippets -/

variable {search : LiveSearch} {snapshot : Snapshot} {term : String} {context line : Nat}

theorem mem_contextLines {n : Nat} : n ∈ contextLines snapshot context line ↔
    (snapshot.line? n).isSome = true ∧ line ≤ n + context ∧ n ≤ line + context := by
  rw [Snapshot.line?_isSome, contextLines, List.mem_range'_1]
  omega

theorem sorted_contextLines (snapshot : Snapshot) (context line : Nat) :
    (contextLines snapshot context line).SortedLT :=
  List.Pairwise.sortedLT List.pairwise_lt_range'

theorem mem_snippetOf {lines : List Nat} {l : SnippetLine} :
    l ∈ snippetOf snapshot term line lines ↔ l.line ∈ lines ∧
      ∃ text, snapshot.line? l.line = some text ∧
        l = ⟨l.line, lineSegments (Needle.ofTerm term) text, l.line == line⟩ := by
  simp only [snippetOf, List.mem_filterMap, Option.map_eq_some_iff]
  constructor
  · rintro ⟨n, hn, text, htext, rfl⟩
    exact ⟨hn, text, htext, rfl⟩
  · rintro ⟨hn, text, htext, hl⟩
    exact ⟨l.line, hn, text, htext, hl.symm⟩

/-- No retained line is left out. -/
theorem map_line_snippetOf {lines : List Nat}
    (h : ∀ n ∈ lines, (snapshot.line? n).isSome = true) :
    (snippetOf snapshot term line lines).map (·.line) = lines := by
  induction lines with
  | nil => rfl
  | cons n lines ih =>
    obtain ⟨text, htext⟩ := Option.isSome_iff_exists.1 (h n (List.mem_cons_self ..))
    have hrest := ih fun m hm => h m (List.mem_cons_of_mem _ hm)
    simp only [snippetOf] at hrest ⊢
    simp [htext, hrest]

/-- The card of a retained line shows it with its surroundings. -/
theorem surrounds_snippetOf (h : (snapshot.line? line).isSome = true) (position : Nat)
    (active : Bool) : ResultCard.Surrounds snapshot term context ⟨position, line, active,
      snippetOf snapshot term line (contextLines snapshot context line)⟩ := by
  have hlines : (snippetOf snapshot term line (contextLines snapshot context line)).map (·.line) =
      contextLines snapshot context line :=
    map_line_snippetOf fun n hn => (mem_contextLines.1 hn).1
  have hflagged : ∀ l ∈ snippetOf snapshot term line (contextLines snapshot context line),
      l.isMatch = (l.line == line) := by
    intro l hl
    obtain ⟨-, text, -, hshown⟩ := mem_snippetOf.1 hl
    rw [hshown]
  refine ⟨?_, fun n => ?_, fun l hl => ?_, fun l hl => ?_, ?_⟩
  · simp only [hlines]
    exact sorted_contextLines _ _ _
  · simp only [hlines]
    exact mem_contextLines
  · obtain ⟨-, text, htext, hshown⟩ := mem_snippetOf.1 hl
    refine ⟨text, htext, ?_⟩
    rw [hshown]
  · rw [hflagged l hl, beq_iff_eq]
  · have hself : line ∈ contextLines snapshot context line :=
      mem_contextLines.2 ⟨h, by omega, by omega⟩
    calc (snippetOf snapshot term line (contextLines snapshot context line)).countP (·.isMatch)
        = (snippetOf snapshot term line (contextLines snapshot context line)).countP
            (·.line == line) := List.countP_congr fun l hl => by rw [hflagged l hl]
      _ = ((snippetOf snapshot term line (contextLines snapshot context line)).map
            (·.line)).count line := by rw [List.count, List.countP_map]; rfl
      _ = (contextLines snapshot context line).count line := by rw [hlines]
      _ = 1 := List.count_eq_one_of_mem (sorted_contextLines _ _ _).nodup hself

/-! ## The window -/

/-- The card of an entry at a position. -/
def cardOf (search : LiveSearch) (snapshot : Snapshot) (context position : Nat)
    (e : MatchedLine) : ResultCard :=
  ⟨position, e.line, search.cursor == some position,
    snippetOf snapshot search.term e.line (contextLines snapshot context e.line)⟩

section

variable (hretained : ∀ e ∈ search.index.entries.toList, (snapshot.line? e.line).isSome = true)
  (options : WindowOptions)

include hretained

/-- No match in the window is left out. -/
theorem cards_resultsOf : (resultsOf search snapshot options).cards =
    let w := (resultsOf search snapshot options).window
    ((search.index.entries.extract w.start w.stop).toList.zipIdx w.start).map fun (e, position) =>
      cardOf search snapshot options.context position e := by
  simp only [resultsOf, cardsOf, cardOf]
  rw [List.filter_eq_self.2]
  rintro ⟨e, position⟩ hshown
  have he : e ∈ search.index.entries.toList := by
    have hmem := List.fst_mem_of_mem_zipIdx hshown
    rw [Array.toList_extract, List.extract_eq_take_drop] at hmem
    exact List.mem_of_mem_drop (List.mem_of_mem_take hmem)
  exact decide_eq_true (Snapshot.line?_isSome.1 (hretained e he))

theorem length_cards : (resultsOf search snapshot options).cards.length =
    (resultsOf search snapshot options).window.stop -
      (resultsOf search snapshot options).window.start := by
  have hstop : _ ≤ search.index.entries.size :=
    Window.around_stop_le search.index.size search.cursor options.limit
  rw [cards_resultsOf hretained]
  simp only [resultsOf, List.length_map, List.length_zipIdx, Array.length_toList,
    Array.size_extract]
  rw [Nat.min_eq_left hstop]

/-- The card at a place of the window is that of the entry there. -/
theorem card_resultsOf {k : Nat} {card : ResultCard}
    (h : (resultsOf search snapshot options).cards[k]? = some card) :
    ∃ e, search.index.entries[(resultsOf search snapshot options).window.start + k]? = some e ∧
      card = cardOf search snapshot options.context
        ((resultsOf search snapshot options).window.start + k) e := by
  rw [cards_resultsOf hretained] at h
  simp only [List.getElem?_map, List.getElem?_zipIdx, Array.getElem?_toList,
    Array.getElem?_extract, Option.map_map, Option.map_eq_some_iff] at h
  obtain ⟨e, he, rfl⟩ := h
  split at he
  · exact ⟨e, he, rfl⟩
  · cases he

/-- **The results of a search picture it**, if the snapshot has the line of every match. -/
theorem resultsOf_pictures (hpoints : search.Points) :
    (resultsOf search snapshot options).Pictures search snapshot options := by
  have hlength := length_cards hretained options
  have haround : ∀ c, search.cursor = some c →
      (resultsOf search snapshot options).window.start ≤ c ∧
        c < (resultsOf search snapshot options).window.stop := by
    intro c hc
    simp only [resultsOf, hc]
    exact Window.mem_around (hpoints c hc) options.limit
  refine {
    active := rfl
    totalMatches := rfl
    totalLines := by rw [← Array.length_toList, MatchIndex.length_lineOrder]; rfl
    ordered := Window.around_start_le_stop ..
    bounded := Window.around_stop_le ..
    small := Window.around_size_le ..
    around := haround
    length := hlength
    position := fun k card hcard => ?_
    line := fun k card hcard => ?_
    activeCard := fun c hc => ⟨?_, fun k card hcard => ?_⟩
    noneActive := fun hnone card hcard => ?_
    surrounds := fun card hcard => ?_ }
  · obtain ⟨e, -, rfl⟩ := card_resultsOf hretained options hcard
    rfl
  · obtain ⟨e, he, rfl⟩ := card_resultsOf hretained options hcard
    simp [MatchIndex.lineOrder, he, cardOf]
  · have hc := haround c hc
    omega
  · obtain ⟨e, -, rfl⟩ := card_resultsOf hretained options hcard
    have hstart := (haround c hc).1
    simp only [cardOf, show search.cursor = some c from hc, beq_iff_eq, Option.some.injEq]
    omega
  · obtain ⟨k, hk⟩ := List.mem_iff_getElem?.1 hcard
    obtain ⟨e, -, rfl⟩ := card_resultsOf hretained options hk
    simp [cardOf, show search.cursor = none from hnone]
  · obtain ⟨k, hk⟩ := List.mem_iff_getElem?.1 hcard
    obtain ⟨e, he, rfl⟩ := card_resultsOf hretained options hk
    exact surrounds_snippetOf
      (hretained e (Array.mem_toList_iff.2 (Array.mem_of_getElem? he))) _ _

end

end LogTail.Search
