import LogTail.Proofs.Search.MatchIndex

/-!
# Order, spans and count

What an index tells of itself has three parts: the order of its lines, the spans of each line, and
the number of spans in all. `Consistent` says that they are of one piece; the spans by line then
determine the other two (`Consistent.unique`). For an index this comes to the order of its entries,
none of them without spans (`consistent_iff`). The operations keep it, and as maps from lines to
spans a splice is the old map below its start and the tail's from there on, and pruning leaves the
map from its first line on.
-/

namespace LogTail.Search

/-- The number of spans that some lines have. -/
def spansOn (spans : Nat → Option (List Span)) (lines : List Nat) : Nat :=
  (lines.map fun line => ((spans line).getD []).length).sum

/-- The lines in order are those with spans, none of them without any, and the count is right. -/
structure Consistent (order : Array Nat) (spans : Nat → Option (List Span)) (count : Nat) :
    Prop where
  ascending : order.toList.SortedLT
  keys : ∀ line, (spans line).isSome ↔ line ∈ order
  matched : ∀ line, spans line ≠ some []
  counted : count = spansOn spans order.toList

section

variable {order : Array Nat} {spans other : Nat → Option (List Span)} {lines : List Nat}

theorem spansOn_append (spans : Nat → Option (List Span)) (lines more : List Nat) :
    spansOn spans (lines ++ more) = spansOn spans lines + spansOn spans more := by
  simp [spansOn]

theorem spansOn_congr (h : ∀ line ∈ lines, spans line = other line) :
    spansOn spans lines = spansOn other lines := by
  unfold spansOn
  congr 1
  refine List.map_congr_left fun line hline => ?_
  rw [h line hline]

/-- What lines have which spans determines their order and their count. -/
theorem Consistent.unique {count count' : Nat} {order' : Array Nat}
    (h : Consistent order spans count) (h' : Consistent order' other count')
    (hspans : ∀ line, spans line = other line) : order = order' ∧ count = count' := by
  have horder : order.toList = order'.toList := by
    refine h.ascending.eq_of_mem_iff h'.ascending fun line => ?_
    rw [Array.mem_toList_iff, Array.mem_toList_iff, ← h.keys, ← h'.keys, hspans]
  refine ⟨Array.toList_inj.1 horder, ?_⟩
  rw [h.counted, h'.counted, horder]
  exact spansOn_congr fun line _ => hspans line

theorem Consistent.eq_none {count : Nat} (h : Consistent order spans count) {line : Nat}
    (hline : line ∉ order) : spans line = none := by
  rw [← h.keys] at hline
  simpa using hline

end

namespace MatchIndex

/-- The parts of an index fit together. -/
def Consistent (index : MatchIndex) : Prop :=
  Search.Consistent index.lineOrder index.spans? index.matchCount

variable {index tail : MatchIndex}

/-! ## Consistent indices have their entries in order -/

theorem Ordered.spans?_eq_some (h : index.Ordered) {line : Nat} {spans : List Span} :
    index.spans? line = some spans ↔ ⟨line, spans⟩ ∈ index.entries.toList := by
  constructor
  · intro hspans
    obtain ⟨position, hposition, hfound⟩ := Option.bind_eq_some_iff.1 hspans
    obtain ⟨entry, hentry, rfl⟩ := Option.map_eq_some_iff.1 hfound
    have hline := lineAt?_of_position? hposition
    rw [lineAt?, hentry, Option.map_some, Option.some.injEq] at hline
    subst hline
    exact Array.mem_toList_iff.2 (Array.mem_of_getElem? hentry)
  · intro hmem
    obtain ⟨position, hposition⟩ := List.mem_iff_getElem?.1 hmem
    rw [Array.getElem?_toList] at hposition
    have hline : index.lineAt? position = some line := by rw [lineAt?, hposition, Option.map_some]
    rw [spans?, h.position?_eq_some.2 hline, Option.bind_some, hposition, Option.map_some]

theorem Ordered.spans?_isSome (h : index.Ordered) (line : Nat) :
    (index.spans? line).isSome ↔ line ∈ index.lineOrder := by
  rw [Option.isSome_iff_exists, mem_lineOrder]
  constructor
  · rintro ⟨spans, hspans⟩
    exact ⟨_, h.spans?_eq_some.1 hspans, rfl⟩
  · rintro ⟨⟨_, spans⟩, hentry, rfl⟩
    exact ⟨spans, h.spans?_eq_some.2 hentry⟩

theorem Ordered.spansOn_lineOrder (h : index.Ordered) :
    spansOn index.spans? index.lineOrder.toList =
      (index.entries.toList.map (·.spans.length)).sum := by
  rw [spansOn, lineOrder, Array.toList_map, List.map_map]
  congr 1
  refine List.map_congr_left fun entry hentry => ?_
  have hspans : index.spans? entry.line = some entry.spans := h.spans?_eq_some.2 hentry
  simp [hspans]

theorem consistent_iff :
    index.Consistent ↔ index.Ordered ∧ ∀ entry ∈ index.entries.toList, entry.spans ≠ [] := by
  constructor
  · intro h
    have hascending : Ascending index.entries.toList := by
      have hsorted := h.ascending.pairwise
      rw [lineOrder, Array.toList_map] at hsorted
      exact List.pairwise_map.1 hsorted
    -- the spans of a line are those of the entries, whatever the count is
    have hentries : (ofEntries index.entries.toList).Ordered := ordered_ofEntries hascending
    refine ⟨⟨hascending, h.counted.trans hentries.spansOn_lineOrder⟩, fun entry hentry hnil => ?_⟩
    have hspans : index.spans? entry.line = some entry.spans := hentries.spans?_eq_some.2 hentry
    rw [hnil] at hspans
    exact h.matched entry.line hspans
  · rintro ⟨hordered, hmatched⟩
    refine ⟨hordered.sorted, hordered.spans?_isSome, fun line hnil => ?_, ?_⟩
    · exact hmatched _ (hordered.spans?_eq_some.1 hnil) rfl
    · rw [hordered.counted, hordered.spansOn_lineOrder]

theorem consistent_empty : ({} : MatchIndex).Consistent :=
  consistent_iff.2 ⟨ordered_empty, by simp⟩

/-! ## The position of a line -/

theorem Ordered.rank_eq (h : index.Ordered) (line : Nat) :
    index.rank line = index.lineOrder.countP (· < line) := by
  have hrank := rank_eq_length h.ascending line
  rw [← h.eq_ofEntries] at hrank
  rw [hrank, lineOrder, ← Array.countP_toList, Array.toList_map, List.countP_map,
    List.countP_eq_length_filter]
  rfl

theorem rank_of_position? {line position : Nat} (h : index.position? line = some position) :
    index.rank line = position := by
  simp only [position?] at h
  split at h
  · exact Option.some.inj h
  · cases h

/-- A matched line is at its rank, the number of matched lines before it. -/
theorem Ordered.position?_eq (h : index.Ordered) (line : Nat) : index.position? line =
    if line ∈ index.lineOrder then some (index.lineOrder.countP (· < line)) else none := by
  split
  · rename_i hmem
    obtain ⟨position, hposition⟩ := List.mem_iff_getElem?.1 (Array.mem_toList_iff.2 hmem)
    rw [← lineAt?_eq] at hposition
    have hfound := h.position?_eq_some.2 hposition
    rw [hfound, ← rank_of_position? hfound, h.rank_eq]
  · rename_i hmem
    refine Option.eq_none_iff_forall_ne_some.2 fun position hposition => hmem ?_
    exact mem_lineOrder_of_lineAt? (lineAt?_of_position? hposition)

/-! ## What the operations do to the map -/

theorem mem_pushed {line : Nat} {spans : List Span} {entry : MatchedLine} :
    entry ∈ (index.push line spans).entries.toList ↔
      entry ∈ index.entries.toList ∨ entry = ⟨line, spans⟩ := by
  simp [push]

theorem Ordered.pushed (h : index.Ordered) {line : Nat}
    (hlast : ∀ before ∈ index.lineOrder, before < line) (spans : List Span) :
    (index.push line spans).Ordered := by
  rw [h.eq_ofEntries, push_ofEntries]
  refine ordered_ofEntries (List.pairwise_append.2 ⟨h.ascending, by simp, ?_⟩)
  intro entry hentry added hadded
  rw [List.mem_singleton.1 hadded]
  exact hlast entry.line (mem_lineOrder.2 ⟨entry, hentry, rfl⟩)

theorem push_spec (h : index.Consistent) {line : Nat} {spans : List Span}
    (hlast : ∀ before ∈ index.lineOrder, before < line) (hspans : spans ≠ []) :
    (index.push line spans).Consistent ∧ ∀ key, (index.push line spans).spans? key =
      if key = line then some spans else index.spans? key := by
  obtain ⟨hordered, hmatched⟩ := consistent_iff.1 h
  have hpushed := hordered.pushed hlast spans
  refine ⟨consistent_iff.2 ⟨hpushed, fun entry hentry => ?_⟩, fun key => Option.ext fun found => ?_⟩
  · obtain hentry | rfl := mem_pushed.1 hentry
    · exact hmatched entry hentry
    · exact hspans
  · rw [hpushed.spans?_eq_some, mem_pushed]
    by_cases hkey : key = line
    · subst hkey
      have hfresh : ⟨key, found⟩ ∉ index.entries.toList := by
        intro hold
        have : key < key := hlast key (mem_lineOrder.2 ⟨_, hold, rfl⟩)
        omega
      rw [or_iff_right hfresh, MatchedLine.mk.injEq, if_pos rfl, Option.some.injEq]
      simp [eq_comm]
    · simp [hkey, hordered.spans?_eq_some]

theorem spliceFrom_spec (h : index.Consistent) (htail : tail.Consistent) {start : Nat}
    (hstart : ∀ line ∈ tail.lineOrder, start ≤ line) :
    (index.spliceFrom start tail).Consistent ∧ ∀ line, (index.spliceFrom start tail).spans? line =
      if line < start then index.spans? line else tail.spans? line := by
  obtain ⟨hordered, hmatched⟩ := consistent_iff.1 h
  obtain ⟨htailOrdered, htailMatched⟩ := consistent_iff.1 htail
  have hbehind : ∀ entry ∈ tail.entries.toList, start ≤ entry.line := fun entry hentry =>
    hstart entry.line (mem_lineOrder.2 ⟨entry, hentry, rfl⟩)
  have hspliced := hordered.spliced htailOrdered.ascending hbehind
  have hmem : ∀ entry, entry ∈ (index.spliceFrom start tail).entries.toList ↔
      entry ∈ index.entries.toList ∧ entry.line < start ∨ entry ∈ tail.entries.toList := by
    intro entry
    rw [htailOrdered.eq_ofEntries]
    exact hordered.mem_spliced
  rw [← htailOrdered.eq_ofEntries] at hspliced
  refine ⟨consistent_iff.2 ⟨hspliced, fun entry hentry => ?_⟩,
    fun line => Option.ext fun spans => ?_⟩
  · obtain ⟨hentry, -⟩ | hentry := (hmem entry).1 hentry
    · exact hmatched entry hentry
    · exact htailMatched entry hentry
  · rw [hspliced.spans?_eq_some, hmem]
    by_cases hline : line < start
    · have hnot : ⟨line, spans⟩ ∉ tail.entries.toList := by
        intro hentry
        have : start ≤ line := hbehind _ hentry
        omega
      simp [hnot, hline, hordered.spans?_eq_some]
    · simp [hline, htailOrdered.spans?_eq_some]

theorem pruneBefore_spec (h : index.Consistent) (first : Nat) :
    (index.pruneBefore first).2.Consistent ∧
      (index.pruneBefore first).1 = index.lineOrder.countP (· < first) ∧
      ∀ line, (index.pruneBefore first).2.spans? line =
        if first ≤ line then index.spans? line else none := by
  obtain ⟨hordered, hmatched⟩ := consistent_iff.1 h
  have hpruned := hordered.pruned first
  refine ⟨consistent_iff.2 ⟨hpruned, fun entry hentry => ?_⟩, hordered.rank_eq first,
    fun line => Option.ext fun spans => ?_⟩
  · exact hmatched entry (hordered.mem_pruned.1 hentry).1
  · rw [hpruned.spans?_eq_some, hordered.mem_pruned]
    by_cases hline : first ≤ line
    · simp [hline, hordered.spans?_eq_some]
    · simp [hline]

end MatchIndex

end LogTail.Search
