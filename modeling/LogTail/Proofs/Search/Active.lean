import LogTail.Proofs.Search.Cursor
import LogTail.Proofs.Search.Retained

/-!
# The active match stays where it is

The cursor is a position, and positions shift whenever entries are pruned in front, spliced at the
back or found anew. The line at the cursor does not shift: after every such change it is still the
active line, or it is no longer a matched one (`Keeps`), and then for a reason (`Drops`). Both hold
after a look at a new text and after a report (`follow_stays`, `hear_stays`). From the active line
one goes on to its neighbours among the matched lines (`navigate_activeLine?`).
-/

namespace LogTail.Search

open Log (Snapshot)

namespace LiveSearch

variable {s t : LiveSearch} {latest : Snapshot} {line : Nat}

theorem mem_of_activeLine? (h : s.activeLine? = some line) : line ∈ s.index.lineOrder := by
  obtain ⟨position, -, hline⟩ := Option.bind_eq_some_iff.1 h
  exact MatchIndex.mem_lineOrder_of_lineAt? hline

/-- There is an active line unless there is no cursor. -/
theorem Points.activeLine?_eq_none (h : s.Points) : s.activeLine? = none ↔ s.cursor = none := by
  rw [activeLine?, Option.bind_eq_none_iff]
  constructor
  · intro hnone
    refine Option.eq_none_iff_forall_ne_some.2 fun position hposition => ?_
    have hsome := MatchIndex.lineAt?_isSome.2 (h position hposition)
    rw [hnone position hposition] at hsome
    cases hsome
  · intro hnone position hposition
    rw [hnone] at hposition
    cases hposition

/-! ## The active line after a change -/

/-- The active line is the one it was, unless that is not matched any more. -/
def Keeps (s t : LiveSearch) : Prop := t.activeLine? = s.activeLine?.filter (· ∈ t.index.lineOrder)

theorem Keeps.refl (s : LiveSearch) : Keeps s s := by
  cases hline : s.activeLine? with
  | none => simp [Keeps, hline]
  | some line => simp [Keeps, hline, Option.filter_some, mem_of_activeLine? hline]

/-- What came back in between does not become active again. -/
theorem Keeps.trans {u : LiveSearch} (h₁ : Keeps s t) (h₂ : Keeps t u)
    (hsub : ∀ line ∈ u.index.lineOrder, line ∈ t.index.lineOrder) : Keeps s u := by
  rw [Keeps, h₂, h₁, Option.filter_filter]
  congr 1
  funext line
  simpa using hsub line

theorem keeps_of_empty (hindex : t.index = {}) (hcursor : t.cursor = none) : Keeps s t := by
  simp [Keeps, activeLine?, hcursor, hindex, MatchIndex.lineOrder]

theorem reindex_keeps {index : MatchIndex} (h : index.Ordered) : Keeps s (s.reindex index) := by
  rw [Keeps]
  change ((s.activeLine?.bind index.position?).bind index.lineAt?) =
    s.activeLine?.filter (· ∈ index.lineOrder)
  rw [Option.bind_assoc]
  cases s.activeLine? with
  | none => rfl
  | some line => simp [h.bind_position?, Option.filter_some]

theorem enterGeneration_keeps (s : LiveSearch) (generation : Nat) :
    Keeps s (s.enterGeneration generation) := by
  unfold enterGeneration
  split
  · exact .refl s
  · exact keeps_of_empty rfl rfl

theorem prune_keeps (h : s.index.Ordered) (firstLine : Nat) : Keeps s (s.prune firstLine) := by
  unfold prune
  split
  · exact .refl s
  · rename_i hpruned
    have hordered := h.pruned firstLine
    rw [hpruned] at hordered
    exact reindex_keeps hordered

theorem follow_keeps (h : s.index.Ordered) (latest : Snapshot) : Keeps s (s.follow latest).1 := by
  have hordered := enterGeneration_ordered h latest.generation
  have hpruned : Keeps s ((s.enterGeneration latest.generation).prune latest.firstLine) := by
    refine (s.enterGeneration_keeps _).trans (prune_keeps hordered _) fun line hline => ?_
    obtain ⟨cursor, hprune⟩ := (s.enterGeneration latest.generation).prune_eq latest.firstLine
    rw [hprune, MatchIndex.mem_lineOrder] at hline
    obtain ⟨entry, hentry, hentryline⟩ := hline
    exact MatchIndex.mem_lineOrder.2 ⟨entry, (hordered.mem_pruned.1 hentry).1, hentryline⟩
  unfold follow
  generalize (s.enterGeneration latest.generation).prune latest.firstLine = t at hpruned
  simp only
  repeat' split
  all_goals exact hpruned

theorem accept_keeps {report : ScanReport} (h : (s.accept report).2.index.Ordered) :
    Keeps s (s.accept report).2 := by
  unfold accept at h ⊢
  split
  · exact .refl s
  · rename_i hepoch
    simp only [hepoch, if_false] at h
    exact reindex_keeps h

/-! ## Lines that are no longer matched -/

/-- Why a line is not among the matched lines any more. -/
inductive Drops (latest : Snapshot) (s t : LiveSearch) (line : Nat) : Prop where
  /-- The results were of another generation. -/
  | voids (generation : t.generation ≠ s.generation)
  | evicts (evicted : line < latest.firstLine)
  /-- It was looked at again and does not hold the term. -/
  | rescans (scanned : Snapshot) (text : String) (seen : t.scanned = some scanned)
      (found : scanned.line? line = some text) (lacks : countIn t.term text = 0)

/-- A look at the latest snapshot of the generation forgets the evicted lines and no other. -/
theorem mem_follow (h : s.index.Ordered) (hg : s.generation = latest.generation) :
    line ∈ (s.follow latest).1.index.lineOrder ↔
      line ∈ s.index.lineOrder ∧ latest.firstLine ≤ line := by
  have henter : s.enterGeneration latest.generation = s := if_pos hg.symm
  rw [follow_index, henter, MatchIndex.mem_lineOrder, MatchIndex.mem_lineOrder]
  simp only [h.mem_pruned]
  constructor
  · rintro ⟨entry, ⟨hentry, hfirst⟩, rfl⟩
    exact ⟨⟨entry, hentry, rfl⟩, hfirst⟩
  · rintro ⟨⟨entry, hentry, rfl⟩, hfirst⟩
    exact ⟨entry, ⟨hentry, hfirst⟩, rfl⟩

/-- The active line stays unless it is dropped, and no line is dropped without a reason. -/
structure Stays (latest : Snapshot) (s t : LiveSearch) : Prop where
  keeps : Keeps s t
  drops : ∀ line ∈ s.index.lineOrder, line ∉ t.index.lineOrder → Drops latest s t line

theorem Stays.refl (latest : Snapshot) (s : LiveSearch) : Stays latest s s :=
  ⟨.refl s, fun _ hline hgone => absurd hline hgone⟩

/-- The cursor is still on the active line, or it is gone with that line. -/
theorem Stays.cursor {latest : Snapshot} {s t : LiveSearch} (h : Stays latest s t)
    (hpoints : t.Points) :
    (t.cursor = none ∨ ∃ line, s.activeLine? = some line ∧ t.activeLine? = some line) ∧
    (∀ line, s.activeLine? = some line → t.cursor = none →
      line ∉ t.index.lineOrder ∧ Drops latest s t line) := by
  have hkeeps : t.activeLine? = s.activeLine?.filter (· ∈ t.index.lineOrder) := h.keeps
  rw [← hpoints.activeLine?_eq_none, hkeeps]
  constructor
  · cases hactive : s.activeLine? with
    | none => exact Or.inl rfl
    | some line =>
      by_cases hline : line ∈ t.index.lineOrder
      · exact Or.inr ⟨line, rfl, by simp [Option.filter_some, hline]⟩
      · exact Or.inl (by simp [Option.filter_some, hline])
  · intro line hactive hnone
    have hgone : line ∉ t.index.lineOrder := by
      simpa using Option.filter_eq_none_iff.1 hnone line hactive
    exact ⟨hgone, h.drops line (mem_of_activeLine? hactive) hgone⟩

theorem follow_stays (h : s.index.Ordered) (latest : Snapshot) :
    Stays latest s (s.follow latest).1 where
  keeps := follow_keeps h latest
  drops line hline hgone := by
    by_cases hg : s.generation = latest.generation
    · refine .evicts (Nat.lt_of_not_le fun hfirst => hgone ?_)
      exact (mem_follow h hg).2 ⟨hline, hfirst⟩
    · refine .voids ?_
      rw [follow_generation]
      exact fun hsame => hg hsame.symm

/-- A matched line is lost to a report only if the scan has looked at it and found nothing. -/
theorem accept_drops {scans : List Scan} {scan : Scan} (h : Lists latest (s, scans))
    (hg : s.generation = latest.generation) (hscan : scan ∈ scans) (hcurrent : scan.epoch = s.epoch)
    (hline : line ∈ s.index.lineOrder)
    (hgone : line ∉ (s.accept scan.answer).2.index.lineOrder) :
    line < latest.firstLine ∨
      ∃ text, scan.snapshot.line? line = some text ∧ countIn scan.term text = 0 := by
  obtain ⟨hadvances, hcounted, hfull⟩ := h.asked hg scan hscan hcurrent
  obtain ⟨-, hmem⟩ := accept_index h.ordered hcurrent
  obtain ⟨entry, hentry, rfl⟩ := MatchIndex.mem_lineOrder.1 hline
  by_cases hfirst : scan.snapshot.firstLine ≤ entry.line
  · refine Or.inr ?_
    obtain ⟨text, htext⟩ := Option.isSome_iff_exists.1
      (Snapshot.line?_isSome.2 ⟨hfirst, hcounted entry hentry⟩)
    have hstart : scan.startLine ≤ entry.line := by
      refine Nat.le_of_not_lt fun hbefore => hgone (MatchIndex.mem_lineOrder.2 ?_)
      cases hmore : scan.incremental with
      | false => exact absurd (hfull hmore ▸ hbefore) (Nat.not_lt.2 hfirst)
      | true => exact ⟨entry, (hmem entry).2 ⟨Or.inl ⟨hmore, hentry, hbefore⟩, hfirst⟩, rfl⟩
    refine ⟨text, htext, ?_⟩
    rw [← length_findSpans, List.length_eq_zero_iff]
    by_contra hspans
    let found : MatchedLine := ⟨entry.line, (Needle.ofTerm scan.term).findSpans text⟩
    have hfound : found ∈ matchedFrom scan.term scan.snapshot scan.startLine :=
      mem_matchedFrom.2 ⟨hstart, text, htext, rfl, hspans⟩
    exact hgone (MatchIndex.mem_lineOrder.2
      ⟨found, (hmem found).2 ⟨Or.inr hfound, hfirst⟩, rfl⟩)
  · exact Or.inl (Nat.lt_of_lt_of_le (Nat.lt_of_not_le hfirst) hadvances.firstLine)

/-- **A report leaves the active line where it is**, when the search looks at the latest snapshot
afterwards. -/
theorem hear_stays {scans : List Scan} {scan : Scan} (h : Lists latest (s, scans))
    (ht : Tracks latest (s, scans)) (hg : s.generation = latest.generation) (hscan : scan ∈ scans)
    (hcurrent : scan.epoch = s.epoch) :
    Stays latest s ((s.accept scan.answer).2.follow latest).1 := by
  have hordered := (accept_index h.ordered hcurrent).1
  obtain ⟨cursor, haccept⟩ := s.accept_eq (show scan.answer.epoch = s.epoch from hcurrent)
  have hgaccepted : (s.accept scan.answer).2.generation = latest.generation := by
    rw [haccept]; exact hg
  refine ⟨(accept_keeps hordered).trans (follow_keeps hordered _) fun line hline =>
    ((mem_follow hordered hgaccepted).1 hline).1, fun line hline hgone => ?_⟩
  by_cases hkept : line ∈ (s.accept scan.answer).2.index.lineOrder
  · refine .evicts (Nat.lt_of_not_le fun hfirst => hgone ?_)
    exact (mem_follow hordered hgaccepted).2 ⟨hkept, hfirst⟩
  · rcases accept_drops h hg hscan hcurrent hline hkept with hevicted | ⟨text, htext, hnone⟩
    · exact .evicts hevicted
    · have hterm : scan.term = s.term := (ht.current scan hscan hcurrent).1
      have hready : (s.accept scan.answer).2.status = .ready := by rw [haccept]
      have hscanned : (s.accept scan.answer).2.scanned = some scan.snapshot := by rw [haccept]; rfl
      obtain ⟨hsought, -, hseen⟩ := follow_ready hgaccepted hready hscanned
      refine .rescans scan.snapshot text hseen htext ?_
      rw [hsought, haccept, ← hterm]
      exact hnone

/-! ## Going on from the active line -/

/-- The line next to the active one among lines in order, around the ends: the smallest one above
it or else the first of all, and the largest one below it or else the last of all. -/
def neighbour? (lines : List Nat) (active : Option Nat) : Direction → Option Nat
  | .next => (active.bind fun line => (lines.filter (line < ·)).min?).or lines.head?
  | .prev => (active.bind fun line => (lines.filter (· < line)).max?).or lines.getLast?

variable {lines : List Nat} {c : Nat}

theorem min?_above (h : lines.SortedLT) (hc : c < lines.length) :
    (lines.filter (lines[c] < ·)).min? = lines[c + 1]? := by
  by_cases hnext : c + 1 < lines.length
  · rw [List.getElem?_eq_getElem hnext, List.min?_eq_some_iff]
    refine ⟨List.mem_filter.2 ⟨List.getElem_mem _, by simp [h.getElem_lt_getElem_iff]⟩,
      fun line hline => ?_⟩
    obtain ⟨hmem, habove⟩ := List.mem_filter.1 hline
    obtain ⟨i, hi, rfl⟩ := List.mem_iff_getElem.1 hmem
    simp only [h.getElem_lt_getElem_iff, decide_eq_true_eq] at habove
    exact h.getElem_le_getElem_iff.2 habove
  · rw [List.getElem?_eq_none (Nat.le_of_not_lt hnext), List.min?_eq_none_iff,
      List.filter_eq_nil_iff]
    intro line hmem
    obtain ⟨i, hi, rfl⟩ := List.mem_iff_getElem.1 hmem
    simp only [h.getElem_lt_getElem_iff, decide_eq_true_eq]
    omega

theorem max?_below (h : lines.SortedLT) (hc : c < lines.length) :
    (lines.filter (· < lines[c])).max? = if c = 0 then none else lines[c - 1]? := by
  split
  · rename_i hfirst
    rw [List.max?_eq_none_iff, List.filter_eq_nil_iff]
    intro line hmem
    obtain ⟨i, hi, rfl⟩ := List.mem_iff_getElem.1 hmem
    simp only [h.getElem_lt_getElem_iff, decide_eq_true_eq]
    omega
  · have hprev : c - 1 < lines.length := by omega
    rw [List.getElem?_eq_getElem hprev, List.max?_eq_some_iff]
    refine ⟨List.mem_filter.2 ⟨List.getElem_mem _, ?_⟩, fun line hline => ?_⟩
    · simp only [h.getElem_lt_getElem_iff, decide_eq_true_eq]
      omega
    · obtain ⟨hmem, hbelow⟩ := List.mem_filter.1 hline
      obtain ⟨i, hi, rfl⟩ := List.mem_iff_getElem.1 hmem
      simp only [h.getElem_lt_getElem_iff, decide_eq_true_eq] at hbelow
      exact h.getElem_le_getElem_iff.2 (by omega)

/-- To turn a position is to go to the neighbour of its line. -/
theorem getElem?_turn (h : lines.SortedLT) (hlines : lines ≠ []) {cursor : Option Nat}
    (hcursor : ∀ c, cursor = some c → c < lines.length) (direction : Direction) :
    lines[turn cursor lines.length direction]? =
      neighbour? lines (cursor.bind (lines[·]?)) direction := by
  have hlength := List.length_pos_iff.2 hlines
  cases cursor with
  | none =>
    cases direction with
    | next => simp [turn, neighbour?, List.head?_eq_getElem?]
    | prev => simp [turn, neighbour?, List.getLast?_eq_getElem?]
  | some c =>
    have hc := hcursor c rfl
    cases direction with
    | next =>
      simp only [turn, Option.elim_some, neighbour?, Option.bind_some,
        List.getElem?_eq_getElem hc, min?_above h hc, List.head?_eq_getElem?]
      by_cases hnext : c + 1 < lines.length
      · rw [Nat.mod_eq_of_lt hnext, List.getElem?_eq_getElem hnext, Option.some_or]
      · rw [show c + 1 = lines.length by omega, Nat.mod_self,
          List.getElem?_eq_none (Nat.le_refl _), Option.none_or]
    | prev =>
      simp only [turn, Option.elim_some, neighbour?, Option.bind_some,
        List.getElem?_eq_getElem hc, max?_below h hc, List.getLast?_eq_getElem?]
      split
      · rename_i hfirst
        rw [hfirst, Nat.zero_add, Nat.mod_eq_of_lt (by omega), Option.none_or]
      · have hprev : c - 1 < lines.length := by omega
        rw [show c + lines.length - 1 = c - 1 + lines.length by omega, Nat.add_mod_right,
          Nat.mod_eq_of_lt hprev, List.getElem?_eq_getElem hprev, Option.some_or]

/-- **From the active line one goes to its neighbour.** -/
theorem navigate_activeLine? (h : s.index.Ordered) (hpoints : s.Points) (direction : Direction) :
    (s.navigate direction).2.activeLine? =
      neighbour? s.index.lineOrder.toList s.activeLine? direction := by
  have hactive : s.activeLine? = s.cursor.bind (s.index.lineOrder.toList[·]?) := by
    simp only [activeLine?, ← MatchIndex.lineAt?_eq]
  unfold navigate
  split
  · rename_i hempty
    have hlines : s.index.lineOrder.toList = [] :=
      List.length_eq_zero_iff.1 ((MatchIndex.length_lineOrder _).trans hempty)
    rw [hactive, hlines]
    cases s.cursor <;> cases direction <;> simp [neighbour?]
  · rename_i hsome
    have hlines : s.index.lineOrder.toList ≠ [] := by
      rw [← List.length_pos_iff, MatchIndex.length_lineOrder]
      exact Nat.pos_of_ne_zero hsome
    have hcursor : ∀ c, s.cursor = some c → c < s.index.lineOrder.toList.length := by
      rw [MatchIndex.length_lineOrder]
      exact hpoints
    rw [hactive, ← getElem?_turn h.sorted hlines hcursor, MatchIndex.length_lineOrder,
      ← MatchIndex.lineAt?_eq]
    rfl

end LiveSearch

end LogTail.Search
