import LogTail.Search.MatchIndex
import Mathlib.Algebra.GroupWithZero.Nat
import Mathlib.Data.List.Sort

/-!
# Laws of the match index

An index is kept by cutting and joining its entries at a rank, and by adding to and taking from
its number of spans. `ofEntries` is the index that some entries have; on entries in ascending
order `pruneBefore_ofEntries` and `spliceFrom_ofEntries` say that cutting is filtering by line
number and that the number of spans stays right. An index is `Ordered` if it is that of entries in
ascending order.
-/

namespace LogTail.Search

/-- Each line comes before the next. -/
def Ascending (entries : List MatchedLine) : Prop := entries.Pairwise fun a b => a.line < b.line

namespace MatchIndex

/-- The index that has these entries. -/
def ofEntries (entries : List MatchedLine) : MatchIndex :=
  ⟨entries.toArray, (entries.map (·.spans.length)).sum⟩

@[simp] theorem entries_ofEntries (entries : List MatchedLine) :
    (ofEntries entries).entries = entries.toArray := rfl

@[simp] theorem matchCount_ofEntries (entries : List MatchedLine) :
    (ofEntries entries).matchCount = (entries.map (·.spans.length)).sum := rfl

@[simp] theorem ofEntries_nil : ofEntries [] = {} := rfl

theorem countSpans_eq (entries : Array MatchedLine) :
    countSpans entries = (entries.toList.map (·.spans.length)).sum := by
  have key : ∀ (l : List MatchedLine) (n : Nat),
      l.foldl (fun n e => n + e.spans.length) n = n + (l.map (·.spans.length)).sum := by
    intro l
    induction l with
    | nil => intro n; simp
    | cons e l ih => intro n; rw [List.foldl_cons, ih]; simp; omega
  rw [countSpans, ← Array.foldl_toList, key]
  omega

theorem push_ofEntries (l : List MatchedLine) (line : Nat) (spans : List Span) :
    (ofEntries l).push line spans = ofEntries (l ++ [⟨line, spans⟩]) := by
  simp [push, ofEntries]

theorem foldl_push_ofEntries (tail : List MatchedLine) : ∀ l : List MatchedLine,
    tail.foldl (fun index e => index.push e.line e.spans) (ofEntries l) =
      ofEntries (l ++ tail) := by
  induction tail with
  | nil => intro l; simp
  | cons e tail ih => intro l; rw [List.foldl_cons, push_ofEntries, ih, List.append_assoc]; rfl

end MatchIndex

/-! ## Cutting at a line -/

/-- In a list in the order of a key, the first item whose key is not below a number cuts the items
below it from the others. -/
theorem cut_eq_filter {α : Type} {key : α → Nat} {xs : List α}
    (h : xs.Pairwise fun a b => key a < key b) (n : Nat) :
    xs.take (xs.findIdx (n ≤ key ·)) = xs.filter (key · < n) ∧
    xs.drop (xs.findIdx (n ≤ key ·)) = xs.filter (n ≤ key ·) := by
  induction xs with
  | nil => simp
  | cons x xs ih =>
    obtain ⟨hlt, hxs⟩ := List.pairwise_cons.1 h
    by_cases hx : n ≤ key x
    · have hnone : (x :: xs).filter (key · < n) = [] := by
        rw [List.filter_eq_nil_iff]
        rintro a (_ | ⟨_, ha⟩)
        · simpa using hx
        · have := hlt a ha
          simp only [decide_eq_true_eq]; omega
      have hall : (x :: xs).filter (n ≤ key ·) = x :: xs := by
        rw [List.filter_eq_self]
        rintro a (_ | ⟨_, ha⟩)
        · simpa using hx
        · have := hlt a ha
          simp only [decide_eq_true_eq]; omega
      rw [hnone, hall, List.findIdx_cons]
      simp [hx]
    · have hx' : key x < n := by omega
      obtain ⟨ih₁, ih₂⟩ := ih hxs
      rw [List.findIdx_cons]
      simp [hx, hx', ih₁, ih₂]

theorem findIdx_eq_length {α : Type} {key : α → Nat} {xs : List α}
    (h : xs.Pairwise fun a b => key a < key b) (n : Nat) :
    xs.findIdx (n ≤ key ·) = (xs.filter (key · < n)).length := by
  rw [← (cut_eq_filter h n).1, List.length_take, Nat.min_eq_left List.findIdx_le_length]

theorem toList_extract_cut {α : Type} (xs : Array α) (cut : Nat) :
    (xs.extract 0 cut).toList = xs.toList.take cut ∧
    (xs.extract cut xs.size).toList = xs.toList.drop cut := by
  constructor
  · rw [Array.toList_extract, List.extract_eq_take_drop, List.drop_zero, Nat.sub_zero]
  · rw [Array.toList_extract, List.extract_eq_take_drop, ← Array.length_toList, ← List.length_drop,
      List.take_length]

theorem extract_eq_filter {α : Type} {key : α → Nat} {xs : Array α}
    (h : xs.toList.Pairwise fun a b => key a < key b) (n : Nat) :
    (xs.extract 0 (xs.toList.findIdx (n ≤ key ·))).toList = xs.toList.filter (key · < n) ∧
    (xs.extract (xs.toList.findIdx (n ≤ key ·)) xs.size).toList =
      xs.toList.filter (n ≤ key ·) := by
  obtain ⟨hbefore, hfrom⟩ := cut_eq_filter h n
  obtain ⟨htake, hdrop⟩ := toList_extract_cut xs (xs.toList.findIdx (n ≤ key ·))
  exact ⟨htake.trans hbefore, hdrop.trans hfrom⟩

theorem sum_filter_add (entries : List MatchedLine) (n : Nat) :
    ((entries.filter (·.line < n)).map (·.spans.length)).sum +
      ((entries.filter (n ≤ ·.line)).map (·.spans.length)).sum =
    (entries.map (·.spans.length)).sum := by
  induction entries with
  | nil => rfl
  | cons e l ih =>
    by_cases he : e.line < n
    · have : ¬ n ≤ e.line := by omega
      simp [he, this]; omega
    · have : n ≤ e.line := by omega
      simp [he, this]; omega

namespace MatchIndex

variable {entries : List MatchedLine}

theorem rank_ofEntries (entries : List MatchedLine) (n : Nat) :
    (ofEntries entries).rank n = entries.findIdx (n ≤ ·.line) := by simp [rank]

theorem rank_eq_length (h : Ascending entries) (n : Nat) :
    (ofEntries entries).rank n = (entries.filter (·.line < n)).length := by
  rw [rank_ofEntries, findIdx_eq_length h]

theorem extract_rank (h : Ascending entries) (n : Nat) :
    entries.toArray.extract 0 ((ofEntries entries).rank n) =
      (entries.filter (·.line < n)).toArray ∧
    entries.toArray.extract ((ofEntries entries).rank n) entries.length =
      (entries.filter (n ≤ ·.line)).toArray := by
  have harray : entries.toArray.toList.Pairwise fun a b => a.line < b.line := h
  obtain ⟨hbefore, hfrom⟩ := extract_eq_filter harray n
  rw [rank_ofEntries]
  exact ⟨Array.toList_inj.1 hbefore, Array.toList_inj.1 hfrom⟩

/-- Pruning keeps the entries from a line on and tells how many go. -/
theorem pruneBefore_ofEntries (h : Ascending entries) (first : Nat) :
    (ofEntries entries).pruneBefore first =
      ((entries.filter (·.line < first)).length, ofEntries (entries.filter (first ≤ ·.line))) := by
  obtain ⟨hbefore, hfrom⟩ := extract_rank h first
  have hsum := sum_filter_add entries first
  simp only [pruneBefore, countSpans_eq, size, entries_ofEntries, matchCount_ofEntries,
    List.size_toArray, hbefore, hfrom]
  rw [rank_eq_length h, ofEntries]
  congr 2
  omega

/-- Splicing keeps the entries before a line and puts the others in place of the rest. -/
theorem spliceFrom_ofEntries (h : Ascending entries) (start : Nat) (tail : List MatchedLine) :
    (ofEntries entries).spliceFrom start (ofEntries tail) =
      ofEntries (entries.filter (·.line < start) ++ tail) := by
  obtain ⟨hbefore, hfrom⟩ := extract_rank h start
  have hsum := sum_filter_add entries start
  simp only [spliceFrom, countSpans_eq, size, entries_ofEntries, matchCount_ofEntries,
    List.size_toArray, hbefore, hfrom]
  rw [← hsum, Nat.add_sub_cancel]
  simp only [List.foldl_toArray', List.size_toArray]
  exact foldl_push_ofEntries tail (entries.filter (·.line < start))

/-! ## Indices in order -/

/-- The entries are in the order of their lines, and the number of spans is theirs. -/
structure Ordered (index : MatchIndex) : Prop where
  ascending : Ascending index.entries.toList
  counted : index.matchCount = (index.entries.toList.map (·.spans.length)).sum

theorem ordered_ofEntries (h : Ascending entries) : (ofEntries entries).Ordered := ⟨h, rfl⟩

theorem ordered_empty : ({} : MatchIndex).Ordered := ordered_ofEntries List.Pairwise.nil

variable {index : MatchIndex}

theorem Ordered.eq_ofEntries (h : index.Ordered) : index = ofEntries index.entries.toList := by
  obtain ⟨entries, count⟩ := index
  rw [ofEntries, ← h.counted]

theorem Ordered.pruneBefore_snd (h : index.Ordered) (first : Nat) : (index.pruneBefore first).2 =
    ofEntries (index.entries.toList.filter (first ≤ ·.line)) := by
  have hpruned := pruneBefore_ofEntries h.ascending first
  rw [← h.eq_ofEntries] at hpruned
  rw [hpruned]

theorem Ordered.pruned (h : index.Ordered) (first : Nat) : (index.pruneBefore first).2.Ordered := by
  rw [h.pruneBefore_snd]
  exact ordered_ofEntries (List.Pairwise.filter _ h.ascending)

theorem Ordered.mem_pruned (h : index.Ordered) {first : Nat} {e : MatchedLine} :
    e ∈ (index.pruneBefore first).2.entries.toList ↔
      e ∈ index.entries.toList ∧ first ≤ e.line := by
  rw [h.pruneBefore_snd]
  simp

theorem Ordered.spliceFrom_eq (h : index.Ordered) (start : Nat) (tail : List MatchedLine) :
    index.spliceFrom start (ofEntries tail) =
      ofEntries (index.entries.toList.filter (·.line < start) ++ tail) := by
  have hspliced := spliceFrom_ofEntries h.ascending start tail
  rwa [← h.eq_ofEntries] at hspliced

theorem Ordered.spliced (h : index.Ordered) {start : Nat} {tail : List MatchedLine}
    (htail : Ascending tail) (hstart : ∀ e ∈ tail, start ≤ e.line) :
    (index.spliceFrom start (ofEntries tail)).Ordered := by
  rw [h.spliceFrom_eq]
  refine ordered_ofEntries (List.pairwise_append.2
    ⟨List.Pairwise.filter _ h.ascending, htail, fun a ha b hb => ?_⟩)
  have hbefore : a.line < start := by simpa using (List.mem_filter.1 ha).2
  exact hbefore.trans_le (hstart b hb)

theorem Ordered.mem_spliced (h : index.Ordered) {start : Nat} {tail : List MatchedLine}
    {e : MatchedLine} : e ∈ (index.spliceFrom start (ofEntries tail)).entries.toList ↔
      e ∈ index.entries.toList ∧ e.line < start ∨ e ∈ tail := by
  rw [h.spliceFrom_eq]
  simp

/-! ## Positions and lines -/

theorem lineAt?_isSome {position : Nat} :
    (index.lineAt? position).isSome = true ↔ position < index.size := by
  simp [lineAt?, size]

theorem lineAt?_of_position? {line position : Nat} (h : index.position? line = some position) :
    index.lineAt? position = some line := by
  simp only [position?] at h
  split at h
  · rename_i hline
    exact Option.some.inj h ▸ hline
  · cases h

theorem position?_lt {line position : Nat} (h : index.position? line = some position) :
    position < index.size :=
  lineAt?_isSome.1 (Option.isSome_of_eq_some (lineAt?_of_position? h))

theorem mem_of_lineAt? {position line : Nat} (h : index.lineAt? position = some line) :
    ∃ entry ∈ index.entries.toList, entry.line = line := by
  obtain ⟨entry, hentry, hline⟩ := Option.map_eq_some_iff.1 h
  exact ⟨entry, Array.mem_toList_iff.2 (Array.mem_of_getElem? hentry), hline⟩

theorem lineAt?_eq (index : MatchIndex) (position : Nat) :
    index.lineAt? position = index.lineOrder.toList[position]? := by
  simp [lineAt?, lineOrder]

@[simp] theorem length_lineOrder (index : MatchIndex) :
    index.lineOrder.toList.length = index.size := by
  simp [lineOrder, size]

theorem mem_lineOrder {line : Nat} :
    line ∈ index.lineOrder ↔ ∃ entry ∈ index.entries.toList, entry.line = line := by
  simp [lineOrder]

theorem mem_lineOrder_of_lineAt? {position line : Nat} (h : index.lineAt? position = some line) :
    line ∈ index.lineOrder :=
  mem_lineOrder.2 (mem_of_lineAt? h)

theorem Ordered.sorted (h : index.Ordered) : index.lineOrder.toList.SortedLT := by
  refine List.Pairwise.sortedLT ?_
  rw [lineOrder, Array.toList_map]
  exact List.pairwise_map.2 h.ascending

/-- A matched line is found at its position, and no other line is found. -/
theorem Ordered.position?_eq_some (h : index.Ordered) {line position : Nat} :
    index.position? line = some position ↔ index.lineAt? position = some line := by
  refine ⟨lineAt?_of_position?, fun hline => ?_⟩
  obtain ⟨entry, hentry, hentryline⟩ := Option.map_eq_some_iff.1 hline
  obtain ⟨hlt, hget⟩ := Array.getElem?_eq_some_iff.1 hentry
  have hrank : index.rank line = position := by
    rw [rank, Array.findIdx_eq hlt]
    refine ⟨by simp [hget, hentryline], fun j hj => ?_⟩
    have hbefore := List.pairwise_iff_getElem.1 h.ascending j position (by simp; omega)
      (by simpa using hlt) hj
    simp only [Array.getElem_toList, hget, hentryline] at hbefore
    simpa using hbefore
  rw [position?, hrank]
  exact if_pos hline

theorem Ordered.bind_position? (h : index.Ordered) (line : Nat) :
    (index.position? line).bind index.lineAt? =
      if line ∈ index.lineOrder then some line else none := by
  split
  · rename_i hmem
    obtain ⟨position, hposition⟩ := List.mem_iff_getElem?.1 (Array.mem_toList_iff.2 hmem)
    rw [← lineAt?_eq] at hposition
    rw [h.position?_eq_some.2 hposition, Option.bind_some, hposition]
  · rename_i hmem
    refine Option.bind_eq_none_iff.2 fun position hposition => ?_
    exact absurd (mem_lineOrder_of_lineAt? (lineAt?_of_position? hposition)) hmem

end MatchIndex

end LogTail.Search
