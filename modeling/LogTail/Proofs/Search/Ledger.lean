import Std.Data.HashMap
import LogTail.Proofs.Search.Consistent
import LogTail.Proofs.Words.Basic

/-!
# An index kept in three books

An index can be kept as an array of lines, a hash map from lines to spans and a counter, each of
them brought up to date by hand in every operation. A `Ledger` is that. The array is cut where
halving finds a border, a line that goes is struck from the map and its spans are taken off the
counter, and a line that comes has to be behind the last one. The operations end in `?`: there is no
result where the counter would fall below zero, or where a line would come too early.

On consistent books neither happens. `Consistent.push?`, `Consistent.spliceFrom?` and
`Consistent.pruneBefore?` say so, that the books are consistent again, and what became of the map.
-/

namespace LogTail.Search

/-! ## Halving -/

/-- The first number from `low` on that fails a test, by halving; `high` if all before it pass. -/
def firstFailing (test : Nat → Bool) (low high : Nat) : Nat :=
  if low < high then
    let middle := low + (high - low) / 2
    if test middle then firstFailing test (middle + 1) high else firstFailing test low middle
  else low
termination_by high - low

/-- Where all numbers below a border pass and all others fail, halving finds the border. -/
theorem firstFailing_eq {test : Nat → Bool} {low high border : Nat} (hlow : low ≤ border)
    (hhigh : border ≤ high) (htest : ∀ i < high, test i = true ↔ i < border) :
    firstFailing test low high = border := by
  fun_induction firstFailing test low high with
  | case1 low high hlt middle hpass ih =>
    have hbefore : middle < border := (htest middle (by omega)).1 hpass
    exact ih hbefore hhigh htest
  | case2 low high hlt middle hfail ih =>
    have hbehind : ¬ middle < border := mt (htest middle (by omega)).2 hfail
    exact ih hlow (by omega) fun i hi => htest i (by omega)
  | case3 low high hge => omega

/-! ## Ledgers -/

/-- The lines in order, their spans by line, and the number of spans. -/
structure Ledger where
  order : Array Nat := #[]
  spans : Std.HashMap Nat (List Span) := {}
  count : Nat := 0

namespace Ledger

/-- The number of lines before a line, by halving. -/
def rank (ledger : Ledger) (line : Nat) : Nat :=
  firstFailing (fun i => ledger.order[i]?.any (· < line)) 0 ledger.order.size

def position? (ledger : Ledger) (line : Nat) : Option Nat :=
  let r := ledger.rank line
  if ledger.order[r]? = some line then some r else none

/-- Enter a line that is behind the last one. -/
def push? (ledger : Ledger) (line : Nat) (spans : List Span) : Option Ledger :=
  if ledger.order.back?.all (· < line) then
    some ⟨ledger.order.push line, ledger.spans.insert line spans, ledger.count + spans.length⟩
  else none

/-- Take the spans of a line out of the map and off the counter. -/
def strike? (ledger : Ledger) (line : Nat) : Option Ledger :=
  match ledger.spans[line]? with
  | none => some ledger
  | some spans => (Words.difference? ledger.count spans.length).map fun count =>
    { ledger with spans := ledger.spans.erase line, count }

/-- Enter a line with the spans that it has in another ledger. -/
def copy? (tail ledger : Ledger) (line : Nat) : Option Ledger :=
  match tail.spans[line]? with
  | none => some ledger
  | some spans => ledger.push? line spans

def spliceFrom? (ledger : Ledger) (start : Nat) (tail : Ledger) : Option Ledger := do
  let cut := ledger.rank start
  let kept ← (ledger.order.extract cut ledger.order.size).foldlM strike?
    { ledger with order := ledger.order.extract 0 cut }
  tail.order.foldlM tail.copy? kept

def pruneBefore? (ledger : Ledger) (firstLine : Nat) : Option (Nat × Ledger) := do
  let cut := ledger.rank firstLine
  let kept ← (ledger.order.extract 0 cut).foldlM strike?
    { ledger with order := ledger.order.extract cut ledger.order.size }
  return (cut, kept)

/-- The books fit together. -/
def Consistent (ledger : Ledger) : Prop :=
  Search.Consistent ledger.order (ledger.spans[·]?) ledger.count

variable {ledger tail : Ledger}

theorem consistent_empty : ({} : Ledger).Consistent :=
  ⟨List.Pairwise.nil.sortedLT, by simp, by simp, rfl⟩

/-! ### Cutting the order -/

/-- On lines in order halving finds the first one that is not before a line. -/
theorem rank_eq (h : ledger.order.toList.SortedLT) (line : Nat) :
    ledger.rank line = ledger.order.toList.findIdx (line ≤ ·) := by
  generalize hborder : ledger.order.toList.findIdx (line ≤ ·) = border
  have hle : border ≤ ledger.order.size := hborder ▸ List.findIdx_le_length
  refine firstFailing_eq (Nat.zero_le _) hle fun i hi => ?_
  have hi' : i < ledger.order.toList.length := hi
  have hget : ledger.order[i]? = some ledger.order.toList[i] := Array.getElem?_eq_getElem hi
  rw [hget, Option.any_some, decide_eq_true_eq]
  constructor
  · intro hbefore
    by_contra hnot
    have hlt : border < ledger.order.toList.length := by omega
    have hfirst : line ≤ ledger.order.toList[border] := by
      subst hborder
      simpa using List.findIdx_getElem (w := hlt)
    have hmono : ledger.order.toList[border] ≤ ledger.order.toList[i] :=
      h.getElem_le_getElem_iff.2 (by omega)
    omega
  · intro hlt
    subst hborder
    have := List.not_of_lt_findIdx hlt
    simp only [decide_eq_false_iff_not] at this
    omega

/-- The order is cut into the lines before a line and the others. -/
theorem cut_order (h : ledger.order.toList.SortedLT) (line : Nat) :
    (ledger.order.extract 0 (ledger.rank line)).toList =
      ledger.order.toList.filter (· < line) ∧
    (ledger.order.extract (ledger.rank line) ledger.order.size).toList =
      ledger.order.toList.filter (line ≤ ·) := by
  rw [rank_eq h]
  exact extract_eq_filter h.pairwise line

theorem rank_eq_countP (h : ledger.order.toList.SortedLT) (line : Nat) :
    ledger.rank line = ledger.order.countP (· < line) := by
  rw [rank_eq h, findIdx_eq_length h.pairwise, ← List.countP_eq_length_filter,
    Array.countP_toList]

/-! ### One line -/

/-- A line behind all others is entered. -/
theorem Consistent.push? (h : ledger.Consistent) {line : Nat} {spans : List Span}
    (hlast : ∀ before ∈ ledger.order, before < line) (hspans : spans ≠ []) :
    ∃ pushed, ledger.push? line spans = some pushed ∧ pushed.Consistent ∧
      pushed.order = ledger.order.push line ∧
      ∀ key, pushed.spans[key]? = if key = line then some spans else ledger.spans[key]? := by
  have hbehind : ledger.order.back?.all (· < line) = true := by
    rw [Option.all_eq_true]
    intro last hback
    exact decide_eq_true (hlast last (Array.mem_of_back? hback))
  have hlookup : ∀ key, (ledger.spans.insert line spans)[key]? =
      if key = line then some spans else ledger.spans[key]? := by
    intro key
    rw [Std.HashMap.getElem?_insert]
    by_cases hkey : key = line
    · simp [hkey]
    · simp [hkey, Ne.symm hkey]
  refine ⟨_, if_pos hbehind, ⟨?_, ?_, ?_, ?_⟩, rfl, hlookup⟩
  · refine List.Pairwise.sortedLT ?_
    rw [Array.toList_push, List.pairwise_append]
    refine ⟨h.ascending.pairwise, by simp, fun before hbefore last hline => ?_⟩
    rw [List.mem_singleton.1 hline]
    exact hlast before (Array.mem_toList_iff.1 hbefore)
  · intro key
    have hkeys := h.keys key
    simp only [hlookup, Array.mem_push]
    by_cases hkey : key = line
    · simp [hkey]
    · simpa [hkey] using hkeys
  · intro key
    have hmatched := h.matched key
    simp only [hlookup]
    by_cases hkey : key = line
    · simpa [hkey] using hspans
    · simpa [hkey] using hmatched
  · have hold : spansOn (fun key => (ledger.spans.insert line spans)[key]?) ledger.order.toList =
        spansOn (ledger.spans[·]?) ledger.order.toList := by
      refine spansOn_congr fun key hkey => ?_
      have hne : key ≠ line := Nat.ne_of_lt (hlast key (Array.mem_toList_iff.1 hkey))
      rw [hlookup, if_neg hne]
    rw [Array.toList_push, spansOn_append, hold, ← h.counted]
    simp [spansOn]

theorem strike?_spec (ledger : Ledger) {line : Nat}
    (hcount : ((ledger.spans[line]?).getD []).length ≤ ledger.count) :
    ∃ struck, ledger.strike? line = some struck ∧ struck.order = ledger.order ∧
      (∀ key, struck.spans[key]? = if key = line then none else ledger.spans[key]?) ∧
      struck.count + ((ledger.spans[line]?).getD []).length = ledger.count := by
  unfold strike?
  cases hspans : ledger.spans[line]? with
  | none =>
    refine ⟨ledger, rfl, rfl, fun key => ?_, rfl⟩
    by_cases hkey : key = line
    · simp [hkey, hspans]
    · simp [hkey]
  | some spans =>
    rw [hspans, Option.getD_some] at hcount
    simp only [Words.difference?_eq hcount, Option.map_some]
    refine ⟨_, rfl, rfl, fun key => ?_, Nat.sub_add_cancel hcount⟩
    rw [Std.HashMap.getElem?_erase]
    by_cases hkey : key = line
    · simp [hkey]
    · simp [hkey, Ne.symm hkey]

/-! ### Many lines -/

/-- Lines whose spans are counted are struck one after the other. -/
theorem strikeAll_spec {lines : List Nat} : ∀ ledger : Ledger, lines.Nodup →
    spansOn (ledger.spans[·]?) lines ≤ ledger.count →
    ∃ struck, lines.foldlM strike? ledger = some struck ∧ struck.order = ledger.order ∧
      (∀ key, struck.spans[key]? = if key ∈ lines then none else ledger.spans[key]?) ∧
      struck.count + spansOn (ledger.spans[·]?) lines = ledger.count := by
  induction lines with
  | nil => intro ledger _ _; exact ⟨ledger, rfl, rfl, by simp, rfl⟩
  | cons line lines ih =>
    intro ledger hnodup hcount
    obtain ⟨hfresh, hnodup⟩ := List.nodup_cons.1 hnodup
    have hsplit : spansOn (ledger.spans[·]?) (line :: lines) =
        ((ledger.spans[line]?).getD []).length + spansOn (ledger.spans[·]?) lines := rfl
    obtain ⟨first, hfirst, horder, hlookup, hfirstCount⟩ :=
      strike?_spec ledger (show ((ledger.spans[line]?).getD []).length ≤ ledger.count by omega)
    -- the other lines keep their spans, so these can still be taken off what is left of the count
    have hrest : spansOn (first.spans[·]?) lines = spansOn (ledger.spans[·]?) lines := by
      refine spansOn_congr fun key hkey => ?_
      have hne : key ≠ line := fun heq => hfresh (heq ▸ hkey)
      rw [hlookup, if_neg hne]
    obtain ⟨struck, hstruck, horder', hlookup', hstruckCount⟩ := ih first hnodup (by omega)
    refine ⟨struck, ?_, horder'.trans horder, fun key => ?_, by omega⟩
    · rw [List.foldlM_cons, hfirst]
      exact hstruck
    · rw [hlookup', hlookup]
      by_cases hkey : key = line <;> simp [hkey]

/-- Where some lines are struck and the others stay, the books fit together again. -/
theorem Consistent.strikeAll (h : ledger.Consistent) {kept : Array Nat} {gone : List Nat}
    (hkept : kept.toList.Sublist ledger.order.toList)
    (hparts : (kept.toList ++ gone).Perm ledger.order.toList) :
    ∃ struck, gone.foldlM strike? { ledger with order := kept } = some struck ∧
      struck.Consistent ∧ struck.order = kept ∧
      ∀ key, struck.spans[key]? = if key ∈ gone then none else ledger.spans[key]? := by
  have hcount : spansOn (ledger.spans[·]?) kept.toList + spansOn (ledger.spans[·]?) gone =
      ledger.count := by
    rw [← spansOn_append, h.counted]
    exact (hparts.map _).sum_nat
  -- no line is in both parts, so what is struck was not counted for what is kept
  obtain ⟨-, hnodup, hapart⟩ := List.nodup_append.1 (hparts.nodup_iff.2 h.ascending.nodup)
  obtain ⟨struck, hstruck, horder, hlookup, hstruckCount⟩ :=
    strikeAll_spec { ledger with order := kept } hnodup (by simp only; omega)
  refine ⟨struck, hstruck, ⟨?_, fun key => ?_, fun key => ?_, ?_⟩, horder, hlookup⟩
  · rw [horder]
    exact (h.ascending.pairwise.sublist hkept).sortedLT
  · have hmem : key ∈ ledger.order ↔ key ∈ kept ∨ key ∈ gone := by
      rw [← Array.mem_toList_iff, ← hparts.mem_iff, List.mem_append, Array.mem_toList_iff]
    have hnot : key ∈ kept → key ∉ gone := fun hin hout =>
      hapart key (Array.mem_toList_iff.2 hin) key hout rfl
    have hkeys := h.keys key
    rw [horder]
    by_cases hgone : key ∈ gone
    · simpa [hlookup, hgone] using fun hin => hnot hin hgone
    · simpa [hlookup, hgone, hmem] using hkeys
  · have hmatched := h.matched key
    by_cases hgone : key ∈ gone
    · simp [hlookup, hgone]
    · simpa [hlookup, hgone] using hmatched
  · have hsame : spansOn (struck.spans[·]?) kept.toList =
        spansOn (ledger.spans[·]?) kept.toList := by
      refine spansOn_congr fun key hkey => ?_
      rw [hlookup, if_neg fun hout => hapart key hkey key hout rfl]
    rw [horder, hsame]
    simp only at hstruckCount
    omega

/-- Lines of another ledger that are behind all others are entered with their spans. -/
theorem Consistent.copyAll (htail : tail.Consistent) {lines : List Nat} : ∀ {ledger : Ledger},
    ledger.Consistent → lines.Pairwise (· < ·) → (∀ line ∈ lines, line ∈ tail.order) →
    (∀ before ∈ ledger.order, ∀ line ∈ lines, before < line) →
    ∃ copied, lines.foldlM tail.copy? ledger = some copied ∧ copied.Consistent ∧
      ∀ key, copied.spans[key]? = if key ∈ lines then tail.spans[key]? else ledger.spans[key]? := by
  induction lines with
  | nil => intro ledger h _ _ _; exact ⟨ledger, rfl, h, by simp⟩
  | cons line lines ih =>
    intro ledger h hsorted hmem hbehind
    obtain ⟨hfirst, hsorted⟩ := List.pairwise_cons.1 hsorted
    obtain ⟨hline, hmem⟩ := List.forall_mem_cons.1 hmem
    obtain ⟨spans, hspans⟩ := Option.isSome_iff_exists.1 ((htail.keys line).2 hline)
    have hsome : spans ≠ [] := by
      rintro rfl
      exact htail.matched line hspans
    obtain ⟨pushed, hpush, hpushed, horder, hlookup⟩ :=
      h.push? (fun before hbefore => hbehind before hbefore line (by simp)) hsome
    -- the next line is behind the one just entered too
    have hbehind' : ∀ before ∈ pushed.order, ∀ later ∈ lines, before < later := by
      intro before hbefore later hlater
      rw [horder, Array.mem_push] at hbefore
      obtain hbefore | rfl := hbefore
      · exact hbehind before hbefore later (List.mem_cons_of_mem _ hlater)
      · exact hfirst later hlater
    obtain ⟨copied, hcopy, hcopied, hlookup'⟩ := ih hpushed hsorted hmem hbehind'
    refine ⟨copied, ?_, hcopied, fun key => ?_⟩
    · have hcopyLine : tail.copy? ledger line = some pushed := by
        simp only [copy?, hspans, hpush]
      rw [List.foldlM_cons, hcopyLine]
      exact hcopy
    · rw [hlookup', hlookup]
      by_cases hkey : key = line
      · subst hkey
        simp [hspans]
      · simp [hkey]

/-! ### Splicing and pruning -/

theorem order_parts (ledger : Ledger) (cut : Nat) : (ledger.order.extract 0 cut).toList ++
    (ledger.order.extract cut ledger.order.size).toList = ledger.order.toList := by
  obtain ⟨htake, hdrop⟩ := toList_extract_cut ledger.order cut
  rw [htake, hdrop, List.take_append_drop]

/-- A splice has a result: below its start the old spans, from there on those of the tail. -/
theorem Consistent.spliceFrom? (h : ledger.Consistent) (htail : tail.Consistent) {start : Nat}
    (hstart : ∀ line ∈ tail.order, start ≤ line) :
    ∃ spliced, ledger.spliceFrom? start tail = some spliced ∧ spliced.Consistent ∧
      ∀ line, spliced.spans[line]? =
        if line < start then ledger.spans[line]? else tail.spans[line]? := by
  obtain ⟨hbefore, hfrom⟩ := cut_order h.ascending start
  have hparts := ledger.order_parts (ledger.rank start)
  obtain ⟨struck, hstruck, hstruckConsistent, horder, hstruckLookup⟩ :=
    h.strikeAll (hbefore ▸ List.filter_sublist) (List.Perm.of_eq hparts)
  have hbehind : ∀ before ∈ struck.order, ∀ line ∈ tail.order.toList, before < line := by
    intro before hkept line hline
    rw [horder, ← Array.mem_toList_iff, hbefore, List.mem_filter] at hkept
    have : start ≤ line := hstart line (Array.mem_toList_iff.1 hline)
    have : before < start := of_decide_eq_true hkept.2
    omega
  obtain ⟨spliced, hcopied, hspliced, hlookup⟩ := htail.copyAll hstruckConsistent
    htail.ascending.pairwise (fun line hline => Array.mem_toList_iff.1 hline) hbehind
  refine ⟨spliced, ?_, hspliced, fun line => ?_⟩
  · rw [Array.foldlM_toList] at hstruck hcopied
    simp only [Ledger.spliceFrom?, hstruck, Option.bind_eq_bind, Option.bind_some, hcopied]
  · rw [hlookup, hstruckLookup, hfrom]
    have hgone : line ∉ tail.order → tail.spans[line]? = none := htail.eq_none
    have hnone : line ∉ ledger.order → ledger.spans[line]? = none := h.eq_none
    simp only [Array.mem_toList_iff, List.mem_filter, decide_eq_true_eq]
    by_cases hline : line < start
    · have hnot : line ∉ tail.order := fun hmem => absurd (hstart line hmem) (by omega)
      simp [hline, hnot]
    · have hfrom : start ≤ line := by omega
      by_cases htailMem : line ∈ tail.order
      · simp [hline, htailMem]
      · by_cases hmem : line ∈ ledger.order
        · simp [hline, htailMem, hgone, hmem, hfrom]
        · simp [hline, htailMem, hgone, hmem, hnone]

/-- Pruning has a result, the spans from the first line on, and tells how many lines went. -/
theorem Consistent.pruneBefore? (h : ledger.Consistent) (firstLine : Nat) :
    ∃ pruned, ledger.pruneBefore? firstLine =
        some (ledger.order.countP (· < firstLine), pruned) ∧ pruned.Consistent ∧
      ∀ line, pruned.spans[line]? = if firstLine ≤ line then ledger.spans[line]? else none := by
  obtain ⟨hbefore, hfrom⟩ := cut_order h.ascending firstLine
  have hparts := ledger.order_parts (ledger.rank firstLine)
  obtain ⟨pruned, hstruck, hpruned, -, hlookup⟩ :=
    h.strikeAll (hfrom ▸ List.filter_sublist)
      (List.perm_append_comm.trans (List.Perm.of_eq hparts))
  refine ⟨pruned, ?_, hpruned, fun line => ?_⟩
  · rw [Array.foldlM_toList] at hstruck
    simp only [Ledger.pruneBefore?, hstruck, Option.bind_eq_bind, Option.bind_some,
      ← rank_eq_countP h.ascending]
    rfl
  · rw [hlookup, hbefore]
    have hnone : line ∉ ledger.order → ledger.spans[line]? = none := h.eq_none
    simp only [Array.mem_toList_iff, List.mem_filter, decide_eq_true_eq]
    by_cases hline : firstLine ≤ line
    · have hnot : ¬ line < firstLine := by omega
      simp [hline, hnot]
    · have hbelow : line < firstLine := by omega
      by_cases hmem : line ∈ ledger.order
      · simp [hline, hmem, hbelow]
      · simp [hline, hmem, hnone]

end Ledger

end LogTail.Search
