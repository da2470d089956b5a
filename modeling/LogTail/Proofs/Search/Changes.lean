import LogTail.Proofs.Search.Ledger

/-!
# What an index goes through

From an empty index on, lines are pushed, tails are spliced in and old lines are pruned, in any
order. `changes_keep_consistent` says that order, spans and count fit together all the while, that a
line is found at its rank, and what a splice and a pruning do to the spans by line. It says so of
the index and of a ledger that goes through the same: no change to the ledger fails, and its books
are those of the index. `Ledger.Records` is the invariant: both are consistent, and every line has
the same spans in both; all the rest follows because the spans by line determine it.
-/

namespace LogTail.Search

namespace MatchIndex

/-- A change to an index. -/
inductive Change where
  | push (line : Nat) (spans : List Span)
  | splice (start : Nat) (tail : MatchIndex)
  | prune (firstLine : Nat)

def change (index : MatchIndex) : Change → MatchIndex
  | .push line spans => index.push line spans
  | .splice start tail => index.spliceFrom start tail
  | .prune firstLine => (index.pruneBefore firstLine).2

/-- What is pushed is behind all lines and has spans; a tail is consistent and from its start on. -/
def Change.Fits (index : MatchIndex) : Change → Prop
  | .push line spans => (∀ before ∈ index.lineOrder, before < line) ∧ spans ≠ []
  | .splice start tail => tail.Consistent ∧ ∀ line ∈ tail.lineOrder, start ≤ line
  | .prune _ => True

/-- Each change fits the index that it is made to. -/
def AllFit (index : MatchIndex) : List Change → Prop
  | [] => True
  | c :: changes => c.Fits index ∧ AllFit (index.change c) changes

end MatchIndex

open MatchIndex

namespace Ledger

/-- The books of an index. -/
def ofIndex (index : MatchIndex) : Ledger :=
  ⟨index.lineOrder, Std.HashMap.ofList (index.entries.toList.map fun e => (e.line, e.spans)),
    index.matchCount⟩

def change? (ledger : Ledger) : Change → Option Ledger
  | .push line spans => ledger.push? line spans
  | .splice start tail => ledger.spliceFrom? start (ofIndex tail)
  | .prune firstLine => (ledger.pruneBefore? firstLine).map (·.2)

/-- Ledger and index are consistent and tell the same spans of every line. -/
structure Records (ledger : Ledger) (index : MatchIndex) : Prop where
  ledger_consistent : ledger.Consistent
  index_consistent : index.Consistent
  spans : ∀ line, ledger.spans[line]? = index.spans? line

variable {ledger : Ledger} {index : MatchIndex}

theorem records_empty : ({} : Ledger).Records {} :=
  ⟨consistent_empty, MatchIndex.consistent_empty, by simp [spans?]⟩

theorem records_ofIndex (h : index.Consistent) : (ofIndex index).Records index := by
  obtain ⟨hordered, -⟩ := consistent_iff.1 h
  have hspans : ∀ line, (ofIndex index).spans[line]? = index.spans? line := by
    intro line
    cases hline : index.spans? line with
    | some spans =>
      have hentry := hordered.spans?_eq_some.1 hline
      refine Std.HashMap.getElem?_ofList_of_mem (beq_self_eq_true line) ?_
        (List.mem_map.2 ⟨_, hentry, rfl⟩)
      refine List.pairwise_map.2 (hordered.ascending.imp fun hlt => ?_)
      simpa using Nat.ne_of_lt hlt
    | none =>
      refine Std.HashMap.getElem?_ofList_of_contains_eq_false ?_
      have hnot : line ∉ index.lineOrder := by
        rw [← h.keys, hline]
        simp
      rw [mem_lineOrder] at hnot
      simpa using hnot
  refine ⟨?_, h, hspans⟩
  have hsame : (fun line => (ofIndex index).spans[line]?) = index.spans? := funext hspans
  unfold Consistent
  rw [hsame]
  exact h

/-- The order and the count are the same too. -/
theorem Records.books (h : ledger.Records index) :
    ledger.order = index.lineOrder ∧ ledger.count = index.matchCount :=
  h.ledger_consistent.unique h.index_consistent h.spans

theorem Records.position? (h : ledger.Records index) (line : Nat) :
    ledger.position? line = index.position? line := by
  obtain ⟨hordered, -⟩ := consistent_iff.1 h.index_consistent
  have hrank : ledger.rank line = index.rank line := by
    rw [rank_eq_countP h.ledger_consistent.ascending, h.books.1, hordered.rank_eq]
  simp only [Ledger.position?, MatchIndex.position?, hrank, lineAt?_eq, h.books.1,
    Array.getElem?_toList]

/-- A change that fits the index can be made to the ledger too. -/
theorem Records.change? (h : ledger.Records index) {c : Change} (hfits : c.Fits index) :
    ∃ changed, ledger.change? c = some changed ∧ changed.Records (index.change c) := by
  obtain ⟨horder, -⟩ := h.books
  cases c with
  | push line spans =>
    obtain ⟨hlast, hspans⟩ := hfits
    obtain ⟨pushed, hpush, hpushed, -, hlookup⟩ := h.ledger_consistent.push? (horder ▸ hlast) hspans
    obtain ⟨hindex, hindexLookup⟩ := push_spec h.index_consistent hlast hspans
    refine ⟨pushed, hpush, hpushed, hindex, fun key => ?_⟩
    rw [change, hlookup, hindexLookup, h.spans]
  | splice start tail =>
    obtain ⟨htail, hstart⟩ := hfits
    have hrecords := records_ofIndex htail
    obtain ⟨spliced, hsplice, hspliced, hlookup⟩ :=
      h.ledger_consistent.spliceFrom? hrecords.ledger_consistent hstart
    obtain ⟨hindex, hindexLookup⟩ := spliceFrom_spec h.index_consistent htail hstart
    refine ⟨spliced, hsplice, hspliced, hindex, fun line => ?_⟩
    rw [change, hlookup, hindexLookup, h.spans, hrecords.spans]
  | prune firstLine =>
    obtain ⟨pruned, hprune, hpruned, hlookup⟩ := h.ledger_consistent.pruneBefore? firstLine
    obtain ⟨hindex, -, hindexLookup⟩ := pruneBefore_spec h.index_consistent firstLine
    refine ⟨pruned, by rw [Ledger.change?, hprune, Option.map_some], hpruned, hindex,
      fun line => ?_⟩
    rw [change, hlookup, hindexLookup, h.spans]

theorem records_run {changes : List Change} : ∀ {ledger : Ledger} {index : MatchIndex},
    ledger.Records index → AllFit index changes →
    ∃ changed, changes.foldlM Ledger.change? ledger = some changed ∧
      changed.Records (changes.foldl MatchIndex.change index) := by
  induction changes with
  | nil => intro ledger index h _; exact ⟨ledger, rfl, h⟩
  | cons c changes ih =>
    intro ledger index h hfit
    obtain ⟨hfits, hrest⟩ := hfit
    obtain ⟨next, hnext, hrecords⟩ := h.change? hfits
    obtain ⟨changed, hrun, hchanged⟩ := ih hrecords hrest
    refine ⟨changed, ?_, hchanged⟩
    rw [List.foldlM_cons, hnext]
    exact hrun

end Ledger

namespace MatchIndex

/-- **An index stays consistent.** Whatever fitting changes are made to an empty index: its lines
ascend, they are exactly the lines with spans, none has an empty list of them, and the count is that
of all spans; a line has a position exactly if it is among them, and this is the number of lines
before it. A splice leaves the spans of the lines before its start and takes those of the tail for
the others; a pruning leaves those of the lines from its first one on and tells how many lines went.

A ledger can be kept along: no line comes too early for it, its count never falls below zero, and
order, map and count are those of the index. The same holds of its splices and prunings. -/
theorem changes_keep_consistent {changes : List Change} (h : AllFit {} changes) :
    let index := changes.foldl change {}
    index.Consistent ∧
    (∀ line, index.position? line =
      if line ∈ index.lineOrder then some (index.lineOrder.countP (· < line)) else none) ∧
    (∀ start tail, tail.Consistent → (∀ line ∈ tail.lineOrder, start ≤ line) →
      ∀ line, (index.spliceFrom start tail).spans? line =
        if line < start then index.spans? line else tail.spans? line) ∧
    (∀ firstLine, (index.pruneBefore firstLine).1 = index.lineOrder.countP (· < firstLine) ∧
      ∀ line, (index.pruneBefore firstLine).2.spans? line =
        if firstLine ≤ line then index.spans? line else none) ∧
    ∃ ledger : Ledger, changes.foldlM Ledger.change? {} = some ledger ∧ ledger.Consistent ∧
      ledger.order = index.lineOrder ∧ (∀ line, ledger.spans[line]? = index.spans? line) ∧
      ledger.count = index.matchCount ∧
      (∀ line, ledger.position? line = index.position? line) ∧
      (∀ start (tail : Ledger), tail.Consistent → (∀ line ∈ tail.order, start ≤ line) →
        ∃ spliced, ledger.spliceFrom? start tail = some spliced ∧ spliced.Consistent ∧
          ∀ line, spliced.spans[line]? =
            if line < start then ledger.spans[line]? else tail.spans[line]?) ∧
      ∀ firstLine, ∃ pruned, ledger.pruneBefore? firstLine =
          some (ledger.order.countP (· < firstLine), pruned) ∧ pruned.Consistent ∧
        ∀ line, pruned.spans[line]? = if firstLine ≤ line then ledger.spans[line]? else none := by
  intro index
  obtain ⟨ledger, hrun, hrecords⟩ := Ledger.records_run Ledger.records_empty h
  have hconsistent : index.Consistent := hrecords.index_consistent
  have hledger : ledger.Consistent := hrecords.ledger_consistent
  obtain ⟨hordered, -⟩ := consistent_iff.1 hconsistent
  obtain ⟨horder, hcount⟩ := hrecords.books
  refine ⟨hconsistent, hordered.position?_eq, fun start tail htail hstart => ?_,
    fun firstLine => (pruneBefore_spec hconsistent firstLine).2, ledger, hrun, hledger,
    horder, hrecords.spans, hcount, hrecords.position?, fun start tail htail hstart => ?_,
    hledger.pruneBefore?⟩
  · exact (spliceFrom_spec hconsistent htail hstart).2
  · exact hledger.spliceFrom? htail hstart

/-- Three lines are found. The last one grows, another one comes, and both are searched; then the
first two go. -/
def grownAndPruned : List Change := [
  .push 1 [⟨0, 1⟩], .push 4 [⟨0, 1⟩, ⟨2, 3⟩], .push 6 [⟨0, 1⟩],
  .splice 6 (ofEntries [⟨6, [⟨0, 1⟩, ⟨1, 2⟩]⟩, ⟨9, [⟨0, 1⟩]⟩]), .prune 5]

theorem changes_keep_consistent_grownAndPruned :
    let index := grownAndPruned.foldl change {}
    AllFit {} grownAndPruned ∧ index.Consistent ∧ index.lineOrder = #[6, 9] ∧
    index.position? 9 = some 1 ∧ index.position? 4 = none ∧
    ∃ ledger : Ledger, grownAndPruned.foldlM Ledger.change? {} = some ledger ∧
      ledger.order = #[6, 9] ∧ ledger.count = 3 := by
  intro index
  have htail : (ofEntries [⟨6, [⟨0, 1⟩, ⟨1, 2⟩]⟩, ⟨9, [⟨0, 1⟩]⟩]).Consistent :=
    consistent_iff.2 ⟨ordered_ofEntries (by simp [Ascending]), by simp⟩
  have hfit : AllFit {} grownAndPruned := by
    refine ⟨⟨?_, ?_⟩, ⟨?_, ?_⟩, ⟨?_, ?_⟩, ⟨htail, ?_⟩, trivial, trivial⟩ <;>
      simp [change, push, lineOrder]
  have hindex : index.lineOrder = #[6, 9] := by decide_cbv
  have hcount : index.matchCount = 3 := by decide_cbv
  obtain ⟨hconsistent, hposition, -, -, ledger, hrun, -, horder, -, hledgerCount, -⟩ :=
    changes_keep_consistent hfit
  refine ⟨hfit, hconsistent, hindex, ?_, ?_, ledger, hrun, horder.trans hindex,
    hledgerCount.trans hcount⟩
  · simp [hposition 9, index, hindex]
  · simp [hposition 4, index, hindex]

end MatchIndex

end LogTail.Search
