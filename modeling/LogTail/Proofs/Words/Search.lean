import LogTail.Proofs.Search.Cursor
import LogTail.Proofs.Search.Retained
import LogTail.Proofs.Words.Basic
import LogTail.Search.Results
import Mathlib.Algebra.Order.BigOperators.Group.List
import Mathlib.Algebra.Order.Group.Nat

/-!
# The search in words

The index takes the spans that go from its count, entry by entry; that is never more than was
counted because an index in order counts the spans of its entries. Positions in the index are below
its size, so that one can turn around its ends, and the window of results is a part of its order.
-/

namespace LogTail.Search

open Log (Snapshot)
open Words

/-! ## The index -/

namespace MatchIndex

/-- Take the spans of some entries from a count, entry by entry. -/
def uncount? (count : Nat) (entries : Array MatchedLine) : Option Nat :=
  entries.foldlM (fun count e => difference? count e.spans.length) count

def spliceFrom? (index : MatchIndex) (start : Nat) (tail : MatchIndex) : Option MatchIndex := do
  let cut := index.rank start
  let count ← uncount? index.matchCount (index.entries.extract cut index.size)
  return tail.entries.foldl (fun index e => index.push e.line e.spans)
    ⟨index.entries.extract 0 cut, count⟩

def pruneBefore? (index : MatchIndex) (firstLine : Nat) : Option (Nat × MatchIndex) := do
  let cut := index.rank firstLine
  let count ← uncount? index.matchCount (index.entries.extract 0 cut)
  return (cut, ⟨index.entries.extract cut index.size, count⟩)

theorem uncount?_eq {count : Nat} {entries : Array MatchedLine} (h : countSpans entries ≤ count) :
    uncount? count entries = some (count - countSpans entries) := by
  rw [countSpans_eq] at h ⊢
  rw [uncount?, ← Array.foldlM_toList]
  generalize entries.toList = es at h ⊢
  induction es generalizing count with
  | nil => rfl
  | cons e es ih =>
    simp only [List.map_cons, List.sum_cons] at h ⊢
    rw [List.foldlM_cons, difference?_eq (by omega), Option.bind_eq_bind, Option.bind_some,
      ih (by omega)]
    congr 1
    omega

variable {index : MatchIndex}

/-- A part of the entries has no more spans than are counted. -/
theorem Ordered.countSpans_extract_le (h : index.Ordered) (start stop : Nat) :
    countSpans (index.entries.extract start stop) ≤ index.matchCount := by
  have hpart : (index.entries.extract start stop).toList.Sublist index.entries.toList := by
    rw [Array.toList_extract, List.extract_eq_take_drop]
    exact (List.take_sublist _ _).trans (List.drop_sublist _ _)
  rw [countSpans_eq, h.counted]
  exact (hpart.map _).sum_le_sum fun _ _ => Nat.zero_le _

theorem Ordered.spliceFrom?_eq (h : index.Ordered) (start : Nat) (tail : MatchIndex) :
    index.spliceFrom? start tail = some (index.spliceFrom start tail) := by
  simp only [spliceFrom?, uncount?_eq (h.countSpans_extract_le _ _), Option.bind_eq_bind,
    Option.bind_some]
  rfl

theorem Ordered.pruneBefore?_eq (h : index.Ordered) (firstLine : Nat) :
    index.pruneBefore? firstLine = some (index.pruneBefore firstLine) := by
  simp only [pruneBefore?, uncount?_eq (h.countSpans_extract_le _ _), Option.bind_eq_bind,
    Option.bind_some]
  rfl

end MatchIndex

/-! ## The live search -/

namespace LiveSearch

def prune? (s : LiveSearch) (firstLine : Nat) : Option LiveSearch := do
  match ← s.index.pruneBefore? firstLine with
  | (0, _) => return s
  | (_, index) => return s.reindex index

def follow? (s : LiveSearch) (snapshot : Snapshot) : Option (LiveSearch × Option Scan) := do
  let s ← (s.enterGeneration snapshot.generation).prune? snapshot.firstLine
  if s.term.isEmpty ∨ s.inFlight.isSome then return (s, none)
  else
    match s.status, s.scanned with
    | .idle, _ | _, none =>
      let (s, scan) := s.fullScan snapshot
      return (s, some scan)
    | .ready, some scanned =>
      if scanned.same snapshot then return (s, none)
      else
        let start := max ((← scanned.lineCount?) - 1) snapshot.firstLine
        return ({ s with inFlight := some s.epoch }, some (s.scanOf snapshot start true))
    | .scanning, some _ => return (s, none)

/-- The index with what a report adds to it. -/
def joined? (s : LiveSearch) (report : ScanReport) : Option MatchIndex :=
  if report.incremental then s.index.spliceFrom? report.startLine report.index
  else some report.index

def accept? (s : LiveSearch) (report : ScanReport) : Option (Bool × LiveSearch) :=
  if report.epoch ≠ s.epoch then some (false, s)
  else do
    let index ← s.joined? report
    let (_, index) ← index.pruneBefore? report.snapshot.firstLine
    return (true, { s.reindex index with
      inFlight := none, scanned := some report.snapshot, status := .ready })

def turn? (cursor : Option Nat) (count : Nat) : Direction → Option Nat
  | .next => cursor.elim (some 0) fun c => do remainder? (← sum? c 1) count
  | .prev => cursor.elim (difference? count 1) fun c => do
    remainder? (← difference? (← sum? c count) 1) count

def navigate? (s : LiveSearch) (direction : Direction) : Option (Option Nat × LiveSearch) := do
  if s.index.size = 0 then return (none, s)
  else
    let s := { s with cursor := some (← turn? s.cursor s.index.size direction) }
    return (s.activeLine?, s)

variable {s : LiveSearch}

theorem prune?_eq (h : s.index.Ordered) (firstLine : Nat) :
    s.prune? firstLine = some (s.prune firstLine) := by
  simp only [prune?, prune, h.pruneBefore?_eq, Option.bind_eq_bind, Option.bind_some]
  obtain ⟨count, index⟩ := s.index.pruneBefore firstLine
  cases count <;> rfl

theorem follow?_eq (h : s.index.Ordered) (hscanned : ∀ old, s.scanned = some old → old.Small)
    (snapshot : Snapshot) : s.follow? snapshot = some (s.follow snapshot) := by
  have hprune := prune?_eq (enterGeneration_ordered h snapshot.generation) snapshot.firstLine
  have hscanned' : ∀ old, ((s.enterGeneration snapshot.generation).prune
      snapshot.firstLine).scanned = some old → old.Small := by
    obtain ⟨cursor, hpruned⟩ :=
      (s.enterGeneration snapshot.generation).prune_eq snapshot.firstLine
    rw [hpruned]
    simp only [enterGeneration]
    split
    · exact hscanned
    · simp [restart]
  simp only [follow?, follow, hprune, Option.bind_eq_bind, Option.bind_some]
  generalize (s.enterGeneration snapshot.generation).prune snapshot.firstLine = t at hscanned'
  split
  · rfl
  · cases t.status with
    | idle => rfl
    | scanning => cases t.scanned <;> rfl
    | ready =>
      cases hold : t.scanned with
      | none => rfl
      | some old =>
        simp only [(hscanned' old hold).lineCount?_eq, Option.bind_some]
        split <;> rfl

theorem joined?_eq (h : s.index.Ordered) (report : ScanReport) : s.joined? report =
    some (if report.incremental then s.index.spliceFrom report.startLine report.index
      else report.index) := by
  simp only [joined?, h.spliceFrom?_eq]
  split <;> rfl

/-- Whatever is pruned when an answer is taken in is in order. -/
theorem accept?_eq (h : s.index.Ordered) (scan : Scan) :
    s.accept? scan.answer = some (s.accept scan.answer) := by
  unfold accept? accept
  split
  · rfl
  · have hordered := answer_ordered h scan
    simp only [Scan.answer, Scan.report, joined?_eq h] at hordered ⊢
    rw [Option.bind_eq_bind, Option.bind_some, hordered.pruneBefore?_eq]
    rfl

theorem turn?_eq {cursor : Option Nat} {count : Nat} (hcount : count ≠ 0)
    (hsmall : count < 2 ^ 63) (hcursor : ∀ c, cursor = some c → c < count)
    (direction : Direction) :
    turn? cursor count direction = some (turn cursor count direction) := by
  cases cursor with
  | none =>
    cases direction with
    | next => rfl
    | prev => exact difference?_eq (by omega)
  | some c =>
    have hc := hcursor c rfl
    cases direction with
    | next =>
      simp only [turn?, Option.elim_some, sum?_eq (show c + 1 < 2 ^ 64 by omega),
        Option.bind_eq_bind, Option.bind_some]
      exact remainder?_eq hcount
    | prev =>
      simp only [turn?, Option.elim_some, sum?_eq (show c + count < 2 ^ 64 by omega),
        difference?_eq (show 1 ≤ c + count by omega), Option.bind_eq_bind, Option.bind_some]
      exact remainder?_eq hcount

theorem navigate?_eq (hsmall : s.index.size < 2 ^ 63) (hpoints : s.Points) (direction : Direction) :
    s.navigate? direction = some (s.navigate direction) := by
  simp only [navigate?, navigate]
  split
  · rfl
  · rename_i hsome
    rw [turn?_eq hsome hsmall hpoints]
    rfl

end LiveSearch

/-! ## Scans -/

def Scan.start? (scan : Scan) : Option RunningScan := do
  return { scan := scan, needle := Needle.ofTerm scan.term,
           rest := ← scan.snapshot.linesFrom? scan.startLine }

theorem Scan.start?_eq {scan : Scan} (h : scan.snapshot.Small) : scan.start? = some scan.start := by
  simp only [start?, h.linesFrom?_eq, Option.bind_eq_bind, Option.bind_some]
  rfl

/-! ## Results -/

def Window.around? (total : Nat) (cursor : Option Nat) (limit : Nat) : Option Window :=
  let limit := max limit 1
  match cursor.filter (· < total) with
  | none => some ⟨0, min total limit⟩
  | some c => do
    let start := c - limit / 2
    return ⟨start, min (← sum? start limit) total⟩

def contextLines? (snapshot : Snapshot) (context line : Nat) : Option (List Nat) := do
  let start := max (line - context) snapshot.firstLine
  let stop := min (← sum? (← sum? line context) 1) (← snapshot.lineCount?)
  return List.range' start (stop - start)

/-- The cards of the matched lines that are retained; the lines are given with how far behind the
start of the window they are. -/
def buildCards? (search : LiveSearch) (snapshot : Snapshot) (context start : Nat) :
    List (MatchedLine × Nat) → SegmentCache → Option (List ResultCard × SegmentCache)
  | [], cache => some ([], cache)
  | (e, offset) :: es, cache => do
    if snapshot.firstLine ≤ e.line ∧ e.line < (← snapshot.lineCount?) then
      let position ← sum? start offset
      let lines ← contextLines? snapshot context e.line
      let (snippet, cache) := buildSnippet snapshot search.term e.line lines cache
      let (rest, cache) ← buildCards? search snapshot context start es cache
      return (⟨position, e.line, search.cursor == some position, snippet⟩ :: rest, cache)
    else buildCards? search snapshot context start es cache

def buildResults? (search : LiveSearch) (snapshot : Snapshot) (options : WindowOptions)
    (cache : SegmentCache) : Option (Results × SegmentCache) := do
  let window ← Window.around? search.index.size search.cursor options.limit
  let shown ← slice? search.index.entries window.start window.stop
  let (cards, cache) ←
    buildCards? search snapshot options.context window.start shown.toList.zipIdx cache
  return (⟨cards, window, search.cursor, search.index.matchCount, search.index.size⟩, cache)

variable {search : LiveSearch} {snapshot : Snapshot}

theorem Window.around?_eq {total limit : Nat} (htotal : total < 2 ^ 63) (hlimit : limit < 2 ^ 63)
    (cursor : Option Nat) : around? total cursor limit = some (around total cursor limit) := by
  unfold around? around
  cases hc : cursor.filter (· < total) with
  | none => rfl
  | some c =>
    have hlt : c < total := by simpa using (Option.filter_eq_some_iff.1 hc).2
    simp only [sum?_eq (show c - max limit 1 / 2 + max limit 1 < 2 ^ 64 by omega),
      Option.bind_eq_bind, Option.bind_some]
    rfl

theorem contextLines?_eq (h : snapshot.Small) {context line : Nat} (hcontext : context < 2 ^ 63)
    (hline : line < snapshot.lineCount) :
    contextLines? snapshot context line = some (contextLines snapshot context line) := by
  have hsmall : snapshot.lineCount < 2 ^ 63 := h
  simp only [contextLines?, sum?_eq (show line + context < 2 ^ 64 by omega),
    sum?_eq (show line + context + 1 < 2 ^ 64 by omega), h.lineCount?_eq, Option.bind_eq_bind,
    Option.bind_some]
  rfl

theorem buildCards?_eq (h : snapshot.Small) {context start : Nat} (hcontext : context < 2 ^ 63)
    {es : List (MatchedLine × Nat)} (hes : ∀ p ∈ es, start + p.2 < 2 ^ 64) : ∀ cache,
    buildCards? search snapshot context start es cache = some (buildCards search snapshot context
      (es.map fun (e, offset) => (e, start + offset)) cache) := by
  induction es with
  | nil => intro cache; rfl
  | cons p es ih =>
    obtain ⟨e, offset⟩ := p
    obtain ⟨hposition, hes⟩ := List.forall_mem_cons.1 hes
    intro cache
    simp only [buildCards?, h.lineCount?_eq, Option.bind_eq_bind, Option.bind_some, List.map_cons,
      buildCards]
    split
    · rename_i hretained
      simp only [sum?_eq hposition, contextLines?_eq h hcontext hretained.2, ih hes,
        Option.bind_some]
      rfl
    · exact ih hes cache

/-- A window of a few out of not too many matches is shown. -/
theorem buildResults?_eq {options : WindowOptions} (h : snapshot.Small)
    (hsize : search.index.size < 2 ^ 63) (hlimit : options.limit < 2 ^ 63)
    (hcontext : options.context < 2 ^ 63) (cache : SegmentCache) :
    buildResults? search snapshot options cache =
      some (buildResults search snapshot options cache) := by
  have hstop := Window.around_stop_le search.index.size search.cursor options.limit
  have hstart := Window.around_start_le_stop search.index.size search.cursor options.limit
  simp only [buildResults?, buildResults, Window.around?_eq hsize hlimit, Option.bind_eq_bind,
    Option.bind_some]
  generalize Window.around search.index.size search.cursor options.limit = window at hstop hstart
  have hshown : ∀ p ∈ (search.index.entries.extract window.start window.stop).toList.zipIdx,
      window.start + p.2 < 2 ^ 64 := by
    intro p hp
    have hlt := List.snd_lt_of_mem_zipIdx hp
    simp only [Array.length_toList, Array.size_extract] at hlt
    omega
  rw [slice?_eq hstart hstop, Option.bind_some, buildCards?_eq h hcontext hshown,
    List.zipIdx_eq_map_add (i := window.start)]
  rfl

end LogTail.Search
