import LogTail.Proofs.Log.Snapshot
import LogTail.Proofs.Search.MatchIndex
import LogTail.Proofs.Search.Needle
import LogTail.Search.Scan

/-!
# What a scan finds

A scan that comes to its end found the matched lines of its snapshot from its first line on,
whatever the size of its chunks. `RunningScan.Sound` is the invariant of the chunks: what has been
found, with what is still to be found in the rest, is what the whole scan is to find. A scan comes
to its end when none of its checks sees another epoch (`RunningScan.runSeen_cases`).
-/

namespace LogTail.Search

/-- A line with its spans, if it holds the needle. -/
def matchedLine? (needle : Needle) (line : Nat × String) : Option MatchedLine :=
  match needle.findSpans line.2 with
  | [] => none
  | spans => some ⟨line.1, spans⟩

theorem matchedLine?_eq_some {needle : Needle} {line : Nat × String} {e : MatchedLine} :
    matchedLine? needle line = some e ↔
      e.line = line.1 ∧ e.spans = needle.findSpans line.2 ∧ e.spans ≠ [] := by
  unfold matchedLine?
  split
  · rename_i h
    simp only [reduceCtorEq, false_iff, not_and, h, ne_eq, Decidable.not_not]
    exact fun _ hs => hs
  · rename_i h
    obtain ⟨n, spans⟩ := e
    simp only [Option.some.injEq, MatchedLine.mk.injEq]
    constructor
    · rintro ⟨rfl, rfl⟩; exact ⟨rfl, rfl, h⟩
    · rintro ⟨rfl, rfl, -⟩; exact ⟨rfl, rfl⟩

/-- Looking at a line adds it to the matches if it is one. -/
theorem look_ofEntries (needle : Needle) (l : List MatchedLine) (line : Nat × String) :
    (MatchIndex.ofEntries l).look needle line =
      MatchIndex.ofEntries (l ++ (matchedLine? needle line).toList) := by
  unfold MatchIndex.look matchedLine?
  cases needle.findSpans line.2 with
  | nil => simp
  | cons span spans => simp [MatchIndex.push_ofEntries]

theorem foldl_look_ofEntries (needle : Needle) (lines : List (Nat × String)) :
    ∀ l : List MatchedLine, lines.foldl (MatchIndex.look needle) (MatchIndex.ofEntries l) =
      MatchIndex.ofEntries (l ++ lines.filterMap (matchedLine? needle)) := by
  induction lines with
  | nil => intro l; simp
  | cons line lines ih =>
    intro l
    rw [List.foldl_cons, look_ofEntries, ih]
    cases h : matchedLine? needle line <;> simp [h]

/-! ## Whole scans -/

/-- The matched lines of a snapshot from a number on. -/
def matchedFrom (term : String) (snapshot : Log.Snapshot) (start : Nat) : List MatchedLine :=
  (snapshot.linesFrom start).filterMap (matchedLine? (Needle.ofTerm term))

theorem mem_matchedFrom {term : String} {snapshot : Log.Snapshot} {start : Nat} {e : MatchedLine} :
    e ∈ matchedFrom term snapshot start ↔ start ≤ e.line ∧
      ∃ text, snapshot.line? e.line = some text ∧
        e.spans = (Needle.ofTerm term).findSpans text ∧ e.spans ≠ [] := by
  simp only [matchedFrom, List.mem_filterMap, Prod.exists, Log.Snapshot.mem_linesFrom,
    matchedLine?_eq_some]
  constructor
  · rintro ⟨n, text, ⟨hstart, hline⟩, rfl, hspans, hne⟩
    exact ⟨hstart, text, hline, hspans, hne⟩
  · rintro ⟨hstart, text, hline, hspans, hne⟩
    exact ⟨e.line, text, ⟨hstart, hline⟩, rfl, hspans, hne⟩

theorem ascending_matchedFrom (term : String) (snapshot : Log.Snapshot) (start : Nat) :
    Ascending (matchedFrom term snapshot start) := by
  rw [matchedFrom, Ascending, List.pairwise_filterMap]
  refine (snapshot.linesFrom_pairwise start).imp fun {a b} hab e he f hf => ?_
  rw [(matchedLine?_eq_some.1 he).1, (matchedLine?_eq_some.1 hf).1]
  exact hab

/-- All lines together have as many spans as the term has occurrences in them. -/
theorem sum_matchedFrom (term : String) (snapshot : Log.Snapshot) :
    ((matchedFrom term snapshot snapshot.firstLine).map (·.spans.length)).sum =
      (snapshot.lines.toList.map (countIn term)).sum := by
  have key : ∀ lines : List (Nat × String),
      ((lines.filterMap (matchedLine? (Needle.ofTerm term))).map (·.spans.length)).sum =
        ((lines.map Prod.snd).map (countIn term)).sum := by
    intro lines
    induction lines with
    | nil => rfl
    | cons line lines ih =>
      rw [List.map_cons, List.map_cons, List.sum_cons, ← ih, ← length_findSpans]
      cases hspans : (Needle.ofTerm term).findSpans line.2 with
      | nil => simp [matchedLine?, hspans]
      | cons span spans => simp [matchedLine?, hspans]
  rw [matchedFrom, key, Log.Snapshot.linesFrom_snd]

/-- The report that a scan makes when it comes to its end. -/
def Scan.answer (scan : Scan) : ScanReport :=
  scan.report (MatchIndex.ofEntries (matchedFrom scan.term scan.snapshot scan.startLine))

/-- What was found so far is what the lines already looked at hold. -/
def RunningScan.Sound (running : RunningScan) : Prop :=
  running.needle = Needle.ofTerm running.scan.term ∧
  ∃ l, running.found = MatchIndex.ofEntries l ∧
    l ++ running.rest.filterMap (matchedLine? running.needle) =
      matchedFrom running.scan.term running.scan.snapshot running.scan.startLine

theorem Scan.start_sound (scan : Scan) : scan.start.Sound := ⟨rfl, [], rfl, rfl⟩

variable {running : RunningScan}

/-- The chunks still to come. The last one is short, and it is empty if the one before it was just
full. -/
def RunningScan.chunksLeft (running : RunningScan) : Nat :=
  running.left / running.scan.chunkLines + 1

/-- What a chunk can lead to: the scan gives up because its epoch is over, or it goes on with what
the chunk held, or it was at its end and has its answer. -/
theorem RunningScan.step_cases (epoch after : Nat) (h : running.Sound) :
    (running.step epoch after = .stale ∧
      (epoch ≠ running.scan.epoch ∨ running.chunksLeft = 1 ∧ after ≠ running.scan.epoch)) ∨
    (epoch = running.scan.epoch ∧ ∃ next, running.step epoch after = .pending next ∧ next.Sound ∧
      next.scan = running.scan ∧ running.chunksLeft = next.chunksLeft + 1) ∨
    (epoch = running.scan.epoch ∧ after = running.scan.epoch ∧ running.chunksLeft = 1 ∧
      running.step epoch after = .finished running.scan.answer) := by
  obtain ⟨hneedle, l, hfound, hrest⟩ := h
  have hchunk := foldl_look_ofEntries running.needle (running.rest.take running.scan.chunkLines) l
  by_cases hepoch : epoch = running.scan.epoch
  swap
  · exact Or.inl ⟨by simp [step, hepoch], Or.inl hepoch⟩
  by_cases hlast : running.rest.length < running.scan.chunkLines
  · -- A short chunk holds all that is left.
    have hall : running.rest.take running.scan.chunkLines = running.rest :=
      List.take_of_length_le (by omega)
    have hleft : running.chunksLeft = 1 := by rw [chunksLeft, left, Nat.div_eq_of_lt hlast]
    by_cases hafter : after = running.scan.epoch
    · refine Or.inr (Or.inr ⟨hepoch, hafter, hleft, ?_⟩)
      rw [hall, hrest] at hchunk
      simp [step, hepoch, hall, hlast, hafter, hfound, hchunk, Scan.answer]
    · exact Or.inl ⟨by simp [step, hepoch, hlast, hafter], Or.inr ⟨hleft, hafter⟩⟩
  · let next : RunningScan := { running with
      rest := running.rest.drop running.scan.chunkLines
      found := (running.rest.take running.scan.chunkLines).foldl
        (MatchIndex.look running.needle) running.found }
    have hnext : next.Sound := by
      refine ⟨hneedle, _, hfound ▸ hchunk, ?_⟩
      rw [List.append_assoc, ← List.filterMap_append, List.take_append_drop, hrest]
    have hleft : running.chunksLeft = next.chunksLeft + 1 := by
      have hsome : 0 < running.scan.chunkLines := Nat.le_max_right ..
      simp only [chunksLeft, left, next, List.length_drop]
      rw [Nat.div_eq_sub_div hsome (Nat.le_of_not_lt hlast)]
    exact Or.inr (Or.inl
      ⟨hepoch, next, by simp [step, hepoch, hlast, next], hnext, rfl, hleft⟩)

/-! ## Chunk after chunk -/

/-- Run to the end when check `k` sees the epoch `seen k`; `chunks` checks were made so far, one
before each chunk. Tells the number of chunks looked at, added to `chunks`, and the report unless
the scan gave up. -/
def RunningScan.runSeen (running : RunningScan) (seen : Nat → Nat) (chunks : Nat) :
    Nat × Option ScanReport :=
  match h : running.step (seen chunks) (seen (chunks + 1)) with
  | .stale => (chunks, none)
  | .finished report => (chunks + 1, some report)
  | .pending next => next.runSeen seen (chunks + 1)
termination_by running.left
decreasing_by exact RunningScan.left_step h

/-- A run in one epoch is one whose checks all see it. -/
theorem RunningScan.runFrom_eq_runSeen (running : RunningScan) (epoch chunks : Nat) :
    running.runFrom epoch chunks = running.runSeen (fun _ => epoch) chunks := by
  fun_induction RunningScan.runFrom running epoch chunks with
  | case1 running chunks hs => rw [runSeen, hs]
  | case2 running chunks report hs => rw [runSeen, hs]
  | case3 running chunks next hs ih => rw [runSeen, hs, ih]

/-- A run looks at all chunks and has its answer when each of its checks sees its epoch, the one
behind the last chunk included. Otherwise it gives up before it is through. -/
theorem RunningScan.runSeen_cases (seen : Nat → Nat) (chunks : Nat) (h : running.Sound) :
    ((∀ k ≤ running.chunksLeft, seen (chunks + k) = running.scan.epoch) ∧
      running.runSeen seen chunks =
        (chunks + running.chunksLeft, some running.scan.answer)) ∨
    ((∃ k ≤ running.chunksLeft, seen (chunks + k) ≠ running.scan.epoch) ∧
      ∃ n < chunks + running.chunksLeft, running.runSeen seen chunks = (n, none)) := by
  have hsome (running : RunningScan) : 0 < running.chunksLeft := Nat.succ_pos _
  fun_induction RunningScan.runSeen running seen chunks with
  | case1 running chunks hs =>
    refine Or.inr ⟨?_, chunks, Nat.lt_add_of_pos_right (hsome running), rfl⟩
    rcases step_cases (seen chunks) (seen (chunks + 1)) h with
      ⟨-, hnow | ⟨hlast, hafter⟩⟩ | ⟨-, next, hnext, -⟩ | ⟨-, -, -, hfinished⟩
    · exact ⟨0, Nat.zero_le _, hnow⟩
    · exact ⟨1, hlast.ge, hafter⟩
    · rw [hs] at hnext; cases hnext
    · rw [hs] at hfinished; cases hfinished
  | case2 running chunks report hs =>
    rcases step_cases (seen chunks) (seen (chunks + 1)) h with
      ⟨hstale, -⟩ | ⟨-, next, hnext, -⟩ | ⟨hnow, hafter, hlast, hfinished⟩
    · rw [hs] at hstale; cases hstale
    · rw [hs] at hnext; cases hnext
    · rw [hs] at hfinished; cases hfinished
      refine Or.inl ⟨fun k hk => ?_, by rw [hlast]⟩
      rw [hlast] at hk
      obtain rfl | rfl := Nat.le_one_iff_eq_zero_or_eq_one.1 hk
      · exact hnow
      · exact hafter
  | case3 running chunks next hs ih =>
    rcases step_cases (seen chunks) (seen (chunks + 1)) h with
      ⟨hstale, -⟩ | ⟨hnow, next', hnext, hsound, hscan, hleft⟩ | ⟨-, -, -, hfinished⟩
    · rw [hs] at hstale; cases hstale
    · rw [hs] at hnext; cases hnext
      have hshift (k : Nat) : chunks + 1 + k = chunks + (k + 1) := by omega
      rw [hleft, ← hscan]
      simp only [hshift] at ih
      rcases ih hsound with ⟨hall, hrun⟩ | ⟨⟨k, hk, hdiffers⟩, hrun⟩
      · refine Or.inl ⟨fun k hk => ?_, hrun⟩
        cases k with
        | zero => exact hnow.trans (congrArg Scan.epoch hscan.symm)
        | succ k => exact hall k (Nat.le_of_succ_le_succ hk)
      · exact Or.inr ⟨⟨k + 1, Nat.succ_le_succ hk, hdiffers⟩, hrun⟩
    · rw [hs] at hfinished; cases hfinished

/-- **A whole scan finds what it looks for.** While its epoch lasts a scan makes its answer. -/
theorem Scan.run_start (scan : Scan) : (scan.start.run scan.epoch).2 = some scan.answer := by
  rw [RunningScan.run, RunningScan.runFrom_eq_runSeen]
  rcases RunningScan.runSeen_cases (fun _ => scan.epoch) 0 scan.start_sound with
    ⟨-, hrun⟩ | ⟨⟨k, -, hdiffers⟩, -⟩
  · rw [hrun]
    rfl
  · exact absurd rfl hdiffers

/-- **A scan in chunks is the plain scan, or nothing.** For every snapshot, term and first line one
index lists the retained lines from that line on which hold the term, in their order and with their
spans, and counts the spans. A scan with chunks of any size gives it when every check sees the
epoch of the scan, and nothing otherwise; it is through after its chunks at the latest. While epochs
only grow it is given just when the last check still sees that epoch, and the first one did not come
before it: a scan is asked for in its own epoch. -/
theorem chunked_scan_is_plain (scan : Scan) : ∃ index : MatchIndex, index.Ordered ∧
    (∀ e, e ∈ index.entries.toList ↔ scan.startLine ≤ e.line ∧
      ∃ text, scan.snapshot.line? e.line = some text ∧
        e.spans = (Needle.ofTerm scan.term).findSpans text ∧ e.spans ≠ []) ∧
    ∀ (chunk : Nat) (seen : Nat → Nat),
      let start := { scan with chunk := chunk }.start
      let r := start.runSeen seen 0
      r.1 ≤ start.chunksLeft ∧
      r.2 = (if ∀ k ≤ start.chunksLeft, seen k = scan.epoch then some (scan.report index)
        else none) ∧
      (Monotone seen →
        (r.2.isSome = true ↔ scan.epoch ≤ seen 0 ∧ seen start.chunksLeft = scan.epoch)) := by
  have hlisted (e : MatchedLine) :
      e ∈ matchedFrom scan.term scan.snapshot scan.startLine ↔ _ := mem_matchedFrom
  refine ⟨MatchIndex.ofEntries (matchedFrom scan.term scan.snapshot scan.startLine),
    MatchIndex.ordered_ofEntries (ascending_matchedFrom ..), hlisted, fun chunk seen => ?_⟩
  intro start r
  have hruns : (∀ k ≤ start.chunksLeft, seen (0 + k) = scan.epoch) ∧
        r = (0 + start.chunksLeft, some (scan.report _)) ∨
      (∃ k ≤ start.chunksLeft, seen (0 + k) ≠ scan.epoch) ∧
        ∃ n < 0 + start.chunksLeft, r = (n, none) :=
    RunningScan.runSeen_cases seen 0 { scan with chunk := chunk }.start_sound
  simp only [Nat.zero_add] at hruns
  rcases hruns with ⟨hall, hr⟩ | ⟨⟨k, hk, hdiffers⟩, n, hn, hr⟩
  · rw [hr]
    refine ⟨Nat.le_refl _, (if_pos hall).symm, fun _ => ⟨fun _ => ?_, fun _ => rfl⟩⟩
    exact ⟨(hall 0 (Nat.zero_le _)).ge, hall _ (Nat.le_refl _)⟩
  · rw [hr]
    refine ⟨hn.le, (if_neg fun hall => hdiffers (hall k hk)).symm, fun hgrows => ?_⟩
    refine ⟨fun hsome => (by cases hsome), fun ⟨hfirst, hlast⟩ => absurd ?_ hdiffers⟩
    exact ((hgrows hk).trans hlast.le).antisymm (hfirst.trans (hgrows (Nat.zero_le k)))

/-- Two lines in chunks of two take a second chunk, an empty one. -/
example : (Scan.start ⟨1, "a", { lines := #["a", "b"] }, 0, false, 2⟩).chunksLeft = 2 := by decide

end LogTail.Search
