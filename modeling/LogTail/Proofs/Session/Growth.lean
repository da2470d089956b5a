import LogTail.Proofs.Search.Incremental
import LogTail.Proofs.Session.Retained

/-!
# A log that grows

Logs are appended to, and now and then truncated. When every text goes on where the last one of
its source ended, or has fewer lines, the index of a search that is ready is that of a full scan,
although it was put together from many. The last text of the source is carried along a run.
-/

namespace LogTail

open Log (Buffer Snapshot)
open Search (LiveSearch MatchIndex Scan ScanReport)
open Search.LiveSearch

/-! ## Calls -/

/-- Whether a call shows another source. -/
def Call.switches : Call → Bool
  | .switchSource source => source.fault?.isNone
  | _ => false

/-- The text that a call brings of the source that is shown. -/
def Session.text? (s : Session) : Call → Option String
  | .fetched report => if report.seq = s.seq then report.result.toOption else none
  | _ => none

/-- The buffer changes by the texts of its source and by a switch. -/
theorem Session.call_buffer (s : Session) (c : Call) : (s.call c).1.buffer =
    if c.switches then s.buffer.reset
    else (s.text? c).elim s.buffer fun text => (s.buffer.apply text).2 := by
  cases c with
  | fetched report =>
    change (s.onFetched report).1.buffer = _
    rcases s.onFetched_cases report with
      ⟨tally, h, hsame⟩ | ⟨text, tally, segments, hseq, hresult, -, h⟩
    · rw [h]
      by_cases hseq : report.seq = s.seq
      · cases hresult : report.result with
        | error fault => simp [text?, hseq, hresult, Call.switches, Except.toOption]
        | ok text =>
          simp [text?, hseq, hresult, Call.switches, Except.toOption,
            Buffer.apply_unchanged (hsame text hseq hresult)]
      · simp [text?, hseq, Call.switches]
    · rw [h]
      simp [text?, hseq, hresult, Call.switches, Except.toOption]
  | switchSource source =>
    rcases s.switchSource_cases source with ⟨fault, hf, h⟩ | ⟨hf, r, h, hb, -⟩
    · simp [call, h, hf, Call.switches, text?]
    · simp [call, h, hf, Call.switches, hb]
  | start =>
    simp only [call, start]
    cases s.source.fault? <;> rfl
  | tick now =>
    simp only [call, tick, commitTerm]
    split
    · rfl
    · simp only [searchCommands_fst]
      split <;> simp [Call.switches, text?]
  | exported result => rfl
  | editQuery raw now =>
    simp only [call, editQuery]
    split <;> rfl
  | clearQuery => rfl
  | navigate direction =>
    simp only [call, navigate]
    split <;> rfl
  | openResult position =>
    simp only [call, openResult]
    split <;> rfl
  | scrollBy delta => rfl
  | scrollToTop => rfl
  | jumpToLatest => rfl
  | finishFrame => rfl
  | setHeight height => rfl
  | setSelecting active => rfl
  | segmentsForLine snapshot line =>
    simp only [call, segmentsForLine]
    split <;> rfl
  | exportLog => rfl

/-! ## Texts -/

namespace Ensemble

/-- The text that a step brings of the source that is shown. -/
def text? (e : Ensemble) : Step → Option String
  | .call c => e.session.text? c
  | _ => none

/-- The last text of the source after a step, empty before the first one. -/
def lastText (e : Ensemble) (last : String) : Step → String
  | .call c => if c.switches then "" else (e.session.text? c).getD last
  | _ => last

/-- One text after another of the same source: the log grew, or it lost lines. -/
def Follows (last text : String) : Prop :=
  Text.Continues last text ∨ (Text.lines text).size < (Text.lines last).size

/-- Every text that some steps bring follows the last one of its source. -/
def Grows (e : Ensemble) (last : String) : List Step → Prop
  | [] => True
  | st :: steps =>
    (∀ text ∈ e.text? st, Follows last text) ∧ Grows (e.step st).1 (e.lastText last st) steps

instance (last text : String) : Decidable (Follows last text) :=
  inferInstanceAs (Decidable (last.toList <+: text.toList ∨ _ < _))

instance Grows.decidable : (e : Ensemble) → (last : String) → (steps : List Step) →
    Decidable (Grows e last steps)
  | _, _, [] => .isTrue trivial
  | e, last, st :: steps =>
    have := Grows.decidable (e.step st).1 (e.lastText last st) steps
    inferInstanceAs (Decidable (_ ∧ _))

/-- A report brings no text. -/
theorem Grows.deliver {steps : List Step} (i : Nat) : ∀ {e : Ensemble} {last : String},
    Grows e last steps → Grows e last (steps ++ [.deliver i]) := by
  induction steps with
  | nil => intro e last _; exact ⟨by simp [text?], trivial⟩
  | cons st steps ih => intro e last h; exact ⟨h.1, ih h.2⟩

/-- What is kept by every step that brings a text which follows the last one holds after every
run that does. -/
theorem grows_induction {P : Ensemble → String → Prop} {settings : Settings} {source : Source}
    (h₀ : P (new settings source) "")
    (hstep : ∀ e last st, P e last → (∀ text ∈ e.text? st, Follows last text) →
      P (e.step st).1 (e.lastText last st))
    {steps : List Step} (h : Grows (new settings source) "" steps) :
    ∃ last, P ((new settings source).run steps) last := by
  have key : ∀ (steps : List Step) (e : Ensemble) (last : String), P e last → Grows e last steps →
      ∃ last, P (e.run steps) last := by
    intro steps
    induction steps with
    | nil => intro e last he _; exact ⟨last, he⟩
    | cons st steps ih =>
      intro e last he h
      exact ih _ _ (hstep e last st he h.1) h.2
  exact key steps _ _ h₀ h

/-- The buffer holds the last text of the source. Within a generation one snapshot extends the
other. -/
theorem step_holds {e : Ensemble} {last : String} (h : e.session.buffer.Holds last) (st : Step)
    (hst : ∀ text ∈ e.text? st, Follows last text) :
    (e.step st).1.session.buffer.Holds (e.lastText last st) ∧
    ((e.step st).1.session.snapshot.generation = e.session.snapshot.generation →
      e.session.snapshot.Extends (e.step st).1.session.snapshot) := by
  by_cases hcall : ∃ c, st = .call c
  · obtain ⟨c, rfl⟩ := hcall
    have hbuffer := e.session.call_buffer c
    simp only [Session.snapshot, step, lastText]
    rw [hbuffer]
    cases hswitch : c.switches with
    | true => exact ⟨h.reset, fun hg => absurd hg (Nat.succ_ne_self _)⟩
    | false =>
      cases htext : e.session.text? c with
      | none => exact ⟨h, fun _ => .refl _⟩
      | some text =>
        rcases hst text htext with hcontinues | hfewer
        · obtain ⟨hholds, -, hext⟩ := h.apply_continues hcontinues
          exact ⟨hholds, fun _ => hext⟩
        · obtain ⟨hholds, hg⟩ := h.apply_fewer hfewer
          exact ⟨hholds, fun hsame => absurd (hg.symm.trans hsame) (Nat.succ_ne_self _)⟩
  · have hbuffer := (e.step_of_other st fun c hc => hcall ⟨c, hc⟩).1
    have hlast : e.lastText last st = last := by
      cases st with
      | call c => exact absurd ⟨c, rfl⟩ hcall
      | begin i => rfl
      | advance i => rfl
      | deliver i => rfl
    rw [hlast, Session.snapshot, Session.snapshot, hbuffer]
    exact ⟨h, fun _ => .refl _⟩

/-! ## The index -/

/-- The index is that of a full scan of the snapshot scanned last, on the retained lines. -/
structure Indexed (e : Ensemble) (last : String) : Prop where
  tracked : e.Tracked
  holds : e.session.buffer.Holds last
  indexes : Indexes e.session.snapshot (e.session.search, e.scans)
  pruned : Pruned e.session.snapshot e.session.search

theorem indexed_new (settings : Settings) (source : Source) :
    (new settings source).Indexed "" where
  tracked := tracked_new settings source
  holds := Buffer.holds_empty _
  indexes := indexes_idle _ _
  pruned := pruned_empty rfl

theorem indexed_step {e : Ensemble} {last : String} (h : e.Indexed last) (st : Step)
    (hst : ∀ text ∈ e.text? st, Follows last text) :
    (e.step st).1.Indexed (e.lastText last st) := by
  obtain ⟨hholds, hext⟩ := step_holds h.holds st hst
  have hlater := h.indexes.later h.tracked.generation hext
  exact ⟨tracked_step h.tracked st, hholds, step_invariant indexes_invariant h.tracked st hlater,
    step_pruned h.tracked h.indexes.ordered h.pruned st⟩

/-! ## What every such run shows -/

/-- **An incremental search is as good as a full one.** When every text follows the last one of
its source, the index of a search that is ready is what one scan of all of the snapshot scanned
last finds, on the lines that the buffer still retains. If that is the latest snapshot, the number
of matches is the number of occurrences in all retained lines. -/
theorem index_of_full_scan (settings : Settings) (source : Source) (steps : List Step)
    (hgrows : Grows (new settings source) "" steps)
    (hready : ((new settings source).run steps).session.search.status = .ready) :
    let s := ((new settings source).run steps).session
    ∃ scanned full, s.search.scanned = some scanned ∧
      ((s.search.fullScan scanned).2.start.run s.search.epoch).2 = some full ∧
      s.search.index = MatchIndex.ofEntries
        (full.index.entries.toList.filter (s.snapshot.firstLine ≤ ·.line)) ∧
      (scanned.same s.snapshot = true → s.search.index.matchCount =
        (s.snapshot.lines.toList.map (Search.countIn s.search.term)).sum) := by
  obtain ⟨last, h⟩ := grows_induction (indexed_new settings source)
    (fun e last st h hst => indexed_step h st hst) hgrows
  generalize (new settings source).run steps = e at h hready
  intro s
  obtain ⟨l, hindex, hl, hagrees⟩ := h.indexes.entries
  cases h.tracked.tracks.coherent with
  | idle status => rw [hready] at status; cases status
  | scanning status => rw [hready] at status; cases status
  | ready _ scanned hscanned _ _ =>
    obtain ⟨-, hagrees⟩ := hagrees h.tracked.generation scanned hscanned
    have hindex : s.search.index = MatchIndex.ofEntries
        ((Search.matchedFrom s.search.term scanned scanned.firstLine).filter
          (s.snapshot.firstLine ≤ ·.line)) := by
      rw [← hagrees.eq_filter fun entry hentry =>
        h.pruned entry (by rw [hindex]; simpa using hentry)]
      exact hindex
    refine ⟨scanned, (s.search.fullScan scanned).2.answer, hscanned, Scan.run_start _, hindex,
      fun hsame => ?_⟩
    obtain rfl : scanned = s.snapshot :=
      (h.tracked.tracks.scanned scanned hscanned).eq_of_same hsame
    rw [hindex, MatchIndex.matchCount_ofEntries, List.filter_eq_self.2, Search.sum_matchedFrom]
    intro entry hentry
    exact decide_eq_true (Search.mem_matchedFrom.1 hentry).1

/-- Two lines are searched in vain. Then the second one grows, a third one comes, the first one is
evicted, and the new lines are searched. -/
def grownOnce : List Step := [
  .call (.fetched ⟨0, .ok "be\nbe"⟩), .call (.editQuery "al" 0), .call (.tick 1000),
  .begin 0, .advance 0, .deliver 0, .call (.fetched ⟨0, .ok "be\nbe al\nAl"⟩),
  .begin 0, .advance 0]

/-- The second report makes the search ready, and its index counts what both retained lines
hold. -/
theorem index_of_full_scan_grownOnce :
    let s := ((new { maxLines := 2 } (.file "log")).run (grownOnce ++ [.deliver 0])).session
    Grows (new { maxLines := 2 } (.file "log")) "" (grownOnce ++ [.deliver 0]) ∧
    s.search.status = .ready ∧ s.search.index.matchCount = 2 := by
  have hgrows : Grows (new { maxLines := 2 } (.file "log")) "" grownOnce := by decide +kernel
  have hcounts := index_of_full_scan { maxLines := 2 } (.file "log") _ (hgrows.deliver 0)
  have hknown : let e := (new { maxLines := 2 } (.file "log")).run grownOnce
      e.finished.map (·.2.epoch) = [e.session.search.epoch] ∧
      e.finished.map (·.2.snapshot) = [e.session.snapshot] ∧
      e.session.search.generation = e.session.snapshot.generation ∧
      e.session.search.term = "al" ∧ e.session.snapshot.lines = #["be al", "Al"] := by
    refine ⟨?_, ?_, ?_, ?_, ?_⟩ <;> decide +kernel
  refine ⟨hgrows.deliver 0, ?_⟩
  rw [run_append] at hcounts ⊢
  generalize (new { maxLines := 2 } (.file "log")).run grownOnce = e at hcounts hknown
  obtain ⟨hepochs, hsnapshots, hgeneration, hterm, hlines⟩ := hknown
  obtain ⟨p, hfinished, hepochs⟩ := List.map_eq_singleton_iff.1 hepochs
  simp only [hfinished, List.map_cons, List.map_nil, List.cons.injEq, and_true] at hsnapshots
  have hheard : (e.run [.deliver 0]).session = (e.session.handle (.scanned p.2)).1 := by
    simp [run, step, deliver, hfinished]
  obtain ⟨ht, hstatus, hscanned⟩ := handle_scanned_ready hepochs hgeneration
  have hbuffer := (e.session.handle_scanned_fst p.2).1
  rw [hheard] at hcounts ⊢
  obtain ⟨scanned, full, hscanned', -, -, hcount⟩ := hcounts hstatus
  refine ⟨hstatus, ?_⟩
  obtain rfl : p.2.snapshot = scanned := Option.some.inj (hscanned.symm.trans hscanned')
  rw [hcount, ht, hterm, Session.snapshot, hbuffer, ← Session.snapshot, hlines]
  · decide +kernel
  · simp [Session.snapshot, hbuffer, hsnapshots, Snapshot.same]

end Ensemble

end LogTail
