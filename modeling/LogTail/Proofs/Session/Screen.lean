import LogTail.Proofs.Search.Results
import LogTail.Proofs.Session.Epochs
import LogTail.Proofs.Viewport.Screen

/-!
# What a session tells the screen

A session says what its viewport says, and after that how the search stands, unless nothing of the
search has changed (`Completes`). `step_tells` proves it for every step; what the screen then shows
is proved from it alone, without another look at the operations.

The one case that takes an argument is a new text while nothing is sought: nothing is said of the
search, and there is nothing to say, for without a term there are no matches
(`Search.LiveSearch.Coherent.index_of_no_term`).
-/

namespace LogTail

open Display (Command View)
open Log (Buffer Snapshot)
open Search (LiveSearch Results ScanReport Status)

namespace Session

/-- What there is to show of the search. -/
def found (s : Session) : Results × Status :=
  (Search.resultsOf s.search s.snapshot s.windowOptions, s.search.status)

/-- What a session says in all when the viewport says `place`, and the search had found `old`
before and has found `new` now. -/
inductive Completes (old new : Results × Status) (place : List Command) : List Command → Prop where
  /-- Nothing of the search has changed. -/
  | placeOnly (same : new = old) : Completes old new place place
  | placeAndSearch : Completes old new place (place ++ [.results new.1, .status new.2])

/-- What an operation says, and that it leaves the segments in order. -/
structure Tells (s : Session) (r : Session × List Command) : Prop where
  tells : ∃ place, Viewport.Tells s.snapshot s.viewport r.1.snapshot r.1.viewport place ∧
    Completes s.found r.1.found place r.2
  segments : r.1.segments.Faithful

variable {s t : Session} {place cmds : List Command}

/-! ## Ways to say it -/

/-- An operation that leaves what is shown as it was has nothing to say. -/
theorem tells_nothing (hsegments : t.segments.Faithful) (hsnapshot : t.snapshot = s.snapshot)
    (hrendered : t.viewport.rendered = s.viewport.rendered)
    (htop : t.viewport.top = s.viewport.top) (hfound : t.found = s.found) : Tells s (t, []) :=
  ⟨⟨[], .nothing hsnapshot hrendered htop, .placeOnly hfound⟩, hsegments⟩

/-- An operation of the viewport alone. -/
theorem tells_viewport (hsegments : s.segments.Faithful) {r : Viewport × List Command}
    (h : Viewport.Tells s.snapshot s.viewport s.snapshot r.1 r.2) : Tells s (s.withViewport r) :=
  ⟨⟨r.2, h, .placeOnly rfl⟩, hsegments⟩

/-- The results that are told are what there is to show, whatever segments are remembered. -/
theorem thenSearchCommands_completes (hsegments : t.segments.Faithful) (old : Results × Status)
    (place : List Command) :
    Completes old (thenSearchCommands (t, place)).1.found place
      (thenSearchCommands (t, place)).2 ∧
    (thenSearchCommands (t, place)).1.segments.Faithful := by
  obtain ⟨hresults, hfaithful⟩ :=
    Search.buildResults_eq t.search t.snapshot t.windowOptions hsegments
  have hcommands : (thenSearchCommands (t, place)).2 =
      place ++ [.results t.found.1, .status t.found.2] := by
    rw [found, ← hresults]
    rfl
  rw [hcommands]
  exact ⟨.placeAndSearch, hfaithful⟩

theorem tells_search (hsegments : t.segments.Faithful)
    (hplace : Viewport.Tells s.snapshot s.viewport t.snapshot t.viewport place) :
    Tells s (thenSearchCommands (t, place)) := by
  obtain ⟨hcompletes, hfaithful⟩ := thenSearchCommands_completes hsegments s.found place
  exact ⟨⟨place, hplace, hcompletes⟩, hfaithful⟩

/-- An operation of the search alone. -/
theorem tells_searchCommands (hsegments : t.segments.Faithful) (hsnapshot : t.snapshot = s.snapshot)
    (hrendered : t.viewport.rendered = s.viewport.rendered)
    (htop : t.viewport.top = s.viewport.top) : Tells s t.searchCommands := by
  have hplace : Viewport.Tells s.snapshot s.viewport t.snapshot t.viewport [] :=
    .nothing hsnapshot hrendered htop
  exact tells_search hsegments hplace

/-- An operation that leaves the buffer alone and does not move the reader. -/
inductive SearchOnly (s : Session) : Session × List Command → Prop where
  | nothing {t : Session} (segments : t.segments = s.segments) (buffer : t.buffer = s.buffer)
      (viewport : t.viewport = s.viewport) (found : t.found = s.found) : SearchOnly s (t, [])
  | search {t : Session} (segments : t.segments = s.segments) (buffer : t.buffer = s.buffer)
      (viewport : s.viewport.Undisturbed t.viewport) : SearchOnly s t.searchCommands

theorem SearchOnly.tells {r : Session × List Command} (h : SearchOnly s r)
    (hsegments : s.segments.Faithful) : Tells s r := by
  cases h with
  | @nothing t segments buffer viewport found =>
    rw [← segments] at hsegments
    exact tells_nothing hsegments (congrArg (·.snapshot) buffer) (congrArg (·.rendered) viewport)
      (congrArg (·.top) viewport) found
  | @search t segments buffer viewport =>
    rw [← segments] at hsegments
    exact tells_searchCommands hsegments (congrArg (·.snapshot) buffer) viewport.rendered
      viewport.top

/-! ## Texts -/

/-- The session with another text in its buffer: viewport and search take notice. -/
def notice (s : Session) (buffer : Buffer) : Session × List Command :=
  let r := s.viewport.update buffer.snapshot
  ({ s with buffer := buffer, viewport := r.1 }.withSearch (s.search.follow buffer.snapshot), r.2)

theorem applyText_eq (s : Session) (text : String) : s.applyText text =
    match s.buffer.apply text with
    | (.unchanged, _) => (s, [])
    | (update, buffer) =>
      if s.search.isActive || update matches .reset _ then thenSearchCommands (s.notice buffer)
      else s.notice buffer := rfl

/-- What a session keeps in order, so that it can leave the search unmentioned. -/
structure InOrder (s : Session) : Prop where
  segments : s.segments.Faithful
  generation : s.search.generation = s.snapshot.generation
  coherent : s.search.Coherent

/-- Another text is in the buffer, and viewport and search took notice. -/
structure Notices (s : Session) (next : Buffer) (r : Session × List Command) : Prop where
  buffer : r.1.buffer = next
  viewport : r.1.viewport = (s.viewport.update next.snapshot).1
  segments : r.1.segments.Faithful
  completes : Completes s.found r.1.found (s.viewport.update next.snapshot).2 r.2

theorem Notices.tells {next : Buffer} {r : Session × List Command} (h : Notices s next r) :
    Tells s r := by
  have hupdates := s.viewport.update_tells s.snapshot next.snapshot
  refine ⟨⟨_, ?_, h.completes⟩, h.segments⟩
  rw [h.viewport, show r.1.snapshot = next.snapshot from congrArg (·.snapshot) h.buffer]
  exact hupdates

/-- Without a term the results are those of no matches, whatever the text. -/
theorem notice_idle (h : s.InOrder) {buffer : Buffer} (hterm : s.search.term = "")
    (hgeneration : buffer.snapshot.generation = s.snapshot.generation) :
    (s.notice buffer).1.found = s.found := by
  have hindex := h.coherent.index_of_no_term hterm
  have hfollow : s.search.follow buffer.snapshot = (s.search, none) :=
    LiveSearch.follow_of_no_term (h.generation.trans hgeneration.symm) hterm hindex
  have hnotice : (s.notice buffer).1 = { s with
      buffer := buffer, viewport := (s.viewport.update buffer.snapshot).1 } := by
    rw [notice, hfollow]
    rfl
  rw [hnotice]
  exact Prod.ext (Search.resultsOf_of_empty hindex _ _ _) rfl

theorem applyText_of_unchanged {text : String} (h : (s.buffer.apply text).1 = .unchanged) :
    s.applyText text = (s, []) := by
  rw [applyText_eq]
  generalize s.buffer.apply text = r at h
  obtain ⟨update, next⟩ := r
  cases h
  rfl

theorem applyText_notices (h : s.InOrder) {text : String}
    (hchanged : (s.buffer.apply text).1 ≠ .unchanged) :
    Notices s (s.buffer.apply text).2 (s.applyText text) := by
  have hkept : (∀ generation, (s.buffer.apply text).1 ≠ .reset generation) → _ :=
    Buffer.apply_generation
  rw [applyText_eq]
  generalize s.buffer.apply text = r at hchanged hkept
  obtain ⟨update, next⟩ := r
  have hfaithful : (s.notice next).1.segments.Faithful := by
    simpa only [notice, withSearch_eq] using h.segments
  -- Once the search is told of, the session is the one that took notice.
  have hsearch : Notices s next (thenSearchCommands (s.notice next)) := by
    obtain ⟨hcompletes, hfaithful⟩ :=
      thenSearchCommands_completes hfaithful s.found (s.notice next).2
    refine ⟨?_, ?_, hfaithful, hcompletes⟩
    · simp only [thenSearchCommands_fst, searchCommands_fst, notice, withSearch_buffer]
    · simp only [thenSearchCommands_fst, searchCommands_fst, notice, withSearch_viewport]
  cases update with
  | unchanged => exact absurd rfl hchanged
  | reset generation =>
    simp only [Bool.or_true, if_true]
    exact hsearch
  | appended previous =>
    simp only [Bool.or_false]
    split
    · exact hsearch
    · rename_i hidle
      have hterm : s.search.term = "" := by simpa [LiveSearch.isActive] using hidle
      refine ⟨?_, ?_, hfaithful, .placeOnly (notice_idle h hterm (hkept (by simp)).1)⟩
      · simp only [notice, withSearch_buffer]
      · simp only [notice, withSearch_viewport]

/-- A fetch brings another text, or it is nothing to the screen. -/
theorem onFetched_notices (h : s.InOrder) (report : FetchReport) :
    SearchOnly s (s.onFetched report) ∨ ∃ text, (s.buffer.apply text).1 ≠ .unchanged ∧
      Notices s (s.buffer.apply text).2 (s.onFetched report) := by
  unfold onFetched
  split
  · exact Or.inl (.nothing rfl rfl rfl rfl)
  · simp only
    split
    · rename_i text _
      -- The tally is nothing to the screen.
      have hcounted : InOrder { s with tally := s.tally.record report.result } :=
        ⟨h.segments, h.generation, h.coherent⟩
      by_cases hchanged : (s.buffer.apply text).1 = .unchanged
      · refine Or.inl ?_
        rw [applyText_of_unchanged (by exact hchanged)]
        exact .nothing rfl rfl rfl rfl
      · have hnotices := applyText_notices hcounted hchanged
        exact Or.inr ⟨text, hchanged, hnotices.buffer, hnotices.viewport, hnotices.segments,
          hnotices.completes⟩
    · exact Or.inl (.nothing rfl rfl rfl rfl)

theorem onFetched_tells (h : s.InOrder) (report : FetchReport) : Tells s (s.onFetched report) := by
  rcases onFetched_notices h report with hsearch | ⟨text, -, hnotices⟩
  · exact hsearch.tells h.segments
  · exact hnotices.tells

/-! ## Calls -/

theorem start_tells (h : s.segments.Faithful) : Tells s (s.call .start) := by
  simp only [call, start]
  cases s.source.fault? with
  | none => exact tells_nothing h rfl rfl rfl rfl
  | some fault => exact tells_nothing h rfl rfl rfl rfl

theorem switchSource_tells (h : s.segments.Faithful) (source : Source) :
    Tells s (s.call (.switchSource source)) := by
  cases hfault : source.fault? with
  | some fault =>
    simp only [call, s.switchSource_of_fault hfault]
    exact tells_nothing h rfl rfl rfl rfl
  | none =>
    -- The poller that is started at the end is nothing to the screen.
    let t : Session := { s with
      poller := none
      source := source
      seq := s.seq + 1
      tally := {}
      buffer := s.buffer.reset
      search := s.search.enterGeneration s.buffer.reset.snapshot.generation
      viewport := (s.viewport.restart s.buffer.reset.snapshot).1 }
    have hrestarts : Tells s (thenSearchCommands (t, (s.viewport.restart t.snapshot).2)) :=
      tells_search h (s.viewport.restart_tells s.snapshot t.snapshot)
    have hswitches : s.call (.switchSource source) =
        ({ (thenSearchCommands (t, (s.viewport.restart t.snapshot).2)).1 with
            poller := some ⟨source, s.seq + 1, false⟩ },
          (thenSearchCommands (t, (s.viewport.restart t.snapshot).2)).2) := by
      simp only [call, s.switchSource_of_none hfault]
      rfl
    rw [hswitches]
    exact ⟨hrestarts.tells, hrestarts.segments⟩

/-- A commit stops the tail if it asks for a scan, but nothing moves. -/
theorem tick_searchOnly (s : Session) (now : Nat) : SearchOnly s (s.tick now) := by
  unfold tick
  split
  · exact .nothing rfl rfl rfl rfl
  · simp only [commitTerm, withSearch_eq]
    split
    · exact .search rfl rfl s.viewport.enterSearch_undisturbed
    · exact .search rfl rfl (.refl s.viewport)

theorem scanned_searchOnly (s : Session) (report : ScanReport) :
    SearchOnly s (s.handle (.scanned report)) := by
  simp only [handle, onScanned]
  split
  · exact .nothing rfl rfl rfl rfl
  · simp only [withSearch_eq]
    exact .search rfl rfl (.refl s.viewport)

theorem navigate_tells (h : s.segments.Faithful) (direction : Search.Direction) :
    Tells s (s.navigate direction) := by
  unfold navigate
  split
  · rename_i search hnone
    have hsearch : search = s.search := by
      have hkept := LiveSearch.navigate_of_none (s := s.search) (congrArg Prod.fst hnone)
      rwa [hnone] at hkept
    subst hsearch
    exact tells_nothing h rfl rfl rfl rfl
  · exact tells_search h (s.viewport.jumpToLine_tells _ true s.snapshot)

theorem openResult_tells (h : s.segments.Faithful) (position : Nat) :
    Tells s (s.openResult position) := by
  unfold openResult
  split
  · rename_i search hnone
    have hsearch : search = s.search := by
      have hkept := LiveSearch.select_of_none (s := s.search) (congrArg Prod.fst hnone)
      rwa [hnone] at hkept
    subst hsearch
    exact tells_nothing h rfl rfl rfl rfl
  · rename_i line search _
    exact tells_search (t := { s with
      query := s.query.clear.2
      search := search.clear
      viewport := (s.viewport.jumpToLine line true s.snapshot).1 }) h
      (s.viewport.jumpToLine_tells line true s.snapshot)

/-- **Every call says what has changed.** -/
theorem call_tells (h : s.InOrder) (c : Call) : Tells s (s.call c) := by
  have hsegments := h.segments
  cases c with
  | start => exact start_tells hsegments
  | switchSource source => exact switchSource_tells hsegments source
  | fetched report => exact onFetched_tells h report
  | exported result => exact tells_nothing hsegments rfl rfl rfl rfl
  | editQuery raw now =>
    simp only [call, editQuery]
    split
    · exact tells_nothing hsegments rfl rfl rfl rfl
    · exact tells_searchCommands hsegments rfl rfl rfl
  | tick now => exact (s.tick_searchOnly now).tells hsegments
  | clearQuery => exact tells_searchCommands hsegments rfl rfl rfl
  | navigate direction => exact navigate_tells hsegments direction
  | openResult position => exact openResult_tells hsegments position
  | scrollBy delta => exact tells_viewport hsegments (s.viewport.scrollBy_tells delta s.snapshot)
  | scrollToTop => exact tells_viewport hsegments (s.viewport.scrollToTop_tells s.snapshot)
  | jumpToLatest => exact tells_viewport hsegments (s.viewport.jumpToLatest_tells s.snapshot)
  | finishFrame => exact tells_viewport hsegments (s.viewport.finishJump_tells s.snapshot)
  | setHeight height =>
    exact tells_viewport hsegments (s.viewport.setHeight_tells height s.snapshot)
  | setSelecting active =>
    exact tells_viewport hsegments (s.viewport.setSelecting_tells active s.snapshot)
  | segmentsForLine snapshot line =>
    simp only [call, segmentsForLine]
    split
    · exact tells_nothing (hsegments.lookup _ _).2 rfl rfl rfl rfl
    · exact tells_nothing hsegments rfl rfl rfl rfl
  | exportLog => exact tells_nothing hsegments rfl rfl rfl rfl

/-! ## What the screen shows -/

/-- The screen shows the viewport's lines and what there is to show of the search. -/
structure ShownOn (s : Session) (view : View) : Prop where
  place : s.viewport.ShownOn s.snapshot view
  found : (view.results, view.status) = s.found

theorem ShownOn.results {view : View} (h : s.ShownOn view) :
    view.results = Search.resultsOf s.search s.snapshot s.windowOptions :=
  congrArg Prod.fst h.found

/-- **The screen keeps up with the session** when it carries out what it is told. -/
theorem Tells.shown {r : Session × List Command} (h : Tells s r) {view : View}
    (hview : s.ShownOn view) (now : Nat) : r.1.ShownOn (view.carryOut now r.2) := by
  obtain ⟨t, cmds⟩ := r
  obtain ⟨place, hplace, hcompletes⟩ := h.tells
  have hplaced := hplace.shown hview.place now
  obtain ⟨hresults, hstatus⟩ := hplace.search_kept view now
  change Completes s.found t.found place cmds at hcompletes
  cases hcompletes with
  | placeOnly same =>
    refine ⟨hplaced, ?_⟩
    rw [hresults, hstatus, hview.found]
    exact same.symm
  | placeAndSearch =>
    rw [View.carryOut_append]
    exact ⟨⟨hplaced.snapshot, hplaced.top, hplaced.unseen⟩, rfl⟩

end Session

namespace Ensemble

/-! ## Steps -/

/-- Search, segments and viewport are in order; the latest text goes on from the screen's. -/
structure InStep (e : Ensemble) : Prop where
  tracked : e.Tracked
  segments : e.session.segments.Faithful
  goesOn : e.session.viewport.isReset e.session.snapshot = false

variable {e : Ensemble}

theorem InStep.inOrder (h : e.InStep) : e.session.InOrder :=
  ⟨h.segments, h.tracked.generation, h.tracked.tracks.coherent⟩

/-- Scans get on without the reader. -/
theorem step_searchOnly (e : Ensemble) {st : Step} (hst : ∀ c, st ≠ .call c) :
    e.session.SearchOnly ((e.step st).1.session, (e.step st).2) := by
  cases st with
  | call c => exact absurd rfl (hst c)
  | begin i =>
    simp only [step, begin]
    split
    · exact .nothing rfl rfl rfl rfl
    · exact .nothing rfl rfl rfl rfl
  | advance i =>
    simp only [step, advance]
    split
    · exact .nothing rfl rfl rfl rfl
    · split
      · exact .nothing rfl rfl rfl rfl
      · exact .nothing rfl rfl rfl rfl
      · exact .nothing rfl rfl rfl rfl
  | deliver i =>
    simp only [step, deliver]
    split
    · exact .nothing rfl rfl rfl rfl
    · exact e.session.scanned_searchOnly _

theorem step_tells (h : e.InStep) (st : Step) :
    e.session.Tells ((e.step st).1.session, (e.step st).2) := by
  by_cases hcall : ∃ c, st = .call c
  · obtain ⟨c, rfl⟩ := hcall
    exact Session.call_tells h.inOrder c
  · exact (e.step_searchOnly fun c hc => hcall ⟨c, hc⟩).tells h.segments

theorem inStep_new (settings : Settings) (source : Source) : (new settings source).InStep where
  tracked := tracked_new settings source
  segments := Search.SegmentCache.faithful_empty _
  goesOn := rfl

theorem inStep_step (h : e.InStep) (st : Step) : (e.step st).1.InStep := by
  have htells := step_tells h st
  obtain ⟨place, hplace, -⟩ := htells.tells
  exact ⟨tracked_step h.tracked st, htells.segments, hplace.goesOn h.goesOn⟩

theorem inStep_run (settings : Settings) (source : Source) (steps : List Step) :
    ((new settings source).run steps).InStep :=
  run_induction (inStep_new settings source) (fun _ st h => inStep_step h st) steps

end Ensemble

end LogTail
