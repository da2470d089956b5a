import LogTail.Proofs.Session.Bottom
import LogTail.Proofs.Session.Reader

/-!
# Away from the tail

A reader who is away from the tail stays away until a return (`KeepsAway.away`), and a search that
begins takes the reader away. It fails in one case: a jump to the latest line that waits is not
called off by the search, and the next frame settles it into the tail.
-/

namespace LogTail.Ensemble

/-! ## Runs -/

/-- The reader does not go back to the tail. -/
def KeepsAway : Ensemble → List Step → Prop := Along fun e st => ¬ e.Returns st

theorem KeepsAway.away {steps : List Step} : ∀ {e : Ensemble}, e.KeepsAway steps → e.InStep →
    e.session.viewport.Away → (e.run steps).InStep ∧ (e.run steps).session.viewport.Away := by
  induction steps with
  | nil => intro e _ h haway; exact ⟨h, haway⟩
  | cons st steps ih =>
    intro e hkeeps h haway
    exact ih hkeeps.2 (inStep_step h st) ((step_places h st).away haway hkeeps.1)

/-! ## What every run shows -/

/-- **A search that begins stops the tail**, unless a jump to the latest line waits. Then the next
frame does not settle at the tail, and as long as the reader does not go back there, no text of the
same generation moves what is on the screen. A jump that waits settles at the tail all the same. -/
theorem search_stops_tail (settings : Settings) (source : Source) (steps : List Step) (now : Nat)
    (hcommits : ((new settings source).run steps).session.Commits now) :
    let e := (new settings source).run steps
    let f := (e.step (.call (.tick now))).1
    ((f.step (.call .finishFrame)).1.session.viewport.mode = .tailing ↔
      e.session.viewport.HeadsForTail) ∧
    (¬ e.session.viewport.HeadsForTail → ∀ later, f.KeepsAway later →
      let s := (f.run later).session
      s.viewport.mode ≠ .tailing ∧ ∀ report,
        (s.onFetched report).1.snapshot.generation = s.snapshot.generation →
          (s.onFetched report).1.viewport.rendered = s.viewport.rendered ∧
          (s.onFetched report).1.viewport.top = s.viewport.top) := by
  intro e f
  have h : e.InStep := inStep_run settings source steps
  have hf : f.InStep := inStep_step h _
  have hsearch : f.session.viewport = e.session.viewport.enterSearch := by
    have hticks := e.session.tick_viewport now
    rwa [if_pos hcommits] at hticks
  have haway (hheads : ¬ e.session.viewport.HeadsForTail) : f.session.viewport.Away := by
    rw [hsearch]
    exact Viewport.enterSearch_away hheads
  refine ⟨⟨fun htail => ?_, fun hheads => ?_⟩, fun hheads later hkeeps => ?_⟩
  · by_contra hheads
    have hkeeps : f.KeepsAway [.call .finishFrame] := ⟨id, trivial⟩
    exact (hkeeps.away hf (haway hheads)).2.not_follows (Or.inl htail)
  · have hsettles : (f.step (.call .finishFrame)).1.session.viewport =
        (e.session.viewport.finishJump f.session.snapshot).1 := by
      rw [← Viewport.enterSearch_of_headsForTail hheads, ← hsearch]
      rfl
    rw [hsettles]
    exact Viewport.finishJump_of_headsForTail hheads _
  · obtain ⟨hlater, hstays⟩ := hkeeps.away hf (haway hheads)
    refine ⟨fun htail => hstays.not_follows (Or.inl htail), fun report hgeneration => ?_⟩
    have hleaves := Session.onFetched_leaves hlater.inOrder hstays.held hlater.goesOn hgeneration
    exact ⟨hleaves.undisturbed.rendered, hleaves.undisturbed.top⟩

/-- The reader jumps to the latest line and types a query, before the next frame. -/
def jumpedSearching : List Step := [
  .call (.fetched ⟨0, .ok "a\nb\nc"⟩), .call .jumpToLatest, .call (.editQuery "b" 0)]

/-- The query is committed, and the frame settles the jump into the tail. -/
theorem jumpedSearching_tails : ¬ ∀ (settings : Settings) (source : Source) (steps : List Step)
    (now : Nat), let e := (new settings source).run steps
    e.session.Commits now → ((e.step (.call (.tick now))).1.step
      (.call .finishFrame)).1.session.viewport.mode ≠ .tailing := by
  intro h
  exact h {} (.file "app.log") jumpedSearching 1000 (by decide +kernel) (by decide +kernel)

/-- The reader types a query at the tail. -/
def tailSearching : List Step := [
  .call (.fetched ⟨0, .ok "a\nb\nc"⟩), .call (.editQuery "b" 0)]

/-- A frame is drawn, and the reader scrolls up. -/
def scrolledUp : List Step := [.call .finishFrame, .call (.scrollBy (-1))]

/-- After that a fourth line is not shown. -/
theorem search_stops_tail_scrolledUp :
    let e := (new {} (.file "app.log")).run tailSearching
    let s := ((e.step (.call (.tick 1000))).1.run scrolledUp).session
    e.session.Commits 1000 ∧ s.viewport.mode ≠ .tailing ∧
    (s.onFetched ⟨0, .ok "a\nb\nc\nd"⟩).1.viewport.rendered = s.viewport.rendered := by
  have hcommits : ((new {} (.file "app.log")).run tailSearching).session.Commits 1000 := by
    decide +kernel
  have htail : ((new {} (.file "app.log")).run tailSearching).session.viewport.mode = .tailing := by
    decide +kernel
  have hgeneration : let e := (new {} (.file "app.log")).run tailSearching
      let s := ((e.step (.call (.tick 1000))).1.run scrolledUp).session
      (s.onFetched ⟨0, .ok "a\nb\nc\nd"⟩).1.snapshot.generation = s.snapshot.generation := by
    decide +kernel
  intro e s
  have hheads : ¬ e.session.viewport.HeadsForTail := by
    rintro ⟨target, hjumps⟩
    cases htail.symm.trans hjumps
  have hkeeps : (e.step (.call (.tick 1000))).1.KeepsAway scrolledUp :=
    ⟨id, fun hback => absurd hback.2.1 (by decide), trivial⟩
  obtain ⟨-, hruns⟩ := search_stops_tail {} (.file "app.log") tailSearching 1000 hcommits
  obtain ⟨hmode, hfetch⟩ := hruns hheads _ hkeeps
  exact ⟨hcommits, hmode, (hfetch _ hgeneration).1⟩

end LogTail.Ensemble
