import LogTail.Proofs.Session.Selecting
import LogTail.Proofs.Session.Viewport
import LogTail.Proofs.Viewport.Bottom
import Mathlib.Data.List.Induction

/-!
# The bottom in a run

`step_places` says for every step what becomes of the place of the view, and whether the reader
goes back to the tail by it. A session at the tail is at the bottom, save in one way: while a jump
to the latest line waits, the height or the generation changes and takes the view too far from the
last page, and the end of the jump does not look at it. `above_run` says that this is the only way
and lasts until the place changes.
-/

namespace LogTail.Ensemble

open Log (Buffer)
open Viewport

variable {e : Ensemble}

/-! ## Steps -/

/-- The reader goes back to the tail: scrolls to the bottom, jumps to the latest line or turns to
another source. -/
def Returns (e : Ensemble) : Step → Prop
  | .call (.scrollBy delta) => e.session.viewport.ScrollsBack delta
  | .call .jumpToLatest => True
  | .call (.switchSource source) => source.fault? = none
  | _ => False

/-- The last page moves without the reader: the height changes or a generation begins. -/
def MovesBottom (e : Ensemble) : Step → Prop
  | .call (.setHeight height) => max height 1 ≠ e.session.viewport.height
  | .call (.fetched report) =>
    (e.session.onFetched report).1.snapshot.generation ≠ e.session.snapshot.generation
  | _ => False

/-- A text of the same generation moves no last page under a jump. -/
theorem onFetched_places (h : e.session.viewport.isReset e.session.snapshot = false)
    (report : FetchReport) :
    Places (e.Returns (.call (.fetched report))) (e.MovesBottom (.call (.fetched report)))
      e.session.viewport (e.session.onFetched report).1.viewport := by
  rcases e.session.onFetched_cases report with
    ⟨tally, heq, -⟩ | ⟨text, tally, segments, -, -, -, heq⟩
  · rw [heq]
    exact places_of_eq rfl rfl rfl rfl rfl
  · have hmoves : e.session.viewport.isReset (e.session.buffer.apply text).2.snapshot = true →
        e.MovesBottom (.call (.fetched report)) := by
      intro hreset hsame
      rw [heq] at hsame
      exact absurd ((Session.isReset_apply h text).2 hsame) (by simp [hreset])
    have hviewport : (e.session.onFetched report).1.viewport =
        (e.session.viewport.update (e.session.buffer.apply text).2.snapshot).1 := by rw [heq]
    rw [hviewport]
    exact update_places fun _ => hmoves

theorem call_places (h : e.session.viewport.isReset e.session.snapshot = false) (c : Call) :
    Places (e.Returns (.call c)) (e.MovesBottom (.call c)) e.session.viewport
      (e.session.call c).1.viewport := by
  have hrests : Places (e.Returns (.call c)) (e.MovesBottom (.call c)) e.session.viewport
      e.session.viewport := places_of_eq rfl rfl rfl rfl rfl
  cases c with
  | fetched report => exact onFetched_places h report
  | switchSource source =>
    rw [Session.call_viewport, Session.viewportAfter]
    split
    · rename_i haccepted
      exact restart_places _ _ (Option.isNone_iff_eq_none.1 haccepted)
    · exact hrests
  | tick now =>
    rw [Session.call_viewport, Session.viewportAfter]
    split
    · exact enterSearch_places _
    · exact hrests
  | navigate _ | openResult _ =>
    rw [Session.call_viewport, Session.viewportAfter]
    cases e.session.target? _ with
    | none => exact hrests
    | some line => exact .leaves (jumpToLine_away ..)
  | scrollBy delta => exact scrollBy_places ..
  | scrollToTop => exact scrollToTop_places _
  | jumpToLatest => exact jumpToLatest_places _ _ trivial
  | finishFrame => exact finishJump_places ..
  | setHeight height => exact setHeight_places id
  | setSelecting active => exact setSelecting_places ..
  | start | exported _ | editQuery _ _ | clearQuery | segmentsForLine _ _ | exportLog =>
    rw [Session.call_viewport]
    exact hrests

/-- **What a step does to the place of the view.** -/
theorem step_places (h : e.InStep) (st : Step) : Places (e.Returns st) (e.MovesBottom st)
    e.session.viewport (e.step st).1.session.viewport := by
  by_cases hcall : ∃ c, st = .call c
  · obtain ⟨c, rfl⟩ := hcall
    exact call_places h.goesOn c
  · rw [(e.step_of_other st fun c hc => hcall ⟨c, hc⟩).2]
    exact places_of_eq rfl rfl rfl rfl rfl

/-! ## Runs -/

/-- No step changes the place. -/
def StaysPut : Ensemble → List Step → Prop :=
  Along fun e st => e.session.viewport.SamePlace (e.step st).1.session.viewport

theorem StaysPut.samePlace {steps : List Step} : ∀ {e : Ensemble}, e.StaysPut steps →
    e.session.viewport.SamePlace (e.run steps).session.viewport := by
  induction steps with
  | nil => intro e _; exact .refl _
  | cons st steps ih => intro e h; exact h.1.trans (ih h.2)

/-- A step takes the last page away from a view on its way to it. -/
def LosesBottom (e : Ensemble) (st : Step) : Prop :=
  e.MovesBottom st ∧ e.session.viewport.HeadsForTail ∧ ¬ (e.step st).1.session.viewport.AtBottom

/-- **The only way to be above the bottom at the tail.** The last page moved under a jump, and
nothing has changed the place since. -/
theorem above_run (settings : Settings) (source : Source) (steps : List Step)
    (hfollows : ((new settings source).run steps).session.viewport.Follows)
    (habove : ¬ ((new settings source).run steps).session.viewport.AtBottom) :
    ∃ before st after, steps = before ++ st :: after ∧
      ((new settings source).run before).LosesBottom st ∧
      (((new settings source).run before).step st).1.StaysPut after := by
  induction steps using List.reverseRecOn with
  | nil => exact absurd (Nat.zero_le _) habove
  | append_singleton steps st ih =>
    have hplaces := step_places (inStep_run settings source steps) st
    simp only [run_append, run_cons, run_nil] at hfollows habove
    rcases hplaces.atBottom hfollows with hbottom | ⟨hbefore, hsame⟩ | ⟨hmoves, hheads⟩
    · exact absurd hbottom habove
    · obtain ⟨before, first, after, rfl, hloses, hstays⟩ :=
        ih hbefore fun hbottom => habove (hsame.atBottom_iff.2 hbottom)
      refine ⟨before, first, after ++ [st], by simp, hloses, (along_append ..).2 ⟨hstays, ?_⟩⟩
      rw [run_append, run_cons] at hsame
      exact ⟨hsame, trivial⟩
    · exact ⟨steps, st, [], rfl, ⟨hmoves, hheads, habove⟩, trivial⟩

/-! ## What every run shows -/

/-- **The tail keeps the bottom in view**, whatever heights, jumps, frames, scrolls, selections and
texts led there, save for the tail at the end of a jump under which the last page moved away: it
stays above the bottom until the place changes. -/
theorem tail_keeps_bottom (settings : Settings) (source : Source) (steps : List Step)
    (htail : ((new settings source).run steps).session.viewport.mode = .tailing) :
    ((new settings source).run steps).session.viewport.AtBottom ↔ ¬ ∃ before st after,
      steps = before ++ st :: after ∧ ((new settings source).run before).LosesBottom st ∧
      (((new settings source).run before).step st).1.StaysPut after := by
  constructor
  · rintro hbottom ⟨before, st, after, rfl, ⟨-, -, habove⟩, hstays⟩
    rw [run_append, run_cons] at hbottom
    exact habove (hstays.samePlace.atBottom_iff.1 hbottom)
  · intro hnever
    by_contra habove
    exact hnever (above_run settings source steps (Or.inl htail) habove)

/-- The reader jumps to the latest of four lines on four rows. Before the frame is drawn, one row is
left. -/
def shrunkJumping : List Step := [
  .call (.setHeight 4), .call (.fetched ⟨0, .ok "a\nb\nc\nd"⟩), .call .jumpToLatest,
  .call (.setHeight 1), .call .finishFrame]

/-- The frame settles the jump into the tail with the first line on the one row. -/
theorem shrunkJumping_above : ¬ ∀ (settings : Settings) (source : Source) (steps : List Step),
    ((new settings source).run steps).session.viewport.mode = .tailing →
      ((new settings source).run steps).session.viewport.AtBottom := by
  intro h
  exact absurd (h {} (.file "app.log") shrunkJumping (by decide +kernel)) (by decide +kernel)

/-- The loss of the three rows is where this run left the bottom. -/
theorem tail_keeps_bottom_shrunkJumping :
    ((new {} (.file "app.log")).run shrunkJumping).session.viewport.mode = .tailing ∧
    ∃ before st after, shrunkJumping = before ++ st :: after ∧
      ((new {} (.file "app.log")).run before).LosesBottom st ∧
      (((new {} (.file "app.log")).run before).step st).1.StaysPut after := by
  have htail : ((new {} (.file "app.log")).run shrunkJumping).session.viewport.mode = .tailing := by
    decide +kernel
  have hruns := tail_keeps_bottom {} (.file "app.log") shrunkJumping htail
  exact ⟨htail, Classical.not_not.1 fun hnever => absurd (hruns.2 hnever) (by decide +kernel)⟩

end LogTail.Ensemble
