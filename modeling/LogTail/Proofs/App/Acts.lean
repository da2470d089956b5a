import LogTail.Proofs.App.Mirror
import LogTail.Proofs.Session.Query

/-!
# What an act comes down to

Keys, the mouse and frames are touches or begin a selection; the other acts are a single call, or
scans get on. `Acted` says so of any act but a fetch: what is typed and what is selected is followed
through all of them in a few cases.
-/

namespace LogTail

open Display (View)
open Query (Input)
open Face (Touch Selects)

namespace Face

/-- What an act other than a fetch makes of a face. -/
inductive Acted (honest : Prop) (f : Face) : Face → Prop where
  | touches {g : Face} (h : Relation.ReflTransGen (Touch honest) f g) : Acted honest f g
  | selects {g : Face} (h : Selects f g) : Acted honest f g
  /-- A frame has been drawn. -/
  | settles (now : Nat) (goesOn : f.session.viewport.isReset f.session.snapshot = false) :
      Acted honest f (f.call .finishFrame now)
  /-- Scans get on. -/
  | works (s : Session) (view : View) (seeks : f.session.SeeksTo none s)
      (viewport : s.viewport = f.session.viewport) :
      Acted honest f { f with session := s, view := view }

end Face

namespace Stage

open Face (Acted)

variable {ε : Type} [Input ε] {st : Stage ε}

/-- Scans get on, and nothing is typed or selected. -/
theorem step_acted (st : Stage ε) (step : Step) (hstep : ∀ c, step ≠ .call c) (view : View) :
    Acted (Input.Honest ε) st.app.face { st.app.face with
      session := (st.ensemble.step step).1.session, view := view } :=
  .works _ view (st.ensemble.step_seeks hstep) (st.ensemble.step_of_other step hstep).2

theorem act_acted (h : st.Mirrored) {act : Act} (hact : ∀ now report, act ≠ .fetched now report) :
    Acted (Input.Honest ε) st.app.face (st.act act).app.face := by
  cases act with
  | start => exact .touches (App.take_touches (c := .start) rfl st.app 0)
  | key now clipboard key =>
    rcases st.app.onKey_touches now clipboard key with htouches | hselects
    · exact .touches htouches
    · exact .selects hselects
  | mouse now mouse => exact .touches (st.app.onMouse_touches now mouse)
  | fetched now report => exact absurd rfl (hact now report)
  | exported now result =>
    cases result with
    | ok file => exact .touches (App.touches_of_eq rfl)
    | error fault => exact .touches (App.touches_of_eq rfl)
  | tick now time => exact .touches (st.app.tick_touches now time)
  | setPageSize now rows => exact .touches (st.app.setPageSize_touches now rows)
  | draw now width height => exact .touches (st.app.draw_touches now width height)
  | afterDraw now => exact .settles now h.inStep.goesOn
  | begin i => exact st.step_acted (.begin i) (by simp) _
  | advance i => exact st.step_acted (.advance i) (by simp) _
  | deliver now i =>
    cases hi : st.finished[i]? with
    | none =>
      simp only [act, hi]
      exact .touches (App.Touches.refl _)
    | some p =>
      have hhears := st.step_acted (.deliver i) (by simp)
        (st.app.view.carryOut now (st.ensemble.step (.deliver i)).2)
      simp only [Ensemble.step, Ensemble.deliver, ensemble, hi] at hhears
      simp only [act, hi]
      exact hhears

end Stage

end LogTail
