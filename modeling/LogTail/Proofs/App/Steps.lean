import LogTail.Proofs.App.Acts
import LogTail.Proofs.Session.Viewport
import Mathlib.Data.List.Induction

/-!
# Acts are steps

An act is a row of steps of the session among its scans (`act_steps`). What holds after every run of
steps therefore holds after every row of acts, whatever keys, frames and events there are
(`run_steps`).

The rows of the log view are kept on both sides, as the page size of the application and as the
height of the viewport, and the two are one (`run_paged`).
-/

namespace LogTail

open Display (View)
open Query (Input)
open Search (RunningScan Scan ScanReport)

/-! ## Steps -/

namespace Stage

variable {ε : Type} {st : Stage ε}

theorem shift_steps {p q : Session × View} (h : Shift p q) (running : List RunningScan)
    (finished : List (Scan × ScanReport)) :
    ∃ steps, Ensemble.run ⟨p.1, running, finished⟩ steps = ⟨q.1, running, finished⟩ := by
  cases h with
  | calls s view c now => exact ⟨[.call c], rfl⟩
  | remembers s view lines => exact ⟨[], rfl⟩

theorem shifts_steps {p q : Session × View} (h : Relation.ReflTransGen Shift p q)
    (running : List RunningScan) (finished : List (Scan × ScanReport)) :
    ∃ steps, Ensemble.run ⟨p.1, running, finished⟩ steps = ⟨q.1, running, finished⟩ := by
  induction h with
  | refl => exact ⟨[], rfl⟩
  | tail _ hlast ih =>
    obtain ⟨before, hbefore⟩ := ih
    obtain ⟨steps, hsteps⟩ := shift_steps hlast running finished
    exact ⟨before ++ steps, by rw [Ensemble.run_append, hbefore, hsteps]⟩

theorem leads_steps {a : App ε} (h : st.app.Leads a) :
    ∃ steps, ensemble { st with app := a } = st.ensemble.run steps := by
  obtain ⟨steps, hsteps⟩ := shifts_steps h st.running st.finished
  exact ⟨steps, hsteps.symm⟩

variable [Input ε]

/-- **What happens is a row of steps.** -/
theorem act_steps (st : Stage ε) (act : Act) :
    ∃ steps, (st.act act).ensemble = st.ensemble.run steps := by
  cases act with
  | start => exact leads_steps (st.app.take_leads .start 0)
  | key now clipboard key =>
    rcases st.app.onKey_touches now clipboard key with htouches | hselects
    · exact leads_steps htouches.leads
    · exact leads_steps (App.leads_of_selects hselects)
  | mouse now mouse => exact leads_steps (st.app.onMouse_touches now mouse).leads
  | fetched now report => exact leads_steps (st.app.take_leads (.fetched report) now)
  | exported now result =>
    cases result with
    | ok file => exact leads_steps (App.touches_of_eq rfl).leads
    | error fault => exact leads_steps (App.touches_of_eq rfl).leads
  | tick now time => exact leads_steps (st.app.tick_touches now time).leads
  | setPageSize now rows => exact leads_steps (st.app.setPageSize_touches now rows).leads
  | draw now width height => exact leads_steps (st.app.draw_touches now width height).leads
  | afterDraw now => exact leads_steps (st.app.take_leads .finishFrame now)
  | begin i => exact ⟨[.begin i], rfl⟩
  | advance i => exact ⟨[.advance i], rfl⟩
  | deliver now i =>
    cases hi : st.finished[i]? with
    | none => exact ⟨[], by simp only [Stage.act, hi, Ensemble.run_nil]⟩
    | some p =>
      refine ⟨[.deliver i], ?_⟩
      simp only [Stage.act, hi, Ensemble.run_cons, Ensemble.run_nil, Ensemble.step,
        Ensemble.deliver, ensemble]
      rfl

variable (ε) in
theorem run_steps (settings : Settings) (source : Source) (sources : List Source)
    (acts : List Act) : ∃ steps, ((new ε settings source sources).run acts).ensemble =
      (Ensemble.new settings source).run steps := by
  induction acts using List.reverseRecOn with
  | nil => exact ⟨[], rfl⟩
  | append_singleton acts act ih =>
    obtain ⟨before, hbefore⟩ := ih
    obtain ⟨steps, hsteps⟩ := act_steps ((new ε settings source sources).run acts) act
    refine ⟨before ++ steps, ?_⟩
    rw [run, List.foldl_append, Ensemble.run_append, ← hbefore, ← hsteps]
    rfl

end Stage

/-! ## The page size -/

namespace Face

/-- The viewport has as many rows as the application says, and there is one. -/
structure Paged (f : Face) : Prop where
  height : f.session.viewport.height = f.pageSize
  rows : 0 < f.pageSize

variable {honest : Prop} {f g : Face}

/-- A call for anything but a height. -/
theorem Paged.called (h : f.Paged) {c : Call} (hc : ∀ height, c ≠ .setHeight height)
    (hsession : g.session = (f.session.call c).1) (hpage : g.pageSize = f.pageSize) : g.Paged := by
  refine ⟨?_, hpage ▸ h.rows⟩
  rw [hsession, Session.call_height hc, hpage]
  exact h.height

theorem touch_paged (h : f.Paged) (ht : Touch honest f g) : g.Paged := by
  cases ht with
  | calls c now plain =>
    refine h.called (c := c) (fun height hc => ?_) rfl rfl
    rw [hc] at plain
    cases plain
  | remembers lines => exact ⟨h.height, h.rows⟩
  | modes mode before after => exact ⟨h.height, h.rows⟩
  | types text now => exact h.called (c := .editQuery text now) (by simp) rfl rfl
  | clears now => exact h.called (c := .clearQuery) (by simp) rfl rfl
  | opens position now offered => exact h.called (c := .openResult position) (by simp) rfl rfl
  | ends now => exact h.called (c := .setSelecting false) (by simp) rfl rfl
  | jumps now unselected => exact h.called (c := .jumpToLatest) (by simp) rfl rfl
  | resizes rows now =>
    have hrows : 0 < max rows 1 := Nat.le_max_right ..
    refine ⟨?_, hrows⟩
    exact (f.session.viewport.setHeight_height (max rows 1)).trans (Nat.max_eq_left hrows)
  | switches source now mode => exact h.called (c := .switchSource source) (by simp) rfl rfl
  | drifts text untold => exact ⟨h.height, h.rows⟩

theorem acted_paged (h : f.Paged) (ha : Acted honest f g) : g.Paged := by
  cases ha with
  | touches htouches =>
    induction htouches with
    | refl => exact h
    | tail _ hlast ih => exact touch_paged ih hlast
  | selects hselects =>
    cases hselects with
    | begins now unselected => exact h.called (c := .setSelecting true) (by simp) rfl rfl
  | settles now goesOn => exact h.called (c := .finishFrame) (by simp) rfl rfl
  | works s view seeks viewport => exact ⟨(congrArg (·.height) viewport).trans h.height, h.rows⟩

end Face

namespace Stage

variable {ε : Type} [Input ε]

theorem act_paged {st : Stage ε} (h : st.Mirrored) (hpaged : st.app.face.Paged) (act : Act) :
    (st.act act).app.face.Paged := by
  by_cases hfetch : ∃ now report, act = .fetched now report
  · obtain ⟨now, report, rfl⟩ := hfetch
    exact hpaged.called (c := .fetched report) (by simp) rfl rfl
  · exact Face.acted_paged hpaged (act_acted h fun now report hact => hfetch ⟨now, report, hact⟩)

/-- **The page size is the height of the viewport** after every row of acts. -/
theorem run_paged (settings : Settings) (source : Source) (sources : List Source)
    (acts : List Act) : ((new ε settings source sources).run acts).app.face.Paged := by
  induction acts using List.reverseRecOn with
  | nil => exact ⟨rfl, Nat.one_pos⟩
  | append_singleton acts act ih =>
    rw [run, List.foldl_append]
    exact act_paged (run_mirrored acts (mirrored_new settings source sources)) ih act

end Stage

/-! ## Frames -/

namespace App

variable {ε : Type}

theorem logSpans_viewport (a : App ε) (active : Option Nat) (n : Nat) :
    (a.logSpans active n).2.session.viewport = a.session.viewport := by
  obtain ⟨lines, h⟩ := a.logSpans_snd active n
  rw [h]
  exact a.session.call_viewport _

theorem logLines_viewport (gutter : Nat) (active flash : Option Nat) (numbers : List Nat) :
    ∀ a : App ε, (a.logLines gutter active flash numbers).2.session.viewport =
      a.session.viewport := by
  induction numbers with
  | nil => intro a; rfl
  | cons n rest ih => intro a; exact (ih _).trans (a.logSpans_viewport active n)

/-- A frame gives the viewport the rows that the log view has on the screen, and leaves the rest of
it alone. -/
theorem drawLog_viewport (a : App ε) (now : Nat) (canvas : Screen.Canvas) (area : Screen.Rect) :
    (a.drawLog now canvas area).2.session.viewport = a.session.viewport ∨
    ∃ rows, (a.drawLog now canvas area).2.session.viewport =
      (a.session.viewport.setHeight rows).1 := by
  have hresizes (height : Nat) {v : Viewport}
      (h : v = (if height = a.pageSize then a else a.setPageSize now height).session.viewport) :
      v = a.session.viewport ∨ ∃ rows, v = (a.session.viewport.setHeight rows).1 := by
    split at h
    · exact Or.inl h
    · exact Or.inr ⟨_, h⟩
  unfold drawLog
  simp only
  generalize (if a.sidePanel = true then area.insideLeft else area) = inner
  split
  · exact Or.inl rfl
  · exact hresizes _ (logLines_viewport _ _ _ _ _)

theorem drawQuery_session [Input ε] (a : App ε) (canvas : Screen.Canvas) (area : Screen.Rect) :
    (a.drawQuery canvas area).2.session = a.session := by
  unfold drawQuery
  simp only
  split <;> rfl

theorem draw_viewport [Input ε] (a : App ε) (now width height : Nat) :
    (a.draw now width height).2.session.viewport = a.session.viewport ∨
    ∃ rows, (a.draw now width height).2.session.viewport =
      (a.session.viewport.setHeight rows).1 := by
  have hquery : (a.draw now width height).2.session = (a.drawLog now _ _).2.session :=
    drawQuery_session _ _ _
  rw [hquery]
  exact a.drawLog_viewport now _ _

end App

end LogTail
