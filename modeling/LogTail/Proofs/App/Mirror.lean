import LogTail.Proofs.App.Calls
import LogTail.Proofs.Session.Screen

/-!
# The view mirrors the session

The view hears of the session through commands alone, so each operation has to say all that has
changed. It does: after every key, event and frame the view shows what the session holds. A
`Stage` is the application among its scans, and `Act` is what can happen on it; of what happens,
`App.Leads` says that it comes down to calls, and `Session.call_tells` that calls keep the mirror.
-/

namespace LogTail

open Display (View)
open Query (Input)
open Search (RunningScan Scan ScanReport SegmentCache)

/-- The application, its scans under way, and the reports it has not heard of, each behind its
scan. -/
structure Stage (ε : Type) where
  app : App ε
  running : List RunningScan := []
  finished : List (Scan × ScanReport) := []

/-- What can happen. Every act of the reader, every draw and every event has its time. -/
inductive Act where
  /-- The session begins to poll. -/
  | start
  | key (now : Nat) (clipboard : Clipboard) (key : Key)
  | mouse (now : Nat) (mouse : Mouse)
  | fetched (now : Nat) (report : FetchReport)
  | exported (now : Nat) (result : Except String ExportedFile)
  | tick (now time : Nat)
  | setPageSize (now rows : Nat)
  | draw (now width height : Nat)
  | afterDraw (now : Nat)
  /-- Work that was handed out begins. -/
  | begin (i : Nat)
  /-- A scan under way looks at its next chunk. -/
  | advance (i : Nat)
  /-- The session hears of a finished scan. -/
  | deliver (now i : Nat)

namespace Stage

variable {ε : Type}

variable (ε) in
def new [Input ε] (settings : Settings) (source : Source) (sources : List Source) : Stage ε where
  app := App.new ε settings (Session.new settings source) sources

/-- The session of the application among its scans. -/
def ensemble (st : Stage ε) : Ensemble := ⟨st.app.session, st.running, st.finished⟩

/-- Scans got on, which the view does not hear of. -/
def withEnsemble (st : Stage ε) (e : Ensemble) : Stage ε :=
  ⟨{ st.app with session := e.session }, e.running, e.finished⟩

def act [Input ε] (st : Stage ε) : Act → Stage ε
  | .start => { st with app := st.app.take 0 (st.app.session.call .start) }
  | .key now clipboard key => { st with app := st.app.onKey now clipboard key }
  | .mouse now mouse => { st with app := st.app.onMouse now mouse }
  | .fetched now report => { st with app := st.app.onEvent now (.fetched report) }
  | .exported now result => { st with app := st.app.onEvent now (.exported result) }
  | .tick now time => { st with app := st.app.tick now time }
  | .setPageSize now rows => { st with app := st.app.setPageSize now rows }
  | .draw now width height => { st with app := (st.app.draw now width height).2 }
  | .afterDraw now => { st with app := st.app.afterDraw now }
  | .begin i => st.withEnsemble (st.ensemble.begin i)
  | .advance i => st.withEnsemble (st.ensemble.advance i)
  | .deliver now i =>
    match st.finished[i]? with
    | none => st
    | some (_, report) =>
      { st with
        app := st.app.onEvent now (.scanned report)
        finished := st.finished.eraseIdx i }

def run [Input ε] (st : Stage ε) (acts : List Act) : Stage ε := acts.foldl act st

/-! ## Acts -/

/-- The view shows what the session holds, and the session is in order. -/
structure Mirrored (st : Stage ε) : Prop where
  inStep : st.ensemble.InStep
  shown : st.app.session.ShownOn st.app.view

/-- The mirror is kept by calls, and no matter of the lines that the view remembers. -/
theorem shift_mirrored {p q : Session × View} (h : Shift p q) {running : List RunningScan}
    {finished : List (Scan × ScanReport)} (hinStep : Ensemble.InStep ⟨p.1, running, finished⟩)
    (hshown : p.1.ShownOn p.2) :
    Ensemble.InStep ⟨q.1, running, finished⟩ ∧ q.1.ShownOn q.2 := by
  cases h with
  | calls s view c now =>
    exact ⟨Ensemble.inStep_step hinStep (.call c),
      (Session.call_tells hinStep.inOrder c).shown hshown now⟩
  | remembers s view lines =>
    exact ⟨hinStep, ⟨hshown.place.snapshot, hshown.place.top, hshown.place.unseen⟩, hshown.found⟩

theorem shifts_mirrored {p q : Session × View} (h : Relation.ReflTransGen Shift p q)
    {running : List RunningScan} {finished : List (Scan × ScanReport)}
    (hinStep : Ensemble.InStep ⟨p.1, running, finished⟩) (hshown : p.1.ShownOn p.2) :
    Ensemble.InStep ⟨q.1, running, finished⟩ ∧ q.1.ShownOn q.2 := by
  induction h with
  | refl => exact ⟨hinStep, hshown⟩
  | tail _ hlast ih => exact shift_mirrored hlast ih.1 ih.2

theorem Mirrored.leads {st : Stage ε} (h : st.Mirrored) {a : App ε} (hleads : st.app.Leads a) :
    Mirrored { st with app := a } := by
  obtain ⟨hinStep, hshown⟩ := shifts_mirrored hleads h.inStep h.shown
  exact ⟨hinStep, hshown⟩

/-- Scans get on, and the view carries out what is said when one is heard of. -/
theorem Mirrored.step {st : Stage ε} (h : st.Mirrored) (step : Step) (now : Nat) :
    (st.ensemble.step step).1.InStep ∧ (st.ensemble.step step).1.session.ShownOn
      (st.app.view.carryOut now (st.ensemble.step step).2) :=
  ⟨Ensemble.inStep_step h.inStep step, (Ensemble.step_tells h.inStep step).shown h.shown now⟩

variable [Input ε]

theorem mirrored_new (settings : Settings) (source : Source) (sources : List Source) :
    (new ε settings source sources).Mirrored where
  inStep := Ensemble.inStep_new settings source
  shown := by
    refine ⟨⟨rfl, rfl, rfl⟩, Prod.ext ?_ rfl⟩
    exact (Search.resultsOf_nothing rfl rfl _ _).symm

theorem act_mirrored {st : Stage ε} (h : st.Mirrored) (act : Act) : (st.act act).Mirrored := by
  cases act with
  | start => exact h.leads (st.app.take_leads .start 0)
  | key now clipboard key =>
    rcases st.app.onKey_touches now clipboard key with htouches | hselects
    · exact h.leads htouches.leads
    · exact h.leads (App.leads_of_selects hselects)
  | mouse now mouse => exact h.leads (st.app.onMouse_touches now mouse).leads
  | fetched now report => exact h.leads (st.app.take_leads (.fetched report) now)
  | exported now result =>
    cases result with
    | ok file => exact h.leads (App.touches_of_eq rfl).leads
    | error fault => exact h.leads (App.touches_of_eq rfl).leads
  | tick now time => exact h.leads (st.app.tick_touches now time).leads
  | setPageSize now rows => exact h.leads (st.app.setPageSize_touches now rows).leads
  | draw now width height => exact h.leads (st.app.draw_touches now width height).leads
  | afterDraw now => exact h.leads (st.app.take_leads .finishFrame now)
  | begin i =>
    obtain ⟨hinStep, hshown⟩ := h.step (.begin i) 0
    exact ⟨hinStep, hshown⟩
  | advance i =>
    obtain ⟨hinStep, hshown⟩ := h.step (.advance i) 0
    exact ⟨hinStep, hshown⟩
  | deliver now i =>
    cases hi : st.finished[i]? with
    | none =>
      simp only [act, hi]
      exact h
    | some p =>
      obtain ⟨hinStep, hshown⟩ := h.step (.deliver i) now
      simp only [Ensemble.step, Ensemble.deliver, ensemble, hi] at hinStep hshown
      simp only [act, hi]
      exact ⟨hinStep, hshown⟩

theorem run_mirrored (acts : List Act) : ∀ {st : Stage ε},
    st.Mirrored → (st.run acts).Mirrored := by
  induction acts with
  | nil => intro st h; exact h
  | cons act acts ih => intro st h; exact ih (act_mirrored h act)

variable (ε) in
/-- **The view mirrors the session** after every row of keys, mouse events, fetches, reports,
exports, ticks, page sizes and frames. It shows the viewport's snapshot at its top line, which is
of the generation of the latest text and counts no more lines; it counts those that it lacks; and
it shows the status of the search with the results that a store of segments would give that has
remembered nothing. -/
theorem view_mirrors_session (settings : Settings) (source : Source) (sources : List Source)
    (acts : List Act) :
    let a := ((new ε settings source sources).run acts).app
    let s := a.session
    a.view.snapshot = s.viewport.rendered ∧
    a.view.top = s.viewport.top ∧
    a.view.status = s.search.status ∧
    s.viewport.rendered.generation = s.snapshot.generation ∧
    s.viewport.rendered.lineCount ≤ s.snapshot.lineCount ∧
    a.view.unseen = s.snapshot.lineCount - s.viewport.rendered.lineCount ∧
    ∀ capacity, a.view.results = (Search.buildResults s.search s.snapshot s.windowOptions
      (SegmentCache.empty capacity)).1 := by
  intro a s
  have h : ((new ε settings source sources).run acts).Mirrored :=
    run_mirrored acts (mirrored_new settings source sources)
  have hgoesOn : s.viewport.isReset s.snapshot = false := h.inStep.goesOn
  have hshown : s.ShownOn a.view := h.shown
  obtain ⟨hgeneration, hcount⟩ := Viewport.isReset_eq_false_iff.1 hgoesOn
  refine ⟨hshown.place.snapshot, hshown.place.top, congrArg Prod.snd hshown.found,
    hgeneration.symm, hcount, ?_, fun capacity => ?_⟩
  · rw [hshown.place.unseen, Viewport.unseen_of_goesOn hgoesOn]
  · rw [(Search.buildResults_eq s.search s.snapshot s.windowOptions
      (SegmentCache.faithful_empty capacity)).1]
    exact congrArg Prod.fst hshown.found

end Stage

end LogTail
