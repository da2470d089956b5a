import LogTail.Proofs.App.Query
import LogTail.Proofs.App.Steps
import LogTail.Proofs.Session.Cards
import LogTail.Proofs.Viewport.Target

/-!
# Opening a result

The result to open is taken from the results that the view shows, and looked up among the matches of
the session. As the view mirrors the session, what is found is the active match, or that of the
first card. Its line is retained, as that of every match, so the jump brings it into view and it is
still there when the frame has been drawn (`Awaits`). The session empties the query and so ends the
search (`openResult_tuned`), and the input is replaced by an empty one, whatever it held.
-/

namespace LogTail

open Display (View)
open Query (Input)

/-! ## The session -/

namespace Session

variable {s : Session} {position line : Nat}

theorem target?_openResult (h : s.search.index.lineAt? position = some line) :
    s.target? (.openResult position) = some line :=
  (s.search.select_fst position).trans h

theorem openResult_viewport (h : s.search.index.lineAt? position = some line) :
    (s.openResult position).1.viewport = (s.viewport.jumpToLine line true s.snapshot).1 := by
  have hcall := s.call_viewport (.openResult position)
  rw [viewportAfter, target?_openResult h] at hcall
  exact hcall

/-- The line is marked from now on. -/
theorem openResult_flash (h : s.search.index.lineAt? position = some line) (view : View)
    (now : Nat) : (view.carryOut now (s.openResult position).2).flash =
      some (line, now + view.flashTime) := by
  have hselect : s.search.select position =
      (some line, { s.search with cursor := some position }) := by
    simp [Search.LiveSearch.select, h]
  simp only [openResult, hselect, withViewport, clearQuery, searchCommands, Viewport.jumpToLine]
  split <;> rfl

end Session

/-! ## The application -/

namespace App

/-- The result that is offered is opened. -/
theorem openActiveResult_eq {ε : Type} [Input ε] {a : App ε} {position : Nat}
    (h : a.face.opened? = some position) (now : Nat) : ∃ message, a.openActiveResult now =
      { a.take now (a.session.openResult position) with
        input := Input.empty, focus := .log, message := message } := by
  have hopened : (a.view.results.active.orElse fun _ =>
      a.view.results.cards.head?.map (·.position)) = some position := h
  simp only [openActiveResult, hopened]
  split
  · exact ⟨_, rfl⟩
  · exact ⟨_, rfl⟩

end App

namespace Stage

variable {ε : Type} [Input ε] {st : Stage ε} {line : Nat}

omit [Input ε] in
/-- Where nothing is sought, there are no results. -/
theorem results_of_no_term (h : st.Mirrored)
    (ht : Session.Tuned st.app.session.query st.app.session.search)
    (hterm : st.app.session.search.term = "") : st.app.view.results = {} := by
  have hindex := h.inStep.tracked.tracks.coherent.index_of_no_term hterm
  rw [h.shown.results]
  exact Search.resultsOf_nothing hindex (ht.points.cursor_of_empty hindex) _ _

/-- A jump to a line waits for its frame, and the line is in one of the rows. -/
structure Awaits (st : Stage ε) (line : Nat) : Prop where
  mirrored : st.Mirrored
  paged : st.app.face.Paged
  mode : st.app.session.viewport.mode = .jumping line .paused
  shows : st.app.session.viewport.ShowsLine line

/-- It still waits when a frame shows as many rows as before, or more. -/
theorem Awaits.draw (h : st.Awaits line) {now width height : Nat}
    (htaller : st.app.pageSize ≤ (st.app.draw now width height).2.pageSize) :
    (st.act (.draw now width height)).Awaits line := by
  have hpaged := act_paged h.mirrored h.paged (.draw now width height)
  suffices hshows : (st.act (.draw now width height)).app.session.viewport.mode =
      .jumping line .paused ∧
      (st.act (.draw now width height)).app.session.viewport.ShowsLine line from
    ⟨act_mirrored h.mirrored _, hpaged, hshows.1, hshows.2⟩
  have hheight := hpaged.height
  simp only [act] at hheight ⊢
  rcases st.app.draw_viewport now width height with hkept | ⟨rows, hrows⟩
  · rw [hkept]
    exact ⟨h.mode, h.shows⟩
  · have hrest : st.app.session.viewport.mode ≠ .tailing := by rw [h.mode]; simp
    have hmore : st.app.session.viewport.height ≤ max rows 1 := by
      rw [← Viewport.setHeight_height, ← hrows]
      exact (h.paged.height.trans_le htaller).trans_eq hheight.symm
    rw [hrows]
    exact ⟨(Viewport.setHeight_mode ..).trans h.mode, h.shows.setHeight hrest hmore⟩

/-- When the frame has been drawn, the reader has paused with the line in view. -/
theorem Awaits.afterDraw (h : st.Awaits line) (now : Nat) :
    let a := st.app.afterDraw now
    a.session.viewport.mode = .paused ∧ (a.view.snapshot.line? line).isSome = true ∧
    (a.view.visible a.pageSize).1 ≤ line ∧ line < (a.view.visible a.pageSize).2 := by
  intro a
  have hviewport : a.session.viewport = { st.app.session.viewport with mode := .paused } :=
    congrArg Prod.fst (Viewport.finishJump_of_jumping h.mode st.app.session.snapshot)
  have hshown : a.session.viewport.ShownOn a.session.snapshot a.view :=
    (act_mirrored h.mirrored (.afterDraw now)).shown.place
  have hheight : a.session.viewport.height = a.pageSize :=
    (act_paged h.mirrored h.paged (.afterDraw now)).height
  have hshows : a.session.viewport.ShowsLine line := by
    rw [hviewport]
    exact ⟨h.shows.retained, h.shows.top, h.shows.bottom⟩
  refine ⟨by rw [hviewport], ?_⟩
  rw [← hheight]
  exact hshows.visible hshown

/-! ## The result that is opened -/

/-- What every row of acts keeps. -/
structure Reached (st : Stage ε) : Prop where
  mirrored : st.Mirrored
  tuned : Session.Tuned st.app.session.query st.app.session.search
  paged : st.app.face.Paged
  retains : st.ensemble.Retains

theorem reached_run (settings : Settings) (source : Source) (sources : List Source)
    (acts : List Act) : ((new ε settings source sources).run acts).Reached := by
  obtain ⟨steps, hsteps⟩ := run_steps ε settings source sources acts
  have htuned := Ensemble.tuned_run settings source steps
  have hretains := Ensemble.retains_run settings source steps
  rw [← hsteps] at htuned hretains
  exact {
    mirrored := run_mirrored acts (mirrored_new settings source sources)
    tuned := htuned
    paged := run_paged settings source sources acts
    retains := hretains }

/-- The results that the view shows picture the search as it is now. -/
theorem Reached.pictures (h : st.Reached) : st.app.view.results.Pictures st.app.session.search
    st.app.session.snapshot st.app.session.windowOptions := by
  rw [h.mirrored.shown.results]
  exact Search.resultsOf_pictures (fun _ hentry => h.retains.line?_isSome hentry) _
    h.tuned.points

/-- A result that is opened ends the search. -/
theorem Reached.openResult_tuned (h : st.Reached) {position : Nat}
    (hline : st.app.session.search.index.lineAt? position = some line) :
    Session.Tuned (st.app.session.openResult position).1.query
      (st.app.session.openResult position).1.search ∧
    (st.app.session.openResult position).1.query.raw = "" := by
  have hseeks := st.app.session.openResult_seeks position
  have htypes : (st.app.session.search.select position).1 = some line :=
    (st.app.session.search.select_fst position).trans hline
  rw [htypes] at hseeks
  exact ⟨hseeks.tuned h.tuned, hseeks.raw⟩

/-- The result that is opened has a line that the jump can show. -/
theorem Reached.opened_awaits (h : st.Reached) {position : Nat}
    (hopened : st.app.face.opened? = some position)
    (hline : st.app.session.search.index.lineAt? position = some line) (now : Nat) :
    Awaits { st with app := st.app.openActiveResult now } line := by
  have htouches := st.app.openActiveResult_touches now
  have hretained : (st.app.session.snapshot.line? line).isSome = true := by
    obtain ⟨entry, hentry, hsame⟩ := Search.MatchIndex.mem_of_lineAt? hline
    exact hsame ▸ h.retains.line?_isSome hentry
  have hheight : 0 < st.app.session.viewport.height := h.paged.height ▸ h.paged.rows
  have hviewport : (st.app.openActiveResult now).session.viewport =
      (st.app.session.viewport.jumpToLine line true st.app.session.snapshot).1 := by
    obtain ⟨message, hb⟩ := App.openActiveResult_eq hopened now
    rw [hb]
    exact Session.openResult_viewport hline
  refine ⟨h.mirrored.leads htouches.leads, Face.acted_paged h.paged (.touches htouches), ?_, ?_⟩
  · exact hviewport ▸ Viewport.jumpToLine_mode ..
  · exact hviewport ▸ Viewport.jumpToLine_showsLine hheight hretained true

variable (ε) in
/-- **Opening a result works from every state.** Wherever the view shows a card, opening the active
result jumps to the line of the active match, or of the first card if none is active, and that is
the line that the session's index has at the position the view tells. Then the search, the query and
the input are empty, no results are shown, the log has the focus, and the line is marked. After the
next frame, if it shows as many rows or more, the reader has paused with that line in view. -/
theorem opening_shows_result (settings : Settings) (source : Source) (sources : List Source)
    (acts : List Act) (now : Nat) {card : Search.ResultCard}
    (hcard : ((new ε settings source sources).run acts).app.view.results.cards.head? = some card) :
    let a := ((new ε settings source sources).run acts).app
    let line := a.session.search.activeLine?.getD card.line
    let b := a.openActiveResult now
    a.session.search.index.lineOrder[a.view.results.active.getD card.position]? = some line ∧
    b.session.viewport.mode = .jumping line .paused ∧
    b.session.search.term = "" ∧ b.session.query.raw = "" ∧ b.queryText = "" ∧
    b.session.search.status = .idle ∧ b.view.results = {} ∧ b.focus = .log ∧
    b.view.flash = some (line, now + a.view.flashTime) ∧
    ∀ c later, (c = b ∨ ∃ width height, c = (b.draw later width height).2 ∧
        b.pageSize ≤ c.pageSize) →
      let d := c.afterDraw later
      d.session.viewport.mode = .paused ∧ (d.view.snapshot.line? line).isSome = true ∧
      (d.view.visible d.pageSize).1 ≤ line ∧ line < (d.view.visible d.pageSize).2 := by
  have h : ((new ε settings source sources).run acts).Reached :=
    reached_run settings source sources acts
  generalize (new ε settings source sources).run acts = st at h hcard
  intro a line b
  have hline : a.session.search.index.lineAt? (a.view.results.active.getD card.position) =
      some line := h.pictures.opened h.tuned.points hcard
  have hopened : a.face.opened? = some (a.view.results.active.getD card.position) := by
    simp only [Face.opened?, App.face, a, hcard]
    cases st.app.view.results.active <;> rfl
  have hawaits : Awaits { st with app := b } line := h.opened_awaits hopened hline now
  obtain ⟨message, hb⟩ := App.openActiveResult_eq hopened now
  have htext : b.queryText = "" := by
    rw [show b = _ from hb]
    exact Input.text_empty
  obtain ⟨htuned, hraw⟩ : Session.Tuned b.session.query b.session.search ∧
      b.session.query.raw = "" := by
    rw [show b = _ from hb]
    exact h.openResult_tuned hline
  obtain ⟨hterm, hstatus⟩ := idle_of_empty hawaits.mirrored htuned hraw
  refine ⟨?_, hawaits.mode, hterm, hraw, htext, hstatus,
    results_of_no_term hawaits.mirrored htuned hterm, ?_, ?_, fun c later hc => ?_⟩
  · rw [← Array.getElem?_toList, ← Search.MatchIndex.lineAt?_eq, hline]
  · rw [show b = _ from hb]
  · rw [show b = _ from hb]
    exact Session.openResult_flash hline a.view now
  · rcases hc with rfl | ⟨width, height, rfl, htaller⟩
    · exact hawaits.afterDraw later
    · exact (hawaits.draw htaller).afterDraw later

/-- The reader types a term that is on the second of two lines, and Enter; then the scan runs and is
heard of. -/
def foundSecond : List Act :=
  let typed := [KeyCode.char '/', .char 'b', .enter].map fun code =>
    Act.key 0 (fun _ => .ok ()) { code := code }
  .fetched 0 ⟨0, .ok "ok\nbad"⟩ :: typed ++ [.begin 0, .advance 0, .deliver 0 0]

/-- No match is active yet, and the first card is opened. -/
theorem opening_shows_result_second :
    let a := ((new Query.Editor {} (.file "app.log") []).run foundSecond).app
    let b := a.openActiveResult 0
    a.view.results.cards.head?.map (·.line) = some 1 ∧ a.session.search.activeLine? = none ∧
    b.session.viewport.mode = .jumping 1 .paused ∧ b.session.search.term = "" ∧
    ((b.afterDraw 0).view.snapshot.line? 1).isSome = true := by
  have hfirst : ((new Query.Editor {} (.file "app.log") []).run
      foundSecond).app.view.results.cards.head?.map (·.line) = some 1 := by decide +kernel
  have hnone : ((new Query.Editor {} (.file "app.log") []).run
      foundSecond).app.session.search.activeLine? = none := by decide +kernel
  obtain ⟨card, hcard, hline⟩ := Option.map_eq_some_iff.1 hfirst
  obtain ⟨-, hmode, hterm, -, -, -, -, -, -, hdrawn⟩ :=
    opening_shows_result Query.Editor {} (.file "app.log") [] foundSecond 0 hcard
  obtain ⟨-, hshown, -⟩ := hdrawn _ 0 (Or.inl rfl)
  simp only [hnone, Option.getD_none, hline] at hmode hshown
  exact ⟨hfirst, hnone, hmode, hterm, hshown⟩

end Stage

end LogTail
