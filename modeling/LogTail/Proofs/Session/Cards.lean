import LogTail.Proofs.Search.Cards
import LogTail.Proofs.Session.Query
import LogTail.Proofs.Session.Retained
import LogTail.Proofs.Session.Screen

/-!
# The cards of a session

Whoever shows the results takes the card at the cursor's place in the window for the active one.
That place has a card because every match is on a line that the buffer still has
(`Ensemble.retains_run`), whatever came in between the text and the report of its scan.
-/

namespace LogTail

open Display (Command)
open Search (Results)

/-- The viewport says nothing of the search. -/
theorem Viewport.Tells.not_mem_results {v w : Viewport} {old latest : Log.Snapshot}
    {place : List Command} (h : Viewport.Tells old v latest w place) (results : Results) :
    .results results ∉ place := by
  cases h <;> simp [badge]

namespace Session

/-- Whatever results are told, they are what there is to show. -/
theorem Tells.results {s : Session} {r : Session × List Command} (h : Tells s r)
    {results : Results} (hresults : .results results ∈ r.2) :
    results = Search.resultsOf r.1.search r.1.snapshot r.1.windowOptions := by
  obtain ⟨place, hplace, hcompletes⟩ := h.tells
  have hnone := hplace.not_mem_results results
  generalize r.2 = cmds at hcompletes hresults
  cases hcompletes with
  | placeOnly same => exact absurd hresults hnone
  | placeAndSearch =>
    simp only [List.mem_append, hnone, List.mem_cons, Command.results.injEq, reduceCtorEq,
      List.not_mem_nil, or_false, false_or] at hresults
    exact hresults

theorem call_settings (s : Session) (c : Call) : (s.call c).1.settings = s.settings := by
  cases c with
  | start =>
    simp only [call, start]
    cases s.source.fault? <;> rfl
  | switchSource source =>
    cases hfault : source.fault? with
    | some fault => simp only [call, s.switchSource_of_fault hfault]
    | none =>
      simp only [call, s.switchSource_of_none hfault]
      rfl
  | fetched report =>
    change (s.onFetched report).1.settings = _
    rcases s.onFetched_cases report with ⟨tally, h, -⟩ | ⟨text, tally, segments, -, -, -, h⟩ <;>
      rw [h]
  | tick now =>
    simp only [call, tick]
    split
    · rfl
    · simp only [commitTerm, withSearch_eq, searchCommands_fst]
      split <;> rfl
  | editQuery raw now =>
    simp only [call, editQuery]
    split <;> rfl
  | navigate direction =>
    simp only [call, navigate]
    split <;> rfl
  | openResult position =>
    simp only [call, openResult]
    split <;> rfl
  | segmentsForLine snapshot line =>
    simp only [call, segmentsForLine]
    split <;> rfl
  | _ => rfl

end Session

namespace Ensemble

theorem step_settings (e : Ensemble) (st : Step) :
    (e.step st).1.session.settings = e.session.settings := by
  cases st with
  | call c => exact e.session.call_settings c
  | begin i =>
    simp only [step, begin]
    split <;> rfl
  | advance i =>
    simp only [step, advance]
    split
    · rfl
    · split <;> rfl
  | deliver i =>
    simp only [step, deliver, Session.handle, Session.onScanned]
    split
    · rfl
    · split
      · rfl
      · simp only [Session.withSearch_eq, Session.searchCommands_fst]

/-- The size of the window and of the snippets is that of the settings. -/
theorem windowOptions_run (settings : Settings) (source : Source) (steps : List Step) :
    ((new settings source).run steps).session.windowOptions =
      ⟨settings.resultWindow, settings.snippetContext⟩ := by
  have hsettings : ((new settings source).run steps).session.settings = settings :=
    run_induction (P := fun e => e.session.settings = settings) rfl
      (fun e st h => (e.step_settings st).trans h) steps
  rw [Session.windowOptions, hsettings]

/-- **Result cards match the window one to one.** In every run, whatever the settings, the results
that the screen would be told now, and any that a step tells, picture the matched lines: there is a
card for each position of the window, in order, the one at the cursor is the active one, and each
shows the retained lines around its match. -/
theorem cards_match_window (settings : Settings) (source : Source) (steps : List Step) :
    let e := (new settings source).run steps
    let options : Search.WindowOptions := ⟨settings.resultWindow, settings.snippetContext⟩
    (∃ r status, e.session.searchCommands.2 = [.results r, .status status] ∧
      r.Pictures e.session.search e.session.snapshot options) ∧
    ∀ st r, .results r ∈ (e.step st).2 →
      let t := (e.step st).1.session
      r.Pictures t.search t.snapshot options := by
  intro e options
  have hpictures : ∀ steps : List Step, let s := ((new settings source).run steps).session
      (Search.resultsOf s.search s.snapshot s.windowOptions).Pictures s.search s.snapshot
        options := by
    intro steps s
    rw [windowOptions_run]
    have hretains := retains_run settings source steps
    exact Search.resultsOf_pictures (fun entry hentry => hretains.line?_isSome hentry) _
      (tuned_run settings source steps).points
  have hinstep := inStep_run settings source steps
  refine ⟨⟨_, e.session.search.status, ?_, hpictures steps⟩, fun st r hr => ?_⟩
  · rw [← (Search.buildResults_eq e.session.search e.session.snapshot e.session.windowOptions
      hinstep.segments).1]
    rfl
  · have hnext := hpictures (steps ++ [st])
    rw [run_append] at hnext
    rw [(step_tells hinstep st).results hr]
    exact hnext

end Ensemble

end LogTail
