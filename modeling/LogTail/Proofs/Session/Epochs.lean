import LogTail.Proofs.Search.Live
import LogTail.Proofs.Session.Moves

/-!
# Reports in time

Reports are heard late and in any order. In every run a report is taken in only if its scan was
for the term and the generation of the moment, and a search is never left without a scan that it
waits for, nor with two. `Tracked` is the invariant of both, kept by every step.
-/

namespace LogTail

open Log (Buffer Snapshot)
open Search (LiveSearch Scan ScanReport)
open Search.LiveSearch

namespace Session.Moves

/-! ## Calls -/

variable {s t : Session} {asked : Option Scan}

/-- Whatever a call does to the search is a row of turns. -/
theorem turns (h : Moves s t asked) (hg : s.search.generation = s.snapshot.generation)
    (scans : List Scan) :
    Turns t.snapshot (s.search, scans) (t.search, scans ++ asked.toList) := by
  cases h with
  | rests cursor buffer search =>
    rw [search, Option.toList_none, List.append_nil]
    exact .single (.points _ _ cursor)
  | takes text changed buffer search =>
    have hfollows := follow_turns t.snapshot s.search scans
    rwa [search] at hfollows
  | switches buffer search =>
    rw [search, Option.toList_none, List.append_nil]
    exact enterGeneration_turns _ _ _
  | commits term buffer search =>
    have hcommits := commit_turns hg term scans
    rw [search] at hcommits
    rwa [snapshot, buffer]
  | clears cursor buffer search =>
    rw [search, Option.toList_none, List.append_nil, snapshot, buffer]
    exact .head (.points _ _ cursor)
      (clear_turns (s := { s.search with cursor := cursor }) hg scans)

theorem generation (h : Moves s t asked) (hg : s.search.generation = s.snapshot.generation) :
    t.search.generation = t.snapshot.generation := by
  cases h with
  | rests cursor buffer search => rw [search, snapshot, buffer]; exact hg
  | takes text changed buffer search =>
    have hfollows := follow_generation t.snapshot s.search
    rwa [search] at hfollows
  | switches buffer search => rw [search, enterGeneration_generation]
  | commits term buffer search =>
    have hcommits := commit_generation s.search term s.snapshot
    rw [search] at hcommits
    rw [hcommits, snapshot, buffer]
    exact hg
  | clears cursor buffer search => rw [search, clear_generation, snapshot, buffer]; exact hg

theorem upToDate (h : Moves s t asked) (hg : s.search.generation = s.snapshot.generation)
    {scans : List Scan} (htracks : Tracks t.snapshot (s.search, scans))
    (hupToDate : UpToDate s.snapshot s.search) : UpToDate t.snapshot t.search := by
  cases h with
  | rests cursor buffer search => rw [search, snapshot, buffer]; exact hupToDate
  | takes text changed buffer search =>
    have hfollows := follow_upToDate htracks
    rwa [search] at hfollows
  | switches buffer search =>
    rw [search]
    refine enterGeneration_upToDate ?_ ?_
    · rw [snapshot, buffer]; rfl
    · rw [snapshot, buffer, hg]; exact Nat.succ_ne_self _
  | commits term buffer search =>
    have hcommits := commit_upToDate hupToDate term
    rw [search] at hcommits
    rwa [snapshot, buffer]
  | clears cursor buffer search =>
    rw [search, snapshot, buffer]
    exact clear_upToDate hupToDate

end Session.Moves

namespace Ensemble

/-! ## Steps -/

/-- The search keeps up with the buffer, and the scans with the search. -/
structure Tracked (e : Ensemble) : Prop where
  sound : e.Sound
  tracks : Tracks e.session.snapshot (e.session.search, e.scans)
  generation : e.session.search.generation = e.session.snapshot.generation
  upToDate : UpToDate e.session.snapshot e.session.search

theorem tracked_new (settings : Settings) (source : Source) : (new settings source).Tracked where
  sound := sound_new settings source
  tracks := Search.LiveSearch.tracks_idle _ _
  generation := rfl
  upToDate hterm := absurd rfl hterm

theorem tracked_step {e : Ensemble} (h : e.Tracked) (st : Step) : (e.step st).1.Tracked := by
  have hsound := sound_step h.sound st
  have hmoves := step_moves h.sound st
  generalize (e.step st).1 = f at hsound hmoves
  cases hmoves with
  | calls moves scans =>
    have htracks := h.tracks.later moves.latest
    exact ⟨hsound, ((moves.turns h.generation e.scans).tracks htracks).perm scans,
      moves.generation h.generation, moves.upToDate h.generation htracks h.upToDate⟩
  | loses scan stale session scans =>
    have htracks := (h.tracks.perm scans.symm).lose stale
    rw [← session] at htracks
    refine ⟨hsound, htracks, ?_, ?_⟩
    · rw [session]; exact h.generation
    · rw [session]; exact h.upToDate
  | hears scan rest current buffer search before scans =>
    have hlatest : f.session.snapshot = e.session.snapshot := congrArg (·.snapshot) buffer
    have haccepted := (h.tracks.perm before.symm).accept current
    have hfollows := (follow_turns e.session.snapshot _ rest).tracks haccepted
    have hupToDate := follow_upToDate haccepted
    have hgeneration := follow_generation e.session.snapshot
      (e.session.search.accept scan.answer).2
    rw [search, ← hlatest] at hfollows hupToDate hgeneration
    exact ⟨hsound, hfollows.perm scans, hgeneration, hupToDate⟩

/-- The invariant holds after every run. -/
theorem tracked_run (settings : Settings) (source : Source) (steps : List Step) :
    ((new settings source).run steps).Tracked :=
  run_induction (tracked_new settings source) (fun _ st h => tracked_step h st) steps

/-- An invariant of searches is kept by a step if it holds under the text that the step brings. -/
theorem step_invariant {P : Snapshot → LiveSearch × List Scan → Prop} (hP : Invariant P)
    {e : Ensemble} (h : e.Tracked) (st : Step)
    (hlater : P (e.step st).1.session.snapshot (e.session.search, e.scans)) :
    P (e.step st).1.session.snapshot ((e.step st).1.session.search, (e.step st).1.scans) := by
  have hmoves := step_moves h.sound st
  generalize (e.step st).1 = f at hlater hmoves
  cases hmoves with
  | calls moves scans =>
    have htracks := h.tracks.later moves.latest
    exact hP.perm (hP.turns (moves.turns h.generation e.scans) htracks hlater) scans
  | loses scan stale session scans =>
    rw [session] at hlater ⊢
    exact hP.lose (hP.perm hlater scans.symm) stale
  | hears scan rest current buffer search before scans =>
    rw [show f.session.snapshot = e.session.snapshot from congrArg (·.snapshot) buffer]
      at hlater ⊢
    have htracks := h.tracks.perm before.symm
    have haccepted := hP.accept (hP.perm hlater before.symm) htracks h.generation current
    have hfollows := hP.turns (follow_turns e.session.snapshot _ rest) (htracks.accept current)
      haccepted
    rw [search] at hfollows
    exact hP.perm hfollows scans

/-- A report that is taken in makes the search ready with the snapshot of its scan. -/
theorem handle_scanned_ready {s : Session} {report : ScanReport}
    (hepoch : report.epoch = s.search.epoch)
    (hgeneration : s.search.generation = s.snapshot.generation) :
    (s.handle (.scanned report)).1.search.term = s.search.term ∧
    (s.handle (.scanned report)).1.search.status = .ready ∧
    (s.handle (.scanned report)).1.search.scanned = some report.snapshot := by
  obtain ⟨hsearch, -⟩ := Session.handle_scanned_current hepoch
  obtain ⟨cursor, haccept⟩ := s.search.accept_eq hepoch
  rw [haccept] at hsearch
  rw [hsearch]
  exact follow_ready hgeneration rfl rfl

/-! ## What every run shows -/

/-- **No stale results.** Whatever the order in which scans get on and are heard of, a report that
is taken in is the answer of a scan for the term that is committed now, over a snapshot of the
buffer's generation. The report of any other scan changes nothing and says nothing. -/
theorem handle_scanned_in_time (settings : Settings) (source : Source) (steps : List Step)
    (scan : Scan) (report : ScanReport)
    (h : (scan, report) ∈ ((new settings source).run steps).finished) :
    let s := ((new settings source).run steps).session
    let t := s.handle (.scanned report)
    (scan.epoch = s.search.epoch ∧ report = scan.answer ∧
      scan.term = s.search.term ∧ scan.snapshot.generation = s.snapshot.generation ∧
      t.1.search.term = s.search.term ∧ t.1.search.status = .ready ∧
      t.1.search.scanned = some scan.snapshot) ∨
    (scan.epoch ≠ s.search.epoch ∧ t = (s, [])) := by
  have htracked := tracked_run settings source steps
  generalize (new settings source).run steps = e at h htracked
  intro s t
  have hreport : report = scan.answer := htracked.sound.finished _ h
  subst hreport
  by_cases hepoch : scan.epoch = s.search.epoch
  · have hmem : scan ∈ e.scans :=
      List.mem_append_right _ (List.mem_map_of_mem (f := Prod.fst) h)
    obtain ⟨hterm, hgeneration⟩ := htracked.tracks.current scan hmem hepoch
    exact Or.inl ⟨hepoch, rfl, hterm, hgeneration.trans htracked.generation,
      handle_scanned_ready hepoch htracked.generation⟩
  · exact Or.inr ⟨hepoch, Session.handle_scanned_stale hepoch⟩

/-- Two terms are sought one after the other, and both scans are at their end before either is
heard of. -/
def soughtTwice : List Step := [
  .call (.fetched ⟨0, .ok "alpha\nbeta\n"⟩), .call (.editQuery "al" 0), .call (.tick 1000),
  .begin 0, .advance 0, .call (.editQuery "be" 2000), .call (.tick 3000), .begin 0, .advance 0]

/-- The first of two reports is turned away, the second is taken in. -/
theorem handle_scanned_in_time_twice :
    let e := (new {} (.file "log")).run soughtTwice
    ∃ first second, e.finished = [first, second] ∧
      e.session.handle (.scanned first.2) = (e.session, []) ∧
      (e.session.handle (.scanned second.2)).1.search.scanned = some second.1.snapshot := by
  have hlength : ((new {} (.file "log")).run soughtTwice).finished.length = 2 := by
    decide +kernel
  have hepochs : ((new {} (.file "log")).run soughtTwice).finished.map (·.1.epoch) = [1, 2] := by
    decide +kernel
  have hnow : ((new {} (.file "log")).run soughtTwice).session.search.epoch = 2 := by
    decide +kernel
  have hheard := handle_scanned_in_time {} (.file "log") soughtTwice
  generalize (new {} (.file "log")).run soughtTwice = e at hlength hepochs hnow hheard
  obtain ⟨first, second, hfinished⟩ := List.length_eq_two.1 hlength
  simp only [hfinished, List.map_cons, List.map_nil, List.cons.injEq, and_true] at hepochs hheard
  refine ⟨first, second, hfinished, ?_, ?_⟩
  · rcases hheard first.1 first.2 (List.mem_cons_self ..) with ⟨hepoch, -⟩ | ⟨-, hsame⟩
    · rw [hepochs.1, hnow] at hepoch
      cases hepoch
    · exact hsame
  · rcases hheard second.1 second.2 (List.mem_cons_of_mem _ (List.mem_cons_self ..)) with
      ⟨-, -, -, -, -, -, hscanned⟩ | ⟨hepoch, -⟩
    · exact hscanned
    · exact absurd (hepochs.2.trans hnow.symm) hepoch

/-- **No lost rescan and no duplicate scan.** In every run one scan of the current epoch is
outstanding if the search says that it waits for one, and none otherwise. A search that waits for
nothing has looked at the latest text, unless no line has come since the source was switched. -/
theorem outstanding_run (settings : Settings) (source : Source) (steps : List Step) :
    let e := (new settings source).run steps
    let s := e.session.search
    s.outstanding e.scans = (if s.inFlight.isSome then 1 else 0) ∧
    (s.status = .scanning → s.outstanding e.scans = 1) ∧
    (s.term ≠ "" → s.outstanding e.scans = 0 →
      s.status = .ready ∧ s.scanned = some e.session.snapshot ∨
      s.status = .idle ∧ e.session.snapshot.lineCount = 0) := by
  have htracked := tracked_run settings source steps
  generalize (new settings source).run steps = e at htracked
  intro e' s
  have hcount : s.outstanding e.scans = if s.inFlight.isSome then 1 else 0 :=
    htracked.tracks.outstanding
  refine ⟨hcount, fun hscanning => ?_, fun hterm hnone => ?_⟩
  · cases htracked.tracks.coherent with
    | idle status => rw [show s.status = _ from status] at hscanning; cases hscanning
    | scanning _ _ inFlight => rw [hcount, show s.inFlight = _ from inFlight]; rfl
    | ready status => rw [show s.status = _ from status] at hscanning; cases hscanning
  · refine htracked.upToDate hterm ?_
    rw [hcount] at hnone
    split at hnone
    · cases hnone
    · rename_i hidle
      simpa using hidle

end Ensemble

end LogTail
