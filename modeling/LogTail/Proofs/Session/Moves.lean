import LogTail.Proofs.Log.Buffer
import LogTail.Proofs.Search.Scan
import LogTail.Proofs.Session.Interleaving
import Mathlib.Data.List.Perm.Basic

/-!
# What a step does to the search

`Session.Moves` lists all that a call can do to the buffer and the search, with the scan that it
asks for, and `Ensemble.Moves` all that a step can do to them and to the scans not yet heard of.
Whatever is claimed of the search in every run is proved from `step_moves` and from the laws of
the search; no other proof opens the operations of the session for it.

A finished scan waits with its own answer (`Ensemble.Sound`), so a report tells of its scan.
-/

namespace LogTail

open Display (Command)
open Log (Buffer Snapshot)
open Search (LiveSearch RunningScan Scan ScanReport)

namespace Search.LiveSearch

theorem navigate_snd (s : LiveSearch) (direction : Direction) :
    ∃ cursor, (s.navigate direction).2 = { s with cursor := cursor } := by
  unfold navigate
  split
  · exact ⟨s.cursor, rfl⟩
  · exact ⟨_, rfl⟩

theorem select_snd (s : LiveSearch) (position : Nat) :
    ∃ cursor, (s.select position).2 = { s with cursor := cursor } := by
  unfold select
  split
  · exact ⟨s.cursor, rfl⟩
  · exact ⟨_, rfl⟩

end Search.LiveSearch

namespace Session

/-! ## The state after an operation -/

theorem searchCommands_fst (s : Session) : s.searchCommands.1 = { s with
    segments := (Search.buildResults s.search s.snapshot s.windowOptions s.segments).2 } := rfl

theorem thenSearchCommands_fst (p : Session × List Command) :
    (thenSearchCommands p).1 = p.1.searchCommands.1 := rfl

theorem withSearch_eq (s : Session) (p : LiveSearch × Option Scan) : s.withSearch p = { s with
    search := p.1, work := s.work ++ (p.2.map Work.scan).toList } := by
  obtain ⟨search, scan⟩ := p
  cases scan <;> simp [withSearch, handOut]

@[simp] theorem withSearch_buffer (s : Session) (p : LiveSearch × Option Scan) :
    (s.withSearch p).buffer = s.buffer := by rw [withSearch_eq]

@[simp] theorem withSearch_viewport (s : Session) (p : LiveSearch × Option Scan) :
    (s.withSearch p).viewport = s.viewport := by rw [withSearch_eq]

/-- A source that cannot be fetched from is refused before anything is given up. -/
theorem showSource_of_fault {source : Source} {fault : FetchError} (s : Session)
    (h : source.fault? = some fault) : s.showSource source = (.error fault, s) := by
  simp only [showSource, h]

/-- A source that has been checked is not refused when it is polled. -/
theorem showSource_of_none {source : Source} (s : Session) (h : source.fault? = none) :
    s.showSource source = (.ok (s.changeSource source).2,
      { (s.changeSource source).1 with poller := some ⟨source, s.seq + 1, false⟩ }) := by
  have hsource : (s.changeSource source).1.source = source := rfl
  have hseq : (s.changeSource source).1.seq = s.seq + 1 := rfl
  simp only [showSource, h, start, hsource, hseq]

theorem switchSource_of_fault {source : Source} {fault : FetchError} (s : Session)
    (h : source.fault? = some fault) : s.switchSource source = .error fault := by
  simp only [switchSource, showSource_of_fault s h]

theorem switchSource_of_none {source : Source} (s : Session) (h : source.fault? = none) :
    s.switchSource source = .ok
      ({ (s.changeSource source).1 with poller := some ⟨source, s.seq + 1, false⟩ },
        (s.changeSource source).2) := by
  simp only [switchSource, showSource_of_none s h]

/-- A switch is refused, or it begins a new generation for the buffer, the search and the viewport
alike. -/
theorem switchSource_cases (s : Session) (source : Source) :
    (∃ fault, source.fault? = some fault ∧ s.switchSource source = .error fault) ∨
    (source.fault? = none ∧ ∃ r, s.switchSource source = .ok r ∧
      r.1.buffer = s.buffer.reset ∧ r.1.work = s.work ∧
      r.1.search = s.search.enterGeneration s.buffer.reset.snapshot.generation ∧
      r.1.viewport = (s.viewport.restart s.buffer.reset.snapshot).1) := by
  cases hf : source.fault? with
  | some fault => exact Or.inl ⟨fault, rfl, s.switchSource_of_fault hf⟩
  | none => exact Or.inr ⟨rfl, _, s.switchSource_of_none hf, rfl, rfl, rfl, rfl⟩

/-- A text that changes nothing is passed over; the viewport and the search take notice of any
other. -/
theorem applyText_fst (s : Session) (text : String) :
    (s.buffer.apply text).1 = .unchanged ∧ (s.applyText text).1 = s ∨
    (s.buffer.apply text).1 ≠ .unchanged ∧ ∃ segments, (s.applyText text).1 =
      { s with
        buffer := (s.buffer.apply text).2
        viewport := (s.viewport.update (s.buffer.apply text).2.snapshot).1
        search := (s.search.follow (s.buffer.apply text).2.snapshot).1
        work := s.work ++
          ((s.search.follow (s.buffer.apply text).2.snapshot).2.map Work.scan).toList
        segments := segments } := by
  unfold applyText
  obtain ⟨update, buffer⟩ := s.buffer.apply text
  cases update with
  | unchanged => exact Or.inl ⟨rfl, rfl⟩
  | appended previous =>
    refine Or.inr ⟨by simp, ?_⟩
    simp only [withViewport, withSearch_eq, snapshot]
    split
    · exact ⟨_, rfl⟩
    · exact ⟨s.segments, rfl⟩
  | reset generation =>
    refine Or.inr ⟨by simp, ?_⟩
    simp only [withViewport, withSearch_eq, snapshot]
    split
    · exact ⟨_, rfl⟩
    · exact ⟨s.segments, rfl⟩

/-- A fetch changes nothing but the tally, unless it brings a text of the source that is shown and
the text changes the buffer. -/
theorem onFetched_cases (s : Session) (report : FetchReport) :
    (∃ tally, (s.onFetched report).1 = { s with tally := tally } ∧
      ∀ text, report.seq = s.seq → report.result = .ok text →
        (s.buffer.apply text).1 = .unchanged) ∨
    (∃ text tally segments, report.seq = s.seq ∧ report.result = .ok text ∧
      (s.buffer.apply text).1 ≠ .unchanged ∧ (s.onFetched report).1 =
        { s with
          tally := tally
          buffer := (s.buffer.apply text).2
          viewport := (s.viewport.update (s.buffer.apply text).2.snapshot).1
          search := (s.search.follow (s.buffer.apply text).2.snapshot).1
          work := s.work ++
            ((s.search.follow (s.buffer.apply text).2.snapshot).2.map Work.scan).toList
          segments := segments }) := by
  unfold onFetched
  by_cases hseq : report.seq = s.seq
  · cases hresult : report.result with
    | error fault =>
      simp only [hseq, ne_eq, not_true_eq_false, if_false]
      exact Or.inl ⟨_, rfl, by simp⟩
    | ok text =>
      simp only [hseq, ne_eq, not_true_eq_false, if_false]
      rcases applyText_fst { s with tally := s.tally.record (.ok text) } text with
        ⟨hu, h⟩ | ⟨hu, segments, h⟩
      · refine Or.inl ⟨_, h, fun other _ hother => ?_⟩
        cases hother
        exact hu
      · exact Or.inr ⟨text, _, segments, trivial, rfl, hu, h⟩
  · simp only [ne_eq, hseq, not_false_eq_true, if_true]
    exact Or.inl ⟨s.tally, rfl, fun _ h => absurd h (by simp)⟩

/-! ## Calls -/

/-- What a call can do to the buffer and the search, and the scan it asks for. -/
inductive Moves (s t : Session) : Option Scan → Prop where
  /-- At most another match is the active one. -/
  | rests (cursor : Option Nat) (buffer : t.buffer = s.buffer)
      (search : t.search = { s.search with cursor := cursor }) : Moves s t none
  /-- A text took the place of the last one. -/
  | takes {asked : Option Scan} (text : String) (changed : (s.buffer.apply text).1 ≠ .unchanged)
      (buffer : t.buffer = (s.buffer.apply text).2)
      (search : s.search.follow t.snapshot = (t.search, asked)) : Moves s t asked
  /-- Another source is shown. -/
  | switches (buffer : t.buffer = s.buffer.reset)
      (search : t.search = s.search.enterGeneration t.snapshot.generation) : Moves s t none
  | commits {asked : Option Scan} (term : String) (buffer : t.buffer = s.buffer)
      (search : s.search.commit term s.snapshot = (t.search, asked)) : Moves s t asked
  | clears (cursor : Option Nat) (buffer : t.buffer = s.buffer)
      (search : t.search = LiveSearch.clear { s.search with cursor := cursor }) : Moves s t none

theorem scans_append (s : Session) (asked : Option Scan) {t : Session}
    (h : t.work = s.work ++ (asked.map Work.scan).toList) : t.scans = s.scans ++ asked.toList := by
  cases asked <;> simp [scans, h, Work.scan?]

theorem moves_of_eq {s t : Session} (hb : t.buffer = s.buffer) (hs : t.search = s.search)
    (hw : t.scans = s.scans) : ∃ asked, Moves s t asked ∧ t.scans = s.scans ++ asked.toList :=
  ⟨none, .rests s.search.cursor hb hs, by simp [hw]⟩

theorem fetched_moves (s : Session) (report : FetchReport) : ∃ asked,
    Moves s (s.onFetched report).1 asked ∧
    (s.onFetched report).1.scans = s.scans ++ asked.toList := by
  rcases s.onFetched_cases report with ⟨tally, h, -⟩ | ⟨text, tally, segments, -, -, hu, h⟩
  · rw [h]
    exact moves_of_eq rfl rfl rfl
  · rw [h]
    exact ⟨_, .takes text hu rfl rfl, scans_append s _ rfl⟩

theorem tick_moves (s : Session) (now : Nat) : ∃ asked,
    Moves s (s.tick now).1 asked ∧ (s.tick now).1.scans = s.scans ++ asked.toList := by
  unfold tick
  split
  · exact moves_of_eq rfl rfl rfl
  · rename_i term query _
    refine ⟨(s.search.commit term s.snapshot).2, ?_⟩
    simp only [commitTerm, withSearch_eq, searchCommands_fst]
    split
    · exact ⟨.commits term rfl rfl, scans_append s _ rfl⟩
    · exact ⟨.commits term rfl rfl, scans_append s _ rfl⟩

theorem navigate_moves (s : Session) (direction : Search.Direction) : ∃ asked,
    Moves s (s.navigate direction).1 asked ∧
    (s.navigate direction).1.scans = s.scans ++ asked.toList := by
  obtain ⟨cursor, hcursor⟩ := s.search.navigate_snd direction
  unfold navigate
  split
  · rename_i h
    rw [h] at hcursor
    exact ⟨none, .rests cursor rfl hcursor, (List.append_nil _).symm⟩
  · rename_i h
    rw [h] at hcursor
    exact ⟨none, .rests cursor rfl hcursor, (List.append_nil _).symm⟩

theorem openResult_moves (s : Session) (position : Nat) : ∃ asked,
    Moves s (s.openResult position).1 asked ∧
    (s.openResult position).1.scans = s.scans ++ asked.toList := by
  obtain ⟨cursor, hcursor⟩ := s.search.select_snd position
  unfold openResult
  split
  · rename_i h
    rw [h] at hcursor
    exact ⟨none, .rests cursor rfl hcursor, (List.append_nil _).symm⟩
  · rename_i h
    rw [h] at hcursor
    simp only [withViewport, clearQuery, searchCommands_fst]
    exact ⟨none, .clears cursor rfl (congrArg LiveSearch.clear hcursor), (List.append_nil _).symm⟩

theorem call_moves (s : Session) (c : Call) : ∃ asked,
    Moves s (s.call c).1 asked ∧ (s.call c).1.scans = s.scans ++ asked.toList := by
  cases c with
  | start =>
    simp only [call, start]
    cases s.source.fault? with
    | none => exact moves_of_eq rfl rfl rfl
    | some fault => exact moves_of_eq rfl rfl rfl
  | switchSource source =>
    rcases s.switchSource_cases source with ⟨fault, -, h⟩ | ⟨-, r, h, hb, hw, hs, -⟩
    · simp only [call, h]
      exact moves_of_eq rfl rfl rfl
    · simp only [call, h]
      refine ⟨none, .switches hb ?_, by simp [scans, hw]⟩
      rw [snapshot, hb, hs]
  | fetched report => exact fetched_moves s report
  | exported result => exact moves_of_eq rfl rfl rfl
  | editQuery raw now =>
    simp only [call, editQuery]
    split
    · exact moves_of_eq rfl rfl rfl
    · exact ⟨none, .clears s.search.cursor rfl rfl, by simp [scans]; rfl⟩
  | tick now => exact tick_moves s now
  | clearQuery => exact ⟨none, .clears s.search.cursor rfl rfl, by simp [scans]; rfl⟩
  | navigate direction => exact navigate_moves s direction
  | openResult position => exact openResult_moves s position
  | scrollBy delta => exact moves_of_eq rfl rfl rfl
  | scrollToTop => exact moves_of_eq rfl rfl rfl
  | jumpToLatest => exact moves_of_eq rfl rfl rfl
  | finishFrame => exact moves_of_eq rfl rfl rfl
  | setHeight height => exact moves_of_eq rfl rfl rfl
  | setSelecting active => exact moves_of_eq rfl rfl rfl
  | segmentsForLine snapshot line =>
    simp only [call, segmentsForLine]
    split
    · exact moves_of_eq rfl rfl rfl
    · exact moves_of_eq rfl rfl rfl
  | exportLog => exact moves_of_eq rfl rfl (by simp [call, exportLog, handOut, scans, Work.scan?])

/-- The latest text stays or a newer one takes its place. -/
theorem Moves.latest {s t : Session} {asked : Option Scan} (h : Moves s t asked) :
    t.snapshot = s.snapshot ∨ s.snapshot.version < t.snapshot.version := by
  cases h with
  | rests cursor buffer search => exact Or.inl (congrArg (·.snapshot) buffer)
  | takes text changed buffer search =>
    rw [snapshot, snapshot, buffer, Buffer.apply_version changed]
    exact Or.inr (Nat.lt_succ_self _)
  | switches buffer search =>
    rw [snapshot, snapshot, buffer]
    exact Or.inr (Nat.lt_succ_self _)
  | commits term buffer search => exact Or.inl (congrArg (·.snapshot) buffer)
  | clears cursor buffer search => exact Or.inl (congrArg (·.snapshot) buffer)

/-- What the session hears of a scan that is over changes nothing. -/
theorem handle_scanned_stale {s : Session} {report : ScanReport}
    (h : report.epoch ≠ s.search.epoch) : s.handle (.scanned report) = (s, []) := by
  simp [handle, onScanned, LiveSearch.accept, h]

/-- The report of a scan of the current epoch is taken in, and the search looks at the text that
came meanwhile. -/
theorem handle_scanned_current {s : Session} {report : ScanReport}
    (h : report.epoch = s.search.epoch) :
    let r := (s.search.accept report).2.follow s.snapshot
    (s.handle (.scanned report)).1.search = r.1 ∧
    (s.handle (.scanned report)).1.scans = s.scans ++ r.2.toList := by
  have haccept : s.search.accept report = (true, (s.search.accept report).2) := by
    simp [LiveSearch.accept, h]
  simp only [handle, onScanned]
  rw [haccept]
  simp only [withSearch_eq, searchCommands_fst]
  exact ⟨trivial, scans_append s _ rfl⟩

/-- Scans change neither the buffer nor the viewport. -/
theorem handle_scanned_fst (s : Session) (report : ScanReport) :
    (s.handle (.scanned report)).1.buffer = s.buffer ∧
    (s.handle (.scanned report)).1.viewport = s.viewport := by
  change (s.onScanned report).1.buffer = _ ∧ (s.onScanned report).1.viewport = _
  unfold onScanned
  split
  · exact ⟨rfl, rfl⟩
  · simp [searchCommands_fst]

end Session

/-! ## Steps -/

namespace Ensemble

/-- Only calls change the buffer and the viewport. -/
theorem step_of_other (e : Ensemble) (st : Step) (hst : ∀ c, st ≠ .call c) :
    (e.step st).1.session.buffer = e.session.buffer ∧
    (e.step st).1.session.viewport = e.session.viewport := by
  cases st with
  | call c => exact absurd rfl (hst c)
  | begin i =>
    simp only [step, begin]
    split <;> exact ⟨rfl, rfl⟩
  | advance i =>
    simp only [step, advance]
    split
    · exact ⟨rfl, rfl⟩
    · split <;> exact ⟨rfl, rfl⟩
  | deliver i =>
    simp only [step, deliver]
    split
    · exact ⟨rfl, rfl⟩
    · exact e.session.handle_scanned_fst _

/-- Scans under way are on their way to their answer, and a finished one waits with it. -/
structure Sound (e : Ensemble) : Prop where
  running : ∀ r ∈ e.running, r.Sound
  finished : ∀ p ∈ e.finished, p.2 = p.1.answer

theorem sound_new (settings : Settings) (source : Source) : (new settings source).Sound :=
  ⟨by simp [new], by simp [new]⟩

theorem sound_step {e : Ensemble} (h : e.Sound) (st : Step) : (e.step st).1.Sound := by
  cases st with
  | call c => exact ⟨h.running, h.finished⟩
  | begin i =>
    simp only [step, begin]
    split
    · exact h
    · rename_i work _
      refine ⟨fun r hr => ?_, h.finished⟩
      rcases List.mem_append.1 hr with hr | hr
      · exact h.running r hr
      · cases hs : work.scan? with
        | none => simp [hs] at hr
        | some scan =>
          simp only [hs, Option.map_some, Option.toList_some, List.mem_singleton] at hr
          rw [hr]
          exact scan.start_sound
  | advance i =>
    simp only [step, advance]
    split
    · exact h
    · rename_i running hi
      have hrunning := h.running running (List.mem_of_getElem? hi)
      have herase : ∀ r ∈ e.running.eraseIdx i, r.Sound :=
        fun r hr => h.running r (List.mem_of_mem_eraseIdx hr)
      rcases RunningScan.step_cases e.session.search.epoch e.session.search.epoch hrunning with
        ⟨hs, -⟩ | ⟨-, next, hs, hnext, -⟩ | ⟨-, -, -, hs⟩
      · rw [hs]
        exact ⟨herase, h.finished⟩
      · rw [hs]
        refine ⟨fun r hr => ?_, h.finished⟩
        rcases List.mem_or_eq_of_mem_set hr with hr | rfl
        · exact h.running r hr
        · exact hnext
      · rw [hs]
        refine ⟨herase, fun p hp => ?_⟩
        rcases List.mem_append.1 hp with hp | hp
        · exact h.finished p hp
        · rw [List.mem_singleton.1 hp]
  | deliver i =>
    simp only [step, deliver]
    split
    · exact h
    · exact ⟨h.running, fun p hp => h.finished p (List.mem_of_mem_eraseIdx hp)⟩

/-- The latest text stays or a newer one takes its place. -/
theorem step_latest (e : Ensemble) (st : Step) :
    (e.step st).1.session.snapshot = e.session.snapshot ∨
      e.session.snapshot.version < (e.step st).1.session.snapshot.version := by
  by_cases hcall : ∃ c, st = .call c
  · obtain ⟨c, rfl⟩ := hcall
    obtain ⟨asked, hmoves, -⟩ := e.session.call_moves c
    exact hmoves.latest
  · exact Or.inl (congrArg (·.snapshot) (e.step_of_other st fun c hc => hcall ⟨c, hc⟩).1)

/-- What a step can do to the buffer, the search and the scans not yet heard of. -/
inductive Moves (e f : Ensemble) : Prop where
  | calls {asked : Option Scan} (moves : Session.Moves e.session f.session asked)
      (scans : f.scans.Perm (e.scans ++ asked.toList)) : Moves e f
  /-- A scan whose epoch is over gives up, or its report is turned away. -/
  | loses (scan : Scan) (stale : scan.epoch ≠ e.session.search.epoch)
      (session : f.session = e.session) (scans : e.scans.Perm (scan :: f.scans)) : Moves e f
  /-- The report of a scan is taken in. -/
  | hears {asked : Option Scan} (scan : Scan) (rest : List Scan)
      (current : scan.epoch = e.session.search.epoch) (buffer : f.session.buffer = e.session.buffer)
      (search : (e.session.search.accept scan.answer).2.follow e.session.snapshot =
        (f.session.search, asked))
      (before : e.scans.Perm (scan :: rest)) (scans : f.scans.Perm (rest ++ asked.toList)) :
      Moves e f

theorem moves_same {e f : Ensemble} (hb : f.session.buffer = e.session.buffer)
    (hs : f.session.search = e.session.search) (hp : f.scans.Perm e.scans) : Moves e f :=
  .calls (.rests e.session.search.cursor hb hs) (by simpa using hp)

theorem perm_eraseIdx {α : Type} {l : List α} {i : Nat} {a : α} (h : l[i]? = some a) :
    l.Perm (a :: l.eraseIdx i) := by
  obtain ⟨hi, rfl⟩ := List.getElem?_eq_some_iff.1 h
  exact (List.getElem_cons_eraseIdx_perm hi).symm

theorem begin_moves (e : Ensemble) (i : Nat) : Moves e (e.begin i) := by
  unfold begin
  split
  · exact moves_same rfl rfl (.refl _)
  · rename_i work hi
    refine moves_same rfl rfl ?_
    have hwork : e.session.scans.Perm
        (work.scan?.toList ++ (e.session.work.eraseIdx i).filterMap Work.scan?) := by
      have := (perm_eraseIdx hi).filterMap Work.scan?
      rw [List.filterMap_cons] at this
      cases hs : work.scan? <;> simpa [Session.scans, hs] using this
    have hrunning : (work.scan?.map Scan.start).toList.map (·.scan) = work.scan?.toList := by
      cases work.scan? <;> rfl
    simp only [scans, Session.scans, List.map_append, hrunning]
    refine .append_right _ ?_
    rw [← List.append_assoc]
    refine (List.perm_append_comm).trans ?_
    rw [← List.append_assoc]
    exact hwork.symm.append_right _

theorem advance_moves {e : Ensemble} (h : e.Sound) (i : Nat) : Moves e (e.advance i) := by
  unfold advance
  split
  · exact moves_same rfl rfl (.refl _)
  · rename_i running hi
    have hrunning : (e.running.map (·.scan)).Perm
        (running.scan :: (e.running.eraseIdx i).map (·.scan)) := (perm_eraseIdx hi).map _
    rcases RunningScan.step_cases e.session.search.epoch e.session.search.epoch
        (h.running running (List.mem_of_getElem? hi)) with
      ⟨hs, hstale⟩ | ⟨-, next, hs, -, hscan, -⟩ | ⟨-, -, -, hs⟩
    · rw [hs]
      refine .loses running.scan (fun heq => ?_) rfl ?_
      · simp [heq] at hstale
      · refine List.perm_iff_count.2 fun a => ?_
        have := hrunning.count_eq a
        simp only [scans, List.count_append, List.count_cons] at this ⊢
        omega
    · rw [hs]
      refine moves_same rfl rfl (.of_eq ?_)
      have hi' : (e.running.map (·.scan))[i]? = some running.scan := by simp [hi]
      obtain ⟨hlt, hget⟩ := List.getElem?_eq_some_iff.1 hi'
      simp only [scans, List.map_set, hscan, ← hget, List.set_getElem_self]
    · rw [hs]
      refine moves_same rfl rfl ?_
      refine List.perm_iff_count.2 fun a => ?_
      have := hrunning.count_eq a
      simp only [scans, List.map_append, List.map_cons, List.map_nil, List.count_append,
        List.count_cons, List.count_nil] at this ⊢
      omega

theorem deliver_moves {e : Ensemble} (h : e.Sound) (i : Nat) : Moves e (e.deliver i).1 := by
  unfold deliver
  split
  · exact moves_same rfl rfl (.refl _)
  · rename_i scan report hi
    have hreport : report = scan.answer := h.finished _ (List.mem_of_getElem? hi)
    have hfinished : (e.finished.map (·.1)).Perm (scan :: (e.finished.eraseIdx i).map (·.1)) :=
      (perm_eraseIdx hi).map _
    subst hreport
    by_cases hepoch : scan.answer.epoch = e.session.search.epoch
    · have hb := (e.session.handle_scanned_fst scan.answer).1
      obtain ⟨hs, hscans⟩ := Session.handle_scanned_current hepoch
      generalize hasked : ((e.session.search.accept scan.answer).2.follow e.session.snapshot).2 =
        asked at hscans
      let rest := e.session.scans ++ e.running.map (·.scan) ++ (e.finished.eraseIdx i).map (·.1)
      refine .hears scan rest hepoch hb (Prod.ext hs.symm hasked) ?_ ?_
      · refine List.perm_iff_count.2 fun a => ?_
        have := hfinished.count_eq a
        simp only [scans, rest, List.count_append, List.count_cons] at this ⊢
        omega
      · refine List.perm_iff_count.2 fun a => ?_
        simp only [scans, rest, hscans, List.count_append]
        omega
    · have hsame := Session.handle_scanned_stale hepoch
      refine .loses scan hepoch (congrArg Prod.fst hsame) (List.perm_iff_count.2 fun a => ?_)
      have := hfinished.count_eq a
      simp only [scans, hsame, List.count_append, List.count_cons] at this ⊢
      omega

theorem step_moves {e : Ensemble} (h : e.Sound) (st : Step) : Moves e (e.step st).1 := by
  cases st with
  | call c =>
    obtain ⟨asked, hmoves, hscans⟩ := e.session.call_moves c
    refine .calls hmoves (List.perm_iff_count.2 fun a => ?_)
    simp only [scans, step, hscans, List.count_append]
    omega
  | begin i => exact e.begin_moves i
  | advance i => exact advance_moves h i
  | deliver i => exact deliver_moves h i

end Ensemble

end LogTail
