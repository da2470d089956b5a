import LogTail.Proofs.Log.Appending
import LogTail.Proofs.Session.Growth
import LogTail.Proofs.Viewport
import Mathlib.Data.List.DropRight

/-!
# One source at a time

The reports of fetches are queued, so those of an abandoned source are still heard of after a
switch, and several switches may come before they are. What a session shows is the current source's
alone: `source_isolated` says that its buffer and its counts are those of a fresh start at the last
switch, followed by the reports with the number of the source, and by no others. A step is described
for it by what it does to the number, the buffer and the counts (`step_feed`); the rest is an
induction over the run.
-/

namespace LogTail

open Log (Buffer Snapshot)
open Poll (FetchResult Tally)

/-! ## Counts -/

namespace Poll

def Tally.recordAll (t : Tally) (results : List FetchResult) : Tally := results.foldl Tally.record t

theorem Tally.recordAll_concat (t : Tally) (results : List FetchResult) (result : FetchResult) :
    t.recordAll (results ++ [result]) = (t.recordAll results).record result := by
  simp [recordAll]

/-- The failures in a row are those at the end. -/
theorem Tally.recordAll_consecutiveFailures (results : List FetchResult) :
    (({} : Tally).recordAll results).consecutiveFailures =
      (results.rtakeWhile (!·.isOk)).length := by
  induction results using List.reverseRecOn with
  | nil => rfl
  | append_singleton results result ih =>
    rw [recordAll_concat, List.rtakeWhile_concat]
    cases result with
    | ok text => rfl
    | error fault => simp [record, ih, Except.isOk, Except.toBool]

end Poll

/-! ## Texts -/

namespace Log.Buffer

/-- A buffer that begins with a generation. -/
def fresh (maxLines generation : Nat) : Buffer := ⟨{ generation := generation }, max maxLines 1⟩

theorem applyAll_concat (b : Buffer) (texts : List String) (text : String) :
    b.applyAll (texts ++ [text]) = ((b.applyAll texts).apply text).2 := by
  simp [applyAll]

/-- What a text does hangs on the lines and their numbers, not on the texts before. -/
theorem apply_alike {a b : Buffer} (h : a.snapshot.Alike b.snapshot)
    (hmax : a.maxLines = b.maxLines) (text : String) :
    (a.apply text).1 = (b.apply text).1 ∧
    (a.apply text).2.snapshot.Alike (b.apply text).2.snapshot := by
  obtain ⟨hgeneration, hfirst, hlines⟩ := h
  have hcount : a.snapshot.lineCount = b.snapshot.lineCount := by
    rw [Snapshot.lineCount, Snapshot.lineCount, hfirst, hlines]
  have hsnapshotOf (generation : Nat) : (a.snapshotOf generation (Text.lines text)).Alike
      (b.snapshotOf generation (Text.lines text)) := by
    simp only [Snapshot.Alike, snapshotOf, hmax, and_self]
  unfold apply
  simp only [hcount, hgeneration, hlines]
  split
  · exact ⟨rfl, hsnapshotOf _⟩
  · split
    · exact ⟨rfl, hgeneration, hfirst, hlines⟩
    · exact ⟨rfl, hsnapshotOf _⟩

theorem applyAll_alike (texts : List String) : ∀ {a b : Buffer}, a.snapshot.Alike b.snapshot →
    a.maxLines = b.maxLines → (a.applyAll texts).snapshot.Alike (b.applyAll texts).snapshot := by
  induction texts with
  | nil => intro a b h _; exact h
  | cons text texts ih =>
    intro a b h hmax
    refine ih (apply_alike h hmax text).2 ?_
    rw [apply_maxLines, apply_maxLines, hmax]

end Log.Buffer

/-! ## Calls -/

/-- The result that a call reports of the source of a number. -/
def Call.result? (seq : Nat) : Call → Option FetchResult
  | .fetched report => if report.seq = seq then some report.result else none
  | _ => none

namespace Session

theorem text?_eq (s : Session) (c : Call) : s.text? c = (c.result? s.seq).bind Except.toOption := by
  cases c with
  | fetched report =>
    simp only [text?, Call.result?]
    split <;> rfl
  | _ => rfl

theorem applyText_feed (s : Session) (text : String) :
    (s.applyText text).1.seq = s.seq ∧ (s.applyText text).1.tally = s.tally := by
  rcases s.applyText_fst text with ⟨-, h⟩ | ⟨-, segments, h⟩
  · rw [h]
    exact ⟨rfl, rfl⟩
  · rw [h]
    exact ⟨rfl, rfl⟩

theorem onFetched_feed (s : Session) (report : FetchReport) :
    (s.onFetched report).1.seq = s.seq ∧ (s.onFetched report).1.tally =
      ((Call.fetched report).result? s.seq).elim s.tally s.tally.record := by
  by_cases hseq : report.seq = s.seq
  · cases hresult : report.result with
    | ok text =>
      have htext := applyText_feed { s with tally := s.tally.record (.ok text) } text
      simpa [onFetched, Call.result?, hseq, hresult] using htext
    | error fault => simp [onFetched, Call.result?, hseq, hresult]
  · simp [onFetched, Call.result?, hseq]

/-- A failed fetch is counted if it is of the source that is shown; it does nothing else. -/
theorem onFetched_error (s : Session) (seq : Nat) (fault : FetchError) :
    ∃ tally, s.handle (.fetched ⟨seq, .error fault⟩) = ({ s with tally := tally }, []) := by
  simp only [handle, onFetched]
  split
  · exact ⟨s.tally, rfl⟩
  · exact ⟨_, rfl⟩

theorem switchSource_feed (s : Session) (source : Source) (h : source.fault? = none) :
    (s.call (.switchSource source)).1.seq = s.seq + 1 ∧
    (s.call (.switchSource source)).1.tally = {} := by
  simp only [call, s.switchSource_of_none h]
  exact ⟨rfl, rfl⟩

/-- The number of the source and the counts change by a switch and by the reports of the source. -/
theorem call_feed (s : Session) (c : Call) :
    (s.call c).1.seq = (if c.switches then s.seq + 1 else s.seq) ∧
    (s.call c).1.tally =
      if c.switches then {} else (c.result? s.seq).elim s.tally s.tally.record := by
  cases c with
  | fetched report => exact s.onFetched_feed report
  | switchSource source =>
    cases hfault : source.fault? with
    | none => simpa [Call.switches, hfault] using s.switchSource_feed source hfault
    | some fault =>
      simp [call, s.switchSource_of_fault hfault, hfault, Call.switches, Call.result?]
  | start =>
    simp only [call, start]
    cases s.source.fault? <;> exact ⟨rfl, rfl⟩
  | tick now =>
    simp only [call, tick, commitTerm]
    split
    · exact ⟨rfl, rfl⟩
    · simp only [searchCommands_fst]
      split <;> simp [Call.switches, Call.result?, withSearch_eq]
  | editQuery raw now =>
    simp only [call, editQuery]
    split <;> exact ⟨rfl, rfl⟩
  | navigate direction =>
    simp only [call, navigate]
    split <;> exact ⟨rfl, rfl⟩
  | openResult position =>
    simp only [call, openResult]
    split <;> exact ⟨rfl, rfl⟩
  | segmentsForLine snapshot line =>
    simp only [call, segmentsForLine]
    split <;> exact ⟨rfl, rfl⟩
  | exported result => exact ⟨rfl, rfl⟩
  | clearQuery => exact ⟨rfl, rfl⟩
  | scrollBy delta => exact ⟨rfl, rfl⟩
  | scrollToTop => exact ⟨rfl, rfl⟩
  | jumpToLatest => exact ⟨rfl, rfl⟩
  | finishFrame => exact ⟨rfl, rfl⟩
  | setHeight height => exact ⟨rfl, rfl⟩
  | setSelecting active => exact ⟨rfl, rfl⟩
  | exportLog => exact ⟨rfl, rfl⟩

theorem handle_scanned_feed (s : Session) (report : Search.ScanReport) :
    (s.handle (.scanned report)).1.seq = s.seq ∧
    (s.handle (.scanned report)).1.tally = s.tally := by
  simp only [handle, onScanned]
  split
  · exact ⟨rfl, rfl⟩
  · simp [searchCommands_fst, withSearch_eq]

end Session

/-! ## Steps -/

def Step.switches : Step → Bool
  | .call c => c.switches
  | _ => false

/-- The result that a step reports of the source of a number. -/
def Step.result? (seq : Nat) : Step → Option FetchResult
  | .call c => c.result? seq
  | _ => none

/-- The steps up to the last switch of the source. -/
def untilSwitch (steps : List Step) : List Step := steps.rdropWhile (!·.switches)

/-- What the source of a number is reported to give after the last switch, in the order in which it
is heard of. -/
def heardSince (seq : Nat) (steps : List Step) : List FetchResult :=
  (steps.rtakeWhile (!·.switches)).filterMap (Step.result? seq)

/-- The texts among some results. -/
def textsOf (results : List FetchResult) : List String := results.filterMap Except.toOption

theorem untilSwitch_concat (steps : List Step) (st : Step) :
    untilSwitch (steps ++ [st]) = if st.switches then steps ++ [st] else untilSwitch steps := by
  rw [untilSwitch, List.rdropWhile_concat]
  cases st.switches <;> rfl

theorem heardSince_concat (seq : Nat) (steps : List Step) (st : Step) :
    heardSince seq (steps ++ [st]) =
      if st.switches then [] else heardSince seq steps ++ (st.result? seq).toList := by
  rw [heardSince, List.rtakeWhile_concat]
  cases hswitches : st.switches with
  | true => rfl
  | false => cases hresult : st.result? seq <;> simp [heardSince, hresult]

theorem textsOf_concat (results : List FetchResult) (result : Option FetchResult) :
    textsOf (results ++ result.toList) =
      textsOf results ++ (result.bind Except.toOption).toList := by
  cases result with
  | none => simp [textsOf]
  | some result => cases hresult : Except.toOption result <;> simp [textsOf, hresult]

namespace Ensemble

/-- What a step does to the number of the source, to the counts and to the buffer. -/
theorem step_feed (e : Ensemble) (st : Step) :
    let s := e.session
    let t := (e.step st).1.session
    t.seq = (if st.switches then s.seq + 1 else s.seq) ∧
    t.tally = (if st.switches then {} else (st.result? s.seq).elim s.tally s.tally.record) ∧
    t.buffer = if st.switches then s.buffer.reset else
      ((st.result? s.seq).bind Except.toOption).elim s.buffer fun text =>
        (s.buffer.apply text).2 := by
  cases st with
  | call c =>
    obtain ⟨hseq, htally⟩ := e.session.call_feed c
    refine ⟨hseq, htally, ?_⟩
    have hbuffer := e.session.call_buffer c
    rwa [Session.text?_eq] at hbuffer
  | begin i =>
    simp only [step, begin]
    split <;> exact ⟨rfl, rfl, rfl⟩
  | advance i =>
    simp only [step, advance]
    split
    · exact ⟨rfl, rfl, rfl⟩
    · split <;> exact ⟨rfl, rfl, rfl⟩
  | deliver i =>
    have hbuffer := (e.step_of_other (.deliver i) (by simp)).1
    have hfeed : (e.step (.deliver i)).1.session.seq = e.session.seq ∧
        (e.step (.deliver i)).1.session.tally = e.session.tally := by
      simp only [step, deliver]
      split
      · exact ⟨rfl, rfl⟩
      · exact e.session.handle_scanned_feed _
    exact ⟨hfeed.1, hfeed.2, hbuffer⟩

theorem step_retains (e : Ensemble) (st : Step) :
    (e.step st).1.session.buffer.maxLines = e.session.buffer.maxLines := by
  obtain ⟨-, -, hbuffer⟩ := e.step_feed st
  rw [hbuffer]
  cases st.switches with
  | true => rfl
  | false =>
    cases (st.result? e.session.seq).bind Except.toOption with
    | none => rfl
    | some text => exact Buffer.apply_maxLines _ _

theorem run_retains (settings : Settings) (source : Source) (steps : List Step) :
    ((new settings source).run steps).session.buffer.maxLines = max settings.maxLines 1 :=
  run_induction (P := fun e => e.session.buffer.maxLines = max settings.maxLines 1) rfl
    (fun e st h => (e.step_retains st).trans h) steps

/-! ## Runs -/

/-- Right after a switch, and at the start, nothing is retained and nothing is counted. -/
theorem untilSwitch_empty (settings : Settings) (source : Source) (steps : List Step) :
    let s := ((new settings source).run (untilSwitch steps)).session
    s.buffer.snapshot.Alike { generation := s.snapshot.generation } ∧ s.tally = {} := by
  induction steps using List.reverseRecOn with
  | nil => exact ⟨⟨rfl, rfl, rfl⟩, rfl⟩
  | append_singleton steps st ih =>
    rw [untilSwitch_concat]
    cases hswitches : st.switches with
    | false => exact ih
    | true =>
      obtain ⟨-, htally, hbuffer⟩ := ((new settings source).run steps).step_feed st
      rw [hswitches, if_pos rfl] at htally hbuffer
      rw [if_pos rfl, run_append, run_cons, run_nil]
      refine ⟨?_, htally⟩
      rw [Session.snapshot, hbuffer]
      exact ⟨rfl, rfl, rfl⟩

/-- Since the last switch only what the current source was reported to give has been taken in. -/
theorem heardSince_run (settings : Settings) (source : Source) (steps : List Step) :
    let before := ((new settings source).run (untilSwitch steps)).session
    let s := ((new settings source).run steps).session
    s.seq = steps.countP Step.switches ∧ before.seq = s.seq ∧
    s.buffer = before.buffer.applyAll (textsOf (heardSince s.seq steps)) ∧
    s.tally = before.tally.recordAll (heardSince s.seq steps) := by
  induction steps using List.reverseRecOn with
  | nil => exact ⟨rfl, rfl, rfl, rfl⟩
  | append_singleton steps st ih =>
    obtain ⟨hseq, hbefore, hbuffer, htally⟩ := ih
    obtain ⟨hseq', htally', hbuffer'⟩ := ((new settings source).run steps).step_feed st
    simp only [untilSwitch_concat, heardSince_concat, List.countP_append, List.countP_singleton]
    cases hswitches : st.switches with
    | true =>
      simp only [hswitches, if_true, run_append, run_cons, run_nil] at hseq' ⊢
      exact ⟨hseq'.trans (congrArg Nat.succ hseq), trivial, rfl, rfl⟩
    | false =>
      simp only [hswitches, Bool.false_eq_true, if_false, Nat.add_zero, run_append, run_cons,
        run_nil] at hseq' htally' hbuffer' ⊢
      rw [hseq', htally', hbuffer', textsOf_concat]
      refine ⟨hseq, hbefore, ?_, ?_⟩
      · rw [hbuffer]
        cases (st.result? _).bind Except.toOption with
        | none => simp
        | some text => exact (Buffer.applyAll_concat _ _ text).symm
      · rw [htally]
        cases st.result? _ with
        | none => simp
        | some result => exact (Tally.recordAll_concat _ _ result).symm

/-- **One source at a time.** Whatever switches, late reports and other calls come in whatever
order, the buffer and the counts of a session are those of a fresh start at the last switch that was
not refused, in the generation that the buffer was in then: the texts and the results of the reports
that came since with the number of the source, and of no others, were taken in one after the other.
The failures in a row are those at the end, and a failed fetch is nothing but counted. -/
theorem source_isolated (settings : Settings) (source : Source) (steps : List Step) :
    let s := ((new settings source).run steps).session
    let before := ((new settings source).run (untilSwitch steps)).session
    let heard := heardSince s.seq steps
    s.seq = steps.countP Step.switches ∧
    s.snapshot.Alike ((Buffer.fresh settings.maxLines before.snapshot.generation).applyAll
      (textsOf heard)).snapshot ∧
    s.tally = ({} : Tally).recordAll heard ∧
    s.tally.consecutiveFailures = (heard.rtakeWhile (!·.isOk)).length ∧
    ∀ seq fault, ∃ tally,
      s.handle (.fetched ⟨seq, .error fault⟩) = ({ s with tally := tally }, []) := by
  intro s before heard
  obtain ⟨hseq, -, hbuffer, htally⟩ := heardSince_run settings source steps
  obtain ⟨hempty, hzero⟩ := untilSwitch_empty settings source steps
  have hcounts : s.tally = ({} : Tally).recordAll heard := by
    rw [← hzero]
    exact htally
  refine ⟨hseq, ?_, hcounts, ?_, s.onFetched_error⟩
  · rw [Session.snapshot, hbuffer]
    exact Buffer.applyAll_alike _ hempty (run_retains settings source (untilSwitch steps))
  · rw [hcounts]
    exact Tally.recordAll_consecutiveFailures heard

/-- The report of the first source comes after the switch and is passed over. -/
example : ((new {} (.file "a.log")).run [.call (.fetched ⟨0, .ok "a\nb"⟩),
      .call (.switchSource (.file "b.log")), .call (.fetched ⟨1, .ok "c"⟩),
      .call (.fetched ⟨0, .ok "a\nb\nd"⟩)]).session.snapshot.lines = #["c"] := by
  decide +kernel

end Ensemble

end LogTail
