import LogTail.Proofs.Session.Growth
import LogTail.Proofs.Viewport.Page

/-!
# The viewport of a session

`Session.viewportAfter` says what every call does to the viewport, in terms of the viewport's own
operations, and `call_viewport` that this is so. Where the viewport is in a run, what it shows and
what it selects is proved from it and from the laws of these operations. A call is at most one of
them (`call_operates`), and so the view is on a page in every run (`onPage_run`).
-/

namespace LogTail.Session

open Search (Scan)

/-- The line that a call jumps to, if there is such a match. -/
def target? (s : Session) : Call → Option Nat
  | .navigate direction => (s.search.navigate direction).1
  | .openResult position => (s.search.select position).1
  | _ => none

/-- A tick commits a new term: it hands out a scan. -/
def Commits (s : Session) (now : Nat) : Prop := s.scans.length < (s.tick now).1.scans.length

instance (s : Session) (now : Nat) : Decidable (s.Commits now) :=
  inferInstanceAs (Decidable (_ < _))

def viewportAfter (s : Session) (c : Call) : Viewport :=
  match c with
  | .switchSource source =>
    if source.fault?.isNone then (s.viewport.restart s.buffer.reset.snapshot).1 else s.viewport
  | .fetched _ =>
    (s.text? c).elim s.viewport fun text =>
      if (s.buffer.apply text).1 = .unchanged then s.viewport
      else (s.viewport.update (s.buffer.apply text).2.snapshot).1
  | .tick now => if s.Commits now then s.viewport.enterSearch else s.viewport
  | .navigate _ | .openResult _ =>
    (s.target? c).elim s.viewport fun line => (s.viewport.jumpToLine line true s.snapshot).1
  | .scrollBy delta => (s.viewport.scrollBy delta s.snapshot).1
  | .scrollToTop => s.viewport.scrollToTop.1
  | .jumpToLatest => (s.viewport.jumpToLatest s.snapshot).1
  | .finishFrame => (s.viewport.finishJump s.snapshot).1
  | .setHeight height => (s.viewport.setHeight height).1
  | .setSelecting active => (s.viewport.setSelecting active s.snapshot).1
  | .start | .exported _ | .editQuery .. | .clearQuery | .segmentsForLine .. | .exportLog =>
    s.viewport

theorem commits_iff {s : Session} {now : Nat} {asked : Option Scan}
    (h : (s.tick now).1.scans = s.scans ++ asked.toList) : s.Commits now ↔ asked.isSome = true := by
  rw [Commits, h]
  cases asked <;> simp

/-- The tail stops when a term is committed, and at no other tick. -/
theorem tick_viewport (s : Session) (now : Nat) : (s.tick now).1.viewport =
    if s.Commits now then s.viewport.enterSearch else s.viewport := by
  obtain ⟨asked, hscans, hviewport⟩ : ∃ asked : Option Scan,
      (s.tick now).1.scans = s.scans ++ asked.toList ∧ (s.tick now).1.viewport =
        if asked.isSome then s.viewport.enterSearch else s.viewport := by
    unfold tick
    split
    · exact ⟨none, (List.append_nil _).symm, rfl⟩
    · rename_i term query _
      refine ⟨(s.search.commit term s.snapshot).2, ?_⟩
      simp only [commitTerm, withSearch_eq, searchCommands_fst]
      split
      · rename_i hasked
        exact ⟨scans_append s _ rfl, (if_pos hasked).symm⟩
      · rename_i hasked
        exact ⟨scans_append s _ rfl, (if_neg hasked).symm⟩
  rw [hviewport]
  simp only [commits_iff hscans]

/-- A fetch is nothing to the viewport, unless it brings another text of the source. -/
theorem onFetched_viewport (s : Session) (report : FetchReport) :
    (s.onFetched report).1.viewport =
      (s.text? (.fetched report)).elim s.viewport fun text =>
        if (s.buffer.apply text).1 = .unchanged then s.viewport
        else (s.viewport.update (s.buffer.apply text).2.snapshot).1 := by
  rcases s.onFetched_cases report with
    ⟨tally, h, hsame⟩ | ⟨text, tally, segments, hseq, hresult, hchanged, h⟩
  · rw [h]
    by_cases hseq : report.seq = s.seq
    · cases hresult : report.result with
      | error fault => simp [text?, hseq, hresult, Except.toOption]
      | ok text => simp [text?, hseq, hresult, Except.toOption, hsame text hseq hresult]
    · simp [text?, hseq]
  · rw [h]
    simp [text?, hseq, hresult, hchanged, Except.toOption]

/-- **What a call does to the viewport.** -/
theorem call_viewport (s : Session) (c : Call) : (s.call c).1.viewport = s.viewportAfter c := by
  cases c with
  | start =>
    simp only [call, start]
    cases s.source.fault? <;> rfl
  | switchSource source =>
    rcases s.switchSource_cases source with ⟨fault, hfault, h⟩ | ⟨hfault, r, h, -, -, -, hviewport⟩
    · simp [call, h, viewportAfter, hfault]
    · simp [call, h, viewportAfter, hfault, hviewport]
  | fetched report => exact s.onFetched_viewport report
  | exported result => rfl
  | editQuery raw now =>
    simp only [call, editQuery]
    split <;> rfl
  | tick now => exact s.tick_viewport now
  | clearQuery => rfl
  | navigate direction =>
    simp only [call, navigate, viewportAfter, target?]
    split
    · rename_i h
      rw [h]
      rfl
    · rename_i h
      rw [h]
      rfl
  | openResult position =>
    simp only [call, openResult, viewportAfter, target?]
    split
    · rename_i h
      rw [h]
      rfl
    · rename_i h
      rw [h]
      rfl
  | scrollBy delta => rfl
  | scrollToTop => rfl
  | jumpToLatest => rfl
  | finishFrame => rfl
  | setHeight height => rfl
  | setSelecting active => rfl
  | segmentsForLine snapshot line =>
    simp only [call, segmentsForLine]
    split <;> rfl
  | exportLog => rfl

/-- **A call is at most one operation of the viewport**, and only a call for another height gives it
one. -/
theorem call_operates (s : Session) (c : Call) : (s.call c).1.viewport = s.viewport ∨
    ∃ op : Viewport.Operation, (s.call c).1.viewport = s.viewport.operate op ∧
      ∀ height, op = .setHeight height → c = .setHeight height := by
  rw [call_viewport]
  cases c with
  | switchSource source =>
    rw [viewportAfter]
    split
    · exact Or.inr ⟨.restart _, rfl, by simp⟩
    · exact Or.inl rfl
  | fetched report =>
    rw [viewportAfter]
    cases s.text? (.fetched report) with
    | none => exact Or.inl rfl
    | some text =>
      rw [Option.elim]
      split
      · exact Or.inl rfl
      · exact Or.inr ⟨.update _, rfl, by simp⟩
  | tick now =>
    rw [viewportAfter]
    split
    · exact Or.inr ⟨.enterSearch, rfl, by simp⟩
    · exact Or.inl rfl
  | navigate _ | openResult _ =>
    rw [viewportAfter]
    cases s.target? _ with
    | none => exact Or.inl rfl
    | some line => exact Or.inr ⟨.jumpToLine line true s.snapshot, rfl, by simp⟩
  | scrollBy delta => exact Or.inr ⟨.scrollBy delta s.snapshot, rfl, by simp⟩
  | scrollToTop => exact Or.inr ⟨.scrollToTop, rfl, by simp⟩
  | jumpToLatest => exact Or.inr ⟨.jumpToLatest s.snapshot, rfl, by simp⟩
  | finishFrame => exact Or.inr ⟨.finishJump s.snapshot, rfl, by simp⟩
  | setHeight height => exact Or.inr ⟨.setHeight height, rfl, by simp⟩
  | setSelecting active => exact Or.inr ⟨.setSelecting active s.snapshot, rfl, by simp⟩
  | start | exported _ | editQuery _ _ | clearQuery | segmentsForLine _ _ | exportLog =>
    exact Or.inl rfl

/-- No other call changes the height. -/
theorem call_height {s : Session} {c : Call} (h : ∀ height, c ≠ .setHeight height) :
    (s.call c).1.viewport.height = s.viewport.height := by
  rcases s.call_operates c with hkept | ⟨op, hop, honly⟩
  · rw [hkept]
  · rw [hop, Viewport.operate_height]
    cases op with
    | setHeight height => exact absurd (honly height rfl) (h height)
    | _ => rfl

theorem call_onPage {s : Session} (h : s.viewport.OnPage) (c : Call) :
    (s.call c).1.viewport.OnPage := by
  rcases s.call_operates c with hkept | ⟨op, hop, -⟩
  · rwa [hkept]
  · rw [hop]
    exact Viewport.operate_onPage h op

end LogTail.Session

namespace LogTail.Ensemble

theorem onPage_run (settings : Settings) (source : Source) (steps : List Step) :
    ((new settings source).run steps).session.viewport.OnPage := by
  refine run_induction (P := fun e => e.session.viewport.OnPage)
    ⟨Nat.le_refl _, Nat.zero_le _, Nat.one_pos⟩ (fun e st h => ?_) steps
  by_cases hcall : ∃ c, st = .call c
  · obtain ⟨c, rfl⟩ := hcall
    exact Session.call_onPage h c
  · rwa [(e.step_of_other st fun c hc => hcall ⟨c, hc⟩).2]

end LogTail.Ensemble
