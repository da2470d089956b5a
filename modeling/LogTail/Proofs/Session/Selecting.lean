import LogTail.Proofs.Session.Screen
import LogTail.Proofs.Session.Viewport
import LogTail.Proofs.Viewport.Selecting

/-!
# When a session's selection ends

The viewport of a session notes whether something is selected. It hears of that from the host
(`selects?`), and no other call changes the note (`call_selecting`), save for a fetch: one that
begins a generation ends a selection at the tail (`onFetched_selecting`).
-/

namespace LogTail

open Log (Buffer)

/-- Whether something is selected after a call, if the call decides it. -/
def Call.selects? : Call → Option Bool
  | .setSelecting active => some active
  | .jumpToLatest => some false
  | .switchSource source => if source.fault?.isSome then none else some false
  | _ => none

namespace Session

variable {s : Session}

theorem switchSource_selecting (s : Session) (source : Source) :
    (s.call (.switchSource source)).1.viewport.selecting =
      (Call.selects? (.switchSource source)).getD s.viewport.selecting := by
  rcases s.switchSource_cases source with ⟨fault, hfault, h⟩ | ⟨hfault, r, h, -, -, -, hviewport⟩
  · simp [call, Call.selects?, hfault, h]
  · simp only [call, Call.selects?, hfault, h, hviewport]
    rfl

/-- A selection is begun and ended by the host alone, unless a fetch is heard of. -/
theorem call_selecting (s : Session) {c : Call} (hfetch : ∀ report, c ≠ .fetched report)
    (hframe : c = .finishFrame → s.viewport.isReset s.snapshot = false) :
    (s.call c).1.viewport.selecting = c.selects?.getD s.viewport.selecting := by
  cases c with
  | fetched report => exact absurd rfl (hfetch report)
  | switchSource source => exact s.switchSource_selecting source
  | tick now =>
    rw [call_viewport, viewportAfter]
    split
    · exact s.viewport.enterSearch_selecting
    · rfl
  | navigate _ | openResult _ =>
    rw [call_viewport, viewportAfter]
    cases s.target? _ with
    | none => rfl
    | some line => exact s.viewport.jumpToLine_selecting line true _
  | scrollBy delta => exact s.viewport.scrollBy_selecting ..
  | scrollToTop => exact s.viewport.scrollToTop_selecting
  | jumpToLatest => rfl
  | finishFrame => exact Viewport.finishJump_selecting (hframe rfl)
  | setHeight height => exact s.viewport.setHeight_selecting _
  | setSelecting active => exact s.viewport.setSelecting_selecting ..
  | start | exported _ | editQuery _ _ | clearQuery | segmentsForLine _ _ | exportLog =>
    rw [call_viewport]
    rfl

/-- Where the screen's text is of the buffer's generation, the next text goes on from it unless it
begins a generation. -/
theorem isReset_apply (h : s.viewport.isReset s.snapshot = false) (text : String) :
    s.viewport.isReset (s.buffer.apply text).2.snapshot = false ↔
      (s.buffer.apply text).2.snapshot.generation = s.snapshot.generation := by
  obtain ⟨hgeneration, hcount⟩ := Viewport.isReset_eq_false_iff.1 h
  rw [Viewport.isReset_eq_false_iff]
  refine ⟨fun hgoesOn => hgoesOn.1.trans hgeneration.symm, fun hsame => ?_⟩
  have hkept : ∀ generation, (s.buffer.apply text).1 ≠ .reset generation := by
    intro generation hreset
    have hnext := Buffer.apply_reset hreset
    simp only [snapshot] at hsame
    omega
  exact ⟨hsame.trans hgeneration, hcount.trans (Buffer.apply_generation hkept).2⟩

/-- **A fetch ends a selection only at the tail**, and there just in case it begins a generation. -/
theorem onFetched_selecting (h : s.viewport.isReset s.snapshot = false) (report : FetchReport) :
    (s.onFetched report).1.viewport.selecting = true ↔ s.viewport.selecting = true ∧
      (s.viewport.mode = .tailing →
        (s.onFetched report).1.snapshot.generation = s.snapshot.generation) := by
  rcases s.onFetched_cases report with ⟨tally, heq, -⟩ | ⟨text, tally, segments, -, -, -, heq⟩
  · rw [heq]
    exact ⟨fun hselecting => ⟨hselecting, fun _ => rfl⟩, And.left⟩
  · rw [heq]
    refine (s.viewport.update_selecting _).trans (and_congr_right fun _ => ?_)
    exact imp_congr_right fun _ => isReset_apply h text

end Session

end LogTail
