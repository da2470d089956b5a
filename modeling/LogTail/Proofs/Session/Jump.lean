import LogTail.Proofs.Search.Cursor
import LogTail.Proofs.Session.Screen
import LogTail.Proofs.Session.Viewport

/-!
# Jumps to a match

A jump shows the line of the match as the latest text has it. The screen may hold an older
snapshot, and a jump keeps it if the line is in it. That is right for all lines of it but the last
one (`Snapshot.Extends`): an unterminated line may have grown since, and then the screen goes on
showing what it was (`Session.Outgrown`). `Legible` is the invariant of a run of a log that grows.
-/

namespace LogTail

open Log (Snapshot)
open Search (LiveSearch MatchedLine)

namespace Session

/-! ## Jumps -/

variable {s : Session} {c : Call} {line : Nat}

theorem target?_mem (h : s.target? c = some line) :
    ∃ entry ∈ s.search.index.entries.toList, entry.line = line := by
  cases c with
  | navigate direction => exact LiveSearch.navigate_mem h
  | openResult position => exact LiveSearch.select_mem h
  | _ => cases h

/-- A jump shows the latest text if the line is not on the screen, and the text on the screen if it
is. -/
theorem call_rendered_of_target (h : s.target? c = some line) :
    (s.call c).1.snapshot = s.snapshot ∧ (s.call c).1.viewport.rendered =
      if s.viewport.lacks line s.snapshot then s.snapshot else s.viewport.rendered := by
  rw [call_viewport, snapshot, call_buffer, ← Viewport.jumpToLine_rendered _ line true]
  cases c with
  | navigate direction => exact ⟨rfl, by simp only [viewportAfter, h, Option.elim]⟩
  | openResult position => exact ⟨rfl, by simp only [viewportAfter, h, Option.elim]⟩
  | _ => cases h

/-- The line is the last one on the screen, and by now it reads otherwise. -/
def Outgrown (s : Session) (line : Nat) : Prop :=
  line + 1 = s.viewport.rendered.lineCount ∧ ∃ shown,
    s.viewport.rendered.line? line = some shown ∧ s.snapshot.line? line ≠ some shown

/-- Of the lines that are retained, the screen shows all but an outgrown one as they are. -/
theorem jumped_iff {text : String} (hgrows : s.viewport.rendered.Extends s.snapshot)
    (hgoesOn : s.viewport.isReset s.snapshot = false) (htext : s.snapshot.line? line = some text) :
    (if s.viewport.lacks line s.snapshot then s.snapshot else s.viewport.rendered).line? line =
      some text ↔ ¬ s.Outgrown line := by
  cases hshown : s.viewport.rendered.line? line with
  | none =>
    rw [if_pos ((Viewport.lacks_iff hgoesOn).2 hshown)]
    exact ⟨fun _ ⟨_, shown, hsome, _⟩ => absurd (hshown.symm.trans hsome) (by simp), fun _ => htext⟩
  | some shown =>
    rw [if_neg fun hlacks => by simp [(Viewport.lacks_iff hgoesOn).1 hlacks] at hshown, hshown]
    constructor
    · rintro hsame ⟨-, other, hother, hdiffers⟩
      exact hdiffers (htext.trans (hsame.symm.trans (hshown.symm.trans hother)))
    · intro hkept
      by_contra hdiffers
      have hbefore := (Snapshot.line?_isSome.1 (Option.isSome_of_eq_some hshown)).2
      have hlast : ¬ line + 1 = s.viewport.rendered.lineCount := fun hlast =>
        hkept ⟨hlast, shown, hshown, fun hsame => hdiffers (hsame.symm.trans htext)⟩
      have hretained := (Snapshot.line?_isSome.1 (Option.isSome_of_eq_some htext)).1
      have hline := hgrows.kept line hretained (by omega)
      exact hdiffers (hshown.symm.trans (hline.symm.trans htext))

end Session

namespace Ensemble

/-! ## Steps -/

/-- The index and the screen tell of the latest text, as far as it was the same. -/
structure Legible (e : Ensemble) (last : String) : Prop where
  indexed : e.Indexed last
  inStep : e.InStep
  grows : e.session.viewport.rendered.Extends e.session.snapshot

variable {e : Ensemble} {last : String}

theorem legible_new (settings : Settings) (source : Source) :
    (new settings source).Legible "" where
  indexed := indexed_new settings source
  inStep := inStep_new settings source
  grows := ⟨Nat.le_refl _, Nat.le_refl _, fun _ _ hn => absurd hn (Nat.not_lt_zero _)⟩

theorem legible_step (h : e.Legible last) (st : Step)
    (hst : ∀ text ∈ e.text? st, Follows last text) :
    (e.step st).1.Legible (e.lastText last st) := by
  refine ⟨indexed_step h.indexed st hst, inStep_step h.inStep st, ?_⟩
  obtain ⟨-, hext⟩ := step_holds h.indexed.holds st hst
  have hbefore := (Viewport.isReset_eq_false_iff.1 h.inStep.goesOn).1
  have hafter := (Viewport.isReset_eq_false_iff.1 (inStep_step h.inStep st).goesOn).1
  obtain ⟨place, hplace, -⟩ := (step_tells h.inStep st).tells
  -- The screen shows the latest text from now on, or what it did.
  suffices hkept : (e.step st).1.session.viewport.rendered = e.session.viewport.rendered ∨
      (e.step st).1.session.viewport.rendered = (e.step st).1.session.snapshot by
    rcases hkept with hkept | hrenders
    · rw [hkept] at hafter ⊢
      exact h.grows.trans (hext (hafter.trans hbefore.symm))
    · rw [hrenders]
      exact .refl _
  cases hplace with
  | nothing same rendered top => exact Or.inl rendered
  | scrolls same rendered line flash => exact Or.inl rendered
  | jumps same rendered line flash => exact Or.inl rendered
  | counts goesOn rendered top => exact Or.inl rendered
  | renders rendered line flash => exact Or.inr rendered

/-- A matched line is retained, and it held the term when it was scanned. -/
theorem Indexed.matched (h : e.Indexed last) {entry : MatchedLine}
    (hentry : entry ∈ e.session.search.index.entries.toList) :
    e.session.snapshot.firstLine ≤ entry.line ∧ ∃ scanned text,
      e.session.search.scanned = some scanned ∧ scanned.Extends e.session.snapshot ∧
      scanned.line? entry.line = some text ∧ 0 < Search.countIn e.session.search.term text := by
  have hretained := h.pruned entry hentry
  have hsome : e.session.search.index ≠ {} := by
    intro hnone
    simp [hnone] at hentry
  obtain ⟨l, hindex, hl, hagrees⟩ := h.indexes.entries
  cases h.tracked.tracks.coherent with
  | idle _ _ _ index => exact absurd index hsome
  | scanning _ _ _ _ index => exact absurd index hsome
  | ready _ scanned hscanned _ _ =>
    obtain ⟨hext, hagrees⟩ := hagrees h.tracked.generation scanned hscanned
    rw [show e.session.search.index = _ from hindex] at hentry
    have hfound := (hagrees.mem entry hretained).1 (by simpa using hentry)
    obtain ⟨-, text, htext, hspans, hne⟩ := Search.mem_matchedFrom.1 hfound
    refine ⟨hretained, scanned, text, hscanned, hext, htext, ?_⟩
    rw [← Search.length_findSpans, ← hspans]
    exact List.length_pos_iff.2 hne

/-- The only report that waits is heard of. -/
theorem deliver_single {p : Search.Scan × Search.ScanReport} (hfinished : e.finished = [p])
    (hepoch : p.2.epoch = e.session.search.epoch) :
    let s := (e.run [.deliver 0]).session
    s.search = ((e.session.search.accept p.2).2.follow e.session.snapshot).1 ∧
    s.buffer = e.session.buffer ∧ s.viewport = e.session.viewport := by
  have hheard : (e.run [.deliver 0]).session = (e.session.handle (.scanned p.2)).1 := by
    simp [run, step, deliver, hfinished]
  rw [hheard]
  exact ⟨(Session.handle_scanned_current hepoch).1, e.session.handle_scanned_fst p.2⟩

/-! ## What every run shows -/

/-- **A jump shows the text that matched.** When every text follows the last one of its source, a
line that a jump goes to is retained, and the screen then shows it as the latest text has it,
unless it was the last one on the screen and has changed since. The latest text holds the term on
that line if the line was complete when it was scanned or the latest text was scanned. -/
theorem jump_shows_line (settings : Settings) (source : Source) (steps : List Step)
    (hgrows : Grows (new settings source) "" steps) (c : Call) (line : Nat)
    (hjumps : ((new settings source).run steps).session.target? c = some line) :
    let s := ((new settings source).run steps).session
    let t := (s.call c).1
    ∃ text scanned, t.snapshot.line? line = some text ∧
      (t.viewport.rendered.line? line = some text ↔ ¬ s.Outgrown line) ∧
      s.search.scanned = some scanned ∧
      (line + 1 < scanned.lineCount ∨ scanned.same s.snapshot = true →
        0 < Search.countIn s.search.term text) := by
  obtain ⟨last, h⟩ := grows_induction (legible_new settings source)
    (fun e last st h hst => legible_step h st hst) hgrows
  generalize (new settings source).run steps = e at h hjumps
  intro s t
  obtain ⟨entry, hentry, rfl⟩ := Session.target?_mem hjumps
  obtain ⟨hretained, scanned, found, hscanned, hext, hfound, hcount⟩ := h.indexed.matched hentry
  obtain ⟨text, htext⟩ := Option.isSome_iff_exists.1
    (hext.line?_isSome (Option.isSome_of_eq_some hfound) hretained)
  obtain ⟨hlatest, hrendered⟩ := Session.call_rendered_of_target hjumps
  refine ⟨text, scanned, by rw [hlatest]; exact htext, ?_, hscanned, fun hknown => ?_⟩
  · rw [hrendered]
    exact Session.jumped_iff h.grows h.inStep.goesOn htext
  · have hsame : s.snapshot.line? entry.line = scanned.line? entry.line := by
      rcases hknown with hcomplete | hlatest
      · exact hext.kept _ hretained hcomplete
      · rw [(h.indexed.tracked.tracks.scanned scanned hscanned).eq_of_same hlatest]
    rwa [Option.some.inj (htext.symm.trans (hsame.trans hfound))]

/-- Two lines are shown, the second one unterminated. While the reader has paused, that line grows
and a third one comes; then the reader searches. -/
def grownPaused : List Step := [
  .call (.fetched ⟨0, .ok "bad\nerr"⟩), .call .scrollToTop,
  .call (.fetched ⟨0, .ok "bad\nerror: bad\nok"⟩), .call (.editQuery "bad" 0), .call (.tick 1000),
  .begin 0, .advance 0]

/-- The search finds the first line and the one that grew, and leaves the screen alone. -/
theorem grownPaused_found :
    let e := (new {} (.file "app.log")).run grownPaused
    let s := (e.run [.deliver 0]).session
    s.target? (.navigate .next) = some 0 ∧ s.target? (.navigate .prev) = some 1 ∧
    s.snapshot = e.session.snapshot ∧ s.viewport = e.session.viewport := by
  have hfound : let e := (new {} (.file "app.log")).run grownPaused
      let found := fun direction (p : Search.Scan × Search.ScanReport) =>
        (((e.session.search.accept p.2).2.follow e.session.snapshot).1.navigate direction).1
      e.finished.map (·.2.epoch) = [e.session.search.epoch] ∧
      e.finished.map (found .next) = [some 0] ∧ e.finished.map (found .prev) = [some 1] := by
    refine ⟨?_, ?_, ?_⟩ <;> decide +kernel
  intro e s
  obtain ⟨hepochs, hnext, hprev⟩ := hfound
  obtain ⟨p, hfinished, hepoch⟩ := List.map_eq_singleton_iff.1 hepochs
  obtain ⟨hsearch, hbuffer, hviewport⟩ := deliver_single hfinished hepoch
  simp only [hfinished, List.map_cons, List.map_nil, List.cons.injEq, and_true] at hnext hprev
  refine ⟨?_, ?_, congrArg (·.snapshot) hbuffer, hviewport⟩
  · rw [← hnext, ← hsearch]
    rfl
  · rw [← hprev, ← hsearch]
    rfl

/-- The jump to the line that grew shows what it was, without the match. -/
theorem grownPaused_unseen :
    let s := ((new {} (.file "app.log")).run (grownPaused ++ [.deliver 0])).session
    let t := (s.call (.navigate .prev)).1
    Text.Continues "bad\nerr" "bad\nerror: bad\nok" ∧ s.target? (.navigate .prev) = some 1 ∧
    t.snapshot.line? 1 = some "error: bad" ∧ t.viewport.rendered.line? 1 = some "err" := by
  have hknown : let s := ((new {} (.file "app.log")).run grownPaused).session
      s.snapshot.line? 1 = some "error: bad" ∧ s.viewport.lacks 1 s.snapshot = false ∧
      s.viewport.rendered.line? 1 = some "err" := by
    refine ⟨?_, ?_, ?_⟩ <;> decide +kernel
  obtain ⟨hlatest, hlacks, hshown⟩ := hknown
  obtain ⟨-, hprev, hsnapshot, hviewport⟩ := grownPaused_found
  rw [run_append]
  intro s t
  obtain ⟨hkept, hrendered⟩ := Session.call_rendered_of_target hprev
  rw [hsnapshot] at hkept hrendered
  rw [hviewport, hlacks] at hrendered
  refine ⟨by decide, hprev, ?_, ?_⟩
  · exact (congrArg (·.line? 1) hkept).trans hlatest
  · exact (congrArg (·.line? 1) hrendered).trans hshown

/-- The jump to the first line shows it, though the screen holds the first text. -/
theorem jump_shows_line_grownPaused :
    let s := ((new {} (.file "app.log")).run (grownPaused ++ [.deliver 0])).session
    Grows (new {} (.file "app.log")) "" (grownPaused ++ [.deliver 0]) ∧
    s.target? (.navigate .next) = some 0 ∧
    (s.call (.navigate .next)).1.viewport.rendered.line? 0 =
      (s.call (.navigate .next)).1.snapshot.line? 0 := by
  have hgrows : Grows (new {} (.file "app.log")) "" grownPaused := by decide +kernel
  have hcount : ((new {} (.file "app.log")).run grownPaused).session.viewport.rendered.lineCount
      = 2 := by decide +kernel
  obtain ⟨hnext, -, -, hviewport⟩ := grownPaused_found
  rw [← run_append] at hnext hviewport
  obtain ⟨text, scanned, htext, hshows, -⟩ :=
    jump_shows_line {} (.file "app.log") _ (hgrows.deliver 0) (.navigate .next) 0 hnext
  refine ⟨hgrows.deliver 0, hnext, (hshows.2 ?_).trans htext.symm⟩
  rintro ⟨hlast, -⟩
  rw [hviewport, hcount] at hlast
  cases hlast

end Ensemble

end LogTail
