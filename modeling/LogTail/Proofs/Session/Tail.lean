import LogTail.Proofs.Session.Viewport
import LogTail.Proofs.Viewport
import Mathlib.Data.List.Induction

/-!
# The tail in a run

When a session is at the tail and nothing is selected, the screen shows the latest text. That is
what a tail is for, and what the flag for a render held back is kept for. It fails in one way: a
reader who scrolls back to the bottom under a selection resumes the tail without a render, the
flag is not set, and so the end of the selection shows nothing either. `behind_run` says that
this is the only way and lasts until the next text or change of mode.
-/

namespace LogTail

open Log (Buffer Snapshot)
open Viewport (Behind Fits Passes ResumesSelecting passes_of_eq)

namespace Session

theorem onFetched_passes (s : Session) (report : FetchReport) (hfits : s.viewport.Fits s.snapshot) :
    Passes s.snapshot s.viewport (s.onFetched report).1.snapshot
      (s.onFetched report).1.viewport := by
  rcases s.onFetched_cases report with ⟨tally, h, -⟩ | ⟨text, tally, segments, -, -, hu, h⟩
  · rw [h]
    exact passes_of_eq rfl rfl rfl rfl
  · have hversion : s.snapshot.version < (s.buffer.apply text).2.snapshot.version := by
      rw [Buffer.apply_version hu]
      exact Nat.lt_succ_self _
    rw [h]
    exact Viewport.update_passes (hfits.known.differs hversion)
      fun h => Nat.ne_of_gt hversion (congrArg (·.version) h)

/-- The snapshot and the viewport before and after a call that is no scroll to the bottom under a
selection. -/
theorem call_passes (s : Session) (c : Call) (hfits : s.viewport.Fits s.snapshot)
    (hc : ∀ delta, c = .scrollBy delta → ¬ s.viewport.ResumesSelecting delta) :
    Passes s.snapshot s.viewport (s.call c).1.snapshot (s.call c).1.viewport := by
  have hrests : Passes s.snapshot s.viewport s.snapshot s.viewport := passes_of_eq rfl rfl rfl rfl
  cases c with
  | fetched report => exact onFetched_passes s report hfits
  | switchSource source =>
    rw [call_viewport, snapshot, snapshot, call_buffer, viewportAfter, Call.switches]
    split
    · have hversion : s.snapshot.version < s.buffer.reset.snapshot.version := Nat.lt_succ_self _
      exact Viewport.restart_passes fun h => Nat.ne_of_gt hversion (congrArg (·.version) h)
    · exact hrests
  | tick now =>
    have hkept : (s.call (.tick now)).1.snapshot = s.snapshot :=
      congrArg (·.snapshot) (s.call_buffer (.tick now))
    rw [call_viewport, hkept, viewportAfter]
    split
    · exact s.viewport.enterSearch_passes _
    · exact hrests
  | navigate _ | openResult _ =>
    rw [call_viewport, snapshot, snapshot, call_buffer, viewportAfter]
    cases s.target? _ with
    | none => exact hrests
    | some line => exact s.viewport.jumpToLine_passes line true _
  | scrollBy delta => exact Viewport.scrollBy_passes (hc delta rfl)
  | scrollToTop => exact s.viewport.scrollToTop_passes _
  | jumpToLatest => exact s.viewport.jumpToLatest_passes _
  | finishFrame => exact s.viewport.finishJump_passes _
  | setHeight height => exact s.viewport.setHeight_passes ..
  | setSelecting active => exact s.viewport.setSelecting_passes ..
  | start | exported _ | editQuery _ _ | clearQuery | segmentsForLine _ _ | exportLog =>
    rw [call_viewport, snapshot, snapshot, call_buffer]
    exact hrests

/-- The reader scrolls back to the bottom under a selection, the screen does not show the latest
text, and no render is held back. -/
def Misses (s : Session) (delta : Int) : Prop :=
  s.viewport.ResumesSelecting delta ∧ s.viewport.renderHeld = false ∧
    ¬ s.viewport.rendered.Alike s.snapshot

end Session

namespace Ensemble

/-! ## Steps -/

theorem step_passes {e : Ensemble} (hfits : e.session.viewport.Fits e.session.snapshot) (st : Step)
    (hst : ∀ delta, st = .call (.scrollBy delta) → ¬ e.session.viewport.ResumesSelecting delta) :
    Passes e.session.snapshot e.session.viewport (e.step st).1.session.snapshot
      (e.step st).1.session.viewport := by
  by_cases hcall : ∃ c, st = .call c
  · obtain ⟨c, rfl⟩ := hcall
    exact e.session.call_passes c hfits fun delta hc => hst delta (hc ▸ rfl)
  · obtain ⟨hbuffer, hviewport⟩ := e.step_of_other st fun c hc => hcall ⟨c, hc⟩
    simp only [Session.snapshot, hbuffer, hviewport]
    exact passes_of_eq rfl rfl rfl rfl

theorem step_fits {e : Ensemble} (hfits : e.session.viewport.Fits e.session.snapshot)
    (st : Step) : (e.step st).1.session.viewport.Fits (e.step st).1.session.snapshot := by
  by_cases hresumes : ∃ delta, st = .call (.scrollBy delta) ∧
      e.session.viewport.ResumesSelecting delta
  · obtain ⟨delta, rfl, h⟩ := hresumes
    exact Viewport.fits_of_resumesSelecting h hfits
  · have hpasses := step_passes hfits st fun delta hst h => hresumes ⟨delta, hst, h⟩
    exact hpasses.fits hfits (e.step_latest st)

theorem fits_run (settings : Settings) (source : Source) (steps : List Step) :
    let s := ((new settings source).run steps).session
    s.viewport.Fits s.snapshot := by
  refine run_induction (P := fun e => e.session.viewport.Fits e.session.snapshot) ?_
    (fun e st h => step_fits h st) steps
  refine ⟨Or.inr (Nat.zero_lt_one), fun hheld => ?_, fun _ _ => rfl⟩
  simp [new, Session.new] at hheld

/-! ## Runs -/

/-- The session is at the tail after every step, and no other text comes. -/
def StaysAtTail (e : Ensemble) : List Step → Prop
  | [] => True
  | st :: steps =>
    (e.step st).1.session.viewport.mode = .tailing ∧
      (e.step st).1.session.snapshot = e.session.snapshot ∧ StaysAtTail (e.step st).1 steps

theorem staysAtTail_concat (st : Step) (steps : List Step) : ∀ e : Ensemble,
    e.StaysAtTail (steps ++ [st]) ↔ e.StaysAtTail steps ∧
      ((e.run steps).step st).1.session.viewport.mode = .tailing ∧
      ((e.run steps).step st).1.session.snapshot = (e.run steps).session.snapshot := by
  induction steps with
  | nil => intro e; simp [StaysAtTail]
  | cons first steps ih =>
    intro e
    simp only [List.cons_append, StaysAtTail, run_cons, ih, and_assoc]

/-- Where a run is cut at a step, that step is the last one or the last one comes later. -/
theorem concat_eq_append_cons {α : Type} {l before after : List α} {a b : α}
    (h : l ++ [b] = before ++ a :: after) :
    (l = before ∧ b = a ∧ after = []) ∨ ∃ rest, after = rest ++ [b] ∧ l = before ++ a :: rest := by
  obtain rfl | ⟨rest, last, rfl⟩ := List.eq_nil_or_concat' after
  · obtain ⟨hl, hb⟩ := List.append_inj' h rfl
    exact Or.inl ⟨hl, List.singleton_inj.1 hb, rfl⟩
  · rw [← List.cons_append, ← List.append_assoc] at h
    obtain ⟨hl, hb⟩ := List.append_inj' h rfl
    exact Or.inr ⟨rest, by rw [List.singleton_inj.1 hb], hl⟩

/-- **The only way to fall behind.** A tail that holds nothing back does not show the latest text
just in case the reader scrolled back to the bottom under a selection, when the screen was already
out of date, and since then neither another text came nor the mode changed. -/
theorem behind_run (settings : Settings) (source : Source) (steps : List Step) :
    let e := (new settings source).run steps
    Behind e.session.snapshot e.session.viewport ↔ ∃ before delta after,
      steps = before ++ .call (.scrollBy delta) :: after ∧
      ((new settings source).run before).session.Misses delta ∧
      (((new settings source).run before).step (.call (.scrollBy delta))).1.StaysAtTail after := by
  induction steps using List.reverseRecOn with
  | nil =>
    simp only [run_nil, List.nil_eq, List.append_eq_nil_iff, reduceCtorEq, and_false, false_and,
      exists_false, iff_false]
    rintro ⟨-, -, hunlike⟩
    exact hunlike ⟨rfl, rfl, rfl⟩
  | append_singleton steps st ih =>
    have hfits := fits_run settings source steps
    rw [run_append]
    simp only [run_cons, run_nil] at ih hfits ⊢
    by_cases hresumes : ∃ delta, st = .call (.scrollBy delta) ∧
        ((new settings source).run steps).session.viewport.ResumesSelecting delta
    · obtain ⟨delta, rfl, h⟩ := hresumes
      refine (Viewport.behind_of_resumesSelecting h).trans ⟨fun hmisses => ?_, ?_⟩
      · exact ⟨steps, delta, [], rfl, ⟨h, hmisses⟩, trivial⟩
      · rintro ⟨before, delta', after, hsplit, hmisses, hstays⟩
        obtain ⟨rfl, hst, rfl⟩ | ⟨rest, rfl, rfl⟩ := concat_eq_append_cons hsplit
        · cases hst
          exact hmisses.2
        · -- The tail was not left since the first of two scrolls, so there is no second.
          have hbehind := ih.2 ⟨before, delta', rest, rfl, hmisses,
            ((staysAtTail_concat _ _ _).1 hstays).1⟩
          exact absurd (h.1.symm.trans hbehind.1) (by simp)
    · have hpasses := step_passes hfits st fun delta hst h => hresumes ⟨delta, hst, h⟩
      rw [hpasses.behind_iff hfits, ih]
      constructor
      · rintro ⟨⟨before, delta, after, rfl, hmisses, hstays⟩, hsame, htail⟩
        refine ⟨before, delta, after ++ [st], by simp, hmisses,
          (staysAtTail_concat _ _ _).2 ⟨hstays, ?_⟩⟩
        rw [run_append, run_cons] at hsame htail
        exact ⟨htail, hsame⟩
      · rintro ⟨before, delta, after, hsplit, hmisses, hstays⟩
        obtain ⟨rfl, rfl, rfl⟩ | ⟨rest, rfl, rfl⟩ := concat_eq_append_cons hsplit
        · exact absurd ⟨delta, rfl, hmisses.1⟩ hresumes
        · obtain ⟨hstays, htail, hsame⟩ := (staysAtTail_concat _ _ _).1 hstays
          rw [run_append, run_cons]
          exact ⟨⟨before, delta, rest, rfl, hmisses, hstays⟩, hsame, htail⟩

/-! ## What every run shows -/

/-- **The tail shows the latest text** when nothing is selected, save for the tail that a reader
resumed under a selection: it stays out of date, also when the selection ends, until another text
comes or the mode changes. A render that was held back is made up for at the end of a selection. -/
theorem tail_shows_latest (settings : Settings) (source : Source) (steps : List Step) :
    let s := ((new settings source).run steps).session
    (s.viewport.mode = .tailing → s.viewport.selecting = false →
      (¬ s.viewport.rendered.Alike s.snapshot ↔ ∃ before delta after,
        steps = before ++ .call (.scrollBy delta) :: after ∧
        ((new settings source).run before).session.Misses delta ∧
        (((new settings source).run before).step (.call (.scrollBy delta))).1.StaysAtTail after)) ∧
    (s.viewport.mode = .tailing → s.viewport.renderHeld = true →
      (s.setSelecting false).1.viewport.rendered = s.snapshot) := by
  intro s
  refine ⟨fun htail hselecting => ?_, fun htail hheld => ?_⟩
  · have hfree := (fits_run settings source steps).settled htail hselecting
    refine Iff.trans ?_ (behind_run settings source steps)
    exact ⟨fun hunlike => ⟨htail, hfree, hunlike⟩, fun hbehind => hbehind.2.2⟩
  · have hflushes := s.viewport.setSelecting_eq false s.snapshot
    rw [if_pos ⟨rfl, hheld, htail⟩] at hflushes
    exact congrArg (·.rendered) hflushes

/-- The reader leaves the tail and selects; a line comes; the reader scrolls back to the bottom
and ends the selection. -/
def resumedSelecting : List Step := [
  .call (.fetched ⟨0, .ok "a\nb\nc\nd\ne"⟩), .call (.scrollBy (-3)), .call (.setSelecting true),
  .call (.fetched ⟨0, .ok "a\nb\nc\nd\ne\nf"⟩), .call (.scrollBy 3), .call (.setSelecting false)]

/-- The line that came is not shown, although the session is at the tail and nothing is
selected. -/
theorem resumedSelecting_behind : ¬ ∀ (settings : Settings) (source : Source) (steps : List Step),
    let s := ((new settings source).run steps).session
    s.viewport.mode = .tailing → s.viewport.selecting = false →
      s.viewport.rendered.Alike s.snapshot := by
  intro h
  have halike := h {} (.file "app.log") resumedSelecting (by decide +kernel) (by decide +kernel)
  have hrendered : ((new {} (.file "app.log")).run resumedSelecting).session.viewport.rendered.lines
      = #["a", "b", "c", "d", "e"] := by decide +kernel
  have hlatest : ((new {} (.file "app.log")).run resumedSelecting).session.snapshot.lines
      = #["a", "b", "c", "d", "e", "f"] := by decide +kernel
  have hlines := hrendered.symm.trans (halike.2.2.trans hlatest)
  exact absurd (congrArg Array.size hlines) (by decide)

/-- The scroll under the selection is where this run fell behind. -/
theorem tail_shows_latest_resumedSelecting :
    ∃ before delta after, resumedSelecting = before ++ .call (.scrollBy delta) :: after ∧
      ((new {} (.file "app.log")).run before).session.Misses delta ∧
      (((new {} (.file "app.log")).run before).step (.call (.scrollBy delta))).1.StaysAtTail
        after := by
  have hruns := (tail_shows_latest {} (.file "app.log") resumedSelecting).1
    (by decide +kernel) (by decide +kernel)
  refine hruns.1 fun halike => ?_
  have hcounts : ((new {} (.file "app.log")).run
      resumedSelecting).session.viewport.rendered.lines.size = 5 ∧
      ((new {} (.file "app.log")).run resumedSelecting).session.snapshot.lines.size = 6 := by
    constructor <;> decide +kernel
  rw [halike.2.2, hcounts.2] at hcounts
  exact absurd hcounts.1 (by decide)

end Ensemble

end LogTail
