import LogTail.Proofs.Session.Screen

/-!
# The reader is left alone

A reader who has paused, goes to a line or selects reads on undisturbed: texts that go on, failed
fetches, scans, the end of a quiet time and frames are told as counts of unseen lines and as
results, and never move what is on the screen. `step_leaves` says so of one step of the background;
that the screen's snapshot is one that the latest text goes on from is part of `InStep`, which
every run keeps.
-/

namespace LogTail

open Display (Command)
open Log (Buffer Snapshot)
open Search (Results Status)

/-! ## Commands -/

/-- Whether a command moves what is on the screen. -/
def Display.Command.moves : Command → Bool
  | .render _ | .scroll .. => true
  | .badge _ | .results _ | .status _ => false

/-- The count of unseen lines, if a command tells it. -/
def Display.Command.badge? : Command → Option Nat
  | .badge unseen => some unseen
  | .render _ | .scroll .. | .results _ | .status _ => none

namespace Session

theorem Completes.moves {old new : Results × Status} {place cmds : List Command}
    (h : Completes old new place cmds) (hplace : ∀ cmd ∈ place, cmd.moves = false) :
    ∀ cmd ∈ cmds, cmd.moves = false := by
  cases h with
  | placeOnly same => exact hplace
  | placeAndSearch => simpa [or_imp, forall_and, Command.moves] using hplace

theorem Completes.badges {old new : Results × Status} {place cmds : List Command}
    (h : Completes old new place cmds) :
    cmds.filterMap Command.badge? = place.filterMap Command.badge? := by
  cases h with
  | placeOnly same => rfl
  | placeAndSearch => simp [Command.badge?]

/-! ## Events of the background -/

/-- The reader is left alone: at most lines are counted, and they are if the text is another. -/
structure Leaves (s : Session) (r : Session × List Command) : Prop where
  undisturbed : s.viewport.Undisturbed r.1.viewport
  tells : ∃ place, Completes s.found r.1.found place r.2 ∧
    (place = [] ∧ r.1.buffer = s.buffer ∨ place = [r.1.viewport.badge r.1.snapshot])

variable {s : Session} {r : Session × List Command}

theorem Leaves.moves (h : Leaves s r) : ∀ cmd ∈ r.2, cmd.moves = false := by
  obtain ⟨place, hcompletes, hplace⟩ := h.tells
  refine hcompletes.moves ?_
  rcases hplace with ⟨rfl, -⟩ | rfl
  · simp
  · simp [Viewport.badge, Command.moves]

theorem Leaves.badges (h : Leaves s r) (hchanged : r.1.buffer ≠ s.buffer) :
    r.2.filterMap Command.badge? = [r.1.viewport.unseen r.1.snapshot] := by
  obtain ⟨place, hcompletes, hplace⟩ := h.tells
  rw [hcompletes.badges]
  rcases hplace with ⟨-, hsame⟩ | rfl
  · exact absurd hsame hchanged
  · rfl

theorem SearchOnly.leaves (h : SearchOnly s r) (hsegments : s.segments.Faithful) :
    Leaves s r := by
  cases h with
  | @nothing t segments buffer viewport found =>
    refine ⟨?_, [], .placeOnly found, Or.inl ⟨rfl, buffer⟩⟩
    rw [viewport]
    exact .refl s.viewport
  | @search t segments buffer viewport =>
    rw [← segments] at hsegments
    exact ⟨viewport, [], (thenSearchCommands_completes hsegments s.found []).1,
      Or.inl ⟨rfl, buffer⟩⟩

/-- A text of the same generation leaves the reader alone. -/
theorem onFetched_leaves (h : s.InOrder) (hheld : s.viewport.Held)
    (hgoesOn : s.viewport.isReset s.snapshot = false) {report : FetchReport}
    (hgeneration : (s.onFetched report).1.snapshot.generation = s.snapshot.generation) :
    Leaves s (s.onFetched report) := by
  rcases onFetched_notices h report with hsearch | ⟨text, -, hnotices⟩
  · exact hsearch.leaves h.segments
  · have hbuffer : (s.onFetched report).1.snapshot = (s.buffer.apply text).2.snapshot :=
      congrArg (·.snapshot) hnotices.buffer
    rw [hbuffer] at hgeneration
    have hmore : s.snapshot.lineCount ≤ (s.buffer.apply text).2.snapshot.lineCount := by
      refine (Buffer.apply_generation fun generation hreset => ?_).2
      rw [Buffer.apply_reset hreset] at hgeneration
      exact absurd hgeneration (Nat.succ_ne_self _)
    rw [Viewport.isReset_eq_false_iff] at hgoesOn
    have hstill : s.viewport.isReset (s.buffer.apply text).2.snapshot = false :=
      Viewport.isReset_eq_false_iff.2
        ⟨hgeneration.trans hgoesOn.1, Nat.le_trans hgoesOn.2 hmore⟩
    obtain ⟨hundisturbed, hbadge⟩ := Viewport.update_undisturbed hheld hstill
    refine ⟨?_, _, hnotices.completes, Or.inr ?_⟩
    · rw [hnotices.viewport]
      exact hundisturbed
    · rw [hbadge, hnotices.viewport, hbuffer]

theorem finishFrame_leaves (hheld : s.viewport.Held)
    (hgoesOn : s.viewport.isReset s.snapshot = false) : Leaves s s.finishFrame := by
  obtain ⟨hundisturbed, hcommands⟩ := Viewport.finishJump_undisturbed hheld hgoesOn
  refine ⟨hundisturbed, _, .placeOnly rfl, ?_⟩
  rcases hcommands with hnothing | hbadge
  · exact Or.inl ⟨hnothing, rfl⟩
  · exact Or.inr hbadge

end Session

namespace Ensemble

/-! ## Steps -/

/-- What happens is work in the background: no call of the reader, and no new generation. -/
def Quiet (e : Ensemble) : Step → Prop
  | .call (.fetched report) =>
    (e.session.onFetched report).1.snapshot.generation = e.session.snapshot.generation
  | .call (.exported _) | .call (.tick _) | .call .finishFrame => True
  | .call _ => False
  | .begin _ | .advance _ | .deliver _ => True

/-- All that happens is work in the background. -/
def Background (e : Ensemble) : List Step → Prop
  | [] => True
  | st :: steps => e.Quiet st ∧ Background (e.step st).1 steps

variable {e : Ensemble}

theorem step_leaves (h : e.InStep) (hheld : e.session.viewport.Held) {st : Step}
    (hquiet : e.Quiet st) : e.session.Leaves ((e.step st).1.session, (e.step st).2) := by
  by_cases hcall : ∃ c, st = .call c
  · obtain ⟨c, rfl⟩ := hcall
    cases c with
    | fetched report => exact Session.onFetched_leaves h.inOrder hheld h.goesOn hquiet
    | exported result =>
      have hsame : e.session.SearchOnly (e.session, []) := .nothing rfl rfl rfl rfl
      exact hsame.leaves h.segments
    | tick now => exact (e.session.tick_searchOnly now).leaves h.segments
    | finishFrame => exact Session.finishFrame_leaves hheld h.goesOn
    | _ => exact hquiet.elim
  · exact (e.step_searchOnly fun c hc => hcall ⟨c, hc⟩).leaves h.segments

/-! ## Runs -/

/-- What the background leaves alone in a step it leaves alone in a run. -/
theorem background_undisturbed (background : List Step) : ∀ {e : Ensemble}, e.InStep →
    e.session.viewport.Held → e.Background background →
    (e.run background).InStep ∧
    e.session.viewport.Undisturbed (e.run background).session.viewport := by
  induction background with
  | nil => intro e h _ _; exact ⟨h, .refl _⟩
  | cons st steps ih =>
    intro e h hheld hbackground
    have hleaves := (step_leaves h hheld hbackground.1).undisturbed
    obtain ⟨hinStep, hundisturbed⟩ :=
      ih (inStep_step h st) (hleaves.held hheld) hbackground.2
    exact ⟨hinStep, hleaves.trans hundisturbed⟩

theorem background_append {before after : List Step} : ∀ {e : Ensemble},
    e.Background (before ++ after) ↔ e.Background before ∧ (e.run before).Background after := by
  induction before with
  | nil => intro e; simp [Background]
  | cons st before ih => intro e; simp only [List.cons_append, Background, run_cons, ih, and_assoc]

/-- **Work in the background never disturbs the reader.** While the reader has paused, is on the
way to a line or selects, the screen keeps its snapshot and its place whatever is fetched without a
new generation, found, committed or drawn; no command moves it, and a pause lasts. A fetch that
changes the buffer tells how many lines it counts beyond the screen's. -/
theorem reader_undisturbed (settings : Settings) (source : Source) (steps background : List Step)
    (hheld : ((new settings source).run steps).session.viewport.Held)
    (hbackground : ((new settings source).run steps).Background background)
    (before : List Step) (st : Step) (after : List Step)
    (hsplit : background = before ++ st :: after) :
    let e := (new settings source).run steps
    let f := e.run before
    let g := (f.step st).1
    g.session.viewport.rendered = e.session.viewport.rendered ∧
    g.session.viewport.top = e.session.viewport.top ∧
    (∀ cmd ∈ (f.step st).2, cmd.moves = false) ∧
    (f.session.viewport.mode = .paused → g.session.viewport.mode = .paused) ∧
    g.session.viewport.rendered.generation = g.session.snapshot.generation ∧
    g.session.viewport.rendered.lineCount ≤ g.session.snapshot.lineCount ∧
    (g.session.buffer ≠ f.session.buffer → (f.step st).2.filterMap Command.badge? =
      [g.session.snapshot.lineCount - g.session.viewport.rendered.lineCount]) := by
  intro e f g
  have h : e.InStep := inStep_run settings source steps
  rw [hsplit, background_append] at hbackground
  obtain ⟨hbefore, hquiet, -⟩ := hbackground
  obtain ⟨hf, hreached⟩ := background_undisturbed before h hheld hbefore
  have hleaves := step_leaves hf (hreached.held hheld) hquiet
  have hundisturbed := hreached.trans hleaves.undisturbed
  have hgoesOn := (inStep_step hf st).goesOn
  obtain ⟨hgeneration, hcount⟩ := Viewport.isReset_eq_false_iff.1 hgoesOn
  refine ⟨hundisturbed.rendered, hundisturbed.top, hleaves.moves, hleaves.undisturbed.paused,
    hgeneration.symm, hcount, fun hchanged => ?_⟩
  rw [← Viewport.unseen_of_goesOn hgoesOn]
  exact hleaves.badges hchanged

/-- Lines are shown, the reader jumps to the latest one and selects before a frame is drawn. -/
def jumpedSelecting : List Step := [
  .call (.fetched ⟨0, .ok "a\nb"⟩), .call .jumpToLatest, .call (.setSelecting true)]

/-- A fourth line comes. -/
def lastLine : Step := .call (.fetched ⟨0, .ok "a\nb\nc\nd"⟩)

/-- Lines come before and after the frame. -/
def linesCome : List Step := [
  .call (.fetched ⟨0, .ok "a\nb\nc"⟩), .call .finishFrame, lastLine]

/-- The jump settles into the tail, and the selection still keeps the two lines on the screen. -/
theorem reader_undisturbed_jumpedSelecting :
    let e := (new {} (.file "app.log")).run jumpedSelecting
    let f := e.run (linesCome.take 2)
    f.session.viewport.mode = .tailing ∧
    (f.step lastLine).1.session.viewport.rendered = e.session.viewport.rendered ∧
    (f.step lastLine).2.filterMap Command.badge? = [2] := by
  have hbackground : ((new {} (.file "app.log")).run jumpedSelecting).Background linesCome := by
    refine ⟨?_, trivial, ?_, trivial⟩
    · change (_ : Nat) = _
      decide +kernel
    · change (_ : Nat) = _
      decide +kernel
  have hruns := reader_undisturbed {} (.file "app.log") jumpedSelecting linesCome
    (Or.inr (Or.inr (by decide +kernel))) hbackground (linesCome.take 2) lastLine [] rfl
  have hbefore : (((new {} (.file "app.log")).run jumpedSelecting).run
      (linesCome.take 2)).session.buffer.snapshot.version = 3 := by decide +kernel
  have hafter : ((((new {} (.file "app.log")).run jumpedSelecting).run
      (linesCome.take 2)).step lastLine).1.session.buffer.snapshot.version = 4 := by decide +kernel
  have hlatest : ((((new {} (.file "app.log")).run jumpedSelecting).run
      (linesCome.take 2)).step lastLine).1.session.snapshot.lineCount = 4 := by decide +kernel
  have hscreen : ((((new {} (.file "app.log")).run jumpedSelecting).run
      (linesCome.take 2)).step lastLine).1.session.viewport.rendered.lineCount = 2 := by
    decide +kernel
  have hmode : (((new {} (.file "app.log")).run jumpedSelecting).run
      (linesCome.take 2)).session.viewport.mode = .tailing := by decide +kernel
  dsimp only at hruns ⊢
  generalize ((new {} (.file "app.log")).run jumpedSelecting).run (linesCome.take 2) = f at *
  obtain ⟨hrendered, -, -, -, -, -, hbadges⟩ := hruns
  rw [hlatest, hscreen] at hbadges
  refine ⟨hmode, hrendered, hbadges fun hsame => ?_⟩
  rw [← hsame, hafter] at hbefore
  cases hbefore

end Ensemble

end LogTail
