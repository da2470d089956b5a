import LogTail.Proofs.App.FreeEnd
import LogTail.Proofs.Words.Ensemble
import Mathlib.Data.List.Infix

/-!
# A run in words

A session among its scans and the view it is shown in, watched from step to step. Whatever a run
works out is worked out in words (`run_in_words`), as long as the latest text never counts 2^63
lines: the session's arithmetic by `Ensemble.step?_eq`, and that of a frame and of a selection
because the view is at a line of the text that it shows.

No bound is needed for the amounts that are scrolled by and for the heights that the session is
told. A top line is clamped to the text before anything is added to it, and a height is only taken
off or halved.
-/

namespace LogTail

open Display (Command View)
open Log (Snapshot)
open Words

/-! ## The view -/

namespace Display.View

/-- The numbers of the lines in so many rows, as `visible` has them. -/
def visible? (view : View) (height : Nat) : Option (Nat × Nat) := do
  let start := max view.top view.snapshot.firstLine
  return (start, max (min (← sum? start height) (← view.snapshot.lineCount?)) start)

/-- What the bar beside so many rows shows: how many lines are retained, and how many of them are
above the rows. -/
def bar? (view : View) (height : Nat) : Option (Nat × Nat) := do
  let (start, _) ← view.visible? height
  let retained ← difference? (← view.snapshot.lineCount?) view.snapshot.firstLine
  return (retained, ← difference? start view.snapshot.firstLine)

variable {view : View} {height : Nat}

theorem visible?_eq (hsnapshot : view.snapshot.Small) (htop : view.top < 2 ^ 63)
    (hheight : height < 2 ^ 63) : view.visible? height = some (view.visible height) := by
  have hsum : max view.top view.snapshot.firstLine + height < 2 ^ 64 := by
    have hfirst : view.snapshot.firstLine < 2 ^ 63 :=
      Nat.lt_of_le_of_lt (Nat.le_add_right ..) hsnapshot
    omega
  simp only [visible?, sum?_eq hsum, hsnapshot.lineCount?_eq, Option.bind_eq_bind, Option.bind_some]
  rfl

theorem bar?_eq (hsnapshot : view.snapshot.Small) (htop : view.top < 2 ^ 63)
    (hheight : height < 2 ^ 63) : view.bar? height = some
      (view.snapshot.lineCount - view.snapshot.firstLine,
        (view.visible height).1 - view.snapshot.firstLine) := by
  have hretained : view.snapshot.firstLine ≤ view.snapshot.lineCount := Nat.le_add_right ..
  have habove : view.snapshot.firstLine ≤ (view.visible height).1 := Nat.le_max_right ..
  simp only [bar?, visible?_eq hsnapshot htop hheight, hsnapshot.lineCount?_eq,
    difference?_eq hretained, difference?_eq habove, Option.bind_eq_bind, Option.bind_some]
  rfl

end Display.View

/-! ## The free end of a selection -/

namespace App

variable {ε : Type}

def scrollBy? (a : App ε) (now : Nat) (delta : Int) : Option (App ε) :=
  (a.session.call? (.scrollBy delta)).map (a.take now)

def moveSelection? (a : App ε) (now : Nat) (delta : Int) : Option (App ε) :=
  match a.selection with
  | none => some a
  | some selection =>
    if a.view.snapshot.isEmpty then some a
    else do
      let last ← difference? (← a.view.snapshot.lineCount?) 1
      let cursor ← clamp? a.view.snapshot.firstLine last
        (min ((selection.cursor : Int) + delta).toNat (2 ^ 64 - 1))
      let (start, _) ← a.view.visible? a.pageSize
      let a := { a with selection := some { selection with cursor := cursor } }
      if cursor < start then a.scrollBy? now ((cursor : Int) - start)
      else if (← sum? start a.pageSize) ≤ cursor then
        let below ← difference? (← difference? (← sum? cursor 1) start) a.pageSize
        a.scrollBy? now below
      else return a

variable {a : App ε}

theorem scrollBy?_eq (h : a.session.Small) (now : Nat) (delta : Int) :
    a.scrollBy? now delta = some (a.scrollBy now delta) := by
  simp only [scrollBy?, Session.call?, Viewport.scrollBy?_eq h.rendered h.snapshot h.nearBottom,
    Option.map_some]
  rfl

/-- The bounds of the free end are in order, because there is a line. -/
theorem moveSelection?_eq (h : a.session.Small) (hsnapshot : a.view.snapshot.Small)
    (htop : a.view.top < 2 ^ 63) (hrows : a.pageSize < 2 ^ 63) (now : Nat) (delta : Int) :
    a.moveSelection? now delta = some (a.moveSelection now delta) := by
  unfold moveSelection? moveSelection
  cases a.selection with
  | none => rfl
  | some selection =>
    simp only
    split
    · rfl
    · rename_i hlines
      have hlast := Snapshot.firstLine_lt_lineCount (Bool.eq_false_iff.2 hlines)
      have hcount : a.view.snapshot.lineCount < 2 ^ 63 := hsnapshot
      have hclamp : max a.view.snapshot.firstLine
          (min (min ((selection.cursor : Int) + delta).toNat (2 ^ 64 - 1))
            (a.view.snapshot.lineCount - 1)) =
          max a.view.snapshot.firstLine
            (min ((selection.cursor : Int) + delta).toNat (a.view.snapshot.lineCount - 1)) := by
        omega
      have hstart : (a.view.visible a.pageSize).1 < 2 ^ 63 := by
        simp only [View.visible]
        omega
      simp only [hsnapshot.lineCount?_eq, difference?_eq (Nat.one_le_of_lt hlast),
        clamp?_eq (Nat.le_sub_one_of_lt hlast), hclamp, View.visible?_eq hsnapshot htop hrows,
        Option.bind_eq_bind, Option.bind_some]
      generalize hcursor : max a.view.snapshot.firstLine
        (min ((selection.cursor : Int) + delta).toNat (a.view.snapshot.lineCount - 1)) = cursor
      generalize (a.view.visible a.pageSize).1 = start at hstart
      have hscrolls := scrollBy?_eq
        (a := { a with selection := some { selection with cursor := cursor } }) h now
      split
      · exact hscrolls _
      · rw [sum?_eq (show start + a.pageSize < 2 ^ 64 by omega), Option.bind_some]
        split
        · rw [sum?_eq (show cursor + 1 < 2 ^ 64 by omega), Option.bind_some,
            difference?_eq (show start ≤ cursor + 1 by omega), Option.bind_some,
            difference?_eq (show a.pageSize ≤ cursor + 1 - start by omega), Option.bind_some,
            hscrolls]
          congr 2
          omega
        · rfl

end App

/-! ## Runs -/

/-- A session among its scans, and the view that it is shown in. -/
structure Watched where
  ensemble : Ensemble
  view : View

namespace Watched

def new (settings : Settings) (source : Source) : Watched :=
  ⟨.new settings source, { flashTime := settings.flash }⟩

/-- Take a step at a time; the view carries out what is said. -/
def step (w : Watched) (timed : Nat × Step) : Watched :=
  ⟨(w.ensemble.step timed.2).1, w.view.carryOut timed.1 (w.ensemble.step timed.2).2⟩

def step? (w : Watched) (timed : Nat × Step) : Option Watched :=
  (w.ensemble.step? timed.2).map fun r => ⟨r.1, w.view.carryOut timed.1 r.2⟩

def run (w : Watched) (steps : List (Nat × Step)) : Watched := steps.foldl step w

def run? (w : Watched) (steps : List (Nat × Step)) : Option Watched := steps.foldlM step? w

theorem run_ensemble (steps : List (Nat × Step)) : ∀ w : Watched,
    (w.run steps).ensemble = w.ensemble.run (steps.map (·.2)) := by
  induction steps with
  | nil => intro w; rfl
  | cons timed steps ih => intro w; exact ih (w.step timed)

theorem run_append (w : Watched) (before after : List (Nat × Step)) :
    w.run (before ++ after) = (w.run before).run after := List.foldl_append ..

theorem shown_run (settings : Settings) (source : Source) (steps : List (Nat × Step)) :
    ((new settings source).run steps).ensemble.session.ShownOn
      ((new settings source).run steps).view := by
  induction steps using List.reverseRecOn with
  | nil =>
    refine ⟨⟨rfl, rfl, rfl⟩, Prod.ext ?_ rfl⟩
    exact (Search.resultsOf_nothing rfl rfl _ _).symm
  | append_singleton steps timed ih =>
    have hinStep : ((new settings source).run steps).ensemble.InStep := by
      rw [run_ensemble]
      exact Ensemble.inStep_run settings source _
    rw [run_append]
    exact (Ensemble.step_tells hinStep timed.2).shown ih timed.1

theorem step?_eq {w : Watched} (h : w.ensemble.Small) (hsound : w.ensemble.Sound)
    (timed : Nat × Step) (hafter : (w.step timed).ensemble.Small) :
    w.step? timed = some (w.step timed) := by
  rw [step?, Ensemble.step?_eq h hsound timed.2 hafter.session.toCounts]
  rfl

section

variable {settings : Settings} {source : Source} {steps : List (Nat × Step)}

theorem small_run (hsettings : settings.Small)
    (hlines : (Ensemble.new settings source).StaysSmall (steps.map (·.2))) :
    ((new settings source).run steps).ensemble.Small := by
  rw [run_ensemble]
  exact Ensemble.small_run hsettings hlines

/-- The steps of a run have their results, one after the other. -/
theorem run?_eq (hsettings : settings.Small)
    (hlines : (Ensemble.new settings source).StaysSmall (steps.map (·.2))) :
    (new settings source).run? steps = some ((new settings source).run steps) := by
  induction steps using List.reverseRecOn with
  | nil => rfl
  | append_singleton steps timed ih =>
    have hbefore : (Ensemble.new settings source).StaysSmall (steps.map (·.2)) := by
      rw [List.map_append] at hlines
      exact hlines.prefix
    have hsound : ((new settings source).run steps).ensemble.Sound := by
      rw [run_ensemble]
      exact (Ensemble.tracked_run settings source _).sound
    have hafter := small_run hsettings hlines
    rw [run_append] at hafter ⊢
    have hstep := step?_eq (small_run hsettings hbefore) hsound timed hafter
    rw [run?, List.foldlM_append, ← run?, ih hbefore, Option.bind_eq_bind, Option.bind_some,
      List.foldlM_cons, hstep]
    rfl

/-- The view is at a line of the text that the session has on the screen. -/
theorem view_small (hsettings : settings.Small)
    (hlines : (Ensemble.new settings source).StaysSmall (steps.map (·.2))) :
    ((new settings source).run steps).view.snapshot.Small ∧
    ((new settings source).run steps).view.top < 2 ^ 63 := by
  have hrendered := (small_run hsettings hlines).session.rendered
  have hplace := (shown_run settings source steps).place
  have hpage : ((new settings source).run steps).ensemble.session.viewport.OnPage := by
    rw [run_ensemble]
    exact Ensemble.onPage_run settings source _
  rw [hplace.snapshot, hplace.top]
  exact ⟨hrendered, Nat.lt_of_le_of_lt hpage.maxTop (Viewport.maxTop_lt hrendered)⟩

end

/-- **Whatever a run works out is worked out in words.** With settings from any file and any
environment, a run whose texts all count fewer than 2^63 lines has its result in words, step by
step. At any time the rows of a frame and the bar beside them are worked out in words, and so is
where the free end of a selection goes in an application with this session and this view. -/
theorem run_in_words (file : Option (List UInt8)) (env : String → Option String) (source : Source)
    (steps : List (Nat × Step))
    (hlines : (Ensemble.new (Settings.load file env) source).StaysSmall (steps.map (·.2))) :
    let w := (new (Settings.load file env) source).run steps
    (new (Settings.load file env) source).run? steps = some w ∧
    ∀ height, height < 2 ^ 63 →
      w.view.visible? height = some (w.view.visible height) ∧
      w.view.bar? height = some (w.view.snapshot.lineCount - w.view.snapshot.firstLine,
        (w.view.visible height).1 - w.view.snapshot.firstLine) ∧
      ∀ {ε : Type} (other : App ε) (now : Nat) (delta : Int),
        let a : App ε :=
          { other with session := w.ensemble.session, view := w.view, pageSize := height }
        a.moveSelection? now delta = some (a.moveSelection now delta) := by
  intro w
  have hsettings := Settings.load_small file env
  have hsession : w.ensemble.session.Small := (small_run hsettings hlines).session
  obtain ⟨hsnapshot, htop⟩ := view_small hsettings hlines
  refine ⟨run?_eq hsettings hlines, fun height hheight => ⟨?_, ?_, fun other now delta => ?_⟩⟩
  · exact View.visible?_eq hsnapshot htop hheight
  · exact View.bar?_eq hsnapshot htop hheight
  · exact App.moveSelection?_eq hsession hsnapshot htop hheight now delta

/-- The reader has two rows, looks for a term, goes to its last match and scrolls on to the end. -/
def soughtBackwards : List (Nat × Step) := [
  (0, .call (.setHeight 2)), (0, .call (.fetched ⟨0, .ok "alpha\nbeta\nalpha\ngamma"⟩)),
  (0, .call (.editQuery "al" 0)), (1000, .call (.tick 1000)), (1000, .begin 0),
  (1000, .advance 0), (1000, .deliver 0), (1000, .call (.navigate .prev)),
  (1000, .call .finishFrame), (1000, .call (.scrollBy 3))]

/-- The last two of the four lines are in the rows. -/
theorem run_in_words_soughtBackwards :
    let settings := Settings.load none fun _ => none
    let w := (new settings (.file "app.log")).run soughtBackwards
    (Ensemble.new settings (.file "app.log")).StaysSmall (soughtBackwards.map (·.2)) ∧
    (new settings (.file "app.log")).run? soughtBackwards = some w ∧
    w.view.visible? 2 = some (2, 4) ∧ w.view.bar? 2 = some (4, 2) := by
  intro settings w
  have hlines : (Ensemble.new settings (.file "app.log")).StaysSmall
      (soughtBackwards.map (·.2)) := by
    have hinits : ∀ before ∈ (soughtBackwards.map (·.2)).inits, ((Ensemble.new settings
        (.file "app.log")).run before).session.snapshot.lineCount < 2 ^ 63 := by decide +kernel
    exact fun before hbefore => hinits before ((List.mem_inits ..).2 hbefore)
  obtain ⟨hrun, hframe⟩ :=
    run_in_words none (fun _ => none) (.file "app.log") soughtBackwards hlines
  obtain ⟨hvisible, hbar, -⟩ := hframe 2 (by decide)
  refine ⟨hlines, hrun, hvisible.trans ?_, hbar.trans ?_⟩
  · decide +kernel
  · decide +kernel

/-- With a setting that no file can hold there is no result: line 1 as the top line and `nearBottom`
add up to no word. -/
example : ((new { nearBottom := 2 ^ 64 - 1 } (.file "app.log")).run? [
    (0, .call (.fetched ⟨0, .ok "a\nb\nc"⟩)), (0, .call (.scrollBy (-1)))]).isNone = true := by
  decide +kernel

end Watched

end LogTail
