import LogTail.Display.View
import LogTail.Proofs.Viewport

/-!
# What the viewport tells the screen

The screen shows the viewport's snapshot at its top line and counts what the reader has not seen,
but it hears of all this through commands alone. `Tells` lists what an operation of the viewport
can say: nothing, a new top line, a count of unseen lines, or a new snapshot with both. A screen
that showed the viewport before and carries the commands out shows it afterwards (`Tells.shows`),
and the snapshot on it stays one that the latest snapshot goes on from (`Tells.goesOn`).

Where the reader's place is held (`Held`), a new snapshot that goes on and the end of a jump leave
the screen as it is, and the place stays held (`Undisturbed`).
-/

namespace LogTail

open Display (Command View)
open Log (Snapshot)

/-! ## Carrying out commands -/

def Display.View.carryOut (view : View) (now : Nat) (cmds : List Command) : View :=
  cmds.foldl (fun view cmd => view.apply now cmd) view

theorem Display.View.carryOut_append (view : View) (now : Nat) (cmds more : List Command) :
    view.carryOut now (cmds ++ more) = (view.carryOut now cmds).carryOut now more :=
  List.foldl_append ..

namespace Viewport

variable {v w : Viewport} {old latest : Snapshot} {cmds : List Command}

/-! ## Going on -/

/-- The latest snapshot leaves the screen as it is just in case it is of the same generation and
has no fewer lines. -/
theorem isReset_eq_false_iff : v.isReset latest = false ↔
    latest.generation = v.rendered.generation ∧ v.rendered.lineCount ≤ latest.lineCount := by
  simp [isReset]

/-- Then the unseen lines are those that the latest snapshot counts beyond the screen's. -/
theorem unseen_of_goesOn (h : v.isReset latest = false) :
    v.unseen latest = latest.lineCount - v.rendered.lineCount :=
  if_pos (isReset_eq_false_iff.1 h).1

theorem isReset_of_rendered (h : v.rendered = latest) : v.isReset latest = false :=
  isReset_eq_false_iff.2 (h ▸ ⟨rfl, Nat.le_refl _⟩)

/-- Then the screen lacks the lines that it does not hold. -/
theorem lacks_iff {line : Nat} (h : v.isReset latest = false) :
    v.lacks line latest = true ↔ v.rendered.line? line = none := by
  rw [← Option.not_isSome_iff_eq_none, Snapshot.line?_isSome]
  simp only [lacks, (isReset_eq_false_iff.1 h).1, ne_eq, not_true_eq_false, decide_false,
    Bool.false_or, Bool.or_eq_true, decide_eq_true_eq]
  omega

theorem jumpToLine_rendered (v : Viewport) (line : Nat) (flash : Bool) (latest : Snapshot) :
    (v.jumpToLine line flash latest).1.rendered =
      if v.lacks line latest then latest else v.rendered := by
  cases hlacks : v.lacks line latest <;> simp [jumpToLine, hlacks, render, scrollTo]

/-! ## What an operation says -/

/-- What an operation can tell the screen, when the latest snapshot was `old` before it and is
`latest` after it. -/
inductive Tells (old : Snapshot) (v : Viewport) (latest : Snapshot) (w : Viewport) :
    List Command → Prop where
  /-- Nothing that the screen shows has changed. -/
  | nothing (same : latest = old) (rendered : w.rendered = v.rendered) (top : w.top = v.top) :
      Tells old v latest w []
  /-- The same lines at another place. -/
  | scrolls (same : latest = old) (rendered : w.rendered = v.rendered) (line : Nat)
      (flash : Bool) : Tells old v latest w [.scroll line w.top flash]
  /-- The same lines at another place, and how many are unseen. -/
  | jumps (same : latest = old) (rendered : w.rendered = v.rendered) (line : Nat) (flash : Bool) :
      Tells old v latest w [.scroll line w.top flash, w.badge latest]
  /-- Only how many lines are unseen. -/
  | counts (goesOn : v.isReset latest = false) (rendered : w.rendered = v.rendered)
      (top : w.top = v.top) : Tells old v latest w [w.badge latest]
  /-- The latest snapshot. -/
  | renders (rendered : w.rendered = latest) (line : Nat) (flash : Bool) :
      Tells old v latest w [.render latest, .scroll line w.top flash, w.badge latest]

theorem scrollTo_tells {u : Viewport} (h : u.rendered = v.rendered) (line top : Nat)
    (flash : Bool) : Tells latest v latest (u.scrollTo line top flash).1
      (u.scrollTo line top flash).2 :=
  Tells.scrolls (w := (u.scrollTo line top flash).1) rfl h line flash

theorem scrollTo_badge_tells {u : Viewport} (h : u.rendered = v.rendered) (line top : Nat)
    (flash : Bool) : Tells latest v latest (u.scrollTo line top flash).1
      ((u.scrollTo line top flash).2 ++ [(u.scrollTo line top flash).1.badge latest]) :=
  Tells.jumps (w := (u.scrollTo line top flash).1) rfl h line flash

theorem render_scrollTo_tells {u : Viewport} (h : u.rendered = latest) (line top : Nat)
    (flash : Bool) : Tells old v latest (u.scrollTo line top flash).1
      (.render latest :: (u.scrollTo line top flash).2 ++
        [(u.scrollTo line top flash).1.badge latest]) :=
  Tells.renders (w := (u.scrollTo line top flash).1) h line flash

theorem renderBottom_tells (u : Viewport) : Tells old v latest (u.renderBottom latest).1
    ((u.renderBottom latest).2 ++ [(u.renderBottom latest).1.badge latest]) :=
  render_scrollTo_tells (u := (u.render latest).1) rfl ..

/-- What is said does not depend on the mode before. -/
theorem Tells.of_rendered {u : Viewport} (h : Tells old u latest w cmds)
    (rendered : u.rendered = v.rendered) (top : u.top = v.top) : Tells old v latest w cmds := by
  cases h with
  | nothing same hr ht => exact .nothing same (hr.trans rendered) (ht.trans top)
  | scrolls same hr line flash => exact .scrolls same (hr.trans rendered) line flash
  | jumps same hr line flash => exact .jumps same (hr.trans rendered) line flash
  | counts goesOn hr ht =>
    refine .counts ?_ (hr.trans rendered) (ht.trans top)
    rwa [isReset, ← rendered]
  | renders hr line flash => exact .renders hr line flash

/-! ## The operations -/

theorem update_tells (v : Viewport) (old latest : Snapshot) :
    Tells old v latest (v.update latest).1 (v.update latest).2 := by
  cases hmode : v.mode with
  | tailing =>
    cases hholds : v.selecting && !v.isReset latest with
    | true =>
      simp only [update, hmode, hholds, if_true, List.nil_append]
      simp only [Bool.and_eq_true, Bool.not_eq_true'] at hholds
      exact .counts hholds.2 rfl rfl
    | false =>
      simp only [update, hmode, hholds, Bool.false_eq_true, if_false]
      exact renderBottom_tells _
  | paused | jumping target resume =>
    cases hreset : v.isReset latest with
    | true =>
      simp only [update, hmode, hreset, ↓reduceIte]
      exact render_scrollTo_tells (by rfl) ..
    | false =>
      simp only [update, hmode, hreset, Bool.false_eq_true, if_false, List.nil_append]
      exact .counts hreset rfl rfl

theorem scrollBy_tells (v : Viewport) (delta : Int) (latest : Snapshot) :
    Tells latest v latest (v.scrollBy delta latest).1 (v.scrollBy delta latest).2 := by
  cases hmode : v.mode with
  | jumping target resume =>
    simp only [scrollBy, hmode]
    exact .nothing rfl rfl rfl
  | tailing =>
    simp only [scrollBy, hmode]
    refine scrollTo_tells ?_ ..
    split
    · rfl
    · rfl
  | paused =>
    simp only [scrollBy, hmode]
    split
    · split
      · exact scrollTo_badge_tells (by rfl) ..
      · split
        · exact scrollTo_badge_tells (by rfl) ..
        · exact renderBottom_tells _
    · exact scrollTo_tells (by rfl) ..

theorem jumpToLine_tells (v : Viewport) (line : Nat) (flash : Bool) (latest : Snapshot) :
    Tells latest v latest (v.jumpToLine line flash latest).1
      (v.jumpToLine line flash latest).2 := by
  cases hlacks : v.lacks line latest with
  | true =>
    simp only [jumpToLine, hlacks, if_true]
    exact render_scrollTo_tells (by rfl) ..
  | false =>
    simp only [jumpToLine, hlacks, Bool.false_eq_true, if_false, List.nil_append]
    exact scrollTo_badge_tells (by rfl) ..

theorem finishJump_tells (v : Viewport) (latest : Snapshot) :
    Tells latest v latest (v.finishJump latest).1 (v.finishJump latest).2 := by
  unfold finishJump
  split
  · exact .nothing rfl rfl rfl
  · simp only
    split
    · exact .nothing rfl rfl rfl
    · exact (update_tells { v with mode := .tailing } latest latest).of_rendered rfl rfl
  · exact .nothing rfl rfl rfl

theorem scrollToTop_tells (v : Viewport) (latest : Snapshot) :
    Tells latest v latest v.scrollToTop.1 v.scrollToTop.2 := by
  unfold scrollToTop
  split
  · exact .nothing rfl rfl rfl
  · exact scrollTo_tells (by rfl) ..

theorem jumpToLatest_tells (v : Viewport) (latest : Snapshot) :
    Tells latest v latest (v.jumpToLatest latest).1 (v.jumpToLatest latest).2 :=
  renderBottom_tells _

theorem setSelecting_tells (v : Viewport) (active : Bool) (latest : Snapshot) :
    Tells latest v latest (v.setSelecting active latest).1 (v.setSelecting active latest).2 := by
  simp only [setSelecting]
  split
  · exact renderBottom_tells _
  · exact .nothing rfl rfl rfl

theorem setHeight_tells (v : Viewport) (height : Nat) (latest : Snapshot) :
    Tells latest v latest (v.setHeight height).1 (v.setHeight height).2 := by
  simp only [setHeight]
  split
  · exact .nothing rfl rfl rfl
  · split
    · exact scrollTo_tells (by rfl) ..
    · split
      · exact .nothing rfl rfl rfl
      · exact scrollTo_tells (by rfl) ..

theorem restart_tells (v : Viewport) (old latest : Snapshot) :
    Tells old v latest (v.restart latest).1 (v.restart latest).2 :=
  renderBottom_tells _

/-! ## What the screen shows -/

/-- The screen shows the viewport's lines and how many lines of the latest snapshot it lacks. -/
structure ShownOn (v : Viewport) (latest : Snapshot) (view : View) : Prop where
  snapshot : view.snapshot = v.rendered
  top : view.top = v.top
  unseen : view.unseen = v.unseen latest

/-- **The screen keeps up with the viewport** when it carries out what it is told. -/
theorem Tells.shown (h : Tells old v latest w cmds) {view : View} (hview : v.ShownOn old view)
    (now : Nat) : w.ShownOn latest (view.carryOut now cmds) := by
  have hunseen (same : latest = old) (rendered : w.rendered = v.rendered) :
      view.unseen = w.unseen latest := by
    rw [hview.unseen, same, unseen, unseen, rendered]
  cases h with
  | nothing same rendered top =>
    exact ⟨hview.snapshot.trans rendered.symm, hview.top.trans top.symm, hunseen same rendered⟩
  | scrolls same rendered line flash =>
    exact ⟨hview.snapshot.trans rendered.symm, rfl, hunseen same rendered⟩
  | jumps same rendered line flash => exact ⟨hview.snapshot.trans rendered.symm, rfl, rfl⟩
  | counts goesOn rendered top =>
    exact ⟨hview.snapshot.trans rendered.symm, hview.top.trans top.symm, rfl⟩
  | renders rendered line flash => exact ⟨rendered.symm, rfl, rfl⟩

/-- What the screen shows of the search is none of the viewport's business. -/
theorem Tells.search_kept (h : Tells old v latest w cmds) (view : View) (now : Nat) :
    (view.carryOut now cmds).results = view.results ∧
    (view.carryOut now cmds).status = view.status := by
  cases h <;> exact ⟨rfl, rfl⟩

/-- The latest snapshot goes on from the one on the screen if it did so before. -/
theorem Tells.goesOn (h : Tells old v latest w cmds) (hbefore : v.isReset old = false) :
    w.isReset latest = false := by
  have hkept (same : latest = old) (rendered : w.rendered = v.rendered) :
      w.isReset latest = false := by
    rw [same, isReset, rendered]
    exact hbefore
  cases h with
  | nothing same rendered top => exact hkept same rendered
  | scrolls same rendered line flash => exact hkept same rendered
  | jumps same rendered line flash => exact hkept same rendered
  | counts goesOn rendered top =>
    rw [isReset, rendered]
    exact goesOn
  | renders rendered line flash => exact isReset_of_rendered rendered

/-! ## A place that is held -/

/-- The reader has paused, is on the way to a line, or selects. -/
def Held (v : Viewport) : Prop :=
  v.mode = .paused ∨ (∃ target, v.mode = .jumping target .paused) ∨ v.selecting = true

/-- Nothing has moved on the screen, and a place that was held still is. -/
structure Undisturbed (v w : Viewport) : Prop where
  rendered : w.rendered = v.rendered
  top : w.top = v.top
  held : v.Held → w.Held
  paused : v.mode = .paused → w.mode = .paused

theorem Undisturbed.refl (v : Viewport) : v.Undisturbed v := ⟨rfl, rfl, id, id⟩

theorem Undisturbed.trans {u : Viewport} (h₁ : u.Undisturbed v) (h₂ : v.Undisturbed w) :
    u.Undisturbed w where
  rendered := h₂.rendered.trans h₁.rendered
  top := h₂.top.trans h₁.top
  held h := h₂.held (h₁.held h)
  paused h := h₂.paused (h₁.paused h)

/-- A text that goes on is only counted. -/
theorem update_undisturbed (hheld : v.Held) (hgoesOn : v.isReset latest = false) :
    v.Undisturbed (v.update latest).1 ∧
    (v.update latest).2 = [(v.update latest).1.badge latest] := by
  cases hmode : v.mode with
  | tailing =>
    have hselecting : v.selecting = true := by simpa [Held, hmode] using hheld
    have hholds : (v.update latest).1 = { v with renderHeld := true } ∧
        (v.update latest).2 = [(v.update latest).1.badge latest] := by
      simp [update, hmode, hselecting, hgoesOn]
    rw [hholds.2, hholds.1]
    exact ⟨⟨rfl, rfl, fun _ => hheld, fun h => absurd h (by simp [hmode])⟩, rfl⟩
  | paused | jumping target resume =>
    have hcounts : (v.update latest).1 = v ∧ (v.update latest).2 = [v.badge latest] := by
      simp [update, hmode, hgoesOn]
    rw [hcounts.2, hcounts.1]
    exact ⟨.refl v, rfl⟩

/-- A frame that is drawn settles a jump where it went. Only the end of a jump to the latest line
under a selection says anything: how many lines came meanwhile. -/
theorem finishJump_undisturbed (hheld : v.Held) (hgoesOn : v.isReset latest = false) :
    v.Undisturbed (v.finishJump latest).1 ∧
    ((v.finishJump latest).2 = [] ∨
      (v.finishJump latest).2 = [(v.finishJump latest).1.badge latest]) := by
  unfold finishJump
  split
  · rename_i target hmode
    exact ⟨⟨rfl, rfl, fun _ => Or.inl rfl, fun _ => rfl⟩, Or.inl rfl⟩
  · rename_i target hmode
    have hselecting : v.selecting = true := by simpa [Held, hmode] using hheld
    have hsettles : v.Undisturbed { v with mode := .tailing } :=
      ⟨rfl, rfl, fun _ => Or.inr (Or.inr hselecting), fun h => absurd h (by simp [hmode])⟩
    simp only
    split
    · exact ⟨hsettles, Or.inl rfl⟩
    · obtain ⟨hupdates, hcmds⟩ := update_undisturbed (hsettles.held hheld) hgoesOn
      exact ⟨hsettles.trans hupdates, Or.inr hcmds⟩
  · exact ⟨.refl v, Or.inl rfl⟩

theorem enterSearch_undisturbed (v : Viewport) : v.Undisturbed v.enterSearch := by
  unfold enterSearch
  split
  · exact ⟨rfl, rfl, fun _ => Or.inl rfl, fun _ => rfl⟩
  · exact .refl v

end Viewport

end LogTail
