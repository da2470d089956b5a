import LogTail.Proofs.Log.Generations
import LogTail.Proofs.Viewport.Page
import LogTail.Proofs.Viewport.Screen
import Mathlib.Logic.Relation

/-!
# The target of a jump

A jump puts its line in the middle of the view, or as near to it as the ends of the text allow, and
so into one of the rows (`showsLine_clampTop`). Until the frame is drawn the reader's scrolls are
ignored, text that goes on is only counted, and a taller view has the line still. The screen may
hold an older snapshot all the while, and the line may be evicted from the latest one.

`Driven` are the states of a viewport that hears of the snapshots of one buffer in their order, and
`Lingers` is what may happen while a jump waits.
-/

namespace LogTail.Viewport

open Log (Buffer Snapshot)

variable {b c : Buffer} {v w : Viewport} {line : Nat} {latest : Snapshot}

/-- A line is on the screen, in one of the rows. -/
structure ShowsLine (v : Viewport) (line : Nat) : Prop where
  retained : (v.rendered.line? line).isSome = true
  top : v.top ≤ line
  bottom : line < v.top + v.height

/-! ## Into view -/

/-- A top line from which a retained line would be in view leaves it there when it is moved to where
there is text. -/
theorem showsLine_clampTop {top : Nat} (hretained : (v.rendered.line? line).isSome = true)
    (htop : top ≤ line) (hbottom : line < top + v.height) :
    ShowsLine { v with top := v.clampTop top } line := by
  obtain ⟨hfirst, hlast⟩ := Snapshot.line?_isSome.1 hretained
  refine ⟨hretained, ?_, ?_⟩
  · exact Nat.max_le.2 ⟨hfirst, Nat.le_trans (Nat.min_le_left ..) htop⟩
  · simp only [clampTop, maxTop]
    omega

theorem line?_of_lacks (h : v.lacks line latest = false) :
    (v.rendered.line? line).isSome = true := by
  simp only [lacks, Bool.or_eq_false_iff, decide_eq_false_iff_not] at h
  exact Snapshot.line?_isSome.2 ⟨Nat.le_of_not_lt h.2, Nat.lt_of_not_le h.1.2⟩

/-- **A jump brings its line into view**, whatever the screen showed before. -/
theorem jumpToLine_showsLine (hheight : 0 < v.height)
    (hretained : (latest.line? line).isSome = true) (flash : Bool) :
    (v.jumpToLine line flash latest).1.ShowsLine line := by
  have hcenter : line - v.height / 2 ≤ line ∧ line < line - v.height / 2 + v.height := by omega
  cases hlacks : v.lacks line latest with
  | true =>
    have hshows := showsLine_clampTop (v := (v.render latest).1) hretained hcenter.1 hcenter.2
    simp only [jumpToLine, hlacks, if_true]
    exact ⟨hshows.retained, hshows.top, hshows.bottom⟩
  | false =>
    have hshows := showsLine_clampTop (line?_of_lacks hlacks) hcenter.1 hcenter.2
    simp only [jumpToLine, hlacks, Bool.false_eq_true, if_false]
    exact ⟨hshows.retained, hshows.top, hshows.bottom⟩

theorem jumpToLine_mode (v : Viewport) (line : Nat) (flash : Bool) (latest : Snapshot) :
    (v.jumpToLine line flash latest).1.mode = .jumping line .paused := rfl

theorem jumpToLine_anchor (v : Viewport) (line : Nat) (flash : Bool) (latest : Snapshot) :
    (v.jumpToLine line flash latest).1.anchor = some line := rfl

/-- When the frame is drawn the reader has paused where the jump went. -/
theorem finishJump_of_jumping (h : v.mode = .jumping line .paused) (latest : Snapshot) :
    v.finishJump latest = ({ v with mode := .paused }, []) := by
  simp [finishJump, h]

/-- A view that is not at the tail keeps its place when it gets another height, as far as there is
text for it. -/
theorem setHeight_of_not_tailing (h : v.mode ≠ .tailing) (height : Nat) :
    (v.setHeight height).1 = v ∨ (v.setHeight height).1 = { v with
      height := max height 1
      top := clampTop { v with height := max height 1 } v.top } := by
  simp only [setHeight, h, if_false]
  split
  · exact Or.inl rfl
  · split
    · rename_i hsame
      rw [hsame]
      exact Or.inr rfl
    · exact Or.inr rfl

theorem setHeight_mode (v : Viewport) (height : Nat) : (v.setHeight height).1.mode = v.mode := by
  unfold setHeight
  simp only
  split
  · rfl
  · split
    · rfl
    · split <;> rfl

/-- A view that gets taller shows what it showed. -/
theorem ShowsLine.setHeight (h : v.ShowsLine line) (hmode : v.mode ≠ .tailing) {height : Nat}
    (htaller : v.height ≤ max height 1) : (v.setHeight height).1.ShowsLine line := by
  rcases setHeight_of_not_tailing hmode height with hsame | hclamped
  · rwa [hsame]
  · rw [hclamped]
    exact showsLine_clampTop (v := { v with height := max height 1 }) h.retained h.top
      (Nat.lt_of_lt_of_le h.bottom (Nat.add_le_add_left htaller _))

/-- The line is among those that the screen shows. -/
theorem ShowsLine.visible (h : v.ShowsLine line) {view : Display.View}
    (hview : v.ShownOn latest view) : (view.snapshot.line? line).isSome = true ∧
    (view.visible v.height).1 ≤ line ∧ line < (view.visible v.height).2 := by
  obtain ⟨hfirst, hlast⟩ := Snapshot.line?_isSome.1 h.retained
  have htop := h.top
  have hbottom := h.bottom
  rw [hview.snapshot]
  refine ⟨h.retained, ?_⟩
  simp only [Display.View.visible, hview.snapshot, hview.top]
  omega

/-! ## Snapshots of one buffer -/

/-- The snapshot that an operation is told of. -/
def Operation.latest? : Operation → Option Snapshot
  | .update latest | .scrollBy _ latest | .jumpToLatest latest | .jumpToLine _ _ latest
  | .finishJump latest | .setSelecting _ latest | .restart latest => some latest
  | .scrollToTop | .enterSearch | .setHeight _ => none

/-- The states of a viewport that hears of the snapshots of one buffer in their order. It need not
hear of each of them. -/
inductive Driven (maxLines nearBottom : Nat) : Buffer → Viewport → Prop where
  | start : Driven maxLines nearBottom (Buffer.empty maxLines) { nearBottom := nearBottom }
  | log {b : Buffer} {v : Viewport} (h : Driven maxLines nearBottom b v) (op : Buffer.Operation) :
      Driven maxLines nearBottom (b.operate op) v
  | view {b : Buffer} {v : Viewport} (h : Driven maxLines nearBottom b v) (op : Operation)
      (latest : ∀ snapshot ∈ op.latest?, snapshot = b.snapshot) :
      Driven maxLines nearBottom b (v.operate op)

/-- The screen holds what it held or the latest snapshot. -/
theorem Tells.rendered {old : Snapshot} {cmds : List Display.Command}
    (h : Tells old v latest w cmds) : w.rendered = v.rendered ∨ w.rendered = latest := by
  cases h with
  | nothing _ rendered | scrolls _ rendered | jumps _ rendered | counts _ rendered =>
    exact Or.inl rendered
  | renders rendered => exact Or.inr rendered

theorem operate_rendered (v : Viewport) (op : Operation) :
    (v.operate op).rendered = v.rendered ∨ op.latest? = some (v.operate op).rendered := by
  have htells {latest : Snapshot} {w : Viewport} {cmds : List Display.Command}
      (h : Tells latest v latest w cmds) :
      w.rendered = v.rendered ∨ some latest = some w.rendered :=
    h.rendered.imp_right fun hlatest => congrArg some hlatest.symm
  cases op with
  | update latest => exact htells (v.update_tells latest latest)
  | scrollBy delta latest => exact htells (v.scrollBy_tells delta latest)
  | scrollToTop =>
    refine Or.inl ?_
    simp only [operate, Viewport.scrollToTop]
    split <;> rfl
  | jumpToLatest latest => exact htells (v.jumpToLatest_tells latest)
  | jumpToLine line flash latest => exact htells (v.jumpToLine_tells line flash latest)
  | finishJump latest => exact htells (v.finishJump_tells latest)
  | enterSearch => exact Or.inl v.enterSearch_undisturbed.rendered
  | setSelecting active latest => exact htells (v.setSelecting_tells active latest)
  | setHeight height =>
    refine Or.inl ?_
    simp only [operate, Viewport.setHeight]
    split
    · rfl
    · split
      · rfl
      · split <;> rfl
  | restart latest => exact htells (v.restart_tells latest latest)

/-- The snapshot on the screen is the latest one of the buffer or an earlier one, and there is a row
to show it in. -/
structure Trails (b : Buffer) (v : Viewport) : Prop where
  holds : ∃ text, b.Holds text
  precedes : v.rendered.Precedes b.snapshot
  onPage : v.OnPage

theorem Driven.trails {maxLines nearBottom : Nat} (h : Driven maxLines nearBottom b v) :
    Trails b v := by
  induction h with
  | start =>
    exact ⟨⟨"", Buffer.holds_empty maxLines⟩,
      ⟨Nat.le_refl _, fun _ => ⟨Nat.le_refl _, Nat.le_refl _⟩⟩,
      ⟨Nat.le_refl _, Nat.zero_le _, Nat.one_pos⟩⟩
  | log _ op ih =>
    obtain ⟨text, hholds⟩ := ih.holds
    exact ⟨Buffer.operate_holds hholds op, ih.precedes.trans (hholds.precedes op), ih.onPage⟩
  | @view b v _ op latest ih =>
    refine ⟨ih.holds, ?_, operate_onPage ih.onPage op⟩
    rcases v.operate_rendered op with hkept | hlatest
    · rw [hkept]
      exact ih.precedes
    · rw [latest _ hlatest]
      exact .refl _

/-! ## While the jump waits -/

/-- What may happen while a jump waits: the buffer takes in a text of the same generation, the
viewport hears of the snapshot, the reader scrolls, or the view gets taller. -/
inductive Lingers : Buffer × Viewport → Buffer × Viewport → Prop where
  | log (b : Buffer) (v : Viewport) (op : Buffer.Operation)
      (same : (b.operate op).snapshot.generation = b.snapshot.generation) :
      Lingers (b, v) (b.operate op, v)
  | update (b : Buffer) (v : Viewport) : Lingers (b, v) (b, (v.update b.snapshot).1)
  | scrollBy (b : Buffer) (v : Viewport) (delta : Int) :
      Lingers (b, v) (b, (v.scrollBy delta b.snapshot).1)
  | scrollToTop (b : Buffer) (v : Viewport) : Lingers (b, v) (b, v.scrollToTop.1)
  | setHeight (b : Buffer) (v : Viewport) (height : Nat) (taller : v.height ≤ max height 1) :
      Lingers (b, v) (b, (v.setHeight height).1)

/-- A jump to a line waits, with the line in view, on a snapshot that the latest one goes on
from. -/
structure Heads (line : Nat) (b : Buffer) (v : Viewport) : Prop where
  mode : v.mode = .jumping line .paused
  anchor : v.anchor = some line
  shows : v.ShowsLine line
  holds : ∃ text, b.Holds text
  goesOn : v.isReset b.snapshot = false

theorem Trails.heads (h : Trails b v) (hretained : (b.snapshot.line? line).isSome = true)
    (flash : Bool) : Heads line b (v.jumpToLine line flash b.snapshot).1 where
  mode := v.jumpToLine_mode ..
  anchor := v.jumpToLine_anchor ..
  shows := jumpToLine_showsLine h.onPage.height hretained flash
  holds := h.holds
  goesOn := by
    rw [isReset_eq_false_iff, jumpToLine_rendered]
    split
    · exact ⟨rfl, Nat.le_refl _⟩
    · rename_i hlacks
      have hsame : b.snapshot.generation = v.rendered.generation := by
        simp only [lacks, Bool.or_eq_true, not_or] at hlacks
        simpa using hlacks.1.1
      exact ⟨hsame, (h.precedes.advances hsame).lineCount⟩

/-- A jump that waits ignores the reader and text that goes on. -/
theorem Heads.update (h : Heads line b v) : (v.update b.snapshot).1 = v := by
  simp [Viewport.update, h.mode, h.goesOn]

theorem Heads.scrollBy (h : Heads line b v) (delta : Int) :
    (v.scrollBy delta b.snapshot).1 = v := by
  simp [Viewport.scrollBy, h.mode]

theorem Heads.scrollToTop (h : Heads line b v) : v.scrollToTop.1 = v := by
  simp [Viewport.scrollToTop, h.mode, ViewMode.isJumping]

theorem Heads.lingers {p q : Buffer × Viewport} (hstep : Lingers p q) (h : Heads line p.1 p.2) :
    Heads line q.1 q.2 := by
  cases hstep with
  | log b v op same =>
    obtain ⟨text, hholds⟩ := h.holds
    obtain ⟨hgeneration, hcount⟩ := isReset_eq_false_iff.1 h.goesOn
    refine ⟨h.mode, h.anchor, h.shows, Buffer.operate_holds hholds op, ?_⟩
    have hadvances := (hholds.precedes op).advances same
    exact isReset_eq_false_iff.2
      ⟨same.trans hgeneration, Nat.le_trans hcount hadvances.lineCount⟩
  | update b v => exact h.update ▸ h
  | scrollBy b v delta => exact h.scrollBy delta ▸ h
  | scrollToTop b v => exact h.scrollToTop ▸ h
  | setHeight b v height taller =>
    have hmode : v.mode ≠ .tailing := by rw [h.mode]; simp
    have hshows := h.shows.setHeight hmode taller
    rcases setHeight_of_not_tailing hmode height with hsame | hclamped
    · rw [hsame]
      exact h
    · rw [hclamped] at hshows ⊢
      exact ⟨h.mode, h.anchor, hshows, h.holds, h.goesOn⟩

/-- **A jump brings its line into view and keeps it there.** Whatever a viewport heard of a buffer,
a jump to a line that the buffer retains puts it into a row of the screen. There it stays, whatever
the reader scrolls, whatever text of the generation comes and however much taller the view gets,
until the frame is drawn; and then the reader has paused there. -/
theorem jump_keeps_line {maxLines nearBottom : Nat} (h : Driven maxLines nearBottom b v)
    (hretained : (b.snapshot.line? line).isSome = true) (flash : Bool)
    (hlingers : Relation.ReflTransGen Lingers
      (b, (v.jumpToLine line flash b.snapshot).1) (c, w)) :
    w.ShowsLine line ∧
    let u := (w.finishJump c.snapshot).1
    u.mode = .paused ∧ u.anchor = some line ∧ u.ShowsLine line := by
  have hheads : Heads line c w := by
    have key : ∀ q : Buffer × Viewport, Relation.ReflTransGen Lingers
        (b, (v.jumpToLine line flash b.snapshot).1) q → Heads line q.1 q.2 := by
      intro q hq
      induction hq with
      | refl => exact h.trails.heads hretained flash
      | tail _ hlast ih => exact ih.lingers hlast
    exact key (c, w) hlingers
  refine ⟨hheads.shows, ?_⟩
  simp only [finishJump_of_jumping hheads.mode]
  exact ⟨trivial, hheads.anchor, hheads.shows.retained, hheads.shows.top, hheads.shows.bottom⟩

/-- A buffer that retains two lines, and has two. -/
def twoRetained : Buffer := (Buffer.empty 2).operate (.fetch "a\nb")

/-- The tail of the two lines. -/
def twoTailed : Viewport := operate { nearBottom := 2 } (.update twoRetained.snapshot)

/-- The first line is evicted while a jump to it waits, and the view gets taller: it is on the
screen all the same. -/
theorem jump_keeps_line_evicted :
    let c := twoRetained.operate (.fetch "a\nb\nc\nd")
    let jumped := (twoTailed.jumpToLine 0 true twoRetained.snapshot).1
    let w := ((jumped.update c.snapshot).1.setHeight 3).1
    c.snapshot.line? 0 = none ∧ w.ShowsLine 0 ∧ (w.finishJump c.snapshot).1.mode = .paused := by
  intro c jumped w
  have hdriven : Driven 2 2 twoRetained twoTailed :=
    .view (.log .start (.fetch "a\nb")) (.update twoRetained.snapshot)
      fun _ hlatest => (Option.some.inj hlatest).symm
  have hlingers : Relation.ReflTransGen Lingers (twoRetained, jumped) (c, w) :=
    .tail (.tail (.single (.log _ _ (.fetch "a\nb\nc\nd") (by decide +kernel))) (.update _ _))
      (.setHeight _ _ 3 (by decide +kernel))
  obtain ⟨hshows, hpaused, -⟩ := jump_keeps_line hdriven (by decide +kernel) true hlingers
  exact ⟨by decide +kernel, hshows, hpaused⟩

end LogTail.Viewport
