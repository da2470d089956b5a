import LogTail.Log.Buffer
import LogTail.Proofs.Viewport.Screen

/-!
# Text under a selection

Under a selection the text on the screen is to stay. An update that goes on leaves it alone in
every mode (`update_held`). A reset cannot, and at the tail it ends the selection; in another mode
it is shown and the selection stays (`Overlooks`). `selection_holds_text` says that this is the only
way in which text moves under a selection.
-/

namespace LogTail.Viewport

open Log (Snapshot)

variable {v : Viewport} {latest : Snapshot}

/-- A reset comes under a selection, and the tail is not followed. -/
def Overlooks (v : Viewport) (latest : Snapshot) : Prop :=
  v.selecting = true ∧ v.mode ≠ .tailing ∧ v.isReset latest = true

/-! ## When a selection ends -/

/-- An update ends a selection just in case it is a reset at the tail. -/
theorem update_selecting (v : Viewport) (latest : Snapshot) :
    (v.update latest).1.selecting = true ↔
      v.selecting = true ∧ (v.mode = .tailing → v.isReset latest = false) := by
  cases hmode : v.mode with
  | tailing =>
    cases hselecting : v.selecting <;> cases hreset : v.isReset latest <;>
      simp [update, hmode, hselecting, hreset, renderBottom, render, followBottom, scrollTo]
  | paused | jumping =>
    cases hreset : v.isReset latest <;> simp [update, hmode, hreset, render, scrollTo]

/-- The end of a jump keeps a selection if the latest text goes on from that on the screen. -/
theorem finishJump_selecting (h : v.isReset latest = false) :
    (v.finishJump latest).1.selecting = v.selecting := by
  unfold finishJump
  split
  · rfl
  · simp only
    split
    · rfl
    · refine Bool.eq_iff_iff.2 ((update_selecting _ latest).trans ⟨And.left, fun hselecting => ?_⟩)
      exact ⟨hselecting, fun _ => h⟩
  · rfl

/-! ## The other operations -/

@[simp] theorem scrollBy_selecting (v : Viewport) (delta : Int) (latest : Snapshot) :
    (v.scrollBy delta latest).1.selecting = v.selecting := by
  unfold scrollBy
  cases hmode : v.mode with
  | jumping => rfl
  | tailing =>
    simp only [scrollTo]
    split <;> rfl
  | paused =>
    simp only
    split
    · split
      · rfl
      · split <;> rfl
    · rfl

@[simp] theorem scrollToTop_selecting (v : Viewport) : v.scrollToTop.1.selecting = v.selecting := by
  unfold scrollToTop
  split <;> rfl

@[simp] theorem jumpToLine_selecting (v : Viewport) (line : Nat) (flash : Bool)
    (latest : Snapshot) : (v.jumpToLine line flash latest).1.selecting = v.selecting := by
  unfold jumpToLine
  cases v.lacks line latest <;> simp [render, scrollTo]

@[simp] theorem enterSearch_selecting (v : Viewport) : v.enterSearch.selecting = v.selecting := by
  unfold enterSearch
  split <;> rfl

@[simp] theorem setHeight_selecting (v : Viewport) (height : Nat) :
    (v.setHeight height).1.selecting = v.selecting := by
  unfold setHeight
  simp only
  split
  · rfl
  · split
    · rfl
    · split <;> rfl

@[simp] theorem setSelecting_selecting (v : Viewport) (active : Bool) (latest : Snapshot) :
    (v.setSelecting active latest).1.selecting = active := by
  rw [setSelecting_eq]
  split
  · rename_i hflushes
    exact hflushes.1.symm
  · rfl

/-! ## What is on the screen -/

/-- Under a selection an update that goes on leaves the screen as it is. -/
theorem update_held (hselecting : v.selecting = true) (hgoesOn : v.isReset latest = false) :
    (v.update latest).1.rendered = v.rendered ∧ (v.update latest).1.top = v.top := by
  cases hmode : v.mode with
  | tailing => simp [update, hmode, hselecting, hgoesOn]
  | paused | jumping => simp [update, hmode, hgoesOn]

/-- A reset is shown in every mode. -/
theorem update_of_isReset (h : v.isReset latest = true) :
    (v.update latest).1.rendered = latest := by
  rcases v.update_cases latest with ⟨hrendered, -⟩ | ⟨hmode, hselecting, hheld⟩ | ⟨hmode, hheld⟩
  · exact hrendered
  · -- A render is held back for a selection, and a reset at the tail ends it.
    have hselects := (v.update_selecting latest).1 (by rw [hheld]; exact hselecting)
    exact absurd (h.symm.trans (hselects.2 hmode)) (by simp)
  · cases hm : v.mode with
    | tailing => exact absurd hm hmode
    | paused | jumping => simp [update, hm, h, render, scrollTo]

/-! ## What an update promises -/

/-- **Text moves under a selection only where a reset is overlooked.** Whatever the viewport and the
latest snapshot are, either promise is kept unless a reset comes under a selection while the tail is
not followed: that a selection which outlasts the update still has the text under it, at the same
top line; and that a reset ends every selection. -/
theorem selection_holds_text (v : Viewport) (latest : Snapshot) :
    let w := (v.update latest).1
    ((w.selecting = true → w.rendered = v.rendered ∧ w.top = v.top) ↔ ¬ v.Overlooks latest) ∧
    ((v.isReset latest = true → w.selecting = false) ↔ ¬ v.Overlooks latest) := by
  intro w
  have hselects : w.selecting = true ↔ _ := v.update_selecting latest
  have hoverlooks (h : v.Overlooks latest) : w.selecting = true :=
    hselects.2 ⟨h.1, fun htail => absurd htail h.2.1⟩
  refine ⟨⟨fun hkept h => ?_, fun h hselecting => ?_⟩, ⟨fun hends h => ?_, fun h hreset => ?_⟩⟩
  · have hrendered : v.rendered = latest :=
      (hkept (hoverlooks h)).1.symm.trans (update_of_isReset h.2.2)
    exact absurd (h.2.2.symm.trans (isReset_of_rendered hrendered)) (by simp)
  · obtain ⟨hbefore, htail⟩ := hselects.1 hselecting
    refine update_held hbefore (Bool.eq_false_iff.2 fun hreset => ?_)
    by_cases hmode : v.mode = .tailing
    · exact absurd (hreset.symm.trans (htail hmode)) (by simp)
    · exact h ⟨hbefore, hmode, hreset⟩
  · exact absurd ((hoverlooks h).symm.trans (hends h.2.2)) (by simp)
  · refine Bool.eq_false_iff.2 fun hselecting => ?_
    obtain ⟨hbefore, htail⟩ := hselects.1 hselecting
    refine h ⟨hbefore, fun hmode => ?_, hreset⟩
    exact absurd (hreset.symm.trans (htail hmode)) (by simp)

/-- The buffer with a text of five lines. -/
def fiveLines : Log.Buffer := ((Log.Buffer.empty 50000).apply "a\nb\nc\nd\ne").2

/-- The reader tailed five lines, scrolled up, and selects. -/
def scrolledSelecting : Viewport :=
  let v : Viewport := { nearBottom := 2 }
  let v := (v.update fiveLines.snapshot).1
  let v := (v.scrollBy (-3) fiveLines.snapshot).1
  (v.setSelecting true fiveLines.snapshot).1

/-- The text shrinks to one line: other text is on the screen, and the selection is still there. -/
theorem scrolledSelecting_overlooks : ¬ ∀ latest : Snapshot,
    let w := (scrolledSelecting.update latest).1
    (w.selecting = true → w.rendered = scrolledSelecting.rendered ∧ w.top = scrolledSelecting.top) ∧
    (scrolledSelecting.isReset latest = true → w.selecting = false) := by
  intro h
  have hends := (h (fiveLines.apply "x").2.snapshot).2 (by decide +kernel)
  have hselecting :
      (scrolledSelecting.update (fiveLines.apply "x").2.snapshot).1.selecting = true := by
    decide +kernel
  exact absurd (hselecting.symm.trans hends) (by decide)

end LogTail.Viewport
