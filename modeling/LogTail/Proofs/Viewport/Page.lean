import LogTail.Display.View
import LogTail.Proofs.Log.Snapshot
import LogTail.Viewport

/-!
# A full page

The top line, the snapshot on the screen and the height of the view change one without the other:
eviction moves the first line forward, and growth, resets and other heights move the last page.
`OnPage` is the invariant that every operation keeps (`operate_onPage`), whatever snapshots come in
whatever order: the top line is between the oldest retained line and the top of the last page. A
view at such a line has a retained line for each of its rows, as far as there are any
(`OnPage.visible`). The height is the one that was given last (`operate_height`).
-/

namespace LogTail.Viewport

open Display (View)
open Log (Snapshot)

variable {v : Viewport}

/-- What a viewport is asked to do; `latest` is the latest snapshot then. -/
inductive Operation where
  | update (latest : Snapshot)
  | scrollBy (delta : Int) (latest : Snapshot)
  | scrollToTop
  | jumpToLatest (latest : Snapshot)
  | jumpToLine (line : Nat) (flash : Bool) (latest : Snapshot)
  | finishJump (latest : Snapshot)
  | enterSearch
  | setSelecting (active : Bool) (latest : Snapshot)
  | setHeight (height : Nat)
  | restart (latest : Snapshot)

def operate (v : Viewport) : Operation → Viewport
  | .update latest => (v.update latest).1
  | .scrollBy delta latest => (v.scrollBy delta latest).1
  | .scrollToTop => v.scrollToTop.1
  | .jumpToLatest latest => (v.jumpToLatest latest).1
  | .jumpToLine line flash latest => (v.jumpToLine line flash latest).1
  | .finishJump latest => (v.finishJump latest).1
  | .enterSearch => v.enterSearch
  | .setSelecting active latest => (v.setSelecting active latest).1
  | .setHeight height => (v.setHeight height).1
  | .restart latest => (v.restart latest).1

/-- The top line is between the oldest retained line and the top of the last page, and there is a
row to show it in. -/
structure OnPage (v : Viewport) : Prop where
  firstLine : v.rendered.firstLine ≤ v.top
  maxTop : v.top ≤ v.maxTop
  height : 0 < v.height

/-! ## Ways to a page -/

/-- The last page begins on a retained line, or where the next line will be. -/
theorem firstLine_le_maxTop (v : Viewport) : v.rendered.firstLine ≤ v.maxTop := Nat.le_max_right ..

theorem onPage_clampTop (h : 0 < v.height) (top : Nat) :
    OnPage { v with top := v.clampTop top } where
  firstLine := Nat.le_max_left ..
  maxTop := Nat.max_le.2 ⟨v.firstLine_le_maxTop, Nat.min_le_right ..⟩
  height := h

theorem onPage_followBottom (h : 0 < v.height) : v.followBottom.1.OnPage :=
  ⟨v.firstLine_le_maxTop, Nat.le_refl _, h⟩

theorem onPage_renderBottom (h : 0 < v.height) (latest : Snapshot) :
    (v.renderBottom latest).1.OnPage :=
  onPage_followBottom (v := (v.render latest).1) h

/-! ## The operations -/

theorem update_onPage (h : v.OnPage) (latest : Snapshot) : (v.update latest).1.OnPage := by
  unfold update
  cases v.mode with
  | tailing =>
    simp only
    split
    · exact ⟨h.firstLine, h.maxTop, h.height⟩
    · exact onPage_renderBottom (v := { v with mode := .tailing, selecting := false }) h.height
        latest
  | paused | jumping target resume =>
    simp only
    split
    · exact onPage_clampTop (v := (v.render latest).1) h.height _
    · exact h

theorem scrollBy_onPage (h : v.OnPage) (delta : Int) (latest : Snapshot) :
    (v.scrollBy delta latest).1.OnPage := by
  have hscrolls : OnPage { v with top := v.scrolledTop delta } := onPage_clampTop h.height _
  unfold scrollBy
  cases v.mode with
  | jumping target resume => exact h
  | tailing =>
    simp only
    split
    · exact hscrolls
    · exact ⟨hscrolls.firstLine, hscrolls.maxTop, hscrolls.height⟩
  | paused =>
    simp only
    split
    · split
      · exact ⟨hscrolls.firstLine, hscrolls.maxTop, hscrolls.height⟩
      · split
        · exact onPage_followBottom (v := { v with mode := .tailing, anchor := none }) h.height
        · exact onPage_renderBottom (v := { v with mode := .tailing, anchor := none }) h.height
            latest
    · exact ⟨hscrolls.firstLine, hscrolls.maxTop, hscrolls.height⟩

theorem scrollToTop_onPage (h : v.OnPage) : v.scrollToTop.1.OnPage := by
  unfold scrollToTop
  split
  · exact h
  · exact ⟨Nat.le_refl _, v.firstLine_le_maxTop, h.height⟩

theorem jumpToLine_onPage (h : v.OnPage) (line : Nat) (flash : Bool) (latest : Snapshot) :
    (v.jumpToLine line flash latest).1.OnPage := by
  unfold jumpToLine
  cases v.lacks line latest with
  | true =>
    exact onPage_clampTop (v := { (v.render latest).1 with
      mode := .jumping line .paused, anchor := some line }) h.height _
  | false =>
    exact onPage_clampTop (v := { v with mode := .jumping line .paused, anchor := some line })
      h.height _

theorem finishJump_onPage (h : v.OnPage) (latest : Snapshot) : (v.finishJump latest).1.OnPage := by
  have hsettled (mode : ViewMode) : OnPage { v with mode := mode } :=
    ⟨h.firstLine, h.maxTop, h.height⟩
  unfold finishJump
  split
  · exact hsettled _
  · simp only
    split
    · exact hsettled _
    · exact update_onPage (hsettled _) latest
  · exact h

theorem enterSearch_onPage (h : v.OnPage) : v.enterSearch.OnPage := by
  unfold enterSearch
  split
  · exact ⟨h.firstLine, h.maxTop, h.height⟩
  · exact h

theorem setSelecting_onPage (h : v.OnPage) (active : Bool) (latest : Snapshot) :
    (v.setSelecting active latest).1.OnPage := by
  unfold setSelecting
  simp only
  split
  · exact onPage_renderBottom (v := { v with selecting := active }) h.height latest
  · exact ⟨h.firstLine, h.maxTop, h.height⟩

/-- A view of another height goes on from a line that its last page allows. -/
theorem setHeight_onPage (h : v.OnPage) (height : Nat) : (v.setHeight height).1.OnPage := by
  have hpositive : 0 < max height 1 := Nat.le_max_right ..
  unfold setHeight
  simp only
  split
  · exact h
  · split
    · exact onPage_followBottom (v := { v with height := max height 1 }) hpositive
    · have hclamped : OnPage { v with
          height := max height 1, top := clampTop { v with height := max height 1 } v.top } :=
        onPage_clampTop (v := { v with height := max height 1 }) hpositive v.top
      split
      · rename_i hsame
        rwa [hsame] at hclamped
      · exact ⟨hclamped.firstLine, hclamped.maxTop, hpositive⟩

theorem operate_onPage (h : v.OnPage) (op : Operation) : (v.operate op).OnPage := by
  cases op with
  | update latest => exact update_onPage h latest
  | scrollBy delta latest => exact scrollBy_onPage h delta latest
  | scrollToTop => exact scrollToTop_onPage h
  | jumpToLatest latest =>
    exact onPage_renderBottom (v := { v with
      selecting := false, anchor := none, mode := .jumping (latest.lineCount - 1) .tailing })
      h.height latest
  | jumpToLine line flash latest => exact jumpToLine_onPage h line flash latest
  | finishJump latest => exact finishJump_onPage h latest
  | enterSearch => exact enterSearch_onPage h
  | setSelecting active latest => exact setSelecting_onPage h active latest
  | setHeight height => exact setHeight_onPage h height
  | restart latest =>
    exact onPage_renderBottom (v := { v with mode := .tailing, anchor := none, selecting := false })
      h.height latest

theorem foldl_onPage (ops : List Operation) : ∀ {v : Viewport}, v.OnPage →
    (ops.foldl operate v).OnPage := by
  induction ops with
  | nil => intro v h; exact h
  | cons op ops ih => intro v h; exact ih (operate_onPage h op)

/-! ## The height -/

@[simp] theorem update_height (v : Viewport) (latest : Snapshot) :
    (v.update latest).1.height = v.height := by
  unfold update
  cases v.mode with
  | tailing =>
    simp only
    split <;> rfl
  | paused | jumping target resume =>
    simp only
    split <;> rfl

@[simp] theorem scrollBy_height (v : Viewport) (delta : Int) (latest : Snapshot) :
    (v.scrollBy delta latest).1.height = v.height := by
  unfold scrollBy
  cases v.mode with
  | jumping target resume => rfl
  | tailing =>
    simp only [scrollTo]
    split <;> rfl
  | paused =>
    simp only
    split
    · split
      · rfl
      · split <;> rfl
    · rfl

@[simp] theorem finishJump_height (v : Viewport) (latest : Snapshot) :
    (v.finishJump latest).1.height = v.height := by
  unfold finishJump
  split
  · rfl
  · simp only
    split
    · rfl
    · exact update_height _ latest
  · rfl

@[simp] theorem setHeight_height (v : Viewport) (height : Nat) :
    (v.setHeight height).1.height = max height 1 := by
  unfold setHeight
  simp only
  split
  · rename_i hsame
    exact hsame.symm
  · split
    · rfl
    · split <;> rfl

/-- The view has the height that it was given last. -/
theorem operate_height (v : Viewport) (op : Operation) :
    (v.operate op).height = match op with
      | .setHeight height => max height 1
      | _ => v.height := by
  cases op with
  | update latest => exact v.update_height latest
  | scrollBy delta latest => exact v.scrollBy_height delta latest
  | scrollToTop =>
    simp only [operate, scrollToTop]
    split <;> rfl
  | jumpToLatest latest => rfl
  | jumpToLine line flash latest =>
    simp only [operate, jumpToLine]
    split <;> rfl
  | finishJump latest => exact v.finishJump_height latest
  | enterSearch =>
    simp only [operate, enterSearch]
    split <;> rfl
  | setSelecting active latest =>
    simp only [operate, setSelecting]
    split <;> rfl
  | setHeight height => exact v.setHeight_height height
  | restart latest => rfl

@[simp] theorem update_nearBottom (v : Viewport) (latest : Snapshot) :
    (v.update latest).1.nearBottom = v.nearBottom := by
  unfold update
  cases v.mode with
  | tailing =>
    simp only
    split <;> rfl
  | paused | jumping target resume =>
    simp only
    split <;> rfl

/-- How near to the bottom still counts as the bottom never changes. -/
theorem operate_nearBottom (v : Viewport) (op : Operation) :
    (v.operate op).nearBottom = v.nearBottom := by
  cases op with
  | update latest => exact v.update_nearBottom latest
  | finishJump latest =>
    simp only [operate, finishJump]
    split
    · rfl
    · split
      · rfl
      · exact update_nearBottom _ latest
    · rfl
  | scrollBy delta latest =>
    simp only [operate, scrollBy, scrollTo]
    repeat' split
    all_goals rfl
  | setHeight height =>
    simp only [operate, setHeight]
    repeat' split
    all_goals rfl
  | scrollToTop | jumpToLine | enterSearch | setSelecting =>
    simp only [operate, scrollToTop, jumpToLine, enterSearch, setSelecting]
    split <;> rfl
  | jumpToLatest | restart => rfl

/-! ## What is on the screen -/

/-- A view of that snapshot from that line on has no empty row while there is a line for it. -/
theorem OnPage.visible (h : v.OnPage) (view : View) (hsnapshot : view.snapshot = v.rendered)
    (htop : view.top = v.top) :
    (view.visible v.height).1 ≤ (view.visible v.height).2 ∧
    (view.visible v.height).2 - (view.visible v.height).1 =
      min v.height v.rendered.lines.size ∧
    ∀ n, (view.visible v.height).1 ≤ n → n < (view.visible v.height).2 →
      (v.rendered.line? n).isSome = true := by
  have hfirst := h.firstLine
  have hmax : v.top ≤
      max (v.rendered.firstLine + v.rendered.lines.size - v.height) v.rendered.firstLine := h.maxTop
  simp only [View.visible, hsnapshot, htop, Snapshot.lineCount]
  refine ⟨Nat.le_max_right .., by omega, fun n hstart hstop => ?_⟩
  rw [Snapshot.line?_isSome, Snapshot.lineCount]
  omega

/-- **The screen is never left blank.** Whatever a viewport was asked to do so far, its top line is
between the oldest retained line on the screen and the top of the last page, in this order; and a
view of its snapshot from its top line on shows as many lines as it has rows, or all that are
retained, each of them retained. -/
theorem page_is_full (nearBottom : Nat) (ops : List Operation) (view : View) :
    let v := ops.foldl operate { nearBottom := nearBottom }
    let shown := { view with snapshot := v.rendered, top := v.top }.visible v.height
    v.rendered.firstLine ≤ v.top ∧ v.top ≤ v.maxTop ∧ v.rendered.firstLine ≤ v.maxTop ∧
    0 < v.height ∧
    shown.1 ≤ shown.2 ∧ shown.2 - shown.1 = min v.height v.rendered.lines.size ∧
    ∀ n, shown.1 ≤ n → n < shown.2 → (v.rendered.line? n).isSome = true := by
  intro v shown
  have hstart : OnPage { nearBottom := nearBottom } :=
    ⟨Nat.le_refl _, Nat.zero_le _, Nat.one_pos⟩
  have h : v.OnPage := foldl_onPage ops hstart
  exact ⟨h.firstLine, h.maxTop, v.firstLine_le_maxTop, h.height, h.visible _ rfl rfl⟩

end LogTail.Viewport
