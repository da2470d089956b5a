import LogTail.Proofs.App.Selection
import LogTail.Proofs.App.Steps
import LogTail.Proofs.Viewport.Selecting
import LogTail.Proofs.Viewport.Target

/-!
# The free end of a selection

The free end moves to a retained line of the text on the screen (`Snapshot.clampLine`), and the
application reckons from its own view and page size how far to scroll for it. That is as far as the
viewport has to go: the view shows the viewport's snapshot at the viewport's top line, the page size
is the viewport's height, and the top line is one of the text. Under a selection a scroll moves the
top line and leaves the text alone (`scrollBy_of_selecting`).
-/

namespace LogTail

/-! ## Where the free end goes -/

namespace Log.Snapshot

/-- The nearest retained line. -/
def clampLine (s : Snapshot) (line : Int) : Nat :=
  max s.firstLine (min line.toNat (s.lineCount - 1))

variable {s : Snapshot}

theorem firstLine_lt_lineCount (h : s.isEmpty = false) : s.firstLine < s.lineCount := by
  have hsize : 0 < s.lines.size := Array.size_pos_iff.2 (by simpa [isEmpty] using h)
  exact Nat.lt_add_of_pos_right hsize

theorem coe_clampLine (h : s.isEmpty = false) (line : Int) :
    (s.clampLine line : Int) = max (s.firstLine : Int) (min line ((s.lineCount : Int) - 1)) := by
  have hlast := firstLine_lt_lineCount h
  simp only [clampLine]
  omega

theorem line?_clampLine (h : s.isEmpty = false) (line : Int) :
    (s.line? (s.clampLine line)).isSome = true := by
  have hlast := firstLine_lt_lineCount h
  refine line?_isSome.2 ⟨Nat.le_max_left .., ?_⟩
  simp only [clampLine]
  omega

end Log.Snapshot

/-! ## Scrolling under a selection -/

namespace Viewport

variable {v : Viewport}

/-- Even where the tail is resumed, the text on the screen stays as it is. -/
theorem scrollBy_of_selecting (hselecting : v.selecting = true)
    (hmode : v.mode.isJumping = false) (delta : Int) (latest : Log.Snapshot) :
    (v.scrollBy delta latest).1.rendered = v.rendered ∧
    (v.scrollBy delta latest).1.top = v.scrolledTop delta := by
  cases h : v.mode with
  | jumping target resume => simp [h, ViewMode.isJumping] at hmode
  | tailing =>
    simp only [scrollBy, h, scrollTo]
    split <;> simp
  | paused =>
    simp only [scrollBy, h, hselecting, scrollTo, if_true]
    split <;> simp

/-- **A scroll to where a line is in view brings it into view.** -/
theorem scrollBy_showsLine (hselecting : v.selecting = true) (hmode : v.mode.isJumping = false)
    {line : Nat} (hretained : (v.rendered.line? line).isSome = true) {delta : Int}
    (htop : (v.top : Int) + delta ≤ line) (hbottom : (line : Int) < v.top + delta + v.height)
    (latest : Log.Snapshot) : (v.scrollBy delta latest).1.ShowsLine line := by
  obtain ⟨hrendered, hmoved⟩ := scrollBy_of_selecting hselecting hmode delta latest
  have hshows : ShowsLine { v with top := v.scrolledTop delta } line :=
    showsLine_clampTop hretained (by omega) (by omega)
  refine ⟨hrendered ▸ hretained, hmoved ▸ hshows.top, ?_⟩
  rw [hmoved, scrollBy_height]
  exact hshows.bottom

end Viewport

/-! ## Moving the free end -/

namespace App

variable {ε : Type} {a : App ε} {selection : Selection}

/-- What a move comes down to. -/
theorem moveSelection_cases (hselection : a.selection = some selection)
    (hretained : a.view.snapshot.isEmpty = false) (now : Nat) (delta : Int) :
    let cursor := a.view.snapshot.clampLine (selection.cursor + delta)
    let start := (a.view.visible a.pageSize).1
    let moved := { a with selection := some { selection with cursor := cursor } }
    (cursor < start ∧
      a.moveSelection now delta = moved.scrollBy now ((cursor : Int) - start)) ∨
    (start ≤ cursor ∧ start + a.pageSize ≤ cursor ∧
      a.moveSelection now delta = moved.scrollBy now ((cursor : Int) + 1 - start - a.pageSize)) ∨
    (start ≤ cursor ∧ cursor < start + a.pageSize ∧ a.moveSelection now delta = moved) := by
  intro cursor start moved
  have hmove : a.moveSelection now delta =
      if cursor < start then moved.scrollBy now ((cursor : Int) - start)
      else if start + a.pageSize ≤ cursor then
        moved.scrollBy now ((cursor : Int) + 1 - start - a.pageSize)
      else moved := by
    simp only [moveSelection, hselection, hretained]
    rfl
  by_cases hover : cursor < start
  · exact Or.inl ⟨hover, hmove.trans (if_pos hover)⟩
  · have hstart : start ≤ cursor := Nat.le_of_not_lt hover
    rw [if_neg hover] at hmove
    by_cases hunder : start + a.pageSize ≤ cursor
    · exact Or.inr (Or.inl ⟨hstart, hunder, hmove.trans (if_pos hunder)⟩)
    · exact Or.inr (Or.inr ⟨hstart, Nat.lt_of_not_le hunder, hmove.trans (if_neg hunder)⟩)

/-- The session and the view as they are in a run, while lines are selected and no jump waits. -/
structure Extending (a : App ε) : Prop where
  shown : a.session.viewport.ShownOn a.session.snapshot a.view
  onPage : a.session.viewport.OnPage
  height : a.session.viewport.height = a.pageSize
  selecting : a.session.viewport.selecting = true
  settled : a.session.viewport.mode.isJumping = false

/-- The view begins with the top line of the viewport. -/
theorem Extending.start (h : a.Extending) :
    (a.view.visible a.pageSize).1 = a.session.viewport.top := by
  simp only [Display.View.visible, h.shown.top, h.shown.snapshot]
  exact Nat.max_eq_left h.onPage.firstLine

/-- **The viewport shows where the free end is moved to**, in the text that it showed. -/
theorem Extending.moveSelection_viewport (h : a.Extending)
    (hselection : a.selection = some selection) (hretained : a.view.snapshot.isEmpty = false)
    (now : Nat) (delta : Int) :
    (a.moveSelection now delta).session.viewport.rendered = a.session.viewport.rendered ∧
    (a.moveSelection now delta).session.viewport.ShowsLine
      (a.view.snapshot.clampLine (selection.cursor + delta)) := by
  have hmoves := moveSelection_cases hselection hretained now delta
  have hline := Log.Snapshot.line?_clampLine hretained (selection.cursor + delta)
  simp only [h.start] at hmoves
  generalize a.view.snapshot.clampLine (selection.cursor + delta) = cursor at hmoves hline ⊢
  rw [h.shown.snapshot] at hline
  have hrows : 0 < a.pageSize := h.height ▸ h.onPage.height
  -- A scroll by the application is one by the viewport.
  have hscrolls (distance : Int) (htop : a.session.viewport.top + distance ≤ cursor)
      (hbottom : cursor < a.session.viewport.top + distance + a.pageSize) :
      (a.session.viewport.scrollBy distance a.session.snapshot).1.rendered =
          a.session.viewport.rendered ∧
        (a.session.viewport.scrollBy distance a.session.snapshot).1.ShowsLine cursor :=
    ⟨(Viewport.scrollBy_of_selecting h.selecting h.settled distance _).1,
      Viewport.scrollBy_showsLine h.selecting h.settled hline htop (h.height.symm ▸ hbottom) _⟩
  rcases hmoves with ⟨hover, hmove⟩ | ⟨hstart, hunder, hmove⟩ | ⟨hstart, hstays, hmove⟩
  · rw [hmove]
    exact hscrolls _ (by omega) (by omega)
  · rw [hmove]
    exact hscrolls _ (by omega) (by omega)
  · rw [hmove]
    exact ⟨rfl, hline, hstart, h.height.symm ▸ hstays⟩

theorem moveSelection_selection (hselection : a.selection = some selection)
    (hretained : a.view.snapshot.isEmpty = false) (now : Nat) (delta : Int) :
    (a.moveSelection now delta).selection =
      some ⟨selection.anchor, a.view.snapshot.clampLine (selection.cursor + delta)⟩ := by
  rcases moveSelection_cases hselection hretained now delta with
    ⟨-, hmove⟩ | ⟨-, -, hmove⟩ | ⟨-, -, hmove⟩
  · rw [hmove]
    rfl
  · rw [hmove]
    rfl
  · rw [hmove]

end App

/-! ## Every row of acts -/

namespace Stage

variable {ε : Type} [Query.Input ε]

variable (ε) in
theorem onPage_run (settings : Settings) (source : Source) (sources : List Source)
    (acts : List Act) :
    ((new ε settings source sources).run acts).app.session.viewport.OnPage := by
  obtain ⟨steps, hsteps⟩ := run_steps ε settings source sources acts
  have hsession : ((new ε settings source sources).run acts).app.session =
      ((Ensemble.new settings source).run steps).session := congrArg (·.session) hsteps
  rw [hsession]
  exact Ensemble.onPage_run settings source steps

variable (ε) in
/-- **The free end of a selection stays visible.** After any row of keys, mouse events, fetches,
reports, exports, ticks, page sizes and frames, while lines are selected and the viewport notes it,
no jump waits and there is text: a move by any distance puts the free end on the retained line of
the text on the screen that is nearest to where the move would take it, keeps the other end and the
text, and leaves the free end among the lines on the screen. No difference taken on the way falls
below zero: there is a last line, it is not before the first one, and where the application scrolls
down the free end is that far below the screen. -/
theorem free_end_stays_visible (settings : Settings) (source : Source) (sources : List Source)
    (acts : List Act) :
    let a := ((new ε settings source sources).run acts).app
    let text := a.view.snapshot
    a.mode = .selecting → a.session.viewport.selecting = true →
    a.session.viewport.mode.isJumping = false → text.isEmpty = false →
    ∀ (now : Nat) (delta : Int),
      let b := a.moveSelection now delta
      let start := (a.view.visible a.pageSize).1
      ∃ selection cursor,
        a.selection = some selection ∧ b.selection = some ⟨selection.anchor, cursor⟩ ∧
        (cursor : Int) = max (text.firstLine : Int)
          (min (selection.cursor + delta) ((text.lineCount : Int) - 1)) ∧
        (text.line? cursor).isSome = true ∧
        b.view.snapshot = text ∧
        (b.view.visible b.pageSize).1 ≤ cursor ∧ cursor < (b.view.visible b.pageSize).2 ∧
        1 ≤ text.lineCount ∧ text.firstLine ≤ text.lineCount - 1 ∧
        (start + a.pageSize ≤ cursor →
          start ≤ cursor + 1 ∧ a.pageSize ≤ cursor + 1 - start) := by
  intro a text hmode hselecting hsettled hretained now delta b start
  let st := (new ε settings source sources).run acts
  have hinOrder : st.InOrder := inOrder_run settings source sources acts
  have hpaged : st.app.face.Paged := run_paged settings source sources acts
  have h : a.Extending := ⟨hinOrder.mirrored.shown.place, onPage_run ε settings source sources acts,
    hpaged.height, hselecting, hsettled⟩
  obtain ⟨selection, hselection⟩ := Option.isSome_iff_exists.1 (hinOrder.settled.mode.1 hmode)
  obtain ⟨hrendered, hshows⟩ := h.moveSelection_viewport hselection hretained now delta
  have hmoved := App.moveSelection_selection hselection hretained now delta
  -- The view and the page size follow the viewport through the move.
  have htouches : a.Touches b := a.moveSelection_touches now delta
  have hview : b.session.viewport.ShownOn b.session.snapshot b.view :=
    (hinOrder.mirrored.leads htouches.leads).shown.place
  have hheight : b.session.viewport.height = b.pageSize :=
    (Face.acted_paged hpaged (.touches htouches)).height
  obtain ⟨hline, hfrom, hto⟩ := hshows.visible hview
  have htext : b.view.snapshot = text :=
    calc b.view.snapshot
      _ = b.session.viewport.rendered := hview.snapshot
      _ = a.session.viewport.rendered := hrendered
      _ = text := h.shown.snapshot.symm
  rw [hheight] at hfrom hto
  rw [htext] at hline
  have hlast := Log.Snapshot.firstLine_lt_lineCount hretained
  exact ⟨selection, _, hselection, hmoved, Log.Snapshot.coe_clampLine hretained _, hline, htext,
    hfrom, hto, by omega, by omega, by omega⟩

/-- The last three of five lines are on the screen, and the reader selects. -/
def lowerSelecting : List Act := [
  .setPageSize 0 3, .fetched 0 ⟨0, .ok "a\nb\nc\nd\ne"⟩,
  .key 0 (fun _ => .ok ()) { code := .char 'v' }]

/-- Three lines up from the last one is a line above the first one on the screen. -/
theorem free_end_stays_visible_above :
    let a := ((new Query.Editor {} (.file "app.log") []).run lowerSelecting).app
    let b := a.moveSelection 0 (-3)
    a.mode = .selecting ∧ a.session.viewport.selecting = true ∧
    a.session.viewport.mode.isJumping = false ∧ a.view.snapshot.isEmpty = false ∧
    (a.view.visible a.pageSize).1 = 2 ∧ b.selection = some ⟨4, 1⟩ ∧
    (b.view.visible b.pageSize).1 ≤ 1 ∧ 1 < (b.view.visible b.pageSize).2 := by
  intro a b
  have hmode : a.mode = .selecting := by decide +kernel
  have hselecting : a.session.viewport.selecting = true := by decide +kernel
  have hsettled : a.session.viewport.mode.isJumping = false := by decide +kernel
  have hretained : a.view.snapshot.isEmpty = false := by decide +kernel
  have hfrom : a.selection = some ⟨4, 4⟩ := by decide +kernel
  have htext : a.view.snapshot.firstLine = 0 ∧ a.view.snapshot.lineCount = 5 := by decide +kernel
  have hstart : (a.view.visible a.pageSize).1 = 2 := by decide +kernel
  obtain ⟨selection, cursor, hselection, hmoved, hcursor, -, -, hvisible, hbelow, -⟩ :=
    free_end_stays_visible Query.Editor {} (.file "app.log") [] lowerSelecting hmode hselecting
      hsettled hretained 0 (-3)
  obtain rfl : ⟨4, 4⟩ = selection := Option.some.inj (hfrom.symm.trans hselection)
  rw [htext.1, htext.2] at hcursor
  obtain rfl : cursor = 1 := Int.ofNat_inj.1 hcursor
  exact ⟨hmode, hselecting, hsettled, hretained, hstart, hmoved, hvisible, hbelow⟩

end Stage

end LogTail
