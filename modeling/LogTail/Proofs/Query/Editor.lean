import LogTail.Query.Draw

/-!
# What changes the text of the editor

Every action of the editor says whether it changed the text. One that says no has at most moved the
cursor or scrolled, and the lines are what they were (`apply_keeps`). So the editor is an honest
input.
-/

namespace LogTail.Query

namespace Draft

@[simp] theorem move_lines (d : Draft) (move : Move) : (d.move move).lines = d.lines := by
  unfold Draft.move
  repeat' split
  all_goals rfl

end Draft

namespace Editor

/-- An action that says that it changed nothing has left the lines as they were. -/
def Keeps (e : Editor) (r : Bool × Editor) : Prop :=
  r.1 = false → r.2.draft.lines = e.draft.lines

variable {e : Editor}

/-- An action that says that it changed the text may do anything. -/
theorem keeps_of_true {r : Bool × Editor} (h : r.1 = true) : e.Keeps r :=
  fun hfalse => absurd (h.symm.trans hfalse) (by simp)

/-- What comes after a move keeps the lines from before it. -/
theorem Keeps.of_lines {f : Editor} {r : Bool × Editor} (h : f.Keeps r)
    (hlines : f.draft.lines = e.draft.lines) : e.Keeps r := fun hfalse => (h hfalse).trans hlines

theorem joinLine_keeps (e : Editor) : e.Keeps e.joinLine := by
  unfold joinLine
  split
  · exact fun _ => rfl
  · exact keeps_of_true rfl

theorem cutPiece_keeps (e : Editor) (first stop : Nat) : e.Keeps (e.cutPiece first stop) := by
  simp only [cutPiece]
  split
  · exact fun _ => rfl
  · exact keeps_of_true rfl

theorem insertText_keeps (e : Editor) (cs : List Char) : e.Keeps (e.insertText cs) := by
  unfold insertText
  split
  · exact fun _ => rfl
  · exact keeps_of_true rfl

theorem deleteBack_keeps (e : Editor) : e.Keeps e.deleteBack := by
  unfold deleteBack
  split
  · exact e.joinLine_keeps
  · split
    · exact fun _ => rfl
    · exact keeps_of_true rfl

theorem deleteForward_keeps (e : Editor) : e.Keeps e.deleteForward := by
  simp only [deleteForward]
  split
  · exact fun _ => rfl
  · exact (deleteBack_keeps _).of_lines (e.draft.move_lines .forward)

/-- **Where the editor says that the text is the same, it is.** -/
theorem apply_keeps (e : Editor) (action : Action) : e.Keeps (e.apply action) := by
  cases action with
  | insert c => exact keeps_of_true rfl
  | breakLine => exact keeps_of_true rfl
  | tab => exact e.insertText_keeps _
  | deleteBack => exact e.deleteBack_keeps
  | deleteForward => exact e.deleteForward_keeps
  | deleteToEnd =>
    have hcuts := e.cutPiece_keeps e.draft.col e.draft.line.length
    simp only [apply]
    split
    · exact keeps_of_true rfl
    · rename_i f hf
      rw [hf] at hcuts
      exact f.deleteForward_keeps.of_lines (hcuts rfl)
  | deleteToHead =>
    have hcuts := e.cutPiece_keeps 0 e.draft.col
    simp only [apply]
    split
    · exact keeps_of_true rfl
    · rename_i f hf
      rw [hf] at hcuts
      exact f.joinLine_keeps.of_lines (hcuts rfl)
  | deleteWordBack =>
    simp only [apply]
    split
    · exact e.cutPiece_keeps _ _
    · split
      · exact e.cutPiece_keeps _ _
      · exact e.joinLine_keeps
  | deleteWordForward =>
    simp only [apply]
    split
    · exact e.cutPiece_keeps _ _
    · split
      · exact e.cutPiece_keeps _ _
      · split
        · exact (joinLine_keeps _).of_lines rfl
        · exact fun _ => rfl
  | paste => exact e.insertText_keeps _
  | undo =>
    simp only [apply]
    split
    · exact fun _ => rfl
    · exact keeps_of_true rfl
  | redo =>
    simp only [apply]
    split
    · exact fun _ => rfl
    · exact keeps_of_true rfl
  | move move => exact fun _ => e.draft.move_lines move
  | pageUp => exact fun _ => rfl
  | pageDown => exact fun _ => rfl

theorem press_keeps (e : Editor) (key : Key) : e.Keeps (e.press key) := by
  unfold press
  split
  · exact e.apply_keeps _
  · exact fun _ => rfl

/-- The editor tells of every change of its text. -/
theorem honest : Input.Honest Editor where
  tells e key hchanged := by
    refine Bool.of_not_eq_false fun hsame => hchanged ?_
    have hlines : (e.press key).2.draft.lines = e.draft.lines := e.press_keeps key hsame
    exact congrArg (fun lines => String.join (lines.map String.ofList)) hlines

end Editor

end LogTail.Query
