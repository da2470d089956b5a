import LogTail.Log.Buffer
import LogTail.Proofs.Log.Snapshot
import LogTail.Proofs.Text.Lines

/-!
# Laws of the buffer

A buffer that took in a text holds its last lines (`Holds`). A text that goes on where that one
ended extends the snapshot; a text with fewer lines begins a new generation, and within one the
snapshot only advances, whatever the text (`Holds.advances`).
-/

namespace LogTail.Log.Buffer

open Text (Continues)

/-- The buffer retains the last lines of a text. -/
structure Holds (b : Buffer) (text : String) : Prop where
  retains : 0 < b.maxLines
  firstLine : b.snapshot.firstLine = (Text.lines text).size - b.maxLines
  lines : b.snapshot.lines =
    (Text.lines text).extract ((Text.lines text).size - b.maxLines) (Text.lines text).size

variable {b : Buffer} {previous text : String}

/-- **What a text can do**: begin a generation, be passed over, or take the place of the last. -/
theorem apply_cases (b : Buffer) (text : String) :
    ((Text.lines text).size < b.snapshot.lineCount ∧ b.apply text =
      (.reset (b.snapshot.generation + 1), { b with
        snapshot := b.snapshotOf (b.snapshot.generation + 1) (Text.lines text) })) ∨
    ((Text.lines text).size = b.snapshot.lineCount ∧
      (Text.lines text).back? = b.snapshot.lines.back? ∧ b.apply text = (.unchanged, b)) ∨
    (b.snapshot.lineCount ≤ (Text.lines text).size ∧ b.apply text =
      (.appended b.snapshot.lineCount, { b with
        snapshot := b.snapshotOf b.snapshot.generation (Text.lines text) })) := by
  unfold apply
  simp only
  split
  · rename_i hfewer
    exact Or.inl ⟨hfewer, rfl⟩
  · rename_i hmore
    split
    · rename_i hsame
      exact Or.inr (Or.inl ⟨hsame.1, hsame.2, rfl⟩)
    · exact Or.inr (Or.inr ⟨Nat.le_of_not_lt hmore, rfl⟩)

theorem apply_unchanged (h : (b.apply text).1 = .unchanged) : (b.apply text).2 = b := by
  rcases b.apply_cases text with ⟨-, heq⟩ | ⟨-, -, heq⟩ | ⟨-, heq⟩ <;> rw [heq] at h ⊢
  · cases h
  · cases h

/-- A text that changes anything gets the next number. -/
theorem apply_version (h : (b.apply text).1 ≠ .unchanged) :
    (b.apply text).2.snapshot.version = b.snapshot.version + 1 := by
  rcases b.apply_cases text with ⟨-, heq⟩ | ⟨-, -, heq⟩ | ⟨-, heq⟩ <;> rw [heq] at h ⊢
  · rfl
  · exact absurd rfl h
  · rfl

theorem apply_maxLines (b : Buffer) (text : String) : (b.apply text).2.maxLines = b.maxLines := by
  rcases b.apply_cases text with ⟨-, heq⟩ | ⟨-, -, heq⟩ | ⟨-, heq⟩ <;> rw [heq]

theorem snapshotOf_lineCount (b : Buffer) (generation : Nat) (lines : Array String) :
    (b.snapshotOf generation lines).lineCount = lines.size := by
  simp only [snapshotOf, Snapshot.lineCount, Array.size_extract]
  omega

/-- Only a text with fewer lines begins a generation. -/
theorem apply_generation (h : ∀ generation, (b.apply text).1 ≠ .reset generation) :
    (b.apply text).2.snapshot.generation = b.snapshot.generation ∧
    b.snapshot.lineCount ≤ (b.apply text).2.snapshot.lineCount := by
  rcases b.apply_cases text with ⟨-, heq⟩ | ⟨-, -, heq⟩ | ⟨hmore, heq⟩ <;> rw [heq] at h ⊢
  · exact absurd rfl (h _)
  · exact ⟨rfl, Nat.le_refl _⟩
  · refine ⟨rfl, ?_⟩
    rw [snapshotOf_lineCount]
    exact hmore

theorem apply_reset {generation : Nat} (h : (b.apply text).1 = .reset generation) :
    (b.apply text).2.snapshot.generation = b.snapshot.generation + 1 := by
  rcases b.apply_cases text with ⟨-, heq⟩ | ⟨-, -, heq⟩ | ⟨-, heq⟩ <;> rw [heq] at h ⊢
  · rfl
  · cases h
  · cases h

theorem holds_empty (maxLines : Nat) : (empty maxLines).Holds "" where
  retains := Nat.le_max_right ..
  firstLine := by simp [empty]
  lines := by simp [empty]

theorem Holds.reset (h : b.Holds text) : b.reset.Holds "" where
  retains := h.retains
  firstLine := by simp [Buffer.reset]
  lines := by simp [Buffer.reset]

theorem holds_snapshotOf (h : 0 < b.maxLines) (generation : Nat) (text : String) :
    Holds { b with snapshot := b.snapshotOf generation (Text.lines text) } text :=
  ⟨h, rfl, rfl⟩

theorem Holds.lineCount (h : b.Holds text) : b.snapshot.lineCount = (Text.lines text).size := by
  rw [Snapshot.lineCount, h.firstLine, h.lines, Array.size_extract]
  omega

theorem Holds.line? (h : b.Holds text) {n : Nat} (hn : b.snapshot.firstLine ≤ n) :
    b.snapshot.line? n = (Text.lines text)[n]? := by
  rw [Snapshot.line?, if_neg (Nat.not_lt.2 hn), h.lines, Array.getElem?_extract, ← h.firstLine,
    Nat.add_sub_cancel' hn]
  split
  · rfl
  · rw [Array.getElem?_eq_none (by omega)]

theorem Holds.back? (h : b.Holds text) : b.snapshot.lines.back? = (Text.lines text).back? := by
  have hretains := h.retains
  rw [Array.back?_eq_getElem?, Array.back?_eq_getElem?, h.lines, Array.getElem?_extract,
    Array.size_extract]
  split
  · congr 1
    omega
  · rw [Array.getElem?_eq_none (by omega)]

/-- A buffer always holds a text: the one it took in, or the one it had. -/
theorem apply_holds (h : b.Holds previous) (text : String) :
    ∃ last, (b.apply text).2.Holds last := by
  rcases b.apply_cases text with ⟨-, heq⟩ | ⟨-, -, heq⟩ | ⟨-, heq⟩ <;> rw [heq]
  · exact ⟨text, holds_snapshotOf h.retains _ text⟩
  · exact ⟨previous, h⟩
  · exact ⟨text, holds_snapshotOf h.retains _ text⟩

theorem Holds.firstLine_eq (h : b.Holds text) :
    b.snapshot.firstLine = b.snapshot.lineCount - b.maxLines := by
  rw [h.lineCount, h.firstLine]

/-- **Within a generation the log only gets longer**, however its text changes. -/
theorem Holds.advances (h : b.Holds previous) (text : String)
    (hgeneration : (b.apply text).2.snapshot.generation = b.snapshot.generation) :
    b.snapshot.Advances (b.apply text).2.snapshot := by
  obtain ⟨last, hlast⟩ := apply_holds h text
  have hcount : b.snapshot.lineCount ≤ (b.apply text).2.snapshot.lineCount := by
    refine (apply_generation fun generation hreset => ?_).2
    exact absurd ((apply_reset hreset).symm.trans hgeneration) (Nat.succ_ne_self _)
  refine ⟨?_, hcount⟩
  rw [h.firstLine_eq, hlast.firstLine_eq, apply_maxLines]
  exact Nat.sub_le_sub_right hcount _

/-- **A text that goes on extends the snapshot** and stays in its generation. -/
theorem Holds.apply_continues (h : b.Holds previous) (ht : Continues previous text) :
    (b.apply text).2.Holds text ∧
    (b.apply text).2.snapshot.generation = b.snapshot.generation ∧
    b.snapshot.Extends (b.apply text).2.snapshot := by
  obtain ⟨hsize, hkept⟩ := Text.lines_continues ht
  have hcount := h.lineCount
  rcases b.apply_cases text with ⟨hfewer, heq⟩ | ⟨hsame, hlast, heq⟩ | ⟨-, heq⟩ <;> rw [heq]
  · omega
  · have hlines : Text.lines text = Text.lines previous :=
      Text.lines_eq_of_continues ht (hsame.trans hcount) (hlast.trans h.back?)
    refine ⟨⟨h.retains, ?_, ?_⟩, rfl, .refl _⟩
    · rw [hlines]; exact h.firstLine
    · rw [hlines]; exact h.lines
  · have hnew := holds_snapshotOf h.retains b.snapshot.generation text
    have hevicts : b.snapshot.firstLine ≤ (Text.lines text).size - b.maxLines :=
      h.firstLine ▸ Nat.sub_le_sub_right hsize _
    refine ⟨hnew, rfl, hevicts, ?_, fun n hfirst hlast => ?_⟩
    · rw [hcount, hnew.lineCount]
      exact hsize
    · rw [hnew.line? hfirst, h.line? (Nat.le_trans hevicts hfirst), hkept n (hcount ▸ hlast)]

theorem Holds.apply_fewer (h : b.Holds previous)
    (ht : (Text.lines text).size < (Text.lines previous).size) :
    (b.apply text).2.Holds text ∧
    (b.apply text).2.snapshot.generation = b.snapshot.generation + 1 := by
  have hfewer : (Text.lines text).size < b.snapshot.lineCount := by rwa [h.lineCount]
  rcases b.apply_cases text with ⟨-, heq⟩ | ⟨hsame, -, -⟩ | ⟨hmore, -⟩
  · rw [heq]
    exact ⟨holds_snapshotOf h.retains _ text, rfl⟩
  · omega
  · omega

end LogTail.Log.Buffer
