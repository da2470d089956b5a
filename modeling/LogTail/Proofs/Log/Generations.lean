import LogTail.Proofs.Log.Buffer
import Mathlib.Data.List.Induction

/-!
# A buffer over any texts

Nothing is asked of the texts here: each may be another log, shorter or longer than the one before,
or empty. What a buffer shows is told by one of them all the same. It retains the last lines of a
text that was fetched in its generation (`stems_run`), which is not always the latest one, since a
text with as many lines and the same last line is passed over; and from one moment to a later one
the generation does not go back, and the log of a generation does not get shorter (`precedes_run`).
-/

namespace LogTail.Log

/-- A later snapshot of the same buffer: it is of a later generation, or of the same one and further
on in it. -/
structure Snapshot.Precedes (s t : Snapshot) : Prop where
  generation : s.generation ≤ t.generation
  advances : t.generation = s.generation → s.Advances t

theorem Snapshot.Precedes.refl (s : Snapshot) : s.Precedes s := ⟨Nat.le_refl _, fun _ => .refl s⟩

theorem Snapshot.Precedes.trans {s t u : Snapshot} (h₁ : s.Precedes t) (h₂ : t.Precedes u) :
    s.Precedes u where
  generation := Nat.le_trans h₁.generation h₂.generation
  advances h := by
    -- Generations do not go back, so the one between is the same.
    have hle₁ := h₁.generation
    have hle₂ := h₂.generation
    exact (h₁.advances (by omega)).trans (h₂.advances (by omega))

namespace Buffer

/-- What a buffer is told. -/
inductive Operation where
  | fetch (text : String)
  /-- Another log begins. -/
  | reset

def operate (b : Buffer) : Operation → Buffer
  | .fetch text => (b.apply text).2
  | .reset => b.reset

def operateAll (b : Buffer) (ops : List Operation) : Buffer := ops.foldl operate b

theorem operateAll_append (b : Buffer) (ops more : List Operation) :
    b.operateAll (ops ++ more) = (b.operateAll ops).operateAll more := List.foldl_append ..

theorem operateAll_concat (b : Buffer) (ops : List Operation) (op : Operation) :
    b.operateAll (ops ++ [op]) = (b.operateAll ops).operate op := by
  rw [operateAll_append]
  rfl

variable {b : Buffer} {last text : String} {op : Operation}

/-! ## One operation -/

@[simp] theorem operate_maxLines (b : Buffer) (op : Operation) :
    (b.operate op).maxLines = b.maxLines := by
  cases op with
  | fetch text => exact b.apply_maxLines text
  | reset => rfl

theorem operate_holds (h : b.Holds last) (op : Operation) : ∃ last, (b.operate op).Holds last := by
  cases op with
  | fetch text => exact apply_holds h text
  | reset => exact ⟨"", h.reset⟩

/-- Whether an operation begins a generation. -/
def begins (b : Buffer) : Operation → Bool
  | .fetch text => (Text.cutLines text).length < b.snapshot.lineCount
  | .reset => true

theorem operate_generation (b : Buffer) (op : Operation) :
    (b.operate op).snapshot.generation = b.snapshot.generation + (b.begins op).toNat := by
  cases op with
  | reset => rfl
  | fetch text =>
    rw [begins, ← Text.toList_lines, Array.length_toList, operate]
    rcases b.apply_cases text with ⟨hfewer, h⟩ | ⟨hsize, -, h⟩ | ⟨hmore, h⟩
    · rw [h, decide_eq_true hfewer]
      rfl
    · rw [h, decide_eq_false (by omega)]
      rfl
    · rw [h, decide_eq_false (by omega)]
      rfl

theorem Holds.precedes (h : b.Holds last) (op : Operation) :
    b.snapshot.Precedes (b.operate op).snapshot := by
  refine ⟨by rw [operate_generation]; exact Nat.le_add_right .., fun hsame => ?_⟩
  cases op with
  | fetch text => exact h.advances text hsame
  | reset => exact absurd hsame (Nat.succ_ne_self _)

/-- Whatever it does with it, a buffer counts the lines of a text and has its last line. -/
theorem Holds.apply_last (h : b.Holds last) (text : String) :
    (b.apply text).2.snapshot.lineCount = (Text.lines text).size ∧
    (b.apply text).2.snapshot.lines.back? = (Text.lines text).back? := by
  have hnew (generation : Nat) := holds_snapshotOf h.retains generation text
  rcases b.apply_cases text with ⟨-, heq⟩ | ⟨hsize, hlast, heq⟩ | ⟨-, heq⟩
  · rw [heq]
    exact ⟨(hnew _).lineCount, (hnew _).back?⟩
  · rw [heq]
    exact ⟨hsize.symm, hlast.symm⟩
  · rw [heq]
    exact ⟨(hnew _).lineCount, (hnew _).back?⟩

/-! ## What a buffer retains -/

theorem Holds.size (h : b.Holds last) : b.snapshot.lines.size =
    min b.snapshot.lineCount b.maxLines := by
  rw [h.lineCount, h.lines, Array.size_extract]
  omega

theorem Holds.suffix (h : b.Holds last) : b.snapshot.lines.toList <:+ Text.cutLines last := by
  rw [h.lines, ← Text.toList_lines, Array.toList_extract, List.extract_eq_take_drop,
    List.take_of_length_le (by simp)]
  exact List.drop_suffix _ _

/-! ## Every row of operations -/

variable {ops : List Operation}

/-- The buffer holds a text that was fetched in its generation, or no line at all. -/
def Stems (start : Buffer) (ops : List Operation) : Prop :=
  ∃ text, (start.operateAll ops).Holds text ∧ (text = "" ∨ ∃ before after,
    ops = before ++ .fetch text :: after ∧
    (start.operateAll (before ++ [.fetch text])).snapshot.generation =
      (start.operateAll ops).snapshot.generation)

theorem stems_of_fetched {start : Buffer}
    (h : (start.operateAll (ops ++ [.fetch text])).Holds text) :
    start.Stems (ops ++ [.fetch text]) :=
  ⟨text, h, Or.inr ⟨ops, [], rfl, rfl⟩⟩

/-- The text that is held is the new one, unless that is passed over. -/
theorem Stems.concat {start : Buffer} (h : start.Stems ops) (op : Operation) :
    start.Stems (ops ++ [op]) := by
  obtain ⟨text, hholds, hfetched⟩ := h
  have hnext : start.operateAll (ops ++ [op]) = (start.operateAll ops).operate op :=
    operateAll_concat ..
  cases op with
  | reset => exact ⟨"", hnext ▸ hholds.reset, Or.inl rfl⟩
  | fetch next =>
    have hnew (generation : Nat) := holds_snapshotOf hholds.retains generation next
    rw [operate] at hnext
    rcases (start.operateAll ops).apply_cases next with ⟨-, heq⟩ | ⟨-, -, heq⟩ | ⟨-, heq⟩
    · exact stems_of_fetched (by rw [hnext, heq]; exact hnew _)
    · rw [heq] at hnext
      rw [Stems, hnext]
      refine ⟨text, hholds, hfetched.imp_right ?_⟩
      rintro ⟨before, after, hsplit, hgeneration⟩
      exact ⟨before, after ++ [.fetch next], by simp [hsplit], hgeneration⟩
    · exact stems_of_fetched (by rw [hnext, heq]; exact hnew _)

theorem stems_run (maxLines : Nat) (ops : List Operation) : (empty maxLines).Stems ops := by
  induction ops using List.reverseRecOn with
  | nil => exact ⟨"", holds_empty maxLines, Or.inl rfl⟩
  | append_singleton ops op ih => exact ih.concat op

theorem operateAll_maxLines (ops : List Operation) : ∀ b : Buffer,
    (b.operateAll ops).maxLines = b.maxLines := by
  induction ops with
  | nil => intro b; rfl
  | cons op ops ih => intro b; exact (ih _).trans (b.operate_maxLines op)

/-- A later snapshot of a buffer comes after an earlier one. -/
theorem Holds.precedes_run (more : List Operation) : ∀ {b : Buffer} {last : String}, b.Holds last →
    b.snapshot.Precedes (b.operateAll more).snapshot := by
  induction more with
  | nil => intro b _ _; exact .refl _
  | cons op more ih =>
    intro b last h
    obtain ⟨next, hnext⟩ := operate_holds h op
    exact (h.precedes op).trans (ih hnext)

/-- **A buffer keeps its books over any texts.** Whatever was fetched and however often the buffer
was reset, it retains as many lines as it counts, up to its limit, and the first one has the number
of those that are gone. A reset and a text with fewer lines than it counts begin a generation, and
nothing else does; no later generation is an earlier one, and in one and the same generation the
count never falls. After every text the count is that of the text's lines, and the last line is the
text's. The retained lines are none, or the tail of one text fetched in their generation. -/
theorem books_kept (maxLines : Nat) (ops : List Operation) :
    let b := (empty maxLines).operateAll ops
    let s := b.snapshot
    s.lines.size = min s.lineCount (max maxLines 1) ∧
    s.firstLine = s.lineCount - s.lines.size ∧
    (∀ op, (b.operate op).snapshot.generation = s.generation + (b.begins op).toNat) ∧
    (∀ more, let t := (b.operateAll more).snapshot
      s.generation ≤ t.generation ∧ (t.generation = s.generation → s.lineCount ≤ t.lineCount)) ∧
    (∀ text, let t := (b.operate (.fetch text)).snapshot
      t.lineCount = (Text.cutLines text).length ∧
      t.lines.toList.getLast? = (Text.cutLines text).getLast?) ∧
    (s.lines = #[] ∨ ∃ before text after, ops = before ++ .fetch text :: after ∧
      ((empty maxLines).operateAll (before ++ [.fetch text])).snapshot.generation = s.generation ∧
      s.lines.toList <:+ Text.cutLines text) := by
  intro b s
  obtain ⟨last, hholds, hstems⟩ := stems_run maxLines ops
  have hmax : b.maxLines = max maxLines 1 := operateAll_maxLines ops _
  refine ⟨?_, ?_, b.operate_generation, fun more => ?_, fun text => ?_, ?_⟩
  · rw [← hmax]
    exact hholds.size
  · exact (Nat.add_sub_cancel ..).symm
  · have hprecedes := hholds.precedes_run more
    exact ⟨hprecedes.generation, fun hsame => (hprecedes.advances hsame).lineCount⟩
  · intro t
    rw [← Text.toList_lines, Array.length_toList, Array.getLast?_toList, Array.getLast?_toList]
    exact hholds.apply_last text
  · rcases hstems with rfl | ⟨before, after, hsplit, hgeneration⟩
    · exact Or.inl (by simpa using hholds.lines)
    · exact Or.inr ⟨before, last, after, hsplit, hgeneration, hholds.suffix⟩

end Buffer

end LogTail.Log
