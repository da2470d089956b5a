import LogTail.Text.Lines
import Mathlib.Data.List.Basic

/-!
# Lines of a text

The lines are the pieces between line feeds (`toList_lines`), read in one pass.

A text that goes on where another ended has the lines of the other, except that the last one may
be longer: it was open, or it lost a carriage return to the line feed that came. So as many lines
and the same last line make the same lines.
-/

namespace LogTail.Text

/-! ## Pieces between line feeds -/

/-- The line of a piece that a line feed ended: one carriage return at its end goes too. -/
def endedLine (piece : List Char) : String :=
  String.ofList (if piece.getLast? = some '\r' then piece.dropLast else piece)

/-- The lines that pieces are. No line feed ended the last piece, which is a line as it stands
unless it is empty. -/
def linesOfPieces : List (List Char) → List String
  | [] => []
  | [last] => if last = [] then [] else [String.ofList last]
  | piece :: next :: rest => endedLine piece :: linesOfPieces (next :: rest)

/-- The lines of a text, cut at all line feeds at once. -/
def cutLines (text : String) : List String := linesOfPieces (text.toList.splitOn '\n')

theorem closeLine_eq (cur : List Char) : closeLine cur = endedLine cur.reverse := by
  unfold closeLine endedLine
  split
  · simp
  · rename_i hcur
    have hlast : cur.reverse.getLast? ≠ some '\r' := by
      rw [List.getLast?_reverse]
      intro hhead
      obtain ⟨cs, rfl⟩ := List.head?_eq_some_iff.1 hhead
      exact hcur cs rfl
    rw [if_neg hlast]

theorem linesOfPieces_cons (piece : List Char) {rest : List (List Char)} (h : rest ≠ []) :
    linesOfPieces (piece :: rest) = endedLine piece :: linesOfPieces rest := by
  cases rest with
  | nil => exact absurd rfl h
  | cons next rest => rfl

theorem modifyHead_nil_append (pieces : List (List Char)) :
    pieces.modifyHead (([] : List Char).reverse ++ ·) = pieces := by
  cases pieces <;> rfl

/-- The current line is the front of the first piece. -/
theorem toList_linesFrom (cs cur : List Char) (done : Array String) :
    (linesFrom cs cur done).toList =
      done.toList ++ linesOfPieces ((cs.splitOn '\n').modifyHead (cur.reverse ++ ·)) := by
  fun_induction linesFrom cs cur done with
  | case1 done => simp [List.splitOn, linesOfPieces]
  | case2 c cur done => simp [List.splitOn, linesOfPieces]
  | case3 cs cur done ih =>
    have hcut : ('\n' :: cs).splitOn '\n' = [] :: cs.splitOn '\n' := by
      simp [List.splitOn, List.splitOnP_cons_eq_if_modifyHead]
    have hne : cs.splitOn '\n' ≠ [] := List.splitOnP_ne_nil _ _
    rw [ih, hcut, closeLine_eq, List.modifyHead_cons, List.append_nil, linesOfPieces_cons _ hne,
      modifyHead_nil_append, Array.toList_push, List.append_assoc]
    rfl
  | case4 c cs cur done hc ih =>
    have hcut : (c :: cs).splitOn '\n' = (cs.splitOn '\n').modifyHead (c :: ·) := by
      have hother : (c == '\n') = false := by simpa using hc
      simp [List.splitOn, List.splitOnP_cons_eq_if_modifyHead, hother]
    rw [ih, hcut, List.modifyHead_modifyHead]
    simp [Function.comp_def]

/-- **The lines of a text are its pieces between line feeds.** -/
theorem toList_lines (text : String) : (lines text).toList = cutLines text := by
  rw [lines, toList_linesFrom, modifyHead_nil_append]
  rfl

/-! ## One line after another -/

theorem linesOfPieces_append {piece : List Char} (h : '\n' ∉ piece) (rest : List Char) :
    linesOfPieces ((piece ++ '\n' :: rest).splitOn '\n') =
      endedLine piece :: linesOfPieces (rest.splitOn '\n') := by
  rw [List.splitOn_append_cons_self_of_not_mem h, linesOfPieces_cons]
  exact List.splitOn_ne_nil _ _

theorem linesOfPieces_last {piece : List Char} (h : '\n' ∉ piece) :
    linesOfPieces (piece.splitOn '\n') = if piece = [] then [] else [String.ofList piece] := by
  rw [List.splitOn_eq_singleton h, linesOfPieces]

/-! ## Carriage returns -/

/-- The line without one carriage return at its end, if it has one. -/
def withoutReturn (line : String) : String := endedLine line.toList

/-- The line ends in a carriage return. -/
def EndsInReturn (line : String) : Prop := line.toList.getLast? = some '\r'

theorem withoutReturn_eq_self_iff {line : String} :
    withoutReturn line = line ↔ ¬ EndsInReturn line := by
  unfold withoutReturn endedLine EndsInReturn
  split
  · rename_i h
    obtain ⟨front, hfront⟩ := List.getLast?_eq_some_iff.1 h
    rw [← String.toList_inj, String.toList_ofList, hfront]
    simp
  · simp_all

theorem map_withoutReturn_eq_self_iff {lines : Array String} :
    lines.map withoutReturn = lines ↔ ∀ line ∈ lines, ¬ EndsInReturn line := by
  have hself : lines.map withoutReturn = lines.map id ↔
      ∀ line ∈ lines, withoutReturn line = id line := Array.map_inj_left
  simpa [withoutReturn_eq_self_iff] using hself

/-! ## Texts that go on -/

/-- Lines that are done stay, and an open one will be a line. -/
theorem linesFrom_keeps (cs cur : List Char) (done : Array String) :
    done.size + (if cur = [] then 0 else 1) ≤ (linesFrom cs cur done).size ∧
    ∀ n < done.size, (linesFrom cs cur done)[n]? = done[n]? := by
  fun_induction linesFrom cs cur done with
  | case1 done => simp
  | case2 c cur done =>
    refine ⟨by simp, fun n hn => ?_⟩
    rw [Array.getElem?_push_lt hn, Array.getElem?_eq_getElem hn]
  | case3 cs cur done ih =>
    simp only [Array.size_push, if_true, Nat.add_zero] at ih
    refine ⟨?_, fun n hn => ?_⟩
    · split <;> omega
    · rw [ih.2 n (by omega), Array.getElem?_push_lt hn, Array.getElem?_eq_getElem hn]
  | case4 c cs cur done _ ih =>
    simp only [reduceCtorEq, if_false] at ih
    refine ⟨?_, ih.2⟩
    split <;> omega

/-- Where a text ends, some lines are done and one may be open; what comes later goes on there. -/
theorem linesFrom_append (cs cur : List Char) (done : Array String) : ∃ cur' done',
    ∀ more, linesFrom (cs ++ more) cur done = linesFrom more cur' done' := by
  fun_induction linesFrom cs cur done with
  | case1 done => exact ⟨[], done, fun more => rfl⟩
  | case2 c cur done => exact ⟨c :: cur, done, fun more => rfl⟩
  | case3 cs cur done ih =>
    obtain ⟨cur', done', h⟩ := ih
    exact ⟨cur', done', fun more => by rw [← h, List.cons_append, linesFrom]⟩
  | case4 c cs cur done hc ih =>
    obtain ⟨cur', done', h⟩ := ih
    exact ⟨cur', done', fun more => by rw [← h, List.cons_append, linesFrom]; exact hc⟩

/-- One text goes on where another ended. -/
def Continues (previous text : String) : Prop := previous.toList <+: text.toList

instance : DecidableRel Continues :=
  fun previous text => inferInstanceAs (Decidable (previous.toList <+: text.toList))

variable {previous text : String}

/-- **A text that goes on keeps its lines**, all but the last, and has no fewer of them. -/
theorem lines_continues (h : Continues previous text) :
    (lines previous).size ≤ (lines text).size ∧
    ∀ n, n + 1 < (lines previous).size → (lines text)[n]? = (lines previous)[n]? := by
  obtain ⟨more, hmore⟩ := h
  obtain ⟨cur, done, hends⟩ := linesFrom_append previous.toList [] #[]
  have hprevious : lines previous = linesFrom [] cur done := by
    rw [lines, ← hends, List.append_nil]
  have htext : lines text = linesFrom more cur done := by rw [lines, ← hends, hmore]
  obtain ⟨hsize, hkeeps⟩ := linesFrom_keeps more cur done
  have hends' : (linesFrom [] cur done).size = done.size + (if cur = [] then 0 else 1) := by
    cases cur <;> simp [linesFrom]
  rw [hprevious, htext]
  refine ⟨hends' ▸ hsize, fun n hn => ?_⟩
  have hdone : n < done.size := by
    rw [hends'] at hn
    split at hn <;> omega
  rw [hkeeps n hdone, (linesFrom_keeps [] cur done).2 n hdone]

/-- A text that goes on without another line and without a change of the last has the same
lines. -/
theorem lines_eq_of_continues (h : Continues previous text)
    (hsize : (lines text).size = (lines previous).size)
    (hlast : (lines text).back? = (lines previous).back?) : lines text = lines previous := by
  refine Array.ext_getElem? fun n => ?_
  by_cases hn : n + 1 < (lines previous).size
  · exact (lines_continues h).2 n hn
  · by_cases hend : n + 1 = (lines previous).size
    · rw [Array.back?_eq_getElem?, Array.back?_eq_getElem?, hsize] at hlast
      rwa [show n = (lines previous).size - 1 by omega]
    · rw [Array.getElem?_eq_none (by omega), Array.getElem?_eq_none (by omega)]

@[simp] theorem lines_empty : lines "" = #[] := rfl

end LogTail.Text
