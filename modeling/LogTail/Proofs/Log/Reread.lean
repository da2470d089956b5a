import LogTail.Proofs.Log.Generations
import LogTail.Session.Export

/-!
# The retained text, read again

The retained lines are joined with a line feed between any two, as for an export that falls back on
them, and cutting a text takes line feeds as ends of lines. So a line feed may take a carriage
return with it, and what ends in a line feed ends in no empty line. `Text.reread` says what is read
of lines without line feeds that were joined, and the lines of a text have none
(`newline_not_mem_cutLines`).
-/

namespace LogTail

/-! ## Lines that were joined -/

namespace Text

theorem toList_endedLine_subset (piece : List Char) : (endedLine piece).toList ⊆ piece := by
  unfold endedLine
  rw [String.toList_ofList]
  split
  · exact List.dropLast_subset piece
  · exact List.Subset.refl piece

theorem newline_not_mem_linesFrom (cs cur : List Char) (done : Array String)
    (hcur : '\n' ∉ cur) (hdone : ∀ line ∈ done, '\n' ∉ line.toList) :
    ∀ line ∈ linesFrom cs cur done, '\n' ∉ line.toList := by
  fun_induction linesFrom cs cur done with
  | case1 done => exact hdone
  | case2 c cur done =>
    intro line hline
    rcases Array.mem_push.1 hline with hline | rfl
    · exact hdone line hline
    · rwa [String.toList_ofList, List.mem_reverse]
  | case3 cs cur done ih =>
    refine ih List.not_mem_nil fun line hline => ?_
    rcases Array.mem_push.1 hline with hline | rfl
    · exact hdone line hline
    · rw [closeLine_eq]
      exact fun hmem => hcur (List.mem_reverse.1 (toList_endedLine_subset _ hmem))
  | case4 c cs cur done hc ih =>
    exact ih (by simpa using ⟨Ne.symm hc, hcur⟩) hdone

/-- No line of a text has a line feed in it. -/
theorem newline_not_mem_cutLines {text line : String} (h : line ∈ cutLines text) :
    '\n' ∉ line.toList := by
  rw [← toList_lines, Array.mem_toList_iff] at h
  exact newline_not_mem_linesFrom text.toList [] #[] List.not_mem_nil (by simp) line h

/-- What is read of lines that were joined. There is a line feed behind each but the last, which
takes one carriage return with it; of an empty last line nothing is seen. -/
def reread (lines : Array String) : Array String :=
  lines.pop.map withoutReturn ++ (lines.back?.filter (· ≠ "")).toArray

theorem linesOfPieces_toList (lines : List String) :
    linesOfPieces (lines.map String.toList) =
      lines.dropLast.map withoutReturn ++ (lines.getLast?.filter (· ≠ "")).toList := by
  induction lines with
  | nil => rfl
  | cons line rest ih =>
    cases rest with
    | nil => by_cases hline : line = "" <;> simp [linesOfPieces, Option.filter, hline]
    | cons next rest =>
      rw [List.map_cons, linesOfPieces_cons _ (by simp), ih]
      rfl

theorem lines_joinLines {joined : Array String} (h : ∀ line ∈ joined, '\n' ∉ line.toList) :
    lines (joinLines joined) = reread joined := by
  have hreread : (reread joined).toList = joined.toList.dropLast.map withoutReturn ++
      (joined.toList.getLast?.filter (· ≠ "")).toList := by
    simp [reread]
  rw [← Array.toList_inj, toList_lines, cutLines, joinLines, String.toList_intercalate, hreread,
    ← linesOfPieces_toList]
  by_cases hempty : joined = #[]
  · subst hempty
    simp [linesOfPieces]
  · congr 1
    exact List.splitOn_intercalate '\n' (by simpa using h) (by simpa using hempty)

theorem reread_eq_self_iff {joined : Array String} : reread joined = joined ↔
    joined = #[] ∨ joined.back? ≠ some "" ∧ ∀ line ∈ joined.pop, ¬ EndsInReturn line := by
  by_cases hempty : joined = #[]
  · subst hempty
    simp [reread]
  · obtain ⟨front, last, rfl⟩ := Array.exists_push_of_ne_empty hempty
    by_cases hlast : last = ""
    · subst hlast
      have hsize : front.map withoutReturn ≠ front.push "" := fun h => by
        simpa using congrArg Array.size h
      simpa [reread, Option.filter] using hsize
    · have hback : reread (front.push last) = (front.map withoutReturn).push last := by
        simp [reread, Option.filter, hlast]
      rw [hback, Array.push_eq_push]
      simp [map_withoutReturn_eq_self_iff, hlast]

end Text

/-! ## What a buffer retains -/

namespace Log.Buffer

variable {b : Buffer} {text : String}

theorem Holds.newline_not_mem (h : b.Holds text) {line : String}
    (hline : line ∈ b.snapshot.lines) : '\n' ∉ line.toList :=
  Text.newline_not_mem_cutLines (h.suffix.subset (Array.mem_toList_iff.2 hline))

/-- **The retained text re-reads as itself just when it can.** Whatever was fetched and however
often the buffer was reset, the lines of the retained text are the retained lines if there are none,
or if the last one is not empty and no other ends in a carriage return; and only then. In any case
they are the retained lines, each but the last without one carriage return at its end, and the last
as it is, or gone if it is empty. An export whose source cannot be fetched from writes this text. -/
theorem text_rereads (maxLines : Nat) (ops : List Operation) :
    let s := ((empty maxLines).operateAll ops).snapshot
    let read := Text.lines s.text
    (read = s.lines ↔ s.lines = #[] ∨
      s.lines.back? ≠ some "" ∧ ∀ line ∈ s.lines.pop, ¬ Text.EndsInReturn line) ∧
    read = s.lines.pop.map Text.withoutReturn ++ (s.lines.back?.filter (· ≠ "")).toArray ∧
    ∀ (source : Source) (directory : String) (world : World),
      ExportJob.text ⟨source, s, directory⟩ world = (source.fetch world).toOption.getD s.text := by
  intro s read
  obtain ⟨last, hholds, -⟩ := stems_run maxLines ops
  have hread : read = Text.reread s.lines :=
    Text.lines_joinLines fun line => hholds.newline_not_mem
  refine ⟨hread ▸ Text.reread_eq_self_iff, hread, fun source directory world => ?_⟩
  simp only [ExportJob.text]
  cases source.fetch world <;> rfl

/-- Of two carriage returns one was in front of a line feed when the text was cut, and the other is
when it is cut again; the empty line is behind the last line feed then. -/
example : let s := ((empty 3).operateAll [.fetch "a\r\nb\r\r\nc\r\n\n"]).snapshot
    s.lines = #["b\r", "c", ""] ∧ Text.lines s.text = #["b", "c"] := by
  decide +kernel

end Log.Buffer

end LogTail
