import LogTail.Proofs.Text.Lines
import LogTail.Proofs.Text.Utf8
import LogTail.Source.Fetch

/-!
# The lines of a container's output

A container's output is read line by line, on bytes, and each line is decoded on its own. The whole
output decoded at once has as many lines, since a line feed ends whatever character it stands in.
A carriage return in front of it is taken off twice here, once from the bytes and once from the
text, and so each line is that of the whole output without one more carriage return at its end.
-/

namespace LogTail

open Text (cutLines endedLine)

namespace Source

open Text (withoutReturn EndsInReturn)
open Text.Utf8 (decode decode_append not_mem_decode decode_eq_nil getLast?_decode)

/-! ## Lines of the output, one at a time -/

/-- A line on bytes without the carriage return in front of its line feed. -/
def endedPiece (piece : List UInt8) : List UInt8 :=
  if piece.getLast? = some 13 then piece.dropLast else piece

variable {piece : List UInt8}

theorem outputPieces_feed (bs cur : List UInt8) :
    outputPieces (10 :: bs) cur = endedPiece cur.reverse :: outputPieces bs [] := by
  by_cases hlast : cur.head? = some 13
  · obtain ⟨rest, rfl⟩ := List.head?_eq_some_iff.1 hlast
    have hended : endedPiece (13 :: rest).reverse = rest.reverse := by simp [endedPiece]
    rw [outputPieces, if_pos rfl, hended]
  · have hended : endedPiece cur.reverse = cur.reverse := by
      rw [endedPiece, List.getLast?_reverse, if_neg hlast]
    rw [outputPieces, if_pos rfl, hended]
    rintro rest rfl
    exact hlast rfl

theorem outputPieces_other {b : UInt8} (hb : b ≠ 10) (bs cur : List UInt8) :
    outputPieces (b :: bs) cur = outputPieces bs (b :: cur) := if_neg hb

theorem outputPieces_append (h : 10 ∉ piece) (rest : List UInt8) : ∀ cur : List UInt8,
    outputPieces (piece ++ 10 :: rest) cur =
      endedPiece (cur.reverse ++ piece) :: outputPieces rest [] := by
  induction piece with
  | nil =>
    intro cur
    rw [List.nil_append, List.append_nil, outputPieces_feed]
  | cons b piece ih =>
    intro cur
    rw [List.mem_cons, not_or] at h
    rw [List.cons_append, outputPieces_other (Ne.symm h.1), ih h.2, List.reverse_cons,
      List.append_assoc]
    rfl

theorem outputPieces_last (h : 10 ∉ piece) : ∀ cur : List UInt8,
    outputPieces piece cur = if cur.reverse ++ piece = [] then [] else [cur.reverse ++ piece] := by
  induction piece with
  | nil =>
    intro cur
    cases cur <;> simp [outputPieces]
  | cons b piece ih =>
    intro cur
    rw [List.mem_cons, not_or] at h
    rw [outputPieces_other (Ne.symm h.1), ih h.2, List.reverse_cons, List.append_assoc]
    rfl

theorem containerText_append (h : 10 ∉ piece) (rest : List UInt8) :
    (containerText (piece ++ 10 :: rest)).toList =
      (decode (endedPiece piece)).toList ++ '\n' :: (containerText rest).toList := by
  simp [containerText, outputPieces_append h]

theorem containerText_last (h : 10 ∉ piece) (hne : piece ≠ []) :
    (containerText piece).toList = (decode piece).toList ++ ['\n'] := by
  simp [containerText, outputPieces_last h, hne]

/-! ## Carriage returns -/

/-- Taken off the bytes and then off the text, a carriage return goes as often as when it is taken
off the text twice. -/
theorem endedLine_endedPiece (piece : List UInt8) :
    endedLine (decode (endedPiece piece)).toList =
      withoutReturn (endedLine (decode piece).toList) := by
  have hreturn : (13 : UInt8) < 0x80 := by decide
  have hlast : (decode piece).toList.getLast? = some '\r' ↔ piece.getLast? = some 13 :=
    getLast?_decode hreturn
  by_cases h : piece.getLast? = some 13
  · obtain ⟨front, rfl⟩ := List.getLast?_eq_some_iff.1 h
    have hdecode : (decode (front ++ [13])).toList = (decode front).toList ++ ['\r'] :=
      decode_append hreturn front []
    rw [endedPiece, if_pos h, List.dropLast_concat, hdecode]
    simp [endedLine, withoutReturn]
  · rw [endedPiece, if_neg h]
    have hplain : endedLine (decode piece).toList = decode piece := by
      rw [endedLine, if_neg (mt hlast.1 h), String.ofList_toList]
    rw [hplain, withoutReturn, hplain]

theorem endedPiece_subset (piece : List UInt8) : endedPiece piece ⊆ piece := by
  unfold endedPiece
  split
  · exact List.dropLast_subset piece
  · exact List.Subset.refl piece

/-- **A container's lines are those of its whole output** without one more carriage return at the
end of each. -/
theorem lines_containerText (bytes : List UInt8) :
    cutLines (containerText bytes) = (cutLines (decode bytes)).map withoutReturn := by
  have hfeed : (10 : UInt8) < 0x80 := by decide
  induction hlength : bytes.length using Nat.strongRecOn generalizing bytes with
  | ind n ih =>
    subst hlength
    by_cases h : 10 ∈ bytes
    · obtain ⟨piece, rest, rfl, hpiece⟩ := List.eq_append_cons_of_mem h
      have hshorter : rest.length < (piece ++ 10 :: rest).length := by
        simp only [List.length_cons, List.length_append]
        omega
      have hrest := ih _ hshorter rest rfl
      have hdecode : (decode (piece ++ 10 :: rest)).toList =
          (decode piece).toList ++ '\n' :: (decode rest).toList := decode_append hfeed piece rest
      have hended : 10 ∉ endedPiece piece := fun hmem => hpiece (endedPiece_subset piece hmem)
      simp only [cutLines] at hrest ⊢
      rw [containerText_append hpiece, hdecode,
        Text.linesOfPieces_append (not_mem_decode hfeed hended),
        Text.linesOfPieces_append (not_mem_decode hfeed hpiece), List.map_cons, hrest,
        endedLine_endedPiece]
    · by_cases hne : bytes = []
      · subst hne
        rfl
      · have hmem : '\n' ∉ (decode bytes).toList := not_mem_decode hfeed h
        have htext : (decode bytes).toList ≠ [] := mt decode_eq_nil hne
        simp only [cutLines]
        rw [containerText_last h hne, Text.linesOfPieces_append hmem, Text.linesOfPieces_last hmem,
          if_neg htext, List.splitOn_nil, List.map_singleton, String.ofList_toList]
        rfl

/-- What is fetched from a container that wrote to its standard output alone and ended well. -/
theorem fetch_container {world : World} {container : String} {bytes : List UInt8}
    (hname : '\x00' ∉ container.toList)
    (hran : world.run .docker ["logs", "--", container] = .ok ⟨bytes, [], .exited 0⟩) :
    fetch world (.docker container) = .ok (containerText bytes) := by
  have hsuccess : (ExitStatus.exited 0).success = true := rfl
  have hempty : containerText [] = "" := rfl
  simp [fetch, fault?, helper?, runHelper, hname, hran, ofOutput, hsuccess, hempty]

/-- **A container's output splits like that of any other source**, but for carriage returns. What
is fetched from a container that wrote some bytes to its standard output and ended well has the
lines of those bytes decoded at once, each without one more carriage return if it ends in one. So
the lines are the same just in case none ends in a carriage return. -/
theorem container_lines (world : World) (container : String) (bytes : List UInt8)
    (hname : '\x00' ∉ container.toList)
    (hran : world.run .docker ["logs", "--", container] = .ok ⟨bytes, [], .exited 0⟩) :
    ∃ text, fetch world (.docker container) = .ok text ∧
      Text.lines text = (Text.lines (decode bytes)).map withoutReturn ∧
      (Text.lines text = Text.lines (decode bytes) ↔
        ∀ line ∈ Text.lines (decode bytes), ¬ EndsInReturn line) := by
  have hlines : Text.lines (containerText bytes) =
      (Text.lines (decode bytes)).map withoutReturn := by
    rw [← Array.toList_inj, Array.toList_map, Text.toList_lines, Text.toList_lines,
      lines_containerText]
  exact ⟨containerText bytes, fetch_container hname hran, hlines,
    hlines ▸ Text.map_withoutReturn_eq_self_iff⟩

/-- A line feed cuts a character short, and of two carriage returns in front of another and of one
at the end none is left. -/
theorem container_lines_returns :
    let bytes : List UInt8 := [0xE2, 0x82, 10, 97, 13, 13, 10, 13]
    let world : World := {
      file := fun _ => .error "No such file or directory (os error 2)"
      run := fun _ _ => .ok ⟨bytes, [], .exited 0⟩
      get := fun _ _ => .error (.http 404)
      write := fun _ _ _ => .ok () }
    '\x00' ∉ "web".toList ∧
    world.run .docker ["logs", "--", "web"] = .ok ⟨bytes, [], .exited 0⟩ ∧
    ∃ text, fetch world (.docker "web") = .ok text ∧ Text.lines text = #["\uFFFD", "a", ""] ∧
      Text.lines (decode bytes) = #["\uFFFD", "a\r", "\r"] := by
  intro bytes world
  have hname : '\x00' ∉ "web".toList := by decide
  obtain ⟨text, hfetch, hlines, -⟩ := container_lines world "web" bytes hname rfl
  have hwhole : Text.lines (decode bytes) = #["\uFFFD", "a\r", "\r"] := by decide +kernel
  refine ⟨hname, rfl, text, hfetch, ?_, hwhole⟩
  rw [hlines, hwhole]
  decide +kernel

end Source

end LogTail
