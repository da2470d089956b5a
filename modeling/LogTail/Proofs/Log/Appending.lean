import LogTail.Proofs.Log.Buffer
import Mathlib.Data.List.Chain

/-!
# A log that is only appended to

When every text goes on where the one before it ended, a buffer shows the log as it is: it never
starts over, it retains the last lines of the latest text under the numbers that they have in that
text, and a line keeps its number. Eviction moves the first retained line forward and no number.
-/

namespace LogTail

open Text (Continues)

/-- The lines of a text with their numbers. -/
def Text.numbered (text : String) : List (Nat × String) :=
  (cutLines text).zipIdx.map fun (line, n) => (n, line)

namespace Log.Buffer

variable {b : Buffer} {previous text : String}

def applyAll (b : Buffer) (texts : List String) : Buffer :=
  texts.foldl (fun b text => (b.apply text).2) b

/-! ## What is retained -/

/-- What a buffer lists is the text's numbered lines from the first retained one on. -/
theorem Holds.linesFrom_zero (h : b.Holds text) : b.snapshot.linesFrom 0 =
    (Text.numbered text).drop ((Text.cutLines text).length - b.maxLines) := by
  have hretained : b.snapshot.lines.toList = (Text.cutLines text).drop b.snapshot.firstLine := by
    rw [h.lines, ← h.firstLine, Array.toList_extract, Text.toList_lines, List.extract_eq_take_drop]
    exact List.take_of_length_le (by simp [← Text.toList_lines])
  have hfirst : b.snapshot.firstLine = (Text.cutLines text).length - b.maxLines := by
    rw [h.firstLine, ← Text.toList_lines, Array.length_toList]
  rw [Snapshot.linesFrom, Nat.zero_sub, Nat.zero_min, List.drop_zero, Nat.add_zero, hretained,
    Text.numbered, ← hfirst, ← List.map_drop]
  congr 1
  refine List.ext_getElem? fun n => ?_
  rw [List.getElem?_zipIdx, List.getElem?_drop, List.getElem?_drop, List.getElem?_zipIdx,
    Nat.zero_add]

theorem Holds.line?_eq (h : b.Holds text) (n : Nat) : b.snapshot.line? n =
    if (Text.cutLines text).length - b.maxLines ≤ n then (Text.cutLines text)[n]? else none := by
  rw [← Text.toList_lines, Array.length_toList, ← h.firstLine, Array.getElem?_toList]
  split
  · rename_i hn
    exact h.line? hn
  · rename_i hn
    exact if_pos (Nat.lt_of_not_le hn)

/-! ## A text that goes on -/

theorem Holds.apply_ne_reset (h : b.Holds previous) (ht : Continues previous text)
    (generation : Nat) : (b.apply text).1 ≠ .reset generation := by
  obtain ⟨hsize, -⟩ := Text.lines_continues ht
  have hcount := h.lineCount
  rcases b.apply_cases text with ⟨hfewer, -⟩ | ⟨-, -, heq⟩ | ⟨-, heq⟩
  · omega
  · simp [heq]
  · simp [heq]

/-- Texts that go on, one after the other, leave the buffer with the last of them, in the same
generation. -/
theorem Holds.applyAll_continues (earlier : List String) : ∀ {b : Buffer} {previous : String},
    b.Holds previous → (previous :: (earlier ++ [text])).IsChain Continues →
    ∃ last, (b.applyAll earlier).Holds last ∧ Continues last text ∧
      (b.applyAll earlier).snapshot.generation = b.snapshot.generation ∧
      (b.applyAll earlier).maxLines = b.maxLines := by
  induction earlier with
  | nil =>
    intro b previous h hchain
    exact ⟨previous, h, (List.isChain_cons_cons.1 hchain).1, rfl, rfl⟩
  | cons next earlier ih =>
    intro b previous h hchain
    obtain ⟨hnext, hrest⟩ := List.isChain_cons_cons.1 hchain
    obtain ⟨hholds, hgeneration, -⟩ := h.apply_continues hnext
    obtain ⟨last, hlast, ht, hsame, hmax⟩ := ih hholds hrest
    exact ⟨last, hlast, ht, hsame.trans hgeneration, hmax.trans (apply_maxLines b next)⟩

/-! ## Every run of texts that go on -/

/-- **A log that is only appended to is shown as it is.** Whatever texts came earlier, each going
on where the one before it ended, the next text starts no new generation, the buffer counts its
lines and retains the last of them under their own numbers, and every line before the last one
known that is still retained keeps its number. -/
theorem appended_log (maxLines : Nat) (earlier : List String) (text : String)
    (h : (earlier ++ [text]).IsChain Continues) :
    let b := (empty maxLines).applyAll earlier
    let s := (b.apply text).2.snapshot
    let lines := Text.cutLines text
    let kept := min lines.length (max maxLines 1)
    (∀ generation, (b.apply text).1 ≠ .reset generation) ∧ s.generation = 0 ∧
    s.lineCount = lines.length ∧
    s.linesFrom 0 = (Text.numbered text).drop (lines.length - kept) ∧
    (∀ n, s.line? n = if lines.length - kept ≤ n then lines[n]? else none) ∧
    (∀ n, n < b.snapshot.lineCount - 1 → (b.snapshot.line? n).isSome → (s.line? n).isSome →
      s.line? n = b.snapshot.line? n) := by
  intro b s lines kept
  have hstart : ("" :: (earlier ++ [text])).IsChain Continues :=
    List.isChain_cons.2 ⟨fun _ _ => List.nil_prefix, h⟩
  obtain ⟨last, hlast, ht, hgeneration, hmax⟩ :=
    (holds_empty maxLines).applyAll_continues earlier hstart
  obtain ⟨hholds, hsame, hextends⟩ := hlast.apply_continues ht
  have hkept : lines.length - kept = lines.length - (b.apply text).2.maxLines := by
    rw [apply_maxLines, hmax]
    simp only [kept, empty]
    omega
  refine ⟨hlast.apply_ne_reset ht, hsame.trans hgeneration, ?_, ?_, fun n => ?_,
    fun n hn _ hretained => ?_⟩
  · rw [hholds.lineCount, ← Array.length_toList, Text.toList_lines]
  · rw [hkept]
    exact hholds.linesFrom_zero
  · rw [hkept]
    exact hholds.line?_eq n
  · exact hextends.kept n (Snapshot.line?_isSome.1 hretained).1 (Nat.add_lt_of_lt_sub hn)

/-- The carriage return that ends the second text belongs to the line feed that comes later; then
a third line comes in pieces and a fourth evicts the second. -/
theorem appended_log_evicted :
    let texts := ["a", "a\nb\r", "a\nb\r\nc"]
    let text := "a\nb\r\ncd\ne"
    (texts ++ [text]).IsChain Continues ∧
    (((empty 2).applyAll texts).apply text).2.snapshot.linesFrom 0 = [(2, "cd"), (3, "e")] := by
  have hchain : (["a", "a\nb\r", "a\nb\r\nc"] ++ ["a\nb\r\ncd\ne"]).IsChain Continues := by decide
  obtain ⟨-, -, -, hlines, -⟩ := appended_log 2 _ _ hchain
  exact ⟨hchain, hlines.trans (by cbv)⟩

end Log.Buffer

end LogTail
