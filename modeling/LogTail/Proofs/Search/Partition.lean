import LogTail.Proofs.Search.Greedy
import LogTail.Search.Segment
import Mathlib.Data.List.Chain

/-!
# Segments partition a line

The cuts of a line at ascending spans lose nothing and add nothing: put together, the segments are
the line (`flatMap_segmentsFrom`), and the matched ones are its spans (`matched_segmentsFrom`). A
span past the end stands for as much of it as the line has. Spans count characters; in the bytes of
the line a span is what lies between the end of the characters before it and its own end
(`toByteArray_extract`).

What is not matched lies in a gap between neighbouring spans (`gap_segmentsFrom`). The spans of a
term cover its occurrences, so there is none left in a gap.
-/

namespace LogTail.Search

/-! ## Stretches of a line -/

/-- The bytes in front of the character at an offset, or of the end of the line. -/
def byteAt (line : String) (offset : Nat) : Nat :=
  (String.ofList (line.toList.take offset)).utf8ByteSize

section

variable (cs : List Char) (start stop : Nat)

@[simp] theorem toList_between : (between cs start stop).toList = cs.extract start stop :=
  String.toList_ofList

/-- Offsets past the end of a line stand for its end. -/
theorem between_min : between cs (min start cs.length) (min stop cs.length) =
    String.ofList (cs.extract start stop) := by
  rw [between, List.extract_eq_take_drop]
  rcases Nat.le_total cs.length start with hpast | hinside
  · rw [Nat.min_eq_right hpast, List.drop_length, List.drop_eq_nil_of_le hpast, List.take_nil,
      List.take_nil]
  · rw [Nat.min_eq_left hinside]
    congr 1
    rcases Nat.le_total cs.length stop with hstop | hstop
    · rw [Nat.min_eq_right hstop, List.take_of_length_le (by simp),
        List.take_of_length_le (by simp only [List.length_drop]; omega)]
    · rw [Nat.min_eq_left hstop]

end

/-- What is behind a stretch follows it. -/
theorem extract_append_drop {α : Type} (l : List α) {start stop : Nat} (h : start ≤ stop) :
    l.extract start stop ++ l.drop stop = l.drop start := by
  rw [List.extract_eq_take_drop, show l.drop stop = (l.drop start).drop (stop - start) by
    rw [List.drop_drop, Nat.add_sub_cancel' h], List.take_append_drop]

/-- In bytes, a stretch is what lies between the end of the characters before it and its own end. -/
theorem toByteArray_extract (line : String) {start stop : Nat} (h : start ≤ stop) :
    (String.ofList (line.toList.extract start stop)).toByteArray =
      line.toByteArray.extract (byteAt line start) (byteAt line stop) := by
  let before := String.ofList (line.toList.take start)
  let piece := String.ofList (line.toList.extract start stop)
  let rest := String.ofList (line.toList.drop stop)
  have hline : line = before ++ (piece ++ rest) := by
    rw [← String.ofList_append, ← String.ofList_append, extract_append_drop _ h,
      List.take_append_drop, String.ofList_toList]
  have hstop : byteAt line stop = before.utf8ByteSize + piece.utf8ByteSize := by
    rw [← String.utf8ByteSize_append, ← String.ofList_append, List.extract_eq_take_drop,
      ← List.take_add, Nat.add_sub_cancel' h]
    rfl
  have hbytes : line.toByteArray =
      before.toByteArray ++ (piece.toByteArray ++ rest.toByteArray) := by
    rw [← String.toByteArray_append, ← String.toByteArray_append, ← hline]
  calc piece.toByteArray
      = (piece.toByteArray ++ rest.toByteArray).extract 0 piece.toByteArray.size :=
        (ByteArray.extract_append_eq_left rfl).symm
    _ = (before.toByteArray ++ (piece.toByteArray ++ rest.toByteArray)).extract
          (before.toByteArray.size + 0) (before.toByteArray.size + piece.toByteArray.size) :=
        ByteArray.extract_append_size_add.symm
    _ = line.toByteArray.extract (byteAt line start) (byteAt line stop) := by
        rw [← hbytes, String.size_toByteArray, String.size_toByteArray, hstop]
        rfl

/-! ## Cutting -/

/-- Spans in order and apart. -/
structure LaidOut (spans : List Span) : Prop where
  forward : ∀ span ∈ spans, span.start ≤ span.stop
  apart : spans.Pairwise fun a b => a.stop ≤ b.start

theorem laidOut_cons {span : Span} {spans : List Span} : LaidOut (span :: spans) ↔
    span.start ≤ span.stop ∧ (∀ next ∈ spans, span.stop ≤ next.start) ∧ LaidOut spans := by
  constructor
  · rintro ⟨hforward, hapart⟩
    obtain ⟨hspan, hspans⟩ := List.forall_mem_cons.1 hforward
    obtain ⟨hnext, hrest⟩ := List.pairwise_cons.1 hapart
    exact ⟨hspan, hnext, hspans, hrest⟩
  · rintro ⟨hspan, hnext, hspans⟩
    exact ⟨List.forall_mem_cons.2 ⟨hspan, hspans.forward⟩,
      List.pairwise_cons.2 ⟨hnext, hspans.apart⟩⟩

/-- The segments from a position on make up the line from there on. -/
theorem flatMap_segmentsFrom (cs : List Char) (spans : List Span) : ∀ pos : Nat,
    LaidOut spans → (∀ span ∈ spans, pos ≤ span.start) →
    (segmentsFrom cs cs.length pos spans).flatMap (·.text.toList) = cs.drop pos := by
  induction spans with
  | nil =>
    intro pos _ _
    rw [segmentsFrom]
    split
    · rw [List.flatMap_singleton, toList_between, List.extract_eq_take_drop,
        List.take_of_length_le (by simp)]
    · rename_i hpast
      rw [List.flatMap_nil, List.drop_eq_nil_of_le (Nat.le_of_not_lt hpast)]
  | cons span spans ih =>
    intro pos hspans hpos
    obtain ⟨hspan, hnext, hrest⟩ := laidOut_cons.1 hspans
    have hstart := hpos span (List.mem_cons_self ..)
    have hfrom : (segmentsFrom cs cs.length (min span.stop cs.length) spans).flatMap
        (·.text.toList) = cs.drop (min span.stop cs.length) :=
      ih _ hrest fun next hmem => Nat.le_trans (Nat.min_le_left ..) (hnext next hmem)
    have hmatched : cs.extract (min span.start cs.length) (min span.stop cs.length) ++
        cs.drop (min span.stop cs.length) = cs.drop (min span.start cs.length) :=
      extract_append_drop cs (by omega)
    simp only [segmentsFrom]
    split
    · rename_i hbefore
      rw [List.flatMap_cons, List.flatMap_cons, hfrom, toList_between, toList_between, hmatched,
        extract_append_drop cs (Nat.le_of_lt hbefore)]
    · rename_i hnone
      rw [List.flatMap_cons, hfrom, toList_between, hmatched]
      rcases Nat.le_total span.start cs.length with hinside | hpast
      · rw [show min span.start cs.length = pos by omega]
      · rw [List.drop_eq_nil_of_le (by omega), List.drop_eq_nil_of_le (by omega)]

/-- The matched segments are the spans, one by one. -/
theorem matched_segmentsFrom (cs : List Char) (spans : List Span) : ∀ pos : Nat,
    ((segmentsFrom cs cs.length pos spans).filter (·.matched)).map (·.text) =
      spans.map fun span => String.ofList (cs.extract span.start span.stop) := by
  induction spans with
  | nil =>
    intro pos
    rw [segmentsFrom]
    split <;> rfl
  | cons span spans ih =>
    intro pos
    simp only [segmentsFrom]
    split <;> simp [ih, between_min]

/-- Behind what is not matched comes a match. -/
theorem isChain_segmentsFrom (cs : List Char) (length : Nat) (spans : List Span) : ∀ pos : Nat,
    (segmentsFrom cs length pos spans).IsChain fun a b => a.matched = true ∨ b.matched = true := by
  induction spans with
  | nil =>
    intro pos
    rw [segmentsFrom]
    split <;> simp
  | cons span spans ih =>
    intro pos
    have hfound : (⟨between cs (min span.start length) (min span.stop length), true⟩ ::
        segmentsFrom cs length (min span.stop length) spans).IsChain
          fun a b => a.matched = true ∨ b.matched = true :=
      (ih _).cons fun _ _ => Or.inl rfl
    simp only [segmentsFrom]
    split
    · exact hfound.cons_cons (Or.inr rfl)
    · exact hfound

/-- What is not matched is a gap: every span lies before it or behind it. -/
theorem gap_segmentsFrom (cs : List Char) (spans : List Span) : ∀ pos : Nat,
    LaidOut spans → (∀ span ∈ spans, pos ≤ span.start) →
    ∀ segment ∈ segmentsFrom cs cs.length pos spans, segment.matched = false →
      ∃ start stop, pos ≤ start ∧ start < stop ∧ stop ≤ cs.length ∧
        segment.text = between cs start stop ∧
        ∀ span ∈ spans, span.stop ≤ start ∨ stop ≤ span.start := by
  induction spans with
  | nil =>
    intro pos _ _ segment hsegment _
    rw [segmentsFrom] at hsegment
    split at hsegment
    · rename_i hinside
      rw [List.mem_singleton.1 hsegment]
      exact ⟨pos, cs.length, Nat.le_refl _, hinside, Nat.le_refl _, rfl, by simp⟩
    · simp at hsegment
  | cons span spans ih =>
    intro pos hspans hpos segment hsegment hrest
    obtain ⟨hspan, hnext, hascending⟩ := laidOut_cons.1 hspans
    have hstart := hpos span (List.mem_cons_self ..)
    have hlater (hmem : segment ∈ segmentsFrom cs cs.length (min span.stop cs.length) spans) :
        ∃ start stop, pos ≤ start ∧ start < stop ∧ stop ≤ cs.length ∧
          segment.text = between cs start stop ∧
          ∀ other ∈ span :: spans, other.stop ≤ start ∨ stop ≤ other.start := by
      obtain ⟨start, stop, hfrom, hlt, hstop, htext, houtside⟩ := ih _ hascending
        (fun next hmem => Nat.le_trans (Nat.min_le_left ..) (hnext next hmem)) segment hmem hrest
      -- There is text behind the span, so it ends within the line.
      exact ⟨start, stop, by omega, hlt, hstop, htext,
        List.forall_mem_cons.2 ⟨Or.inl (by omega), houtside⟩⟩
    simp only [segmentsFrom] at hsegment
    split at hsegment
    · rename_i hbefore
      rcases List.mem_cons.1 hsegment with rfl | hsegment
      · refine ⟨pos, min span.start cs.length, Nat.le_refl _, hbefore, Nat.min_le_right .., rfl,
          List.forall_mem_cons.2 ⟨Or.inr (Nat.min_le_left ..), fun next hmem => Or.inr ?_⟩⟩
        have := hnext next hmem
        omega
      · rcases List.mem_cons.1 hsegment with rfl | hsegment
        · simp at hrest
        · exact hlater hsegment
    · rcases List.mem_cons.1 hsegment with rfl | hsegment
      · simp at hrest
      · exact hlater hsegment

/-! ## The line and its spans -/

variable {line : String} {spans : List Span}

/-- The empty line is one segment where there are no spans, and falls into none where there are. -/
theorem splitSegments_eq (h : line ≠ "" ∨ spans ≠ []) :
    splitSegments line spans = segmentsFrom line.toList line.toList.length 0 spans := by
  cases spans with
  | cons span spans => rfl
  | nil =>
    have hline : 0 < line.toList.length := List.length_pos_iff.2 (by simpa using h)
    rw [segmentsFrom, if_pos hline, between, List.drop_zero, Nat.sub_zero, List.take_length,
      String.ofList_toList]
    rfl

theorem join_splitSegments (h : LaidOut spans) :
    String.join ((splitSegments line spans).map (·.text)) = line := by
  by_cases hcut : line ≠ "" ∨ spans ≠ []
  · rw [splitSegments_eq hcut, ← String.toList_inj, String.toList_join, List.flatMap_map]
    exact flatMap_segmentsFrom _ _ 0 h fun _ _ => Nat.zero_le _
  · obtain ⟨rfl, rfl⟩ : line = "" ∧ spans = [] := by simpa using hcut
    rfl

theorem matched_splitSegments (line : String) (spans : List Span) :
    ((splitSegments line spans).filter (·.matched)).map (·.text) =
      spans.map fun span => String.ofList (line.toList.extract span.start span.stop) := by
  cases spans with
  | nil => rfl
  | cons span spans => exact matched_segmentsFrom line.toList (span :: spans) 0

theorem isChain_splitSegments (line : String) (spans : List Span) :
    (splitSegments line spans).IsChain fun a b => a.matched = true ∨ b.matched = true := by
  unfold splitSegments
  split
  · exact .singleton _
  · exact isChain_segmentsFrom ..

theorem span_of_matched {segment : Segment} (hsegment : segment ∈ splitSegments line spans)
    (hmatched : segment.matched = true) :
    ∃ span ∈ spans, segment.text.toList = line.toList.extract span.start span.stop := by
  have hmem : segment.text ∈
      spans.map fun span => String.ofList (line.toList.extract span.start span.stop) := by
    rw [← matched_splitSegments]
    exact List.mem_map_of_mem (List.mem_filter.2 ⟨hsegment, hmatched⟩)
  obtain ⟨span, hspan, htext⟩ := List.mem_map.1 hmem
  exact ⟨span, hspan, htext ▸ String.toList_ofList⟩

theorem gap_of_unmatched (h : LaidOut spans) {segment : Segment}
    (hsegment : segment ∈ splitSegments line spans) (hunmatched : segment.matched = false) :
    ∃ start stop, (line ≠ "" → start < stop) ∧ stop ≤ line.toList.length ∧
      segment.text.toList = line.toList.extract start stop ∧
      ∀ span ∈ spans, span.stop ≤ start ∨ stop ≤ span.start := by
  by_cases hcut : line ≠ "" ∨ spans ≠ []
  · rw [splitSegments_eq hcut] at hsegment
    obtain ⟨start, stop, -, hlt, hstop, htext, houtside⟩ := gap_segmentsFrom _ _ 0 h
      (fun _ _ => Nat.zero_le _) segment hsegment hunmatched
    exact ⟨start, stop, fun _ => hlt, hstop, htext ▸ toList_between .., houtside⟩
  · obtain ⟨rfl, rfl⟩ : line = "" ∧ spans = [] := by simpa using hcut
    rw [List.mem_singleton.1 hsegment]
    exact ⟨0, 0, fun hne => absurd rfl hne, Nat.zero_le _, rfl, by simp⟩

/-! ## The spans of a needle -/

theorem greedy_findSpans {term : String} (h : term ≠ "") (line : String) :
    Greedy term.toList line.toList 0 ((Needle.ofTerm term).findSpans line) := by
  rw [findSpans_eq, if_neg h]
  exact greedy_spansFrom (by simpa using h) 0 0 line.toList rfl

/-- An occurrence in a stretch of a line is one in the line, and does not reach beyond the
stretch. -/
theorem occursAt_of_extract {term cs : List Char} {start stop pos : Nat} (hterm : term ≠ [])
    (h : OccursAt term (cs.extract start stop) pos) :
    OccursAt term cs (start + pos) ∧ start + pos + term.length ≤ stop := by
  have hpos := List.length_pos_iff.2 hterm
  have hend := h.stop_le hterm
  rw [List.extract_eq_take_drop, List.length_take] at hend
  refine ⟨?_, by omega⟩
  rw [OccursAt, List.extract_eq_take_drop, List.drop_take, List.take_take, List.drop_drop,
    Nat.min_eq_left (by omega)] at h
  exact h

namespace Greedy

variable {term : List Char} {segment : Segment}

theorem laidOut {cs : List Char} {pos : Nat} (h : Greedy term cs pos spans) :
    LaidOut spans where
  forward _ hspan := (h.of_mem hspan).2.1 ▸ Nat.le_add_right ..
  apart := h.apart

/-- A match is the term in some case. -/
theorem fold_matched (h : Greedy term line.toList 0 spans)
    (hsegment : segment ∈ splitSegments line spans) (hmatched : segment.matched = true) :
    segment.text.toList.map Text.fold = term.map Text.fold := by
  obtain ⟨span, hspan, htext⟩ := span_of_matched hsegment hmatched
  obtain ⟨-, hstop, hoccurs⟩ := h.of_mem hspan
  rw [htext, List.extract_eq_take_drop, hstop, Nat.add_sub_cancel_left]
  exact hoccurs

theorem text_ne_empty (h : Greedy term line.toList 0 spans) (hterm : term ≠ []) (hline : line ≠ "")
    (hsegment : segment ∈ splitSegments line spans) : segment.text ≠ "" := by
  intro hempty
  cases hmatched : segment.matched with
  | true => exact hterm (by simpa [hempty] using h.fold_matched hsegment hmatched)
  | false =>
    obtain ⟨start, stop, hlt, hstop, htext, -⟩ := gap_of_unmatched h.laidOut hsegment hmatched
    have hlength := congrArg List.length htext
    simp only [hempty, List.extract_eq_take_drop, List.length_take, List.length_drop,
      String.toList_empty, List.length_nil] at hlength
    have := hlt hline
    omega

/-- An occurrence in what is not matched would lie in a span, and the spans keep clear of it. -/
theorem not_occursAt_unmatched (h : Greedy term line.toList 0 spans) (hterm : term ≠ [])
    (hsegment : segment ∈ splitSegments line spans) (hunmatched : segment.matched = false)
    (pos : Nat) : ¬ OccursAt term segment.text.toList pos := by
  intro hoccurs
  obtain ⟨start, stop, -, -, htext, houtside⟩ := gap_of_unmatched h.laidOut hsegment hunmatched
  rw [htext] at hoccurs
  obtain ⟨hinside, hend⟩ := occursAt_of_extract hterm hoccurs
  obtain ⟨span, hspan, hstart, hstop⟩ := h.covers hterm (Nat.zero_le _) hinside
  have hpos := List.length_pos_iff.2 hterm
  rcases houtside span hspan with hbefore | hbehind
  · omega
  · omega

end Greedy

/-- **Segments partition a line at its spans.** Whatever the characters of the line, the segments
for ascending spans make up the line when they are put together, and the matched ones are, in order,
the characters of the spans, as far as the line has them; in bytes, those between the ends of the
characters before. For the spans of a term no segment is empty unless the line is, what is not
matched stands between matches, every match is the term in some case, and the term occurs nowhere in
what is not matched. -/
theorem segments_partition (line : String) :
    (∀ spans, LaidOut spans →
      let segments := splitSegments line spans
      let matched := segments.filter (·.matched)
      String.join (segments.map (·.text)) = line ∧
      matched.map (·.text) =
        spans.map (fun span => String.ofList (line.toList.extract span.start span.stop)) ∧
      matched.map (·.text.toByteArray) =
        spans.map fun span =>
          line.toByteArray.extract (byteAt line span.start) (byteAt line span.stop)) ∧
    ∀ term, term ≠ "" →
      let spans := (Needle.ofTerm term).findSpans line
      let segments := splitSegments line spans
      LaidOut spans ∧
      (line ≠ "" → ∀ segment ∈ segments, segment.text ≠ "") ∧
      segments.IsChain (fun a b => a.matched = true ∨ b.matched = true) ∧
      (∀ segment ∈ segments, segment.matched = true →
        segment.text.toList.map Text.fold = term.toList.map Text.fold) ∧
      ∀ segment ∈ segments, segment.matched = false →
        ∀ pos, ¬ OccursAt term.toList segment.text.toList pos := by
  refine ⟨fun spans hspans => ?_, fun term hterm => ?_⟩
  · intro segments matched
    have hmatched : matched.map (·.text) = _ := matched_splitSegments line spans
    refine ⟨join_splitSegments hspans, hmatched, ?_⟩
    calc matched.map (·.text.toByteArray)
        = (matched.map (·.text)).map (·.toByteArray) := by rw [List.map_map]; rfl
      _ = spans.map fun span =>
            (String.ofList (line.toList.extract span.start span.stop)).toByteArray := by
          rw [hmatched, List.map_map]
          rfl
      _ = _ := List.map_congr_left fun span hspan =>
          toByteArray_extract line (hspans.forward span hspan)
  · intro spans segments
    have hchars : term.toList ≠ [] := by simpa using hterm
    have hgreedy : Greedy term.toList line.toList 0 spans := greedy_findSpans hterm line
    exact ⟨hgreedy.laidOut,
      fun hline _ hsegment => hgreedy.text_ne_empty hchars hline hsegment,
      isChain_splitSegments line spans,
      fun _ hsegment hmatched => hgreedy.fold_matched hsegment hmatched,
      fun _ hsegment hunmatched => hgreedy.not_occursAt_unmatched hchars hsegment hunmatched⟩

/-- Characters of one, two and three bytes, a span that ends in the middle and one that ends past
the line. -/
theorem segments_partition_pastEnd :
    let segments := splitSegments "a\u00e9\u2603b" [⟨1, 2⟩, ⟨2, 9⟩]
    LaidOut [⟨1, 2⟩, ⟨2, 9⟩] ∧ String.join (segments.map (·.text)) = "a\u00e9\u2603b" ∧
    (segments.filter (·.matched)).map (·.text) = ["\u00e9", "\u2603b"] := by
  have hspans : LaidOut [⟨1, 2⟩, ⟨2, 9⟩] := ⟨by decide, by decide⟩
  obtain ⟨hjoin, hmatched, -⟩ := (segments_partition "a\u00e9\u2603b").1 _ hspans
  exact ⟨hspans, hjoin, hmatched.trans (by decide +kernel)⟩

end LogTail.Search
