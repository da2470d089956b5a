import LogTail.Search.Needle

/-!
# How often a term occurs

`occurrences` is the plain count of a list of characters in another. The two ways in which a needle
looks at a line come to the same (`findSpans_eq`), and it finds as many spans as the folded term
occurs in the folded line.
-/

namespace LogTail

/-- How often some characters occur among others: from the left, one that is found uses up its
characters. -/
def Text.occurrences (needle : List Char) : List Char → Nat
  | [] => 0
  | c :: cs =>
    if needle.isPrefixOf (c :: cs) then occurrences needle (cs.drop (needle.length - 1)) + 1
    else occurrences needle cs
termination_by cs => cs.length
decreasing_by
  · simp only [List.length_drop, List.length_cons]; omega
  · simp

/-- How often a term occurs in a line, in any case. The empty term does not. -/
def Search.countIn (term line : String) : Nat :=
  if term = "" then 0
  else Text.occurrences (term.toList.map Text.fold) (line.toList.map Text.fold)

namespace Text

theorem fold_of_ascii {c : Char} (h : c.toNat < 0x80) : fold c = foldAscii c := if_pos h

theorem foldAscii_ascii {c : Char} (h : c.toNat < 0x80) : (foldAscii c).toNat < 0x80 := by
  delta foldAscii Char.toLower
  split
  · rename_i hupper
    have hlast : c.toNat ≤ 90 := UInt32.le_iff_toNat_le.1 hupper.2
    change (c.val + ('a'.val - 'A'.val)).toNat < 0x80
    rw [UInt32.toNat_add]
    change (c.toNat + 32) % 2 ^ 32 < 0x80
    omega
  · exact h

theorem occurrences_eq_zero {needle : List Char} {c : Char} (hc : c ∈ needle) :
    ∀ {cs : List Char}, c ∉ cs → occurrences needle cs = 0 := by
  intro cs h
  fun_induction occurrences needle cs with
  | case1 => rfl
  | case2 d cs hfound ih =>
    have hstarts : needle <+: d :: cs := List.isPrefixOf_iff_prefix.1 hfound
    exact absurd (hstarts.subset hc) h
  | case3 d cs _ ih => exact ih fun hmem => h (List.mem_cons_of_mem _ hmem)

end Text

namespace Search

open Text (occurrences)

theorem startsWith_eq (f : Char → Char) (needle cs : List Char) :
    startsWith f needle cs = needle.isPrefixOf (cs.map f) := by
  induction needle generalizing cs with
  | nil => simp [startsWith]
  | cons n needle ih =>
    cases cs with
    | nil => rfl
    | cons c cs =>
      rw [startsWith, List.map_cons, List.isPrefixOf, ih]
      congr 1
      exact BEq.comm

/-- The characters of the last occurrence are passed over. -/
theorem length_spansFrom (f : Char → Char) (needle cs : List Char) (skip pos : Nat) :
    (spansFrom f needle skip pos cs).length = occurrences needle ((cs.map f).drop skip) := by
  fun_induction spansFrom f needle skip pos cs with
  | case1 => simp [occurrences]
  | case2 skip pos c cs ih => rw [ih, List.map_cons, List.drop_succ_cons]
  | case3 pos c cs hfound ih =>
    rw [startsWith_eq, List.map_cons] at hfound
    rw [List.length_cons, ih, List.map_cons, List.drop_zero, occurrences, if_pos hfound]
  | case4 pos c cs hnot ih =>
    rw [startsWith_eq, List.map_cons] at hnot
    rw [ih, List.map_cons, List.drop_zero, List.drop_zero, occurrences, if_neg hnot]

theorem spansFrom_congr {f g : Char → Char} {needle cs : List Char} (h : ∀ c ∈ cs, f c = g c)
    (skip pos : Nat) : spansFrom f needle skip pos cs = spansFrom g needle skip pos cs := by
  fun_induction spansFrom f needle skip pos cs with
  | case1 => simp [spansFrom]
  | case2 skip pos c cs ih => rw [spansFrom, ih fun d hd => h d (List.mem_cons_of_mem _ hd)]
  | case3 pos c cs hfound ih =>
    rw [startsWith_eq, List.map_congr_left h, ← startsWith_eq] at hfound
    rw [spansFrom, if_pos hfound, ih fun d hd => h d (List.mem_cons_of_mem _ hd)]
  | case4 pos c cs hnot ih =>
    rw [startsWith_eq, List.map_congr_left h, ← startsWith_eq] at hnot
    rw [spansFrom, if_neg hnot, ih fun d hd => h d (List.mem_cons_of_mem _ hd)]

/-- The way for ASCII lines leads to the same spans as the other one. -/
theorem findSpans_eq (term line : String) : (Needle.ofTerm term).findSpans line =
    if term = "" then []
    else spansFrom Text.fold (term.toList.map Text.fold) 0 0 line.toList := by
  have hempty : (Needle.ofTerm term).folded.isEmpty = true ↔ term = "" := by simp [Needle.ofTerm]
  unfold Needle.findSpans
  simp only [hempty]
  split
  · rfl
  · split
    · rename_i hline
      have hascii : ∀ c ∈ line.toList, c.toNat < 0x80 := by
        simpa [Text.isAscii] using hline
      have hfold : ∀ c ∈ line.toList, Text.foldAscii c = Text.fold c :=
        fun c hc => (Text.fold_of_ascii (hascii c hc)).symm
      split
      · exact spansFrom_congr hfold 0 0
      · -- A character past ASCII is not in an ASCII line.
        rename_i hnot
        obtain ⟨c, hc, hpast⟩ : ∃ c ∈ (Needle.ofTerm term).folded, ¬ c.toNat < 0x80 := by
          simpa [Text.isAscii] using hnot
        refine (List.eq_nil_of_length_eq_zero ?_).symm
        rw [length_spansFrom, List.drop_zero]
        refine Text.occurrences_eq_zero hc fun hmem => hpast ?_
        obtain ⟨d, hd, rfl⟩ := List.mem_map.1 hmem
        rw [← hfold d hd]
        exact Text.foldAscii_ascii (hascii d hd)
    · rfl

/-- **A needle finds every occurrence**: as many as the folded term has in the folded line. -/
theorem length_findSpans (term line : String) :
    ((Needle.ofTerm term).findSpans line).length = countIn term line := by
  rw [findSpans_eq, countIn]
  split
  · rfl
  · rw [length_spansFrom, List.drop_zero]

end Search

end LogTail
