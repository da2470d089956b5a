import LogTail.Proofs.Search.Needle

/-!
# Reading a line from left to right

`Greedy` is the reading of a line by which spans are defined: an occurrence of the term is taken and
the reading goes on behind it, and where there is none it goes on with the next character. What is
found is compared character by character, each one folded.

`findSpans_greedy` says that a needle finds what such a reading finds, in every line and on either
of its two ways, and what follows of the spans: they are occurrences, in order and apart, and none
is overlooked.
-/

namespace LogTail.Search

open Text (fold)

/-! ## Occurrences -/

/-- A term occurs in a line at a position: the characters there are those of the term, in any
case. -/
def OccursAt (term line : List Char) (pos : Nat) : Prop :=
  ((line.drop pos).take term.length).map fold = term.map fold

instance (term line : List Char) (pos : Nat) : Decidable (OccursAt term line pos) :=
  inferInstanceAs (Decidable (_ = _))

variable {term line : List Char} {pos : Nat} {spans : List Span}

theorem OccursAt.stop_le (h : OccursAt term line pos) (hterm : term ≠ []) :
    pos + term.length ≤ line.length := by
  have hlength := congrArg List.length h
  simp only [List.length_map, List.length_take, List.length_drop] at hlength
  have := List.length_pos_iff.2 hterm
  omega

theorem startsWith_iff_occursAt :
    startsWith fold (term.map fold) (line.drop pos) = true ↔ OccursAt term line pos := by
  rw [startsWith_eq, List.isPrefixOf_iff_prefix, List.prefix_iff_eq_take, List.length_map,
    ← List.map_take, eq_comm, OccursAt]

/-! ## The reading -/

/-- The spans that are found when a line is read from a position on. There is no such reading for
the empty term: it occurs everywhere, and behind it is where it began. -/
inductive Greedy (term line : List Char) : Nat → List Span → Prop where
  | ends {pos : Nat} (past : line.length ≤ pos) : Greedy term line pos []
  | takes {pos : Nat} {spans : List Span} (occurs : OccursAt term line pos)
      (rest : Greedy term line (pos + term.length) spans) :
      Greedy term line pos (⟨pos, pos + term.length⟩ :: spans)
  | passes {pos : Nat} {spans : List Span} (inside : pos < line.length)
      (absent : ¬ OccursAt term line pos) (rest : Greedy term line (pos + 1) spans) :
      Greedy term line pos spans

namespace Greedy

/-- A line reads in one way only. -/
theorem unique (hterm : term ≠ []) (h : Greedy term line pos spans) :
    ∀ {other : List Span}, Greedy term line pos other → other = spans := by
  have hpos := List.length_pos_iff.2 hterm
  induction h with
  | ends past =>
    intro other hother
    cases hother with
    | ends => rfl
    | takes occurs => have := occurs.stop_le hterm; omega
    | passes inside => omega
  | takes occurs rest ih =>
    intro other hother
    cases hother with
    | ends past => have := occurs.stop_le hterm; omega
    | takes _ rest' => rw [ih rest']
    | passes _ absent => exact absurd occurs absent
  | passes inside absent rest ih =>
    intro other hother
    cases hother with
    | ends past => omega
    | takes occurs => exact absurd occurs absent
    | passes _ _ rest' => exact ih rest'

/-- Every span is an occurrence, and none lies before the position where the reading began. -/
theorem of_mem (h : Greedy term line pos spans) {span : Span} (hspan : span ∈ spans) :
    pos ≤ span.start ∧ span.stop = span.start + term.length ∧ OccursAt term line span.start := by
  induction h with
  | ends past => simp at hspan
  | takes occurs rest ih =>
    rcases List.mem_cons.1 hspan with rfl | hspan
    · exact ⟨Nat.le_refl _, rfl, occurs⟩
    · obtain ⟨hstart, hoccurs⟩ := ih hspan
      exact ⟨by omega, hoccurs⟩
  | passes inside absent rest ih =>
    obtain ⟨hstart, hoccurs⟩ := ih hspan
    exact ⟨by omega, hoccurs⟩

theorem apart (h : Greedy term line pos spans) :
    spans.Pairwise fun a b => a.stop ≤ b.start := by
  induction h with
  | ends past => exact .nil
  | takes occurs rest ih => exact .cons (fun span hspan => (rest.of_mem hspan).1) ih
  | passes inside absent rest ih => exact ih

/-- An occurrence that is not taken begins inside one that is. -/
theorem covers (h : Greedy term line pos spans) (hterm : term ≠ []) {other : Nat}
    (hother : pos ≤ other) (hoccurs : OccursAt term line other) :
    ∃ span ∈ spans, span.start ≤ other ∧ other < span.stop := by
  have hpos := List.length_pos_iff.2 hterm
  have hstop := hoccurs.stop_le hterm
  induction h with
  | ends past => omega
  | @takes pos spans occurs rest ih =>
    by_cases hbehind : pos + term.length ≤ other
    · obtain ⟨span, hspan, hcovers⟩ := ih hbehind
      exact ⟨span, List.mem_cons_of_mem _ hspan, hcovers⟩
    · exact ⟨_, List.mem_cons_self .., hother, Nat.lt_of_not_le hbehind⟩
  | @passes pos spans inside absent rest ih =>
    rcases Nat.eq_or_lt_of_le hother with rfl | hlater
    · exact absurd hoccurs absent
    · exact ih hlater

end Greedy

/-! ## The needle -/

/-- While characters of the last occurrence are passed over, the reading stands behind them. -/
theorem greedy_spansFrom (hterm : term ≠ []) (skip pos : Nat) (cs : List Char)
    (hcs : line.drop pos = cs) :
    Greedy term line (pos + skip) (spansFrom fold (term.map fold) skip pos cs) := by
  have hpos := List.length_pos_iff.2 hterm
  have hnext {c : Char} {cs : List Char} {pos : Nat} (hcs : line.drop pos = c :: cs) :
      line.drop (pos + 1) = cs := by
    rw [← List.drop_drop, hcs]
    rfl
  fun_induction spansFrom fold (term.map fold) skip pos cs with
  | case1 skip pos =>
    have := List.drop_eq_nil_iff.1 hcs
    exact .ends (by omega)
  | case2 skip pos c cs ih =>
    rw [show pos + (skip + 1) = pos + 1 + skip by omega]
    exact ih (hnext hcs)
  | case3 pos c cs hfound ih =>
    have hgreedy := ih (hnext hcs)
    rw [List.length_map] at hgreedy ⊢
    rw [show pos + 1 + (term.length - 1) = pos + term.length by omega] at hgreedy
    rw [← hcs] at hfound
    exact .takes (startsWith_iff_occursAt.1 hfound) hgreedy
  | case4 pos c cs hnot ih =>
    have hinside : pos < line.length := by
      refine Nat.lt_of_not_le fun hover => ?_
      rw [List.drop_eq_nil_of_le hover] at hcs
      cases hcs
    have hgreedy := ih (hnext hcs)
    rw [← hcs, startsWith_iff_occursAt] at hnot
    exact .passes hinside hnot hgreedy

/-- **A needle finds what a reader finds who takes every occurrence from left to right.** Whatever
the line, its spans are those of the one reading there is, which comes to an end for every term but
the empty one; the empty one has no spans. Every span is as long as the term, lies in the line and
holds the term in some case; spans stand in order and apart; and wherever the term occurs, the
position lies in a span. -/
theorem findSpans_greedy (term line : String) :
    let spans := (Needle.ofTerm term).findSpans line
    (term = "" → spans = []) ∧
    (term ≠ "" → ∀ read, Greedy term.toList line.toList 0 read ↔ read = spans) ∧
    (∀ span ∈ spans, span.stop = span.start + term.length ∧ span.stop ≤ line.length ∧
      OccursAt term.toList line.toList span.start) ∧
    spans.Pairwise (fun a b => a.stop ≤ b.start) ∧
    (term ≠ "" → ∀ pos, OccursAt term.toList line.toList pos →
      ∃ span ∈ spans, span.start ≤ pos ∧ pos < span.stop) := by
  intro spans
  have heq : spans = _ := findSpans_eq term line
  by_cases hterm : term = ""
  · rw [if_pos hterm] at heq
    rw [heq]
    simp [hterm]
  · rw [if_neg hterm] at heq
    have hchars : term.toList ≠ [] := by simpa using hterm
    have hgreedy : Greedy term.toList line.toList 0 spans := by
      rw [heq]
      exact greedy_spansFrom hchars 0 0 line.toList rfl
    refine ⟨fun h => absurd h hterm, fun _ read => ⟨hgreedy.unique hchars, ?_⟩,
      fun span hspan => ?_, hgreedy.apart, fun _ pos => hgreedy.covers hchars (Nat.zero_le pos)⟩
    · rintro rfl
      exact hgreedy
    · obtain ⟨-, hstop, hoccurs⟩ := hgreedy.of_mem hspan
      have hinside := hoccurs.stop_le hchars
      rw [← hstop] at hinside
      exact ⟨hstop, hinside, hoccurs⟩

/-- The Kelvin sign folds to an ASCII letter, so an ASCII term is found on the other way too. -/
example : (Needle.ofTerm "kk").findSpans "kKk\u212ak" = [⟨0, 2⟩, ⟨2, 4⟩] := by
  decide +kernel

end LogTail.Search
