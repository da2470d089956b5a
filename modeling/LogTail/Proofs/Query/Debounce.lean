import LogTail.Query.Debounce

/-!
# Laws of the debouncer

The raw term is what was typed last, whatever waits (`edit_raw`, `poll_raw`). Where no edit waits it
is the committed term, and an empty raw term never waits: `InOrder` says both, and every operation
keeps it.
-/

namespace LogTail.Query.Debouncer

/-- The raw term is committed or waits to be, and the empty one does not wait. -/
structure InOrder (d : Debouncer) : Prop where
  quiet : d.lastEdit = none → d.raw = d.committed
  empty : d.raw = "" → d.lastEdit = none

variable {d : Debouncer}

theorem inOrder_new (delay : Nat) : InOrder { delay := delay } := ⟨fun _ => rfl, fun _ => rfl⟩

/-! ## Clearing -/

theorem clear_inOrder (d : Debouncer) : d.clear.2.InOrder := ⟨fun _ => rfl, fun _ => rfl⟩

/-- There is nothing to clear just in case both terms are empty. -/
theorem clear_fst_eq_false : d.clear.1 = false ↔ d.raw = "" ∧ d.committed = "" := by
  simp [clear]

/-! ## Edits -/

@[simp] theorem edit_raw (d : Debouncer) (raw : String) (now : Nat) :
    (d.edit raw now).2.raw = raw := by
  unfold edit
  split
  · rename_i hempty
    exact (String.isEmpty_iff.1 hempty).symm
  · split
    · rename_i hsame
      exact hsame.1.symm
    · rfl

/-- An edit drops the committed term if it says so, and leaves it alone otherwise. -/
theorem edit_committed (d : Debouncer) (raw : String) (now : Nat) :
    (d.edit raw now).2.committed = if (d.edit raw now).1 then "" else d.committed := by
  unfold edit
  split
  · cases hclears : d.clear.1 with
    | true => rfl
    | false => exact (clear_fst_eq_false.1 hclears).2.symm
  · split <;> rfl

theorem edit_inOrder (h : d.InOrder) (raw : String) (now : Nat) : (d.edit raw now).2.InOrder := by
  unfold edit
  split
  · exact d.clear_inOrder
  · rename_i htyped
    split
    · exact h
    · exact ⟨fun hnone => absurd hnone (by simp),
        fun hempty => absurd hempty (by simpa using htyped)⟩

/-! ## Quiet times -/

@[simp] theorem poll_raw (d : Debouncer) (now : Nat) : (d.poll now).2.raw = d.raw := by
  unfold poll
  split
  · rfl
  · split
    · rfl
    · split <;> rfl

/-- What a poll tells is the committed term from then on. -/
theorem poll_committed (d : Debouncer) (now : Nat) :
    (d.poll now).2.committed = (d.poll now).1.getD d.committed := by
  unfold poll
  split
  · rfl
  · split
    · rfl
    · split <;> rfl

theorem poll_inOrder (h : d.InOrder) (now : Nat) : (d.poll now).2.InOrder := by
  unfold poll
  split
  · exact h
  · split
    · exact h
    · split
      · rename_i hsame
        exact ⟨fun _ => hsame, fun _ => rfl⟩
      · exact ⟨fun _ => rfl, fun _ => rfl⟩

/-- At its deadline no edit waits any more. -/
theorem poll_deadline {deadline : Nat} (h : d.deadline? = some deadline) :
    (d.poll deadline).2.lastEdit = none := by
  obtain ⟨at_, hat, rfl⟩ := Option.map_eq_some_iff.1 h
  have hquiet : ¬ at_ + d.delay - at_ < d.delay := by omega
  simp only [poll, hat, hquiet, if_false]
  split <;> rfl

/-- A poll makes no edit wait. -/
theorem isPending_of_poll {now : Nat} (h : (d.poll now).2.isPending = true) :
    d.isPending = true := by
  cases hedit : d.lastEdit with
  | none => simp [isPending, poll, hedit] at h
  | some at_ => simp [isPending, hedit]

/-- What a poll tells has waited. -/
theorem isPending_of_told {now : Nat} {term : String} (h : (d.poll now).1 = some term) :
    d.isPending = true := by
  cases hedit : d.lastEdit with
  | none => simp [poll, hedit] at h
  | some at_ => simp [isPending, hedit]

end LogTail.Query.Debouncer
