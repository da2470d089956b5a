import LogTail.Proofs.Query.Debounce
import Mathlib.Data.List.Induction

/-!
# The last edit is committed, once, after quiet

A debouncer remembers two terms and one time. What they say of all that it was told is this: the
raw term waits since a time just in case it was typed at that time, took effect then, and nothing
that came later took its place, dropped it or was late enough to commit it (`waits_run`). Times may
go back; one before the edit counts as no time since.
-/

namespace LogTail.Query.Debouncer

/-- What a debouncer is told. -/
inductive Act where
  | edit (raw : String) (now : Nat)
  | poll (now : Nat)
  | clear

/-- The act types a term that is not empty. -/
def Act.Types : Act → Prop
  | .edit raw _ => raw ≠ ""
  | .poll _ | .clear => False

/-- The act drops what was typed. -/
def Act.Drops : Act → Prop
  | .edit raw _ => raw = ""
  | .poll _ => False
  | .clear => True

def act (d : Debouncer) : Act → Debouncer
  | .edit raw now => (d.edit raw now).2
  | .poll now => (d.poll now).2
  | .clear => d.clear.2

def actAll (d : Debouncer) (acts : List Act) : Debouncer := acts.foldl act d

theorem actAll_append (d : Debouncer) (acts more : List Act) :
    d.actAll (acts ++ more) = (d.actAll acts).actAll more := List.foldl_append ..

/-- An edit takes effect unless it is empty, or is the raw term again where nothing waits. -/
def TakesEffect (d : Debouncer) (raw : String) : Prop :=
  raw ≠ "" ∧ ¬ (raw = d.raw ∧ d.isPending = false)

/-- An act leaves an edit of that time waiting: it is no edit that takes effect, drops nothing, and
is no poll that comes late enough. -/
def Spares (d : Debouncer) (at_ : Nat) : Act → Prop
  | .edit raw _ => raw ≠ "" ∧ ¬ d.TakesEffect raw
  | .poll now => now - at_ < d.delay
  | .clear => False

/-- Each of some acts leaves an edit of that time waiting. -/
def StaysWaiting (d : Debouncer) (at_ : Nat) : List Act → Prop
  | [] => True
  | act :: acts => d.Spares at_ act ∧ (d.act act).StaysWaiting at_ acts

variable {d : Debouncer} {raw : String} {at_ now : Nat}

theorem staysWaiting_concat (act : Act) (acts : List Act) : ∀ d : Debouncer,
    d.StaysWaiting at_ (acts ++ [act]) ↔
      d.StaysWaiting at_ acts ∧ (d.actAll acts).Spares at_ act := by
  induction acts with
  | nil => intro d; simp [StaysWaiting, actAll]
  | cons first acts ih =>
    intro d
    simp only [List.cons_append, StaysWaiting, ih, and_assoc]
    rfl

/-! ## One act -/

@[simp] theorem act_delay (d : Debouncer) (act : Act) : (d.act act).delay = d.delay := by
  cases act with
  | edit raw now =>
    simp only [Debouncer.act, edit]
    split
    · rfl
    · split <;> rfl
  | poll now =>
    simp only [Debouncer.act, poll]
    split
    · rfl
    · split
      · rfl
      · split <;> rfl
  | clear => rfl

theorem actAll_delay (acts : List Act) : ∀ d : Debouncer, (d.actAll acts).delay = d.delay := by
  induction acts with
  | nil => intro d; rfl
  | cons act acts ih => intro d; exact (ih _).trans (d.act_delay act)

/-- An edit that takes effect waits from then on. -/
theorem edit_of_takesEffect (h : d.TakesEffect raw) (now : Nat) :
    (d.edit raw now).2 = { d with raw := raw, lastEdit := some now } := by
  obtain ⟨htyped, hnew⟩ := h
  have hother : ¬ (raw = d.raw ∧ d.lastEdit = none) := by simpa [isPending] using hnew
  simp [edit, htyped, hother]

/-- The raw term again changes nothing. -/
theorem edit_of_repeat (htyped : raw ≠ "") (h : ¬ d.TakesEffect raw) (now : Nat) :
    (d.edit raw now).2 = d := by
  obtain ⟨rfl, hquiet⟩ : raw = d.raw ∧ d.isPending = false :=
    Classical.not_not.1 fun hnew => h ⟨htyped, hnew⟩
  have hnone : d.lastEdit = none := by simpa [isPending] using hquiet
  simp [edit, htyped, hnone]

theorem lastEdit_of_drops (act : Act) (h : act.Drops) (d : Debouncer) :
    (d.act act).lastEdit = none := by
  cases act with
  | edit raw now =>
    obtain rfl : raw = "" := h
    rfl
  | poll now => exact absurd h id
  | clear => rfl

/-- A poll in time does nothing, and a later one leaves nothing waiting. -/
theorem poll_lastEdit (d : Debouncer) (now : Nat) :
    (d.poll now).2.lastEdit = d.lastEdit.filter fun at_ => now - at_ < d.delay := by
  unfold poll
  cases hlast : d.lastEdit with
  | none => simp [hlast]
  | some at_ =>
    by_cases hearly : now - at_ < d.delay
    · simp [hearly, hlast, Option.filter]
    · simp only [hearly, if_false]
      split <;> simp [hearly, Option.filter]

theorem poll_eq_some {term : String} : (d.poll now).1 = some term ↔
    term ≠ d.committed ∧ ∃ at_, d.lastEdit = some at_ ∧ d.raw = term ∧ d.delay ≤ now - at_ := by
  unfold poll
  cases hlast : d.lastEdit with
  | none => simp
  | some at_ =>
    by_cases hearly : now - at_ < d.delay
    · simp [hearly]
    · have hlate : d.delay ≤ now - at_ := Nat.le_of_not_lt hearly
      by_cases hsame : d.raw = d.committed
      · simp only [hearly, hsame, if_true, if_false]
        constructor
        · intro h; cases h
        · rintro ⟨hnew, _, -, hraw, -⟩
          exact absurd hraw.symm hnew
      · simp only [hearly, hsame, if_false, Option.some.injEq]
        constructor
        · rintro rfl
          exact ⟨hsame, at_, rfl, rfl, hlate⟩
        · rintro ⟨-, _, -, hraw, -⟩
          exact hraw

/-- Where nothing waits a poll tells nothing. -/
theorem poll_of_quiet (h : d.lastEdit = none) (now : Nat) : (d.poll now).1 = none := by
  simp [poll, h]

/-- A term that is told is not empty. It is committed from then on, and waits no more. -/
theorem InOrder.poll_told (h : d.InOrder) {term : String} (htold : (d.poll now).1 = some term) :
    term ≠ "" ∧ (d.poll now).2.committed = term ∧ (d.poll now).2.isPending = false := by
  obtain ⟨-, at_, hlast, hraw, hlate⟩ := poll_eq_some.1 htold
  refine ⟨fun hempty => ?_, ?_, ?_⟩
  · have hnone := h.empty (hraw.trans hempty)
    exact absurd (hlast.symm.trans hnone) (by simp)
  · rw [poll_committed, htold]
    rfl
  · simp [isPending, poll_lastEdit, hlast, Option.filter, hlate]

/-- **What one act does to the edit that waits.** -/
theorem act_waits (d : Debouncer) (act : Act) (raw : String) (at_ : Nat) :
    ((d.act act).lastEdit = some at_ ∧ (d.act act).raw = raw) ↔
      (act = .edit raw at_ ∧ d.TakesEffect raw) ∨
      ((d.lastEdit = some at_ ∧ d.raw = raw) ∧ d.Spares at_ act) := by
  cases act with
  | clear => simp [Debouncer.act, clear, Spares]
  | poll now =>
    simp only [Debouncer.act, poll_lastEdit, poll_raw, Option.filter_eq_some_iff, Spares,
      decide_eq_true_eq, reduceCtorEq, false_and, false_or]
    tauto
  | edit next time =>
    by_cases htyped : next = ""
    · have hdrops : (d.act (.edit next time)).lastEdit = none :=
        lastEdit_of_drops (.edit next time) htyped d
      refine iff_of_false (fun h => by simp [hdrops] at h) ?_
      rintro (⟨hsame, heffect⟩ | ⟨-, hspares⟩)
      · cases hsame
        exact heffect.1 htyped
      · exact hspares.1 htyped
    · by_cases heffect : d.TakesEffect next
      · rw [Debouncer.act, edit_of_takesEffect heffect]
        constructor
        · rintro ⟨htime, rfl⟩
          cases htime
          exact Or.inl ⟨rfl, heffect⟩
        · rintro (⟨hsame, -⟩ | ⟨-, hspares⟩)
          · cases hsame
            exact ⟨rfl, rfl⟩
          · exact absurd heffect hspares.2
      · rw [Debouncer.act, edit_of_repeat htyped heffect]
        constructor
        · intro h
          exact Or.inr ⟨h, htyped, heffect⟩
        · rintro (⟨hsame, hother⟩ | ⟨h, -⟩)
          · cases hsame
            exact absurd hother heffect
          · exact h

/-! ## Every row of acts -/

theorem StaysWaiting.waits (after : List Act) : ∀ {d : Debouncer}, d.StaysWaiting at_ after →
    d.lastEdit = some at_ ∧ d.raw = raw →
    (d.actAll after).lastEdit = some at_ ∧ (d.actAll after).raw = raw := by
  induction after with
  | nil => intro d _ h; exact h
  | cons act after ih =>
    intro d hstays h
    exact ih hstays.2 ((d.act_waits act raw at_).2 (Or.inr ⟨h, hstays.1⟩))

/-- **The edit that waits** is the latest one that took effect, if nothing has dropped it and no
poll came late enough. -/
theorem waits_run (delay : Nat) (acts : List Act) (raw : String) (at_ : Nat) :
    let start : Debouncer := { delay := delay }
    ((start.actAll acts).lastEdit = some at_ ∧ (start.actAll acts).raw = raw) ↔
      ∃ before after, acts = before ++ .edit raw at_ :: after ∧
        (start.actAll before).TakesEffect raw ∧
        ((start.actAll before).act (.edit raw at_)).StaysWaiting at_ after := by
  intro start
  constructor
  · induction acts using List.reverseRecOn with
    | nil => intro h; cases h.1
    | append_singleton acts act ih =>
      rw [actAll_append]
      intro h
      rcases (act_waits _ act raw at_).1 h with ⟨rfl, heffect⟩ | ⟨hbefore, hspares⟩
      · exact ⟨acts, [], rfl, heffect, trivial⟩
      · obtain ⟨before, after, rfl, heffect, hstays⟩ := ih hbefore
        rw [actAll_append] at hspares
        exact ⟨before, after ++ [act], by simp, heffect,
          (staysWaiting_concat _ _ _).2 ⟨hstays, hspares⟩⟩
  · rintro ⟨before, after, rfl, heffect, hstays⟩
    rw [actAll_append]
    exact hstays.waits after ((act_waits _ _ raw at_).2 (Or.inl ⟨rfl, heffect⟩))

/-- A poll tells the edit that waits, if it comes late enough and the term is another one. -/
theorem poll_run (delay : Nat) (acts : List Act) (now : Nat) (term : String) :
    let start : Debouncer := { delay := delay }
    ((start.actAll acts).poll now).1 = some term ↔ term ≠ (start.actAll acts).committed ∧
      ∃ before at_ after, acts = before ++ .edit term at_ :: after ∧
        (start.actAll before).TakesEffect term ∧
        ((start.actAll before).act (.edit term at_)).StaysWaiting at_ after ∧
        delay ≤ now - at_ := by
  intro start
  rw [poll_eq_some, actAll_delay acts start]
  refine and_congr_right fun _ => ?_
  constructor
  · rintro ⟨at_, hlast, hraw, hlate⟩
    obtain ⟨before, after, hsplit, heffect, hstays⟩ :=
      (waits_run delay acts term at_).1 ⟨hlast, hraw⟩
    exact ⟨before, at_, after, hsplit, heffect, hstays, hlate⟩
  · rintro ⟨before, at_, after, hsplit, heffect, hstays, hlate⟩
    obtain ⟨hlast, hraw⟩ :=
      (waits_run delay acts term at_).2 ⟨before, after, hsplit, heffect, hstays⟩
    exact ⟨at_, hlast, hraw, hlate⟩

/-- Nothing waits until something is typed. -/
theorem lastEdit_run (acts : List Act) : ∀ {d : Debouncer}, (∀ act ∈ acts, ¬ act.Types) →
    d.lastEdit = none → (d.actAll acts).lastEdit = none := by
  induction acts with
  | nil => intro d _ h; exact h
  | cons act acts ih =>
    intro d hacts h
    obtain ⟨hact, hrest⟩ := List.forall_mem_cons.1 hacts
    refine ih hrest ?_
    cases act with
    | edit raw now => exact lastEdit_of_drops (.edit raw now) (Classical.not_not.1 hact) d
    | poll now => simp [Debouncer.act, poll_lastEdit, h]
    | clear => rfl

theorem inOrder_run (delay : Nat) (acts : List Act) : (actAll { delay := delay } acts).InOrder := by
  induction acts using List.reverseRecOn with
  | nil => exact inOrder_new delay
  | append_singleton acts act ih =>
    rw [actAll_append]
    cases act with
    | edit raw now => exact edit_inOrder ih raw now
    | poll now => exact poll_inOrder ih now
    | clear => exact clear_inOrder _

/-- No poll tells a term sooner than the delay after an edit. -/
theorem poll_edit_early {time : Nat} (hearly : now - time < d.delay) (raw : String) :
    ((d.edit raw time).2.poll now).1 = none := by
  rw [Option.eq_none_iff_forall_ne_some]
  intro term htold
  obtain ⟨-, at_, hlast, -, hlate⟩ := poll_eq_some.1 htold
  have hdelay : (d.edit raw time).2.delay = d.delay := d.act_delay (.edit raw time)
  rcases (d.act_waits (.edit raw time) _ at_).1 ⟨hlast, rfl⟩ with ⟨hsame, -⟩ | ⟨hbefore, hspares⟩
  · obtain ⟨-, rfl⟩ := Act.edit.inj hsame
    omega
  · -- Where an edit waits already, the next one takes effect.
    exact hspares.2 ⟨hspares.1, fun hquiet => by simp [isPending, hbefore.1] at hquiet⟩

/-- **The last edit is committed, once, after quiet**, whatever was edited, polled and cleared at
whatever times. A poll tells a term just in case the latest edit that took effect typed it, neither
a clear nor a poll that was late enough has come since, the delay has passed, and the term is not
the committed one, which it is from then on. Every edit makes polls wait for the delay anew; where
nothing waits, the raw term is the committed one; and what was cleared is not told. -/
theorem poll_tells_last_edit (delay : Nat) (acts : List Act) :
    let start : Debouncer := { delay := delay }
    let d := start.actAll acts
    (∀ now term, (d.poll now).1 = some term ↔ term ≠ d.committed ∧
      ∃ before at_ after, acts = before ++ .edit term at_ :: after ∧
        (start.actAll before).TakesEffect term ∧
        ((start.actAll before).act (.edit term at_)).StaysWaiting at_ after ∧
        delay ≤ now - at_) ∧
    (∀ now term, (d.poll now).1 = some term →
      term ≠ "" ∧ (d.poll now).2.committed = term ∧ (d.poll now).2.isPending = false) ∧
    (∀ raw time, (d.TakesEffect raw → (d.edit raw time).2.deadline? = some (time + delay)) ∧
      ∀ now, now - time < delay → ((d.edit raw time).2.poll now).1 = none) ∧
    (d.isPending = false → d.raw = d.committed) ∧
    (∀ act, act.Drops → ∀ more, (∀ next ∈ more, ¬ next.Types) →
      ∀ now, (((d.act act).actAll more).poll now).1 = none) := by
  intro start d
  have hdelay : d.delay = delay := actAll_delay acts start
  have hinOrder : d.InOrder := inOrder_run delay acts
  refine ⟨poll_run delay acts, fun now term => hinOrder.poll_told,
    fun raw time => ⟨fun heffect => ?_, fun now hearly => poll_edit_early (hdelay ▸ hearly) raw⟩,
    fun hquiet => ?_, fun act hdrops more hmore now => ?_⟩
  · rw [edit_of_takesEffect heffect, deadline?, hdelay]
    rfl
  · exact hinOrder.quiet (Option.isNone_iff_eq_none.1 (Option.isSome_eq_false_iff.1 hquiet))
  · exact poll_of_quiet (lastEdit_run more hmore (lastEdit_of_drops act hdrops d)) now

end LogTail.Query.Debouncer
