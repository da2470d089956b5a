import LogTail.Proofs.App.Acts
import LogTail.Proofs.Session.Selecting
import LogTail.Proofs.Session.Tail
import LogTail.Query.Draw

/-!
# The selection and the viewport's note of it

The application holds the selection, and the viewport notes that there is one. Keys, the mouse,
frames, ticks and scans leave both as they are, end both or begin both (`acted_spares`). Only a
fetch tells them apart: one that begins a generation at the tail makes the viewport drop its note,
and the application does not hear of it (`Loses`). From then on the two differ until the selection
ends.
-/

namespace LogTail

open Query (Input)

namespace Face

/-- A selection is held in its own mode only, and one that is noted is held. -/
structure Settled (f : Face) : Prop where
  mode : f.mode = .selecting ↔ f.selected = true
  noted : f.session.viewport.selecting = true → f.selected = true

/-- A selection that is held and not noted. -/
def Lost (f : Face) : Prop := f.selected = true ∧ f.session.viewport.selecting = false

/-- Either side is as it was, or neither has a selection. -/
def Spares (f g : Face) : Prop :=
  (g.selected = f.selected ∧ g.session.viewport.selecting = f.session.viewport.selecting) ∨
  (g.selected = false ∧ g.session.viewport.selecting = false)

/-- Both sides have a selection, and none was held. -/
def Begins (f g : Face) : Prop :=
  f.selected = false ∧ g.selected = true ∧ g.session.viewport.selecting = true

variable {honest : Prop} {f g h : Face}

theorem Spares.refl (f : Face) : f.Spares f := Or.inl ⟨rfl, rfl⟩

theorem Spares.trans (h₁ : f.Spares g) (h₂ : g.Spares h) : f.Spares h := by
  rcases h₂ with ⟨hselected, hselecting⟩ | hneither
  · rwa [Spares, hselected, hselecting]
  · exact Or.inr hneither

theorem Spares.lost_iff (h : f.Spares g) : g.Lost ↔ f.Lost ∧ g.selected = true := by
  rcases h with ⟨hselected, hselecting⟩ | ⟨hnone, -⟩
  · rw [Lost, Lost, hselected, hselecting]
    exact ⟨fun hlost => ⟨hlost, hlost.1⟩, And.left⟩
  · have hunselected : g.selected ≠ true := by simp [hnone]
    exact iff_of_false (fun hlost => hunselected hlost.1) (fun hlost => hunselected hlost.2)

theorem Begins.lost_iff (h : f.Begins g) : g.Lost ↔ f.Lost ∧ g.selected = true := by
  obtain ⟨hunselected, -, hnoted⟩ := h
  refine iff_of_false (fun hlost => ?_) (fun hlost => ?_)
  · exact absurd (hlost.2.symm.trans hnoted) (by simp)
  · exact absurd (hunselected.symm.trans hlost.1.1) (by simp)

theorem Settled.spared (hs : f.Settled) (hspares : f.Spares g)
    (hmode : g.mode = .selecting ↔ g.selected = true) : g.Settled := by
  refine ⟨hmode, fun hselecting => ?_⟩
  rcases hspares with ⟨hselected, hsame⟩ | ⟨-, hnone⟩
  · exact hselected.trans (hs.noted (hsame.symm.trans hselecting))
  · exact absurd (hnone.symm.trans hselecting) (by simp)

/-- A call that is no matter to a selection. -/
theorem spares_of_call {c : Call} (hfetch : ∀ report, c ≠ .fetched report)
    (hframe : c = .finishFrame → f.session.viewport.isReset f.session.snapshot = false)
    (hselects : c.selects? = none) (hsession : g.session = (f.session.call c).1)
    (hselected : g.selected = f.selected) : f.Spares g := by
  refine Or.inl ⟨hselected, ?_⟩
  rw [hsession, Session.call_selecting f.session hfetch hframe, hselects, Option.getD_none]

theorem touch_spares (hs : f.Settled) (ht : Touch honest f g) : f.Spares g := by
  cases ht with
  | calls c now plain =>
    cases c with
    | fetched | switchSource | jumpToLatest | setSelecting | finishFrame =>
      simp [Call.isPlain] at plain
    | _ => exact spares_of_call (by simp) (by simp) rfl rfl rfl
  | remembers lines => exact Or.inl ⟨rfl, rfl⟩
  | modes mode before after => exact Or.inl ⟨rfl, rfl⟩
  | types text now =>
    exact spares_of_call (c := .editQuery text now) (by simp) (by simp) rfl rfl rfl
  | clears now => exact spares_of_call (c := .clearQuery) (by simp) (by simp) rfl rfl rfl
  | opens position now offered =>
    exact spares_of_call (c := .openResult position) (by simp) (by simp) rfl rfl rfl
  | ends now =>
    exact Or.inr ⟨rfl, f.session.call_selecting (c := .setSelecting false) (by simp) (by simp)⟩
  | jumps now unselected => exact Or.inr ⟨unselected, rfl⟩
  | resizes rows now =>
    exact spares_of_call (c := .setHeight (max rows 1)) (by simp) (by simp) rfl rfl rfl
  | switches source now mode =>
    refine Or.inr ⟨rfl, ?_⟩
    -- A switch that is refused finds nothing noted.
    have hnone : f.session.viewport.selecting = false :=
      Bool.eq_false_iff.2 fun hselecting => mode (hs.mode.2 (hs.noted hselecting))
    refine (f.session.switchSource_selecting source).trans ?_
    rw [Call.selects?, hnone]
    split <;> rfl
  | drifts text untold => exact Or.inl ⟨rfl, rfl⟩

theorem touch_settled (hs : f.Settled) (ht : Touch honest f g) : g.Settled := by
  refine hs.spared (touch_spares hs ht) ?_
  cases ht with
  | modes mode before after =>
    have hunselected : f.selected ≠ true := fun hselected => before (hs.mode.2 hselected)
    exact iff_of_false after hunselected
  | ends now => simp
  | switches source now mode => simp
  | _ => exact hs.mode

theorem touches_spares (hs : f.Settled) (ht : Relation.ReflTransGen (Touch honest) f g) :
    f.Spares g ∧ g.Settled := by
  induction ht with
  | refl => exact ⟨.refl f, hs⟩
  | tail _ hlast ih => exact ⟨ih.1.trans (touch_spares ih.2 hlast), touch_settled ih.2 hlast⟩

/-- Whatever is not a fetch keeps the two sides together: it spares a selection or begins one. -/
theorem acted_spares (hs : f.Settled) (h : Acted honest f g) :
    (f.Spares g ∨ f.Begins g) ∧ g.Settled := by
  cases h with
  | touches htouches =>
    obtain ⟨hspares, hsettled⟩ := touches_spares hs htouches
    exact ⟨Or.inl hspares, hsettled⟩
  | selects hselects =>
    cases hselects with
    | begins now unselected =>
      have hnoted : (f.session.call (.setSelecting true)).1.viewport.selecting = true :=
        f.session.call_selecting (by simp) (by simp)
      exact ⟨Or.inr ⟨unselected, rfl, hnoted⟩, iff_of_true rfl rfl, fun _ => rfl⟩
  | settles now goesOn =>
    have hspares : f.Spares (f.call .finishFrame now) :=
      spares_of_call (c := .finishFrame) (by simp) (fun _ => goesOn) rfl rfl rfl
    exact ⟨Or.inl hspares, hs.spared hspares hs.mode⟩
  | works s view seeks viewport =>
    have hspares : f.Spares { f with session := s, view := view } :=
      Or.inl ⟨rfl, congrArg (·.selecting) viewport⟩
    exact ⟨Or.inl hspares, hs.spared hspares hs.mode⟩

end Face

namespace App

/-- A fetch begins a generation at the tail, under a selection. -/
def Loses {ε : Type} (a : App ε) (report : FetchReport) : Prop :=
  a.session.viewport.selecting = true ∧ a.session.viewport.mode = .tailing ∧
    (a.session.onFetched report).1.snapshot.generation ≠ a.session.snapshot.generation

end App

namespace Stage

variable {ε : Type} [Input ε] {st : Stage ε}

/-! ## One act -/

/-- The view mirrors the session, and the selection is settled. -/
structure InOrder (st : Stage ε) : Prop where
  mirrored : st.Mirrored
  settled : st.app.face.Settled

/-- A fetch leaves the selection to the viewport. -/
theorem fetched_selecting (h : st.InOrder) (now : Nat) (report : FetchReport) :
    (st.act (.fetched now report)).app.session.viewport.selecting = true ↔
      st.app.session.viewport.selecting = true ∧ ¬ st.app.Loses report := by
  refine (Session.onFetched_selecting h.mirrored.inStep.goesOn report).trans
    (and_congr_right fun hselecting => ?_)
  constructor
  · rintro hkept ⟨-, htail, hother⟩
    exact hother (hkept htail)
  · intro hkept htail
    exact Decidable.of_not_not fun hother => hkept ⟨hselecting, htail, hother⟩

theorem act_settled (h : st.InOrder) (act : Act) : (st.act act).app.face.Settled := by
  by_cases hfetch : ∃ now report, act = .fetched now report
  · obtain ⟨now, report, rfl⟩ := hfetch
    exact ⟨h.settled.mode, fun hselecting =>
      h.settled.noted ((fetched_selecting h now report).1 hselecting).1⟩
  · have hacted := act_acted h.mirrored fun now report hact => hfetch ⟨now, report, hact⟩
    exact (Face.acted_spares h.settled hacted).2

theorem act_inOrder (h : st.InOrder) (act : Act) : (st.act act).InOrder :=
  ⟨act_mirrored h.mirrored act, act_settled h act⟩

theorem fetched_lost_iff (h : st.InOrder) (now : Nat) (report : FetchReport) :
    (st.act (.fetched now report)).app.face.Lost ↔
      (st.app.face.Lost ∧ st.app.selection.isSome = true) ∨ st.app.Loses report := by
  have hnoted := fetched_selecting h now report
  constructor
  · rintro ⟨hselected, hdropped⟩
    by_cases hloses : st.app.Loses report
    · exact Or.inr hloses
    · refine Or.inl ⟨⟨hselected, Bool.eq_false_iff.2 fun hselecting => ?_⟩, hselected⟩
      exact absurd (hdropped.symm.trans (hnoted.2 ⟨hselecting, hloses⟩)) (by simp)
  · rintro (⟨⟨hselected, hnone⟩, -⟩ | hloses)
    · refine ⟨hselected, Bool.eq_false_iff.2 fun hselecting => ?_⟩
      exact absurd (hnone.symm.trans (hnoted.1 hselecting).1) (by simp)
    · refine ⟨h.settled.noted hloses.1, Bool.eq_false_iff.2 fun hselecting => ?_⟩
      exact (hnoted.1 hselecting).2 hloses

/-- **A selection is lost by a fetch alone**, and a lost one stays lost for as long as it is
held. -/
theorem act_lost_iff (h : st.InOrder) (act : Act) : (st.act act).app.face.Lost ↔
    (st.app.face.Lost ∧ (st.act act).app.selection.isSome = true) ∨
      ∃ now report, act = .fetched now report ∧ st.app.Loses report := by
  by_cases hfetch : ∃ now report, act = .fetched now report
  · obtain ⟨now, report, rfl⟩ := hfetch
    refine (fetched_lost_iff h now report).trans (or_congr_right ⟨fun hloses => ?_, ?_⟩)
    · exact ⟨now, report, rfl, hloses⟩
    · rintro ⟨_, _, hact, hloses⟩
      cases hact
      exact hloses
  · have hother : ¬ ∃ now report, act = .fetched now report ∧ st.app.Loses report :=
      fun ⟨now, report, hact, _⟩ => hfetch ⟨now, report, hact⟩
    have hacted := act_acted h.mirrored fun now report hact => hfetch ⟨now, report, hact⟩
    rw [or_iff_left hother]
    rcases (Face.acted_spares h.settled hacted).1 with hspares | hbegins
    · exact hspares.lost_iff
    · exact hbegins.lost_iff

/-! ## Every row of acts -/

theorem run_append (st : Stage ε) (before after : List Act) :
    st.run (before ++ after) = (st.run before).run after := List.foldl_append ..

theorem inOrder_run (settings : Settings) (source : Source) (sources : List Source)
    (acts : List Act) : ((new ε settings source sources).run acts).InOrder := by
  induction acts using List.reverseRecOn with
  | nil =>
    refine ⟨mirrored_new settings source sources, ?_, ?_⟩
    · simp [run, new, App.new, App.face]
    · simp [run, new, App.new, App.face, Session.new]
  | append_singleton acts act ih =>
    rw [run_append]
    exact act_inOrder ih act

/-- A selection is held after every act. -/
def StaysSelected (st : Stage ε) : List Act → Prop
  | [] => True
  | act :: acts =>
    (st.act act).app.selection.isSome = true ∧ StaysSelected (st.act act) acts

theorem staysSelected_concat (act : Act) (acts : List Act) : ∀ st : Stage ε,
    st.StaysSelected (acts ++ [act]) ↔
      st.StaysSelected acts ∧ ((st.run acts).act act).app.selection.isSome = true := by
  induction acts with
  | nil => intro st; simp [StaysSelected, run]
  | cons first acts ih =>
    intro st
    simp only [List.cons_append, StaysSelected, ih, and_assoc]
    rfl

theorem lost_run (settings : Settings) (source : Source) (sources : List Source) (acts : List Act) :
    ((new ε settings source sources).run acts).app.face.Lost ↔ ∃ before now report after,
      acts = before ++ .fetched now report :: after ∧
      ((new ε settings source sources).run before).app.Loses report ∧
      (((new ε settings source sources).run before).act
        (.fetched now report)).StaysSelected after := by
  induction acts using List.reverseRecOn with
  | nil => simp [run, new, App.new, App.face, Face.Lost]
  | append_singleton acts act ih =>
    have h : ((new ε settings source sources).run acts).InOrder :=
      inOrder_run settings source sources acts
    rw [run_append]
    refine (act_lost_iff h act).trans ⟨?_, ?_⟩
    · rintro (⟨hlost, hselected⟩ | ⟨now, report, rfl, hloses⟩)
      · obtain ⟨before, now, report, after, rfl, hloses, hstays⟩ := ih.1 hlost
        rw [run_append] at hselected
        exact ⟨before, now, report, after ++ [act], by simp, hloses,
          (staysSelected_concat _ _ _).2 ⟨hstays, hselected⟩⟩
      · exact ⟨acts, now, report, [], rfl, hloses, trivial⟩
    · rintro ⟨before, now, report, after, hsplit, hloses, hstays⟩
      obtain ⟨rfl, rfl, rfl⟩ | ⟨rest, rfl, rfl⟩ := Ensemble.concat_eq_append_cons hsplit
      · exact Or.inr ⟨now, report, rfl, hloses⟩
      · obtain ⟨hstays, hselected⟩ := (staysSelected_concat _ _ _).1 hstays
        rw [run_append]
        rw [run_append] at ih
        exact Or.inl ⟨ih.2 ⟨before, now, report, rest, rfl, hloses, hstays⟩, hselected⟩

variable (ε) in
/-- **The application and the viewport agree on the selection** after every row of keys, mouse
events, fetches, reports, ticks and frames, unless a fetch began a generation at the tail under a
selection that is held ever since. A selection that the viewport notes is always held. -/
theorem selection_agrees_iff (settings : Settings) (source : Source) (sources : List Source)
    (acts : List Act) :
    let a := ((new ε settings source sources).run acts).app
    (a.session.viewport.selecting = true → a.selection.isSome = true) ∧
    ((a.selection.isSome = true ↔ a.session.viewport.selecting = true) ↔
      ¬ ∃ before now report after, acts = before ++ .fetched now report :: after ∧
        ((new ε settings source sources).run before).app.Loses report ∧
        (((new ε settings source sources).run before).act
          (.fetched now report)).StaysSelected after) := by
  intro a
  have hnoted : a.session.viewport.selecting = true → a.selection.isSome = true :=
    (inOrder_run settings source sources acts).settled.noted
  have hlost : a.face.Lost ↔ _ := lost_run settings source sources acts
  refine ⟨hnoted, ?_⟩
  rw [← hlost]
  constructor
  · rintro hagree ⟨hselected, hnone⟩
    exact absurd (hnone.symm.trans (hagree.1 hselected)) (by simp)
  · intro hkept
    refine ⟨fun hselected => ?_, hnoted⟩
    exact Bool.of_not_eq_false fun hnone => hkept ⟨hselected, hnone⟩

/-- Three lines are tailed, the reader selects, and the text shrinks to one line. -/
def shrunkSelecting : List Act := [
  .fetched 0 ⟨0, .ok "a\nb\nc"⟩, .key 0 (fun _ => .ok ()) { code := .char 'v' },
  .fetched 0 ⟨0, .ok "x"⟩]

/-- The selection is held, and the viewport does not note it any more. -/
theorem shrunkSelecting_differs : ¬ ∀ (settings : Settings) (source : Source)
    (sources : List Source) (acts : List Act),
    let a := ((new Query.Editor settings source sources).run acts).app
    a.selection.isSome = true ↔ a.session.viewport.selecting = true := by
  intro h
  have hselected : ((new Query.Editor {} (.file "app.log") []).run
      shrunkSelecting).app.selection.isSome = true := by decide +kernel
  have hselecting : ((new Query.Editor {} (.file "app.log") []).run
      shrunkSelecting).app.session.viewport.selecting = false := by decide +kernel
  have hagree := (h {} (.file "app.log") [] shrunkSelecting).1 hselected
  exact absurd (hselecting.symm.trans hagree) (by decide)

end Stage

end LogTail
