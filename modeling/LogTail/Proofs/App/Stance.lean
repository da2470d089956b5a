import LogTail.Proofs.App.Query

/-!
# The mode, the focus and the sources go together

What a key does depends on the mode and on the panel with the focus, so these have to be of what
there is: a mode of a selection, a panel that is shown, results of a search. The `Stance` of the
application is all that this depends on, and `Turn` lists what can become of it, with what has to
hold for each turn to be taken; no key takes a turn in a mode where it would break the order
(`onKey_turns`). Each turn keeps the order (`turn_orderly`), and so does every row of acts.
-/

namespace LogTail

open Query (Input)
open Search (LiveSearch RunningScan Scan ScanReport)

/-! ## Sessions -/

namespace Session

/-- Only a switch shows another source. -/
theorem call_source (s : Session) {c : Call} (hc : ∀ source, c ≠ .switchSource source) :
    (s.call c).1.source = s.source := by
  cases c with
  | switchSource source => exact absurd rfl (hc source)
  | start =>
    simp only [call, start]
    cases s.source.fault? <;> rfl
  | fetched report =>
    rcases s.onFetched_cases report with ⟨tally, h, -⟩ | ⟨text, tally, segments, -, -, -, h⟩
    · exact congrArg (·.source) h
    · exact congrArg (·.source) h
  | editQuery raw now =>
    simp only [call, editQuery]
    split <;> rfl
  | tick now =>
    simp only [call, tick, commitTerm, withSearch_eq]
    split
    · rfl
    · split <;> rfl
  | navigate direction =>
    simp only [call, navigate]
    split <;> rfl
  | openResult position =>
    simp only [call, openResult]
    split <;> rfl
  | segmentsForLine snapshot line =>
    simp only [call, segmentsForLine]
    split <;> rfl
  | _ => rfl

theorem scanned_source (s : Session) (report : ScanReport) :
    (s.handle (.scanned report)).1.source = s.source := by
  simp only [handle, onScanned, withSearch_eq]
  split <;> rfl

/-- A switch is refused, or the source is shown. -/
theorem switchSource_source {s : Session} {source : Source} {r : Session × List Display.Command}
    (h : s.switchSource source = .ok r) : r.1.source = source := by
  cases hfault : source.fault? with
  | some fault => simp [s.switchSource_of_fault hfault] at h
  | none =>
    rw [s.switchSource_of_none hfault] at h
    cases h
    rfl

/-- A result that is opened ends the search, and no edit begins to wait. -/
theorem openResult_pending {s : Session} {position : Nat}
    (h : (s.openResult position).1.query.isPending = true) : s.query.isPending = true := by
  unfold openResult at h
  split at h
  · exact h
  · simp [clearQuery, searchCommands_fst, Query.Debouncer.clear,
      Query.Debouncer.isPending] at h

end Session

/-! ## One turn -/

/-- What keys act on. -/
structure Stance where
  mode : Mode
  focus : Panel
  sidePanel : Bool
  /-- Whether lines are selected. -/
  selected : Bool
  sources : List Source
  marked : Nat
  current : Nat
  /-- The source of the session. -/
  shown : Source
  /-- Whether there is a search. -/
  active : Bool
  /-- Whether an edit of the query waits. -/
  pending : Bool

namespace Stance

/-- The mode is of a selection just in case there is one, the focus is on something shown, an edit
waits only while the query is typed, and the sources are pointed at rightly. -/
structure Orderly (p : Stance) : Prop where
  selecting : p.mode = .selecting ↔ p.selected = true
  searching : p.mode = .searching → p.focus = .log
  sources : p.focus = .sources → p.sidePanel = true
  results : p.focus = .results → p.active = true
  pending : p.pending = true → p.mode = .searching
  marked : p.marked < p.sources.length
  current : p.sources[p.current]? = some p.shown

/-- What can become of a stance. -/
inductive Turn (p : Stance) : Stance → Prop where
  /-- The session goes on. It loses its search only to an edit that waits, and no edit begins to
  wait. -/
  | goesOn (active pending : Bool) (kept : p.active = true → p.pending = true ∨ active = true)
      (quiet : pending = true → p.pending = true) :
      Turn p { p with active := active, pending := pending }
  | selects (before : p.mode = .normal) : Turn p { p with mode := .selecting, selected := true }
  | unselects (before : p.mode ≠ .searching) : Turn p { p with mode := .normal, selected := false }
  | asks (before : p.mode = .normal) : Turn p { p with mode := .searching, focus := .log }
  | types (active pending : Bool) (before : p.mode = .searching) :
      Turn p { p with active := active, pending := pending }
  | finishes (active : Bool) (before : p.mode = .searching) :
      Turn p { p with
        mode := .normal
        focus := if active then .results else p.focus
        active := active
        pending := false }
  | clears (before : p.mode ≠ .selecting) :
      Turn p { p with
        mode := .normal
        focus := if p.focus = .results then .log else p.focus
        active := false
        pending := false }
  | opens (active pending : Bool) (quiet : pending = true → p.pending = true) :
      Turn p { p with focus := .log, active := active, pending := pending }
  | marks (i : Nat) (listed : p.marked < p.sources.length → i < p.sources.length) :
      Turn p { p with marked := i }
  | switches (source : Source) (marked : p.sources[p.marked]? = some source) :
      Turn p { p with current := p.marked, shown := source }
  | toggles : Turn p { p with
      sidePanel := !p.sidePanel
      focus := if p.sidePanel && p.focus == .sources then .log else p.focus }
  | focuses (panel : Panel) (sources : panel = .sources → p.sidePanel = true)
      (results : panel = .results → p.active = true) (before : p.mode = .normal) :
      Turn p { p with focus := panel }

variable {p q : Stance}

theorem Orderly.quiet (h : p.Orderly) (hmode : p.mode ≠ .searching) : p.pending ≠ true :=
  fun hpending => hmode (h.pending hpending)

theorem Orderly.unselected (h : p.Orderly) (hmode : p.mode ≠ .selecting) : ¬ p.selected = true :=
  mt h.selecting.2 hmode

/-- While the query is typed the focus is on the log. -/
theorem Orderly.not_results (h : p.Orderly) (hmode : p.mode = .searching) :
    p.focus ≠ .results := by
  simp [h.searching hmode]

/-- **Every turn keeps the order.** -/
theorem turn_orderly (h : p.Orderly) (ht : Turn p q) : q.Orderly := by
  cases ht with
  | goesOn active pending kept quiet =>
    refine { h with
      results := fun hfocus => (kept (h.results hfocus)).resolve_left fun hpending => ?_
      pending := fun hpending => h.pending (quiet hpending) }
    -- While an edit waits the query is typed.
    exact h.not_results (h.pending hpending) hfocus
  | selects before =>
    refine { h with
      selecting := iff_of_true rfl rfl
      searching := fun hmode => absurd hmode (by simp)
      pending := fun hpending => absurd hpending (h.quiet (by simp [before])) }
  | unselects before =>
    refine { h with
      selecting := iff_of_false (by simp) (by simp)
      searching := fun hmode => absurd hmode (by simp)
      pending := fun hpending => absurd hpending (h.quiet before) }
  | asks before =>
    refine { h with
      selecting := iff_of_false (by simp) (h.unselected (by simp [before]))
      searching := fun _ => rfl
      sources := fun hfocus => absurd hfocus (by simp)
      results := fun hfocus => absurd hfocus (by simp)
      pending := fun _ => rfl }
  | types active pending before =>
    exact { h with
      results := fun hfocus => absurd hfocus (h.not_results before)
      pending := fun _ => before }
  | finishes active before =>
    refine { h with
      selecting := iff_of_false (by simp) (h.unselected (by simp [before]))
      searching := fun hmode => absurd hmode (by simp)
      sources := fun hfocus => ?_
      results := fun hfocus => ?_
      pending := fun hpending => absurd hpending (by simp) }
    · cases active with
      | true => simp at hfocus
      | false => exact h.sources hfocus
    · cases active with
      | true => rfl
      | false => exact absurd hfocus (h.not_results before)
  | clears before =>
    refine { h with
      selecting := iff_of_false (by simp) (h.unselected before)
      searching := fun hmode => absurd hmode (by simp)
      sources := fun hfocus => ?_
      results := fun hfocus => ?_
      pending := fun hpending => absurd hpending (by simp) }
    · split at hfocus
      · simp at hfocus
      · exact h.sources hfocus
    · split at hfocus
      · simp at hfocus
      · contradiction
  | opens active pending quiet =>
    refine { h with
      searching := fun _ => rfl
      sources := fun hfocus => absurd hfocus (by simp)
      results := fun hfocus => absurd hfocus (by simp)
      pending := fun hpending => h.pending (quiet hpending) }
  | marks i listed => exact { h with marked := listed h.marked }
  | switches source marked => exact { h with current := marked }
  | toggles =>
    refine { h with
      searching := fun hmode => ?_
      sources := fun hfocus => ?_
      results := fun hfocus => ?_ }
    · simp [h.searching hmode]
    · split at hfocus
      · simp at hfocus
      · rename_i hkept
        have hsources : p.focus = .sources := hfocus
        exact absurd (by simp [h.sources hsources, hsources]) hkept
    · split at hfocus
      · simp at hfocus
      · exact h.results hfocus
  | focuses panel sources results before =>
    exact { h with
      searching := fun hmode => absurd (hmode.symm.trans before) (by simp)
      sources := sources
      results := results }

theorem turns_orderly (h : p.Orderly) (ht : Relation.ReflTransGen Turn p q) : q.Orderly := by
  induction ht with
  | refl => exact h
  | tail _ hlast ih => exact turn_orderly ih hlast

end Stance

/-! ## Operations -/

namespace App

open Stance (Turn)

variable {ε : Type}

def stance (a : App ε) : Stance where
  mode := a.mode
  focus := a.focus
  sidePanel := a.sidePanel
  selected := a.selection.isSome
  sources := a.sources
  marked := a.marked
  current := a.current
  shown := a.session.source
  active := a.session.search.isActive
  pending := a.session.query.isPending

/-- From one state of the application another is reached by turns. -/
def Turns (a b : App ε) : Prop := Relation.ReflTransGen Turn a.stance b.stance

variable {a b c : App ε}

theorem Turns.refl (a : App ε) : a.Turns a := Relation.ReflTransGen.refl

theorem Turns.trans (h₁ : a.Turns b) (h₂ : b.Turns c) : a.Turns c :=
  Relation.ReflTransGen.trans h₁ h₂

theorem turns_of_turn (h : Turn a.stance b.stance) : a.Turns b := Relation.ReflTransGen.single h

/-- The rest of the application is no matter. -/
theorem turns_of_eq (h : b.stance = a.stance) : a.Turns b := by
  rw [Turns, h]

/-- The session goes on. -/
theorem turns_of_seeks (seeks : a.session.SeeksTo none b.session)
    (h : b.stance = { a.stance with
      active := b.session.search.isActive
      pending := b.session.query.isPending }) : a.Turns b := by
  refine turns_of_turn ?_
  rw [h]
  exact .goesOn _ _ seeks.keeps_active seeks.keeps_quiet

/-- A call that types nothing, and shows the source that was shown. -/
theorem take_turns {c : Call} (a : App ε) (now : Nat) (htypes : a.session.types? c = none)
    (hsource : ∀ source, c ≠ .switchSource source) :
    a.Turns (a.take now (a.session.call c)) := by
  have hseeks := a.session.call_seeks c
  rw [htypes] at hseeks
  refine turns_of_seeks hseeks ?_
  simp only [stance, take, a.session.call_source hsource]

theorem tick_turns (a : App ε) (now time : Nat) : a.Turns (a.tick now time) :=
  take_turns (c := .tick time) a now rfl (by simp)

theorem setPageSize_turns (a : App ε) (now rows : Nat) : a.Turns (a.setPageSize now rows) :=
  take_turns (c := .setHeight (max rows 1)) a now rfl (by simp)

theorem scrollBy_turns (a : App ε) (now : Nat) (delta : Int) : a.Turns (a.scrollBy now delta) :=
  take_turns (c := .scrollBy delta) a now rfl (by simp)

theorem goToTop_turns (a : App ε) (now : Nat) : a.Turns (a.goToTop now) :=
  take_turns (c := .scrollToTop) a now rfl (by simp)

theorem onEvent_turns (a : App ε) (now : Nat) (event : Event) : a.Turns (a.onEvent now event) := by
  cases event with
  | exported result => cases result <;> exact turns_of_eq rfl
  | fetched report => exact take_turns (c := .fetched report) a now rfl (by simp)
  | scanned report =>
    refine turns_of_seeks (a.session.scanned_seeks report) ?_
    simp only [stance, onEvent, take, a.session.scanned_source]

/-! ## Selecting -/

theorem endSelection_turns (h : a.mode ≠ .searching) (now : Nat) :
    a.Turns (a.endSelection now) := by
  unfold endSelection
  split
  · exact .refl a
  · have hends : a.Turns { a with selection := none, mode := .normal } :=
      turns_of_turn (.unselects h)
    exact hends.trans (take_turns (c := .setSelecting false)
      { a with selection := none, mode := .normal } now rfl (by simp))

theorem toggleSelection_turns (h : a.mode = .normal) (now : Nat) :
    a.Turns (a.toggleSelection now) := by
  unfold toggleSelection
  split
  · exact endSelection_turns (by simp [h]) now
  · simp only
    split
    · exact .refl a
    · have hbegins (selection : Selection) :
          a.Turns { a with selection := some selection, mode := .selecting } :=
        turns_of_turn (.selects h)
      exact (hbegins _).trans (take_turns (c := .setSelecting true)
        { a with selection := some _, mode := .selecting } now rfl (by simp))

theorem moveSelection_turns (a : App ε) (now : Nat) (delta : Int) :
    a.Turns (a.moveSelection now delta) := by
  unfold moveSelection
  split
  · exact .refl a
  · rename_i selection hsome
    split
    · exact .refl a
    · -- The free end is moved, and lines are selected still.
      have hmoves (moved : Selection) : a.Turns { a with selection := some moved } := by
        refine turns_of_eq ?_
        simp [stance, hsome]
      simp only
      split
      · exact (hmoves _).trans (scrollBy_turns { a with selection := some _ } now _)
      · split
        · exact (hmoves _).trans (scrollBy_turns { a with selection := some _ } now _)
        · exact hmoves _

theorem copySelection_turns (h : a.mode ≠ .searching) (now : Nat) (clipboard : Clipboard) :
    a.Turns (a.copySelection now clipboard) := by
  unfold copySelection
  split
  · exact .refl a
  · have hmessage (message : String) : a.Turns (a.say message) := turns_of_eq rfl
    exact (hmessage _).trans (endSelection_turns (a := a.say _) h now)

theorem jumpToLatest_turns (h : a.mode ≠ .searching) (now : Nat) :
    a.Turns (a.jumpToLatest now) :=
  (endSelection_turns h now).trans
    (take_turns (c := .jumpToLatest) (a.endSelection now) now rfl (by simp))

/-! ## The query -/

theorem startSearch_turns (h : a.mode = .normal) : a.Turns a.startSearch :=
  turns_of_turn (.asks h)

theorem queryChanged_turns [Input ε] (h : a.mode = .searching) (now : Nat) (input : ε) :
    a.Turns ({ a with input := input }.queryChanged now) := by
  have hsource := a.session.call_source (c := .editQuery (Input.text input) now) (by simp)
  have hstance : ({ a with input := input }.queryChanged now).stance = { a.stance with
      active := (a.session.editQuery (Input.text input) now).1.search.isActive
      pending := (a.session.editQuery (Input.text input) now).1.query.isPending } := by
    simp only [Session.call] at hsource
    simp only [stance, queryChanged, take, queryText, hsource]
  refine turns_of_turn ?_
  rw [hstance]
  exact .types _ _ h

theorem finishSearchInput_turns (h : a.mode = .searching) (now : Nat) :
    a.Turns (a.finishSearchInput now) := by
  have hpending : (a.finishSearchInput now).session.query.isPending = false := by
    rw [Query.Debouncer.isPending, a.finishSearchInput_quiet]
    rfl
  have hstance : (a.finishSearchInput now).stance = { a.stance with
      mode := .normal
      focus := if (a.finishSearchInput now).session.search.isActive then .results else a.focus
      active := (a.finishSearchInput now).session.search.isActive
      pending := (a.finishSearchInput now).session.query.isPending } := by
    unfold finishSearchInput
    cases hdeadline : a.session.query.deadline? with
    | none =>
      simp only [hdeadline]
      split <;> simp_all [stance]
    | some deadline =>
      have hsource := a.session.call_source (c := .tick deadline) (by simp)
      simp only [Session.call] at hsource
      simp only [hdeadline]
      split <;> simp_all [stance, tick, take]
  refine turns_of_turn ?_
  rw [hstance, hpending]
  exact .finishes _ h

theorem clearSearch_turns [Input ε] (h : a.mode ≠ .selecting) (now : Nat) :
    a.Turns (a.clearSearch now) := by
  have hidle : a.session.search.clear.isActive = false := by
    rw [LiveSearch.isActive, LiveSearch.clear_term]
    rfl
  have hstance : (a.clearSearch now).stance = { a.stance with
      mode := .normal
      focus := if a.stance.focus = .results then .log else a.stance.focus
      active := a.session.search.clear.isActive
      pending := false } := rfl
  refine turns_of_turn ?_
  rw [hstance, hidle]
  exact .clears h

theorem navigate_turns (a : App ε) (now : Nat) (direction : Search.Direction) :
    a.Turns (a.navigate now direction) := by
  unfold navigate
  split
  · exact take_turns (c := .navigate direction) a now rfl (by simp)
  · exact turns_of_eq rfl

theorem openActiveResult_turns [Input ε] (a : App ε) (now : Nat) :
    a.Turns (a.openActiveResult now) := by
  unfold openActiveResult
  split
  · exact .refl a
  · rename_i position _
    have hopens : a.Turns { a.take now (a.session.openResult position) with
        input := Input.empty, focus := .log } := by
      have hsource := a.session.call_source (c := .openResult position) (by simp)
      simp only [Session.call] at hsource
      refine turns_of_turn ?_
      simp only [stance, take, hsource]
      exact .opens _ _ Session.openResult_pending
    simp only
    split
    · exact hopens.trans (turns_of_eq rfl)
    · exact hopens

/-! ## Sources and panels -/

theorem markNext_turns (a : App ε) : a.Turns a.markNext := by
  unfold markNext
  split
  · rename_i hlisted
    exact turns_of_turn (.marks (a.marked + 1) fun _ => hlisted)
  · exact .refl a

theorem markPrevious_turns (a : App ε) : a.Turns a.markPrevious :=
  turns_of_turn (.marks (a.marked - 1) (Nat.lt_of_le_of_lt (Nat.sub_le ..)))

theorem switchToMarked_turns (h : a.mode ≠ .searching) (now : Nat) :
    a.Turns (a.switchToMarked now) := by
  unfold switchToMarked
  split
  · exact .refl a
  · split
    · exact .refl a
    · rename_i source hmarked
      have hunselects : a.Turns { a with selection := none, mode := .normal } :=
        turns_of_turn (.unselects h)
      simp only
      split
      · rename_i r hr
        have hswitches : a.Turns { a with
            selection := none
            mode := .normal
            current := a.marked
            session := { a.session with source := source } } :=
          hunselects.trans (turns_of_turn (.switches source hmarked))
        have hseeks := a.session.switchSource_seeks source
        simp only [Session.call, hr] at hseeks
        refine hswitches.trans (turns_of_seeks hseeks ?_)
        simp only [stance, say, take, Session.switchSource_source hr]
      · exact hunselects.trans (turns_of_eq rfl)

theorem toggleSidePanel_turns (a : App ε) : a.Turns a.toggleSidePanel := by
  have hstance : a.toggleSidePanel.stance = { a.stance with
      sidePanel := !a.stance.sidePanel
      focus := if a.stance.sidePanel && a.stance.focus == .sources then .log
        else a.stance.focus } := by
    simp [toggleSidePanel, stance]
  refine turns_of_turn ?_
  rw [hstance]
  exact .toggles

/-- The focus goes to the sources only where they are shown, and to results only of a search. -/
theorem cycleFocus_turns (h : a.mode = .normal) : a.Turns a.cycleFocus := by
  have hnext : (a.cycleFocus.focus = .sources → a.sidePanel = true) ∧
      (a.cycleFocus.focus = .results → a.session.search.isActive = true) := by
    simp only [cycleFocus]
    cases hpanel : a.sidePanel <;> cases hactive : a.session.search.isActive <;>
      cases a.focus <;> simp
  exact turns_of_turn (.focuses a.cycleFocus.focus hnext.1 hnext.2 h)

/-! ## Keys and the mouse -/

theorem onMouse_turns (a : App ε) (now : Nat) (mouse : Mouse) : a.Turns (a.onMouse now mouse) := by
  cases mouse with
  | wheelUp => exact a.scrollBy_turns now _
  | wheelDown => exact a.scrollBy_turns now _
  | other => exact .refl a

theorem stepDown_turns (a : App ε) (now : Nat) : a.Turns (a.stepDown now) := by
  unfold stepDown
  split
  · exact a.scrollBy_turns now 1
  · exact a.markNext_turns
  · exact a.navigate_turns now .next

theorem stepUp_turns (a : App ε) (now : Nat) : a.Turns (a.stepUp now) := by
  unfold stepUp
  split
  · exact a.scrollBy_turns now (-1)
  · exact a.markPrevious_turns
  · exact a.navigate_turns now .prev

theorem openMarked_turns [Input ε] (h : a.mode = .normal) (now : Nat) :
    a.Turns (a.openMarked now) := by
  unfold openMarked
  split
  · exact .refl a
  · exact switchToMarked_turns (by simp [h]) now
  · exact a.openActiveResult_turns now

theorem onNormalKey_turns [Input ε] (h : a.mode = .normal) (now : Nat) (key : Key) :
    a.Turns (a.onNormalKey now key) := by
  have hsame : a.Turns a := .refl a
  have hscrolls := a.scrollBy_turns now
  have hrests : a.mode ≠ .searching := by simp [h]
  unfold onNormalKey
  split
  · exact turns_of_eq rfl
  · exact turns_of_eq rfl
  · exact a.toggleSidePanel_turns
  · exact cycleFocus_turns h
  · exact a.stepDown_turns now
  · exact a.stepDown_turns now
  · exact a.stepUp_turns now
  · exact a.stepUp_turns now
  · exact openMarked_turns h now
  · split
    · exact hscrolls _
    · exact hsame
  · split
    · exact hscrolls _
    · exact hsame
  · exact hscrolls _
  · exact hscrolls _
  · exact a.goToTop_turns now
  · exact a.goToTop_turns now
  · exact jumpToLatest_turns hrests now
  · exact jumpToLatest_turns hrests now
  · exact startSearch_turns h
  · exact a.navigate_turns now .next
  · exact a.navigate_turns now .prev
  · split
    · exact (clearSearch_turns (by simp [h]) now).trans (turns_of_eq rfl)
    · exact hsame
  · exact toggleSelection_turns h now
  · exact take_turns (c := .exportLog) a now rfl (by simp)
  · exact turns_of_eq rfl
  · exact turns_of_eq rfl
  · exact hsame

theorem onSearchKey_turns [Input ε] (h : a.mode = .searching) (now : Nat) (key : Key) :
    a.Turns (a.onSearchKey now key) := by
  unfold onSearchKey
  split
  · exact finishSearchInput_turns h now
  · exact clearSearch_turns (by simp [h]) now
  · split
    · exact queryChanged_turns h now _
    · exact turns_of_eq rfl

theorem onSelectingKey_turns (h : a.mode = .selecting) (now : Nat) (clipboard : Clipboard)
    (key : Key) : a.Turns (a.onSelectingKey now clipboard key) := by
  have hrests : a.mode ≠ .searching := by simp [h]
  unfold onSelectingKey
  split
  · exact a.moveSelection_turns now 1
  · exact a.moveSelection_turns now 1
  · exact a.moveSelection_turns now (-1)
  · exact a.moveSelection_turns now (-1)
  · exact copySelection_turns hrests now clipboard
  · exact endSelection_turns hrests now
  · exact endSelection_turns hrests now
  · exact turns_of_eq rfl
  · exact .refl a

/-- **A key takes turns of its mode.** -/
theorem onKey_turns [Input ε] (a : App ε) (now : Nat) (clipboard : Clipboard) (key : Key) :
    a.Turns (a.onKey now clipboard key) := by
  unfold onKey
  split
  · split
    · exact turns_of_eq rfl
    · exact turns_of_eq rfl
    · exact turns_of_eq rfl
    · exact .refl a
  · split
    · exact turns_of_eq rfl
    · split
      · exact onNormalKey_turns ‹_› now key
      · exact onSearchKey_turns ‹_› now key
      · exact onSelectingKey_turns ‹_› now clipboard key

/-! ## Frames -/

theorem logSpans_turns (a : App ε) (active : Option Nat) (n : Nat) :
    a.Turns (a.logSpans active n).2 := by
  obtain ⟨lines, h⟩ := a.logSpans_snd active n
  have hasks := take_turns (c := .segmentsForLine a.view.snapshot n) a 0 rfl (by simp)
  rw [h]
  exact hasks.trans (turns_of_eq rfl)

theorem logLines_turns (gutter : Nat) (active flash : Option Nat) (numbers : List Nat) :
    ∀ a : App ε, a.Turns (a.logLines gutter active flash numbers).2 := by
  induction numbers with
  | nil => intro a; exact .refl a
  | cons n rest ih =>
    intro a
    have hline : a.Turns (a.logLine gutter active flash n).2 := a.logSpans_turns active n
    exact hline.trans (ih _)

theorem drawLog_turns (a : App ε) (now : Nat) (canvas : Screen.Canvas) (area : Screen.Rect) :
    a.Turns (a.drawLog now canvas area).2 := by
  unfold drawLog
  simp only
  generalize (if a.sidePanel = true then area.insideLeft else area) = inner
  split
  · exact .refl a
  · have hresizes (height : Nat) :
        a.Turns (if height = a.pageSize then a else a.setPageSize now height) := by
      split
      · exact .refl a
      · exact a.setPageSize_turns now height
    exact (hresizes _).trans (logLines_turns _ _ _ _ _)

theorem drawQuery_turns [Input ε] (a : App ε) (canvas : Screen.Canvas) (area : Screen.Rect) :
    a.Turns (a.drawQuery canvas area).2 := by
  unfold drawQuery
  simp only
  split
  · exact turns_of_eq rfl
  · exact .refl a

theorem draw_turns [Input ε] (a : App ε) (now width height : Nat) :
    a.Turns (a.draw now width height).2 :=
  (a.drawLog_turns now _ _).trans (drawQuery_turns _ _ _)

end App

/-! ## Every row of acts -/

namespace Stage

variable {ε : Type} [Input ε]

theorem act_turns (st : Stage ε) (act : Act) : st.app.Turns (st.act act).app := by
  cases act with
  | start => exact App.take_turns (c := .start) st.app 0 rfl (by simp)
  | key now clipboard key => exact st.app.onKey_turns now clipboard key
  | mouse now mouse => exact st.app.onMouse_turns now mouse
  | fetched now report => exact st.app.onEvent_turns now (.fetched report)
  | exported now result => exact st.app.onEvent_turns now (.exported result)
  | tick now time => exact st.app.tick_turns now time
  | setPageSize now rows => exact st.app.setPageSize_turns now rows
  | draw now width height => exact st.app.draw_turns now width height
  | afterDraw now => exact App.take_turns (c := .finishFrame) st.app now rfl (by simp)
  | begin i =>
    refine App.turns_of_eq ?_
    simp only [act, withEnsemble, Ensemble.begin, ensemble]
    split <;> rfl
  | advance i =>
    refine App.turns_of_eq ?_
    simp only [act, withEnsemble, Ensemble.advance, ensemble]
    split
    · rfl
    · split <;> rfl
  | deliver now i =>
    simp only [act]
    split
    · exact .refl _
    · exact st.app.onEvent_turns now _

theorem act_orderly {st : Stage ε} (h : st.app.stance.Orderly) (act : Act) :
    (st.act act).app.stance.Orderly :=
  Stance.turns_orderly h (st.act_turns act)

theorem run_orderly (acts : List Act) : ∀ {st : Stage ε}, st.app.stance.Orderly →
    (st.run acts).app.stance.Orderly := by
  induction acts with
  | nil => intro st h; exact h
  | cons act acts ih => intro st h; exact ih (act_orderly h act)

theorem orderly_new (settings : Settings) (source : Source) (rest : List Source) :
    (App.new ε settings (Session.new settings source) (source :: rest)).stance.Orderly where
  selecting := by simp [App.stance, App.new]
  searching := by simp [App.stance, App.new]
  sources := by simp [App.stance, App.new]
  results := by simp [App.stance, App.new]
  pending := by simp [App.stance, App.new, Session.new, Query.Debouncer.isPending]
  marked := Nat.succ_pos _
  current := rfl

variable (ε) in
/-- **Keys find what they act on** after every row of keys, mouse events, fetches, reports, exports,
ticks, page sizes and frames, whatever scans are under way at the start and whatever they report.
The selecting mode is that of a selection, the focus is on the list of sources only while it is
shown and on results only of a search, an edit waits only while the query is typed, the marked
source is one of the list, and the current one is the source of the session. -/
theorem keys_find_what_they_act_on (settings : Settings) (source : Source) (rest : List Source)
    (running : List RunningScan) (finished : List (Scan × ScanReport)) (acts : List Act) :
    let first : Stage ε :=
      ⟨App.new ε settings (Session.new settings source) (source :: rest), running, finished⟩
    let a := (first.run acts).app
    (a.mode = .selecting ↔ a.selection.isSome = true) ∧
    (a.focus = .sources → a.sidePanel = true) ∧
    (a.focus = .results → a.session.search.isActive = true) ∧
    (a.session.query.isPending = true → a.mode = .searching) ∧
    a.marked < a.sources.length ∧
    a.sources[a.current]? = some a.session.source := by
  intro first a
  have h : a.stance.Orderly := run_orderly acts (orderly_new settings source rest)
  exact ⟨h.selecting, h.sources, h.results, h.pending, h.marked, h.current⟩

end Stage

end LogTail
