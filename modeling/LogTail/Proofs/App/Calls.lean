import LogTail.App.Draw
import LogTail.App.Input
import LogTail.Proofs.Session.Interleaving
import LogTail.Proofs.Viewport.Screen
import Mathlib.Logic.Relation

/-!
# What keys, the mouse and frames come down to

The application changes its session through calls alone, and its view by carrying out what they
say; besides, the view remembers how lines are shown. What holds of the session and the view after
every call therefore holds after every key and every frame (`Leads`).

Some things are kept on both sides. The query is in the input and, as the raw term, in the session;
a selection is held by the application and noted by the viewport; so are the rows of the log view. A
`Face` is the session and the view with the application's side of all this, and `Touch` lists what
can become of it. The input is any input; one that is not honest can hold another text than it says
(`Touch.drifts`). There is a lemma for every operation, up to `onKey_touches`, `onMouse_touches` and
`draw_touches`.
-/

namespace LogTail

open Display (Command View LogLine)
open Query (Input)

/-- One thing that can become of a session and the view it is shown in. -/
inductive Shift : Session × View → Session × View → Prop where
  /-- A call, and the view carries out what is said. -/
  | calls (s : Session) (view : View) (c : Call) (now : Nat) :
      Shift (s, view) ((s.call c).1, view.carryOut now (s.call c).2)
  /-- The view remembers lines in another way. -/
  | remembers (s : Session) (view : View) (lines : Std.HashMap Nat LogLine) :
      Shift (s, view) (s, { view with lines := lines })

/-- The session, its view, and what of the application has a counterpart in the session. -/
structure Face where
  session : Session
  view : View
  /-- The query that is typed. -/
  text : String
  mode : Mode
  /-- Whether lines are selected. -/
  selected : Bool
  /-- The rows of the log view. -/
  pageSize : Nat

/-- Whether a call types, selects and resizes nothing, and takes away no text that is shown. -/
def Call.isPlain : Call → Bool
  | .start | .exported _ | .tick _ | .navigate _ | .scrollBy _ | .scrollToTop | .segmentsForLine ..
  | .exportLog => true
  | _ => false

namespace Face

/-- A call, and the view carries out what is said. -/
def call (f : Face) (c : Call) (now : Nat) : Face :=
  { f with
    session := (f.session.call c).1
    view := f.view.carryOut now (f.session.call c).2 }

/-- The result that would be opened, by its position among the matches. -/
def opened? (f : Face) : Option Nat :=
  f.view.results.active.orElse fun _ => f.view.results.cards.head?.map (·.position)

/-- What can become of a face. An input that is not honest may have its text changed and not tell of
it. -/
inductive Touch (honest : Prop) (f : Face) : Face → Prop where
  | calls (c : Call) (now : Nat) (plain : c.isPlain = true) : Touch honest f (f.call c now)
  | remembers (lines : Std.HashMap Nat LogLine) :
      Touch honest f { f with view := { f.view with lines := lines } }
  | modes (mode : Mode) (before : f.mode ≠ .selecting) (after : mode ≠ .selecting) :
      Touch honest f { f with mode := mode }
  | types (text : String) (now : Nat) :
      Touch honest f { f.call (.editQuery text now) now with text := text }
  | clears (now : Nat) : Touch honest f { f.call .clearQuery now with text := "" }
  | opens (position now : Nat) (offered : f.opened? = some position) :
      Touch honest f { f.call (.openResult position) now with text := "" }
  /-- A selection ends. -/
  | ends (now : Nat) :
      Touch honest f { f.call (.setSelecting false) now with selected := false, mode := .normal }
  | jumps (now : Nat) (unselected : f.selected = false) : Touch honest f (f.call .jumpToLatest now)
  | resizes (rows now : Nat) :
      Touch honest f { f.call (.setHeight (max rows 1)) now with pageSize := max rows 1 }
  | switches (source : Source) (now : Nat) (mode : f.mode ≠ .selecting) :
      Touch honest f { f.call (.switchSource source) now with selected := false, mode := .normal }
  | drifts (text : String) (untold : ¬ honest) : Touch honest f { f with text := text }

/-- A selection begins. -/
inductive Selects (f : Face) : Face → Prop where
  | begins (now : Nat) (unselected : f.selected = false) :
      Selects f { f.call (.setSelecting true) now with selected := true, mode := .selecting }

/-- Of the session and the view alone, touches are calls. -/
theorem Touch.shifts {honest : Prop} {f g : Face} (h : Touch honest f g) :
    Relation.ReflTransGen Shift (f.session, f.view) (g.session, g.view) := by
  have hcalls (c : Call) (now : Nat) : Relation.ReflTransGen Shift (f.session, f.view)
      ((f.call c now).session, (f.call c now).view) := .single (.calls f.session f.view c now)
  cases h with
  | calls c now plain => exact hcalls c now
  | remembers lines => exact .single (.remembers f.session f.view lines)
  | modes mode before after => exact .refl
  | types text now => exact hcalls (.editQuery text now) now
  | clears now => exact hcalls .clearQuery now
  | opens position now offered => exact hcalls (.openResult position) now
  | ends now => exact hcalls (.setSelecting false) now
  | jumps now unselected => exact hcalls .jumpToLatest now
  | resizes rows now => exact hcalls (.setHeight (max rows 1)) now
  | switches source now mode => exact hcalls (.switchSource source) now
  | drifts text untold => exact .refl

end Face

namespace App

open Face (Touch Selects)

variable {ε : Type} {a b c : App ε}

/-- From one state of the application another is reached by calls. -/
def Leads (a b : App ε) : Prop :=
  Relation.ReflTransGen Shift (a.session, a.view) (b.session, b.view)

theorem take_leads (a : App ε) (call : Call) (now : Nat) :
    a.Leads (a.take now (a.session.call call)) :=
  .single (.calls a.session a.view call now)

theorem endSelection_selection (a : App ε) (now : Nat) :
    (a.endSelection now).selection = none := by
  unfold endSelection
  split
  · assumption
  · rfl

variable [Input ε]

def face (a : App ε) : Face :=
  ⟨a.session, a.view, a.queryText, a.mode, a.selection.isSome, a.pageSize⟩

/-- From one state of the application another is reached by touches. -/
def Touches (a b : App ε) : Prop :=
  Relation.ReflTransGen (Touch (Input.Honest ε)) a.face b.face

theorem Touches.leads (h : a.Touches b) : a.Leads b := by
  have key : ∀ f : Face, Relation.ReflTransGen (Touch (Input.Honest ε)) a.face f →
      Relation.ReflTransGen Shift (a.session, a.view) (f.session, f.view) := by
    intro f hf
    induction hf with
    | refl => exact .refl
    | tail _ hlast ih => exact ih.trans hlast.shifts
  exact key b.face h

theorem leads_of_selects (h : Selects a.face b.face) : a.Leads b := by
  have key : ∀ f : Face, Selects a.face f →
      Relation.ReflTransGen Shift (a.session, a.view) (f.session, f.view) := by
    intro f hf
    cases hf with
    | begins now unselected => exact .single (.calls a.session a.view (.setSelecting true) now)
  exact key b.face h

theorem Touches.refl (a : App ε) : a.Touches a := Relation.ReflTransGen.refl

theorem Touches.trans (h₁ : a.Touches b) (h₂ : b.Touches c) : a.Touches c :=
  Relation.ReflTransGen.trans h₁ h₂

/-- The rest of the application is no matter. -/
theorem touches_of_eq (h : b.face = a.face) : a.Touches b := by
  rw [Touches, h]

theorem touches_of_touch (h : Touch (Input.Honest ε) a.face b.face) : a.Touches b :=
  Relation.ReflTransGen.single h

/-- Another input with the same text is no matter. -/
theorem touches_of_text {input : ε} (h : Input.text input = a.queryText) :
    a.Touches { a with input := input } := by
  refine touches_of_eq ?_
  rw [face, face, queryText, h]

theorem touches_of_emptied (h : Touch (Input.Honest ε) a.face { b.face with text := "" }) :
    a.Touches { b with input := Input.empty } := by
  refine touches_of_touch ?_
  have hface : ({ b with input := Input.empty } : App ε).face = { b.face with text := "" } := by
    simp [face, queryText]
  rwa [hface]

theorem take_touches {c : Call} (plain : c.isPlain = true) (a : App ε) (now : Nat) :
    a.Touches (a.take now (a.session.call c)) :=
  touches_of_touch (.calls c now plain)

/-! ## The reader -/

theorem tick_touches (a : App ε) (now time : Nat) : a.Touches (a.tick now time) :=
  take_touches (c := .tick time) rfl a now

theorem setPageSize_touches (a : App ε) (now rows : Nat) : a.Touches (a.setPageSize now rows) :=
  touches_of_touch (.resizes rows now)

theorem scrollBy_touches (a : App ε) (now : Nat) (delta : Int) : a.Touches (a.scrollBy now delta) :=
  take_touches (c := .scrollBy delta) rfl a now

theorem goToTop_touches (a : App ε) (now : Nat) : a.Touches (a.goToTop now) :=
  take_touches (c := .scrollToTop) rfl a now

theorem endSelection_touches (a : App ε) (now : Nat) : a.Touches (a.endSelection now) := by
  unfold endSelection
  split
  · exact .refl a
  · exact touches_of_touch (.ends now)

theorem toggleSelection_touches (a : App ε) (now : Nat) :
    a.Touches (a.toggleSelection now) ∨ Selects a.face (a.toggleSelection now).face := by
  unfold toggleSelection
  split
  · exact Or.inl (a.endSelection_touches now)
  · rename_i hnone
    simp only
    split
    · exact Or.inl (.refl a)
    · exact Or.inr (.begins now (congrArg Option.isSome hnone))

theorem moveSelection_touches (a : App ε) (now : Nat) (delta : Int) :
    a.Touches (a.moveSelection now delta) := by
  unfold moveSelection
  split
  · exact .refl a
  · rename_i selection hsome
    split
    · exact .refl a
    · -- The free end is moved, and lines are selected still.
      have hmoves (moved : Selection) : a.Touches { a with selection := some moved } := by
        refine touches_of_eq ?_
        simp [face, hsome, queryText]
      simp only
      split
      · exact (hmoves _).trans (scrollBy_touches { a with selection := some _ } now _)
      · split
        · exact (hmoves _).trans (scrollBy_touches { a with selection := some _ } now _)
        · exact hmoves _

theorem copySelection_touches (a : App ε) (now : Nat) (clipboard : Clipboard) :
    a.Touches (a.copySelection now clipboard) := by
  unfold copySelection
  split
  · exact .refl a
  · exact endSelection_touches (a.say _) now

theorem jumpToLatest_touches (a : App ε) (now : Nat) : a.Touches (a.jumpToLatest now) :=
  (a.endSelection_touches now).trans
    (touches_of_touch (.jumps now (congrArg Option.isSome (a.endSelection_selection now))))

/-! ## The query -/

theorem queryChanged_touches (a : App ε) (now : Nat) (input : ε) :
    a.Touches ({ a with input := input }.queryChanged now) :=
  touches_of_touch (.types (Input.text input) now)

theorem finishSearchInput_touches (h : a.mode ≠ .selecting) (now : Nat) :
    a.Touches (a.finishSearchInput now) := by
  have hleaves : a.Touches { a with mode := .normal } :=
    touches_of_touch (.modes .normal h (by simp))
  unfold finishSearchInput
  cases hdeadline : a.session.query.deadline? with
  | none =>
    simp only [hdeadline]
    split
    · exact hleaves
    · exact hleaves
  | some deadline =>
    have hcommits := hleaves.trans (tick_touches { a with mode := .normal } now deadline)
    simp only [hdeadline]
    split
    · exact hcommits
    · exact hcommits

theorem clearSearch_touches (h : a.mode ≠ .selecting) (now : Nat) :
    a.Touches (a.clearSearch now) := by
  have hclears : a.Touches ({ a with input := Input.empty }.take now a.session.clearQuery) :=
    touches_of_emptied (b := a.take now a.session.clearQuery) (.clears now)
  exact hclears.trans (touches_of_touch (.modes .normal h (by simp)))

theorem navigate_touches (a : App ε) (now : Nat) (direction : Search.Direction) :
    a.Touches (a.navigate now direction) := by
  unfold navigate
  split
  · exact take_touches (c := .navigate direction) rfl a now
  · exact touches_of_eq rfl

theorem openActiveResult_touches (a : App ε) (now : Nat) : a.Touches (a.openActiveResult now) := by
  unfold openActiveResult
  split
  · exact .refl a
  · rename_i position hposition
    have hopens : a.Touches { a.take now (a.session.openResult position) with
        input := Input.empty, focus := .log } :=
      touches_of_emptied (b := { a.take now (a.session.openResult position) with focus := .log })
        (.opens position now hposition)
    simp only
    split
    · exact hopens
    · exact hopens

/-! ## Sources and display -/

theorem switchToMarked_touches (h : a.mode ≠ .selecting) (now : Nat) :
    a.Touches (a.switchToMarked now) := by
  unfold switchToMarked
  split
  · exact .refl a
  · split
    · exact .refl a
    · rename_i source _
      have hswitches : Touch (Input.Honest ε) a.face { a.face.call (.switchSource source) now with
          selected := false, mode := .normal } := .switches source now h
      simp only
      split
      · rename_i r hr
        have hcall : a.face.session.call (.switchSource source) = r := by
          simp only [Session.call, face, hr]
        rw [Face.call, hcall] at hswitches
        exact touches_of_touch hswitches
      · rename_i fault hr
        have hcall : a.face.session.call (.switchSource source) = (a.session, []) := by
          simp only [Session.call, face, hr]
        rw [Face.call, hcall] at hswitches
        exact touches_of_touch hswitches

theorem exportLog_touches (a : App ε) : a.Touches a.exportLog :=
  touches_of_touch (.calls .exportLog 0 rfl)

theorem toggleLevelColors_touches (a : App ε) : a.Touches a.toggleLevelColors :=
  touches_of_touch (.remembers _)

theorem markNext_touches (a : App ε) : a.Touches a.markNext := by
  unfold markNext
  split
  · exact touches_of_eq rfl
  · exact .refl a

/-! ## Keys and the mouse -/

theorem onMouse_touches (a : App ε) (now : Nat) (mouse : Mouse) :
    a.Touches (a.onMouse now mouse) := by
  cases mouse with
  | wheelUp => exact a.scrollBy_touches now _
  | wheelDown => exact a.scrollBy_touches now _
  | other => exact .refl a

theorem stepDown_touches (a : App ε) (now : Nat) : a.Touches (a.stepDown now) := by
  unfold stepDown
  split
  · exact a.scrollBy_touches now 1
  · exact a.markNext_touches
  · exact a.navigate_touches now .next

theorem stepUp_touches (a : App ε) (now : Nat) : a.Touches (a.stepUp now) := by
  unfold stepUp
  split
  · exact a.scrollBy_touches now (-1)
  · exact touches_of_eq rfl
  · exact a.navigate_touches now .prev

theorem openMarked_touches (hmode : a.mode ≠ .selecting) (now : Nat) :
    a.Touches (a.openMarked now) := by
  unfold openMarked
  split
  · exact .refl a
  · exact switchToMarked_touches hmode now
  · exact a.openActiveResult_touches now

theorem onNormalKey_touches (hmode : a.mode ≠ .selecting) (now : Nat)
    {key : Key} (hkey : key.code ≠ .char 'v') : a.Touches (a.onNormalKey now key) := by
  have hsame : a.Touches a := .refl a
  have hscrolls := a.scrollBy_touches now
  unfold onNormalKey
  split
  · exact touches_of_eq rfl
  · exact touches_of_eq rfl
  · exact touches_of_eq rfl
  · exact touches_of_eq rfl
  · exact a.stepDown_touches now
  · exact a.stepDown_touches now
  · exact a.stepUp_touches now
  · exact a.stepUp_touches now
  · exact openMarked_touches hmode now
  · split
    · exact hscrolls _
    · exact hsame
  · split
    · exact hscrolls _
    · exact hsame
  · exact hscrolls _
  · exact hscrolls _
  · exact a.goToTop_touches now
  · exact a.goToTop_touches now
  · exact a.jumpToLatest_touches now
  · exact a.jumpToLatest_touches now
  · exact touches_of_touch (.modes .searching hmode (by simp))
  · exact a.navigate_touches now .next
  · exact a.navigate_touches now .prev
  · split
    · exact (clearSearch_touches hmode now).trans (touches_of_eq rfl)
    · exact hsame
  · exact absurd ‹_› hkey
  · exact a.exportLog_touches
  · exact touches_of_eq rfl
  · exact a.toggleLevelColors_touches
  · exact hsame

theorem onSearchKey_touches (hmode : a.mode ≠ .selecting) (now : Nat) (key : Key) :
    a.Touches (a.onSearchKey now key) := by
  unfold onSearchKey
  split
  · exact finishSearchInput_touches hmode now
  · exact clearSearch_touches hmode now
  · split
    · exact a.queryChanged_touches now _
    · rename_i input hkept
      by_cases htext : Input.text input = a.queryText
      · exact touches_of_text htext
      · refine touches_of_touch (.drifts (Input.text input) fun honest => htext ?_)
        have hpress := honest.text_press (congrArg Prod.fst hkept)
        rwa [hkept] at hpress

theorem onSelectingKey_touches (a : App ε) (now : Nat) (clipboard : Clipboard) (key : Key) :
    a.Touches (a.onSelectingKey now clipboard key) := by
  unfold onSelectingKey
  split
  · exact a.moveSelection_touches now 1
  · exact a.moveSelection_touches now 1
  · exact a.moveSelection_touches now (-1)
  · exact a.moveSelection_touches now (-1)
  · exact a.copySelection_touches now clipboard
  · exact a.endSelection_touches now
  · exact a.endSelection_touches now
  · exact touches_of_eq rfl
  · exact .refl a

theorem onKey_touches (a : App ε) (now : Nat) (clipboard : Clipboard) (key : Key) :
    a.Touches (a.onKey now clipboard key) ∨ Selects a.face (a.onKey now clipboard key).face := by
  unfold onKey
  split
  · refine Or.inl ?_
    split
    · exact touches_of_eq rfl
    · exact touches_of_eq rfl
    · exact touches_of_eq rfl
    · exact .refl a
  · split
    · exact Or.inl (touches_of_eq rfl)
    · split
      · rename_i hmode
        by_cases hkey : key.code = .char 'v'
        · simp only [onNormalKey, hkey]
          exact a.toggleSelection_touches now
        · exact Or.inl (onNormalKey_touches (by simp [hmode]) now hkey)
      · rename_i hmode
        exact Or.inl (onSearchKey_touches (by simp [hmode]) now key)
      · exact Or.inl (a.onSelectingKey_touches now clipboard key)

/-! ## Frames -/

theorem remember_snd (view : View) (n : Nat) :
    ∃ lines, (view.remember n).2 = { view with lines := lines } := by
  unfold View.remember
  split
  · exact ⟨view.lines, rfl⟩
  · exact ⟨_, rfl⟩

/-- A line that is shown is remembered, and nothing else of the view changes. -/
theorem showLine_snd (view : View) (n : Nat) (theme : Theme) (levelColors : Bool) :
    ∃ lines, (view.showLine n theme levelColors).2 = { view with lines := lines } := by
  obtain ⟨lines, hremember⟩ := remember_snd view n
  unfold View.showLine
  split
  · rename_i h
    rw [h] at hremember
    exact ⟨lines, hremember⟩
  · rename_i remembered h
    rw [h] at hremember
    change remembered = _ at hremember
    subst hremember
    exact ⟨_, rfl⟩

omit [Input ε] in
/-- A line of the log is asked for its segments, and remembered. -/
theorem logSpans_snd (a : App ε) (active : Option Nat) (n : Nat) : ∃ lines,
    (a.logSpans active n).2 = { a with
      session := (a.session.call (.segmentsForLine a.view.snapshot n)).1
      view := { a.view with lines := lines } } := by
  unfold logSpans
  split
  · rename_i segments session h
    refine ⟨a.view.lines, ?_⟩
    simp only [Session.call, h]
  · rename_i session h
    obtain ⟨lines, hview⟩ := showLine_snd a.view n a.theme a.levelColors
    refine ⟨lines, ?_⟩
    simp only [Session.call, h, hview]

theorem logSpans_touches (a : App ε) (active : Option Nat) (n : Nat) :
    a.Touches (a.logSpans active n).2 := by
  obtain ⟨lines, h⟩ := a.logSpans_snd active n
  have hasks := take_touches (c := .segmentsForLine a.view.snapshot n) rfl a 0
  rw [h]
  exact hasks.trans (touches_of_touch (.remembers lines))

theorem logLines_touches (gutter : Nat) (active flash : Option Nat) (numbers : List Nat) :
    ∀ a : App ε, a.Touches (a.logLines gutter active flash numbers).2 := by
  induction numbers with
  | nil => intro a; exact .refl a
  | cons n rest ih =>
    intro a
    have hline : a.Touches (a.logLine gutter active flash n).2 := a.logSpans_touches active n
    exact hline.trans (ih _)

theorem drawLog_touches (a : App ε) (now : Nat) (canvas : Screen.Canvas) (area : Screen.Rect) :
    a.Touches (a.drawLog now canvas area).2 := by
  unfold drawLog
  simp only
  generalize (if a.sidePanel = true then area.insideLeft else area) = inner
  split
  · exact .refl a
  · have hresizes (height : Nat) :
        a.Touches (if height = a.pageSize then a else a.setPageSize now height) := by
      split
      · exact .refl a
      · exact a.setPageSize_touches now height
    exact (hresizes _).trans (logLines_touches _ _ _ _ _)

theorem drawQuery_touches (a : App ε) (canvas : Screen.Canvas) (area : Screen.Rect) :
    a.Touches (a.drawQuery canvas area).2 := by
  unfold drawQuery
  simp only
  split
  · exact touches_of_text (Input.text_draw ..)
  · exact .refl a

theorem draw_touches (a : App ε) (now width height : Nat) : a.Touches (a.draw now width height).2 :=
  (a.drawLog_touches now _ _).trans (drawQuery_touches _ _ _)

end App

end LogTail
