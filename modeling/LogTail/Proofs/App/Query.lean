import LogTail.Proofs.App.Acts
import LogTail.Proofs.Query.Editor

/-!
# The query that is shown is the one sought

The query is kept in four places: as the text of the input, as the raw and as the committed term of
the debouncer, and as the term of the search. The session keeps the last three in tune by itself
(`Session.Tuned`). That the text is the raw term (`touch_inTune`) is up to the input: it has to be
honest, for an edit that it does not tell of never gets to the session. So the four are one as soon
as no edit waits, and Enter waits for none.
-/

namespace LogTail

open Query (Input)
open Search (LiveSearch RunningScan Scan ScanReport)

namespace Face

/-- The text of the input is the raw term, and the session is in tune. -/
structure InTune (f : Face) : Prop where
  text : f.text = f.session.query.raw
  tuned : Session.Tuned f.session.query f.session.search

variable {honest : Prop} {f g : Face}

/-- A call keeps a face in tune if what it types is put into the input. -/
theorem InTune.called (h : f.InTune) (c : Call) (hsession : g.session = (f.session.call c).1)
    (htext : g.text = (f.session.types? c).getD f.text) : g.InTune := by
  have hseeks := f.session.call_seeks c
  rw [← hsession] at hseeks
  exact ⟨by rw [htext, hseeks.raw, h.text], hseeks.tuned h.tuned⟩

/-- The result that would be opened is one of the matches. -/
theorem InTune.opened?_lt (h : f.InTune) (hshown : f.session.ShownOn f.view) {position : Nat}
    (hopened : f.opened? = some position) : position < f.session.search.index.size := by
  rw [opened?, hshown.results] at hopened
  rcases (Option.orElse_eq_some ..).1 hopened with hactive | ⟨-, hfirst⟩
  · exact h.tuned.points position hactive
  · obtain ⟨card, hcard, rfl⟩ := Option.map_eq_some_iff.1 hfirst
    exact Search.position_lt_of_mem_cards (List.mem_of_mem_head? hcard)

theorem types?_of_plain {s : Session} {c : Call} (h : c.isPlain = true) : s.types? c = none := by
  cases c with
  | fetched | editQuery | clearQuery | openResult => simp [Call.isPlain] at h
  | _ => rfl

theorem types?_openResult {s : Session} {position : Nat}
    (h : position < s.search.index.size) : s.types? (.openResult position) = some "" :=
  if_pos (LiveSearch.select_isSome.2 h)

theorem touch_inTune (hhonest : honest) (h : f.InTune) (hshown : f.session.ShownOn f.view)
    (ht : Touch honest f g) : g.InTune := by
  cases ht with
  | calls c now plain => exact h.called c rfl (by rw [types?_of_plain plain]; rfl)
  | remembers lines => exact ⟨h.text, h.tuned⟩
  | modes mode before after => exact ⟨h.text, h.tuned⟩
  | types text now => exact h.called (.editQuery text now) rfl rfl
  | clears now => exact h.called .clearQuery rfl rfl
  | opens position now offered =>
    refine h.called (.openResult position) rfl ?_
    rw [types?_openResult (h.opened?_lt hshown offered)]
    rfl
  | ends now => exact h.called (.setSelecting false) rfl rfl
  | jumps now unselected => exact h.called .jumpToLatest rfl rfl
  | resizes rows now => exact h.called (.setHeight (max rows 1)) rfl rfl
  | switches source now mode => exact h.called (.switchSource source) rfl rfl
  | drifts text untold => exact absurd hhonest untold

/-- The view mirrors the session meanwhile. -/
theorem touches_inTune (hhonest : honest) (h : f.InTune) {running : List RunningScan}
    {finished : List (Scan × ScanReport)}
    (hinStep : Ensemble.InStep ⟨f.session, running, finished⟩) (hshown : f.session.ShownOn f.view)
    (ht : Relation.ReflTransGen (Touch honest) f g) : g.InTune := by
  have key : (Ensemble.InStep ⟨g.session, running, finished⟩ ∧ g.session.ShownOn g.view) ∧
      g.InTune := by
    induction ht with
    | refl => exact ⟨⟨hinStep, hshown⟩, h⟩
    | tail _ hlast ih =>
      obtain ⟨⟨hinStep, hshown⟩, hinTune⟩ := ih
      exact ⟨Stage.shifts_mirrored hlast.shifts hinStep hshown,
        touch_inTune hhonest hinTune hshown hlast⟩
  exact key.2

end Face

namespace App

variable {ε : Type}

/-- Enter waits for no edit: one that waited is committed at its deadline. -/
theorem finishSearchInput_quiet (a : App ε) (now : Nat) :
    (a.finishSearchInput now).session.query.lastEdit = none := by
  unfold finishSearchInput
  cases hdeadline : a.session.query.deadline? with
  | none =>
    have hquiet : a.session.query.lastEdit = none := Option.map_eq_none_iff.1 hdeadline
    simp only [hdeadline]
    split <;> exact hquiet
  | some deadline =>
    have hquiet : (a.session.tick deadline).1.query.lastEdit = none := by
      rw [Session.tick_query]
      exact Query.Debouncer.poll_deadline hdeadline
    simp only [hdeadline]
    split <;> exact hquiet

theorem finishSearchInput_queryText [Input ε] (a : App ε) (now : Nat) :
    (a.finishSearchInput now).queryText = a.queryText := by
  unfold finishSearchInput
  cases hdeadline : a.session.query.deadline? with
  | none =>
    simp only [hdeadline]
    split <;> rfl
  | some deadline =>
    simp only [hdeadline]
    split <;> rfl

end App

namespace Stage

variable {ε : Type} [Input ε] {st : Stage ε}

theorem inTune_new (settings : Settings) (source : Source) (sources : List Source) :
    (new ε settings source sources).app.face.InTune where
  text := Input.text_empty
  tuned := Session.tuned_new settings source

theorem act_inTune (honest : Input.Honest ε) (h : st.Mirrored) (ht : st.app.face.InTune)
    (act : Act) : (st.act act).app.face.InTune := by
  by_cases hfetch : ∃ now report, act = .fetched now report
  · obtain ⟨now, report, rfl⟩ := hfetch
    exact ht.called (.fetched report) rfl rfl
  · have hacted := act_acted h fun now report hact => hfetch ⟨now, report, hact⟩
    generalize (st.act act).app.face = g at hacted
    cases hacted with
    | touches htouches => exact Face.touches_inTune honest ht h.inStep h.shown htouches
    | selects hselects =>
      cases hselects with
      | begins now unselected => exact ht.called (.setSelecting true) rfl rfl
    | settles now goesOn => exact ht.called .finishFrame rfl rfl
    | works s view seeks viewport => exact ⟨ht.text.trans seeks.raw.symm, seeks.tuned ht.tuned⟩

theorem run_inTune (honest : Input.Honest ε) (settings : Settings) (source : Source)
    (sources : List Source) (acts : List Act) :
    ((new ε settings source sources).run acts).app.face.InTune := by
  have key : ∀ (acts : List Act) {st : Stage ε}, st.Mirrored → st.app.face.InTune →
      (st.run acts).app.face.InTune := by
    intro acts
    induction acts with
    | nil => intro st _ ht; exact ht
    | cons act acts ih => intro st h ht; exact ih (act_mirrored h act) (act_inTune honest h ht act)
  exact key acts (mirrored_new settings source sources) (inTune_new settings source sources)

omit [Input ε] in
/-- Where the raw term is empty, nothing is sought. -/
theorem idle_of_empty (h : st.Mirrored)
    (ht : Session.Tuned st.app.session.query st.app.session.search)
    (hempty : st.app.session.query.raw = "") :
    st.app.session.search.term = "" ∧ st.app.session.search.status = .idle := by
  have hterm := (ht.term_of_quiet (ht.inOrder.empty hempty)).trans hempty
  exact ⟨hterm, h.inStep.tracked.tracks.coherent.status_of_no_term hterm⟩

/-- **The query shown is the query searched**, with any input that is honest, after every row of
keys, mouse events, fetches, reports, ticks and frames. The text of the input is the raw term, the
committed term is that of the search, and both pairs are one where no edit waits; where the text is
empty, nothing is sought. Enter in the input makes the search term the text as it is typed, and
Escape empties both. -/
theorem query_shown_is_sought (honest : Input.Honest ε) (settings : Settings) (source : Source)
    (sources : List Source) (acts : List Act) :
    let a := ((new ε settings source sources).run acts).app
    let s := a.session
    a.queryText = s.query.raw ∧
    s.query.committed = s.search.term ∧
    (s.query.isPending = false → s.query.raw = s.query.committed) ∧
    (a.queryText = "" → s.search.term = "" ∧ s.search.status = .idle) ∧
    ∀ now clipboard key, a.mode = .searching → a.help = false →
      let b := a.onKey now clipboard key
      (key.code = .enter → b.queryText = a.queryText ∧ b.session.search.term = a.queryText) ∧
      (key.code = .escape →
        b.queryText = "" ∧ b.session.search.term = "" ∧ b.session.search.status = .idle) := by
  intro a s
  let st := (new ε settings source sources).run acts
  have h : st.Mirrored := run_mirrored acts (mirrored_new settings source sources)
  have ht : st.app.face.InTune := run_inTune honest settings source sources acts
  refine ⟨ht.text, ht.tuned.committed, fun hquiet => ?_, fun hempty => ?_, ?_⟩
  · exact ht.tuned.inOrder.quiet (Option.isNone_iff_eq_none.1 (Option.isSome_eq_false_iff.1 hquiet))
  · exact idle_of_empty h ht.tuned (ht.text.symm.trans hempty)
  intro now clipboard key hmode hhelp b
  let next := st.act (.key now clipboard key)
  have hnext : next.Mirrored := act_mirrored h _
  have htnext : next.app.face.InTune := act_inTune honest h ht _
  refine ⟨fun hkey => ?_, fun hkey => ?_⟩
  · have hb : b = a.finishSearchInput now := by
      simp [b, App.onKey, App.onSearchKey, hmode, hhelp, hkey]
    have htext : b.queryText = a.queryText := by rw [hb, App.finishSearchInput_queryText]
    have hquiet : b.session.query.lastEdit = none := by rw [hb, App.finishSearchInput_quiet]
    have hraw : b.session.query.raw = a.queryText := htnext.text.symm.trans htext
    exact ⟨htext, (htnext.tuned.term_of_quiet hquiet).trans hraw⟩
  · have hb : b = a.clearSearch now := by
      simp [b, App.onKey, App.onSearchKey, hmode, hhelp, hkey]
    have htext : b.queryText = "" := by
      rw [hb]
      exact Input.text_empty
    exact ⟨htext, idle_of_empty hnext htnext.tuned (htnext.text.symm.trans htext)⟩

/-- The reader begins to type a query. -/
def typedOk : List Act := [KeyCode.char '/', .char 'o', .char 'k'].map fun code =>
  .key 0 (fun _ => .ok ()) { code := code }

/-- The edit waits, and Enter commits it at once. -/
theorem query_shown_is_sought_typedOk :
    let a := ((new Query.Editor {} (.file "app.log") []).run typedOk).app
    Input.Honest Query.Editor ∧ a.mode = .searching ∧ a.help = false ∧ a.queryText = "ok" ∧
    a.session.search.term = "" ∧
    (a.onKey 0 (fun _ => .ok ()) { code := .enter }).session.search.term = "ok" := by
  have hmode : ((new Query.Editor {} (.file "app.log") []).run typedOk).app.mode =
      .searching := by decide +kernel
  have hhelp : ((new Query.Editor {} (.file "app.log") []).run typedOk).app.help = false := by
    decide +kernel
  have htext : ((new Query.Editor {} (.file "app.log") []).run typedOk).app.queryText = "ok" := by
    decide +kernel
  have hwaits : ((new Query.Editor {} (.file "app.log") []).run typedOk).app.session.search.term =
      "" := by decide +kernel
  obtain ⟨-, -, -, -, hkeys⟩ :=
    query_shown_is_sought Query.Editor.honest {} (.file "app.log") [] typedOk
  obtain ⟨henter, -⟩ := hkeys 0 (fun _ => .ok ()) { code := .enter } hmode hhelp
  exact ⟨Query.Editor.honest, hmode, hhelp, htext, hwaits, (henter rfl).2.trans htext⟩

end Stage

end LogTail
