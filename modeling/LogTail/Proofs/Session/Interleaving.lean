import LogTail.Session.Basic

/-!
# A session among its scans

What a session shows depends on when its scans get on and on when it hears of them. An `Ensemble`
is a session with the scans it handed out: those under way, each somewhere between two chunks, and
those finished whose reports wait. A step is a call of the host, the start of a piece of work, a
chunk of one scan, or the delivery of one report; steps come in any order, so any number of scans
is under way and reports are heard late and out of turn.

`run_induction` is how a property of all runs is proved.
-/

namespace LogTail

open Display (Command)
open Log (Buffer Snapshot)
open Search (LiveSearch RunningScan Scan ScanReport)

/-- What a host asks of a session or tells it. Only scans make reports of scans. -/
inductive Call where
  | start
  | switchSource (source : Source)
  | fetched (report : FetchReport)
  | exported (result : Except String ExportedFile)
  | editQuery (raw : String) (now : Nat)
  | tick (now : Nat)
  | clearQuery
  | navigate (direction : Search.Direction)
  | openResult (position : Nat)
  | scrollBy (delta : Int)
  | scrollToTop
  | jumpToLatest
  | finishFrame
  | setHeight (height : Nat)
  | setSelecting (active : Bool)
  | segmentsForLine (snapshot : Snapshot) (line : Nat)
  | exportLog

/-- Take a call. A start or a switch that is refused leaves the session as it was. -/
def Session.call (s : Session) : Call → Session × List Command
  | .start =>
    match s.start with
    | .ok t => (t, [])
    | .error _ => (s, [])
  | .switchSource source =>
    match s.switchSource source with
    | .ok r => r
    | .error _ => (s, [])
  | .fetched report => s.handle (.fetched report)
  | .exported result => s.handle (.exported result)
  | .editQuery raw now => s.editQuery raw now
  | .tick now => s.tick now
  | .clearQuery => s.clearQuery
  | .navigate direction => s.navigate direction
  | .openResult position => s.openResult position
  | .scrollBy delta => s.scrollBy delta
  | .scrollToTop => s.scrollToTop
  | .jumpToLatest => s.jumpToLatest
  | .finishFrame => s.finishFrame
  | .setHeight height => s.setHeight height
  | .setSelecting active => s.setSelecting active
  | .segmentsForLine snapshot line => ((s.segmentsForLine snapshot line).2, [])
  | .exportLog => (s.exportLog, [])

/-- A session, its scans under way, and the reports it has not heard of, each behind its scan. -/
structure Ensemble where
  session : Session
  running : List RunningScan := []
  finished : List (Scan × ScanReport) := []

/-- What happens next. -/
inductive Step where
  | call (call : Call)
  /-- Work that was handed out begins. -/
  | begin (i : Nat)
  /-- A scan under way looks at its next chunk. -/
  | advance (i : Nat)
  /-- The session hears of a finished scan. -/
  | deliver (i : Nat)

/-- The scan that a piece of work is, if it is one. -/
def Work.scan? : Work → Option Search.Scan
  | .scan s => some s
  | .exportLog _ => none

/-- The scans handed out and not yet begun. -/
def Session.scans (s : Session) : List Scan := s.work.filterMap Work.scan?

namespace Ensemble

def new (settings : Settings) (source : Source) : Ensemble := ⟨Session.new settings source, [], []⟩

/-- Begin a piece of work. What comes of an export is told by a call. -/
def begin (e : Ensemble) (i : Nat) : Ensemble :=
  match e.session.work[i]? with
  | none => e
  | some work =>
    { e with
      session := { e.session with work := e.session.work.eraseIdx i }
      running := e.running ++ (work.scan?.map Scan.start).toList }

/-- Look at the next chunk of a scan under way. One that finds its epoch over is gone. -/
def advance (e : Ensemble) (i : Nat) : Ensemble :=
  match e.running[i]? with
  | none => e
  | some running =>
    match running.step e.session.search.epoch e.session.search.epoch with
    | .stale => { e with running := e.running.eraseIdx i }
    | .pending next => { e with running := e.running.set i next }
    | .finished report =>
      { e with
        running := e.running.eraseIdx i
        finished := e.finished ++ [(running.scan, report)] }

/-- Let the session hear of a finished scan. -/
def deliver (e : Ensemble) (i : Nat) : Ensemble × List Command :=
  match e.finished[i]? with
  | none => (e, [])
  | some (_, report) =>
    let (s, cmds) := e.session.handle (.scanned report)
    ({ e with session := s, finished := e.finished.eraseIdx i }, cmds)

/-- Take a step; tells the screen what the session says. -/
def step (e : Ensemble) : Step → Ensemble × List Command
  | .call c =>
    let (s, cmds) := e.session.call c
    ({ e with session := s }, cmds)
  | .begin i => (e.begin i, [])
  | .advance i => (e.advance i, [])
  | .deliver i => e.deliver i

def run (e : Ensemble) (steps : List Step) : Ensemble := steps.foldl (fun e st => (e.step st).1) e

/-- The scans asked for whose reports have not been heard of. -/
def scans (e : Ensemble) : List Scan :=
  e.session.scans ++ e.running.map (·.scan) ++ e.finished.map (·.1)

@[simp] theorem run_nil (e : Ensemble) : e.run [] = e := rfl

@[simp] theorem run_cons (e : Ensemble) (st : Step) (steps : List Step) :
    e.run (st :: steps) = (e.step st).1.run steps := rfl

theorem run_append (e : Ensemble) (before after : List Step) :
    e.run (before ++ after) = (e.run before).run after := List.foldl_append ..

/-- Each of some steps is of a kind, as the ensemble stands when it is taken. -/
def Along (kind : Ensemble → Step → Prop) (e : Ensemble) : List Step → Prop
  | [] => True
  | st :: steps => kind e st ∧ Along kind (e.step st).1 steps

theorem along_append {kind : Ensemble → Step → Prop} (before after : List Step) : ∀ e : Ensemble,
    e.Along kind (before ++ after) ↔ e.Along kind before ∧ (e.run before).Along kind after := by
  induction before with
  | nil => intro e; simp [Along]
  | cons st before ih => intro e; simp only [List.cons_append, Along, run_cons, ih, and_assoc]

/-- What holds of a new ensemble and is kept by every step holds after every run. -/
theorem run_induction {P : Ensemble → Prop} {settings : Settings} {source : Source}
    (h₀ : P (new settings source)) (hstep : ∀ e st, P e → P (e.step st).1) (steps : List Step) :
    P ((new settings source).run steps) := by
  have key : ∀ (steps : List Step) (e : Ensemble), P e → P (e.run steps) := by
    intro steps
    induction steps with
    | nil => intro e h; exact h
    | cons st steps ih => intro e h; exact ih _ (hstep e st h)
  exact key steps _ h₀

end Ensemble

end LogTail
