import LogTail.Session.Basic
import LogTail.Source.Directory

/-!
# Work in the background

Work that a session handed out is done all at once, in the order in which it was handed out. What
came of it waits, kind by kind, until it is delivered. A scan whose epoch is over gives nothing.
-/

namespace LogTail

open Search (ScanReport)

/-- What came of work and waits to be delivered, the oldest first. -/
structure Waiting where
  fetched : List FetchReport := []
  scanned : List ScanReport := []
  exported : List (Except String ExportedFile) := []
  /-- The directories that exports went to. -/
  made : List String := []

namespace Waiting

/-- Do a piece of work while the search is in this epoch. -/
def perform (w : Waiting) (world : World) (stamp : String) (epoch : Nat) : Work → Waiting
  | .scan scan => { w with scanned := w.scanned ++ (scan.start.run epoch).2.toList }
  | .exportLog job =>
    { w with exported := w.exported ++ [job.run world stamp], made := job.directory :: w.made }

/-- Do all work that is handed out. -/
def settle (w : Waiting) (world : World) (stamp : String) (s : Session) : Waiting × Session :=
  (s.work.foldl (fun w work => w.perform world stamp s.search.epoch work) w,
    { s with work := [] })

/-- The world of a directory, with the directories that exports made. -/
def world (w : Waiting) (dir : Directory) : World := (w.made.foldl Directory.make dir).world

/-- The first fetch of the poller, if it is still to come. -/
def poll (w : Waiting) (world : World) (s : Session) : Waiting × Session :=
  match s.poller with
  | none => (w, s)
  | some poller =>
    if poller.fetched then (w, s)
    else
      ({ w with fetched := w.fetched ++ [⟨poller.seq, poller.source.fetch world⟩] },
        { s with poller := some { poller with fetched := true } })

def takeFetched? (w : Waiting) : Option (FetchReport × Waiting) :=
  match w.fetched with
  | [] => none
  | report :: rest => some (report, { w with fetched := rest })

def takeScanned? (w : Waiting) : Option (ScanReport × Waiting) :=
  match w.scanned with
  | [] => none
  | report :: rest => some (report, { w with scanned := rest })

def takeExported? (w : Waiting) : Option (Except String ExportedFile × Waiting) :=
  match w.exported with
  | [] => none
  | result :: rest => some (result, { w with exported := rest })

end Waiting

end LogTail
