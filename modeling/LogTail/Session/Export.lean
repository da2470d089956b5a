import LogTail.Log.Snapshot
import LogTail.Source.Fetch

/-!
# Exports

A log is exported by fetching it once more and writing the text to a file, which is named for the
source and the time. When the fetch fails, the retained lines are written instead.
-/

namespace LogTail

/-- A time on the local clock. -/
structure LocalTime where
  year : Nat
  month : Nat
  day : Nat
  hour : Nat
  minute : Nat
  second : Nat
  deriving DecidableEq, Repr, Inhabited

/-- A number with zeros in front, at least so many digits. -/
def padZeros (width n : Nat) : String :=
  let digits := toString n
  String.ofList (List.replicate (width - digits.length) '0') ++ digits

/-- The time in file names: date and time of day, in digits. A year past 9999 has a sign. -/
def LocalTime.stamp (t : LocalTime) : String :=
  let year := if t.year < 10000 then padZeros 4 t.year else s!"+{t.year}"
  year ++ padZeros 2 t.month ++ padZeros 2 t.day ++ "-" ++
    padZeros 2 t.hour ++ padZeros 2 t.minute ++ padZeros 2 t.second

/-- A source's name without what would separate path parts. -/
def safeName (source : String) : String :=
  String.ofList (source.toList.map fun c => if c = '/' ∨ c = '\\' ∨ c = ':' then '_' else c)

/-- The file that a source's log is exported to at the time of the stamp. -/
def exportFileName (source stamp : String) : String := s!"{safeName source}-{stamp}.log"

structure ExportJob where
  source : Source
  /-- Written when the source cannot be fetched from. -/
  fallback : Log.Snapshot
  directory : String
  deriving DecidableEq, Repr, Inhabited

structure ExportedFile where
  directory : String
  name : String
  text : String
  deriving DecidableEq, Repr, Inhabited

def ExportedFile.path (f : ExportedFile) : String :=
  if f.directory.isEmpty || f.directory.endsWith "/" then f.directory ++ f.name
  else f.directory ++ "/" ++ f.name

def ExportJob.text (job : ExportJob) (world : World) : String :=
  match job.source.fetch world with
  | .ok text => text
  | .error _ => job.fallback.text

/-- Carry out an export at the time of the stamp. -/
def ExportJob.run (job : ExportJob) (world : World) (stamp : String) :
    Except String ExportedFile := do
  let file : ExportedFile :=
    ⟨job.directory, exportFileName job.source.name stamp, job.text world⟩
  world.write file.directory file.name file.text
  return file

end LogTail
