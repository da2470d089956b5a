import LogTail.App.Draw
import LogTail.App.Input
import LogTail.CommandLine
import LogTail.Query.Draw
import LogTail.Session.Background
import Std.Time

/-!
# The program

Watches logs on any terminal, without taking it over: a line of input is a key or text to type,
and after each line the log is fetched and a frame is written. An empty line only fetches.
-/

namespace LogTail.Main

open Query (Editor)
open Std.Time (PlainDateTime)

def frameSize : Nat × Nat := (100, 30)

def namedKeys : List (String × Key) := [
  ("enter", { code := .enter }),
  ("esc", { code := .escape }),
  ("tab", { code := .tab }),
  ("up", { code := .up }),
  ("down", { code := .down }),
  ("left", { code := .left }),
  ("right", { code := .right }),
  ("home", { code := .home }),
  ("end", { code := .end_ }),
  ("pageup", { code := .pageUp }),
  ("pagedown", { code := .pageDown }),
  ("backspace", { code := .backspace }),
  ("delete", { code := .delete }),
  ("ctrl-c", { code := .char 'c', ctrl := true }),
  ("ctrl-d", { code := .char 'd', ctrl := true }),
  ("ctrl-u", { code := .char 'u', ctrl := true })]

/-- The keys that a line of input stands for: one with a name, or the characters of the line. -/
def keysOf (line : String) : List Key :=
  match namedKeys.lookup line with
  | some key => [key]
  | none => line.toList.map fun c => { code := .char c }

/-- No program is run from here, and no clipboard is at hand. -/
def unavailable : String := "not available on this terminal"

/-- A world of the files that were read, by path. -/
def worldOf (files : List (String × Except String (List UInt8))) : World where
  file path := (files.lookup path).getD (.error unavailable)
  run _ _ := .error unavailable
  get _ _ := .error (.request unavailable)
  write _ _ _ := .ok ()

/-- The bytes of a file, or why it cannot be read. -/
def readFile (path : String) : IO (Except String (List UInt8)) := do
  try
    let bytes ← IO.FS.readBinFile path
    return .ok bytes.toList
  catch fault => return .error (toString fault)

/-- The world as far as the sources need it. -/
def worldFor (sources : List Source) : IO World := do
  let files ← sources.filterMapM fun
    | .file path => return some (path, ← readFile path)
    | _ => return none
  return worldOf files

def stampNow : IO String := do
  let now ← PlainDateTime.now
  return LocalTime.stamp ⟨now.year.toInt.toNat, now.month.toNat, now.day.toNat, now.hour.toNat,
    now.minute.toNat, now.second.toNat⟩

def writeExport : Except String ExportedFile → IO (Except String ExportedFile)
  | .error fault => pure (.error fault)
  | .ok file =>
    try
      IO.FS.createDirAll file.directory
      IO.FS.writeFile file.path file.text
      pure (.ok file)
    catch fault => pure (.error (toString fault))

/-- Do the work that was handed out, fetch the source, and tell the application. -/
def work (a : App Editor) (now : Nat) : IO (App Editor) := do
  let world ← worldFor a.sources
  let (done, session) := ({} : Waiting).settle world (← stampNow) a.session
  let exported ← done.exported.mapM writeExport
  let a := { a with session := session }
  let a := done.scanned.foldl (fun a report => a.onEvent now (.scanned report)) a
  let a := exported.foldl (fun a result => a.onEvent now (.exported result)) a
  return a.onEvent now (.fetched ⟨a.session.seq, a.session.source.fetch world⟩)

def showFrame (a : App Editor) (now : Nat) : IO (App Editor) := do
  let (canvas, a) := a.draw now frameSize.1 frameSize.2
  for row in canvas.rows do
    IO.println (String.join (row.map (·.symbol)))
  return a.afterDraw now

/-- Read keys and write frames until the program is left or the input ends. -/
partial def loop (input : IO.FS.Stream) (a : App Editor) : IO Unit := do
  let now ← IO.monoMsNow
  let a ← work (a.tick now now) now
  let a ← showFrame a now
  let line ← input.getLine
  if line.isEmpty then return
  let keys := keysOf ((line.dropEndWhile fun c => c == '\n' || c == '\r').toString)
  let a := keys.foldl (fun a key => a.onKey now (fun _ => .error unavailable) key) a
  if a.quit then return
  loop input a

/-- The settings from the settings file and the environment. -/
def settings : IO Settings := do
  let config? ← IO.getEnv "XDG_CONFIG_HOME"
  let home? ← IO.getEnv "HOME"
  let directory? := config?.orElse fun _ => home?.map (· ++ "/.config")
  let file ←
    match directory? with
    | none => pure none
    | some directory =>
      match ← readFile (directory ++ "/hound/config.toml") with
      | .ok bytes => pure (some bytes)
      | .error _ => pure none
  let names := ["HOUND_MAX_LINES", "HOUND_POLL_MS", "HOUND_FETCH_TIMEOUT_MS", "HOUND_DEBOUNCE_MS",
    "HOUND_THEME"]
  let env ← names.filterMapM fun name => do
    return (← IO.getEnv name).map fun value => (name, value)
  return Settings.load file fun name => env.lookup name

/-- Watch the sources that the arguments name. -/
def run (args : List String) : IO UInt32 := do
  match Invocation.ofArgs args with
  | .refuse stderr =>
    IO.eprint stderr
    return 1
  | .watch _ first sources =>
    let settings ← settings
    match (Session.new settings first).start with
    | .error fault =>
      IO.eprintln s!"Error: starting {first.name}: {fault.message}"
      return 1
    | .ok session =>
      loop (← IO.getStdin) (App.new Editor settings session sources)
      return 0

end LogTail.Main

def main (args : List String) : IO UInt32 := LogTail.Main.run args
