import LogTail.Source.Basic
import LogTail.Source.SystemError
import LogTail.Text.Blank
import LogTail.Text.Lines
import LogTail.Text.Utf8

/-!
# Fetching

A fetch gives the whole text of a log. Files, helper programs and endpoints belong to the world
outside, which is given as a value; what is asked of it, and what is made of its answers, is
settled here.
-/

namespace LogTail

inductive ExitStatus where
  | exited (code : Nat)
  | killed (signal : Nat)
  deriving DecidableEq, Repr, Inhabited

namespace ExitStatus

def signalNames : List String := [
  "SIGHUP", "SIGINT", "SIGQUIT", "SIGILL", "SIGTRAP", "SIGABRT", "SIGBUS", "SIGFPE", "SIGKILL",
  "SIGUSR1", "SIGSEGV", "SIGUSR2", "SIGPIPE", "SIGALRM", "SIGTERM", "SIGSTKFLT", "SIGCHLD",
  "SIGCONT", "SIGSTOP", "SIGTSTP", "SIGTTIN", "SIGTTOU", "SIGURG", "SIGXCPU", "SIGXFSZ",
  "SIGVTALRM", "SIGPROF", "SIGWINCH", "SIGIO", "SIGPWR", "SIGSYS"]

def success (status : ExitStatus) : Bool := status == .exited 0

def text : ExitStatus → String
  | .exited code => s!"exit status: {code}"
  | .killed signal =>
    match if signal = 0 then none else signalNames[signal - 1]? with
    | some name => s!"signal: {signal} ({name})"
    | none => s!"signal: {signal}"

end ExitStatus

/-- What a program wrote, and how it ended. -/
structure HelperOutput where
  stdout : List UInt8
  stderr : List UInt8
  status : ExitStatus
  deriving DecidableEq, Repr, Inhabited

/-- The world outside. -/
structure World where
  /-- The bytes of a file, or why it cannot be read. -/
  file : String → Except String (List UInt8)
  /-- Run a program with arguments to its end, or tell why it cannot be started. -/
  run : HelperProgram → List String → Except String HelperOutput
  /-- Ask an endpoint, with a selector. -/
  get : String → Option String → Except FetchError String
  /-- Write a text to a file of a directory, which is made if need be, or tell why not. -/
  write : String → String → String → Except String Unit

namespace Source

/-- The program and arguments that fetch a source. A `--` keeps names from being options. -/
def helper? : Source → Option (HelperProgram × List String)
  | .docker container => some (.docker, ["logs", "--", container])
  | .k8s pod ns container =>
    some (.kubectl, ["logs"] ++ ns.elim [] (["-n", ·]) ++ container.elim [] (["-c", ·]) ++
      ["--", pod])
  | .ssh host path =>
    some (.ssh, ["-o", "BatchMode=yes", "-o", "StrictHostKeyChecking=accept-new", "--", host,
      "cat", "--", path])
  | _ => none

/-- The pieces of a byte string between line feeds, each without the line feed and a carriage
return before it. A last piece without a line feed stays as it is, and is none if empty. `cur` is
the current piece, backwards. -/
def outputPieces : List UInt8 → List UInt8 → List (List UInt8)
  | [], [] => []
  | [], b :: cur => [(b :: cur).reverse]
  | b :: bs, cur =>
    if b = 10 then
      (match cur with
        | 13 :: cur => cur.reverse
        | cur => cur.reverse) :: outputPieces bs []
    else outputPieces bs (b :: cur)

/-- The lines that a container wrote, read one by one, each with a line feed. -/
def containerText (bytes : List UInt8) : String :=
  String.join ((outputPieces bytes []).map fun piece => Text.Utf8.decode piece ++ "\n")

/-- What a helper's output amounts to. A container writes its log to both streams; of another
program the log is the standard output, and the other stream tells what went wrong. -/
def ofOutput (program : HelperProgram) (out : HelperOutput) : Except FetchError String :=
  match program with
  | .docker =>
    let text := containerText out.stdout ++ containerText out.stderr
    if out.status.success then .ok text
    else .error (.command program out.status.text ((Text.lines text).back?.getD ""))
  | _ =>
    if out.status.success then .ok (Text.Utf8.decode out.stdout)
    else .error (.command program out.status.text (Text.trim (Text.Utf8.decode out.stderr)))

/-- Run the helper of a source. A character that ends texts in the system cannot be passed. -/
def runHelper (world : World) (program : HelperProgram) (args : List String) :
    Except FetchError String :=
  if args.any fun arg => arg.toList.contains '\x00' then
    .error (.spawn program "nul byte found in provided data")
  else
    match world.run program args with
    | .error reason => .error (.spawn program reason)
    | .ok out => ofOutput program out

def fetch (world : World) (source : Source) : Except FetchError String :=
  match source.fault? with
  | some fault => .error fault
  | none =>
    match source with
    | .file path =>
      match world.file path with
      | .error reason => .error (.io reason)
      | .ok bytes => .ok (Text.Utf8.decode bytes)
    | .http url selector => world.get url selector
    | source =>
      match source.helper? with
      | some (program, args) => runHelper world program args
      | none => .ok ""

end Source

end LogTail
