import LogTail.Source.Basic

/-!
# Sources on the command line

Each source is one argument or an option with its value:

* `PATH`, not beginning with `--`
* `--docker CONTAINER`
* `--k8s [NAMESPACE/]POD[:CONTAINER]`
* `--ssh HOST:PATH`
* `--http URL[#SELECTOR]`

A value is cut at the first of each mark. `toArgs` writes a source in this form.
-/

namespace LogTail

/-- An option that takes a source. -/
inductive SourceOption where
  | docker
  | k8s
  | ssh
  | http
  deriving DecidableEq, Repr

/-- What is wrong with the arguments. -/
inductive ArgError where
  | missingValue (option : SourceOption)
  | podName (error : PodNameError)
  | notHostAndPath (value : String)
  | unknownOption (arg : String)
  /-- `--log-file` is the last argument. -/
  | missingLogFile
  deriving DecidableEq, Repr

def SourceOption.flag : SourceOption → String
  | .docker => "--docker"
  | .k8s => "--k8s"
  | .ssh => "--ssh"
  | .http => "--http"

def ArgError.message : ArgError → String
  | .missingValue option => s!"{option.flag} requires a value"
  | .podName error => error.message
  | .notHostAndPath value => s!"--ssh expects <host>:<path>, got '{value}'"
  | .unknownOption arg => s!"unknown option '{arg}'"
  | .missingLogFile => "--log-file requires a path"

def SourceOption.ofArg? (arg : String) : Option SourceOption :=
  [docker, k8s, ssh, http].find? fun option => option.flag == arg

namespace Source

/-- The parts of a text before and after the first `mark`. -/
def cut? (mark : Char) : List Char → Option (List Char × List Char)
  | [] => none
  | c :: cs =>
    if c = mark then some ([], cs) else (cut? mark cs).map fun (a, b) => (c :: a, b)

def ofPod (value : String) : Except ArgError Source :=
  let (ns, rest) := match cut? '/' value.toList with
    | some (ns, rest) => (some (String.ofList ns), rest)
    | none => (none, value.toList)
  let (pod, container) := match cut? ':' rest with
    | some (pod, container) => (String.ofList pod, some (String.ofList container))
    | none => (String.ofList rest, none)
  match podNameError? pod with
  | some error => .error (.podName error)
  | none => .ok (.k8s pod ns container)

def ofRemote (value : String) : Except ArgError Source :=
  match cut? ':' value.toList with
  | some (h :: host, p :: path) =>
    .ok (.ssh (String.ofList (h :: host)) (String.ofList (p :: path)))
  | _ => .error (.notHostAndPath value)

/-- The endpoint that a value names; an empty selector is none. -/
def ofEndpoint (value : String) : Source :=
  match cut? '#' value.toList with
  | some (url, []) => .http (String.ofList url) none
  | some (url, selector) => .http (String.ofList url) (some (String.ofList selector))
  | none => .http value none

/-- The source that an option's value names. -/
def ofOption (value : String) : SourceOption → Except ArgError Source
  | .docker => .ok (.docker value)
  | .k8s => ofPod value
  | .ssh => ofRemote value
  | .http => .ok (ofEndpoint value)

/-- The sources that the arguments name, or the first fault. -/
def parseArgs : List String → Except ArgError (List Source)
  | [] => .ok []
  | arg :: rest =>
    match SourceOption.ofArg? arg, rest with
    | some option, [] => .error (.missingValue option)
    | some option, value :: rest => do
      let source ← ofOption value option
      let sources ← parseArgs rest
      return source :: sources
    | none, rest =>
      if arg.startsWith "--" then .error (.unknownOption arg)
      else do
        let sources ← parseArgs rest
        return .file arg :: sources

/-- The arguments that name a source. -/
def toArgs : Source → List String
  | .file path => [path]
  | .http url selector => ["--http", url ++ selector.elim "" ("#" ++ ·)]
  | .docker container => ["--docker", container]
  | .k8s pod ns container =>
    ["--k8s", ns.elim "" (· ++ "/") ++ pod ++ container.elim "" (":" ++ ·)]
  | .ssh host path => ["--ssh", host ++ ":" ++ path]

end Source

/-- Take every `--log-file PATH` out of the arguments; the last one counts. -/
def splitLogFile : List String → Except ArgError (Option String × List String)
  | [] => .ok (none, [])
  | arg :: rest =>
    if arg = "--log-file" then
      match rest with
      | [] => .error .missingLogFile
      | path :: rest => do
        let (later, rest) ← splitLogFile rest
        return (later.orElse fun _ => some path, rest)
    else do
      let (logFile, rest) ← splitLogFile rest
      return (logFile, arg :: rest)

end LogTail
