import LogTail.Source.Args

/-!
# The command line

What the program does with its arguments: it tells how it is used, tells what is wrong with them,
or watches the sources they name.
-/

namespace LogTail

def usage : String := "\n".intercalate [
  "Usage: hound [--log-file <path>] <source>...",
  "",
  "Sources:",
  "  <path>                          Poll a local file",
  "  --docker <container>            Poll `docker logs`",
  "  --k8s [namespace/]pod[:container]",
  "                                  Poll `kubectl logs`",
  "  --ssh <host>:<path>             Poll a remote file over SSH",
  "  --http <url>[#selector]         Poll an HTTP endpoint (optional ?source= selector)"]

/-- What the arguments ask for. -/
inductive Invocation where
  /-- End at once with code 1 and this text on the error stream. -/
  | refuse (stderr : String)
  /-- Watch these sources, the first one first. -/
  | watch (logFile : Option String) (first : Source) (sources : List Source)
  deriving Repr

def Invocation.ofArgs (args : List String) : Invocation :=
  match splitLogFile args with
  | .error e => .refuse s!"Error: {e.message}\n"
  | .ok (logFile, rest) =>
    if rest.isEmpty || rest.any fun arg => arg == "-h" || arg == "--help" then
      .refuse (usage ++ "\n")
    else
      match Source.parseArgs rest with
      | .error e => .refuse s!"Error: {e.message}\n"
      | .ok [] => .refuse "Error: no log source given\n"
      | .ok (first :: sources) => .watch logFile first (first :: sources)

end LogTail
