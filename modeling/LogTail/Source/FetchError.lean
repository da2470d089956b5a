import LogTail.Source.Duration

/-!
# Failed fetches

A failed fetch is passing: it is counted, and the next one may succeed.
-/

namespace LogTail

/-- A program that fetches for us. -/
inductive HelperProgram where
  | docker
  | kubectl
  | ssh
  deriving DecidableEq, Repr, Inhabited

def HelperProgram.name : HelperProgram → String
  | .docker => "docker"
  | .kubectl => "kubectl"
  | .ssh => "ssh"

/-- Why a fetch failed. -/
inductive FetchError where
  /-- A file could not be read. -/
  | io (reason : String)
  /-- The endpoint answered with another status than success. -/
  | http (status : Nat)
  /-- The request itself failed. -/
  | request (reason : String)
  /-- A helper program ended without success. -/
  | command (program : HelperProgram) (status stderr : String)
  /-- A helper program could not be started. -/
  | spawn (program : HelperProgram) (reason : String)
  /-- The fetch took longer than allowed. -/
  | timeout (limit : Duration)
  /-- The source cannot be fetched from. -/
  | invalidSource (reason : String)
  deriving DecidableEq, Repr, Inhabited

def FetchError.message : FetchError → String
  | .io reason => s!"I/O error: {reason}"
  | .http status => s!"endpoint returned HTTP {status}"
  | .request reason => s!"request failed: {reason}"
  | .command program status stderr => s!"{program.name} exited with {status}: {stderr}"
  | .spawn program reason => s!"failed to start {program.name}: {reason}. Is it installed?"
  | .timeout limit => s!"fetch timed out after {limit.text}"
  | .invalidSource reason => s!"invalid source: {reason}"

end LogTail
