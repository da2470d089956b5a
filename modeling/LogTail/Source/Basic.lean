import LogTail.Source.FetchError

/-!
# Log sources

Where the text of a log comes from, and the name that a source goes by.
-/

namespace LogTail

/-- Where a log comes from. -/
inductive Source where
  /-- A local file. -/
  | file (path : String)
  /-- An endpoint; the selector picks one of its logs. -/
  | http (url : String) (selector : Option String)
  /-- A Docker container. -/
  | docker (container : String)
  /-- A Kubernetes pod. -/
  | k8s (pod : String) (namespace_ container : Option String)
  /-- A file on another host. -/
  | ssh (host path : String)
  deriving DecidableEq, Repr, Inhabited

inductive PodNameError where
  | empty
  /-- The name would be taken for an option. -/
  | leadingDash
  deriving DecidableEq, Repr

def PodNameError.message : PodNameError → String
  | .empty => "Pod name cannot be empty"
  | .leadingDash => "Invalid pod name: cannot start with '-'"

/-- What is wrong with a pod's name, if anything is. -/
def podNameError? (name : String) : Option PodNameError :=
  match name.toList with
  | [] => some .empty
  | '-' :: _ => some .leadingDash
  | _ => none

namespace Source

def pathParts (path : String) : List (List Char) :=
  path.toList.foldr (fun c parts =>
    match c, parts with
    | '/', parts => [] :: parts
    | c, part :: parts => (c :: part) :: parts
    | c, [] => [[c]]) [[]]

/-- The last part of a path that names something: empty parts and `.` at the end do not count,
and `..` names nothing. -/
def fileName? (path : String) : Option String :=
  match (pathParts path).reverse.dropWhile fun part => part == [] || part == ['.'] with
  | [] => none
  | part :: _ => if part == ['.', '.'] then none else some (String.ofList part)

/-- What the source is called on the screen. -/
def name : Source → String
  | .file path => (fileName? path).getD path
  | .http _ (some selector) => s!"http:{selector}"
  | .http url none => s!"http:{url}"
  | .docker container => s!"docker:{container}"
  | .k8s pod (some ns) (some container) => s!"k8s:{ns}/{pod}/{container}"
  | .k8s pod (some ns) none => s!"k8s:{ns}/{pod}"
  | .k8s pod none (some container) => s!"k8s:{pod}/{container}"
  | .k8s pod none none => s!"k8s:{pod}"
  | .ssh host path => s!"ssh:{host}:{path}"

/-- Why nothing can be fetched from the source, if so. -/
def fault? : Source → Option FetchError
  | .k8s pod _ _ => (podNameError? pod).map fun e => .invalidSource e.message
  | _ => none

end Source

end LogTail
