import LogTail.Source.Fetch

/-!
# A world of files

A world that is one directory of files and of directories that hold nothing: helper programs are
missing, and no endpoint can be asked.
-/

namespace LogTail

/-- What a name in the directory stands for. -/
inductive DirectoryEntry where
  | file (bytes : List UInt8)
  | directory
  deriving DecidableEq, Repr, Inhabited

abbrev Directory := List (String × DirectoryEntry)

namespace Directory

def maxNameBytes : Nat := 255

def maxPathBytes : Nat := 4095

/-- The text of the error when a path has a character that ends texts in the system. -/
def nulFault : String := "file name contained an unexpected NUL byte"

/-- Where a path has led so far. -/
inductive Place where
  /-- The directory. -/
  | here
  /-- A directory in the directory, which holds nothing. -/
  | within
  /-- A file in the directory. -/
  | file (bytes : List UInt8)
  /-- A directory that holds the directory, and nothing else that could be told. -/
  | outside
  deriving DecidableEq, Repr

def follow (dir : Directory) (place : Place) (part : String) : Except SystemError Place :=
  match place with
  | .file _ => .error .notDirectory
  | place =>
    if part = "." then .ok place
    else if part = ".." then .ok (if place = .within then .here else .outside)
    else if maxNameBytes < part.utf8ByteSize then .error .nameTooLong
    else
      match if place = .here then dir.lookup part else none with
      | some (.file bytes) => .ok (.file bytes)
      | some .directory => .ok .within
      | none => .error .notFound

/-- The bytes of the file that a path leads to from a place. -/
def readFrom (dir : Directory) (place : Place) (path : String) :
    Except SystemError (List UInt8) := do
  if maxPathBytes < path.utf8ByteSize then throw .nameTooLong
  let parts := ((Source.pathParts path).filter (· ≠ [])).map String.ofList
  match ← parts.foldlM dir.follow place with
  | .file bytes => if path.endsWith "/" then throw .notDirectory else return bytes
  | _ => throw .isDirectory

/-- The bytes of the file that a path leads to from the directory, or why there are none. A path
from the root starts outside. -/
def read (dir : Directory) (path : String) : Except String (List UInt8) :=
  if path.toList.contains '\x00' then .error nulFault
  else
    let place := if path.startsWith "/" then .outside else .here
    (dir.readFrom place path).mapError SystemError.text

/-- The name in the directory that the path of a directory ends in. -/
def nameOf (directory : String) : String := (Source.fileName? directory).getD directory

/-- Write a file under a directory of this one. A file of that name is in the way. -/
def write (dir : Directory) (directory name : String) : Except String Unit :=
  match dir.lookup (nameOf directory) with
  | some (.file _) => .error SystemError.exists_.text
  | _ =>
    if name.toList.contains '\x00' then .error nulFault
    else if maxNameBytes < name.utf8ByteSize then .error SystemError.nameTooLong.text
    else .ok ()

/-- Make a directory in this one, unless the name is there. -/
def make (dir : Directory) (directory : String) : Directory :=
  let name := nameOf directory
  if (dir.lookup name).isSome then dir else (name, .directory) :: dir

def world (dir : Directory) : World where
  file := dir.read
  run _ _ := .error SystemError.notFound.text
  get _ _ := .error (.request "the endpoint cannot be asked")
  write directory name _ := dir.write directory name

/-! ## Small laws -/

/-- Nothing lies below a file. -/
@[simp] theorem follow_file (dir : Directory) (bytes : List UInt8) (part : String) :
    dir.follow (.file bytes) part = .error .notDirectory := rfl

/-- A directory that was made has its name. -/
theorem lookup_make_isSome (dir : Directory) (directory : String) :
    ((dir.make directory).lookup (nameOf directory)).isSome := by
  unfold make
  by_cases h : (dir.lookup (nameOf directory)).isSome
  · simp [h]
  · simp [h]

/-- To make a directory once more changes nothing. -/
@[simp] theorem make_make (dir : Directory) (directory : String) :
    (dir.make directory).make directory = dir.make directory := by
  rw [make, if_pos (lookup_make_isSome dir directory)]

end Directory

end LogTail
