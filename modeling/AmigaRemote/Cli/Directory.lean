import AmigaRemote.Text.Utf8
import AmigaRemote.Transport.Fault

/-! The local file system as far as a run needs it, and a directory with nothing but files in it as
an instance. -/

namespace AmigaRemote.Cli

/-- A path in the local file system, to which it is bytes: not every path is a text. -/
abbrev Path := Bytes

namespace Path

/-- The text that a path is, if it is one. -/
def text? (path : Path) : Option Text :=
  Utf8.decode? path

/-- A path as it is shown to people, with replacement characters for what is no text. -/
def shown (path : Path) : Text :=
  Utf8.decode path

/-- What separates the parts of a path. -/
def slash : UInt8 := 0x2F

/-- Alone it stands for where a path starts, and two of them for what is around that. -/
def dot : UInt8 := 0x2E

/-- The parts of a path. Slashes in a row are one. -/
def parts (path : Path) : List Path :=
  (path.splitBy fun a b => a ≠ slash && b ≠ slash).filter (· ≠ [slash])

end Path

/-- What becomes of reading and writing local files. -/
structure LocalFiles where
  /-- The content of a file. -/
  read (path : Path) : Except Fault Bytes
  /-- How writing a file fails, if it does. -/
  writeFault? (path : Path) : Option Fault

/-- Files by name, in a directory of their own. -/
abbrev Directory := List (Path × Bytes)

/-- Where a path leads that starts in a directory of files. -/
inductive Destination where
  /-- To a name in the directory. A slash behind it asks for a directory of that name. -/
  | name (name : Path) (slashed : Bool)
  /-- To the directory itself or one around it. -/
  | directory
  | fault (kind : FaultKind)
  deriving DecidableEq, Repr

namespace Directory

/-- The most bytes in a name. -/
def longestName : Nat := 255

/-- The most bytes in a path. -/
def longestPath : Nat := 4095

/-- Where a path leads. Nothing is known of what lies outside of the directory. -/
def destination (d : Directory) (path : Path) : Destination :=
  -- A dot at the front leads nowhere else.
  let parts := path.parts.dropWhile (· = [Path.dot])
  -- The path as a whole is looked at before its parts.
  if path = [] then .fault .notFound
  else if longestPath < path.length then .fault .nameTooLong
  else if parts.all fun part => part = [Path.dot, Path.dot] then .directory
  else if path.head? = some Path.slash then .fault .notFound
  else match parts with
    | [] => .directory
    | [name] =>
      if longestName < name.length then .fault .nameTooLong
      else .name name (path.getLast? = some Path.slash)
    | first :: _ =>
      -- No file has anything in it.
      if longestName < first.length then .fault .nameTooLong
      else if (d.lookup first).isSome then .fault .notDirectory
      else .fault .notFound

/-- The local file system when the directory is where paths start. -/
def toLocalFiles (d : Directory) : LocalFiles where
  read path :=
    match d.destination path with
    | .fault kind => .error (.system kind)
    | .directory => .error (.system .isDirectory)
    | .name name slashed =>
      match d.lookup name with
      | none => .error (.system .notFound)
      -- A slash behind a file's name asks for a directory, which it is not.
      | some content => if slashed then .error (.system .notDirectory) else .ok content
  writeFault? path :=
    match d.destination path with
    | .fault kind => some (.system kind)
    | .directory => some (.system .isDirectory)
    | .name _ slashed => if slashed then some (.system .isDirectory) else none

/-- The directory once a file is written, if its path leads there. -/
def write (d : Directory) (path : Path) (content : Bytes) : Directory :=
  match d.destination path with
  -- An older file of the name gives way.
  | .name name _ => (name, content) :: d.filter fun (other, _) => other ≠ name
  | _ => d

end Directory

end AmigaRemote.Cli
