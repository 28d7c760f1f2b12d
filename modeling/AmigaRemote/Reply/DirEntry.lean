import AmigaRemote.Reply.Fault
import AmigaRemote.Text.Case

/-! Listings: one object a line, its properties separated by tabs. -/

namespace AmigaRemote

/-- What an object of the file system is. -/
inductive EntryKind where
  | file
  | dir
  deriving DecidableEq, Repr

namespace EntryKind

/-- The kind with this name in letters of any case. -/
def parse? (name : Text) : Option EntryKind :=
  if Text.isInCapitals "FILE".toList name then some file
  else if Text.isInCapitals "DIR".toList name then some dir
  else none

/-- The name of a kind in structured output. -/
def name : EntryKind → Text
  | file => "file".toList
  | dir => "dir".toList

/-- The name of a kind for human readers. -/
def title : EntryKind → Text
  | file => "File".toList
  | dir => "Dir".toList

end EntryKind

/-- One line of a listing. -/
structure DirEntry where
  kind : EntryKind
  name : Text
  size : UInt64
  protection : Text
  datestamp : Text
  deriving DecidableEq, Repr

namespace DirEntry

/-- Whether the entry is a directory. -/
def isDir (e : DirEntry) : Bool :=
  e.kind = .dir

/-- Kind, name and size must be there. Properties after the date are of no concern. -/
def parse (line : Text) : Except ReplyFault DirEntry :=
  -- Whatever is wrong with a line, all of it is reported.
  let entry? := match line.fields '\t' with
    | kind :: name :: size :: rest =>
      if name = [] then none
      else do
        -- What the daemon leaves out at the end of a line is empty.
        let protection := rest[0]?.getD []
        let datestamp := rest[1]?.getD []
        let kind ← EntryKind.parse? kind
        let size ← Decimal.uint64? size
        return ⟨kind, name, size, protection, datestamp⟩
    | _ => none
  match entry? with
  | some entry => .ok entry
  | none => .error (.malformedEntry line)

/-- The entries of all lines, refused at the first line that is none. -/
def parseAll (lines : List Text) : Except ReplyFault (List DirEntry) :=
  lines.mapM parse

end DirEntry

end AmigaRemote
