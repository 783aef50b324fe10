import Abacus.Source
import Abacus.Text.Split

/-! A folder of files held in memory, and the files that paths lead to from it.  A path is followed
one name at a time.  Nothing is known of what lies outside the folder, so no name leads anywhere
there. -/

namespace Abacus

/-- Why a path leads to nothing that can be read. -/
inductive FileError where
  | notFound
  | notADirectory
  | isADirectory
  | nameTooLong
  deriving Repr, DecidableEq

/-- The report of a file error, with its number. -/
def FileError.message : FileError → String
  | .notFound => "No such file or directory (os error 2)"
  | .notADirectory => "Not a directory (os error 20)"
  | .isADirectory => "Is a directory (os error 21)"
  | .nameTooLong => "File name too long (os error 36)"

/-- What stands under a name in a folder. -/
inductive Folder.Entry where
  | file (content : ByteArray)
  | emptyFolder

/-- A folder: its entries, each under a path of names. -/
structure Folder where
  entries : List (List String × Folder.Entry)

namespace Folder

/-- Where a path has led so far. -/
inductive Place where
  /-- A folder inside, by the names that lead to it. -/
  | inside (names : List String)
  /-- A folder outside. -/
  | outside
  | file (content : ByteArray)

/-- The most bytes that a name may have. -/
def maxName : Nat := 255

/-- The number of bytes from which on a path is too long. -/
def maxPath : Nat := 4096

/-- The place under a path of names.  A folder is there if it is an entry, or if an entry lies in
it. -/
def at? (f : Folder) (names : List String) : Option Place :=
  match f.entries.lookup names with
  | some (.file content) => some (.file content)
  | some .emptyFolder => some (.inside names)
  | none =>
    if f.entries.any fun entry => names.isPrefixOf entry.1 then some (.inside names) else none

/-- Follows one name of a path.  An empty name and a dot lead nowhere else, and two dots lead to the
folder around. -/
def follow (f : Folder) (place : Place) (name : String) : Except FileError Place :=
  match place with
  | .file _ => .error .notADirectory
  | .outside =>
    if name = "" ∨ name = "." ∨ name = ".." then .ok .outside
    else if maxName < name.utf8ByteSize then .error .nameTooLong
    else .error .notFound
  | .inside names =>
    if name = "" ∨ name = "." then .ok place
    else if name = ".." then .ok (if names.isEmpty then .outside else .inside names.dropLast)
    else if maxName < name.utf8ByteSize then .error .nameTooLong
    else
      match f.at? (names ++ [name]) with
      | some next => .ok next
      | none => .error .notFound

/-- The names of a path, between its slashes. -/
def namesOf (path : String) : List String := (Text.splitAt '/' path.toList).map String.ofList

/-- The place that a path leads to.  A path that starts with a slash starts outside. -/
def find (f : Folder) (path : String) : Except FileError Place :=
  if path = "" then .error .notFound
  else if maxPath ≤ path.utf8ByteSize then .error .nameTooLong
  else
    let start := if path.toList.head? = some '/' then Place.outside else Place.inside []
    (namesOf path).foldlM f.follow start

/-- Opens what a path leads to.  A folder can be opened, but not read. -/
def openPath (f : Folder) (path : String) : Except String Source :=
  match f.find path with
  | .ok (.file content) => .ok (.ofBytes content)
  | .ok _ => .ok ⟨[.failed FileError.isADirectory.message]⟩
  | .error e => .error e.message

end Folder

end Abacus
