/-!
# Files

What reading a file comes to: its text, or why it cannot be read. The files themselves are supplied
from outside, as a function of their path.
-/

namespace AuditFeed

/-- Why a file cannot be read as text. -/
inductive FileError where
  | notFound
  | isDirectory
  | notDirectory
  | permissionDenied
  /-- The path, or a name in it, is longer than the system takes. -/
  | nameTooLong
  /-- The path holds the character that ends a path for the system. -/
  | nulInPath
  /-- The file holds bytes that are no text. -/
  | notText
  /-- Anything else, in the words of the system. -/
  | other (message : String)
deriving DecidableEq

/-- What a failure says. -/
def FileError.message : FileError → String
  | notFound => "No such file or directory (os error 2)"
  | isDirectory => "Is a directory (os error 21)"
  | notDirectory => "Not a directory (os error 20)"
  | permissionDenied => "Permission denied (os error 13)"
  | nameTooLong => "File name too long (os error 36)"
  | nulInPath => "file name contained an unexpected NUL byte"
  | notText => "stream did not contain valid UTF-8"
  | other m => m

/-- The text of each file. -/
abbrev Files := String → Except FileError String

/-- Is there anything at a path? -/
def Files.contains (files : Files) (path : String) : Bool :=
  match files path with
  | .error .notFound | .error .notDirectory | .error .nameTooLong | .error .nulInPath => false
  | _ => true

/-! ### Files in a list -/

namespace Files

/-- The names in a path. -/
def names (path : String) : List String :=
  (path.splitOn "/").filter (· ≠ "")

/-- The most bytes of a name. -/
def nameLimit : Nat := 255

/-- The number of bytes that is too much for a path. -/
def pathLimit : Nat := 4096

/-- Follows a path from a directory, one name after the other. Each name but the last has to be that
of a directory, also in front of a name that leads back. -/
def follow (files : List (List String × String)) :
    List String → List String → Except FileError String
  | _, [] => .error .isDirectory
  | directory, name :: rest =>
    if nameLimit < name.utf8ByteSize then .error .nameTooLong
    else if name = "" ∨ name = "." then follow files directory rest
    else if name = ".." then follow files directory.dropLast rest
    else
      let path := directory ++ [name]
      match files.lookup path with
      | some content => if rest.isEmpty then .ok content else .error .notDirectory
      | none =>
        if files.any (fun f ↦ path.isPrefixOf f.1) then follow files path rest
        else .error .notFound

/-- The files of a list, each with its absolute path, and the directories that these need. A path
that is not absolute starts in a directory that holds nothing. -/
def ofList (files : List (String × String)) : Files := fun path ↦
  if path.contains '\x00' then .error .nulInPath
  else if path.isEmpty then .error .notFound
  else if pathLimit ≤ path.utf8ByteSize then .error .nameTooLong
  else
    follow (files.map fun f ↦ (names f.1, f.2)) (if path.startsWith "/" then [] else [""])
      (path.splitOn "/")

end Files

end AuditFeed
