import LessonVariants.Keyed
import LessonVariants.Text.Quoted

/-! # The files that a command can see

    A command reads and writes files by their paths.  A workspace of named texts (`Workspace.ofFiles`)
    behaves like the directory that holds them: the names lead through its subdirectories, and a path
    may only continue behind a directory. -/

namespace LessonVariants

/-- Why a file cannot be used. -/
inductive FileError where
  | missing
  | isDirectory
  | notDirectory
  | nameTooLong
  deriving DecidableEq, Repr

/-- The text of a file error. -/
def FileError.message (path : String) : FileError → String
  | missing      => "[Errno 2] No such file or directory: " ++ quoted path
  | isDirectory  => "[Errno 21] Is a directory: " ++ quoted path
  | notDirectory => "[Errno 20] Not a directory: " ++ quoted path
  | nameTooLong  => "[Errno 36] File name too long: " ++ quoted path

/-- The files that a command can see. -/
structure Workspace where
  read  : String → Except FileError String
  write : String → Option FileError

/-- The components of a path, without empty and dot components. -/
def pathParts (path : String) : List String :=
  (path.splitOn "/").filter fun p => p != "" && p != "."

/-- A path in its normal form. -/
def normalPath (path : String) : String :=
  let parts := pathParts path
  let body := "/".intercalate parts
  if path.startsWith "/" then "/" ++ body else if parts.isEmpty then "." else body

/-- The longest name of a file, in bytes. -/
def longestName : Nat := 255

/-- The longest path, in bytes. -/
def longestPath : Nat := 4095

/-- What stands at a place below a directory. -/
inductive Entry where
  | text (content : String)
  | directory
  | nothing

/-- The entry at a place, given by the names that lead there. -/
def entryAt (files : Keyed String) (place : List String) : Entry :=
  match files.find? fun f => pathParts f.1 == place with
  | some f => .text f.2
  | none   =>
      if place.isEmpty || files.any fun f => place.isPrefixOf (pathParts f.1) then .directory
      else .nothing

/-- Follows the components of a path from a directory, of which nothing means one outside.  The result
    is the entry it leads to, which may not be there yet. -/
def walk (files : Keyed String) : Option (List String) → List String → Except FileError Entry
  | here, []           => .ok (here.elim .directory (entryAt files))
  | here, part :: rest =>
      if longestName < part.utf8ByteSize then .error .nameTooLong
      else if part = ".." then walk files (here.bind fun place =>
        if place.isEmpty then none else some place.dropLast) rest
      else
        match here.elim .nothing fun place => entryAt files (place ++ [part]) with
        | .directory => walk files (here.map (· ++ [part])) rest
        | found      =>
            if rest.isEmpty then .ok found
            else
              match found with
              | .text _ => .error .notDirectory
              | _       => .error .missing

/-- The entry that a path leads to. -/
def entryOf (files : Keyed String) (path : String) : Except FileError Entry :=
  if longestPath < path.utf8ByteSize then .error .nameTooLong
  else walk files (if path.startsWith "/" then none else some []) (pathParts path)

/-- The workspace of a directory that holds the given texts. -/
def Workspace.ofFiles (files : Keyed String) : Workspace where
  read path := do
    match ← entryOf files path with
    | .text s    => pure s
    | .directory => .error .isDirectory
    | .nothing   => .error .missing
  write path :=
    match entryOf files path with
    | .error e       => some e
    | .ok .directory => some .isDirectory
    | .ok .nothing   => if path.startsWith "/" then some .missing else none
    | .ok (.text _)  => none

end LessonVariants
