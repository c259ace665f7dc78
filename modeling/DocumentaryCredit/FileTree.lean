/-
Directories and files as values. What a program reads and writes is a tree of files, so that loading a rule book
and a whole run of the checker are functions of the tree.

Paths are text with slashes. Empty parts and the part `.` do not count, the part `..` goes back; a path that
ends in a slash names a directory.
-/
import DocumentaryCredit.Text.Blank
import DocumentaryCredit.Text.Utf8

namespace DocumentaryCredit

/-- Why a file cannot be read or written. -/
inductive FileError where
  | notFound
  | isDirectory
  | notDirectory
  | notText
deriving DecidableEq

/-- The message of the error. -/
def FileError.toText : FileError → String
  | notFound => "No such file or directory (os error 2)"
  | isDirectory => "Is a directory (os error 21)"
  | notDirectory => "Not a directory (os error 20)"
  | notText => "stream did not contain valid UTF-8"

/-! ## Paths -/

namespace Path

/-- The parts of a path between its slashes. -/
def segments (path : String) : List String := Text.splitOn '/' path

/-- The parts of a path that count, the root being one. -/
def components (path : String) : List String :=
  let named := (segments path).filter fun part => !part.isEmpty && part != "."
  if path.toList.head? = some '/' then "/" :: named else named

/-- Goes back over the parts `..`. -/
def resolve (parts : List String) : List String :=
  parts.foldl (fun done part => if part = ".." then done.dropLast else done ++ [part]) []

/-- Whether a path can only name a directory. -/
def isDirectoryForm (path : String) : Bool := (segments path).getLast?.any fun part => part.isEmpty || part == "."

/-- The path of a file given from within a directory. -/
def join (directory path : String) : String :=
  if path.toList.head? = some '/' || directory.isEmpty then path
  else if directory.toList.getLast? = some '/' then directory ++ path
  else directory ++ "/" ++ path

end Path

/-! ## Trees -/

/-- Files by the parts of their paths, and directories that are kept although they may be empty. -/
structure FileTree where
  files : List (List String × List UInt8) := []
  directories : List (List String) := []

namespace FileTree

/-- The bytes of a file. -/
def file? (t : FileTree) (parts : List String) : Option (List UInt8) := (t.files.find? (·.1 == parts)).map (·.2)

/-- Whether there is a directory of a path: it is kept, or something lies in it. -/
def hasDirectory (t : FileTree) (parts : List String) : Bool :=
  parts.isEmpty || t.directories.any (parts.isPrefixOf ·) ||
    t.files.any fun entry => parts.isPrefixOf entry.1 && parts != entry.1

/-- Whether a file stands where a path needs a directory. -/
def isBlocked (t : FileTree) (parts : List String) : Bool :=
  t.files.any fun entry => entry.1.isPrefixOf parts && entry.1 != parts

/-- Reads the bytes of a file. -/
def read (t : FileTree) (path : String) : Except FileError (List UInt8) :=
  let parts := Path.resolve (Path.components path)
  if path.isEmpty then .error .notFound
  else match t.file? parts with
    | some bytes => if Path.isDirectoryForm path then .error .notDirectory else .ok bytes
    | none =>
      if t.hasDirectory parts then .error .isDirectory
      else if t.isBlocked parts then .error .notDirectory
      else .error .notFound

/-- Reads a file as text. -/
def readText (t : FileTree) (path : String) : Except FileError String := do
  let bytes ← t.read path
  match Text.ofBytes? bytes with
  | some s => .ok s
  | none => .error .notText

/-- Whether a path names a file. -/
def isFile (t : FileTree) (path : String) : Bool := (t.read path).toOption.isSome

-- Lists of texts have the order of the core library, whatever else is in scope.
attribute [local instance (high)] List.instLE List.decidableLE

/-- The order of paths: part by part. -/
def pathLe (a b : List String) : Bool := decide (a ≤ b)

/-- The files below a directory, by their paths from it, in order. -/
def filesBelow (t : FileTree) (directory : String) : Except FileError (List (List String)) :=
  let parts := Path.resolve (Path.components directory)
  let below := t.files.filterMap fun entry =>
    if parts.isPrefixOf entry.1 && parts != entry.1 then some (entry.1.drop parts.length) else none
  if directory.isEmpty then .error .notFound else .ok (below.mergeSort pathLe)

/-- The directories on the way to a path. -/
def parents (parts : List String) : List (List String) := (List.range parts.length).map parts.take

/-- The tree with a file, in place of the one that was there, and the directories on the way to it. -/
def put (t : FileTree) (path : String) (bytes : List UInt8) : FileTree :=
  let parts := Path.resolve (Path.components path)
  { files := t.files.filter (·.1 != parts) ++ [(parts, bytes)]
    directories := t.directories ++ (parents parts).filter (!t.directories.contains ·) }

/-- The tree without a file. -/
def remove (t : FileTree) (path : String) : FileTree :=
  let parts := Path.resolve (Path.components path)
  { t with files := t.files.filter (·.1 != parts) }

/-- Writes a file into a directory that is there. -/
def write (t : FileTree) (path : String) (bytes : List UInt8) : Except FileError FileTree :=
  let parts := Path.resolve (Path.components path)
  if path.isEmpty then .error .notFound
  else if t.isBlocked parts then .error .notDirectory
  else if t.hasDirectory parts then .error .isDirectory
  else if !t.hasDirectory parts.dropLast then .error .notFound
  else if Path.isDirectoryForm path then .error (if (t.file? parts).isSome then .notDirectory else .isDirectory)
  else .ok (t.put path bytes)

end FileTree

end DocumentaryCredit
