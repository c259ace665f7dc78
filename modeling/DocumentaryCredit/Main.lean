/-
The command line of the checker. A run is a function of the files that it looks at (`runArguments`); here these
are read from the disk, and what the run has changed is written back. Without a directory of its own the rule
book is the bundled one.
-/
import DocumentaryCredit.CommandLine.Run
import DocumentaryCredit.Standards.Bundled

namespace DocumentaryCredit

/-- The directory of the bundled rule book in a tree of files, which is on no disk. -/
def bundledDirectory : String := "(bundled)"

/-- The files that a command reads or writes, besides the rule book. -/
def Command.files : Command → List String
  | verifyStandards | schema _ => []
  | validate input _ | parse input _ => [input]
  | construct input _ output => input :: output.toList
  | compare inputs _ _ => inputs

/-- The files that an invocation reads or writes, besides the rule book. -/
def Invocation.files (invocation : Invocation) : List String :=
  invocation.logging.file.toList ++ [invocation.settingsFile.getD Settings.defaultFile] ++ invocation.command.files

/-- The tree with the directory in which the files of a path lie. -/
def FileTree.addDirectory (tree : FileTree) (path : String) : FileTree :=
  { tree with directories := Path.resolve (Path.components path) :: tree.directories }

/-- Adds what is found at a path on the disk: a file, or that there is a directory. -/
def addPath (tree : FileTree) (path : String) : IO FileTree := do
  let place := (← IO.currentDir) / path
  if ← place.isDir then return tree.addDirectory path
  let tree ← match place.parent with
    | some above => do
      let parent := "/".intercalate (Path.segments path).dropLast
      if ← above.isDir then pure (tree.addDirectory parent) else pure tree
    | none => pure tree
  if ← place.pathExists then
    return tree.put path (← IO.FS.readBinFile place).toList
  else return tree

/-- Adds the files below a directory on the disk. -/
partial def addBelow (tree : FileTree) (directory : String) : IO FileTree := do
  let place := (← IO.currentDir) / directory
  unless ← place.isDir do return ← addPath tree directory
  let mut tree := tree.addDirectory directory
  for found in ← place.readDir do
    let path := Path.join directory found.fileName
    tree ← if ← found.path.isDir then addBelow tree path else addPath tree path
  return tree

/-- The directory of the rule book that an invocation names, if it names one. -/
def Invocation.directory? (invocation : Invocation) (tree : FileTree) : Option String :=
  invocation.standardsDirectory.orElse fun _ =>
    ((readSettings tree invocation.settingsFile).toOption).bind (·.standardsDirectory)

/-- The rule book that is used when no other is named: one on the disk, or the bundled one. -/
def installed : IO Installation := do
  match ← IO.getEnv "LC_STANDARDS_DIR" with
  | some directory => return ⟨directory, ← addBelow {} directory⟩
  | none => return ⟨bundledDirectory, Bundled.addTo {} bundledDirectory⟩

/-- Runs the checker on the files of the disk. -/
def runOnDisk (arguments : List String) : IO RunResult := do
  let installation ← installed
  match Request.read arguments with
  | .ok (.run invocation) =>
    let before ← invocation.files.foldlM addPath {}
    let before ← match invocation.directory? before with
      | some directory => addBelow before directory
      | none => pure before
    let result := runArguments arguments installation before
    for path in invocation.files do
      match (before.read path).toOption, (result.tree.read path).toOption with
      | old, some bytes => if old != some bytes then IO.FS.writeBinFile path ⟨bytes.toArray⟩
      | _, none => pure ()
    return result
  | _ => return runArguments arguments installation {}

end DocumentaryCredit

open DocumentaryCredit in
/-- Runs the checker and answers its status. -/
def main (arguments : List String) : IO UInt32 := do
  let result ← runOnDisk arguments
  for block in result.output do
    IO.print block.toText
  for line in result.complaints do
    IO.eprintln line
  return UInt32.ofNat result.status
