import TextLimits.Program
import TextLimits.Tree.Edit

/-! # The command line

What a run may look at is copied from the file system into a tree, and the program is run on the
tree.  The settings file and the ways to the inputs are copied first; the files that the inputs
resolve to are read after that. -/

namespace TextLimits.Snapshot

/-- The text of an absolute place. -/
def textOf (place : List String) : String := "/" ++ "/".intercalate place

/-- An entry of a directory. -/
def entry (place : List String) (name : String) : IO.FS.DirEntry := ⟨textOf place, name⟩

/-- The outcome of an action, unless it is refused. -/
def attempt {α : Type} (action : IO α) : IO (Option α) := do
  try
    return some (← action)
  catch _ =>
    return none

/-- A file whose content is still to be read. -/
def unreadFile : Tree := .file ⟨[], false⟩

/-- Copies what a way leads through, and says where the way ends.  A link becomes one that leads
straight to its end. -/
partial def copyWay (top : Tree) (place : List String) : List Segment → IO (Tree × List String)
  | [] => return (top, place)
  | .current :: rest => copyWay top place rest
  | .parent :: rest => copyWay top place.dropLast rest
  | .name name :: rest => do
    let path := (entry place name).path
    let next := place ++ [name]
    match (← attempt path.symlinkMetadata).map IO.FS.Metadata.type with
    | some .symlink =>
      match ← attempt (IO.FS.realPath path) with
      | none => return (top, next)
      | some real =>
        copyWay (top.set (some (.link real.toString)) next) [] (Path.steps real.toString ++ rest)
    | some .dir => copyWay (if (top.at? next).isSome then top else top.set (some .empty) next) next rest
    | some .file => copyWay (top.set (some unreadFile) next) next rest
    | _ => return (top, next)

/-- A copy of a directory with all that is below it, where a link to a file counts as a file and all
other links are left out. -/
partial def copyBelow (place : List String) : IO Tree := do
  let path := (entry place ".").path
  let mut entries := []
  let listing ← attempt path.readDir
  for e in listing.getD #[] do
    match (← attempt e.path.symlinkMetadata).map IO.FS.Metadata.type with
    | some .dir => entries := (e.fileName, ← copyBelow (place ++ [e.fileName])) :: entries
    | some _ =>
      if let some .file := (← attempt e.path.metadata).map IO.FS.Metadata.type then
        entries := (e.fileName, unreadFile) :: entries
    | none => pure ()
  return .dir entries listing.isSome

/-- Reads the file at the end of a way. -/
def readFile (top : Tree) (way : List Segment) : IO Tree := do
  match top.follow way with
  | none => return top
  | some place =>
    match ← attempt (IO.FS.readBinFile (textOf place)) with
    | some bytes => return top.set (some (.file ⟨bytes.toList, false⟩)) place
    | none => return top.set (some (.file ⟨[], true⟩)) place

/-- Copies a single file. -/
def copyFile (top : Tree) (path : String) : IO Tree := do
  let (top, _) ← copyWay top [] (Path.steps path)
  if (top.file? (Path.steps path)).isSome then readFile top (Path.steps path) else return top

/-- Copies where an input begins, with all that is below. -/
def copyInput (root : String) (top : Tree) (p : InputPattern) : IO Tree := do
  let (top, place) ← copyWay top [] (p.start root)
  if (top.at? place).any Tree.isDir then return top.set (some (← copyBelow place)) place
  else return top

/-- Copies all that settings ask for. -/
def copyInputs (top : Tree) (root : String) (s : Settings) : IO Tree := do
  match Resolver.ofSources root s.inputs s.excludes with
  | .error _ => return top
  | .ok resolver =>
    let top ← resolver.inputs.foldlM (copyInput root) top
    (resolver.resolve top).foldlM (fun top path => readFile top (Path.stepsFrom root path)) top

/-- Copies all that a command line asks for. -/
def copyFor (line : CommandLine) (currentDir : String) : IO Tree := do
  let file := Path.joinText currentDir (line.config.getD Settings.fileName)
  let top ← if line.noConfig then pure Tree.empty else copyFile .empty file
  match Settings.load (.ofTree top currentDir) line.config line.noConfig with
  | .error _ => return top
  | .ok settings => copyInputs top currentDir (settings.overriddenBy line)

end TextLimits.Snapshot

open TextLimits in
/-- Runs the program in the current directory. -/
def main (arguments : List String) : IO UInt32 := do
  let currentDir := (← IO.currentDir).toString
  let top ← match CommandLine.parse arguments with
    | .error _ => pure Tree.empty
    | .ok line => Snapshot.copyFor line currentDir
  let ending := Program.run arguments currentDir top
  IO.print ending.out
  IO.eprint ending.err
  return ending.exitCode.toUInt32
