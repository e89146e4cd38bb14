import TextLimits.Inspection
import TextLimits.IgnorePatterns
import TextLimits.Scan.Resolver
import TextLimits.Settings

/-! # Checks

A check resolves the inputs to files, inspects one file after another and reports on each
(`Check.run`).  It is a transcript: what it writes does not depend on how much the outputs can
take. -/

namespace TextLimits

/-- A file tree in the course of a check: as it is when the inputs are resolved, and when each of the
files has its turn. -/
structure Timeline where
  atStart : Tree
  atTurn : Nat → Tree

/-- A tree that does not change. -/
def Timeline.still (top : Tree) : Timeline := ⟨top, fun _ => top⟩

namespace Settings

/-- The limits that every file is held to. -/
def limits (s : Settings) : Limits := ⟨s.maxLineLength.toNat, s.maxLinesInFile.toNat⟩

/-- The patterns of the lines that may have any length. -/
def patterns (s : Settings) : IgnorePatterns := .ofSources s.ignoreLinesMatching

/-- How lines are inspected. -/
def inspector (s : Settings) : Inspector := ⟨s.limits.lineLength, s.patterns.exempts⟩

end Settings

namespace Check

/-- The complaint that there is nothing to be checked. -/
def noInputs : Fault :=
  .config ("Option '--inputs' is required (or set \x60inputs\x60 under [check] in " ++
    Settings.fileName ++ ")")

/-- The line that ends a check that some file did not pass. -/
def failureMessage : String := "One or more input files failed the checks."

/-- Warns that a pattern is not in effect. -/
def warn (fault : Fault) : Transcript Unit :=
  .write .err ("Warning: " ++ fault.message ++ Report.newline)

/-- The record of a file, if it can be read to its end. -/
def inspect (s : Settings) (root : String) (top : Tree) (path : Path) : Except Fault Record :=
  let unread : Fault := .fileRead (Path.joinText root path.text)
  match top.file? (Path.stepsFrom root path) with
  | none => .error unread
  | some file =>
    let failure := if file.breaksOff then some unread.message else none
    (s.inspector.inspectStream ⟨[file.content], failure⟩).mapError fun _ => unread

/-- Inspects files from a turn on and reports on each.  Says whether all passed. -/
def runFiles (s : Settings) (root : String) (trees : Nat → Tree) :
    Nat → List Path → Transcript Bool
  | _, [] => return true
  | turn, path :: rest => do
    let record ← .ofResult (inspect s root (trees turn) path)
    let passed ← Report.on path.text s.limits record
    let others ← runFiles s root trees (turn + 1) rest
    return passed && others

/-- What is said after the reports if some file did not pass. -/
def conclude (s : Settings) : Transcript Unit := do
  if !s.patterns.isEmpty then Transcript.write .out s.patterns.summary
  Transcript.write .err (failureMessage ++ Report.newline)

/-- Checks the files that the settings select, and says whether all passed. -/
def run (s : Settings) (root : String) (tree : Timeline) : Transcript Bool := do
  if s.inputs.isEmpty then Transcript.fail noInputs
  let resolver ← .ofResult (Resolver.ofSources root s.inputs s.excludes)
  (IgnorePatterns.rejected s.ignoreLinesMatching).forM warn
  let passed ← runFiles s root tree.atTurn 0 (resolver.resolve tree.atStart)
  if !passed then conclude s
  return passed

end Check

end TextLimits
