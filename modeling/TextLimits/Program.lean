import TextLimits.Check
import TextLimits.Settings.Source
import TextLimits.CommandLine.Override

/-! # The program

Arguments, a current directory and a file tree decide all that the program does (`Program.run`): it
stops at the arguments, or it checks with the settings that they lead to. -/

namespace TextLimits

/-- What can be asked about the files of a tree from a directory in it.  A file whose bytes are no
text cannot be read. -/
def FileSource.ofTree (top : Tree) (currentDir : String) : FileSource where
  read path := do
    let file ← top.file? (Path.steps (Path.joinText currentDir path))
    if file.breaksOff then none else Utf8.decode? file.content
  present path := (top.find? (Path.steps (Path.joinText currentDir path))).isSome
  currentDir := some currentDir

namespace Program

/-- How the program ends. -/
inductive Ending where
  /-- At the arguments. -/
  | stopped (stop : CommandLine.Stop)
  /-- After a check, of which this is the transcript. -/
  | checked (t : Transcript Bool)

/-- The check that a command line asks for. -/
def check (line : CommandLine) (currentDir : String) (top : Tree) : Transcript Bool := do
  let settings ← .ofResult (Settings.load (.ofTree top currentDir) line.config line.noConfig)
  Check.run (settings.overriddenBy line) currentDir (.still top)

/-- Runs the program. -/
def run (arguments : List String) (currentDir : String) (top : Tree) : Ending :=
  match CommandLine.parse arguments with
  | .error stop => .stopped stop
  | .ok line => .checked (check line currentDir top)

namespace Ending

/-- The exit code of a run in which all went well. -/
def success : Nat := 0

/-- The exit code of a check that some file did not pass. -/
def checksFailed : Nat := 1

/-- The exit code of a run that came to no result. -/
def noResult : Nat := 1

/-- The exit code of a run that broke off. -/
def brokenOff : Nat := 101

/-- The exit code. -/
def exitCode : Ending → Nat
  | .stopped (.refused _) => noResult
  | .stopped _ => success
  | .checked t =>
    match t.result with
    | .ok true => success
    | .ok false => checksFailed
    | .error (.tooDeep _) => brokenOff
    | .error _ => noResult

/-- The complaint at the end of a check that came to no result. -/
def complaint (t : Transcript Bool) : String :=
  match t.result with
  | .ok _ => ""
  | .error fault => "Error: " ++ fault.message ++ Report.newline

/-- All that is printed. -/
def out : Ending → String
  | .stopped stop => stop.text?.getD ""
  | .checked t => t.textOn .out

/-- All that is printed as diagnosis. -/
def err : Ending → String
  | .stopped (.refused r) => "Error: " ++ r.message ++ Report.newline
  | .stopped _ => ""
  | .checked t => t.textOn .err ++ complaint t

end Ending

end Program

end TextLimits
