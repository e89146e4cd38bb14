/-! # Settings

What a check is told: which files to look at, which to leave out, which lines may have any length,
and the two limits. -/

namespace TextLimits

/-- The settings of a check. -/
structure Settings where
  /-- Globs of the files to be inspected. -/
  inputs : List String
  /-- Globs of the files to be left out. -/
  excludes : List String
  /-- Regular expressions of the lines that may have any length. -/
  ignoreLinesMatching : List String
  /-- The greatest length of a line. -/
  maxLineLength : UInt64
  /-- The greatest number of lines in a file. -/
  maxLinesInFile : UInt64
  deriving DecidableEq

namespace Settings

/-- The settings where nothing else is said. -/
def default : Settings := ⟨[], [], [], 120, 2000⟩

/-- The name of the file that settings are looked for in. -/
def fileName : String := ".bite-sized.toml"

end Settings

end TextLimits
