import TextLimits.CommandLine
import TextLimits.Settings

/-! # Command lines over settings

What the command line says comes on top of the settings: inputs in place of those there, exclusions
and ignored lines after those there, limits in place of those there. -/

namespace TextLimits

/-- The settings as a command line changes them. -/
def Settings.overriddenBy (s : Settings) (line : CommandLine) : Settings where
  inputs := if line.inputs.isEmpty then s.inputs else line.inputs
  excludes := s.excludes ++ line.excludes
  ignoreLinesMatching := s.ignoreLinesMatching ++ line.ignoreLinesMatching
  maxLineLength := line.maxLineLength.getD s.maxLineLength
  maxLinesInFile := line.maxLinesInFile.getD s.maxLinesInFile

end TextLimits
