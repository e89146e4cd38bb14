import TextLimits.CommandLine.Opt

/-! # Help

The help in its short and its long form.  Both list all options; the long form has more to say about
the program and leaves a line free between options. -/

namespace TextLimits.CommandLine

/-- What an option is for; the help points from each of its forms to the other one. -/
def Opt.purpose (long : Bool) : Opt → String
  | .inputs => "Glob patterns of the files to be inspected"
  | .excludes => "Glob patterns of the files to be excluded from inspection"
  | .ignoreLinesMatching => "Ignore lines matching the regular expression(s)"
  | .maxLineLength => "Maximum allowed line length [default: 120]"
  | .maxLinesInFile => "Maximum number of lines allowed in a file [default: 2000]"
  | .config => "Path to configuration file"
  | .noConfig => "Skip loading configuration file"
  | .verbose => "Increase diagnostic output on stderr (-v, -vv for more)"
  | .help =>
    if long then "Print help (see a summary with '-h')" else "Print help (see more with '--help')"
  | .version => "Print version"

/-- The two lines on an option. -/
def Opt.entry (long : Bool) (o : Opt) : String :=
  let letter := match o.letter? with
    | some c => "  -" ++ String.singleton c ++ ", "
    | none => "      "
  letter ++ o.display ++ "\n          " ++ o.purpose long ++ "\n"

namespace Help

/-- What the program is for, in a sentence without its period. -/
def summary : String :=
  "Checks that the code is bite-sized in width (line length) and height (number of lines)"

/-- The paragraphs that only the long form has. -/
def details : String :=
  ".\n\nSettings may also come from a .bite-sized.toml file in the current directory.\n\n" ++
    "Exit codes:\n  0 - All input files passed\n" ++
    "  1 - One or more files failed the checks, or the arguments were invalid"

/-- The help in its short or its long form. -/
def text (long : Bool) : String :=
  summary ++ (if long then details else "") ++ "\n\nUsage: bite-sized [OPTIONS]\n\nOptions:\n" ++
    (if long then "\n" else "").intercalate (Opt.all.map (Opt.entry long))

/-- The name of the program with its version. -/
def version : String := "bite-sized 0.1.0\n"

end Help

end TextLimits.CommandLine
