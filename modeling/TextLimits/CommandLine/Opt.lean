/-! # Options

The options of the command line: how each is spelled, how many values it takes, whether it may be
given again, and what the help says about it. -/

namespace TextLimits.CommandLine

/-- The options. -/
inductive Opt where
  | inputs
  | excludes
  | ignoreLinesMatching
  | maxLineLength
  | maxLinesInFile
  | config
  | noConfig
  | verbose
  | help
  | version
  deriving DecidableEq

/-- How many values an option takes. -/
inductive Arity where
  | none
  | one
  /-- At least one. -/
  | some
  deriving DecidableEq

namespace Opt

/-- All options, in the order of the help. -/
def all : List Opt :=
  [inputs, excludes, ignoreLinesMatching, maxLineLength, maxLinesInFile, config, noConfig, verbose,
    help, version]

/-- The name after two dashes. -/
def longName : Opt → String
  | inputs => "inputs"
  | excludes => "excludes"
  | ignoreLinesMatching => "ignore-lines-matching"
  | maxLineLength => "max-line-length"
  | maxLinesInFile => "max-lines-in-file"
  | config => "config"
  | noConfig => "no-config"
  | verbose => "verbose"
  | help => "help"
  | version => "version"

/-- The letter after one dash. -/
def letter? : Opt → Option Char
  | inputs => some 'i'
  | excludes => some 'e'
  | config => some 'c'
  | verbose => some 'v'
  | help => some 'h'
  | version => some 'V'
  | _ => none

def arity : Opt → Arity
  | inputs | excludes | ignoreLinesMatching => .some
  | maxLineLength | maxLinesInFile | config => .one
  | noConfig | verbose | help | version => .none

/-- Whether an option may be given more than once. -/
def repeatable : Opt → Bool
  | inputs | excludes | ignoreLinesMatching | verbose => true
  | _ => false

/-- The word that stands for a value of an option. -/
def placeholder (o : Opt) : String :=
  o.longName.map fun c => if c = '-' then '_' else c.toUpper

/-- An option as messages name it: the long name, what it takes, and dots if it can be repeated. -/
def display (o : Opt) : String :=
  "--" ++ o.longName ++ (if o.arity = .none then "" else " <" ++ o.placeholder ++ ">") ++
    if o.repeatable then "..." else ""

/-- The option with a long name. -/
def ofLongName? (name : String) : Option Opt := all.find? fun o => o.longName = name

/-- The option with a letter. -/
def ofLetter? (c : Char) : Option Opt := all.find? fun o => o.letter? = some c

end Opt

end TextLimits.CommandLine
