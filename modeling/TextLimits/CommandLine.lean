import TextLimits.CommandLine.Token
import TextLimits.CommandLine.Help

/-! # Command lines

The tokens are read from left to right (`Progress.step`).  An option waits for the values after it
and takes effect when the next option comes, or at the end (`Progress.settle`); a token that has no
place is refused before that, so what waits then is never looked at.  The help and the version put an
end to the reading when they are met. -/

namespace TextLimits

/-- What a command line asks for. -/
structure CommandLine where
  inputs : List String
  excludes : List String
  ignoreLinesMatching : List String
  maxLineLength : Option UInt64
  maxLinesInFile : Option UInt64
  /-- The settings file to be read. -/
  config : Option String
  /-- Whether no settings file is to be read. -/
  noConfig : Bool
  /-- How often more diagnostics were asked for.  No report depends on it. -/
  verbose : Nat
  deriving DecidableEq

namespace CommandLine

/-- Why a command line is refused. -/
inductive Refusal where
  /-- An argument that has no place. -/
  | unknown (argument : String)
  /-- An option without the value that it takes, or with an empty text in its place. -/
  | missingValue (o : Opt)
  /-- A value that is no number, or too great. -/
  | badValue (o : Opt) (value : String)
  /-- A value for an option that takes none. -/
  | unwantedValue (o : Opt) (value : String)
  /-- An option that does not go with another one, or is given again. -/
  | conflict (o other : Opt)
  deriving DecidableEq

/-- The complaint about a refused command line, in one line. -/
def Refusal.message : Refusal → String
  | .unknown argument => "unexpected argument '" ++ argument ++ "'"
  | .missingValue o => "a value is required for '" ++ o.display ++ "'"
  | .badValue o value => "invalid value '" ++ value ++ "' for '" ++ o.display ++ "'"
  | .unwantedValue o value => "unexpected value '" ++ value ++ "' for '" ++ o.display ++ "'"
  | .conflict o other =>
    if o = other then "'" ++ o.display ++ "' cannot be given more than once"
    else "'" ++ o.display ++ "' cannot be given together with '" ++ other.display ++ "'"

/-- Why there is nothing to be checked. -/
inductive Stop where
  | help (long : Bool)
  | version
  | refused (r : Refusal)
  deriving DecidableEq

/-- What is printed instead of a check, except for the complaint about a refused command line. -/
def Stop.text? : Stop → Option String
  | .help long => some (Help.text long)
  | .version => some Help.version
  | .refused _ => none

/-- The command line without arguments. -/
def empty : CommandLine := ⟨[], [], [], none, none, none, false, 0⟩

/-- The number that decimal digits, perhaps after a plus sign, denote, if it has at most 64 bits. -/
def number? (text : String) : Option UInt64 :=
  let digits : List Char := match text.toList with
    | '+' :: rest => rest
    | all => all
  let n := digits.foldl (fun n c => 10 * n + (c.toNat - '0'.toNat)) 0
  if digits ≠ [] ∧ digits.all Char.isDigit ∧ n < UInt64.size then some (UInt64.ofNat n) else none

/-- How often `--verbose` is counted at most. -/
def maxVerbose : Nat := 255

/-- Gives a value to an option. -/
def addValue (line : CommandLine) (o : Opt) (value : String) : Except Refusal CommandLine :=
  match o with
  | .inputs => .ok { line with inputs := line.inputs ++ [value] }
  | .excludes => .ok { line with excludes := line.excludes ++ [value] }
  | .ignoreLinesMatching =>
    .ok { line with ignoreLinesMatching := line.ignoreLinesMatching ++ [value] }
  | .maxLineLength =>
    match number? value with
    | some n => .ok { line with maxLineLength := some n }
    | none => .error (.badValue o value)
  | .maxLinesInFile =>
    match number? value with
    | some n => .ok { line with maxLinesInFile := some n }
    | none => .error (.badValue o value)
  | .config =>
    if value.isEmpty then .error (.missingValue o) else .ok { line with config := some value }
  | _ => .error (.unwantedValue o value)

/-- Gives an option that takes no value. -/
def addFlag (line : CommandLine) (o : Opt) (long : Bool) : Except Stop CommandLine :=
  match o with
  | .noConfig => .ok { line with noConfig := true }
  | .verbose => .ok { line with verbose := min (line.verbose + 1) maxVerbose }
  | .help => .error (.help long)
  | .version => .error .version
  | _ => .error (.refused (.missingValue o))

/-- How far the reading has come. -/
structure Progress where
  line : CommandLine
  /-- The options that took effect, in order. -/
  given : List Opt
  /-- The option that may take more values, with those it has. -/
  waiting : Option (Opt × List String)

namespace Progress

/-- Nothing read yet. -/
def start : Progress := ⟨.empty, [], none⟩

/-- Complains if an option that can be given only once was given before. -/
def checkNew (p : Progress) (o : Opt) : Except Stop Unit :=
  if o ∈ p.given ∧ o.repeatable = false then .error (.refused (.conflict o o)) else .ok ()

/-- An option takes effect with its values. -/
def take (p : Progress) (o : Opt) (values : List String) : Except Stop Progress := do
  if values.isEmpty then throw (.refused (.missingValue o))
  p.checkNew o
  let line ← (values.foldlM (fun line => addValue line o) p.line).mapError Stop.refused
  return { p with line, given := p.given ++ [o] }

/-- The option that waits takes effect. -/
def settle (p : Progress) : Except Stop Progress :=
  match p.waiting with
  | some (o, values) => take { p with waiting := none } o values
  | none => .ok p

/-- An option is met that has no value attached. -/
def meet (p : Progress) (o : Opt) (long : Bool) : Except Stop Progress := do
  let p ← p.settle
  if o.arity = .none then
    p.checkNew o
    return { p with line := ← p.line.addFlag o long, given := p.given ++ [o] }
  else return { p with waiting := some (o, []) }

/-- Reads a token. -/
def step (p : Progress) : Token → Except Stop Progress
  | .plain text =>
    match p.waiting with
    | some (o, values) =>
      if o.arity = .one ∧ values ≠ [] then .error (.refused (.unknown text))
      else .ok { p with waiting := some (o, values ++ [text]) }
    | none => .error (.refused (.unknown text))
  | .option o long => p.meet o long
  | .valued o value =>
    if o.arity = .none then .error (.refused (.unwantedValue o value))
    else do (← p.settle).take o [value]
  | .stray text => .error (.refused (.unknown text))

/-- The complaint about options that exclude each other. -/
def conflict? (p : Progress) : Option Refusal :=
  if p.line.config.isSome && p.line.noConfig then
    if p.given.find? (fun o => o = .config ∨ o = .noConfig) = some .config then
      some (.conflict .config .noConfig)
    else some (.conflict .noConfig .config)
  else none

end Progress

/-- What some arguments ask for. -/
def parse (arguments : List String) : Except Stop CommandLine := do
  let p ← (← (Token.ofArguments arguments).foldlM Progress.step .start).settle
  match p.conflict? with
  | some r => throw (.refused r)
  | none => return p.line

end CommandLine

end TextLimits
