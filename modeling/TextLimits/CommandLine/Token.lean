import TextLimits.CommandLine.Opt

/-! # Tokens of a command line

An argument is read without regard to those before it: `--name` and `--name=value` are long
spellings, one dash starts a cluster of letters of which the last may have its value attached, and
all else, a lone dash included, is plain.  Two dashes alone end the options. -/

namespace TextLimits.CommandLine

/-- A piece of a command line. -/
inductive Token where
  /-- A text that is no option. -/
  | plain (text : String)
  /-- An option without a value attached, and whether it is spelled out. -/
  | option (o : Opt) (long : Bool)
  /-- An option with a value attached. -/
  | valued (o : Opt) (value : String)
  /-- What can be neither an option nor a value. -/
  | stray (text : String)
  deriving DecidableEq

namespace Token

/-- The token of what follows two dashes. -/
def ofLong (body : List Char) : Token :=
  let name := String.ofList (body.takeWhile (· ≠ '='))
  match Opt.ofLongName? name, body.dropWhile (· ≠ '=') with
  | none, _ => .stray ("--" ++ name)
  | some o, [] => .option o true
  | some o, _ :: value => .valued o (String.ofList value)

/-- The value attached to a letter, after an equals sign if there is one. -/
def attached : List Char → String
  | '=' :: value => String.ofList value
  | value => String.ofList value

/-- The tokens of a cluster of letters. -/
def ofLetters : List Char → List Token
  | [] => []
  | c :: rest =>
    match Opt.ofLetter? c with
    | none => [.stray ("-" ++ String.singleton c)]
    | some o =>
      if o.arity = .none then .option o false :: ofLetters rest
      else if rest = [] then [.option o false]
      else [.valued o (attached rest)]

/-- The tokens of an argument. -/
def ofArgument (argument : String) : List Token :=
  match argument.toList with
  | '-' :: '-' :: body => [ofLong body]
  | '-' :: c :: rest => ofLetters (c :: rest)
  | _ => [.plain argument]

/-- The tokens of a command line. -/
def ofArguments : List String → List Token
  | [] => []
  | argument :: rest =>
    if argument = "--" then rest.map .stray else ofArgument argument ++ ofArguments rest

end Token

end TextLimits.CommandLine
