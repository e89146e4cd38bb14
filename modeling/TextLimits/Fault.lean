import TextLimits.Toml.Error

/-! # Faults

Everything that can stop the program, as causes, with the one line of text that a user is shown
(`Fault.message`) and a short category that stays the same when the wording changes. -/

namespace TextLimits

/-- A reason for stopping. -/
inductive Fault where
  /-- The settings cannot be used. -/
  | config (reason : String)
  /-- The settings file cannot be read. -/
  | configRead (path : String)
  /-- The settings file does not hold settings. -/
  | configParse (error : Toml.Error)
  /-- A glob that is none. -/
  | glob (pattern : String)
  /-- An input glob that is nested too deep to be matched: the program breaks off. -/
  | tooDeep (pattern : String)
  /-- A regular expression that is none. -/
  | regex (pattern : String)
  /-- An input file cannot be read. -/
  | fileRead (path : String)
  /-- A record that no inspection can produce. -/
  | invariant (reason : String)
  /-- The system refused to read or write. -/
  | io (reason : String)
  deriving DecidableEq

namespace Fault

/-- The line shown to the user.  The diagnosis of a settings document or a regular expression is
abbreviated to a fixed mark. -/
def message : Fault → String
  | .config reason => "Configuration error: " ++ reason
  | .configRead path => "Failed to read config file: " ++ path
  | .configParse _ => "TOML parse error: <toml error>"
  | .glob pattern => "Invalid glob pattern: " ++ pattern
  | .tooDeep pattern => "Glob pattern is nested too deep: " ++ pattern
  | .regex pattern =>
    "Failed to parse the regular expression " ++ pattern ++ ": <regex error>"
  | .fileRead path => "Failed to read file: " ++ path
  | .invariant reason => "Invariant violation: " ++ reason
  | .io reason => "IO error: " ++ reason

/-- The kind of trouble, in one word. -/
def category : Fault → String
  | .config _ | .configRead _ | .configParse _ => "Config"
  | .glob _ | .tooDeep _ | .regex _ => "Pattern"
  | .fileRead _ => "FileRead"
  | .invariant _ => "Invariant"
  | .io _ => "IO"

end Fault

end TextLimits
