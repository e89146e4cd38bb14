/-! # What can be wrong with a settings document

A document is not TOML at all, or it is TOML whose content does not fit the settings.  Only the
second kind says more (`Mismatch.message`). -/

namespace TextLimits.Toml

/-- A place where a document does not fit what is read from it. -/
inductive Mismatch where
  /-- A key that has no meaning where it stands. -/
  | unknownField (name : String) (expected : List String)
  /-- A value of the wrong kind. -/
  | wrongType (found wanted : String)
  /-- A value of the right kind that is out of range. -/
  | wrongValue (found wanted : String)
  /-- An escape that names no character. -/
  | escapeOutOfRange
  deriving DecidableEq

/-- A name between grave accents. -/
def quoted (name : String) : String := "\x60" ++ name ++ "\x60"

/-- The keys that would have been accepted. -/
def expectation : List String → String
  | [] => "there are no fields"
  | [name] => "expected " ++ quoted name
  | names => "expected one of " ++ ", ".intercalate (names.map quoted)

def Mismatch.message : Mismatch → String
  | .unknownField name expected => "unknown field " ++ quoted name ++ ", " ++ expectation expected
  | .wrongType found wanted => "invalid type: " ++ found ++ ", expected " ++ wanted
  | .wrongValue found wanted => "invalid value: " ++ found ++ ", expected " ++ wanted
  | .escapeOutOfRange => "invalid value, expected unicode hexadecimal value"

/-- Why a document was refused. -/
inductive Error where
  | malformed
  | mismatch (reason : Mismatch)
  deriving DecidableEq

end TextLimits.Toml
