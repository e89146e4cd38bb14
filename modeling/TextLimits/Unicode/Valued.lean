import TextLimits.Unicode.Age
import TextLimits.Unicode.Segmentation

/-! # Sets of characters by a value

Besides properties that a character has or lacks there are those that have a value for every
character.  The set of the characters with a given value is found under the names of both
(`valued?`). -/

namespace TextLimits.Unicode

/-- Short names of the classes that decide about single characters. -/
def graphemeAliases : List (String × String) := [
  ("cn", "control"), ("ex", "extend"), ("pp", "prepend"), ("ri", "regionalindicator"),
  ("sm", "spacingmark")]

/-- Short names of the classes that decide about words. -/
def wordAliases : List (String × String) := [
  ("le", "aletter"), ("dq", "doublequote"), ("ex", "extendnumlet"), ("fo", "format"),
  ("hl", "hebrewletter"), ("ka", "katakana"), ("ml", "midletter"), ("mn", "midnum"),
  ("mb", "midnumlet"), ("nl", "newline"), ("nu", "numeric"), ("ri", "regionalindicator"),
  ("sq", "singlequote")]

/-- Short names of the classes that decide about sentences. -/
def sentenceAliases : List (String × String) := [
  ("at", "aterm"), ("cl", "close"), ("ex", "extend"), ("fo", "format"), ("lo", "lower"),
  ("nu", "numeric"), ("le", "oletter"), ("sc", "scontinue"), ("se", "sep"), ("st", "sterm"),
  ("up", "upper")]

/-- The set of a class under its name or a short one. -/
def classNamed? (classes : List (String × CharSet)) (aliases : List (String × String))
    (name : String) : Option CharSet :=
  classSet? classes ((aliases.lookup name).getD name)

/-- The other spelling of a version: a `v` and the numbers without the dot. -/
def versionAlias (version : String) : String := "v" ++ String.ofList (version.toList.filter (· ≠ '.'))

/-- The characters that came with a version or before. -/
def age? (version : String) : Option CharSet :=
  let isMeant (entry : String × String) := entry.1 = version || versionAlias entry.1 = version
  (ageRanges.findIdx? isMeant).map fun i =>
    unions ((ageRanges.take (i + 1)).map fun entry => CharSet.ofTable entry.2)

/-- The set of the characters for which something has a given value. -/
def valued? (name value : String) : Option CharSet :=
  let value := normalise value
  match normalise name with
  | "gc" | "generalcategory" => category? value
  | "sc" | "script" => script? value
  | "scx" | "scriptextensions" => scriptExtension? value
  | "age" => age? value
  | "gcb" | "graphemeclusterbreak" => classNamed? graphemeClasses graphemeAliases value
  | "wb" | "wordbreak" => classNamed? wordClasses wordAliases value
  | "sb" | "sentencebreak" => classNamed? sentenceClasses sentenceAliases value
  | _ => none

end TextLimits.Unicode
