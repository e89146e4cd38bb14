import TextLimits.Glob.Expression
import TextLimits.Glob.Parser
import TextLimits.Glob.Match
import TextLimits.Fault

/-! # Globs

A glob is a text that denotes tokens; it matches the text of a path as a whole. -/

namespace TextLimits

/-- A glob with what it means. -/
structure Glob where
  source : String
  tokens : List Glob.Token

namespace Glob

/-- The glob that a text denotes. -/
def parse (source : String) : Except Fault Glob :=
  match tokens? source.toList with
  | some tokens => .ok ⟨source, tokens⟩
  | none => .error (.glob source)

/-- Whether a glob matches the text of a path. -/
def isMatch (g : Glob) (path : String) : Bool :=
  matchesBytes g.tokens (Utf8.encode path.toList)

/-- How deep the operators of the expression for a glob are nested. -/
def depth (g : Glob) : Nat := (expression g.tokens).depth

/-- Whether a glob only asks for a file name or its extension. -/
def aboutName (g : Glob) : Bool := asksForName g.tokens

end Glob

end TextLimits
