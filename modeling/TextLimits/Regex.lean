import TextLimits.Regex.Parser
import TextLimits.Regex.Match
import TextLimits.Regex.Size

/-! # Regular expressions

A regular expression is a text that denotes a program of acceptable size.  It matches a line if its
program matches somewhere in it. -/

namespace TextLimits

/-- A regular expression with what it means. -/
structure Regex where
  source : String
  program : Regex.Program

namespace Regex

/-- The program that a text denotes, if it is a regular expression. -/
def program? (source : String) : Option Program :=
  (Ast.parse? source).bind fun ast =>
    (Program.ofAst? ast).bind fun p => if p.fits then some p else none

/-- The regular expression that a text denotes. -/
def compile? (source : String) : Option Regex := (program? source).map (⟨source, ·⟩)

/-- Whether a regular expression matches somewhere in a line. -/
def isMatch (r : Regex) (line : List Char) : Bool := r.program.matches line

end Regex

end TextLimits
