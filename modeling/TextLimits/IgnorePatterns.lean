import TextLimits.Regex
import TextLimits.Fault
import TextLimits.Report

/-! # Ignore patterns

Lines that match any of these regular expressions may have any length.  Sources that are no regular
expressions are set aside, so that the rest can be used all the same. -/

namespace TextLimits

/-- The regular expressions in effect, in the order given. -/
structure IgnorePatterns where
  regexes : List Regex

namespace IgnorePatterns

def empty : IgnorePatterns := ⟨[]⟩

/-- The patterns among some sources. -/
def ofSources (sources : List String) : IgnorePatterns := ⟨sources.filterMap Regex.compile?⟩

/-- The sources that are no patterns, each as the fault that it is. -/
def rejected (sources : List String) : List Fault :=
  (sources.filter fun source => (Regex.compile? source).isNone).map .regex

/-- Whether some pattern matches a line. -/
def exempts (p : IgnorePatterns) (line : List Char) : Bool :=
  p.regexes.any fun r => r.isMatch line

def isEmpty (p : IgnorePatterns) : Bool := p.regexes.isEmpty

def size (p : IgnorePatterns) : Nat := p.regexes.length

/-- The sources of the patterns in effect. -/
def sources (p : IgnorePatterns) : List String := p.regexes.map Regex.source

/-- The sources on one line. -/
def display (p : IgnorePatterns) : String := " ".intercalate p.sources

/-- The line that tells which patterns were in effect. -/
def summary (p : IgnorePatterns) : String :=
  "The --ignore-lines-matching was set to: " ++ p.display ++ Report.newline

end IgnorePatterns

end TextLimits
