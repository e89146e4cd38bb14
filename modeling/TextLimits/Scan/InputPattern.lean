import TextLimits.Glob
import TextLimits.Tree.Walk

/-! # Input patterns

An input is a glob together with the place where the search for its files begins: the part of it
before the first segment with a special character. -/

namespace TextLimits

/-- A pattern for input files. -/
structure InputPattern where
  glob : Glob
  base : Path

namespace InputPattern

/-- A pattern without the dots and slashes at its start. -/
def strip : List Char → List Char
  | '.' :: '/' :: rest => strip rest
  | text => text

/-- Whether a segment may stand for several names. -/
def isSpecial (s : Segment) : Bool :=
  s.text.toList.any fun c => c = '*' || c = '?' || c = '[' || c = '{'

/-- The path in front of the first special segment. -/
def baseOf (text : String) : Path :=
  let path := Path.ofText text
  { path with segments := path.segments.takeWhile fun s => !isSpecial s }

/-- The pattern that a text denotes.  A glob that is nested too deep to be matched is refused in a way
of its own. -/
def parse (source : String) : Except Fault InputPattern := do
  let text := String.ofList (strip source.toList)
  let glob ← Glob.parse text
  if Regex.maxDepth < glob.depth then .error (.tooDeep text) else .ok ⟨glob, baseOf text⟩

/-- The way to the place where the search begins. -/
def start (root : String) (p : InputPattern) : List Segment :=
  if p.base.absolute then p.base.segments else Path.below root p.base.segments

/-- The path under which a file below the start is known: relative to the root, unless the pattern
is absolute. -/
def candidate (p : InputPattern) (names : List String) : Path :=
  { p.base with
    segments := p.base.segments.filter (· ≠ .current) ++ names.map Segment.name }

/-- The files that a pattern stands for, in the order of the walk. -/
def files (top : Tree) (root : String) (p : InputPattern) : List Path :=
  match top.find? (p.start root) with
  | none => []
  | some t =>
    (t.walk.filter fun names =>
      (top.file? (p.start root ++ names.map Segment.name)).isSome &&
        p.glob.isMatch (p.candidate names).text).map p.candidate

end InputPattern

end TextLimits
