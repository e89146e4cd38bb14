/-! # Paths

A path is read from a text in two ways.  As a name for comparing and printing (`Path.ofText`) empty
parts and inner dots vanish.  As a way through a file tree (`steps`) a dot, and a slash at the end,
stand for a directory that must exist. -/

namespace TextLimits

/-- A part of a path between slashes. -/
inductive Segment where
  /-- A dot: the same directory. -/
  | current
  /-- Two dots: the directory above. -/
  | parent
  | name (s : String)
  deriving DecidableEq

namespace Segment

/-- The segment that a part stands for; an empty part is a dot. -/
def ofPart (part : List Char) : Segment :=
  if part = [] ∨ part = ['.'] then .current
  else if part = ['.', '.'] then .parent
  else .name (String.ofList part)

def text : Segment → String
  | .current => "."
  | .parent => ".."
  | .name s => s

end Segment

/-- A path by its segments. -/
structure Path where
  absolute : Bool
  segments : List Segment
  deriving DecidableEq

namespace Path

/-- Whether a text starts at the top of the tree. -/
def isAbsolute (text : String) : Bool := text.toList.head? = some '/'

/-- The parts of a text between slashes. -/
def parts (text : String) : List (List Char) := text.toList.splitOn '/'

/-- The path that a text names: empty parts vanish, and so do dots, except for one at the very
start. -/
def ofText (text : String) : Path :=
  let segments := (parts text).map Segment.ofPart
  let kept := segments.filter (· ≠ .current)
  { absolute := isAbsolute text
    segments := if (parts text).head? = some ['.'] then .current :: kept else kept }

/-- A path as text, with single slashes. -/
def text (p : Path) : String :=
  let names := "/".intercalate (p.segments.map Segment.text)
  if p.absolute then "/" ++ names else names

/-- The way that a text describes.  An empty part counts at the end only. -/
def steps (text : String) : List Segment :=
  let ps := parts text
  (ps.dropLast.filter (· ≠ []) ++ ps.getLast?.toList).map Segment.ofPart

/-- The way to a directory that a text names.  The empty text names none. -/
def directory (text : String) : List Segment :=
  if text.isEmpty then [.name ""] else steps text ++ [.current]

/-- The way to some segments below a root.  Where there are none it ends at the root itself, which must
be a directory. -/
def below (root : String) (segments : List Segment) : List Segment :=
  if segments.isEmpty then directory root else steps root ++ segments

/-- A path below a base, the texts put together. -/
def joinText (base text : String) : String :=
  if isAbsolute text ∨ base.isEmpty then text
  else if base.toList.getLast? = some '/' then base ++ text
  else base ++ "/" ++ text

/-- A path below another, as a way through a tree. -/
def stepsFrom (base : String) (p : Path) : List Segment :=
  if p.absolute then p.segments else steps base ++ p.segments

end Path

end TextLimits
