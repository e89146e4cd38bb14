import TextLimits.Path

/-! # File trees

A tree has directories, files and links, with texts for names.  A way through it is followed from the top
(`Tree.follow`): names lead into directories, links are replaced by the way they name, and two dots
lead to the directory that the last step was really taken from.  A way that meets more than
`maxLinks` links leads nowhere, so links in a circle do no harm.  A directory may be closed to those who
ask for all of its entries, and still lead on to each of them by its name. -/

namespace TextLimits

/-- A file: what can be read from it, and whether reading then fails. -/
structure File where
  content : List UInt8
  breaksOff : Bool
  deriving DecidableEq

/-- A file tree. -/
inductive Tree where
  | file (f : File)
  | link (target : String)
  /-- A directory, and whether its entries can be listed. -/
  | dir (entries : List (String × Tree)) (listed : Bool := true)

namespace Tree

/-- A directory without entries. -/
def empty : Tree := .dir []

/-- The entry of a directory under a name.  There is none without a name. -/
def child? (name : String) : Tree → Option Tree
  | .dir entries _ => if name.isEmpty then none else entries.lookup name
  | _ => none

/-- The subtree at a list of names, without following links. -/
def at? (t : Tree) : List String → Option Tree
  | [] => some t
  | name :: rest => (t.child? name).bind fun t => at? t rest

def isDir : Tree → Bool
  | .dir _ _ => true
  | _ => false

/-- The most links that a way may meet. -/
def maxLinks : Nat := 40

/-- Follows a way from a place, given what becomes of a way that is met with one more link. -/
def followWith (top : Tree) (viaLink : List String → List Segment → Option (List String)) :
    (place : List String) → List Segment → Option (List String)
  | place, [] => some place
  | place, .current :: rest =>
    if (top.at? place).any isDir then followWith top viaLink place rest else none
  | place, .parent :: rest =>
    if (top.at? place).any isDir then followWith top viaLink place.dropLast rest else none
  | place, .name name :: rest =>
    match top.at? (place ++ [name]) with
    | none => none
    | some (.link target) =>
      viaLink (if Path.isAbsolute target then [] else place) (Path.steps target ++ rest)
    | some _ => followWith top viaLink (place ++ [name]) rest

/-- The place where a way ends, when it may still meet a number of links. -/
def followAtMost (top : Tree) : Nat → List String → List Segment → Option (List String)
  | 0 => followWith top fun _ _ => none
  | links + 1 => followWith top (followAtMost top links)

/-- The place where a way from the top ends. -/
def follow (top : Tree) (way : List Segment) : Option (List String) :=
  followAtMost top maxLinks [] way

/-- What is at the end of a way from the top. -/
def find? (top : Tree) (way : List Segment) : Option Tree :=
  (top.follow way).bind top.at?

/-- The file at the end of a way. -/
def file? (top : Tree) (way : List Segment) : Option File :=
  match top.find? way with
  | some (.file f) => some f
  | _ => none

end Tree

end TextLimits
