import TextLimits.Tree

/-! # Changes to file trees

An entry is put at a path with the directories above it, or taken away with all that it holds.  The
directories on the path may be links; a file is written through a link, all else replaces it. -/

namespace TextLimits.Tree

/-- Puts something under a name in a list of entries, or takes it away. -/
def alter (name : String) (new : Option Tree) (entries : List (String × Tree)) :
    List (String × Tree) :=
  let others := entries.filter fun e => e.1 ≠ name
  match new with
  | some t => others ++ [(name, t)]
  | none => others

/-- Changes the subtree at a list of names, with directories made on the way if something is put
there. -/
def set (new : Option Tree) : List String → Tree → Tree
  | [], t => new.getD t
  | [name], .dir entries listed => .dir (alter name new entries) listed
  | name :: rest, .dir entries listed =>
    match entries.lookup name with
    | some sub => .dir (alter name (some (set new rest sub)) entries) listed
    | none =>
      if new.isSome then .dir (alter name (some (set new rest empty)) entries) listed
      else .dir entries listed
  | _ :: _, t => t

/-- Makes the directories of a way, each but the first below the one before, and says where it
ends. -/
def makeDirs (top : Tree) (done : List Segment) : List Segment → Option (Tree × List String)
  | [] => (top.follow done).map (top, ·)
  | step :: rest =>
    let way := done ++ [step]
    match top.find? way, step with
    | some _, _ => makeDirs top way rest
    | none, .name name =>
      (top.follow done).bind fun place =>
        makeDirs (set (some empty) (place ++ [name]) top) way rest
    | none, _ => none

/-- The place that a file is written to: through links, as long as they lead somewhere. -/
def writePlace (top : Tree) : Nat → List String → String → List String
  | 0, place, name => place ++ [name]
  | links + 1, place, name =>
    match top.at? (place ++ [name]) with
    | some (.link target) =>
      let steps := Path.steps target
      let start := if Path.isAbsolute target then [] else place
      match followAtMost top maxLinks start steps.dropLast, steps.getLast? with
      | some place, some (.name name) => writePlace top links place name
      | _, _ => place ++ [name]
    | _ => place ++ [name]

/-- Puts an entry at the end of a way. -/
def place (top : Tree) (way : List Segment) (new : Tree) : Tree :=
  match way.getLast? with
  | some (.name name) =>
    match makeDirs top [] way.dropLast with
    | none => top
    | some (top, place) =>
      match new with
      | .file _ => set (some new) (writePlace top maxLinks place name) top
      | .dir _ _ => if (top.find? way).any isDir then top else set (some new) (place ++ [name]) top
      | .link _ => set (some new) (place ++ [name]) top
  | _ => ((makeDirs top [] way).map Prod.fst).getD top

/-- Takes away the entry at the end of a way; a link is taken away itself. -/
def remove (top : Tree) (way : List Segment) : Tree :=
  match way.getLast? with
  | some (.name name) =>
    match top.follow way.dropLast with
    | some place => set none (place ++ [name]) top
    | none => top
  | _ => top

end TextLimits.Tree
