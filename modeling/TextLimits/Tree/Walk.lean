import TextLimits.Tree

/-! # Walking file trees

A walk lists everything below a tree that is no directory, as lists of names.  The entries of a
directory come in the order of their names, each with what is below it; links are listed and not
followed.  A directory that cannot be listed is passed over. -/

namespace TextLimits.Tree

/-- Puts named lists in the order of their names. -/
def sortByName {α : Type} (entries : List (String × α)) : List (String × α) :=
  entries.mergeSort fun a b => !decide (b.1 < a.1)

/-- The name of an entry in front of everything that was listed below it. -/
def prefixed (entry : String × List (List String)) : List (List String) :=
  entry.2.map (entry.1 :: ·)

mutual

/-- Everything in a tree that is no directory. -/
def walk : Tree → List (List String)
  | .dir entries true => (sortByName (walkEntries entries)).flatMap prefixed
  | .dir _ false => []
  | _ => [[]]

/-- Everything below each of some entries. -/
def walkEntries : List (String × Tree) → List (String × List (List String))
  | [] => []
  | (name, t) :: rest => (name, walk t) :: walkEntries rest

end

end TextLimits.Tree
