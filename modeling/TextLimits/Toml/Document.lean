import TextLimits.Toml.Statement

/-! # TOML documents

The statements of a document are carried out one after another.  A table is headed once, a key is
given once, and what is closed cannot be added to: an inline table, an array of values, and a table
with a header if it is reached by a dotted key. -/

namespace TextLimits.Toml

/-- The names of a key. -/
def Key.names (key : Key) : Except Error (List String) := key.mapM id

/-- The last of some names and those before it. -/
def splitLast (names : List String) : Except Error (List String × String) :=
  match names.getLast? with
  | some last => .ok (names.dropLast, last)
  | none => .error .malformed

/-- Puts a value in the place of the one under a name. -/
def Entries.replace (entries : Entries) (name : String) (value : Value) : Entries :=
  entries.map fun e => if e.1 = name then (name, value) else e

/-- Puts a value under a new name. -/
def Entries.add (entries : Entries) (name : String) (value : Value) : Entries :=
  entries ++ [(name, value)]

/-- Whether a table may be entered, by a dotted key or by a header. -/
def TableKind.isOpen (byDots : Bool) : TableKind → Bool
  | .inline => false
  | .headed => !byDots
  | .implied | .dotted => true

/-- Changes the table at a list of names.  Tables that are missing on the way are made; an array of
tables is entered at its last one. -/
def descend (byDots : Bool) (change : TableKind → Entries → Option Entries) :
    List String → TableKind → Entries → Option Entries
  | [], kind, entries => change kind entries
  | name :: rest, _, entries =>
    match entries.lookup name with
    | none =>
      let kind := if byDots then .dotted else .implied
      (descend byDots change rest kind []).map fun sub => entries.add name (.table kind sub)
    | some (.table kind sub) =>
      if kind.isOpen byDots then
        (descend byDots change rest kind sub).map fun sub => entries.replace name (.table kind sub)
      else none
    | some (.array true items) =>
      match items.getLast? with
      | some (.table kind sub) =>
        (descend byDots change rest kind sub).map fun sub =>
          entries.replace name (.array true (items.dropLast ++ [.table kind sub]))
      | _ => none
    | some _ => none

/-- Gives a value to a dotted key. -/
def assign (path : List String) (name : String) (value : Value) (kind : TableKind)
    (entries : Entries) : Option Entries :=
  descend true (fun kind entries =>
    if (kind == .dotted) == path.isEmpty ∨ (entries.lookup name).isSome then none
    else some (entries.add name value)) path kind entries

/-- Begins a table. -/
def head (name : String) (entries : Entries) : Option Entries :=
  match entries.lookup name with
  | none => some (entries.add name (.table .headed []))
  | some (.table .implied sub) => some (entries.replace name (.table .headed sub))
  | some _ => none

/-- Begins a further table of an array. -/
def headArray (name : String) (entries : Entries) : Option Entries :=
  match entries.lookup name with
  | none => some (entries.add name (.array true [.table .headed []]))
  | some (.array true items) =>
    some (entries.replace name (.array true (items ++ [.table .headed []])))
  | some _ => none

/-- What cannot be done is malformed. -/
def orMalformed {α : Type} : Option α → Except Error α
  | some a => .ok a
  | none => .error .malformed

mutual

/-- The value that is written. -/
def Written.value : Written → Except Error Value
  | .string s => s.map .string
  | .word v => orMalformed v
  | .array items => (Written.values items).map (.array false)
  | .inline entries => (Written.entries entries []).map (.table .inline)

/-- The values that are written. -/
def Written.values : List Written → Except Error (List Value)
  | [] => .ok []
  | w :: rest => do
    let v ← w.value
    return v :: (← Written.values rest)

/-- The entries of an inline table, added to those before. -/
def Written.entries : List (Key × Written) → Entries → Except Error Entries
  | [], done => .ok done
  | (key, w) :: rest, done => do
    let (path, name) ← splitLast (← Key.names key)
    let v ← w.value
    Written.entries rest (← orMalformed (assign path name v .inline done))

end

/-- A document being put together: its entries, and where the last header stands. -/
structure Draft where
  entries : Entries
  place : List String

/-- Carries out a statement. -/
def Draft.apply (d : Draft) : Statement → Except Error Draft
  | .header key => do
    let (path, name) ← splitLast (← Key.names key)
    let entries ← orMalformed (descend false (fun _ es => head name es) path .headed d.entries)
    return ⟨entries, path ++ [name]⟩
  | .arrayHeader key => do
    let (path, name) ← splitLast (← Key.names key)
    let entries ← orMalformed (descend false (fun _ es => headArray name es) path .headed d.entries)
    return ⟨entries, path ++ [name]⟩
  | .assign key w => do
    let (path, name) ← splitLast (← Key.names key)
    let v ← w.value
    let entries ← orMalformed (descend false (assign path name v) d.place .headed d.entries)
    return ⟨entries, d.place⟩

/-- The entries of the document that a text denotes. -/
def document (text : List Char) : Except Error Entries := do
  let all ← orMalformed (statements? text)
  return (← all.foldlM Draft.apply ⟨[], []⟩).entries

end TextLimits.Toml
