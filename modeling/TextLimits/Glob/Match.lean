import TextLimits.Glob.Token
import TextLimits.Text.Utf8

/-! # Matching globs

Globs are matched against bytes.  A table says for every end piece of a text, longest first and the
empty one last, whether it is acceptable.  A token turns the table for what comes after it into the
table for itself and what comes after it, so no alternative is ever tried twice and the time is
bounded by the number of tokens times the length of the text. -/

namespace TextLimits.Glob

/-- Acceptance of every end piece of a text. -/
abbrev Table := List Bool

/-- Acceptance of the empty end piece alone. -/
def Table.atEnd (text : List UInt8) : Table := text.map (fun _ => false) ++ [true]

/-- One byte with a property, and then what a table accepts. -/
def Table.one (p : UInt8 → Bool) : List UInt8 → Table → Table
  | b :: text, _ :: k => (p b && k.headD false) :: Table.one p text k
  | _, _ => [false]

/-- Any number of bytes with a property, and then what a table accepts. -/
def Table.many (p : UInt8 → Bool) : List UInt8 → Table → Table
  | b :: text, accepted :: k =>
    let rest := Table.many p text k
    (accepted || (p b && rest.headD false)) :: rest
  | _, k => k

/-- What either of two tables accepts. -/
def Table.or (a b : Table) : Table := a.zipWith (· || ·) b

/-- The byte that separates directories. -/
def slash : UInt8 := 47

/-- Whether a byte is within the ranges of a class.  A range of characters is taken byte by byte:
all bytes of its ends, and those between the last byte of the one and the first of the other. -/
def inRange (b : UInt8) (r : Char × Char) : Bool :=
  let lo := String.utf8EncodeChar r.1
  let hi := String.utf8EncodeChar r.2
  lo.contains b || hi.contains b ||
    (r.1 ≠ r.2 && decide (lo.getLastD 0 ≤ b) && decide (b ≤ hi.headD 0))

/-- Whether a class has a byte as a member. -/
def inClass (negated : Bool) (ranges : List (Char × Char)) (b : UInt8) : Bool :=
  (ranges.any (inRange b)) != negated

mutual

/-- What a token followed by what a table accepts matches. -/
def Token.table (text : List UInt8) : Token → Table → Table
  | .literal c, k => (String.utf8EncodeChar c).foldr (fun b k => Table.one (· == b) text k) k
  | .any, k => Table.one (· != slash) text k
  | .star, k => Table.many (· != slash) text k
  | .treePrefix, k => k.or (Table.many (fun _ => true) text (Table.one (· == slash) text k))
  | .treeSuffix, k => Table.one (· == slash) text (Table.many (fun _ => true) text k)
  | .treeMiddle, k =>
    Table.one (· == slash) text
      (k.or (Table.many (fun _ => true) text (Table.one (· == slash) text k)))
  | .cls negated ranges, k => Table.one (inClass negated ranges) text k
  | .alternates branches, k => if allBlank branches then k else branchesTable text branches k

/-- What a list of tokens followed by what a table accepts matches. -/
def listTable (text : List UInt8) : List Token → Table → Table
  | [], k => k
  | t :: rest, k => t.table text (listTable text rest k)

/-- What some branch that is not blank, followed by what a table accepts, matches. -/
def branchesTable (text : List UInt8) : List (List Token) → Table → Table
  | [], k => k.map fun _ => false
  | b :: rest, k =>
    if isBlankList b then branchesTable text rest k
    else (listTable text b k).or (branchesTable text rest k)

end

/-- Whether tokens match the whole of a text.  Two stars alone match everything. -/
def matchesBytes (tokens : List Token) (text : List UInt8) : Bool :=
  match tokens with
  | [.treePrefix] => true
  | _ => (listTable text tokens (Table.atEnd text)).headD false

end TextLimits.Glob
