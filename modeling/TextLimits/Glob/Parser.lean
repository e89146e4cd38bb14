import TextLimits.Glob.Token

/-! # Reading globs

The reader takes one character at a time (`State.step`).  What a star means can depend on the
character after it, so stars, escapes and classes are kept open (`Pending`) until that character has
come.  The glob is complete when nothing is open at its end. -/

namespace TextLimits.Glob

/-- How far a class has been read: nothing, perhaps the negation, or some member. -/
inductive ClassStage where
  | opened
  | first
  | later
  deriving DecidableEq

/-- A class being read: its ranges, newest first, and whether a hyphen waits for an upper end. -/
structure OpenClass where
  negated : Bool
  ranges : List (Char × Char)
  stage : ClassStage
  hyphen : Bool

/-- What is open at some point of a glob. -/
inductive Pending where
  | none
  | escape
  | star
  | doubleStar
  | cls (c : OpenClass)

/-- An open brace: the tokens before it and the finished branches, both newest first. -/
structure Frame where
  outer : List Token
  branches : List (List Token)

/-- A glob read up to some point: the open braces, the tokens of the branch being read, newest
first, and the last character before what is pending. -/
structure State where
  frames : List Frame
  tokens : List Token
  previous : Option Char
  pending : Pending

namespace State

def initial : State := ⟨[], [], none, .none⟩

/-- A further token, read with a last character. -/
def push (s : State) (t : Token) (last : Char) : State :=
  { s with tokens := t :: s.tokens, previous := some last, pending := .none }

/-- Two stars that turned out to be just that. -/
def pushStars (s : State) : State := (s.push .star '*').push .star '*'

/-- Puts a token in the place of the last one; a reading of two stars at the start or the end stays
as it is. -/
def replaceLast (s : State) (t : Token) (last : Char) : State :=
  let tokens := match s.tokens with
    | .treePrefix :: rest => .treePrefix :: rest
    | .treeSuffix :: rest => .treeSuffix :: rest
    | _ :: rest => t :: rest
    | [] => [t]
  { s with tokens, previous := some last, pending := .none }

/-- Whether two stars are preceded by what separates directories. -/
def afterSeparator (s : State) : Bool :=
  s.previous = some '/' ||
    (!s.frames.isEmpty && (s.previous = some ',' || s.previous = some '{'))

/-- A character where nothing is open. -/
def plain (s : State) (c : Char) : Option State :=
  match c with
  | '?' => some (s.push .any c)
  | '*' => some { s with pending := .star }
  | '[' => some { s with pending := .cls ⟨false, [], .opened, false⟩ }
  | '\\' => some { s with pending := .escape }
  | '{' => some ⟨⟨s.tokens, []⟩ :: s.frames, [], some c, .none⟩
  | '}' =>
    match s.frames with
    | [] => none
    | f :: frames =>
      some ⟨frames, .alternates (s.tokens.reverse :: f.branches).reverse :: f.outer, some c, .none⟩
  | ',' =>
    match s.frames with
    | [] => some (s.push (.literal c) c)
    | f :: frames => some ⟨⟨f.outer, s.tokens.reverse :: f.branches⟩ :: frames, [], some c, .none⟩
  | _ => some (s.push (.literal c) c)

/-- The character after two stars.  A slash that belongs to their reading is used up by it. -/
def afterStars (s : State) (c : Char) : Option State :=
  if s.tokens.isEmpty then
    if c = '/' then some (s.push .treePrefix c) else s.pushStars.plain c
  else if s.afterSeparator then
    if !s.frames.isEmpty ∧ (c = ',' ∨ c = '}') then (s.replaceLast .treeSuffix '*').plain c
    else if c = '/' then some (s.replaceLast .treeMiddle c)
    else s.pushStars.plain c
  else s.pushStars.plain c

/-- The upper end of the last range of a class, which must not be below the lower one. -/
def extend (ranges : List (Char × Char)) (c : Char) : Option (List (Char × Char)) :=
  match ranges with
  | (lo, _) :: rest => if lo ≤ c then some ((lo, c) :: rest) else none
  | [] => none

/-- A member of a class: alone, or the upper end of a range if a hyphen waits for one. -/
def classMember (s : State) (o : OpenClass) (c : Char) : Option State :=
  if o.hyphen then
    (extend o.ranges c).map fun ranges =>
      { s with pending := .cls { o with ranges, stage := .later, hyphen := false } }
  else if c = '-' ∧ o.stage = .later then
    some { s with pending := .cls { o with hyphen := true } }
  else
    some { s with pending := .cls { o with ranges := (c, c) :: o.ranges, stage := .later } }

/-- A character inside a class.  A closing bracket in the first place and a hyphen in the first or
last place are members. -/
def inClass (s : State) (o : OpenClass) (c : Char) : Option State :=
  if o.stage = .opened ∧ (c = '!' ∨ c = '^') then
    some { s with pending := .cls { o with negated := true, stage := .first } }
  else if c = ']' ∧ o.stage = .later then
    let ranges := if o.hyphen then ('-', '-') :: o.ranges else o.ranges
    some (s.push (.cls o.negated ranges.reverse) c)
  else s.classMember o c

/-- One more character. -/
def step (s : State) (c : Char) : Option State :=
  match s.pending with
  | .none => s.plain c
  | .escape => some (s.push (.literal c) c)
  | .star =>
    if c = '*' then some { s with pending := .doubleStar } else (s.push .star '*').plain c
  | .doubleStar => s.afterStars c
  | .cls o => s.inClass o c

/-- The end of the glob. -/
def finish (s : State) : Option (List Token) :=
  if !s.frames.isEmpty then none
  else
    match s.pending with
    | .none => some s.tokens.reverse
    | .escape | .cls _ => none
    | .star => some (s.push .star '*').tokens.reverse
    | .doubleStar =>
      if s.tokens.isEmpty then some [.treePrefix]
      else if s.afterSeparator then some (s.replaceLast .treeSuffix '*').tokens.reverse
      else some s.pushStars.tokens.reverse

end State

/-- The tokens of a glob, if it is one. -/
def tokens? (source : List Char) : Option (List Token) :=
  (source.foldlM State.step State.initial).bind State.finish

end TextLimits.Glob
