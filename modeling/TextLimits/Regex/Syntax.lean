/-! # Syntax trees of regular expressions

What a regular expression says, before it is decided what its parts mean: flags, names of character
sets and brackets are kept as written.  `Ast.depth` counts how deep operators are nested. -/

namespace TextLimits.Regex

/-- What can be switched on and off inside an expression. -/
inductive Flag where
  | ignoreCase
  | multiLine
  | dotAll
  | swapGreed
  | unicode
  | crlf
  | ignoreSpace
  deriving DecidableEq

/-- Flags in the order given, each with whether it is switched on. -/
abbrev FlagChange := List (Flag × Bool)

/-- What a change does to one flag, if anything. -/
def FlagChange.state? (change : FlagChange) (flag : Flag) : Option Bool :=
  change.lookup flag

/-- One character.  Written as two hexadecimal digits it may also name a byte. -/
structure Literal where
  char : Char
  byte : Bool

/-- The character sets with a letter of their own. -/
inductive Letter where
  | digit
  | space
  | word

/-- A name of a character set: a single name, or a value of something named. -/
inductive SetName where
  | named (name : String)
  | valued (name value : String)

/-- The ways to combine two bracketed sets. -/
inductive SetOp where
  | inter
  | diff
  | symmDiff

/-- What stands between brackets. -/
inductive ClassExpr where
  | empty
  | literal (l : Literal)
  | range (lo hi : Literal)
  /-- An ASCII set given by its ranges. -/
  | ascii (ranges : List (Nat × Nat)) (negated : Bool)
  | letter (l : Letter) (negated : Bool)
  | property (name : SetName) (negated : Bool)
  | union (a b : ClassExpr)
  | combine (op : SetOp) (a b : ClassExpr)
  | bracket (negated : Bool) (body : ClassExpr)

/-- Conditions on a place between two characters. -/
inductive Assertion where
  | lineStart
  | lineEnd
  | textStart
  | textEnd
  | wordBoundary
  | notWordBoundary
  | wordStart
  | wordEnd
  | wordStartHalf
  | wordEndHalf

/-- What a group is for. -/
inductive Group where
  | capture
  | plain (change : FlagChange)

/-- A regular expression as written. -/
inductive Ast where
  | empty
  | literal (l : Literal)
  | dot
  | assertion (a : Assertion)
  | letter (l : Letter) (negated : Bool)
  | property (name : SetName) (negated : Bool)
  | bracket (negated : Bool) (body : ClassExpr)
  | repeated (min : Nat) (max : Option Nat) (sub : Ast)
  | flags (change : FlagChange)
  | group (kind : Group) (sub : Ast)
  | concat (parts : List Ast)
  | alternation (branches : List Ast)

/-- A sequence of parts; a single part stands for itself. -/
def Ast.ofParts : List Ast → Ast
  | [] => .empty
  | [part] => part
  | parts => .concat parts

/-- A choice between branches; a single branch stands for itself. -/
def Ast.ofBranches : List Ast → Ast
  | [] => .empty
  | [branch] => branch
  | branches => .alternation branches

/-- The members of a bracket; a single member stands for itself. -/
def ClassExpr.ofItems : List ClassExpr → ClassExpr
  | [] => .empty
  | [item] => item
  | item :: rest => .union item (ofItems rest)

/-! ### Depth -/

mutual

/-- How deep the operators of a bracket's content are nested. -/
def ClassExpr.depth : ClassExpr → Nat
  | .union a b => 1 + max a.depth b.memberDepth
  | .combine _ a b => 1 + max a.depth b.depth
  | .bracket _ body => 1 + body.depth
  | _ => 0

/-- The same for the remaining members of a list of members, which are on one level. -/
def ClassExpr.memberDepth : ClassExpr → Nat
  | .union a b => max a.depth b.memberDepth
  | .combine _ a b => 1 + max a.depth b.depth
  | .bracket _ body => 1 + body.depth
  | _ => 0

end

mutual

/-- How deep the operators of an expression are nested. -/
def Ast.depth : Ast → Nat
  | .bracket _ body => 1 + body.depth
  | .repeated _ _ sub => 1 + sub.depth
  | .group _ sub => 1 + sub.depth
  | .concat parts => 1 + Ast.listDepth parts
  | .alternation branches => 1 + Ast.listDepth branches
  | _ => 0

/-- The greatest depth in a list. -/
def Ast.listDepth : List Ast → Nat
  | [] => 0
  | a :: rest => max a.depth (Ast.listDepth rest)

end

/-- The deepest nesting of operators that is allowed. -/
def maxDepth : Nat := 250

end TextLimits.Regex
