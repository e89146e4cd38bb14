import TextLimits.Regex.Syntax
import TextLimits.Unicode.Valued
import TextLimits.Unicode.CaseFolding

/-! # The meaning of regular expressions

A program is an expression in which every flag and every name has been resolved: it consists of sets
of characters, conditions on places, and ways to combine them.  Without the Unicode flag every set
must stay within ASCII, since text is matched by characters and never by parts of them. -/

namespace TextLimits.Regex

/-- A condition on the place between two characters. -/
inductive Look where
  | textStart
  | textEnd
  | lineStart
  | lineEnd
  | lineStartCrlf
  | lineEndCrlf
  | boundary (words : CharSet)
  | notBoundary (words : CharSet)
  | wordStart (words : CharSet)
  | wordEnd (words : CharSet)
  | wordStartHalf (words : CharSet)
  | wordEndHalf (words : CharSet)

/-- A resolved expression. -/
inductive Program where
  | empty
  /-- One character of a set. -/
  | one (set : CharSet)
  | look (l : Look)
  | seq (a b : Program)
  | alt (a b : Program)
  | rep (min : Nat) (max : Option Nat) (sub : Program)
  | capture (sub : Program)

/-- Whether a program can match the empty text only. -/
def Program.isNullary : Program → Bool
  | .empty | .look _ => true
  | .one _ => false
  | .seq a b | .alt a b => a.isNullary && b.isNullary
  | .rep _ max sub => max = some 0 || sub.isNullary
  | .capture sub => sub.isNullary

/-- A repetition.  What matches the empty text only need not be repeated more than once. -/
def Program.repeated (min : Nat) (max : Option Nat) (sub : Program) : Program :=
  let (min, max) :=
    if sub.isNullary then (Nat.min min 1, some ((max.map (Nat.min · 1)).getD 1)) else (min, max)
  if min = 0 ∧ max = some 0 then .empty
  else if min = 1 ∧ max = some 1 then sub
  else .rep min max sub

/-- One program after another. -/
def Program.append : Program → Program → Program
  | .empty, b => b
  | a, .empty => a
  | a, b => .seq a b

/-- The flags that bear on meaning. -/
structure Flags where
  ignoreCase : Bool
  multiLine : Bool
  dotAll : Bool
  unicode : Bool
  crlf : Bool

namespace Flags

/-- The flags at the start of an expression. -/
def initial : Flags := ⟨false, false, false, true, false⟩

def apply (f : Flags) (change : FlagChange) : Flags where
  ignoreCase := (change.state? .ignoreCase).getD f.ignoreCase
  multiLine := (change.state? .multiLine).getD f.multiLine
  dotAll := (change.state? .dotAll).getD f.dotAll
  unicode := (change.state? .unicode).getD f.unicode
  crlf := (change.state? .crlf).getD f.crlf

/-! ### Sets of characters -/

def asciiDigits : CharSet := CharSet.range 0x30 0x39
def asciiBlanks : CharSet := CharSet.ofRanges [(0x09, 0x0D), (0x20, 0x20)]
def asciiWords : CharSet :=
  CharSet.ofRanges [(0x30, 0x39), (0x41, 0x5A), (0x5F, 0x5F), (0x61, 0x7A)]

/-- The characters that words are made of. -/
def words (f : Flags) : CharSet := if f.unicode then Unicode.wordChars else asciiWords

def letterSet (f : Flags) : Letter → CharSet
  | .digit => if f.unicode then Unicode.digits else asciiDigits
  | .space => if f.unicode then Unicode.blanks else asciiBlanks
  | .word => f.words

/-- A set with its members in either case. -/
def foldAscii (s : CharSet) : CharSet :=
  let upper := s.inter (CharSet.range 0x41 0x5A)
  let lower := s.inter (CharSet.range 0x61 0x7A)
  CharSet.ofRanges (s.ranges ++ upper.ranges.map (fun r => (r.1 + 0x20, r.2 + 0x20)) ++
    lower.ranges.map (fun r => (r.1 - 0x20, r.2 - 0x20)))

def fold (f : Flags) (s : CharSet) : CharSet :=
  if !f.ignoreCase then s else if f.unicode then Unicode.foldCase s else foldAscii s

/-- A set that must lie within ASCII unless the Unicode flag is on. -/
def checked (f : Flags) (s : CharSet) : Option CharSet :=
  if f.unicode || s.isAscii then some s else none

def negated (f : Flags) (negated : Bool) (s : CharSet) : Option CharSet :=
  f.checked (if negated then s.compl else s)

/-- Case is folded before a set is negated, never after. -/
def foldedAndNegated (f : Flags) (isNegated : Bool) (s : CharSet) : Option CharSet :=
  f.negated isNegated (f.fold s)

/-- A set under a name; names need the Unicode flag. -/
def named (f : Flags) (name : SetName) (isNegated : Bool) : Option CharSet :=
  if !f.unicode then none
  else
    let set := match name with
      | .named name => Unicode.named? name
      | .valued name value => Unicode.valued? name value
    set.bind (f.foldedAndNegated isNegated)

/-- A character between brackets.  Without the Unicode flag it must be ASCII. -/
def memberCode (f : Flags) (l : Literal) : Option Nat :=
  if f.unicode || l.char.toNat ≤ 0x7F then some l.char.toNat else none

/-- The set that the inside of a bracket describes. -/
def classSet (f : Flags) : ClassExpr → Option CharSet
  | .empty => some CharSet.empty
  | .literal l => (f.memberCode l).map fun c => CharSet.range c c
  | .range lo hi => do return CharSet.range (← f.memberCode lo) (← f.memberCode hi)
  | .ascii ranges isNegated => f.foldedAndNegated isNegated (CharSet.ofRanges ranges)
  | .letter l isNegated => f.negated isNegated (f.letterSet l)
  | .property name isNegated => f.named name isNegated
  | .union a b => do return (← f.classSet a).union (← f.classSet b)
  | .combine op a b => do
    let a := f.fold (← f.classSet a)
    let b := f.fold (← f.classSet b)
    return match op with
      | .inter => a.inter b
      | .diff => a.diff b
      | .symmDiff => a.symmDiff b
  | .bracket isNegated body => do f.foldedAndNegated isNegated (← f.classSet body)

/-! ### Expressions -/

/-- A character outside brackets.  A byte beyond ASCII names no character. -/
def literal (f : Flags) (l : Literal) : Option Program :=
  if !f.unicode && l.byte && 0x7F < l.char.toNat then none
  else if !f.unicode && 0x7F < l.char.toNat then some (.one (CharSet.singleton l.char))
  else some (.one (f.fold (CharSet.singleton l.char)))

/-- Any character, or any but those that end lines. -/
def dot (f : Flags) : Option Program :=
  if !f.unicode then none
  else if f.dotAll then some (.one CharSet.all)
  else if f.crlf then some (.one (CharSet.ofRanges [(10, 10), (13, 13)]).compl)
  else some (.one (CharSet.range 10 10).compl)

def assertion (f : Flags) : Assertion → Look
  | .lineStart => if f.multiLine then if f.crlf then .lineStartCrlf else .lineStart else .textStart
  | .lineEnd => if f.multiLine then if f.crlf then .lineEndCrlf else .lineEnd else .textEnd
  | .textStart => .textStart
  | .textEnd => .textEnd
  | .wordBoundary => .boundary f.words
  | .notWordBoundary => .notBoundary f.words
  | .wordStart => .wordStart f.words
  | .wordEnd => .wordEnd f.words
  | .wordStartHalf => .wordStartHalf f.words
  | .wordEndHalf => .wordEndHalf f.words

mutual

/-- Resolves an expression.  A change of flags holds to the end of the group that it stands in, also
for the branches that follow, so the flags are handed on. -/
def program (f : Flags) : Ast → Option (Program × Flags)
  | .empty => some (.empty, f)
  | .literal l => (f.literal l).map (·, f)
  | .dot => f.dot.map (·, f)
  | .assertion a => some (.look (f.assertion a), f)
  | .letter l isNegated => (f.negated isNegated (f.letterSet l)).map fun s => (.one s, f)
  | .property name isNegated => (f.named name isNegated).map fun s => (.one s, f)
  | .bracket isNegated body => do
    let set ← f.classSet body
    let set ← f.foldedAndNegated isNegated set
    return (.one set, f)
  | .repeated min max sub => do
    let (sub, f) ← program f sub
    return (Program.repeated min max sub, f)
  | .flags change => some (.empty, f.apply change)
  | .group .capture sub => do
    let (sub, _) ← program f sub
    return (.capture sub, f)
  | .group (.plain change) sub => do
    let (sub, _) ← program (f.apply change) sub
    return (sub, f)
  | .concat parts => sequence f parts
  | .alternation branches => choice f branches

/-- Resolves parts that follow one another. -/
def sequence (f : Flags) : List Ast → Option (Program × Flags)
  | [] => some (.empty, f)
  | part :: rest => do
    let (a, f) ← program f part
    let (b, f) ← sequence f rest
    return (a.append b, f)

/-- Resolves branches. -/
def choice (f : Flags) : List Ast → Option (Program × Flags)
  | [] => some (.one CharSet.empty, f)
  | [branch] => program f branch
  | branch :: rest => do
    let (a, f) ← program f branch
    let (b, f) ← choice f rest
    return (.alt a b, f)

end

end Flags

/-- The program of an expression. -/
def Program.ofAst? (ast : Ast) : Option Program :=
  (Flags.initial.program ast).map Prod.fst

end TextLimits.Regex
