/-! # Sets of characters

A set is a list of ranges of code points, in ascending order, with a gap between any two.  The
operations keep this form (`CharSet.ofRanges`), so a set is empty only if its list is. -/

namespace TextLimits

/-- A set of code points. -/
structure CharSet where
  ranges : List (Nat × Nat)
  deriving DecidableEq, Inhabited

namespace CharSet

/-- The greatest code point. -/
def maxCode : Nat := 0x10FFFF

def empty : CharSet := ⟨[]⟩

def all : CharSet := ⟨[(0, maxCode)]⟩

/-- Joins ranges that overlap or touch; `done` is newest first. -/
def join (done : List (Nat × Nat)) : List (Nat × Nat) → List (Nat × Nat)
  | [] => done.reverse
  | (lo, hi) :: rest =>
    match done with
    | [] => join [(lo, hi)] rest
    | (lo', hi') :: done =>
      if lo ≤ hi' + 1 then join ((lo', max hi' hi) :: done) rest
      else join ((lo, hi) :: (lo', hi') :: done) rest

/-- The set of all code points in some range, where a range may be given in any order and a range
that goes down is empty. -/
def ofRanges (ranges : List (Nat × Nat)) : CharSet :=
  ⟨join [] ((ranges.filter fun r => r.1 ≤ r.2).mergeSort fun a b => a.1 ≤ b.1)⟩

def range (lo hi : Nat) : CharSet := ofRanges [(lo, hi)]

def singleton (c : Char) : CharSet := range c.toNat c.toNat

def union (a b : CharSet) : CharSet := ofRanges (a.ranges ++ b.ranges)

/-- The ranges between the given ones, from `start` on. -/
def gaps (start : Nat) : List (Nat × Nat) → List (Nat × Nat)
  | [] => if start ≤ maxCode then [(start, maxCode)] else []
  | (lo, hi) :: rest =>
    if start < lo then (start, lo - 1) :: gaps (hi + 1) rest else gaps (hi + 1) rest

def compl (a : CharSet) : CharSet := ⟨gaps 0 a.ranges⟩

def inter (a b : CharSet) : CharSet := (a.compl.union b.compl).compl

def diff (a b : CharSet) : CharSet := a.inter b.compl

def symmDiff (a b : CharSet) : CharSet := (a.diff b).union (b.diff a)

/-- Whether a code point is in one of some ascending ranges. -/
def inRanges (code : Nat) : List (Nat × Nat) → Bool
  | [] => false
  | (lo, hi) :: rest => if code < lo then false else if code ≤ hi then true else inRanges code rest

/-- Whether a code point is in the set. -/
def contains (a : CharSet) (code : Nat) : Bool := inRanges code a.ranges

def isEmpty (a : CharSet) : Bool := a.ranges.isEmpty

/-- Whether all members are ASCII. -/
def isAscii (a : CharSet) : Bool := a.ranges.all fun r => decide (r.2 ≤ 0x7F)

/-! ### Tables as text -/

/-- The value of a hexadecimal digit, and zero for anything else. -/
def hexDigit (c : Char) : Nat :=
  if '0' ≤ c ∧ c ≤ '9' then c.toNat - '0'.toNat
  else if 'A' ≤ c ∧ c ≤ 'F' then c.toNat - 'A'.toNat + 10
  else if 'a' ≤ c ∧ c ≤ 'f' then c.toNat - 'a'.toNat + 10
  else 0

/-- Reads a table: code points in hexadecimal, alone or as `LO-HI`, separated by blanks.  `lo` is
the lower end of the range being read, `code` the number being read. -/
def parse (done : List (Nat × Nat)) (lo code : Option Nat) : List Char → List (Nat × Nat)
  | [] =>
    match code with
    | none => done.reverse
    | some n => ((lo.getD n, n) :: done).reverse
  | c :: rest =>
    if c = '-' then parse done code none rest
    else if c = ' ' ∨ c = '\n' then
      match code with
      | none => parse done none none rest
      | some n => parse ((lo.getD n, n) :: done) none none rest
    else parse done lo (some (code.getD 0 * 16 + hexDigit c)) rest

/-- The set that a table of ascending ranges describes. -/
def ofTable (text : String) : CharSet := ⟨parse [] none none text.toList⟩

end CharSet

end TextLimits
