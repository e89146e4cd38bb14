import TextLimits.Fault

/-! # Inspection records

What an inspection finds in one file: how many lines it has and which of them are too long.  Line
numbers start at 1.  A record built from given entries is checked (`Record.ofEntries`): every entry
lies within the file and the numbers ascend strictly. -/

namespace TextLimits

/-- A line that is longer than allowed. -/
structure LongLine where
  number : Nat
  length : Nat
  number_pos : 0 < number
  deriving DecidableEq

/-- The outcome of inspecting one file. -/
structure Record where
  longLines : List LongLine
  lineCount : Nat
  deriving DecidableEq

/-- A way in which entries fail to describe a file. -/
inductive Record.Violation where
  /-- A line numbered zero. -/
  | numberZero
  /-- A line beyond the last one. -/
  | beyondEnd (number lineCount : Nat)
  /-- A line that does not come after its predecessor. -/
  | notAscending (number previous : Nat)
  deriving DecidableEq

def Record.Violation.message : Record.Violation → String
  | .numberZero => "Line numbers are indexed from 1, but got: 0"
  | .beyondEnd number lineCount =>
    s!"Inconsistent line number and line count (== {lineCount}), got: {number}"
  | .notAscending number previous =>
    s!"Line numbers must be strictly ascending, got {number} after {previous}"

def Record.Violation.fault (v : Record.Violation) : Fault := .invariant v.message

/-- An entry from a bare line number. -/
def LongLine.ofNumber (number length : Nat) : Except Record.Violation LongLine :=
  if h : 0 < number then .ok ⟨number, length, h⟩ else .error .numberZero

namespace Record

/-- The record of a file without lines. -/
def empty : Record := ⟨[], 0⟩

/-- The first entry, if any, that is out of place in a file of `lineCount` lines, where `previous`
is the number of the entry before. -/
def violation? (lineCount : Nat) : (previous : Nat) → List LongLine → Option Violation
  | _, [] => none
  | previous, line :: rest =>
    if lineCount < line.number then some (.beyondEnd line.number lineCount)
    else if line.number ≤ previous then some (.notAscending line.number previous)
    else violation? lineCount line.number rest

/-- A record from entries that are in place. -/
def ofEntries (longLines : List LongLine) (lineCount : Nat) : Except Violation Record :=
  match violation? lineCount 0 longLines with
  | some v => .error v
  | none => .ok ⟨longLines, lineCount⟩

/-- A record from bare pairs of line number and length. -/
def ofPairs (pairs : List (Nat × Nat)) (lineCount : Nat) : Except Violation Record := do
  let longLines ← pairs.mapM fun (number, length) => LongLine.ofNumber number length
  ofEntries longLines lineCount

/-- Nothing to complain about: no line too long and not too many lines. -/
def isClean (r : Record) (maxLines : Nat) : Bool :=
  r.longLines.isEmpty && decide (r.lineCount ≤ maxLines)

end Record

end TextLimits
