/-! # Lines

A line ends at a line feed, which belongs to no line; a carriage return directly before that line
feed is dropped with it.  A text that does not end in a line feed has a last line that keeps all its
symbols, and a final line feed opens no further line.  The same rule serves characters and bytes, so
it is written for any alphabet with the two symbols named. -/

namespace TextLimits

/-- The two symbols that end lines. -/
structure LineEnding (α : Type) where
  feed : α
  ret : α

namespace LineEnding

/-- The line endings of a text. -/
def chars : LineEnding Char := ⟨'\n', '\r'⟩

/-- The line endings of a byte string. -/
def bytes : LineEnding UInt8 := ⟨10, 13⟩

variable {α : Type} [DecidableEq α]

/-- The line that a line feed closes, from its symbols newest first: one carriage return at its end
goes. -/
def close (e : LineEnding α) : List α → List α
  | [] => []
  | c :: rest => if c = e.ret then rest.reverse else (c :: rest).reverse

end LineEnding

/-- A text read up to some point: the lines closed so far and the symbols of the open one, both
newest first. -/
structure LineSplit (α : Type) where
  closed : List (List α)
  pending : List α

namespace LineSplit

variable {α : Type} [DecidableEq α]

/-- Nothing read yet. -/
def empty : LineSplit α := ⟨[], []⟩

/-- One more symbol. -/
def push (e : LineEnding α) (s : LineSplit α) (c : α) : LineSplit α :=
  if c = e.feed then ⟨e.close s.pending :: s.closed, []⟩ else ⟨s.closed, c :: s.pending⟩

/-- All lines at the end of the text; an open line counts if it holds anything. -/
def finish (s : LineSplit α) : List (List α) :=
  match s.pending with
  | [] => s.closed.reverse
  | c :: rest => ((c :: rest).reverse :: s.closed).reverse

end LineSplit

/-- The lines of a text. -/
def lines {α : Type} [DecidableEq α] (e : LineEnding α) (text : List α) : List (List α) :=
  (text.foldl (LineSplit.push e) LineSplit.empty).finish

end TextLimits
