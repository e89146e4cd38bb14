import TextLimits.Text.Utf8
import TextLimits.Text.Lines
import TextLimits.Inspection.Record

/-! # Inspection

A line is too long when it has more characters than the limit and no exemption applies.  The length
is counted in characters, without the line ending.  Lines come one by one (`inspectLines`), as a
text (`inspectText`) or as a byte string that arrives in pieces (`inspectStream`); bytes that are no
text are replaced line by line, never refused. -/

namespace TextLimits

/-- What decides whether a line is too long. -/
structure Inspector where
  /-- The greatest length allowed. -/
  limit : Nat
  /-- The lines that may have any length. -/
  exempt : List Char → Bool

/-- An inspection under way: the long lines found, newest first, and the lines seen. -/
structure Scan where
  found : List LongLine
  count : Nat

namespace Scan

def empty : Scan := ⟨[], 0⟩

/-- The record at the end of the file.  Its entries are in place by construction. -/
def record (s : Scan) : Record := ⟨s.found.reverse, s.count⟩

end Scan

namespace Inspector

/-- One more line. -/
def visit (i : Inspector) (s : Scan) (line : List Char) : Scan :=
  if i.limit < line.length ∧ i.exempt line = false then
    ⟨⟨s.count + 1, line.length, s.count.succ_pos⟩ :: s.found, s.count + 1⟩
  else
    ⟨s.found, s.count + 1⟩

/-- The record of a list of lines, whatever they hold. -/
def inspectLines (i : Inspector) (ls : List (List Char)) : Record :=
  (ls.foldl i.visit Scan.empty).record

/-- The record of a text. -/
def inspectText (i : Inspector) (text : List Char) : Record :=
  i.inspectLines (lines LineEnding.chars text)

end Inspector

/-- A byte string that arrives in pieces and may break off with an error. -/
structure Stream where
  pieces : List (List UInt8)
  failure : Option String

/-- An inspection of bytes under way: the scan so far and the open line, newest byte first. -/
structure Stream.Scan where
  scan : TextLimits.Scan
  pending : List UInt8

namespace Inspector

/-- One more byte: a line feed closes the line, which is then decoded and visited. -/
def feed (i : Inspector) (s : Stream.Scan) (b : UInt8) : Stream.Scan :=
  if b = LineEnding.bytes.feed then
    ⟨i.visit s.scan (Utf8.decodeLossy (LineEnding.bytes.close s.pending)), []⟩
  else
    ⟨s.scan, b :: s.pending⟩

/-- The scan at the end of the bytes: an open line counts if it holds anything. -/
def finish (i : Inspector) (s : Stream.Scan) : Scan :=
  match s.pending with
  | [] => s.scan
  | b :: rest => i.visit s.scan (Utf8.decodeLossy (b :: rest).reverse)

/-- The record of a stream, or the error that it breaks off with. -/
def inspectStream (i : Inspector) (stream : Stream) : Except String Record :=
  let s := stream.pieces.foldl (fun s piece => piece.foldl i.feed s) ⟨Scan.empty, []⟩
  match stream.failure with
  | some reason => .error reason
  | none => .ok (i.finish s).record

end Inspector

end TextLimits
