import TextLimits.Inspection.Record
import TextLimits.Transcript

/-! # Reports

The text shown for one inspected file: an `OK` line, or a `FAIL` line with every long line and, if
there are too many lines, a sentence on that (`Report.text`).  A report is written line by line
(`Report.on`).  A record that holds an entry shorter than the limit is not reported at all. -/

namespace TextLimits

/-- The two limits that a file is held to. -/
structure Limits where
  lineLength : Nat
  lineCount : Nat

namespace Report

/-- What ends every line of output. -/
def newline : String := "\n"

/-- The heading over the long lines. -/
def longLinesHeading (limits : Limits) : String :=
  s!"  * The following line(s) have more than allowed {limits.lineLength} characters:" ++ newline

/-- One long line. -/
def longLineText (line : LongLine) : String :=
  s!"    * Line {line.number}: {line.length} characters" ++ newline

/-- The part of a report on long lines; empty if there is none. -/
def longLinesText (limits : Limits) (record : Record) : String :=
  if record.longLines.isEmpty then ""
  else longLinesHeading limits ++ String.join (record.longLines.map longLineText)

/-- The sentence on the number of lines. -/
def lineCountSentence (limits : Limits) (record : Record) : String :=
  s!"  * The file is too long. It contains {record.lineCount} line(s), " ++
    s!"but only {limits.lineCount} line(s) are allowed." ++ newline

/-- The part of a report on the number of lines; empty if it is allowed. -/
def lineCountText (limits : Limits) (record : Record) : String :=
  if limits.lineCount < record.lineCount then lineCountSentence limits record else ""

/-- The report on a file. -/
def text (path : String) (limits : Limits) (record : Record) : String :=
  if record.isClean limits.lineCount then "OK   " ++ path ++ newline
  else
    "FAIL " ++ path ++ newline ++ longLinesText limits record ++ lineCountText limits record

/-- The complaint about an entry that is shorter than the limit. -/
def shortLine (limits : Limits) (line : LongLine) : Fault :=
  .invariant (s!"Invalid line length on line {line.number}: expected at least max line length " ++
    s!"(== {limits.lineLength}), but got: {line.length}")

/-- The complaint about the first entry that is shorter than the limit, if there is one. -/
def fault? (limits : Limits) (record : Record) : Option Fault :=
  (record.longLines.find? fun line => line.length < limits.lineLength).map (shortLine limits)

/-- Writes the part of a report on long lines, line by line. -/
def writeLongLines (limits : Limits) (record : Record) : Transcript Unit :=
  if record.longLines.isEmpty then return ()
  else do
    Transcript.write .out (longLinesHeading limits)
    record.longLines.forM fun line => Transcript.write .out (longLineText line)

/-- Writes the part of a report on the number of lines. -/
def writeLineCount (limits : Limits) (record : Record) : Transcript Unit :=
  if limits.lineCount < record.lineCount then
    Transcript.write .out (lineCountSentence limits record)
  else return ()

/-- Reports on a file line by line, and says whether it passed.  Nothing is written if the record does
not suit the limit. -/
def on (path : String) (limits : Limits) (record : Record) : Transcript Bool :=
  match fault? limits record with
  | some fault => .fail fault
  | none =>
    if record.isClean limits.lineCount then do
      Transcript.write .out ("OK   " ++ path ++ newline)
      return true
    else do
      Transcript.write .out ("FAIL " ++ path ++ newline)
      writeLongLines limits record
      writeLineCount limits record
      return false

end Report

end TextLimits
