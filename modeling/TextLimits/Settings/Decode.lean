import TextLimits.Settings
import TextLimits.Toml.Document
import TextLimits.Text.Quoted

/-! # Settings from a document

A settings document holds one table, `check`.  No key may be there that has no meaning; the keys of
a table are looked at in the order of their names, so the first of them that is wrong is the one
that is named.  The table may also be given as an array of its values in their fixed order. -/

namespace TextLimits.Settings

open Toml

/-- The names of the settings, in their fixed order. -/
def fieldNames : List String :=
  ["inputs", "excludes", "ignore_lines_matching", "max_line_length", "max_lines_in_file"]

/-- What is said about an integer.  One that does not fit 128 bits cannot be represented. -/
def integerText (n : Int) : Except Error String :=
  let text := "integer " ++ quoted (toString n)
  if -Int.pow 2 63 ≤ n ∧ n < Int.pow 2 64 then .ok text
  else if -Int.pow 2 127 ≤ n ∧ n < Int.pow 2 127 then .ok (text ++ " as i128")
  else if 0 ≤ n ∧ n < Int.pow 2 128 then .ok (text ++ " as u128")
  else .error .malformed

/-- What a value is said to be when it does not fit. -/
def describe : Value → Except Error String
  | .string s => .ok ("string " ++ Text.quoted s)
  | .integer n => integerText n
  | .float f => (orMalformed f.text?).map fun text => "floating point " ++ quoted text
  | .boolean b => .ok ("boolean " ++ quoted (if b then "true" else "false"))
  | .array .. => .ok "sequence"
  | .datetime | .table .. => .ok "map"

/-- The error for a value that is not what is wanted. -/
def refuse {α : Type} (v : Value) (wanted : String) : Except Error α := do
  .error (.mismatch (.wrongType (← describe v) wanted))

/-- A limit: a whole number of 64 bits. -/
def limitOf (v : Value) : Except Error UInt64 :=
  match v with
  | .integer n =>
    match n.toNat? with
    | some k => if h : k < UInt64.size then .ok (UInt64.ofNatLT k h) else refuse v "usize"
    | none =>
      if -Int.pow 2 63 ≤ n then do .error (.mismatch (.wrongValue (← integerText n) "usize"))
      else refuse v "usize"
  | _ => refuse v "usize"

def stringOf (v : Value) : Except Error String :=
  match v with
  | .string s => .ok s
  | _ => refuse v "a string"

def stringsOf (v : Value) : Except Error (List String) :=
  match v with
  | .array _ items => items.mapM stringOf
  | _ => refuse v "a sequence"

/-- Settings with one of them replaced. -/
def setField (s : Settings) (name : String) (v : Value) : Except Error Settings :=
  match name with
  | "inputs" => do return { s with inputs := ← stringsOf v }
  | "excludes" => do return { s with excludes := ← stringsOf v }
  | "ignore_lines_matching" => do return { s with ignoreLinesMatching := ← stringsOf v }
  | "max_line_length" => do return { s with maxLineLength := ← limitOf v }
  | "max_lines_in_file" => do return { s with maxLinesInFile := ← limitOf v }
  | _ => .error (.mismatch (.unknownField name fieldNames))

/-- The entries of a table in the order of their names. -/
def sorted (entries : Entries) : Entries := entries.mergeSort fun a b => !decide (b.1 < a.1)

/-- The settings in the table `check`. -/
def ofCheck (v : Value) : Except Error Settings :=
  match v with
  | .table _ entries => (sorted entries).foldlM (fun s e => setField s e.1 e.2) default
  | .array _ items => (fieldNames.zip items).foldlM (fun s e => setField s e.1 e.2) default
  | .datetime => .error (.mismatch (.unknownField "$__toml_private_datetime" fieldNames))
  | _ => refuse v "struct CheckConfig"

/-- The settings in a document. -/
def ofEntries (entries : Entries) : Except Error Settings :=
  (sorted entries).foldlM (fun _ e =>
    if e.1 = "check" then ofCheck e.2 else .error (.mismatch (.unknownField e.1 ["check"]))) default

/-- The settings that a text denotes. -/
def ofText (text : List Char) : Except Error Settings := do ofEntries (← document text)

end TextLimits.Settings
