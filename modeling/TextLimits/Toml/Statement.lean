import TextLimits.Toml.Text

/-! # Reading TOML statements

A document is a list of statements, one a line: headers of tables and values under keys.  What a
statement says is read here; whether the statements agree is decided when the document is put
together.  Strings that are spoilt and words that denote nothing are kept as such, since a fault in
the structure of the document counts before them wherever it is. -/

namespace TextLimits.Toml

/-- A key; each part is a name. -/
abbrev Key := List Spelled

/-- A value as written. -/
inductive Written where
  | string (s : Spelled)
  /-- A number, boolean or time, if the word is one. -/
  | word (value : Option Value)
  | array (items : List Written)
  | inline (entries : List (Key × Written))

/-- A line of a document. -/
inductive Statement where
  /-- A table. -/
  | header (key : Key)
  /-- A further table in an array. -/
  | arrayHeader (key : Key)
  | assign (key : Key) (value : Written)

/-! ### Blanks and comments -/

def isBlank (c : Char) : Bool := c = ' ' || c = '\t'

def skipBlanks (cs : List Char) : List Char := cs.dropWhile isBlank

/-- A line break, or the end of the document. -/
def lineBreak : List Char → Option (List Char)
  | [] => some []
  | '\n' :: rest => some rest
  | '\r' :: '\n' :: rest => some rest
  | _ => none

/-- What is left after a comment, at the end of its line. -/
def skipComment (cs : List Char) : Option (List Char) :=
  match cs with
  | '#' :: rest =>
    let body := rest.takeWhile fun c => c ≠ '\n' && c ≠ '\r'
    if body.any isControl then none else some (rest.drop body.length)
  | _ => some cs

/-- The end of a line: blanks, perhaps a comment, and the line break. -/
def endOfLine (cs : List Char) : Option (List Char) :=
  (skipComment (skipBlanks cs)).bind lineBreak

/-- Skips blanks, line breaks and comments. -/
def skipSpace (comment : Bool) : List Char → Option (List Char)
  | [] => some []
  | c :: rest =>
    if c = '\n' ∨ (c = '\r' ∧ rest.head? = some '\n') then skipSpace false rest
    else if comment then if isControl c then none else skipSpace true rest
    else if isBlank c then skipSpace false rest
    else if c = '#' then skipSpace true rest
    else some (c :: rest)

/-! ### Keys -/

def isBareChar (c : Char) : Bool := c.isAlphanum || c = '_' || c = '-'

/-- One part of a key. -/
def keyPart : Reader Spelled
  | '"' :: rest => basicString Spelling.empty .plain rest
  | '\x27' :: rest => literalString Spelling.empty rest
  | cs =>
    let name := cs.takeWhile isBareChar
    if name.isEmpty then none else some (.ok (String.ofList name), cs.drop name.length)

/-- The parts of a key with dots between them. -/
def key : Nat → Reader Key
  | 0, _ => none
  | fuel + 1, cs => do
    let (part, cs) ← keyPart (skipBlanks cs)
    match skipBlanks cs with
    | '.' :: cs =>
      let (parts, cs) ← key fuel cs
      return (part :: parts, cs)
    | cs => return ([part], cs)

/-! ### Values -/

/-- A key, the equals sign and a value. -/
def assignment (item : Reader Written) (cs : List Char) : Option ((Key × Written) × List Char) := do
  let (key, cs) ← key (cs.length + 1) cs
  let cs ← expect '=' cs
  let (value, cs) ← item (skipBlanks cs)
  return ((key, value), cs)

/-- Entries with commas between them, up to a closing character; a comma may follow the last one. -/
def sequence {α : Type} (close : Char) (entry : Reader α) : Nat → List α → Reader (List α)
  | 0, _, _ => none
  | fuel + 1, done, cs => do
    match ← skipSpace false cs with
    | [] => none
    | c :: more =>
      if c = close then return (done.reverse, more)
      let (a, cs) ← entry (c :: more)
      match ← skipSpace false cs with
      | [] => none
      | c :: cs =>
        if c = ',' then sequence close entry fuel (a :: done) cs
        else if c = close then return ((a :: done).reverse, cs)
        else none

def isWordChar (c : Char) : Bool :=
  !(['\n', '\r', '\t', ' ', '=', ',', '[', ']', '\x7b', '\x7d', '#', '"', '\x27'].contains c)

/-- A word: a number, a boolean or a time.  A date and a time may have a blank between them. -/
def word : Reader Written := fun cs =>
  let first := cs.takeWhile isWordChar
  let rest := cs.drop first.length
  if first.isEmpty then none
  else
    match isDateShaped first, rest with
    | true, ' ' :: c :: more =>
      if c.isDigit then
        let second := (c :: more).takeWhile isWordChar
        some (.word (scalar? (first ++ ' ' :: second)), (c :: more).drop second.length)
      else some (.word (scalar? first), rest)
    | _, _ => some (.word (scalar? first), rest)

/-- A value, with brackets and braces nested at most so deep. -/
def value : Nat → Reader Written
  | 0, _ => none
  | depth + 1, cs =>
    match cs with
    | '"' :: '"' :: '"' :: rest =>
      (multilineString Spelling.empty .plain (dropLineBreak rest)).map fun (s, cs) => (.string s, cs)
    | '"' :: rest => (basicString Spelling.empty .plain rest).map fun (s, cs) => (.string s, cs)
    | '\x27' :: '\x27' :: '\x27' :: rest =>
      (multilineLiteral Spelling.empty 0 (dropLineBreak rest)).map fun (s, cs) => (.string s, cs)
    | '\x27' :: rest => (literalString Spelling.empty rest).map fun (s, cs) => (.string s, cs)
    | '[' :: rest =>
      (sequence ']' (value depth) (rest.length + 1) [] rest).map fun (items, cs) => (.array items, cs)
    | '\x7b' :: rest =>
      (sequence '\x7d' (assignment (value depth)) (rest.length + 1) [] rest).map fun (es, cs) =>
        (.inline es, cs)
    | _ => word cs

/-- How deep brackets and braces may be nested. -/
def maxDepth : Nat := 80

/-! ### Lines -/

/-- The line of a header, after its first bracket. -/
def headerLine : Reader Statement
  | '[' :: cs => do
    let (key, cs) ← key (cs.length + 1) cs
    let cs ← expect ']' (← expect ']' cs)
    return (.arrayHeader key, ← endOfLine cs)
  | cs => do
    let (key, cs) ← key (cs.length + 1) cs
    return (.header key, ← endOfLine (← expect ']' cs))

/-- The line of a value under a key. -/
def assignLine : Reader Statement := fun cs => do
  let ((key, value), cs) ← assignment (value (maxDepth + 1)) cs
  return (.assign key value, ← endOfLine cs)

/-- All statements of a document. -/
def statements : Nat → List Statement → List Char → Option (List Statement)
  | 0, _, _ => none
  | fuel + 1, done, cs =>
    match skipBlanks cs with
    | [] => some done.reverse
    | '\n' :: cs => statements fuel done cs
    | '[' :: cs => (headerLine cs).bind fun (s, cs) => statements fuel (s :: done) cs
    | c :: cs =>
      if c = '#' ∨ c = '\r' then (endOfLine (c :: cs)).bind (statements fuel done)
      else (assignLine (c :: cs)).bind fun (s, cs) => statements fuel (s :: done) cs

/-- The statements of a text; a mark of the byte order at its start is skipped. -/
def statements? (text : List Char) : Option (List Statement) :=
  let cs := match text with
    | '\uFEFF' :: cs => cs
    | cs => cs
  statements (cs.length + 1) [] cs

end TextLimits.Toml
