import TextLimits.Toml.Error
import TextLimits.Toml.Scalar

/-! # Reading TOML strings

A string is read one character at a time, with what is open between characters kept as a mode.  An
escape that cannot be understood spoils the string but not the reading of what comes after it, so a
string is a text or the first error in it. -/

namespace TextLimits.Toml

/-- A reader takes something off the start of a text. -/
abbrev Reader (α : Type) := List Char → Option (α × List Char)

/-- A text, or why it is none. -/
abbrev Spelled := Except Error String

/-- A string being read: its characters, newest first, and the first error. -/
structure Spelling where
  chars : List Char
  error : Option Error

namespace Spelling

def empty : Spelling := ⟨[], none⟩

def push (s : Spelling) (c : Char) : Spelling := { s with chars := c :: s.chars }

/-- A number of equal characters more. -/
def pushMany (s : Spelling) (c : Char) (n : Nat) : Spelling :=
  { s with chars := List.replicate n c ++ s.chars }

def spoil (s : Spelling) (e : Error) : Spelling := { s with error := s.error.or (some e) }

/-- The character of a code point; a surrogate and a number that is too great are none. -/
def pushCode (s : Spelling) (code : Nat) : Spelling :=
  if h : code.isValidChar then s.push (Char.ofNatAux code h)
  else s.spoil (.mismatch .escapeOutOfRange)

def result (s : Spelling) : Spelled :=
  match s.error with
  | some e => .error e
  | none => .ok (String.ofList s.chars.reverse)

end Spelling

/-- Characters that may not stand for themselves in a string on one line. -/
def isControl (c : Char) : Bool := (c.toNat < 0x20 && c ≠ '\t') || c.toNat = 0x7F

/-- What is open inside a string with escapes: nothing, an escape, the digits of one, quotes that may
end the string, or a line break to be left out. -/
inductive TextMode where
  | plain
  | escape
  | digits (left value : Nat)
  | quotes (count : Nat)
  | lineEnd
  | nextLine

/-- The character after a backslash. -/
def escaped (s : Spelling) (c : Char) : Spelling × TextMode :=
  match c with
  | 'b' => (s.push '\x08', .plain)
  | 't' => (s.push '\t', .plain)
  | 'n' => (s.push '\n', .plain)
  | 'f' => (s.push '\x0c', .plain)
  | 'r' => (s.push '\r', .plain)
  | 'e' => (s.push '\x1b', .plain)
  | '"' => (s.push '"', .plain)
  | '\\' => (s.push '\\', .plain)
  | 'x' => (s, .digits 2 0)
  | 'u' => (s, .digits 4 0)
  | 'U' => (s, .digits 8 0)
  | _ => (s.spoil .malformed, .plain)

/-- One digit of an escape. -/
def escapeDigit (s : Spelling) (left value : Nat) (c : Char) : Spelling × TextMode :=
  if isHex c then
    let value := value * 16 + CharSet.hexDigit c
    if left ≤ 1 then (s.pushCode value, .plain) else (s, .digits (left - 1) value)
  else (s.spoil .malformed, .plain)

/-- The inside of a string on one line with escapes, up to its closing quote. -/
def basicString (s : Spelling) (mode : TextMode) : Reader Spelled
  | [] => none
  | c :: rest =>
    if c = '\n' ∨ c = '\r' then none
    else
      match mode with
      | .escape =>
        let (s, mode) := escaped s c
        basicString s mode rest
      | .digits left value =>
        if c = '"' then some ((s.spoil .malformed).result, rest)
        else
          let (s, mode) := escapeDigit s left value c
          basicString s mode rest
      | _ =>
        if c = '"' then some (s.result, rest)
        else if c = '\\' then basicString s .escape rest
        else if isControl c then basicString (s.spoil .malformed) .plain rest
        else basicString (s.push c) .plain rest

/-- The inside of a string on one line without escapes, up to its closing quote. -/
def literalString (s : Spelling) : Reader Spelled
  | [] => none
  | c :: rest =>
    if c = '\n' ∨ c = '\r' then none
    else if c = '\x27' then some (s.result, rest)
    else if isControl c then literalString (s.spoil .malformed) rest
    else literalString (s.push c) rest

/-- A character that may stand for itself on several lines.  A carriage return must be followed by a
line feed. -/
def pushLine (s : Spelling) (c : Char) (rest : List Char) : Spelling :=
  if c = '\n' ∨ (c = '\r' ∧ rest.head? = some '\n') then s.push c
  else if isControl c then s.spoil .malformed
  else s.push c

/-- The inside of a string on several lines with escapes.  Up to two quotes may stand directly before
the three that end it. -/
def multilineString (s : Spelling) (mode : TextMode) : Reader Spelled
  | [] =>
    match mode with
    | .quotes n => if 3 ≤ n then some ((s.pushMany '"' (n - 3)).result, []) else none
    | _ => none
  | c :: rest =>
    match mode with
    | .plain =>
      if c = '"' then multilineString s (.quotes 1) rest
      else if c = '\\' then multilineString s .escape rest
      else multilineString (pushLine s c rest) .plain rest
    | .quotes n =>
      if c = '"' then
        if n = 4 then some ((s.pushMany '"' 2).result, rest)
        else multilineString s (.quotes (n + 1)) rest
      else if 3 ≤ n then some ((s.pushMany '"' (n - 3)).result, c :: rest)
      else
        let s := s.pushMany '"' n
        if c = '\\' then multilineString s .escape rest
        else multilineString (pushLine s c rest) .plain rest
    | .escape =>
      if c = ' ' ∨ c = '\t' ∨ (c = '\r' ∧ rest.head? = some '\n') then
        multilineString s .lineEnd rest
      else if c = '\n' then multilineString s .nextLine rest
      else
        let (s, mode) := escaped s c
        multilineString s mode rest
    | .digits left value =>
      let (s, mode) := escapeDigit s left value c
      multilineString s mode rest
    | .lineEnd =>
      if c = '\n' then multilineString s .nextLine rest
      else if c = ' ' ∨ c = '\t' ∨ (c = '\r' ∧ rest.head? = some '\n') then
        multilineString s .lineEnd rest
      else multilineString (s.spoil .malformed) .plain rest
    | .nextLine =>
      if c = '\n' ∨ c = ' ' ∨ c = '\t' ∨ (c = '\r' ∧ rest.head? = some '\n') then
        multilineString s .nextLine rest
      else if c = '"' then multilineString s (.quotes 1) rest
      else if c = '\\' then multilineString s .escape rest
      else multilineString (pushLine s c rest) .plain rest

/-- The inside of a string on several lines without escapes, with the number of quotes just read. -/
def multilineLiteral (s : Spelling) (quotes : Nat) : Reader Spelled
  | [] => if 3 ≤ quotes then some ((s.pushMany '\x27' (quotes - 3)).result, []) else none
  | c :: rest =>
    if c = '\x27' then
      if quotes = 4 then some ((s.pushMany '\x27' 2).result, rest)
      else multilineLiteral s (quotes + 1) rest
    else if 3 ≤ quotes then some ((s.pushMany '\x27' (quotes - 3)).result, c :: rest)
    else multilineLiteral (pushLine (s.pushMany '\x27' quotes) c rest) 0 rest

/-- A line break at the very start of a string on several lines is left out. -/
def dropLineBreak : List Char → List Char
  | '\n' :: rest => rest
  | '\r' :: '\n' :: rest => rest
  | cs => cs

end TextLimits.Toml
