import TextLimits.Regex.Syntax
import TextLimits.Unicode.Named

/-! # Reading regular expressions

The reader goes through the expression once.  Open groups wait on a stack (`Frame`), so the reading
itself needs no recursion on the nesting of groups; brackets recurse on a bound that the length of
the text sets.  While blanks are ignored, blanks and comments are skipped between symbols. -/

namespace TextLimits.Regex

/-- What is left to read, whether blanks are ignored, and the names of the groups so far. -/
structure Cursor where
  rest : List Char
  ignoreSpace : Bool
  names : List (List Char)

/-- A reader that either fails or goes on. -/
abbrev Parser := StateT Cursor Option

namespace Parser

def isBlank (c : Char) : Bool := Unicode.blanks.contains c.toNat

/-- Drops blanks and comments; a comment runs to the end of its line. -/
def dropBlanks (comment : Bool) : List Char → List Char
  | [] => []
  | c :: rest =>
    if comment then dropBlanks (c ≠ '\n') rest
    else if isBlank c then dropBlanks false rest
    else if c = '#' then dropBlanks true rest
    else c :: rest

def fail {α : Type} : Parser α := fun _ => none

/-- Skips blanks if they are ignored. -/
def skipBlank : Parser Unit :=
  modify fun s => if s.ignoreSpace then { s with rest := dropBlanks false s.rest } else s

/-- The next character, if there is one. -/
def peek : Parser (Option Char) := return (← get).rest.head?

/-- The next character; the text must not end here. -/
def current : Parser Char := do
  match ← peek with
  | some c => return c
  | none => fail

/-- Goes past one character. -/
def bump : Parser Unit := modify fun s => { s with rest := s.rest.tail }

/-- Goes past one character and the ignored blanks after it. -/
def bumpSkip : Parser Unit := do
  bump
  skipBlank

/-- Goes past a given text, if it comes next. -/
def accept (text : String) : Parser Bool := do
  let s ← get
  if text.toList.isPrefixOf s.rest then
    set { s with rest := s.rest.drop text.length }
    return true
  else return false

/-- The character after the next one, past ignored blanks.  In a comment the first character that is
no blank counts. -/
def peekSecond : Parser (Option Char) := do
  let s ← get
  let rest := s.rest.tail
  if s.ignoreSpace then
    let rest := rest.dropWhile isBlank
    match rest with
    | '#' :: rest => return (rest.dropWhile isBlank).head?
    | _ => return rest.head?
  else return rest.head?

/-- The longest run of accepted characters, at most `fuel` of them, with ignored blanks after
each. -/
def takeWhile (accepted : Char → Bool) : Nat → Parser (List Char)
  | 0 => return []
  | fuel + 1 => do
    match ← peek with
    | some c =>
      if accepted c then
        bumpSkip
        return c :: (← takeWhile accepted fuel)
      else return []
    | none => return []

/-- A bound on the number of characters left. -/
def left : Parser Nat := return (← get).rest.length

/-! ### Numbers and escapes -/

def isHexDigit (c : Char) : Bool :=
  ('0' ≤ c && c ≤ '9') || ('a' ≤ c && c ≤ 'f') || ('A' ≤ c && c ≤ 'F')

/-- The number that digits denote to a base. -/
def numeral (base : Nat) (digits : List Char) : Nat :=
  digits.foldl (fun n c => n * base + CharSet.hexDigit c) 0

/-- The character of a code point, if it has one. -/
def charOf (code : Nat) : Parser Char :=
  if h : code.isValidChar then return Char.ofNatAux code h else fail

/-- A decimal number that fits 32 bits, with blanks around it allowed. -/
def decimal : Parser Nat := do
  modify fun s => { s with rest := s.rest.dropWhile isBlank }
  let digits ← takeWhile Char.isDigit (← left)
  modify fun s => { s with rest := s.rest.dropWhile isBlank }
  skipBlank
  if digits.isEmpty then fail
  let n := numeral 10 digits
  if n < Nat.pow 2 32 then return n else fail

/-- A fixed number of hexadecimal digits. -/
def hexFixed : Nat → Parser (List Char)
  | 0 => return []
  | n + 1 => do
    let c ← current
    if isHexDigit c then
      bumpSkip
      return c :: (← hexFixed n)
    else fail

/-- A character given by its code point, after the letter that says how many digits there are. -/
def hexEscape (digits : Nat) : Parser Literal := do
  bumpSkip
  if (← current) = '{' then
    bumpSkip
    let ds ← takeWhile isHexDigit (← left)
    if (← current) ≠ '}' ∨ ds.isEmpty then fail
    bumpSkip
    let code := numeral 16 ds
    return ⟨← charOf code, false⟩
  else
    let ds ← hexFixed digits
    return ⟨← charOf (numeral 16 ds), digits = 2⟩

/-- Splits a text at the first occurrence of another. -/
def splitAtFirst (mark : List Char) : List Char → Option (List Char × List Char)
  | [] => none
  | c :: rest =>
    if mark.isPrefixOf (c :: rest) then some ([], (c :: rest).drop mark.length)
    else (splitAtFirst mark rest).map fun (before, after) => (c :: before, after)

/-- A named character set, after the letter that announces it. -/
def setName : Parser SetName := do
  bumpSkip
  let c ← current
  if c = '{' then
    bumpSkip
    let name ← takeWhile (· ≠ '}') (← left)
    let _ ← current
    bump
    let split := (splitAtFirst ['!', '='] name).orElse fun _ =>
      (splitAtFirst [':'] name).orElse fun _ => splitAtFirst ['='] name
    match split with
    | some (name, value) => return .valued (String.ofList name) (String.ofList value)
    | none => return .named (String.ofList name)
  else if c = '\\' then fail
  else
    bumpSkip
    return .named (String.ofList [c])

/-- What a backslash and the text after it stand for, or what a character does by itself. -/
inductive Primitive where
  | literal (l : Literal)
  | assertion (a : Assertion)
  | letter (l : Letter) (negated : Bool)
  | property (name : SetName) (negated : Bool)
  | dot

def isMeta (c : Char) : Bool :=
  ['\\', '.', '+', '*', '?', '(', ')', '|', '[', ']', '{', '}', '^', '$', '#', '&', '-', '~'].contains c

/-- Whether a backslash before a character leaves it as it is: so for ASCII other than letters,
digits and the two marks of word boundaries. -/
def isEscapable (c : Char) : Bool :=
  isMeta c || (c.toNat ≤ 0x7F && !c.isAlphanum && c ≠ '<' && c ≠ '>')

def isWordMarkChar (c : Char) : Bool := c.isAlpha || c = '-'

/-- The rest of a word boundary in braces, if the braces do not hold a number. -/
def wordMark : Parser Assertion := do
  let start ← get
  if start.rest.head? ≠ some '{' then return .wordBoundary
  bumpSkip
  if !isWordMarkChar (← current) then
    set start
    return .wordBoundary
  let name ← takeWhile isWordMarkChar (← left)
  if (← current) ≠ '}' then fail
  bump
  match String.ofList name with
  | "start" => return .wordStart
  | "end" => return .wordEnd
  | "start-half" => return .wordStartHalf
  | "end-half" => return .wordEndHalf
  | _ => fail

/-- An escape, at its backslash. -/
def escape : Parser Primitive := do
  bump
  let c ← current
  match c with
  | 'x' => return .literal (← hexEscape 2)
  | 'u' => return .literal (← hexEscape 4)
  | 'U' => return .literal (← hexEscape 8)
  | 'p' => return .property (← setName) false
  | 'P' => return .property (← setName) true
  | _ =>
    bump
    if isEscapable c then return .literal ⟨c, false⟩
    match c with
    | 'd' => return .letter .digit false
    | 'D' => return .letter .digit true
    | 's' => return .letter .space false
    | 'S' => return .letter .space true
    | 'w' => return .letter .word false
    | 'W' => return .letter .word true
    | 'a' => return .literal ⟨'\x07', false⟩
    | 'f' => return .literal ⟨'\x0c', false⟩
    | 't' => return .literal ⟨'\t', false⟩
    | 'n' => return .literal ⟨'\n', false⟩
    | 'r' => return .literal ⟨'\r', false⟩
    | 'v' => return .literal ⟨'\x0b', false⟩
    | 'A' => return .assertion .textStart
    | 'z' => return .assertion .textEnd
    | 'b' => return .assertion (← wordMark)
    | 'B' => return .assertion .notWordBoundary
    | '<' => return .assertion .wordStart
    | '>' => return .assertion .wordEnd
    | _ => fail

/-- A single symbol outside brackets. -/
def primitive : Parser Ast := do
  match ← current with
  | '\\' =>
    match ← escape with
    | .literal l => return .literal l
    | .assertion a => return .assertion a
    | .letter l negated => return .letter l negated
    | .property name negated => return .property name negated
    | .dot => return .dot
  | '.' => bump; return .dot
  | '^' => bump; return .assertion .lineStart
  | '$' => bump; return .assertion .lineEnd
  | c => bump; return .literal ⟨c, false⟩

/-! ### Brackets -/

/-- The ranges of an ASCII set by its name. -/
def asciiRanges : String → Option (List (Nat × Nat))
  | "alnum" => some [(0x30, 0x39), (0x41, 0x5A), (0x61, 0x7A)]
  | "alpha" => some [(0x41, 0x5A), (0x61, 0x7A)]
  | "ascii" => some [(0x00, 0x7F)]
  | "blank" => some [(0x09, 0x09), (0x20, 0x20)]
  | "cntrl" => some [(0x00, 0x1F), (0x7F, 0x7F)]
  | "digit" => some [(0x30, 0x39)]
  | "graph" => some [(0x21, 0x7E)]
  | "lower" => some [(0x61, 0x7A)]
  | "print" => some [(0x20, 0x7E)]
  | "punct" => some [(0x21, 0x2F), (0x3A, 0x40), (0x5B, 0x60), (0x7B, 0x7E)]
  | "space" => some [(0x09, 0x0D), (0x20, 0x20)]
  | "upper" => some [(0x41, 0x5A)]
  | "word" => some [(0x30, 0x39), (0x41, 0x5A), (0x5F, 0x5F), (0x61, 0x7A)]
  | "xdigit" => some [(0x30, 0x39), (0x41, 0x46), (0x61, 0x66)]
  | _ => none

/-- An ASCII set between colons, at its bracket.  Anything else is left to be read as a bracket. -/
def asciiClass (text : List Char) : Option (ClassExpr × List Char) :=
  match text with
  | '[' :: ':' :: rest =>
    let (negated, rest) := match rest with
      | '^' :: rest => (true, rest)
      | _ => (false, rest)
    let name := rest.takeWhile (· ≠ ':')
    match rest.drop name.length, asciiRanges (String.ofList name) with
    | ':' :: ']' :: rest, some ranges => some (.ascii ranges negated, rest)
    | _, _ => none
  | _ => none

/-- One symbol between brackets. -/
def bracketSymbol : Parser Primitive := do
  let c ← current
  if c = '\\' then escape
  else
    bump
    return .literal ⟨c, false⟩

/-- A member of a bracket from a symbol: conditions on places have no meaning there. -/
def memberOf : Primitive → Parser ClassExpr
  | .literal l => return .literal l
  | .letter l negated => return .letter l negated
  | .property name negated => return .property name negated
  | .assertion _ | .dot => fail

/-- A symbol or a range.  A hyphen before the closing bracket or another hyphen makes no range. -/
def member : Parser ClassExpr := do
  let first ← bracketSymbol
  skipBlank
  let c ← current
  let after ← peekSecond
  if c ≠ '-' ∨ after = some ']' ∨ after = some '-' then memberOf first
  else
    bumpSkip
    match first, ← bracketSymbol with
    | .literal lo, .literal hi => if lo.char ≤ hi.char then return .range lo hi else fail
    | _, _ => fail

/-- Hyphens at the start of a bracket stand for themselves. -/
def leadingHyphens : Nat → Parser (List ClassExpr)
  | 0 => return []
  | fuel + 1 => do
    if (← current) = '-' then
      bumpSkip
      return .literal ⟨'-', false⟩ :: (← leadingHyphens fuel)
    else return []

/-- The opening of a bracket: whether it is negated, and the members that can stand only there. -/
def bracketOpen : Parser (Bool × List ClassExpr) := do
  bumpSkip
  let negated ← if (← current) = '^' then do bumpSkip; pure true else pure false
  let hyphens ← leadingHyphens (← left)
  if hyphens.isEmpty ∧ (← current) = ']' then
    bumpSkip
    let _ ← current
    return (negated, [.literal ⟨']', false⟩])
  let _ ← current
  return (negated, hyphens)

/-- The members so far, combined with what stands before an operator. -/
def combined (before : Option (ClassExpr × SetOp)) (members : List ClassExpr) : ClassExpr :=
  let set := ClassExpr.ofItems members.reverse
  match before with
  | none => set
  | some (lhs, op) => .combine op lhs set

/-- The inside of a bracket up to its end; `members` is newest first. -/
def bracketBody : Nat → Option (ClassExpr × SetOp) → List ClassExpr → Parser ClassExpr
  | 0, _, _ => fail
  | fuel + 1, before, members => do
    skipBlank
    let c ← current
    let s ← get
    let second := s.rest.tail.head?
    if c = '[' then
      match asciiClass s.rest with
      | some (set, rest) =>
        modify fun s => { s with rest }
        bracketBody fuel before (set :: members)
      | none =>
        let (negated, first) ← bracketOpen
        let body ← bracketBody fuel none first.reverse
        bracketBody fuel before (.bracket negated body :: members)
    else if c = ']' then
      bump
      return combined before members
    else if c = '&' ∧ second = some '&' then
      bump; bump
      bracketBody fuel (some (combined before members, .inter)) []
    else if c = '-' ∧ second = some '-' then
      bump; bump
      bracketBody fuel (some (combined before members, .diff)) []
    else if c = '~' ∧ second = some '~' then
      bump; bump
      bracketBody fuel (some (combined before members, .symmDiff)) []
    else
      bracketBody fuel before ((← member) :: members)

/-- A whole bracket. -/
def bracket : Parser Ast := do
  let (negated, first) ← bracketOpen
  return .bracket negated (← bracketBody (2 * (← left) + 2) none first.reverse)

/-! ### Groups and flags -/

def flagOf : Char → Option Flag
  | 'i' => some .ignoreCase
  | 'm' => some .multiLine
  | 's' => some .dotAll
  | 'U' => some .swapGreed
  | 'u' => some .unicode
  | 'R' => some .crlf
  | 'x' => some .ignoreSpace
  | _ => none

/-- Flags up to the colon or parenthesis after them: no flag twice, one hyphen at most, and a flag
after it. -/
def flags (negated dangling : Bool) (done : FlagChange) : Nat → Parser FlagChange
  | 0 => fail
  | fuel + 1 => do
    let c ← current
    if c = ':' ∨ c = ')' then
      if dangling then fail else return done.reverse
    else if c = '-' then
      if negated then fail
      bump
      flags true true done fuel
    else
      match flagOf c with
      | none => fail
      | some flag =>
        if done.any fun f => f.1 = flag then fail
        bump
        flags negated false ((flag, !negated) :: done) fuel

def isNameChar (first : Bool) (c : Char) : Bool :=
  if first then c = '_' || Unicode.alphabetic.contains c.toNat
  else ['_', '.', '[', ']'].contains c || Unicode.alphanumeric.contains c.toNat

/-- The name of a group, up to its closing angle, which no other group may have. -/
def groupName : Parser Unit := do
  let s ← get
  let name := s.rest.takeWhile (· ≠ '>')
  match name with
  | [] => fail
  | c :: rest =>
    if !isNameChar true c ∨ rest.any (!isNameChar false ·) ∨ s.names.contains name then fail
  set { s with rest := s.rest.drop name.length, names := name :: s.names }
  let _ ← current
  bump

/-- What an opening parenthesis begins: a group, or a change of flags that is complete. -/
def groupOpen : Parser (Group ⊕ FlagChange) := do
  bump
  skipBlank
  for mark in ["?=", "?!", "?<=", "?<!"] do
    if mark.toList.isPrefixOf (← get).rest then fail
  if (← accept "?P<") || (← accept "?<") then
    groupName
    return .inl .capture
  else if ← accept "?" then
    let change ← flags false false [] ((← left) + 1)
    let c ← current
    bump
    if c = ')' then
      if change.isEmpty then fail
      return .inr change
    else return .inl (.plain change)
  else return .inl .capture

/-! ### The whole expression -/

/-- A sequence being read and the branches before it, both newest first. -/
structure Level where
  parts : List Ast
  branches : List Ast

def Level.empty : Level := ⟨[], []⟩

def Level.push (level : Level) (part : Ast) : Level := { level with parts := part :: level.parts }

/-- The expression that a level holds at its end. -/
def Level.close (level : Level) : Ast :=
  Ast.ofBranches (Ast.ofParts level.parts.reverse :: level.branches).reverse

/-- An open group: what stands before it, its kind, and whether blanks were ignored outside. -/
structure Frame where
  level : Level
  kind : Group
  ignoreSpace : Bool

/-- The bounds of a repetition in braces, at its brace. -/
def counts : Parser (Nat × Option Nat) := do
  bumpSkip
  let _ ← current
  let min ← decimal
  let max ←
    if (← current) = ',' then do
      bumpSkip
      if (← current) = '}' then pure none else pure (some (← decimal))
    else pure (some min)
  if (← current) ≠ '}' then fail
  bumpSkip
  if max.any (· < min) then fail
  return (min, max)

/-- A repetition of the last part, which must exist and match something. -/
def repetition (level : Level) : Parser Level := do
  match level.parts with
  | [] | .flags _ :: _ | .empty :: _ => fail
  | sub :: parts =>
    let (min, max) ← match ← current with
      | '?' => do bump; pure (0, some 1)
      | '*' => do bump; pure (0, none)
      | '+' => do bump; pure (1, none)
      | _ => counts
    if (← peek) = some '?' then bump
    return { level with parts := .repeated min max sub :: parts }

/-- Switches the ignoring of blanks, if the change says so. -/
def setIgnoreSpace (change : FlagChange) : Parser Unit :=
  match change.state? .ignoreSpace with
  | some on => modify fun s => { s with ignoreSpace := on }
  | none => pure ()

/-- Reads on with the open groups on a stack. -/
def loop : Nat → List Frame → Level → Parser Ast
  | 0, _, _ => fail
  | fuel + 1, stack, level => do
    skipBlank
    match ← peek with
    | none => if stack.isEmpty then return level.close else fail
    | some '(' =>
      match ← groupOpen with
      | .inr change =>
        setIgnoreSpace change
        loop fuel stack (level.push (.flags change))
      | .inl kind =>
        let frame := ⟨level, kind, (← get).ignoreSpace⟩
        if let .plain change := kind then setIgnoreSpace change
        loop fuel (frame :: stack) Level.empty
    | some ')' =>
      match stack with
      | [] => fail
      | frame :: stack =>
        bump
        modify fun s => { s with ignoreSpace := frame.ignoreSpace }
        loop fuel stack (frame.level.push (.group frame.kind level.close))
    | some '|' =>
      bump
      loop fuel stack ⟨[], Ast.ofParts level.parts.reverse :: level.branches⟩
    | some '[' => loop fuel stack (level.push (← bracket))
    | some '?' | some '*' | some '+' | some '{' => loop fuel stack (← repetition level)
    | some _ => loop fuel stack (level.push (← primitive))

end Parser

/-- The expression that a text denotes, if it denotes one and is not nested too deep. -/
def Ast.parse? (source : String) : Option Ast := do
  let chars := source.toList
  let (ast, _) ← (Parser.loop (chars.length + 1) [] Parser.Level.empty).run ⟨chars, false, []⟩
  if ast.depth ≤ maxDepth then some ast else none

end TextLimits.Regex
