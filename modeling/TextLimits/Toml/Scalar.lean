import TextLimits.Toml.Value
import TextLimits.Unicode.CharSet

/-! # Reading TOML numbers, booleans and times

A word that stands where a value is expected must be one of these as a whole. -/

namespace TextLimits.Toml

/-- The digits of a numeral whose low lines stand between digits, without them. -/
def plainDigits (isDigit : Char → Bool) : List Char → Option (List Char)
  | [] => none
  | [c] => if isDigit c then some [c] else none
  | c :: '_' :: rest =>
    if isDigit c then (plainDigits isDigit rest).map (c :: ·) else none
  | c :: rest => if isDigit c then (plainDigits isDigit rest).map (c :: ·) else none

/-- The number that digits denote to a base. -/
def numeral (base : Nat) (digits : List Char) : Nat :=
  digits.foldl (fun n c => n * base + CharSet.hexDigit c) 0

def isHex (c : Char) : Bool :=
  c.isDigit || ('a' ≤ c && c ≤ 'f') || ('A' ≤ c && c ≤ 'F')

/-- Digits to base ten, without a zero in front of others. -/
def decimalDigits (cs : List Char) : Option (List Char) :=
  match plainDigits Char.isDigit cs with
  | some ('0' :: _ :: _) => none
  | ds => ds

/-- A sign and what follows it. -/
def splitSign : List Char → Bool × List Char
  | '+' :: rest => (false, rest)
  | '-' :: rest => (true, rest)
  | cs => (false, cs)

/-- An integer. -/
def integer? (word : List Char) : Option Int :=
  match word with
  | '0' :: 'x' :: ds => (plainDigits isHex ds).map fun ds => numeral 16 ds
  | '0' :: 'o' :: ds => (plainDigits (fun c => '0' ≤ c && c ≤ '7') ds).map fun ds => numeral 8 ds
  | '0' :: 'b' :: ds => (plainDigits (fun c => c = '0' || c = '1') ds).map fun ds => numeral 2 ds
  | _ =>
    let (negative, ds) := splitSign word
    (decimalDigits ds).map fun ds =>
      if negative then -(numeral 10 ds : Int) else (numeral 10 ds : Int)

/-- The exponent of a floating point number, if there is one. -/
def exponent? (cs : List Char) : Option Int :=
  match cs with
  | [] => some 0
  | e :: rest =>
    if e = 'e' ∨ e = 'E' then
      let (negative, ds) := splitSign rest
      (plainDigits Char.isDigit ds).map fun ds =>
        if negative then -(numeral 10 ds : Int) else (numeral 10 ds : Int)
    else none

/-- A floating point number: it has a fraction or an exponent, or is one of the special ones. -/
def float? (word : List Char) : Option Float :=
  let (negative, body) := splitSign word
  if body = ['i', 'n', 'f'] then some (.infinite negative)
  else if body = ['n', 'a', 'n'] then some .nan
  else
    let isPlain (c : Char) := c.isDigit || c = '_'
    let whole := body.takeWhile isPlain
    (decimalDigits whole).bind fun whole =>
      match body.dropWhile isPlain with
      | [] => none
      | '.' :: rest =>
        (plainDigits Char.isDigit (rest.takeWhile isPlain)).bind fun frac =>
          (exponent? (rest.dropWhile isPlain)).map fun e =>
            .finite negative (numeral 10 (whole ++ frac)) (e - frac.length)
      | rest => (exponent? rest).map fun e => .finite negative (numeral 10 whole) e

/-! ### Times -/

/-- Digits of a fixed number, as a number, and what follows them. -/
def fixedDigits (count : Nat) (cs : List Char) : Option (Nat × List Char) :=
  let ds := cs.take count
  if ds.length = count ∧ ds.all Char.isDigit then some (numeral 10 ds, cs.drop count) else none

/-- Goes past one given character. -/
def expect (c : Char) : List Char → Option (List Char)
  | d :: rest => if d = c then some rest else none
  | [] => none

def daysInMonth (year month : Nat) : Nat :=
  if month = 2 then
    if year % 4 = 0 ∧ (year % 100 ≠ 0 ∨ year % 400 = 0) then 29 else 28
  else if month = 4 ∨ month = 6 ∨ month = 9 ∨ month = 11 then 30
  else 31

/-- A date, and what follows it. -/
def date? (cs : List Char) : Option (List Char) := do
  let (year, cs) ← fixedDigits 4 cs
  let (month, cs) ← fixedDigits 2 (← expect '-' cs)
  let (day, cs) ← fixedDigits 2 (← expect '-' cs)
  if 1 ≤ month ∧ month ≤ 12 ∧ 1 ≤ day ∧ day ≤ daysInMonth year month then some cs else none

/-- A fraction of a second, if there is one, and what follows it. -/
def fraction? (cs : List Char) : Option (List Char) :=
  match cs with
  | '.' :: rest =>
    if (rest.takeWhile Char.isDigit).isEmpty then none else some (rest.dropWhile Char.isDigit)
  | _ => some cs

/-- A time of day, and what follows it.  The seconds may be missing. -/
def time? (cs : List Char) : Option (List Char) := do
  let (hour, cs) ← fixedDigits 2 cs
  let (minute, cs) ← fixedDigits 2 (← expect ':' cs)
  if 23 < hour ∨ 59 < minute then none
  match cs with
  | ':' :: cs =>
    let (second, cs) ← fixedDigits 2 cs
    if 60 < second then none
    fraction? cs
  | _ => some cs

/-- The distance from universal time, or nothing, up to the end. -/
def isOffset (cs : List Char) : Bool :=
  match cs with
  | [] | ['Z'] | ['z'] => true
  | sign :: cs =>
    (sign = '+' || sign = '-') &&
      (do
        let (hour, cs) ← fixedDigits 2 cs
        let (minute, cs) ← fixedDigits 2 (← expect ':' cs)
        if hour ≤ 23 ∧ minute ≤ 59 ∧ cs.isEmpty then some () else none).isSome

/-- Whether a word is a date, a time, or both. -/
def isDatetime (word : List Char) : Bool :=
  match date? word with
  | some [] => true
  | some (c :: rest) =>
    (c = 'T' || c = 't' || c = ' ') && (time? rest).any isOffset
  | none => time? word = some []

/-- Whether a word has the shape of a date, so that a time may follow after a blank. -/
def isDateShaped (word : List Char) : Bool :=
  ((do
    let (_, cs) ← fixedDigits 4 word
    let (_, cs) ← fixedDigits 2 (← expect '-' cs)
    let (_, cs) ← fixedDigits 2 (← expect '-' cs)
    return cs).any List.isEmpty)

/-- The value that a word denotes. -/
def scalar? (word : List Char) : Option Value :=
  if word = ['t', 'r', 'u', 'e'] then some (.boolean true)
  else if word = ['f', 'a', 'l', 's', 'e'] then some (.boolean false)
  else if isDatetime word then some .datetime
  else
    match integer? word with
    | some n => some (.integer n)
    | none => (float? word).map .float

end TextLimits.Toml
