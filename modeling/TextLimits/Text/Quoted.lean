import TextLimits.Unicode.Named

/-! # Quoted text

A text between quotes, on one line, with everything that would not show written as an escape. -/

namespace TextLimits.Text

/-- Characters that show: all but controls, formats, unassigned ones and blanks other than the
space. -/
def hiddenChars : CharSet :=
  CharSet.ofRanges ((["cc", "cf", "co", "cn", "zl", "zp", "zs"].flatMap fun c =>
    ((Unicode.category? c).getD CharSet.empty).ranges))

/-- Characters that join the one before them. -/
def joiningChars : CharSet := (Unicode.property? "graphemeextend").getD CharSet.empty

/-- The escape of a code point. -/
def codeEscape (c : Char) : String :=
  "\\u\x7b" ++ String.ofList (Nat.toDigits 16 c.toNat) ++ "\x7d"

/-- A character between quotes. -/
def quotedChar (c : Char) : String :=
  match c with
  | '\x00' => "\\0"
  | '\t' => "\\t"
  | '\r' => "\\r"
  | '\n' => "\\n"
  | '\\' => "\\\\"
  | '"' => "\\\""
  | ' ' => " "
  | _ =>
    if joiningChars.contains c.toNat ∨ hiddenChars.contains c.toNat then codeEscape c
    else String.singleton c

/-- A text between quotes. -/
def quoted (s : String) : String := "\"" ++ String.join (s.toList.map quotedChar) ++ "\""

end TextLimits.Text
