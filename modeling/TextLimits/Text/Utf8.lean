/-! # UTF-8 text as bytes

Encoding of characters, and a decoder that never fails: it reads one byte at a time and writes
U+FFFD for every maximal piece that cannot be continued to a character (`decodeLossy`).  The decoder
is an automaton on `State`, so a text may be handed to it in pieces; an ASCII byte always ends
whatever character was open. -/

namespace TextLimits.Utf8

/-- The bytes of a text. -/
def encode (text : List Char) : List UInt8 :=
  text.flatMap String.utf8EncodeChar

/-- Where the decoder stands inside a character: no byte of it read yet, or some read, with the
value so far, the number of bytes still owed and the range that the next one must lie in. -/
inductive State where
  | start
  | inside (value : Nat) (owed : Nat) (low high : UInt8)
  deriving DecidableEq

/-- The decoder: the characters written, newest first, and its state. -/
structure Decoder where
  written : List Char
  state : State

/-- The mark that stands for bytes that are no character. -/
def replacement : Char := '\uFFFD'

/-- What a byte does when no character is open. -/
def first (written : List Char) (b : UInt8) : Decoder :=
  if b < 0x80 then ⟨Char.ofNat b.toNat :: written, .start⟩
  else if b < 0xC2 then ⟨replacement :: written, .start⟩
  else if b < 0xE0 then ⟨written, .inside (b.toNat - 0xC0) 1 0x80 0xBF⟩
  else if b = 0xE0 then ⟨written, .inside 0 2 0xA0 0xBF⟩
  else if b = 0xED then ⟨written, .inside 0xD 2 0x80 0x9F⟩
  else if b < 0xF0 then ⟨written, .inside (b.toNat - 0xE0) 2 0x80 0xBF⟩
  else if b = 0xF0 then ⟨written, .inside 0 3 0x90 0xBF⟩
  else if b < 0xF4 then ⟨written, .inside (b.toNat - 0xF0) 3 0x80 0xBF⟩
  else if b = 0xF4 then ⟨written, .inside 4 3 0x80 0x8F⟩
  else ⟨replacement :: written, .start⟩

/-- One byte: it continues the open character, or ends it as invalid and is read afresh. -/
def Decoder.feed (d : Decoder) (b : UInt8) : Decoder :=
  match d.state with
  | .start => first d.written b
  | .inside value owed low high =>
    if low ≤ b ∧ b ≤ high then
      let value := value * 64 + (b.toNat - 0x80)
      if owed ≤ 1 then ⟨Char.ofNat value :: d.written, .start⟩
      else ⟨d.written, .inside value (owed - 1) 0x80 0xBF⟩
    else first (replacement :: d.written) b

/-- The text at the end of the bytes: a character left open is invalid. -/
def Decoder.finish (d : Decoder) : List Char :=
  match d.state with
  | .start => d.written.reverse
  | .inside .. => (replacement :: d.written).reverse

/-- The characters of a byte string, with one U+FFFD for each maximal invalid piece. -/
def decodeLossy (bytes : List UInt8) : List Char :=
  (bytes.foldl Decoder.feed ⟨[], .start⟩).finish

/-- The text of a byte string that is UTF-8 throughout, and nothing for any other. -/
def decode? (bytes : List UInt8) : Option (List Char) :=
  let text := decodeLossy bytes
  if encode text = bytes then some text else none

end TextLimits.Utf8
