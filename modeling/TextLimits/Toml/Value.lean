import TextLimits.Decimal.Binary64
import TextLimits.Toml.Error

/-! # TOML values

A value as a document gives it.  A table remembers how it came about, since that decides what may be
added to it later. -/

namespace TextLimits.Toml

/-- A floating point number as written. -/
inductive Float where
  /-- `digits * 10 ^ exponent`, or its negative. -/
  | finite (negative : Bool) (digits : Nat) (exponent : Int)
  | infinite (negative : Bool)
  | nan
  deriving DecidableEq

/-- How a table came about. -/
inductive TableKind where
  /-- By a header of its own, or as the whole document. -/
  | headed
  /-- By the header of a table inside it. -/
  | implied
  /-- By a dotted key. -/
  | dotted
  /-- Between braces. -/
  | inline
  deriving DecidableEq

/-- A value.  An array is marked if it consists of tables with headers. -/
inductive Value where
  | string (s : String)
  | integer (n : Int)
  | float (f : Float)
  | boolean (b : Bool)
  | datetime
  | array (headed : Bool) (items : List Value)
  | table (kind : TableKind) (entries : List (String × Value))

/-- The entries of a table, in the order in which they were given. -/
abbrev Entries := List (String × Value)

/-- The text of a floating point number, unless it is too great. -/
def Float.text? : Float → Option String
  | .nan => some "NaN"
  | .infinite negative => some (if negative then "-inf" else "inf")
  | .finite negative digits exponent =>
    let sign := if negative then "-" else ""
    -- numbers beyond these bounds are zero or too great whatever their digits are
    let size := Binary64.digitCount digits + exponent
    let number :=
      if digits = 0 ∨ size < -400 then Binary64.nearest? 0 1
      else if 400 < size then none
      else Binary64.nearest? (digits * Nat.pow 10 exponent.toNat) (Nat.pow 10 (-exponent).toNat)
    number.map fun x => sign ++ x.text

end TextLimits.Toml
