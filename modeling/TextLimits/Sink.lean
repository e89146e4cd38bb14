import TextLimits.Text.Utf8

/-! # Sinks

A sink takes bytes until its limit, if it has one, is reached; a text that does not fit is taken up
to the limit and then refused.  So a sink always holds a prefix of what was written to it. -/

namespace TextLimits

/-- An output with what it has taken. -/
structure Sink where
  limit : Option Nat
  taken : List UInt8

namespace Sink

/-- The reason a full sink gives. -/
def fullReason : String := "sink is full"

/-- Nothing taken yet. -/
def new (limit : Option Nat) : Sink := ⟨limit, []⟩

/-- The sink after a text was offered, and whether it took all of it. -/
def write (s : Sink) (text : String) : Sink × Bool :=
  let all := s.taken ++ Utf8.encode text.toList
  match s.limit with
  | none => (⟨none, all⟩, true)
  | some n => (⟨some n, all.take n⟩, decide (all.length ≤ n))

/-- What was taken, as text. -/
def text (s : Sink) : String := String.ofList (Utf8.decodeLossy s.taken)

end Sink

end TextLimits
