import TextLimits.Regex.Program

/-! # The size of programs

A program is refused if the automaton for it would take more than ten megabytes, counted for reading
text forwards (where groups are recorded) and for reading it backwards (where the shared ends of
encoded characters are not merged). -/

namespace TextLimits.Regex

/-- A byte range of one position in an encoded character. -/
abbrev ByteRange := Nat × Nat

/-- The bytes of a code point. -/
def codeBytes (code : Nat) : List Nat :=
  (String.utf8EncodeChar (Char.ofNat code)).map UInt8.toNat

/-- Ranges of code points as sequences of byte ranges.  A range is cut until all its members have
encodings of one length that differ only in a block of final bytes; surrogates are left out. -/
def byteSequences : Nat → Nat → Nat → List (List ByteRange)
  | 0, _, _ => []
  | fuel + 1, lo, hi =>
    let cut (mid : Nat) := byteSequences fuel lo mid ++ byteSequences fuel (mid + 1) hi
    if hi < lo then []
    else if lo < 0xE000 ∧ 0xD7FF < hi then
      byteSequences fuel lo 0xD7FF ++ byteSequences fuel 0xE000 hi
    else if 0xD800 ≤ lo ∧ hi ≤ 0xDFFF then []
    else
      match [0x7F, 0x7FF, 0xFFFF].find? fun last => lo ≤ last && last < hi with
      | some last => cut last
      | none =>
        if hi ≤ 0x7F then [[(lo, hi)]]
        else
          let block := [0x40, 0x1000, 0x40000].findSome? fun size =>
            if lo / size = hi / size then none
            else if lo % size ≠ 0 then some ((lo / size + 1) * size - 1)
            else if hi % size ≠ size - 1 then some (hi / size * size - 1)
            else none
          match block with
          | some mid => cut mid
          | none => [(codeBytes lo).zip (codeBytes hi)]

/-- The encodings of the members of a set. -/
def sequences (s : CharSet) : List (List ByteRange) :=
  s.ranges.flatMap fun r => byteSequences 64 r.1 r.2

/-- How many elements two lists have in common at their start. -/
def commonLength {α : Type} [DecidableEq α] : List α → List α → Nat
  | a :: as, b :: bs => if a = b then commonLength as bs + 1 else 0
  | _, _ => 0

/-- The number of distinct beginnings of sequences in ascending order, beyond those of the sequence
before. -/
def beginnings (previous : List ByteRange) : List (List ByteRange) → Nat
  | [] => 0
  | s :: rest => s.length - commonLength previous s + beginnings s rest

/-- Sequences by their first range, each with what may follow. -/
def byFirst (seqs : List (List ByteRange)) : List (ByteRange × List (List ByteRange)) :=
  (seqs.splitBy fun a b => a.head? = b.head?).filterMap fun group =>
    match group with
    | (first :: rest) :: others => some (first, rest :: others.map List.tail)
    | _ => none

/-- The bytes for a state with the given number of ways out. -/
def stateSize (ways : Nat) : Nat := 32 + 8 * ways

/-- The bytes for the states of an automaton that reads sequences and merges equal ends.  A state is
what may still follow. -/
def mergedSize : Nat → List (List (List ByteRange)) → Nat
  | 0, _ => 0
  | fuel + 1, states =>
    let ways := states.map byFirst
    let next := (ways.flatMap fun w => w.map Prod.snd).filter fun s => s ≠ [[]]
    (ways.map fun w => stateSize w.length).sum +
      if next.isEmpty then 0 else mergedSize fuel next.eraseDups

/-- The direction in which an automaton reads. -/
inductive Direction where
  | forward
  | backward
  deriving DecidableEq

/-- The bytes for the states of a set of characters. -/
def setSize (d : Direction) (s : CharSet) : Nat :=
  match s.ranges with
  | [] => 32
  | ranges =>
    match ranges with
    | [(lo, hi)] => if lo = hi then 32 * (codeBytes lo).length else general
    | _ => general
where
  /-- The same for more than one character. -/
  general : Nat :=
    if s.isAscii then stateSize s.ranges.length + 32
    else
      let seqs := sequences s
      match d with
      | .forward => mergedSize 4 [seqs] + 32
      | .backward => 32 * beginnings [] seqs + 4 * seqs.length + 64

/-- The bytes for the automaton of a program; a branch of a choice takes a way more. -/
def Program.size (d : Direction) (branch : Bool) : Program → Nat
  | .alt a b => a.size d true + b.size d true + if branch then 0 else 64
  | .empty => 32 + way
  | .one set => setSize d set + way
  | .look _ => 32 + way
  | .seq a b => a.size d false + b.size d false + way
  | .rep min max sub =>
    let one := sub.size d false
    let all := match max with
      | none => if min = 0 then one + 108 else min * one + 40
      | some max => max * one + (max - min) * 40 + if min < max || max = 0 then 32 else 0
    all + way
  | .capture sub => sub.size d false + way + if d = .forward then 64 else 0
where
  /-- The bytes for the way into a branch. -/
  way : Nat := if branch then 4 else 0

/-- The bytes that an automaton may take. -/
def maxSize : Nat := 10 * Nat.pow 2 20

/-- The bytes around the automaton proper: the search for a start, the end, the whole match. -/
def frameSize : Direction → Nat
  | .forward => 208
  | .backward => 144

/-- Whether the automata of a program are small enough. -/
def Program.fits (p : Program) : Bool :=
  p.size .forward false + frameSize .forward ≤ maxSize &&
    p.size .backward false + frameSize .backward ≤ maxSize

end TextLimits.Regex
