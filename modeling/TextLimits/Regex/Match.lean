import TextLimits.Regex.Program

/-! # Matching

A program takes places in a text to places: from where it starts to where it can end
(`Program.reach`).  A set of places is an ascending list, so a program is run on all places at once
and the time is bounded by the size of the program times the length of the text, whatever the
program is.  A program matches a text if it can get from some place to another. -/

namespace TextLimits.Regex

/-- The places of two ascending lists. -/
def mergePlaces : List Nat → List Nat → List Nat
  | [], qs => qs
  | ps, [] => ps
  | p :: ps, q :: qs =>
    if p < q then p :: mergePlaces ps (q :: qs)
    else if q < p then q :: mergePlaces (p :: ps) qs
    else p :: mergePlaces ps qs

/-- The text being matched. -/
abbrev Subject := Array Char

/-- Whether the character before a place is in a set. -/
def Subject.before (t : Subject) (s : CharSet) (p : Nat) : Bool :=
  match p with
  | 0 => false
  | p + 1 => (t[p]?).any fun c => s.contains c.toNat

/-- Whether the character after a place is in a set. -/
def Subject.after (t : Subject) (s : CharSet) (p : Nat) : Bool :=
  (t[p]?).any fun c => s.contains c.toNat

/-- Whether the character before a place is a given one. -/
def Subject.beforeIs (t : Subject) (c : Char) (p : Nat) : Bool :=
  match p with
  | 0 => false
  | p + 1 => t[p]? = some c

/-- Whether a condition holds at a place. -/
def Look.holds (t : Subject) (p : Nat) : Look → Bool
  | .textStart => p = 0
  | .textEnd => p = t.size
  | .lineStart => p = 0 || t.beforeIs '\n' p
  | .lineEnd => p = t.size || t[p]? = some '\n'
  | .lineStartCrlf =>
    p = 0 || t.beforeIs '\n' p || (t.beforeIs '\r' p && t[p]? ≠ some '\n')
  | .lineEndCrlf =>
    p = t.size || t[p]? = some '\r' || (t[p]? = some '\n' && !t.beforeIs '\r' p)
  | .boundary words => t.before words p != t.after words p
  | .notBoundary words => t.before words p == t.after words p
  | .wordStart words => !t.before words p && t.after words p
  | .wordEnd words => t.before words p && !t.after words p
  | .wordStartHalf words => !t.before words p
  | .wordEndHalf words => !t.after words p

/-- Applies a step a number of times, or until it changes nothing. -/
def iterate (step : List Nat → List Nat) : Nat → List Nat → List Nat
  | 0, ps => ps
  | n + 1, ps =>
    let qs := step ps
    if qs = ps then ps else iterate step n qs

/-- Marks all places reached in at most `n` more rounds of a step from those that are new. -/
def spread (step : List Nat → List Nat) : Nat → Array Bool → List Nat → Array Bool
  | 0, seen, _ => seen
  | n + 1, seen, new =>
    let next := (step new).filter fun p => !(seen.getD p true)
    if next.isEmpty then seen
    else spread step n (next.foldl (fun seen p => seen.setIfInBounds p true) seen) next

/-- The places reached from given ones in at most `n` rounds of a step. -/
def spreadFrom (size : Nat) (step : List Nat → List Nat) (n : Nat) (ps : List Nat) : List Nat :=
  let seen := ps.foldl (fun seen p => seen.setIfInBounds p true) (Array.replicate (size + 1) false)
  let seen := spread step n seen ps
  (List.range (size + 1)).filter fun p => seen.getD p false

/-- The places where a program can end when it starts at one of the given places. -/
def Program.reach (t : Subject) : Program → List Nat → List Nat
  | .empty, ps => ps
  | .one set, ps => (ps.filter (t.after set)).map (· + 1)
  | .look l, ps => ps.filter fun p => l.holds t p
  | .seq a b, ps => b.reach t (a.reach t ps)
  | .alt a b, ps => mergePlaces (a.reach t ps) (b.reach t ps)
  | .rep min max sub, ps =>
    let ps := iterate (sub.reach t) min ps
    let more := match max with
      | none => t.size + 1
      | some max => max - min
    if more = 0 then ps else spreadFrom t.size (sub.reach t) more ps
  | .capture sub, ps => sub.reach t ps

/-- Whether a program matches somewhere in a text. -/
def Program.matches (p : Program) (text : List Char) : Bool :=
  let t := text.toArray
  !(p.reach t (List.range (t.size + 1))).isEmpty

end TextLimits.Regex
