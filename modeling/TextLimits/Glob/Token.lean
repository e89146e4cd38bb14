/-! # Glob tokens

A glob is a list of tokens.  `treePrefix`, `treeMiddle` and `treeSuffix` are the three readings of
two stars that stand for whole directories; a lone star and a question mark stay within one
directory level.  An alternative whose tokens cannot match anything but by standing for no text at
all (`Token.isBlank`) is no alternative. -/

namespace TextLimits.Glob

/-- An element of a glob. -/
inductive Token where
  | literal (c : Char)
  /-- One byte other than a slash. -/
  | any
  /-- Bytes other than slashes. -/
  | star
  /-- Nothing, or anything up to and with a slash. -/
  | treePrefix
  /-- A slash and anything after it. -/
  | treeSuffix
  /-- A slash, or anything between two slashes. -/
  | treeMiddle
  /-- One byte of a class, or not of it. -/
  | cls (negated : Bool) (ranges : List (Char × Char))
  | alternates (branches : List (List Token))

/-! ### Blank tokens -/

mutual

/-- Whether a token stands for no text at all. -/
def Token.isBlank : Token → Bool
  | .alternates branches => allBlank branches
  | _ => false

/-- Whether all tokens of a list are blank. -/
def isBlankList : List Token → Bool
  | [] => true
  | t :: rest => t.isBlank && isBlankList rest

/-- Whether all branches are blank. -/
def allBlank : List (List Token) → Bool
  | [] => true
  | b :: rest => isBlankList b && allBlank rest

end

/-! ### Globs about names -/

/-- The character that a token stands for by itself. -/
def Token.char? : Token → Option Char
  | .literal c => some c
  | _ => none

/-- Whether tokens end in an extension: a dot and then characters other than dots and slashes. -/
def endsInExtension (tokens : List Token) : Bool :=
  let final := tokens.reverse.takeWhile fun t => t.char?.any fun c => c ≠ '.' && c ≠ '/'
  (tokens.reverse.drop final.length).head?.any fun t => t.char? = some '.'

/-- Whether tokens ask for a file name or its extension: a name in any directory, or an extension
after something that is no literal path. -/
def asksForName (tokens : List Token) : Bool :=
  let isLiteral (ts : List Token) := ts.all fun t => t.char?.isSome
  if isLiteral tokens then false
  else
    match tokens with
    | .treePrefix :: rest =>
      if isLiteral rest then !rest.isEmpty && rest.all fun t => t.char? ≠ some '/'
      else endsInExtension tokens
    | _ => endsInExtension tokens

end TextLimits.Glob
