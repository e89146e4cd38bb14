import TextLimits.Glob.Token
import TextLimits.Regex.Syntax

/-! # Globs as regular expressions

A glob is compiled by way of a regular expression over bytes, and what is refused as an expression is
refused as a glob.  A token becomes some parts of a sequence; only alternatives become a group, with an
alternation in it if there are several. -/

namespace TextLimits.Glob

open Regex

/-- A byte in an expression; one that is no ASCII character is written by its number. -/
def byteLiteral (b : UInt8) : Literal := ⟨Char.ofNat b.toNat, decide (0x7F < b)⟩

/-- A character, byte by byte. -/
def literals (c : Char) : List Literal := (String.utf8EncodeChar c).map byteLiteral

def separator : Ast := .literal ⟨'/', false⟩

def notSeparator : Ast := .bracket true (.literal ⟨'/', false⟩)

def anything : Ast := .repeated 0 none .dot

/-- A choice between branches, as a group of its own. -/
def choice (branches : List Ast) : Ast := .group (.plain []) (.ofBranches branches)

/-- The members of a bracket that a range of characters comes to: its ends byte by byte, with a range
from the last byte of the one to the first of the other. -/
def rangeItems (r : Char × Char) : List ClassExpr :=
  if r.1 = r.2 then (literals r.1).map .literal
  else
    (literals r.1).dropLast.map .literal ++
      List.zipWith .range (literals r.1).getLast?.toList (literals r.2).head?.toList ++
      (literals r.2).tail.map .literal

mutual

/-- The parts of a sequence that a token becomes. -/
def Token.parts : Token → List Ast
  | .literal c => (literals c).map .literal
  | .any => [notSeparator]
  | .star => [.repeated 0 none notSeparator]
  | .treePrefix => [choice [.repeated 0 (some 1) separator, .concat [anything, separator]]]
  | .treeSuffix => [separator, anything]
  | .treeMiddle => [choice [separator, .concat [separator, anything, separator]]]
  | .cls negated ranges => [.bracket negated (.ofItems (ranges.flatMap rangeItems))]
  | .alternates branches => if allBlank branches then [] else [choice (branchParts branches)]

/-- The parts of a sequence that tokens become. -/
def listParts : List Token → List Ast
  | [] => []
  | t :: rest => t.parts ++ listParts rest

/-- The branches of an alternation; blank ones are left out. -/
def branchParts : List (List Token) → List Ast
  | [] => []
  | b :: rest =>
    if isBlankList b then branchParts rest else .ofParts (listParts b) :: branchParts rest

end

/-- The expression for the whole of a text.  Two stars alone stand for anything. -/
def expression (tokens : List Token) : Ast :=
  let body := match tokens with
    | [.treePrefix] => [anything]
    | _ => listParts tokens
  .concat ([.flags [(.unicode, false)], .assertion .lineStart] ++ body ++ [.assertion .lineEnd])

end TextLimits.Glob
