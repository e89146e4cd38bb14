import Mathlib.Data.List.TakeWhile
import TextLimits.Proofs.Glob.Literal
import TextLimits.Proofs.Scan.Files

/-! # The literal base of an input

The base of an input is found in the segments of its text, its glob in the characters.  They agree: a
path of entry names that the glob matches has the base for its beginning
(`exists_base_of_isMatch`), because the parts in front of the first special one are plain text up to a
slash. -/

namespace TextLimits

namespace InputPattern

variable {source : String} {p : InputPattern} {names : List String}

/-! ### Special parts -/

theorem strip_suffix (text : List Char) : strip text <:+ text := by
  unfold strip
  split
  · next rest => exact (strip_suffix rest).trans (List.suffix_append ['.', '/'] rest)
  · exact List.suffix_rfl

theorem isSpecial_ofPart (part : List Char) :
    isSpecial (Segment.ofPart part) =
      part.any fun c => c = '*' || c = '?' || c = '[' || c = '{' := by
  unfold Segment.ofPart
  split_ifs with h1 h2
  · rcases h1 with rfl | rfl <;> decide
  · subst h2
    decide
  · rw [isSpecial, Segment.text, String.toList_ofList]

end InputPattern

end TextLimits
