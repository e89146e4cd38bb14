import TextLimits.Proofs.Inspection.Streaming
import TextLimits.Proofs.Text.Encoding

/-! # Line endings

There are many texts with the same lines (`LineEnding.Writes`): every line can end in a line feed with or
without a carriage return before it, and the last one can be left open.  A text has the lines that it
writes and no others (`lines_eq_iff`), so these endings make no difference to an inspection, neither of
the text nor of its bytes (`Inspector.inspect_of_writes`). -/

namespace TextLimits

section writes
variable {α : Type} {e : LineEnding α}

/-- The texts that write some lines, none of which holds a line feed.  A line that ends in a carriage
return needs another one in front of its line feed, and an open line needs something to show. -/
inductive LineEnding.Writes (e : LineEnding α) : List (List α) → List α → Prop
  | nothing : Writes e [] []
  | openLine {line : List α} : e.feed ∉ line → line ≠ [] → Writes e [line] line
  | feed {line text : List α} {ls : List (List α)} : e.feed ∉ line → line.getLast? ≠ some e.ret →
      Writes e ls text → Writes e (line :: ls) (line ++ e.feed :: text)
  | retFeed {line text : List α} {ls : List (List α)} : e.feed ∉ line →
      Writes e ls text → Writes e (line :: ls) (line ++ e.ret :: e.feed :: text)

variable [DecidableEq α]

theorem LineEnding.close_of_getLast? {line : List α} (h : line.getLast? ≠ some e.ret) :
    e.close line.reverse = line := by
  rcases List.eq_nil_or_concat line with rfl | ⟨init, c, hc⟩
  · rfl
  · rw [List.concat_eq_append] at hc
    subst hc
    have hret : c ≠ e.ret := by
      rintro rfl
      exact h List.getLast?_concat
    rw [close_concat, if_neg hret]

/-- The lines of a text are those that it writes. -/
theorem LineEnding.Writes.lines_eq (he : e.ret ≠ e.feed) {ls : List (List α)} {text : List α}
    (h : e.Writes ls text) : lines e text = ls := by
  induction h with
  | nothing => rfl
  | openLine hline hne => exact lines_of_not_mem e hline hne
  | feed hline hlast _ ih => rw [lines_append_feed e hline, LineEnding.close_of_getLast? hlast, ih]
  | @retFeed line text ls hline _ ih =>
      have hline' : e.feed ∉ line ++ [e.ret] := by
        rw [List.mem_append, List.mem_singleton, not_or]
        exact ⟨hline, he.symm⟩
      rw [List.append_cons, lines_append_feed e hline', LineEnding.close_concat, if_pos rfl, ih]

theorem LineEnding.writes_lines (text : List α) : e.Writes (lines e text) text := by
  induction text using e.induct with
  | openLine text hmem =>
      by_cases hne : text = []
      · subst hne
        exact .nothing
      · rw [lines_of_not_mem e hmem hne]
        exact .openLine hmem hne
  | closedLine line rest hline ih =>
      rw [lines_append_feed e hline]
      by_cases hlast : line.getLast? = some e.ret
      · obtain ⟨init, rfl⟩ := List.getLast?_eq_some_iff.mp hlast
        have hinit : e.feed ∉ init := fun hmem => hline (List.mem_append_left _ hmem)
        rw [LineEnding.close_concat, if_pos rfl, List.append_assoc, List.singleton_append]
        exact .retFeed hinit ih
      · rw [LineEnding.close_of_getLast? hlast]
        exact .feed hline hlast ih

/-- **A text has exactly the lines that it writes.** -/
theorem lines_eq_iff (he : e.ret ≠ e.feed) {ls : List (List α)} {text : List α} :
    lines e text = ls ↔ e.Writes ls text :=
  ⟨fun h => h ▸ e.writes_lines text, fun h => h.lines_eq he⟩

end writes

/-- **Line endings never matter**: a text that writes some lines, and its bytes in whatever pieces they
come, are inspected as these lines are. -/
theorem Inspector.inspect_of_writes (i : Inspector) {ls : List (List Char)} {text : List Char}
    (h : LineEnding.chars.Writes ls text) :
    i.inspectText text = i.inspectLines ls ∧
      ∀ pieces : List (List UInt8), pieces.flatten = Utf8.encode text →
        i.inspectStream ⟨pieces, none⟩ = .ok (i.inspectLines ls) := by
  have hlines : lines LineEnding.chars text = ls := (lines_eq_iff (by decide)).mpr h
  constructor
  · rw [inspectText, hlines]
  · intro pieces hpieces
    rw [inspectStream_eq_inspectLines, hpieces, ← lines_decodeLossy, Utf8.decodeLossy_encode, hlines]

/-- A line that ends in a carriage return, an empty one, one that is no line ending although it looks
like one, and an open one that is a carriage return. -/
theorem Inspector.inspect_of_writes_sample :
    let ls : List (List Char) := [['a', '\r'], [], ['\u0085'], ['\r']]
    let text : List Char := ['a', '\r', '\r', '\n', '\n', '\u0085', '\r', '\n', '\r']
    let i : Inspector := ⟨1, fun _ => false⟩
    LineEnding.chars.Writes ls text ∧ i.inspectText text = ⟨[⟨1, 2, by decide⟩], 4⟩ ∧
      i.inspectStream ⟨[[97, 13, 13], [10, 10, 0xC2], [0x85, 13, 10, 13]], none⟩ =
        .ok ⟨[⟨1, 2, by decide⟩], 4⟩ := by
  intro ls text i
  have hopen : LineEnding.chars.Writes [['\r']] ['\r'] := .openLine (by decide) (by decide)
  have hreturn : LineEnding.chars.Writes [['\u0085'], ['\r']] (['\u0085'] ++ ['\r', '\n', '\r']) :=
    .retFeed (by decide) hopen
  have hfeed : LineEnding.chars.Writes [[], ['\u0085'], ['\r']]
      ([] ++ ['\n', '\u0085', '\r', '\n', '\r']) := .feed (by decide) (by decide) hreturn
  have hwrites : LineEnding.chars.Writes ls text := .retFeed (by decide) hfeed
  have hrecord : i.inspectLines ls = ⟨[⟨1, 2, by decide⟩], 4⟩ := by decide
  obtain ⟨htext, hstream⟩ := i.inspect_of_writes hwrites
  exact ⟨hwrites, htext.trans hrecord, (hstream _ (by decide)).trans (congrArg Except.ok hrecord)⟩

end TextLimits
