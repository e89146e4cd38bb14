import TextLimits.Proofs.Text.Decoding
import TextLimits.Text.Lines

/-! # Lines of bytes and lines of text

Cutting bytes into lines and decoding each is the same as decoding all of them and cutting the text
(`lines_decodeLossy`), since a line feed and a carriage return settle whatever was open before them
and come from no other bytes. -/

namespace TextLimits

/-! ### Splitting at the first line feed -/

section split
variable {α : Type} [DecidableEq α] (e : LineEnding α)

theorem LineSplit.finish_foldl_push (text : List α) (s : LineSplit α) :
    (text.foldl (LineSplit.push e) s).finish =
      s.closed.reverse ++ (text.foldl (LineSplit.push e) ⟨[], s.pending⟩).finish := by
  induction text generalizing s with
  | nil =>
      simp only [List.foldl_nil, finish]
      cases s.pending <;> simp
  | cons c text ih =>
      rw [List.foldl_cons, ih, List.foldl_cons, ih (LineSplit.push e ⟨[], s.pending⟩ c)]
      by_cases hc : c = e.feed
      · simp [push, hc]
      · simp [push, hc]

theorem LineSplit.foldl_push_of_not_mem {text : List α} (h : e.feed ∉ text) (s : LineSplit α) :
    text.foldl (LineSplit.push e) s = ⟨s.closed, text.reverse ++ s.pending⟩ := by
  induction text generalizing s with
  | nil => rfl
  | cons c text ih =>
      rw [List.mem_cons, not_or] at h
      rw [List.foldl_cons, ih h.2]
      simp [push, Ne.symm h.1]

theorem lines_of_not_mem {text : List α} (h : e.feed ∉ text) (hne : text ≠ []) :
    lines e text = [text] := by
  rw [lines, LineSplit.foldl_push_of_not_mem e h]
  simp only [LineSplit.empty, List.append_nil, LineSplit.finish]
  cases hr : text.reverse with
  | nil => exact absurd (List.reverse_eq_nil_iff.mp hr) hne
  | cons c rest => simp [← hr]

/-- The first line feed closes the first line. -/
theorem lines_append_feed {line : List α} (h : e.feed ∉ line) (rest : List α) :
    lines e (line ++ e.feed :: rest) = e.close line.reverse :: lines e rest := by
  rw [lines, List.foldl_append, LineSplit.foldl_push_of_not_mem e h, List.foldl_cons,
    LineSplit.finish_foldl_push]
  simp [LineSplit.push, LineSplit.empty, lines]

theorem LineEnding.close_concat (line : List α) (c : α) :
    e.close (line ++ [c]).reverse = if c = e.ret then line else line ++ [c] := by
  simp [close]

/-- Texts are built up from the back, by one line in front of a line feed after another. -/
@[elab_as_elim] theorem LineEnding.induct {motive : List α → Prop}
    (openLine : ∀ text, e.feed ∉ text → motive text)
    (closedLine : ∀ line rest, e.feed ∉ line → motive rest → motive (line ++ e.feed :: rest))
    (text : List α) : motive text := by
  induction hn : text.length using Nat.strongRecOn generalizing text with
  | _ n ih =>
      by_cases hmem : e.feed ∈ text
      · obtain ⟨line, rest, rfl, hline⟩ := List.eq_append_cons_of_mem hmem
        have hrest : rest.length < n := by
          rw [← hn, List.length_append, List.length_cons]
          omega
        exact closedLine line rest hline (ih _ hrest rest rfl)
      · exact openLine text hmem

end split

/-! ### Line endings in bytes and in text -/

theorem decodeLossy_concat_ret (line : List UInt8) :
    Utf8.decodeLossy (line ++ [LineEnding.bytes.ret]) =
      Utf8.decodeLossy line ++ [LineEnding.chars.ret] :=
  Utf8.decodeLossy_append_ascii line (by decide) []

theorem feed_not_mem_decodeLossy {bytes : List UInt8} (h : LineEnding.bytes.feed ∉ bytes) :
    LineEnding.chars.feed ∉ Utf8.decodeLossy bytes := by
  intro hc
  obtain ⟨b, hb, hstems⟩ := Utf8.exists_stems_of_mem_decodeLossy hc
  have h10 : (10 : Nat) = b.toNat := hstems (by decide) (by decide)
  rw [show b = 10 from UInt8.toNat_inj.mp h10.symm] at hb
  exact h hb

theorem decodeLossy_close (line : List UInt8) :
    Utf8.decodeLossy (LineEnding.bytes.close line.reverse) =
      LineEnding.chars.close (Utf8.decodeLossy line).reverse := by
  induction line using List.reverseRecOn with
  | nil => rfl
  | append_singleton line b _ =>
      rw [LineEnding.close_concat]
      by_cases hb : b = LineEnding.bytes.ret
      · subst hb
        rw [decodeLossy_concat_ret, LineEnding.close_concat, if_pos rfl, if_pos rfl]
      · obtain ⟨kept, c, heq, -, hstems⟩ := Utf8.decodeLossy_concat line b
        have hc : c ≠ LineEnding.chars.ret := by
          rintro rfl
          have h13 : (13 : Nat) = b.toNat := hstems (by decide) (by decide)
          exact hb (UInt8.toNat_inj.mp h13.symm)
        rw [if_neg hb, heq, LineEnding.close_concat, if_neg hc]

/-- The lines of the decoded text are the decoded lines of the bytes. -/
theorem lines_decodeLossy (bytes : List UInt8) :
    lines LineEnding.chars (Utf8.decodeLossy bytes) =
      (lines LineEnding.bytes bytes).map Utf8.decodeLossy := by
  induction bytes using LineEnding.bytes.induct with
  | openLine bytes hmem =>
      rcases List.eq_nil_or_concat bytes with rfl | ⟨init, b, hb⟩
      · rfl
      · rw [List.concat_eq_append] at hb
        subst hb
        obtain ⟨kept, c, heq, -, -⟩ := Utf8.decodeLossy_concat init b
        rw [lines_of_not_mem _ hmem (by simp), List.map_singleton]
        exact lines_of_not_mem _ (feed_not_mem_decodeLossy hmem) (by rw [heq]; simp)
  | closedLine line rest hline ih =>
      rw [lines_append_feed _ hline, List.map_cons, decodeLossy_close, ← ih,
        Utf8.decodeLossy_append_ascii line (by decide) rest]
      exact lines_append_feed _ (feed_not_mem_decodeLossy hline) _

end TextLimits
