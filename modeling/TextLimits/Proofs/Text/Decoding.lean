import Mathlib.Data.List.Induction
import Mathlib.Tactic.SplitIfs
import TextLimits.Text.Utf8

/-! # Decoding byte by byte

The decoder is an automaton, so what it makes of a text follows from what one byte does
(`Decoder.settled_feed`).  An ASCII byte settles whatever was open before it and stands for itself
(`decodeLossy_append_ascii`), and a character of the ASCII range other than NUL comes from no other
byte (`Stems`). -/

namespace TextLimits.Utf8

/-! ### What a decoder has settled -/

/-- The text that a decoder would end with now, newest character first. -/
def Decoder.settled (d : Decoder) : List Char :=
  match d.state with
  | .start => d.written
  | .inside .. => replacement :: d.written

theorem Decoder.finish_eq (d : Decoder) : d.finish = d.settled.reverse := by
  unfold finish settled
  cases d.state <;> rfl

theorem Decoder.mem_settled {d : Decoder} {c : Char} (h : c ∈ d.written) : c ∈ d.settled := by
  unfold settled
  cases d.state with
  | start => exact h
  | inside => exact List.mem_cons_of_mem _ h

/-- What the bytes read of an open character promise: no ASCII byte continues it, and its value will
be out of the ASCII range. -/
def State.Proper : State → Prop
  | .start => True
  | .inside value owed low _ =>
    0x80 ≤ low.toNat ∧ 2 ≤ value * 64 + (low.toNat - 0x80) ∧ (owed ≤ 1 → 2 ≤ value)

theorem first_cases (b : UInt8) :
    (b < 0x80 ∧ ∀ w, first w b = ⟨Char.ofNat b.toNat :: w, .start⟩) ∨
    (¬ b < 0x80 ∧ ∀ w, first w b = ⟨replacement :: w, .start⟩) ∨
    ∃ value owed low high, (State.inside value owed low high).Proper ∧
      ¬ b < 0x80 ∧ ∀ w, first w b = ⟨w, .inside value owed low high⟩ := by
  by_cases h0 : b < 0x80
  · exact .inl ⟨h0, fun w => by rw [first, if_pos h0]⟩
  refine .inr ?_
  by_cases h1 : b < 0xC2
  · exact .inl ⟨h0, fun w => by rw [first, if_neg h0, if_pos h1]⟩
  have hC2 : 0xC2 ≤ b.toNat := UInt8.le_iff_toNat_le.mp (UInt8.not_lt.mp h1)
  by_cases h2 : b < 0xE0
  · refine .inr ⟨b.toNat - 0xC0, 1, 0x80, 0xBF, ⟨by decide, ?_, fun _ => ?_⟩, h0, fun w => ?_⟩
    · omega
    · omega
    · rw [first, if_neg h0, if_neg h1, if_pos h2]
  have hE0 : 0xE0 ≤ b.toNat := UInt8.le_iff_toNat_le.mp (UInt8.not_lt.mp h2)
  by_cases h3 : b = 0xE0
  · exact .inr ⟨0, 2, 0xA0, 0xBF, ⟨by decide, by decide, by decide⟩, h0, fun w => by
      rw [first, if_neg h0, if_neg h1, if_neg h2, if_pos h3]⟩
  by_cases h4 : b = 0xED
  · exact .inr ⟨0xD, 2, 0x80, 0x9F, ⟨by decide, by decide, by decide⟩, h0, fun w => by
      rw [first, if_neg h0, if_neg h1, if_neg h2, if_neg h3, if_pos h4]⟩
  by_cases h5 : b < 0xF0
  · have hne : b.toNat ≠ 0xE0 := fun h => h3 (UInt8.toNat_inj.mp h)
    refine .inr ⟨b.toNat - 0xE0, 2, 0x80, 0xBF, ⟨by decide, ?_, fun _ => ?_⟩, h0, fun w => ?_⟩
    · omega
    · omega
    · rw [first, if_neg h0, if_neg h1, if_neg h2, if_neg h3, if_neg h4, if_pos h5]
  have hF0 : 0xF0 ≤ b.toNat := UInt8.le_iff_toNat_le.mp (UInt8.not_lt.mp h5)
  by_cases h6 : b = 0xF0
  · exact .inr ⟨0, 3, 0x90, 0xBF, ⟨by decide, by decide, by decide⟩, h0, fun w => by
      rw [first, if_neg h0, if_neg h1, if_neg h2, if_neg h3, if_neg h4, if_neg h5, if_pos h6]⟩
  by_cases h7 : b < 0xF4
  · have hne : b.toNat ≠ 0xF0 := fun h => h6 (UInt8.toNat_inj.mp h)
    refine .inr ⟨b.toNat - 0xF0, 3, 0x80, 0xBF, ⟨by decide, ?_, fun h => ?_⟩, h0, fun w => ?_⟩
    · omega
    · omega
    · rw [first, if_neg h0, if_neg h1, if_neg h2, if_neg h3, if_neg h4, if_neg h5, if_neg h6,
        if_pos h7]
  by_cases h8 : b = 0xF4
  · exact .inr ⟨4, 3, 0x80, 0x8F, ⟨by decide, by decide, by decide⟩, h0, fun w => by
      rw [first, if_neg h0, if_neg h1, if_neg h2, if_neg h3, if_neg h4, if_neg h5, if_neg h6,
        if_neg h7, if_pos h8]⟩
  · exact .inl ⟨h0, fun w => by
      rw [first, if_neg h0, if_neg h1, if_neg h2, if_neg h3, if_neg h4, if_neg h5, if_neg h6,
        if_neg h7, if_neg h8]⟩

theorem first_proper (written : List Char) (b : UInt8) : (first written b).state.Proper := by
  rcases first_cases b with ⟨-, h⟩ | ⟨-, h⟩ | ⟨value, owed, low, high, hp, -, h⟩
  · rw [h]; trivial
  · rw [h]; trivial
  · rw [h]; exact hp

theorem Decoder.feed_proper {d : Decoder} (hd : d.state.Proper) (b : UInt8) :
    (d.feed b).state.Proper := by
  unfold feed
  cases hs : d.state with
  | start => exact first_proper _ _
  | inside value owed low high =>
      rw [hs] at hd
      obtain ⟨hlow, hvalue, howed⟩ := hd
      dsimp only
      split_ifs with hb h1
      · trivial
      · simp only [UInt8.le_iff_toNat_le] at hb
        refine ⟨by decide, ?_, fun _ => ?_⟩ <;> omega
      · exact first_proper _ _

theorem foldl_feed_proper (bytes : List UInt8) {d : Decoder} (hd : d.state.Proper) :
    (bytes.foldl Decoder.feed d).state.Proper := by
  induction bytes generalizing d with
  | nil => exact hd
  | cons b bytes ih => exact ih (d.feed_proper hd b)

/-! ### ASCII bytes -/

theorem toNat_ofNat_byte {b : UInt8} (hb : b < 0x80) : (Char.ofNat b.toNat).toNat = b.toNat := by
  rw [UInt8.lt_iff_toNat_lt] at hb
  have hvalid : b.toNat.isValidChar := Or.inl (by simp at hb; omega)
  rw [Char.ofNat, dif_pos hvalid]
  rfl

theorem Decoder.feed_ascii {d : Decoder} (hd : d.state.Proper) {b : UInt8} (hb : b < 0x80) :
    d.feed b = ⟨Char.ofNat b.toNat :: d.settled, .start⟩ := by
  unfold feed settled
  cases hs : d.state with
  | start => simp [first, hb]
  | inside value owed low high =>
      rw [hs] at hd
      have hlow : ¬ low ≤ b := by
        rw [UInt8.lt_iff_toNat_lt] at hb
        rw [UInt8.le_iff_toNat_le]
        have := hd.1
        simp at hb
        omega
      simp [first, hb, hlow]

/-- Whether a character may come from a byte as the last one of its encoding: within the ASCII range,
NUL apart, only from itself. -/
def Stems (c : Char) (b : UInt8) : Prop :=
  c.toNat < 0x80 → c.toNat ≠ 0 → c.toNat = b.toNat

theorem stems_replacement (b : UInt8) : Stems replacement b := by
  intro h
  exact absurd h (by decide)

theorem stems_ascii {b : UInt8} (hb : b < 0x80) : Stems (Char.ofNat b.toNat) b :=
  fun _ _ => toNat_ofNat_byte hb

/-- A number that is no character is read as NUL, so the bound on the value is enough. -/
theorem stems_ofNat {n : Nat} (h : 0x80 ≤ n) (b : UInt8) : Stems (Char.ofNat n) b := by
  by_cases hvalid : n.isValidChar
  · intro hlt
    rw [Char.ofNat, dif_pos hvalid] at hlt
    change n < 0x80 at hlt
    omega
  · intro _ hne
    rw [Char.ofNat, dif_neg hvalid] at hne
    exact absurd rfl hne

theorem first_settled (written : List Char) (b : UInt8) :
    ∃ c, (first written b).settled = c :: written ∧ Stems c b := by
  rcases first_cases b with ⟨hb, h⟩ | ⟨-, h⟩ | ⟨value, owed, low, high, -, -, h⟩
  · exact ⟨Char.ofNat b.toNat, by rw [h]; rfl, stems_ascii hb⟩
  · exact ⟨replacement, by rw [h]; rfl, stems_replacement b⟩
  · exact ⟨replacement, by rw [h]; rfl, stems_replacement b⟩

/-- One byte adds one character at the end of what is settled, which may take the place of a mark. -/
theorem Decoder.settled_feed {d : Decoder} (hd : d.state.Proper) (b : UInt8) :
    ∃ c kept, (d.feed b).settled = c :: kept ∧ kept ⊆ d.settled ∧ Stems c b := by
  unfold feed
  cases hs : d.state with
  | start =>
      obtain ⟨c, hc, hb⟩ := first_settled d.written b
      exact ⟨c, d.written, hc, fun _ => mem_settled, hb⟩
  | inside value owed low high =>
      rw [hs] at hd
      obtain ⟨-, -, howed⟩ := hd
      dsimp only
      split_ifs with hb h1
      · exact ⟨_, d.written, rfl, fun _ => mem_settled, stems_ofNat (by have := howed h1; omega) b⟩
      · exact ⟨replacement, d.written, rfl, fun _ => mem_settled, stems_replacement b⟩
      · obtain ⟨c, hc, hb⟩ := first_settled (replacement :: d.written) b
        refine ⟨c, _, hc, ?_, hb⟩
        simp [settled, hs]

/-! ### The written text does not matter -/

/-- A decoder with more text before what it has written. -/
def Decoder.after (before : List Char) (d : Decoder) : Decoder := ⟨d.written ++ before, d.state⟩

theorem first_after (before written : List Char) (b : UInt8) :
    first (written ++ before) b = (first written b).after before := by
  rcases first_cases b with ⟨-, h⟩ | ⟨-, h⟩ | ⟨value, owed, low, high, -, -, h⟩
  · rw [h, h]; rfl
  · rw [h, h]; rfl
  · rw [h, h]; rfl

theorem Decoder.feed_after (before : List Char) (d : Decoder) (b : UInt8) :
    (d.after before).feed b = (d.feed b).after before := by
  unfold feed after
  cases d.state with
  | start => exact first_after _ _ _
  | inside value owed low high =>
      dsimp only
      split_ifs
      · rfl
      · rfl
      · exact first_after before (replacement :: d.written) b

theorem foldl_feed_after (before : List Char) (bytes : List UInt8) (d : Decoder) :
    bytes.foldl Decoder.feed (d.after before) = (bytes.foldl Decoder.feed d).after before := by
  induction bytes generalizing d with
  | nil => rfl
  | cons b bytes ih => rw [List.foldl_cons, List.foldl_cons, Decoder.feed_after, ih]

theorem Decoder.finish_after (before : List Char) (d : Decoder) :
    (d.after before).finish = before.reverse ++ d.finish := by
  unfold finish after
  cases d.state <;> simp

/-- Decoding goes on after a settled text as if it began there. -/
theorem finish_foldl_feed (written : List Char) (bytes : List UInt8) :
    (bytes.foldl Decoder.feed ⟨written, .start⟩).finish = written.reverse ++ decodeLossy bytes := by
  have h := foldl_feed_after written bytes ⟨[], .start⟩
  rw [show Decoder.after written ⟨[], .start⟩ = ⟨written, .start⟩ from rfl] at h
  rw [h, Decoder.finish_after, decodeLossy]

/-! ### Decoding around an ASCII byte -/

theorem proper_decode (bytes : List UInt8) :
    (bytes.foldl Decoder.feed ⟨[], .start⟩).state.Proper :=
  foldl_feed_proper bytes trivial

/-- An ASCII byte parts a text: the bytes before it and those after it are decoded on their own. -/
theorem decodeLossy_append_ascii (before : List UInt8) {b : UInt8} (hb : b < 0x80)
    (rest : List UInt8) :
    decodeLossy (before ++ b :: rest) =
      decodeLossy before ++ Char.ofNat b.toNat :: decodeLossy rest := by
  have hd := proper_decode before
  unfold decodeLossy at *
  rw [List.foldl_append, List.foldl_cons, Decoder.feed_ascii hd hb, finish_foldl_feed,
    Decoder.finish_eq, List.reverse_cons, List.append_assoc]
  rfl

theorem decodeLossy_concat (bytes : List UInt8) (b : UInt8) :
    ∃ kept c, decodeLossy (bytes ++ [b]) = kept ++ [c] ∧ kept ⊆ decodeLossy bytes ∧ Stems c b := by
  obtain ⟨c, kept, hc, hkept, hb⟩ := Decoder.settled_feed (proper_decode bytes) b
  refine ⟨kept.reverse, c, ?_, ?_, hb⟩
  · rw [decodeLossy, List.foldl_append, List.foldl_cons, List.foldl_nil, Decoder.finish_eq, hc,
      List.reverse_cons]
  · rw [decodeLossy, Decoder.finish_eq]
    intro x hx
    exact List.mem_reverse.mpr (hkept (List.mem_reverse.mp hx))

theorem exists_stems_of_mem_decodeLossy {bytes : List UInt8} {c : Char}
    (hc : c ∈ decodeLossy bytes) : ∃ b ∈ bytes, Stems c b := by
  induction bytes using List.reverseRecOn with
  | nil => simp [decodeLossy, Decoder.finish] at hc
  | append_singleton bytes b ih =>
      obtain ⟨kept, c', heq, hkept, hb⟩ := decodeLossy_concat bytes b
      rw [heq, List.mem_append, List.mem_singleton] at hc
      rcases hc with hc | rfl
      · obtain ⟨b', hb', hstems⟩ := ih (hkept hc)
        exact ⟨b', List.mem_append_left _ hb', hstems⟩
      · exact ⟨b, by simp, hb⟩

end TextLimits.Utf8
