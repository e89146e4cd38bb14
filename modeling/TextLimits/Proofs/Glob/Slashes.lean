import TextLimits.Proofs.Glob.Literal
import TextLimits.Proofs.Path

/-! # Globs and the parts of a path

A slash byte of an encoded path is a slash of the path (`encode_eq_append_slash_iff`).  So where a glob
has a token that takes a slash first, what it matches is cut at a slash into what the tokens in front of
it and those behind it stand for, and both are whole parts of the path. -/

namespace TextLimits.Glob

open Utf8 (encode)

variable {a b : List Token} {path : List Char}

/-! ### Slashes in encoded text -/

theorem encode_slash_cons (text : List Char) : encode ('/' :: text) = slash :: encode text := by
  have hslash : String.utf8EncodeChar '/' = [slash] := by decide
  rw [Utf8.encode_cons, hslash]
  rfl

/-- **A slash byte is a slash.** -/
theorem encode_eq_append_slash_iff {v w : List UInt8} :
    encode path = v ++ slash :: w ↔ ∃ x y, path = x ++ '/' :: y ∧ v = encode x ∧ w = encode y := by
  constructor
  · intro h
    have hfirst : slash.IsUTF8FirstByte := by decide
    obtain ⟨x, y, rfl, rfl, hy⟩ := Utf8.exists_split_of_encode_eq hfirst h
    have hbegins : encode ['/'] <+: encode y := ⟨w, by rw [← hy, encode_slash_cons]; rfl⟩
    obtain ⟨y, rfl⟩ := Utf8.encode_prefix_encode.mp hbegins
    rw [List.singleton_append, encode_slash_cons] at hy
    exact ⟨x, y, rfl, rfl, (List.cons_eq_cons.mp hy).2⟩
  · rintro ⟨x, y, rfl, rfl, rfl⟩
    rw [Utf8.encode_append, encode_slash_cons]

theorem slash_mem_encode_iff : slash ∈ encode path ↔ '/' ∈ path := by
  rw [List.mem_iff_append, List.mem_iff_append]
  constructor
  · rintro ⟨v, w, h⟩
    obtain ⟨x, y, rfl, -, -⟩ := encode_eq_append_slash_iff.mp h
    exact ⟨x, y, rfl⟩
  · rintro ⟨x, y, rfl⟩
    exact ⟨_, _, encode_eq_append_slash_iff.mpr ⟨x, y, rfl, rfl, rfl⟩⟩

/-! ### Tokens that take a slash first -/

theorem listAccepts_literal_slash {u : List UInt8} :
    ListAccepts (.literal '/' :: b) u ↔ ∃ w, u = slash :: w ∧ ListAccepts b w := by
  have hslash : String.utf8EncodeChar '/' = [slash] := by decide
  simp only [ListAccepts, Token.Accepts, hslash]
  constructor
  · rintro ⟨_, w, rfl, rfl, hw⟩
    exact ⟨w, rfl, hw⟩
  · rintro ⟨w, rfl, hw⟩
    exact ⟨[slash], w, rfl, rfl, hw⟩

theorem listAccepts_treeSuffix {u : List UInt8} : ListAccepts [.treeSuffix] u ↔ ∃ w, u = slash :: w := by
  simp only [ListAccepts, Token.Accepts]
  constructor
  · rintro ⟨_, _, rfl, ⟨w, rfl⟩, rfl⟩
    exact ⟨w, List.append_nil _⟩
  · rintro ⟨w, rfl⟩
    exact ⟨slash :: w, [], (List.append_nil _).symm, ⟨w, rfl⟩, rfl⟩

theorem listAccepts_treeMiddle {u : List UInt8} :
    ListAccepts (.treeMiddle :: b) u ↔ ∃ w, u = slash :: w ∧ ListAccepts (.treePrefix :: b) w := by
  simp only [ListAccepts, Token.Accepts]
  constructor
  · rintro ⟨_, w, rfl, rfl | ⟨v, rfl⟩, hw⟩
    · exact ⟨w, rfl, [], w, rfl, .inl rfl, hw⟩
    · exact ⟨v ++ [slash] ++ w, rfl, v ++ [slash], w, rfl, .inr ⟨v, rfl⟩, hw⟩
  · rintro ⟨_, rfl, _, w, rfl, rfl | ⟨v, rfl⟩, hw⟩
    · exact ⟨[slash], w, rfl, .inl rfl, hw⟩
    · exact ⟨slash :: (v ++ [slash]), w, rfl, .inr ⟨v, rfl⟩, hw⟩

/-- What is matched is cut at a slash where the tokens take one first. -/
theorem listAccepts_append_slash_iff {P : List UInt8 → Prop}
    (hb : ∀ u, ListAccepts b u ↔ ∃ w, u = slash :: w ∧ P w) :
    ListAccepts (a ++ b) (encode path) ↔
      ∃ x y, path = x ++ '/' :: y ∧ ListAccepts a (encode x) ∧ P (encode y) := by
  rw [listAccepts_append]
  constructor
  · rintro ⟨v, u, huv, hv, hu⟩
    obtain ⟨w, rfl, hw⟩ := (hb u).mp hu
    obtain ⟨x, y, rfl, rfl, rfl⟩ := encode_eq_append_slash_iff.mp huv
    exact ⟨x, y, rfl, hv, hw⟩
  · rintro ⟨x, y, rfl, hx, hy⟩
    exact ⟨encode x, slash :: encode y, encode_eq_append_slash_iff.mpr ⟨x, y, rfl, rfl, rfl⟩, hx,
      (hb _).mpr ⟨encode y, rfl, hy⟩⟩

/-- Two stars at the start of a glob stand for any parts in front of the others, or for none. -/
theorem listAccepts_treePrefix_iff :
    ListAccepts (.treePrefix :: b) (encode path) ↔
      ∃ front rest, path.splitOn '/' = front ++ rest.splitOn '/' ∧ ListAccepts b (encode rest) := by
  simp only [ListAccepts, Token.Accepts]
  constructor
  · rintro ⟨_, w, huv, rfl | ⟨v, rfl⟩, hw⟩
    · rw [List.nil_append] at huv
      exact ⟨[], path, rfl, huv ▸ hw⟩
    · rw [List.append_assoc, List.singleton_append] at huv
      obtain ⟨x, y, rfl, rfl, rfl⟩ := encode_eq_append_slash_iff.mp huv
      exact ⟨x.splitOn '/', y, List.splitOn_append_cons_self x y, hw⟩
  · rintro ⟨front, rest, hparts, hrest⟩
    by_cases hfront : front = []
    · subst hfront
      obtain rfl := splitOn_inj.mp hparts
      exact ⟨[], encode path, rfl, .inl rfl, hrest⟩
    · obtain ⟨x, y, rfl, -, hy⟩ :=
        (splitOn_eq_append_iff hfront (List.splitOn_ne_nil '/' rest)).mp hparts
      obtain rfl := splitOn_inj.mp hy
      refine ⟨encode x ++ [slash], encode y, ?_, .inr ⟨encode x, rfl⟩, hrest⟩
      rw [Utf8.encode_append, encode_slash_cons, List.append_assoc, List.singleton_append]

end TextLimits.Glob
