import TextLimits.Proofs.Glob.Escape
import TextLimits.Proofs.Glob.Reading

/-! # Globs of whole directories

A directory and two stars match what has more parts behind those of the directory; with two stars in
front, the parts of the directory may stand anywhere.  Two stars and a star in front of a suffix match
what has a last part that ends in the suffix, at any depth. -/

namespace TextLimits.Glob

open Utf8 (encode)

variable {dir suffix path : List Char}

/-! ### Tokens -/

theorem tokens?_subtree (hdir : ∀ c ∈ dir, IsOrdinary c) :
    tokens? (dir ++ ['/'] ++ ['*', '*']) = some (dir.map .literal ++ [.treeSuffix]) := by
  rw [State.tokens?_eq_read, State.read_append (State.foldlM_directory hdir rfl rfl),
    State.read_treeSuffix]
  simp [State.initial]

theorem tokens?_anySubtree (hdir : ∀ c ∈ dir, IsOrdinary c) :
    tokens? (['*', '*', '/'] ++ (dir ++ ['/'] ++ ['*', '*'])) =
      some (.treePrefix :: (dir.map .literal ++ [.treeSuffix])) := by
  rw [State.tokens?_eq_read, State.read_append State.foldlM_treePrefix,
    State.read_append (State.foldlM_directory hdir rfl rfl), State.read_treeSuffix]
  simp [State.behindSlash]

theorem groups_subtree (dir : List Char) : groups (dir.map .literal ++ [.treeSuffix]) = [] := by
  rw [groups_append, groups_literals]
  rfl

theorem subtree_ne (dir : List Char) : dir.map .literal ++ [.treeSuffix] ≠ [Token.treePrefix] := by
  cases dir <;> simp

theorem tokens?_recursive (hsuffix : ∀ c ∈ suffix, IsOrdinary c) :
    tokens? (['*', '*', '/'] ++ '*' :: suffix) = some (.treePrefix :: .star :: suffix.map .literal) := by
  rw [State.tokens?_eq_read, State.read_append State.foldlM_treePrefix,
    State.read_star_isOrdinary hsuffix rfl rfl]
  rfl

theorem tokens?_recursive_below (hdir : ∀ c ∈ dir, IsOrdinary c)
    (hsuffix : ∀ c ∈ suffix, IsOrdinary c) :
    tokens? (dir ++ ['/'] ++ (['*', '*', '/'] ++ '*' :: suffix)) =
      some (dir.map .literal ++ .treeMiddle :: .star :: suffix.map .literal) := by
  rw [State.tokens?_eq_read, State.read_append (State.foldlM_directory hdir rfl rfl),
    State.read_append (State.foldlM_treeMiddle _), State.read_star_isOrdinary hsuffix rfl rfl]
  simp [State.behindSlash, State.initial]

/-! ### Parts -/

theorem exists_splitOn_eq {sep : Char} {text : List Char} {front behind : List (List Char)}
    (h : text.splitOn sep = front ++ behind) (hbehind : behind ≠ []) :
    ∃ rest : List Char, rest.splitOn sep = behind := by
  by_cases hfront : front = []
  · subst hfront
    exact ⟨text, h⟩
  · obtain ⟨-, y, -, -, hy⟩ := (splitOn_eq_append_iff hfront hbehind).mp h
    exact ⟨y, hy⟩

theorem listAccepts_literals_encode {text : List Char} :
    ListAccepts (text.map .literal) (encode path) ↔ path = text :=
  listAccepts_literals.trans Utf8.encode_injective.eq_iff

theorem listAccepts_subtree_iff :
    ListAccepts (dir.map .literal ++ [.treeSuffix]) (encode path) ↔
      ∃ rest, rest ≠ [] ∧ path.splitOn '/' = dir.splitOn '/' ++ rest := by
  have hsuffix : ∀ u, ListAccepts [.treeSuffix] u ↔ ∃ w, u = slash :: w ∧ True := by
    simp [listAccepts_treeSuffix]
  rw [listAccepts_append_slash_iff hsuffix]
  constructor
  · rintro ⟨x, y, rfl, hx, -⟩
    obtain rfl := listAccepts_literals_encode.mp hx
    exact ⟨y.splitOn '/', List.splitOn_ne_nil '/' y, List.splitOn_append_cons_self x y⟩
  · rintro ⟨rest, hrest, hparts⟩
    obtain ⟨x, y, rfl, hx, -⟩ :=
      (splitOn_eq_append_iff (List.splitOn_ne_nil '/' dir) hrest).mp hparts
    exact ⟨x, y, rfl, listAccepts_literals_encode.mpr (splitOn_inj.mp hx), trivial⟩

theorem listAccepts_anySubtree_iff :
    ListAccepts (.treePrefix :: (dir.map .literal ++ [.treeSuffix])) (encode path) ↔
      ∃ front rest, rest ≠ [] ∧ path.splitOn '/' = front ++ (dir.splitOn '/' ++ rest) := by
  rw [listAccepts_treePrefix_iff]
  simp only [listAccepts_subtree_iff]
  constructor
  · rintro ⟨front, below, hparts, rest, hrest, hbelow⟩
    exact ⟨front, rest, hrest, by rw [hparts, hbelow]⟩
  · rintro ⟨front, rest, hrest, hparts⟩
    obtain ⟨below, hbelow⟩ := exists_splitOn_eq hparts (by simp [hrest])
    exact ⟨front, below, by rw [hparts, hbelow], rest, hrest, hbelow⟩

/-- A star and a suffix match what is one part and ends in the suffix. -/
theorem listAccepts_star_iff (hsuffix : '/' ∉ suffix) :
    ListAccepts (.star :: suffix.map .literal) (encode path) ↔ '/' ∉ path ∧ suffix <:+ path := by
  simp only [ListAccepts, Token.Accepts, listAccepts_literals]
  constructor
  · rintro ⟨v, _, huv, hv, rfl⟩
    obtain ⟨x, rfl⟩ := Utf8.encode_suffix_encode.mp ⟨v, huv.symm⟩
    rw [Utf8.encode_append] at huv
    rw [← List.append_cancel_right huv, slash_mem_encode_iff] at hv
    exact ⟨by simp [hv, hsuffix], List.suffix_append x suffix⟩
  · rintro ⟨hpath, x, rfl⟩
    refine ⟨encode x, encode suffix, Utf8.encode_append x suffix, ?_, rfl⟩
    rw [slash_mem_encode_iff]
    exact fun h => hpath (List.mem_append_left suffix h)

theorem listAccepts_recursive_iff (hsuffix : '/' ∉ suffix) :
    ListAccepts (.treePrefix :: .star :: suffix.map .literal) (encode path) ↔
      ∃ front last, path.splitOn '/' = front ++ [last] ∧ suffix <:+ last := by
  rw [listAccepts_treePrefix_iff]
  simp only [listAccepts_star_iff hsuffix]
  constructor
  · rintro ⟨front, last, hparts, hslash, hends⟩
    rw [splitOn_eq_singleton_iff.mpr ⟨rfl, hslash⟩] at hparts
    exact ⟨front, last, hparts, hends⟩
  · rintro ⟨front, last, hparts, hends⟩
    obtain ⟨rest, hrest⟩ := exists_splitOn_eq hparts (List.cons_ne_nil last [])
    obtain ⟨rfl, hslash⟩ := splitOn_eq_singleton_iff.mp hrest
    exact ⟨front, rest, by rw [hparts, hrest], hslash, hends⟩

theorem listAccepts_recursive_below_iff (hsuffix : '/' ∉ suffix) :
    ListAccepts (dir.map .literal ++ .treeMiddle :: .star :: suffix.map .literal) (encode path) ↔
      ∃ front last, path.splitOn '/' = dir.splitOn '/' ++ (front ++ [last]) ∧ suffix <:+ last := by
  rw [listAccepts_append_slash_iff fun _ => listAccepts_treeMiddle]
  simp only [listAccepts_recursive_iff hsuffix]
  constructor
  · rintro ⟨x, y, rfl, hx, front, last, hparts, hends⟩
    obtain rfl := listAccepts_literals_encode.mp hx
    exact ⟨front, last, by rw [List.splitOn_append_cons_self, hparts], hends⟩
  · rintro ⟨front, last, hparts, hends⟩
    obtain ⟨x, y, rfl, hx, hy⟩ :=
      (splitOn_eq_append_iff (List.splitOn_ne_nil '/' dir) (by simp)).mp hparts
    exact ⟨x, y, rfl, listAccepts_literals_encode.mpr (splitOn_inj.mp hx), front, last, hy, hends⟩

end TextLimits.Glob
