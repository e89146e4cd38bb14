import Mathlib.Data.List.Forall2
import TextLimits.Proofs.Glob.Reading
import TextLimits.Proofs.Glob.Slashes

/-! # Globs that go level by level

Where no two stars stand together, and without classes, braces and escaped slashes, only a slash stands
for a slash.  The tokens of such a text are found part by part (`Denotes.exists_split`), so it matches the
paths of as many parts of which each is matched by the part of the text at its place alone
(`isMatch_iff_matchesParts`). -/

namespace TextLimits

section Parts

variable {sep : Char} {R : List Char → List Char → Prop} {part text : List Char}
  {parts : List (List Char)}

theorem forall₂_singleton_splitOn_iff :
    List.Forall₂ R [part] (text.splitOn sep) ↔ sep ∉ text ∧ R part text := by
  rw [List.forall₂_cons_left_iff]
  constructor
  · rintro ⟨name, names, hpart, hnames, htext⟩
    rw [List.forall₂_nil_left_iff.mp hnames] at htext
    obtain ⟨rfl, hsep⟩ := splitOn_eq_singleton_iff.mp htext
    exact ⟨hsep, hpart⟩
  · rintro ⟨hsep, hpart⟩
    exact ⟨text, [], hpart, .nil, splitOn_eq_singleton_iff.mpr ⟨rfl, hsep⟩⟩

theorem forall₂_cons_splitOn_iff (hparts : parts ≠ []) :
    List.Forall₂ R (part :: parts) (text.splitOn sep) ↔
      ∃ x y, text = x ++ sep :: y ∧ (sep ∉ x ∧ R part x) ∧ List.Forall₂ R parts (y.splitOn sep) := by
  rw [List.forall₂_cons_left_iff]
  constructor
  · rintro ⟨name, names, hpart, hnames, htext⟩
    have hne : names ≠ [] := fun hnil =>
      hparts (List.eq_nil_of_length_eq_zero (by rw [hnames.length_eq, hnil, List.length_nil]))
    obtain ⟨x, y, rfl, hx, rfl⟩ := (splitOn_eq_append_iff (List.cons_ne_nil name []) hne).mp htext
    obtain ⟨rfl, hsep⟩ := splitOn_eq_singleton_iff.mp hx
    exact ⟨x, y, rfl, ⟨hsep, hpart⟩, hnames⟩
  · rintro ⟨x, y, rfl, ⟨hsep, hpart⟩, hnames⟩
    refine ⟨x, y.splitOn sep, hpart, hnames, ?_⟩
    rw [List.splitOn_append_cons_self, splitOn_eq_singleton_iff.mpr ⟨rfl, hsep⟩]
    rfl

end Parts

namespace Glob

open Utf8 (encode)

/-- Whether a backslash that is not escaped itself stands in front of a slash. -/
def escapesSlash : List Char → Bool
  | '\\' :: c :: text => c = '/' || escapesSlash text
  | _ :: text => escapesSlash text
  | [] => false

/-- A text in which nothing can stand for more than one level of directories. -/
structure IsLevelwise (text : List Char) : Prop where
  noTwoStars : ¬ ['*', '*'] <:+: text
  noClass : '[' ∉ text
  noBrace : '{' ∉ text
  noEscape : escapesSlash text = false

/-- A text of this kind and the tokens that it denotes. -/
inductive Denotes : List Char → List Token → Prop
  | nil : Denotes [] []
  | escaped {c : Char} {text : List Char} {tokens : List Token} (hc : c ≠ '/')
    (h : Denotes text tokens) : Denotes ('\\' :: c :: text) (.literal c :: tokens)
  | any {text : List Char} {tokens : List Token} (h : Denotes text tokens) :
    Denotes ('?' :: text) (.any :: tokens)
  | star {text : List Char} {tokens : List Token} (hhead : text.head? ≠ some '*')
    (h : Denotes text tokens) : Denotes ('*' :: text) (.star :: tokens)
  | ordinary {c : Char} {text : List Char} {tokens : List Token} (hc : IsOrdinary c)
    (h : Denotes text tokens) : Denotes (c :: text) (.literal c :: tokens)

variable {text a b path : List Char} {tokens : List Token} {c : Char}

/-! ### Reading -/

namespace State

variable {s : State}

theorem read_of_step {s' : State} (h : s.step c = some s') : s.read (c :: text) = s'.read text := by
  rw [read_cons, h]
  rfl

theorem read_question (hpending : s.pending = .none) :
    s.read ('?' :: text) = (s.push .any '?').read text := by
  apply read_of_step
  rw [step, hpending]
  rfl

theorem step_backslash (hpending : s.pending = .none) :
    s.step '\\' = some { s with pending := .escape } := by
  rw [step, hpending]
  rfl

theorem read_escape (hpending : s.pending = .none) :
    s.read ('\\' :: c :: text) = (s.push (.literal c) c).read text := by
  rw [read_of_step (step_backslash hpending), read_of_step rfl]
  rfl

theorem read_backslash (hpending : s.pending = .none) : s.read ['\\'] = none := by
  rw [read_of_step (step_backslash hpending)]
  change finish _ = none
  unfold finish
  split <;> rfl

theorem read_closingBrace (hframes : s.frames = []) (hpending : s.pending = .none) :
    s.read ('}' :: text) = none := by
  rw [read_cons, step_closingBrace hframes hpending]
  rfl

theorem read_nil (hframes : s.frames = []) (hpending : s.pending = .none) :
    s.read [] = some s.tokens.reverse := by
  change s.finish = _
  rw [finish, hframes, hpending]
  rfl

theorem reverse_tokens_push (s : State) (t : Token) (last : Char) (tokens : List Token) :
    (s.push t last).tokens.reverse ++ tokens = s.tokens.reverse ++ t :: tokens := by
  rw [push, List.reverse_cons, List.append_assoc, List.singleton_append]

end State

/-- What is denoted is read, wherever nothing is open. -/
theorem Denotes.read (h : Denotes text tokens) {s : State} (hframes : s.frames = [])
    (hpending : s.pending = .none) : s.read text = some (s.tokens.reverse ++ tokens) := by
  induction h generalizing s with
  | nil => rw [State.read_nil hframes hpending, List.append_nil]
  | escaped hc h ih =>
      rw [State.read_escape hpending, ih (s := s.push _ _) hframes rfl, State.reverse_tokens_push]
  | any h ih =>
      rw [State.read_question hpending, ih (s := s.push _ _) hframes rfl, State.reverse_tokens_push]
  | star hhead h ih =>
      rw [State.read_star hhead hpending, ih (s := s.push _ _) hframes rfl, State.reverse_tokens_push]
  | ordinary hc h ih =>
      rw [State.read_of_step (State.step_isOrdinary hc hframes hpending),
        ih (s := s.push _ _) hframes rfl, State.reverse_tokens_push]

theorem IsLevelwise.of_suffix (h : IsLevelwise text) {rest : List Char} (hrest : rest <:+ text)
    (hescape : escapesSlash rest = false) : IsLevelwise rest where
  noTwoStars hstars := h.noTwoStars (hstars.trans hrest.isInfix)
  noClass hmem := h.noClass (hrest.mem hmem)
  noBrace hmem := h.noBrace (hrest.mem hmem)
  noEscape := hescape

theorem IsLevelwise.first_cases (h : IsLevelwise (c :: text)) :
    c = '\\' ∨ c = '}' ∨ c = '?' ∨ (c = '*' ∧ text.head? ≠ some '*') ∨ IsOrdinary c := by
  have hbracket : c ≠ '[' := fun heq => h.noClass (heq ▸ List.mem_cons_self)
  have hbrace : c ≠ '{' := fun heq => h.noBrace (heq ▸ List.mem_cons_self)
  by_cases hstar : c = '*'
  · subst hstar
    refine .inr (.inr (.inr (.inl ⟨rfl, fun hhead => ?_⟩)))
    obtain ⟨rest, rfl⟩ := List.head?_eq_some_iff.mp hhead
    exact h.noTwoStars (List.prefix_append ['*', '*'] rest).isInfix
  · unfold IsOrdinary IsPlain
    tauto

theorem IsLevelwise.exists_denotes (h : IsLevelwise text) {s : State} {read : List Token}
    (hframes : s.frames = []) (hpending : s.pending = .none) (hread : s.read text = some read) :
    ∃ tokens, Denotes text tokens ∧ read = s.tokens.reverse ++ tokens := by
  fun_induction escapesSlash text generalizing s with
  | case1 c text ih =>
      have hescape := h.noEscape
      rw [escapesSlash, Bool.or_eq_false_iff, decide_eq_false_iff_not] at hescape
      rw [State.read_escape hpending] at hread
      obtain ⟨tokens, hdenotes, rfl⟩ :=
        ih (h.of_suffix ⟨['\\', c], rfl⟩ hescape.2) (s := s.push _ _) hframes rfl hread
      exact ⟨_, .escaped hescape.1 hdenotes, State.reverse_tokens_push s _ _ _⟩
  | case2 c text hc ih =>
      have hescape := h.noEscape
      rw [escapesSlash.eq_2 _ _ hc] at hescape
      have hrest := h.of_suffix (List.suffix_cons c text) hescape
      rcases h.first_cases with rfl | rfl | rfl | ⟨rfl, hhead⟩ | hordinary
      · cases text with
        | cons d text => exact absurd rfl (hc d text rfl)
        | nil => rw [State.read_backslash hpending] at hread; cases hread
      · rw [State.read_closingBrace hframes hpending] at hread
        cases hread
      · rw [State.read_question hpending] at hread
        obtain ⟨tokens, hdenotes, rfl⟩ := ih hrest (s := s.push _ _) hframes rfl hread
        exact ⟨_, .any hdenotes, State.reverse_tokens_push s _ _ _⟩
      · rw [State.read_star hhead hpending] at hread
        obtain ⟨tokens, hdenotes, rfl⟩ := ih hrest (s := s.push _ _) hframes rfl hread
        exact ⟨_, .star hhead hdenotes, State.reverse_tokens_push s _ _ _⟩
      · rw [State.read_of_step (State.step_isOrdinary hordinary hframes hpending)] at hread
        obtain ⟨tokens, hdenotes, rfl⟩ := ih hrest (s := s.push _ _) hframes rfl hread
        exact ⟨_, .ordinary hordinary hdenotes, State.reverse_tokens_push s _ _ _⟩
  | case3 =>
      rw [State.read_nil hframes hpending] at hread
      exact ⟨[], .nil, by rw [List.append_nil]; exact (Option.some.inj hread).symm⟩

theorem IsLevelwise.tokens?_eq_some_iff (h : IsLevelwise text) :
    tokens? text = some tokens ↔ Denotes text tokens := by
  rw [State.tokens?_eq_read]
  constructor
  · intro hread
    obtain ⟨_, hdenotes, rfl⟩ := h.exists_denotes rfl rfl hread
    exact hdenotes
  · intro hdenotes
    exact hdenotes.read rfl rfl

namespace Denotes

/-! ### Parts -/

/-- The parts on both sides of a slash are denoted by themselves. -/
theorem exists_split (h : Denotes (a ++ '/' :: b) tokens) :
    ∃ ta tb, tokens = ta ++ .literal '/' :: tb ∧ Denotes a ta ∧ Denotes b tb := by
  generalize htext : a ++ '/' :: b = text at h
  induction h generalizing a with
  | nil => exact absurd htext (by simp)
  | escaped hc h ih =>
      rcases List.append_eq_cons_iff.mp htext with ⟨rfl, hfirst⟩ | ⟨a, rfl, hrest⟩
      · exact absurd (List.cons.inj hfirst).1 (by decide)
      rcases List.append_eq_cons_iff.mp hrest.symm with ⟨rfl, hfirst⟩ | ⟨a, rfl, hrest⟩
      · exact absurd (List.cons.inj hfirst).1.symm hc
      obtain ⟨ta, tb, rfl, ha, hb⟩ := ih (List.cons.inj hrest.symm).2
      exact ⟨_ :: ta, tb, rfl, .escaped hc ha, hb⟩
  | any h ih =>
      rcases List.append_eq_cons_iff.mp htext with ⟨rfl, hfirst⟩ | ⟨a, rfl, hrest⟩
      · exact absurd (List.cons.inj hfirst).1 (by decide)
      obtain ⟨ta, tb, rfl, ha, hb⟩ := ih hrest.symm
      exact ⟨_ :: ta, tb, rfl, .any ha, hb⟩
  | star hhead h ih =>
      rcases List.append_eq_cons_iff.mp htext with ⟨rfl, hfirst⟩ | ⟨a, rfl, rfl⟩
      · exact absurd (List.cons.inj hfirst).1 (by decide)
      obtain ⟨ta, tb, rfl, ha, hb⟩ := ih rfl
      have hheada : a.head? ≠ some '*' := fun h => hhead (by rw [List.head?_append, h]; rfl)
      exact ⟨_ :: ta, tb, rfl, .star hheada ha, hb⟩
  | ordinary hc h ih =>
      rcases List.append_eq_cons_iff.mp htext with ⟨rfl, hfirst⟩ | ⟨a, rfl, hrest⟩
      · obtain ⟨rfl, rfl⟩ := List.cons.inj hfirst
        exact ⟨[], _, rfl, .nil, h⟩
      obtain ⟨ta, tb, rfl, ha, hb⟩ := ih hrest.symm
      exact ⟨_ :: ta, tb, rfl, .ordinary hc ha, hb⟩

theorem slash_not_mem_of_accepts (h : Denotes text tokens) (hslash : '/' ∉ text) :
    ∀ t ∈ tokens, ∀ u, t.Accepts u → slash ∉ u := by
  have hliteral : ∀ c : Char, c ≠ '/' → ∀ u, (Token.literal c).Accepts u → slash ∉ u := by
    rintro c hc _ rfl hmem
    have hmem : slash ∈ encode [c] := by simpa [Utf8.encode_cons] using hmem
    exact hc (List.mem_singleton.mp (slash_mem_encode_iff.mp hmem)).symm
  induction h with
  | nil => simp
  | escaped hc h ih =>
      simp only [List.mem_cons, not_or] at hslash
      exact List.forall_mem_cons.mpr ⟨hliteral _ hc, ih hslash.2.2⟩
  | any h ih =>
      rw [List.mem_cons, not_or] at hslash
      refine List.forall_mem_cons.mpr ⟨?_, ih hslash.2⟩
      rintro _ ⟨byte, hbyte, rfl⟩ hmem
      exact hbyte (List.mem_singleton.mp hmem).symm
  | star hhead h ih =>
      rw [List.mem_cons, not_or] at hslash
      exact List.forall_mem_cons.mpr ⟨fun _ hu => hu, ih hslash.2⟩
  | ordinary hc h ih =>
      rw [List.mem_cons, not_or] at hslash
      exact List.forall_mem_cons.mpr ⟨hliteral _ (Ne.symm hslash.1), ih hslash.2⟩

end Denotes

theorem slash_not_mem_of_listAccepts (h : ∀ t ∈ tokens, ∀ u, t.Accepts u → slash ∉ u) {u : List UInt8}
    (hu : ListAccepts tokens u) : slash ∉ u := by
  induction tokens generalizing u with
  | nil =>
      obtain rfl : u = [] := hu
      simp
  | cons t tokens ih =>
      obtain ⟨v, w, rfl, hv, hw⟩ := hu
      rw [List.forall_mem_cons] at h
      rw [List.mem_append, not_or]
      exact ⟨h.1 v hv, ih h.2 hw⟩

/-! ### Parts on their own -/

/-- A part of a text, as a glob of its own, matches a part of a path. -/
def PartMatches (part name : List Char) : Prop :=
  ∃ g, parse (String.ofList part) = .ok g ∧ g.isMatch (String.ofList name) = true

theorem Denotes.ne_treePrefix (h : Denotes text tokens) : tokens ≠ [.treePrefix] := by
  cases h <;> simp

theorem Denotes.partMatches_iff (h : Denotes text tokens) :
    PartMatches text path ↔ ListAccepts tokens (encode path) := by
  have htokens : tokens? text = some tokens := h.read rfl rfl
  have hglob : parse (String.ofList text) = .ok ⟨String.ofList text, tokens⟩ :=
    parse_eq_ok_iff.mpr ⟨rfl, by rw [String.toList_ofList, htokens]⟩
  unfold PartMatches
  rw [hglob]
  simp only [Except.ok.injEq, exists_eq_left', isMatch_iff, or_iff_right h.ne_treePrefix,
    String.toList_ofList]

theorem Denotes.listAccepts_iff_of_not_mem (h : Denotes text tokens) (hslash : '/' ∉ text) :
    ListAccepts tokens (encode path) ↔ '/' ∉ path ∧ PartMatches text path := by
  rw [h.partMatches_iff]
  refine (and_iff_right_of_imp fun hpath => ?_).symm
  have hnot := slash_not_mem_of_listAccepts (h.slash_not_mem_of_accepts hslash) hpath
  exact mt slash_mem_encode_iff.mpr hnot

/-- What a text denotes matches what has as many parts, if each part matches the one at its place. -/
theorem Denotes.listAccepts_iff_forall₂ (h : Denotes text tokens) :
    ListAccepts tokens (encode path) ↔
      List.Forall₂ PartMatches (text.splitOn '/') (path.splitOn '/') := by
  generalize hparts : text.splitOn '/' = parts
  induction parts generalizing text tokens path with
  | nil => exact absurd hparts (List.splitOn_ne_nil '/' text)
  | cons part parts ih =>
      by_cases hnil : parts = []
      · subst hnil
        obtain ⟨rfl, hslash⟩ := splitOn_eq_singleton_iff.mp hparts
        rw [h.listAccepts_iff_of_not_mem hslash, forall₂_singleton_splitOn_iff]
      · obtain ⟨a, b, rfl, ha, hb⟩ := (splitOn_eq_append_iff (List.cons_ne_nil part []) hnil).mp hparts
        obtain ⟨rfl, hslash⟩ := splitOn_eq_singleton_iff.mp ha
        obtain ⟨ta, tb, rfl, hta, htb⟩ := h.exists_split
        rw [listAccepts_append_slash_iff fun _ => listAccepts_literal_slash,
          forall₂_cons_splitOn_iff hnil]
        simp only [hta.listAccepts_iff_of_not_mem hslash, ih htb hb]

/-- A path has as many slashes as a text, and its parts are matched by those of the text, one by one. -/
structure MatchesParts (source path : String) : Prop where
  slashes : path.toList.count '/' = source.toList.count '/'
  parts : List.Forall₂ PartMatches (Path.parts source) (Path.parts path)

theorem matchesParts_iff {source path : String} :
    MatchesParts source path ↔ List.Forall₂ PartMatches (Path.parts source) (Path.parts path) := by
  refine ⟨MatchesParts.parts, fun h => ⟨?_, h⟩⟩
  have hlength : (Path.parts source).length = (Path.parts path).length := h.length_eq
  unfold Path.parts at hlength
  rw [length_splitOn, length_splitOn] at hlength
  omega

/-- **A glob that goes level by level matches the paths of as many parts, if each of its parts, alone,
matches the part at its place.** -/
theorem isMatch_iff_matchesParts {source path : String} (h : IsLevelwise source.toList) {g : Glob}
    (hg : parse source = .ok g) : g.isMatch path = true ↔ MatchesParts source path := by
  have hdenotes := h.tokens?_eq_some_iff.mp (parse_eq_ok_iff.mp hg).2
  rw [isMatch_iff, or_iff_right hdenotes.ne_treePrefix, matchesParts_iff]
  exact hdenotes.listAccepts_iff_forall₂

end Glob

end TextLimits
