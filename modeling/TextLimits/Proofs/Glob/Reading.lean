import TextLimits.Proofs.Glob.Slashes

/-! # Reading stars outside all braces

Characters without a meaning of their own are read one by one (`State.foldlM_isOrdinary`), and a star
that no other star follows is read as it comes (`State.read_star`).  Two stars stand for whole
directories behind a slash, if the glob ends there or another slash follows, and at the very start, if a
slash follows. -/

namespace TextLimits.Glob

/-- A name that an entry can have, without characters that have a meaning of their own in a glob. -/
def IsLiteralName (name : String) : Prop :=
  IsEntryName name ∧ ∀ c ∈ name.toList, IsOrdinary c

instance (name : String) : Decidable (IsLiteralName name) :=
  let _ : Decidable (∀ c ∈ name.toList, IsOrdinary c) := List.decidableBAll IsOrdinary name.toList
  inferInstanceAs (Decidable (IsEntryName name ∧ _))

namespace State

variable {s : State} {c : Char} {text : List Char}

/-- What a reader makes of the rest of a glob. -/
def read (s : State) (text : List Char) : Option (List Token) := (text.foldlM step s).bind finish

theorem tokens?_eq_read (source : List Char) : tokens? source = initial.read source := rfl

theorem read_cons (s : State) (c : Char) (text : List Char) :
    s.read (c :: text) = (s.step c).bind fun s' => s'.read text := by
  unfold read
  rw [List.foldlM_cons]
  cases s.step c <;> rfl

theorem read_append {s s' : State} {a : List Char} (h : a.foldlM step s = some s') (b : List Char) :
    s.read (a ++ b) = s'.read b := by
  unfold read
  rw [List.foldlM_append, h]
  rfl

/-! ### Ordinary characters and single stars -/

theorem foldlM_isOrdinary (htext : ∀ c ∈ text, IsOrdinary c) (hframes : s.frames = [])
    (hpending : s.pending = .none) :
    ∃ s', text.foldlM step s = some s' ∧ s'.frames = [] ∧ s'.pending = .none ∧
      s'.tokens = (text.map .literal).reverse ++ s.tokens := by
  have hspell : ∀ c ∈ text, ∀ {s : State}, s.frames = [] → s.pending = .none →
      [c].foldlM step s = some (s.push (.literal c) c) := by
    intro c hc s hf hp
    rw [List.foldlM_cons, step_isOrdinary (htext c hc) hf hp]
    rfl
  have hread := foldlM_flatMap_literal hspell hframes hpending
  rwa [List.flatMap_singleton'] at hread

/-- Where nothing is open, a star is read as one, unless another star follows. -/
theorem read_star (htext : text.head? ≠ some '*') (hpending : s.pending = .none) :
    s.read ('*' :: text) = (s.push .star '*').read text := by
  have hstar : s.step '*' = some { s with pending := .star } := by
    rw [step, hpending]
    rfl
  rw [read_cons, hstar, Option.bind_some]
  cases text with
  | nil => rfl
  | cons c text =>
      have hc : c ≠ '*' := fun h => htext (by rw [h]; rfl)
      have hstep : step { s with pending := .star } c = (s.push .star '*').step c := if_neg hc
      rw [read_cons, read_cons, hstep]

/-! ### Two stars -/

/-- The reader behind a slash that no brace encloses. -/
def behindSlash (t : Token) (tokens : List Token) : State := ⟨[], t :: tokens, some '/', .none⟩

theorem foldlM_directory (htext : ∀ c ∈ text, IsOrdinary c) (hframes : s.frames = [])
    (hpending : s.pending = .none) :
    (text ++ ['/']).foldlM step s =
      some (behindSlash (.literal '/') ((text.map .literal).reverse ++ s.tokens)) := by
  obtain ⟨s', hs', hf, hp, ht⟩ := foldlM_isOrdinary htext hframes hpending
  have hslash : s'.step '/' = some (s'.push (.literal '/') '/') :=
    step_isOrdinary (by decide) hf hp
  rw [List.foldlM_append, hs']
  change ['/'].foldlM step s' = _
  rw [List.foldlM_cons, hslash, behindSlash, ← ht, ← hf]
  rfl

theorem foldlM_treePrefix :
    ['*', '*', '/'].foldlM step initial = some (behindSlash .treePrefix []) := rfl

theorem foldlM_treeMiddle (tokens : List Token) :
    ['*', '*', '/'].foldlM step (behindSlash (.literal '/') tokens) =
      some (behindSlash .treeMiddle tokens) := rfl

theorem read_treeSuffix (tokens : List Token) :
    (behindSlash (.literal '/') tokens).read ['*', '*'] = some (.treeSuffix :: tokens).reverse := rfl

theorem read_star_isOrdinary (htext : ∀ c ∈ text, IsOrdinary c) (hframes : s.frames = [])
    (hpending : s.pending = .none) :
    s.read ('*' :: text) = some (s.tokens.reverse ++ .star :: text.map .literal) := by
  have hhead : text.head? ≠ some '*' := fun h =>
    absurd (htext '*' (List.mem_of_head? h)) (by decide)
  obtain ⟨s', hs', hf, hp, ht⟩ := foldlM_isOrdinary htext (s := s.push .star '*') hframes rfl
  rw [read_star hhead hpending, read, hs', Option.bind_some, finish, hf, hp, ht]
  simp [push]

end State

end TextLimits.Glob
