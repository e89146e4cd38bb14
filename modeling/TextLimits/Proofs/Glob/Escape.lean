import TextLimits.Proofs.Glob.Depth
import TextLimits.Proofs.Glob.Literal

/-! # Escaped globs

A backslash in front of a character makes a literal of it.  A text in which every character with a
meaning of its own is escaped (`Glob.escape`) is a glob of the literals of the text (`parse_escape`),
so it matches the text and nothing else.  A text without such characters is its own escaped form
(`escape_eq_self_iff`). -/

namespace TextLimits.Glob

/-- A character that has a meaning of its own somewhere in a glob. -/
def IsMeta (c : Char) : Prop := c ∈ ['*', '?', '[', ']', '{', '}', '\\']

instance (c : Char) : Decidable (IsMeta c) := inferInstanceAs (Decidable (c ∈ _))

/-- A character with a backslash in front of it, if it would not stand for itself. -/
def escapeChar (c : Char) : List Char := if IsMeta c then ['\\', c] else [c]

def escapeChars (text : List Char) : List Char := text.flatMap escapeChar

/-- A text with a backslash in front of every character that would not stand for itself. -/
def escape (text : String) : String := String.ofList (escapeChars text.toList)

/-! ### The characters of an escaped text -/

theorem toList_escape (text : String) : (escape text).toList = escapeChars text.toList :=
  String.toList_ofList

theorem escapeChars_append (a b : List Char) :
    escapeChars (a ++ b) = escapeChars a ++ escapeChars b := List.flatMap_append

theorem escapeChars_eq_self {text : List Char} (h : ∀ c ∈ text, ¬ IsMeta c) :
    escapeChars text = text := by
  induction text with
  | nil => rfl
  | cons c text ih =>
      rw [List.forall_mem_cons] at h
      rw [escapeChars, List.flatMap_cons, escapeChar, if_neg h.1, ← escapeChars, ih h.2]
      rfl

theorem mem_escapeChars_iff {c : Char} {text : List Char} :
    c ∈ escapeChars text ↔ c ∈ text ∨ c = '\\' ∧ ∃ d ∈ text, IsMeta d := by
  have hone : ∀ d, c ∈ escapeChar d ↔ c = d ∨ c = '\\' ∧ IsMeta d := by
    intro d
    unfold escapeChar
    split_ifs with hd
    · simp [hd, or_comm]
    · simp [hd]
  unfold escapeChars
  rw [List.mem_flatMap]
  constructor
  · rintro ⟨d, hd, hc⟩
    rcases (hone d).mp hc with rfl | ⟨hc, hmeta⟩
    · exact .inl hd
    · exact .inr ⟨hc, d, hd, hmeta⟩
  · rintro (hc | ⟨hc, d, hd, hmeta⟩)
    · exact ⟨c, hc, (hone c).mpr (.inl rfl)⟩
    · exact ⟨d, hd, (hone d).mpr (.inr ⟨hc, hmeta⟩)⟩

theorem escapeChars_eq_self_of_not_mem {text : List Char} (h : '\\' ∉ escapeChars text) :
    escapeChars text = text := by
  apply escapeChars_eq_self
  intro c hc hmeta
  exact h (mem_escapeChars_iff.mpr (.inr ⟨rfl, c, hc, hmeta⟩))

theorem length_escapeChars (text : List Char) :
    (escapeChars text).length = text.length + text.countP (IsMeta ·) := by
  induction text with
  | nil => rfl
  | cons c text ih =>
      rw [← List.singleton_append, escapeChars_append, List.length_append, List.length_append,
        List.countP_append, ih]
      by_cases hc : IsMeta c
      · simp [escapeChars, escapeChar, hc]
        omega
      · simp [escapeChars, escapeChar, hc]
        omega

theorem escape_eq_self_iff {text : String} :
    escape text = text ↔ ∀ c ∈ text.toList, ¬ IsMeta c := by
  constructor
  · intro h
    have hlength := length_escapeChars text.toList
    rw [← toList_escape, h] at hlength
    have hcount : text.toList.countP (IsMeta ·) = 0 := by omega
    simpa using hcount
  · intro h
    rw [escape, escapeChars_eq_self h, String.ofList_toList]

/-! ### Reading an escaped text -/

namespace State

theorem foldlM_escapeChar {s : State} (hframes : s.frames = []) (hpending : s.pending = .none)
    (c : Char) : (escapeChar c).foldlM step s = some (s.push (.literal c) c) := by
  unfold escapeChar
  split_ifs with hc
  · rw [List.foldlM_cons, step, hpending]
    rfl
  · have hordinary : IsOrdinary c := by
      refine ⟨⟨?_, ?_, ?_, ?_, ?_⟩, ?_⟩ <;> rintro rfl <;> exact hc (by decide)
    rw [List.foldlM_cons, step_isOrdinary hordinary hframes hpending]
    rfl

/-- Where nothing is open, an escaped text is read as literals. -/
theorem foldlM_escapeChars (text : List Char) {s : State} (hframes : s.frames = [])
    (hpending : s.pending = .none) :
    ∃ s', (escapeChars text).foldlM step s = some s' ∧ s'.frames = [] ∧ s'.pending = .none ∧
      s'.tokens = (text.map .literal).reverse ++ s.tokens :=
  foldlM_flatMap_literal (fun c _ _ hf hp => foldlM_escapeChar hf hp c) hframes hpending

end State

/-- The tokens of an escaped text are its characters as literals. -/
theorem tokens?_escapeChars (text : List Char) :
    tokens? (escapeChars text) = some (text.map .literal) := by
  obtain ⟨s, hs, hframes, hpending, htokens⟩ :=
    State.foldlM_escapeChars text (s := State.initial) rfl rfl
  rw [tokens?, hs, Option.bind_some, State.finish, hframes, hpending, htokens]
  have hinitial : State.initial.tokens = [] := rfl
  rw [hinitial, List.append_nil]
  exact congrArg some (List.reverse_reverse _)

/-- **An escaped text is a glob**, made of the characters of the text as literals. -/
theorem parse_escape (text : String) :
    parse (escape text) = .ok ⟨escape text, text.toList.map .literal⟩ :=
  parse_eq_ok_iff.mpr ⟨rfl, by rw [toList_escape, tokens?_escapeChars]⟩

theorem groups_literals (text : List Char) : groups (text.map .literal) = [] := by
  refine List.filter_eq_nil_iff.mpr fun t ht => ?_
  obtain ⟨c, -, rfl⟩ := List.mem_map.mp ht
  exact Bool.false_ne_true

end TextLimits.Glob
