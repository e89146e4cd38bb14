import TextLimits.Proofs.Glob.Matching
import TextLimits.Proofs.Text.Encoding

/-! # The literal beginning of a glob

Up to its first special character a glob is read as literal tokens.  If a slash comes before that
character, then whatever is read after the slash, the tokens begin with those literals and one token
that starts with a slash (`tokens?_plain_append`), so every path that the glob matches begins with the
characters up to the slash (`prefix_of_isMatch`).  The invariant is about the tokens outside all
braces: each step of the reader adds to them or changes the reading of the last one. -/

namespace TextLimits.Glob

/-- A character that stands for itself outside braces. -/
def IsPlain (c : Char) : Prop := c ≠ '?' ∧ c ≠ '*' ∧ c ≠ '[' ∧ c ≠ '\\' ∧ c ≠ '{'

instance (c : Char) : Decidable (IsPlain c) := inferInstanceAs (Decidable (_ ∧ _ ∧ _ ∧ _ ∧ _))

/-- A character that stands for itself wherever no brace is open. -/
def IsOrdinary (c : Char) : Prop := IsPlain c ∧ c ≠ '}'

instance (c : Char) : Decidable (IsOrdinary c) := inferInstanceAs (Decidable (_ ∧ _))

/-- A token that takes a slash first. -/
def Token.IsSlashFirst (t : Token) : Prop :=
  t = .literal '/' ∨ t = .treeMiddle ∨ t = .treeSuffix

/-- Tokens, newest first, that begin with given ones and a token that takes a slash first. -/
def Begins (first tokens : List Token) : Prop :=
  ∃ t more, tokens = more ++ t :: first ∧ t.IsSlashFirst

namespace Begins

variable {first tokens : List Token}

theorem cons (t : Token) (h : Begins first tokens) : Begins first (t :: tokens) := by
  obtain ⟨u, more, rfl, hu⟩ := h
  exact ⟨u, t :: more, rfl, hu⟩

theorem replace_head {last : Token} {t : Token} (ht : t.IsSlashFirst)
    (h : Begins first (last :: tokens)) : Begins first (t :: tokens) := by
  obtain ⟨u, more, heq, hu⟩ := h
  cases more with
  | nil =>
      obtain ⟨-, rfl⟩ := List.cons_eq_cons.mp heq
      exact ⟨t, [], rfl, ht⟩
  | cons m more =>
      obtain ⟨-, rfl⟩ := List.cons_eq_cons.mp heq
      exact ⟨u, t :: more, rfl, hu⟩

theorem ne_nil (h : Begins first tokens) : tokens ≠ [] := by
  obtain ⟨u, more, rfl, -⟩ := h
  simp

end Begins

/-! ### The tokens outside all braces -/

namespace State

/-- The tokens outside all braces: those of the branch being read if no brace is open, else those
before the outermost brace. -/
def outermost : List Frame → List Token → List Token
  | [], tokens => tokens
  | f :: frames, _ => outermost frames f.outer

variable {first : List Token} {s s' : State} {c : Char}

/-- The tokens outside all braces begin as they should. -/
def Keeps (first : List Token) (s : State) : Prop := Begins first (outermost s.frames s.tokens)

theorem begins_outermost {frames : List Frame} {tokens tokens' : List Token}
    (h : Begins first (outermost frames tokens)) (hstep : Begins first tokens → Begins first tokens') :
    Begins first (outermost frames tokens') := by
  cases frames with
  | nil => exact hstep h
  | cons f frames => exact h

theorem keeps_push (h : s.Keeps first) (t : Token) (last : Char) : (s.push t last).Keeps first :=
  begins_outermost h fun h => h.cons t

theorem keeps_pushStars (h : s.Keeps first) : s.pushStars.Keeps first :=
  keeps_push (keeps_push h .star '*') .star '*'

theorem keeps_replaceLast (h : s.Keeps first) {t : Token} (ht : t.IsSlashFirst) (last : Char) :
    (s.replaceLast t last).Keeps first := by
  refine begins_outermost h fun h => ?_
  cases htokens : s.tokens with
  | nil => exact absurd htokens h.ne_nil
  | cons head tokens =>
      rw [htokens] at h
      simp only [replaceLast, htokens]
      cases head with
      | treePrefix => exact h
      | treeSuffix => exact h
      | _ => exact h.replace_head ht

theorem keeps_plain (h : s.Keeps first) (hs : s.plain c = some s') : s'.Keeps first := by
  unfold plain at hs
  split at hs
  · cases hs
    exact keeps_push h _ _
  · cases hs
    exact h
  · cases hs
    exact h
  · cases hs
    exact h
  · cases hs
    exact h
  · cases hframes : s.frames with
    | nil => rw [hframes] at hs; cases hs
    | cons f frames =>
        rw [hframes] at hs
        cases hs
        rw [Keeps, hframes] at h
        have houter : Begins first (outermost frames f.outer) := h
        exact begins_outermost houter fun h => h.cons _
  · cases hframes : s.frames with
    | nil =>
        rw [hframes] at hs
        cases hs
        exact keeps_push h _ _
    | cons f frames =>
        rw [hframes] at hs
        cases hs
        rw [Keeps, hframes] at h
        exact h
  · cases hs
    exact keeps_push h _ _

theorem keeps_afterStars (h : s.Keeps first) (hs : s.afterStars c = some s') : s'.Keeps first := by
  unfold afterStars at hs
  split_ifs at hs
  · cases hs
    exact keeps_push h _ _
  · exact keeps_plain (keeps_pushStars h) hs
  · exact keeps_plain (keeps_replaceLast h (.inr (.inr rfl)) _) hs
  · cases hs
    exact keeps_replaceLast h (.inr (.inl rfl)) _
  · exact keeps_plain (keeps_pushStars h) hs
  · exact keeps_plain (keeps_pushStars h) hs

theorem keeps_classMember (o : OpenClass) (h : s.Keeps first) (hs : s.classMember o c = some s') :
    s'.Keeps first := by
  unfold classMember at hs
  split_ifs at hs
  · obtain ⟨ranges, -, rfl⟩ := Option.map_eq_some_iff.mp hs
    exact h
  · cases hs
    exact h
  · cases hs
    exact h

theorem keeps_inClass (o : OpenClass) (h : s.Keeps first) (hs : s.inClass o c = some s') :
    s'.Keeps first := by
  unfold inClass at hs
  dsimp only at hs
  split at hs
  · cases hs
    exact h
  · split at hs
    · cases hs
      exact keeps_push h _ _
    · exact keeps_classMember o h hs

theorem keeps_step (h : s.Keeps first) (hs : s.step c = some s') : s'.Keeps first := by
  unfold step at hs
  split at hs
  · exact keeps_plain h hs
  · cases hs
    exact keeps_push h _ _
  · split_ifs at hs
    · cases hs
      exact h
    · exact keeps_plain (keeps_push h _ _) hs
  · exact keeps_afterStars h hs
  · exact keeps_inClass _ h hs

theorem keeps_foldlM {text : List Char} (h : s.Keeps first) (hs : text.foldlM step s = some s') :
    s'.Keeps first := by
  induction text generalizing s with
  | nil =>
      cases hs
      exact h
  | cons c text ih =>
      rw [List.foldlM_cons] at hs
      obtain ⟨mid, hmid, hrest⟩ := Option.bind_eq_some_iff.mp hs
      exact ih (keeps_step h hmid) hrest

theorem begins_finish {tokens : List Token} (h : s.Keeps first) (hs : s.finish = some tokens) :
    Begins first tokens.reverse := by
  have hnil : s.frames = [] := by
    by_contra hne
    have hopen : (!s.frames.isEmpty) = true := by simpa using hne
    rw [finish, if_pos hopen] at hs
    cases hs
  have hkeep : ∀ u : State, u.frames = [] → u.Keeps first → Begins first u.tokens := by
    intro u hu hkeeps
    rwa [Keeps, hu] at hkeeps
  have hclosed : ¬(!s.frames.isEmpty) = true := by simp [hnil]
  rw [finish, if_neg hclosed] at hs
  cases hpending : s.pending with
  | none =>
      rw [hpending] at hs
      cases hs
      rw [List.reverse_reverse]
      exact hkeep s hnil h
  | escape => rw [hpending] at hs; cases hs
  | cls o => rw [hpending] at hs; cases hs
  | star =>
      rw [hpending] at hs
      cases hs
      rw [List.reverse_reverse]
      exact hkeep _ hnil (keeps_push h _ _)
  | doubleStar =>
      rw [hpending] at hs
      dsimp only at hs
      split_ifs at hs with hempty
      · exact absurd (List.isEmpty_iff.mp hempty) (hkeep s hnil h).ne_nil
      · cases hs
        rw [List.reverse_reverse]
        exact hkeep _ hnil (keeps_replaceLast h (.inr (.inr rfl)) _)
      · cases hs
        rw [List.reverse_reverse]
        exact hkeep _ hnil (keeps_pushStars h)

/-! ### Plain characters -/

theorem step_isOrdinary (hc : IsOrdinary c) (hframes : s.frames = []) (hpending : s.pending = .none) :
    s.step c = some (s.push (.literal c) c) := by
  obtain ⟨⟨h1, h2, h3, h4, h5⟩, h6⟩ := hc
  rw [step, hpending]
  dsimp only
  unfold plain
  split
  · exact absurd rfl h1
  · exact absurd rfl h2
  · exact absurd rfl h3
  · exact absurd rfl h4
  · exact absurd rfl h5
  · exact absurd rfl h6
  · rw [hframes]
  · rfl

theorem step_closingBrace (hframes : s.frames = []) (hpending : s.pending = .none) :
    s.step '}' = none := by
  rw [step, hpending]
  change s.plain '}' = none
  rw [plain, hframes]

theorem step_isPlain (hc : IsPlain c) (hframes : s.frames = []) (hpending : s.pending = .none)
    (hs : s.step c = some s') : s' = s.push (.literal c) c := by
  by_cases hbrace : c = '}'
  · subst hbrace
    rw [step_closingBrace hframes hpending] at hs
    cases hs
  · rw [step_isOrdinary ⟨hc, hbrace⟩ hframes hpending] at hs
    exact (Option.some.inj hs).symm

/-- Where nothing is open, what spells the characters of a text one by one is read as literals. -/
theorem foldlM_flatMap_literal {text : List Char} {spell : Char → List Char}
    (hspell : ∀ c ∈ text, ∀ {s : State}, s.frames = [] → s.pending = .none →
      (spell c).foldlM step s = some (s.push (.literal c) c))
    {s : State} (hframes : s.frames = []) (hpending : s.pending = .none) :
    ∃ s', (text.flatMap spell).foldlM step s = some s' ∧ s'.frames = [] ∧ s'.pending = .none ∧
      s'.tokens = (text.map .literal).reverse ++ s.tokens := by
  induction text generalizing s with
  | nil => exact ⟨s, rfl, hframes, hpending, rfl⟩
  | cons c text ih =>
      rw [List.forall_mem_cons] at hspell
      obtain ⟨s', hs', hf, hp, ht⟩ := ih hspell.2 (s := s.push (.literal c) c) hframes rfl
      refine ⟨s', ?_, hf, hp, ?_⟩
      · rw [List.flatMap_cons, List.foldlM_append, hspell.1 hframes hpending]
        exact hs'
      · rw [ht, List.map_cons, List.reverse_cons, List.append_assoc]
        rfl

theorem foldlM_isPlain {text : List Char} {s : State} (htext : ∀ c ∈ text, IsPlain c)
    (hframes : s.frames = []) (hpending : s.pending = .none)
    (hs : text.foldlM step s = some s') :
    s'.frames = [] ∧ s'.pending = .none ∧ s'.tokens = (text.map .literal).reverse ++ s.tokens := by
  induction text generalizing s with
  | nil =>
      cases hs
      exact ⟨hframes, hpending, rfl⟩
  | cons c text ih =>
      rw [List.foldlM_cons] at hs
      obtain ⟨mid, hmid, hrest⟩ := Option.bind_eq_some_iff.mp hs
      obtain rfl := step_isPlain (htext c List.mem_cons_self) hframes hpending hmid
      obtain ⟨hf, hp, ht⟩ := ih (s := s.push (.literal c) c)
        (fun d hd => htext d (List.mem_cons_of_mem _ hd)) hframes rfl hrest
      refine ⟨hf, hp, ?_⟩
      rw [ht, List.map_cons, List.reverse_cons, List.append_assoc]
      rfl

end State

/-! ### Whole globs -/

variable {text rest : List Char} {tokens : List Token}

/-- Plain characters up to a slash are read as literals, and the slash as a token that takes a slash
first, whatever comes after it. -/
theorem tokens?_plain_append (htext : ∀ c ∈ text, IsPlain c)
    (h : tokens? (text ++ '/' :: rest) = some tokens) :
    ∃ t more, tokens = text.map .literal ++ t :: more ∧ t.IsSlashFirst := by
  obtain ⟨s, hs, hfinish⟩ := Option.bind_eq_some_iff.mp h
  rw [List.foldlM_append] at hs
  obtain ⟨mid, hmid, hrest⟩ := Option.bind_eq_some_iff.mp hs
  obtain ⟨hframes, hpending, htokens⟩ := State.foldlM_isPlain htext rfl rfl hmid
  rw [show State.initial.tokens = [] from rfl, List.append_nil] at htokens
  rw [List.foldlM_cons] at hrest
  obtain ⟨slashed, hslash, hrest⟩ := Option.bind_eq_some_iff.mp hrest
  have hplain : IsPlain '/' := by decide
  obtain rfl := State.step_isPlain hplain hframes hpending hslash
  have hkeeps : (mid.push (.literal '/') '/').Keeps (text.map .literal).reverse := by
    refine ⟨.literal '/', [], ?_, .inl rfl⟩
    rw [← htokens]
    simp [State.push, hframes, State.outermost]
  obtain ⟨t, more, heq, ht⟩ := State.begins_finish (State.keeps_foldlM hkeeps hrest) hfinish
  refine ⟨t, more.reverse, ?_, ht⟩
  rw [← List.reverse_reverse tokens, heq]
  simp

theorem Token.IsSlashFirst.accepts {t : Token} {u : List UInt8} (ht : t.IsSlashFirst)
    (h : t.Accepts u) : ∃ v, u = Utf8.encode ['/'] ++ v := by
  rcases ht with rfl | rfl | rfl
  · exact ⟨[], h.trans (by decide)⟩
  · rcases h with rfl | ⟨v, rfl⟩
    · exact ⟨[], by decide⟩
    · exact ⟨v ++ [slash], rfl⟩
  · obtain ⟨v, rfl⟩ := h
    exact ⟨v, rfl⟩

/-- What literal tokens match is the text of their characters. -/
theorem isMatch_literals_iff {path : String} {g : Glob} (hg : g.tokens = text.map .literal) :
    g.isMatch path = true ↔ path.toList = text := by
  have hstars : text.map Token.literal ≠ [.treePrefix] := by
    cases text with
    | nil => exact fun h => by cases h
    | cons c text => exact fun h => by cases h
  rw [isMatch_iff, hg, listAccepts_literals, or_iff_right hstars]
  exact Utf8.encode_injective.eq_iff

/-- **Every path that a glob matches begins with the plain characters of the glob up to a slash.** -/
theorem prefix_of_isMatch {source path : String} {g : Glob} (hg : parse source = .ok g)
    (hsource : source.toList = text ++ '/' :: rest) (hplain : ∀ c ∈ text, IsPlain c)
    (h : g.isMatch path = true) : text ++ ['/'] <+: path.toList := by
  have hread := (parse_eq_ok_iff.mp hg).2
  rw [hsource] at hread
  obtain ⟨t, more, htokens, ht⟩ := tokens?_plain_append hplain hread
  rcases (isMatch_iff g path).mp h with hstars | hacc
  · rw [htokens] at hstars
    cases htext : text with
    | nil =>
        rw [htext] at hstars
        obtain ⟨rfl, -⟩ := List.cons_eq_cons.mp hstars
        rcases ht with h | h | h <;> cases h
    | cons c text => rw [htext] at hstars; cases hstars
  · rw [htokens, listAccepts_append] at hacc
    obtain ⟨v, w, hvw, hv, hw⟩ := hacc
    obtain ⟨x, y, rfl, hx, -⟩ := hw
    obtain ⟨z, rfl⟩ := ht.accepts hx
    rw [listAccepts_literals] at hv
    rw [← Utf8.encode_prefix_encode, hvw, hv, Utf8.encode_append]
    exact ⟨z ++ y, by simp⟩

end TextLimits.Glob
