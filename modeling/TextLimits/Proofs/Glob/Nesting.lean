import TextLimits.Proofs.Glob.Depth
import TextLimits.Proofs.Glob.Literal

/-! # Globs that are nested too deep

What two stars mean depends on what stands in front of them, but no reading of them opens or closes a
brace.  So whether a text is a glob, and which groups it has, does not depend on the tokens without braces
that were read before it: readers that differ in those only stay alike step by step (`State.Alike.step`)
and end alike (`State.Alike.finish`).  As only groups make a glob too deep, dots and slashes in front of a
text make no difference (`tooDeep?_dotSlash`). -/

namespace TextLimits.Glob

variable {s t : State}

namespace State

/-! ### Readers that differ outside all braces -/

/-- A group is the last token only right after the brace that closes it. -/
def ClosedBy (tokens : List Token) (previous : Option Char) : Prop :=
  ∀ t ∈ tokens.head?, t.isGroup = true → previous = some '}'

theorem closedBy_cons {u : Token} (hu : u.isGroup = false) (tokens : List Token)
    (previous : Option Char) : ClosedBy (u :: tokens) previous := by
  intro t ht hgroup
  cases ht
  rw [hu] at hgroup
  cases hgroup

/-- Two readers are alike if they differ only in the tokens outside all braces, and have the same groups
among those.  Outside all braces they may also differ in the last character. -/
inductive Alike : State → State → Prop
  | outside {a b : List Token} {p q : Option Char} {pending : Pending} (h : groups a = groups b)
      (ha : ClosedBy a p) (hb : ClosedBy b q) : Alike ⟨[], a, p, pending⟩ ⟨[], b, q, pending⟩
  | inside (inner : List Frame) {branches : List (List Token)} {a b tokens : List Token}
      {previous : Option Char} {pending : Pending} (h : groups a = groups b) :
      Alike ⟨inner ++ [⟨a, branches⟩], tokens, previous, pending⟩
        ⟨inner ++ [⟨b, branches⟩], tokens, previous, pending⟩

namespace Alike

theorem pending_eq (h : s.Alike t) : s.pending = t.pending := by
  cases h <;> rfl

theorem withPending (h : s.Alike t) (pending : Pending) :
    Alike { s with pending } { t with pending } := by
  cases h with
  | outside h ha hb => exact .outside h ha hb
  | inside inner h => exact .inside inner h

theorem push (h : s.Alike t) {u : Token} (hu : u.isGroup = false) (last : Char) :
    (s.push u last).Alike (t.push u last) := by
  cases h with
  | outside h _ _ =>
      refine .outside ?_ (closedBy_cons hu _ _) (closedBy_cons hu _ _)
      rw [groups_cons hu, groups_cons hu, h]
  | inside inner h => exact .inside inner h

theorem pushStars (h : s.Alike t) : s.pushStars.Alike t.pushStars :=
  (h.push rfl '*').push rfl '*'

end Alike

theorem groups_replaceLast (hclosed : ClosedBy s.tokens s.previous) (hslash : s.previous = some '/')
    {u : Token} (hu : u.isGroup = false) (last : Char) :
    groups (s.replaceLast u last).tokens = groups s.tokens ∧
      ClosedBy (s.replaceLast u last).tokens (some last) := by
  unfold replaceLast
  cases htokens : s.tokens with
  | nil => exact ⟨groups_cons hu [], closedBy_cons hu _ _⟩
  | cons head rest =>
      have hhead : head.isGroup = false := by
        by_contra hgroup
        rw [Bool.not_eq_false] at hgroup
        have hbrace := hclosed head (by rw [htokens]; rfl) hgroup
        rw [hslash] at hbrace
        cases hbrace
      cases head with
      | treePrefix => exact ⟨rfl, closedBy_cons rfl _ _⟩
      | treeSuffix => exact ⟨rfl, closedBy_cons rfl _ _⟩
      | _ => exact ⟨(groups_cons hu rest).trans (groups_cons hhead rest).symm, closedBy_cons hu _ _⟩

theorem afterStars_slash (hframes : s.frames = []) (hclosed : ClosedBy s.tokens s.previous) :
    ∃ tokens, s.afterStars '/' = some ⟨[], tokens, some '/', .none⟩ ∧
      groups tokens = groups s.tokens ∧ ClosedBy tokens (some '/') := by
  have hstars : ∃ tokens, s.pushStars.plain '/' = some ⟨[], tokens, some '/', .none⟩ ∧
      groups tokens = groups s.tokens ∧ ClosedBy tokens (some '/') := by
    refine ⟨.literal '/' :: .star :: .star :: s.tokens, ?_, rfl, closedBy_cons rfl _ _⟩
    simp [pushStars, plain, State.push, hframes]
  unfold afterStars
  by_cases hempty : s.tokens.isEmpty = true
  · rw [if_pos hempty, if_pos rfl]
    refine ⟨.treePrefix :: s.tokens, ?_, rfl, closedBy_cons rfl _ _⟩
    rw [State.push, hframes]
  · rw [if_neg hempty]
    by_cases hafter : s.afterSeparator = true
    · have hslash : s.previous = some '/' := by simpa [afterSeparator, hframes] using hafter
      have hclose : ¬(!s.frames.isEmpty ∧ ('/' = ',' ∨ '/' = '}')) := by simp
      rw [if_pos hafter, if_neg hclose, if_pos rfl]
      obtain ⟨hgroups, hclosed'⟩ := groups_replaceLast hclosed hslash (u := .treeMiddle) rfl '/'
      refine ⟨(s.replaceLast .treeMiddle '/').tokens, ?_, hgroups, hclosed'⟩
      simp [replaceLast, hframes]
    · rw [if_neg hafter]
      exact hstars

theorem afterStars_of_ne_slash (hframes : s.frames = []) {c : Char} (hc : c ≠ '/') :
    s.afterStars c = s.pushStars.plain c := by
  unfold afterStars
  rw [hframes]
  simp [hc]

namespace Alike

/-! ### One more character -/

theorem plain (h : s.Alike t) (c : Char) : Option.Rel Alike (s.plain c) (t.plain c) := by
  unfold State.plain
  split
  · exact .some (h.push rfl _)
  · exact .some (h.withPending _)
  · exact .some (h.withPending _)
  · exact .some (h.withPending _)
  · cases h with
    | outside h _ _ => exact .some (.inside [] h)
    | @inside inner branches a b tokens _ _ h => exact .some (.inside (⟨tokens, []⟩ :: inner) h)
  · cases h with
    | outside => exact .none
    | @inside inner branches a b tokens _ _ h =>
        cases inner with
        | nil =>
            exact .some (.outside (congrArg (List.cons _) h) (fun _ _ _ => rfl) (fun _ _ _ => rfl))
        | cons f inner => exact .some (.inside inner h)
  · cases h with
    | outside h ha hb => exact .some (push (.outside h ha hb) rfl _)
    | @inside inner branches a b tokens _ _ h =>
        cases inner with
        | nil => exact .some (.inside [] h)
        | cons f inner => exact .some (.inside (_ :: inner) h)
  · exact .some (h.push rfl _)

theorem afterStars (h : s.Alike t) (c : Char) : Option.Rel Alike (s.afterStars c) (t.afterStars c) := by
  cases h with
  | @outside a b p q pending h ha hb =>
      by_cases hc : c = '/'
      · subst hc
        obtain ⟨a', hs, ha', hclosed⟩ := afterStars_slash (s := ⟨[], a, p, pending⟩) rfl ha
        obtain ⟨b', ht, hb', hclosed'⟩ := afterStars_slash (s := ⟨[], b, q, pending⟩) rfl hb
        rw [hs, ht]
        exact .some (.outside (by rw [ha', hb', h]) hclosed hclosed')
      · rw [afterStars_of_ne_slash rfl hc, afterStars_of_ne_slash rfl hc]
        exact (pushStars (.outside h ha hb)).plain c
  | @inside inner branches a b tokens previous pending h =>
      have hopen : ∀ f : Frame, (inner ++ [f]).isEmpty = false := by simp
      have halike : ∀ (tokens : List Token) (previous : Option Char) (pending : Pending),
          Alike ⟨inner ++ [⟨a, branches⟩], tokens, previous, pending⟩
            ⟨inner ++ [⟨b, branches⟩], tokens, previous, pending⟩ := fun _ _ _ => .inside inner h
      unfold State.afterStars State.afterSeparator
      simp only [hopen]
      split_ifs
      · exact .some ((halike _ _ _).push rfl _)
      · exact (halike _ _ _).pushStars.plain c
      · exact (halike _ _ _).plain c
      · exact .some (halike _ _ _)
      · exact (halike _ _ _).pushStars.plain c
      · exact (halike _ _ _).pushStars.plain c

theorem inClass (h : s.Alike t) (o : OpenClass) (c : Char) :
    Option.Rel Alike (s.inClass o c) (t.inClass o c) := by
  unfold State.inClass
  dsimp only
  split_ifs
  · exact .some (h.withPending _)
  · exact .some (h.push rfl _)
  · exact .some (h.push rfl _)
  · unfold State.classMember
    split_ifs
    · cases extend o.ranges c with
      | none => exact .none
      | some ranges => exact .some (h.withPending _)
    · exact .some (h.withPending _)
    · exact .some (h.withPending _)

/-- **One more character keeps readers alike**, or stops both of them. -/
theorem step (h : s.Alike t) (c : Char) : Option.Rel Alike (s.step c) (t.step c) := by
  unfold State.step
  rw [← h.pending_eq]
  split
  · exact h.plain c
  · exact .some (h.push rfl _)
  · split_ifs
    · exact .some (h.withPending _)
    · exact (h.push rfl _).plain c
  · exact h.afterStars c
  · exact h.inClass _ c

theorem foldlM (h : s.Alike t) (text : List Char) :
    Option.Rel Alike (text.foldlM State.step s) (text.foldlM State.step t) := by
  induction text generalizing s t with
  | nil => exact .some h
  | cons c text ih =>
      rw [List.foldlM_cons, List.foldlM_cons]
      have hstep := h.step c
      generalize s.step c = a at hstep ⊢
      generalize t.step c = b at hstep ⊢
      cases hstep with
      | none => exact .none
      | some h' => exact ih h'

end Alike

/-! ### The end of the text -/

theorem finish_map_groups (hframes : s.frames = []) (hclosed : ClosedBy s.tokens s.previous) :
    s.finish.map groups =
      match s.pending with
      | .escape | .cls _ => none
      | .none | .star | .doubleStar => some (groups s.tokens).reverse := by
  have hreverse : ∀ tokens : List Token, groups tokens.reverse = (groups tokens).reverse :=
    fun tokens => List.filter_reverse
  unfold finish
  rw [hframes]
  simp only [List.isEmpty_nil, Bool.not_true, Bool.false_eq_true, if_false]
  cases s.pending with
  | none => rw [Option.map_some, hreverse]
  | escape => rfl
  | star =>
      rw [Option.map_some, hreverse]
      rfl
  | cls o => rfl
  | doubleStar =>
      dsimp only
      by_cases hempty : s.tokens.isEmpty = true
      · have hnil : s.tokens = [] := List.isEmpty_iff.mp hempty
        rw [if_pos hempty, hnil]
        rfl
      · rw [if_neg hempty]
        by_cases hafter : s.afterSeparator = true
        · have hslash : s.previous = some '/' := by simpa [afterSeparator, hframes] using hafter
          have hgroups := (groups_replaceLast hclosed hslash (u := .treeSuffix) rfl '*').1
          rw [if_pos hafter, Option.map_some, hreverse, hgroups]
        · rw [if_neg hafter, Option.map_some, hreverse]
          rfl

/-- Readers that are alike end alike: both find a glob, with the same groups, or both find none. -/
theorem Alike.finish (h : s.Alike t) : s.finish.map groups = t.finish.map groups := by
  cases h with
  | inside => simp [State.finish]
  | @outside a b p q pending h ha hb =>
      rw [finish_map_groups rfl ha, finish_map_groups rfl hb, h]

/-- What is read after readers were alike is a glob for both or for none, with the same groups. -/
theorem Alike.groups_eq (h : s.Alike t) (text : List Char) :
    ((text.foldlM State.step s).bind State.finish).map groups =
      ((text.foldlM State.step t).bind State.finish).map groups := by
  have hread := h.foldlM text
  generalize text.foldlM State.step s = a at hread ⊢
  generalize text.foldlM State.step t = b at hread ⊢
  cases hread with
  | none => rfl
  | some h' => exact h'.finish

end State

/-! ### Texts that are nested too deep -/

/-- How deep the expression for a text is nested, if it is a glob. -/
def nesting? (source : List Char) : Option Nat :=
  (tokens? source).map fun tokens => (expression tokens).depth

/-- Whether a text is nested too deep, if it is a glob. -/
def tooDeep? (source : List Char) : Option Bool :=
  (nesting? source).map fun depth => decide (Regex.maxDepth < depth)

/-- How deep braces are nested in a text, if it is a glob. -/
def braces? (source : List Char) : Option Nat := (tokens? source).map listBraces

theorem tooDeep?_congr {a b : List Char} (h : (tokens? a).map groups = (tokens? b).map groups) :
    tooDeep? a = tooDeep? b := by
  unfold tooDeep? nesting?
  cases ha : tokens? a with
  | none =>
      rw [ha, Option.map_none, eq_comm, Option.map_eq_none_iff] at h
      rw [h]
  | some tokens =>
      rw [ha, Option.map_some, eq_comm, Option.map_eq_some_iff] at h
      obtain ⟨others, hb, hgroups⟩ := h
      rw [hb]
      simp only [Option.map_some, Option.some.injEq, decide_eq_decide]
      exact lt_depth_expression_congr (by decide) hgroups.symm

/-- **A dot and a slash in front of a text** change nothing in whether it is a glob, nor in whether it is
nested too deep. -/
theorem tooDeep?_dotSlash (rest : List Char) : tooDeep? ('.' :: '/' :: rest) = tooDeep? rest := by
  have halike : State.Alike ⟨[], [.literal '/', .literal '.'], some '/', .none⟩ State.initial := by
    refine .outside rfl (State.closedBy_cons rfl _ _) ?_
    intro t ht
    cases ht
  exact tooDeep?_congr (halike.groups_eq rest)

/-- A glob is nested too deep if its braces are as deep as the limit, and not if they are less than a third
as deep. -/
theorem tooDeep?_of_braces? {source : List Char} {n : Nat} (h : braces? source = some n) :
    (3 * n + 5 ≤ Regex.maxDepth → tooDeep? source = some false) ∧
      (Regex.maxDepth ≤ n → tooDeep? source = some true) := by
  obtain ⟨tokens, htokens, rfl⟩ := Option.map_eq_some_iff.mp h
  have hless := listBraces_lt_depth tokens
  have hmore := depth_le_listBraces tokens
  simp only [tooDeep?, nesting?, htokens, Option.map_some, Option.some.injEq, decide_eq_false_iff_not,
    decide_eq_true_eq]
  omega

end TextLimits.Glob
