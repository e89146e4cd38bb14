import Mathlib.Tactic.SplitIfs
import TextLimits.Glob

/-! # How deep the expression for a glob is nested

Only alternatives hold other tokens, so only they make the expression for a glob deep.  Without them it has
at most five levels (`Glob.depth_expression_le`), and whether it has more than some greater number of them
depends on the alternatives alone (`Glob.lt_depth_expression_congr`).  A pair of braces makes at least one
level, and at most three: a group, an alternation in it, and a sequence as a branch of that
(`Glob.listBraces_lt_depth`, `Glob.depth_le_listBraces`). -/

namespace TextLimits

namespace Regex

/-! ### Lists of expressions -/

theorem Ast.listDepth_le_iff {parts : List Ast} {n : Nat} :
    listDepth parts ≤ n ↔ ∀ a ∈ parts, a.depth ≤ n := by
  induction parts with
  | nil => simp [listDepth]
  | cons a parts ih => rw [listDepth, Nat.max_le, ih, List.forall_mem_cons]

theorem Ast.lt_listDepth_iff {parts : List Ast} {n : Nat} :
    n < listDepth parts ↔ ∃ a ∈ parts, n < a.depth := by
  rw [← Nat.not_le, listDepth_le_iff]
  simp only [Classical.not_forall, Nat.not_le, exists_prop]

theorem Ast.listDepth_append (a b : List Ast) :
    listDepth (a ++ b) = max (listDepth a) (listDepth b) := by
  induction a with
  | nil => simp [listDepth]
  | cons c a ih => rw [List.cons_append, listDepth, listDepth, ih, Nat.max_assoc]

theorem Ast.depth_ofParts (parts : List Ast) :
    listDepth parts ≤ (ofParts parts).depth ∧ (ofParts parts).depth ≤ 1 + listDepth parts := by
  rcases parts with _ | ⟨a, _ | ⟨b, rest⟩⟩ <;> simp [ofParts, depth, listDepth]

theorem Ast.depth_ofBranches (branches : List Ast) :
    listDepth branches ≤ (ofBranches branches).depth ∧
      (ofBranches branches).depth ≤ 1 + listDepth branches := by
  rcases branches with _ | ⟨a, _ | ⟨b, rest⟩⟩ <;> simp [ofBranches, depth, listDepth]

theorem ClassExpr.depth_ofItems_le {items : List ClassExpr}
    (h : ∀ i ∈ items, i.depth = 0 ∧ i.memberDepth = 0) :
    (ofItems items).depth ≤ 1 ∧ (ofItems items).memberDepth = 0 := by
  induction items with
  | nil => exact ⟨Nat.zero_le _, rfl⟩
  | cons i items ih =>
      obtain ⟨hi, hmember⟩ := h i List.mem_cons_self
      cases items with
      | nil => exact ⟨Nat.le_trans (Nat.le_of_eq hi) (Nat.zero_le 1), hmember⟩
      | cons j items =>
          have hrest := (ih fun k hk => h k (List.mem_cons_of_mem _ hk)).2
          simp [ofItems, depth, memberDepth, hi, hrest]

end Regex

namespace Glob

open Regex (Ast ClassExpr)

/-! ### Tokens without and with alternatives -/

/-- Whether a token is a list of alternatives. -/
def Token.isGroup : Token → Bool
  | .alternates _ => true
  | _ => false

/-- The alternatives among some tokens. -/
def groups (tokens : List Token) : List Token := tokens.filter Token.isGroup

theorem groups_cons {t : Token} (h : t.isGroup = false) (tokens : List Token) :
    groups (t :: tokens) = groups tokens :=
  List.filter_cons_of_neg (by simp [h])

theorem groups_append (a b : List Token) : groups (a ++ b) = groups a ++ groups b := List.filter_append ..

theorem depth_of_mem_rangeItems {r : Char × Char} {i : ClassExpr} (h : i ∈ rangeItems r) :
    i.depth = 0 ∧ i.memberDepth = 0 := by
  have hflat : (∃ l, i = .literal l) ∨ ∃ lo hi, i = .range lo hi := by
    unfold rangeItems at h
    split_ifs at h
    · obtain ⟨l, -, rfl⟩ := List.mem_map.mp h
      exact .inl ⟨l, rfl⟩
    · rcases List.mem_append.mp h with h | h
      · rcases List.mem_append.mp h with h | h
        · obtain ⟨l, -, rfl⟩ := List.mem_map.mp h
          exact .inl ⟨l, rfl⟩
        · rw [← List.map_uncurry_zip_eq_zipWith] at h
          obtain ⟨⟨lo, hi⟩, -, rfl⟩ := List.mem_map.mp h
          exact .inr ⟨lo, hi, rfl⟩
      · obtain ⟨l, -, rfl⟩ := List.mem_map.mp h
        exact .inl ⟨l, rfl⟩
  rcases hflat with ⟨l, rfl⟩ | ⟨lo, hi, rfl⟩
  · exact ⟨rfl, rfl⟩
  · exact ⟨rfl, rfl⟩

theorem listDepth_parts_le {t : Token} (h : t.isGroup = false) : Ast.listDepth t.parts ≤ 4 := by
  cases t with
  | literal c =>
      refine Ast.listDepth_le_iff.mpr fun a ha => ?_
      obtain ⟨l, -, rfl⟩ := List.mem_map.mp ha
      exact Nat.zero_le 4
  | cls negated ranges =>
      have hflat : ∀ i ∈ ranges.flatMap rangeItems, i.depth = 0 ∧ i.memberDepth = 0 := by
        intro i hi
        obtain ⟨r, -, hr⟩ := List.mem_flatMap.mp hi
        exact depth_of_mem_rangeItems hr
      have hitems := (ClassExpr.depth_ofItems_le hflat).1
      simp only [Token.parts, Ast.listDepth, Ast.depth]
      omega
  | alternates branches => cases h
  | _ => decide

theorem listParts_eq_flatMap (tokens : List Token) : listParts tokens = tokens.flatMap Token.parts := by
  induction tokens with
  | nil => rfl
  | cons t tokens ih => rw [listParts, ih, List.flatMap_cons]

theorem lt_listDepth_listParts_iff {tokens : List Token} {n : Nat} :
    n < Ast.listDepth (listParts tokens) ↔ ∃ t ∈ tokens, n < Ast.listDepth t.parts := by
  simp only [listParts_eq_flatMap, Ast.lt_listDepth_iff, List.mem_flatMap]
  constructor
  · rintro ⟨a, ⟨t, ht, ha⟩, hn⟩
    exact ⟨t, ht, a, ha, hn⟩
  · rintro ⟨t, ht, a, ha, hn⟩
    exact ⟨a, ⟨t, ht, ha⟩, hn⟩

/-! ### The whole expression -/

theorem depth_expression {tokens : List Token} (h : tokens ≠ [.treePrefix]) :
    (expression tokens).depth = 1 + Ast.listDepth (listParts tokens) := by
  unfold expression
  split
  · exact absurd rfl h
  · simp [Ast.depth, Ast.listDepth, Ast.listDepth_append]

/-- Beyond five levels, only alternatives make an expression deep. -/
theorem lt_depth_expression_iff {tokens : List Token} {n : Nat} (hn : 5 ≤ n) :
    n < (expression tokens).depth ↔ ∃ t ∈ groups tokens, n ≤ Ast.listDepth t.parts := by
  by_cases htree : tokens = [.treePrefix]
  · subst htree
    have hdepth : (expression [.treePrefix]).depth = 2 := by decide
    rw [hdepth]
    refine iff_of_false (by omega) ?_
    rintro ⟨t, ht, -⟩
    cases ht
  obtain ⟨m, rfl⟩ := Nat.exists_eq_add_of_le' (show 1 ≤ n by omega)
  rw [depth_expression htree, Nat.add_comm, Nat.add_lt_add_iff_left, lt_listDepth_listParts_iff]
  refine exists_congr fun t => ?_
  rw [groups, List.mem_filter, and_assoc]
  refine and_congr_right fun _ => ?_
  cases hgroup : t.isGroup with
  | true => simp only [true_and, Nat.add_comm 1, Nat.succ_le_iff]
  | false =>
      have hflat := listDepth_parts_le hgroup
      simp only [Bool.false_eq_true, false_and, iff_false]
      omega

/-- **Without alternatives, an expression has at most five levels.** -/
theorem depth_expression_le {tokens : List Token} (h : groups tokens = []) :
    (expression tokens).depth ≤ 5 := by
  refine Nat.not_lt.mp fun hlt => ?_
  obtain ⟨t, ht, -⟩ := (lt_depth_expression_iff (Nat.le_refl 5)).mp hlt
  rw [h] at ht
  cases ht

/-- **Beyond five levels, the depth of an expression depends on the alternatives alone.** -/
theorem lt_depth_expression_congr {a b : List Token} {n : Nat} (hn : 5 ≤ n) (h : groups a = groups b) :
    n < (expression a).depth ↔ n < (expression b).depth := by
  rw [lt_depth_expression_iff hn, lt_depth_expression_iff hn, h]

theorem depth_le_maxDepth {g : Glob} (h : groups g.tokens = []) : g.depth ≤ Regex.maxDepth :=
  Nat.le_trans (depth_expression_le h) (by decide)

/-! ### Pairs of braces -/

mutual

/-- How deep braces are nested in a token; blank ones do not count. -/
def Token.braces : Token → Nat
  | .alternates branches => if allBlank branches then 0 else branchesBraces branches + 1
  | _ => 0

/-- The greatest nesting of braces in a list of tokens. -/
def listBraces : List Token → Nat
  | [] => 0
  | t :: rest => max t.braces (listBraces rest)

/-- The greatest nesting of braces in a list of branches. -/
def branchesBraces : List (List Token) → Nat
  | [] => 0
  | b :: rest => max (listBraces b) (branchesBraces rest)

end

mutual

theorem Token.braces_of_isBlank : (t : Token) → t.isBlank = true → t.braces = 0
  | .alternates branches, h => by
      rw [Token.isBlank] at h
      rw [Token.braces, if_pos h]
  | .literal _, _ | .any, _ | .star, _ | .treePrefix, _ | .treeSuffix, _ | .treeMiddle, _
  | .cls _ _, _ => rfl

theorem listBraces_of_isBlankList : (tokens : List Token) → isBlankList tokens = true →
    listBraces tokens = 0
  | [], _ => rfl
  | t :: rest, h => by
      rw [isBlankList, Bool.and_eq_true] at h
      rw [listBraces, t.braces_of_isBlank h.1, listBraces_of_isBlankList rest h.2, Nat.max_self]

end

mutual

/-- The parts that a token becomes are nested as deep as its braces, and at most three times as deep. -/
theorem Token.braces_le : (t : Token) →
    t.braces ≤ Ast.listDepth t.parts ∧ Ast.listDepth t.parts ≤ 3 * t.braces + 4
  | .alternates branches => by
      unfold Token.braces Token.parts
      split_ifs with hblank
      · simp [Ast.listDepth]
      · obtain ⟨hlow, hhigh⟩ := branchesBraces_le branches
        obtain ⟨hless, hmore⟩ := Ast.depth_ofBranches (branchParts branches)
        simp only [Ast.listDepth, choice, Ast.depth]
        omega
  | .literal c => ⟨Nat.zero_le _, listDepth_parts_le rfl⟩
  | .any | .star | .treePrefix | .treeSuffix | .treeMiddle =>
      ⟨Nat.zero_le _, listDepth_parts_le rfl⟩
  | .cls _ _ => ⟨Nat.zero_le _, listDepth_parts_le rfl⟩

theorem listBraces_le : (tokens : List Token) →
    listBraces tokens ≤ Ast.listDepth (listParts tokens) ∧
      Ast.listDepth (listParts tokens) ≤ 3 * listBraces tokens + 4
  | [] => by simp [listBraces, listParts, Ast.listDepth]
  | t :: rest => by
      have ht := t.braces_le
      have hrest := listBraces_le rest
      rw [listBraces, listParts, Ast.listDepth_append]
      omega

theorem branchesBraces_le : (branches : List (List Token)) →
    branchesBraces branches ≤ Ast.listDepth (branchParts branches) ∧
      Ast.listDepth (branchParts branches) ≤ 3 * branchesBraces branches + 5
  | [] => by simp [branchesBraces, branchParts, Ast.listDepth]
  | b :: rest => by
      have hrest := branchesBraces_le rest
      unfold branchesBraces branchParts
      split_ifs with hblank
      · rw [listBraces_of_isBlankList b hblank]
        omega
      · have hb := listBraces_le b
        have hparts := Ast.depth_ofParts (listParts b)
        rw [Ast.listDepth]
        omega

end

theorem listBraces_lt_depth (tokens : List Token) : listBraces tokens < (expression tokens).depth := by
  by_cases htree : tokens = [.treePrefix]
  · subst htree
    decide
  · rw [depth_expression htree]
    have h := (listBraces_le tokens).1
    omega

/-- A pair of braces makes the expression at most three levels deeper. -/
theorem depth_le_listBraces (tokens : List Token) :
    (expression tokens).depth ≤ 3 * listBraces tokens + 5 := by
  by_cases htree : tokens = [.treePrefix]
  · subst htree
    decide
  · rw [depth_expression htree]
    have h := (listBraces_le tokens).2
    omega

end Glob

end TextLimits
