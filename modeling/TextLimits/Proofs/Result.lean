import Mathlib

/-! # Results that may fail

What is done in steps succeeds if every step does (`bind_eq_ok_iff`, `mapM_eq_ok_iff`), and fails as the first
step does that fails (`mapM_eq_error_iff`).  What every step keeps is kept by all of them together
(`foldlM_keeps`). -/

namespace TextLimits

variable {α β ε : Type}

/-! ### One step after another -/

theorem bind_eq_ok_iff {x : Except ε α} {f : α → Except ε β} {b : β} :
    x >>= f = .ok b ↔ ∃ a, x = .ok a ∧ f a = .ok b := by
  cases x <;> simp [bind, Except.bind]

theorem bind_eq_error_iff {x : Except ε α} {f : α → Except ε β} {e : ε} :
    x >>= f = .error e ↔ x = .error e ∨ ∃ a, x = .ok a ∧ f a = .error e := by
  cases x <;> simp [bind, Except.bind]

theorem map_eq_ok_iff {x : Except ε α} {f : α → β} {b : β} :
    x.map f = .ok b ↔ ∃ a, x = .ok a ∧ f a = b := by
  cases x <;> simp [Except.map]

theorem mapError_eq_ok_iff {δ : Type} {x : Except ε α} {f : ε → δ} {a : α} :
    x.mapError f = .ok a ↔ x = .ok a := by
  cases x <;> simp [Except.mapError]

theorem toOption_eq_some_iff {x : Except ε α} {a : α} : x.toOption = some a ↔ x = .ok a := by
  cases x <;> simp [Except.toOption]

/-- What every step keeps, as long as it succeeds, is kept by all of them. -/
theorem foldlM_keeps {P : β → Prop} {f : β → α → Except ε β} {l : List α} {b c : β}
    (hstep : ∀ a ∈ l, ∀ b c, P b → f b a = .ok c → P c) (hb : P b) (h : l.foldlM f b = .ok c) :
    P c := by
  induction l generalizing b with
  | nil =>
      cases h
      exact hb
  | cons a l ih =>
      rw [List.foldlM_cons, bind_eq_ok_iff] at h
      obtain ⟨d, hd, h⟩ := h
      rw [List.forall_mem_cons] at hstep
      exact ih hstep.2 (hstep.1 b d hb hd) h

/-! ### The elements of a list -/

theorem mapM_eq_ok_iff {f : α → Except ε β} {xs : List α} {ys : List β} :
    xs.mapM f = .ok ys ↔ List.Forall₂ (fun x y => f x = .ok y) xs ys := by
  induction xs generalizing ys with
  | nil =>
      rw [List.mapM_nil, List.forall₂_nil_left_iff]
      constructor
      · intro h
        cases h
        rfl
      · rintro rfl
        rfl
  | cons x xs ih =>
      rw [List.mapM_cons, List.forall₂_cons_left_iff, bind_eq_ok_iff]
      constructor
      · rintro ⟨y, hx, h⟩
        obtain ⟨zs, hxs, h⟩ := bind_eq_ok_iff.mp h
        cases h
        exact ⟨y, zs, hx, ih.mp hxs, rfl⟩
      · rintro ⟨y, zs, hx, hxs, rfl⟩
        exact ⟨y, hx, bind_eq_ok_iff.mpr ⟨zs, ih.mpr hxs, rfl⟩⟩

/-- The first element of a list that something does not hold of. -/
def FirstNot (P : α → Prop) (l : List α) (a : α) : Prop :=
  ∃ before after, l = before ++ a :: after ∧ (∀ b ∈ before, P b) ∧ ¬ P a

theorem firstNot_cons_iff {P : α → Prop} {b : α} {l : List α} {a : α} :
    FirstNot P (b :: l) a ↔ ¬ P b ∧ a = b ∨ P b ∧ FirstNot P l a := by
  constructor
  · rintro ⟨before, after, hsplit, hbefore, ha⟩
    cases before with
    | nil =>
        obtain ⟨rfl, rfl⟩ := List.cons.inj hsplit
        exact .inl ⟨ha, rfl⟩
    | cons first before =>
        obtain ⟨rfl, rfl⟩ := List.cons.inj hsplit
        obtain ⟨hfirst, hbefore⟩ := List.forall_mem_cons.mp hbefore
        exact .inr ⟨hfirst, before, after, rfl, hbefore, ha⟩
  · rintro (⟨hb, rfl⟩ | ⟨hb, before, after, rfl, hbefore, ha⟩)
    · exact ⟨[], l, rfl, by simp, hb⟩
    · exact ⟨b :: before, after, rfl, List.forall_mem_cons.mpr ⟨hb, hbefore⟩, ha⟩

theorem FirstNot.mem {P : α → Prop} {l : List α} {a : α} (h : FirstNot P l a) : a ∈ l ∧ ¬ P a := by
  obtain ⟨before, after, rfl, -, ha⟩ := h
  exact ⟨List.mem_append_right _ List.mem_cons_self, ha⟩

theorem FirstNot.unique {P : α → Prop} {l : List α} {a b : α} (ha : FirstNot P l a)
    (hb : FirstNot P l b) : a = b := by
  induction l with
  | nil => cases ha.mem.1
  | cons c l ih =>
      rw [firstNot_cons_iff] at ha hb
      rcases ha with ⟨hc, rfl⟩ | ⟨hc, ha⟩
      · exact (hb.resolve_right fun h => hc h.1).2.symm
      · exact ih ha (hb.resolve_left fun h => h.1 hc).2

theorem exists_firstNot_iff {P : α → Prop} {l : List α} :
    (∃ a, FirstNot P l a) ↔ ∃ a ∈ l, ¬ P a := by
  constructor
  · rintro ⟨a, h⟩
    exact ⟨a, h.mem⟩
  · induction l with
    | nil => simp
    | cons b l ih =>
        rintro ⟨a, ha, hnot⟩
        by_cases hb : P b
        · have hmem : a ∈ l := (List.mem_cons.mp ha).resolve_left fun heq => hnot (heq ▸ hb)
          obtain ⟨c, hc⟩ := ih ⟨a, hmem, hnot⟩
          exact ⟨c, firstNot_cons_iff.mpr (.inr ⟨hb, hc⟩)⟩
        · exact ⟨b, firstNot_cons_iff.mpr (.inl ⟨hb, rfl⟩)⟩

theorem firstNot_congr {P Q : α → Prop} {l : List α} (h : ∀ b ∈ l, P b ↔ Q b) {a : α} :
    FirstNot P l a ↔ FirstNot Q l a := by
  induction l with
  | nil => simp [FirstNot]
  | cons b l ih =>
      obtain ⟨hb, hl⟩ := List.forall_mem_cons.mp h
      rw [firstNot_cons_iff, firstNot_cons_iff, hb, ih hl]

/-- Reading a list fails as reading its first element does that cannot be read. -/
theorem mapM_eq_error_iff {f : α → Except ε β} {xs : List α} {e : ε} :
    xs.mapM f = .error e ↔ ∃ x, FirstNot (fun x => ∃ y, f x = .ok y) xs x ∧ f x = .error e := by
  induction xs with
  | nil => simp [FirstNot, pure, Except.pure]
  | cons x xs ih =>
      have hrest : ∀ y, (do let ys ← xs.mapM f; pure (y :: ys) : Except ε (List β)) = .error e ↔
          xs.mapM f = .error e := by
        intro y
        rw [bind_eq_error_iff]
        exact or_iff_left nofun
      rw [List.mapM_cons, bind_eq_error_iff]
      simp only [hrest, ih, firstNot_cons_iff]
      cases hx : f x <;> simp [hx]

theorem exists_mem_of_forall₂ {R : α → β → Prop} {xs : List α} {ys : List β}
    (h : List.Forall₂ R xs ys) : ∀ x ∈ xs, ∃ y ∈ ys, R x y := by
  induction h with
  | nil => simp
  | @cons x y xs ys hxy _ ih =>
      rw [List.forall_mem_cons]
      refine ⟨⟨y, List.mem_cons_self, hxy⟩, fun z hz => ?_⟩
      obtain ⟨w, hw, hzw⟩ := ih z hz
      exact ⟨w, List.mem_cons_of_mem _ hw, hzw⟩

theorem exists_mapM_eq_ok {f : α → Except ε β} {xs : List α} (h : ∀ x ∈ xs, ∃ y, f x = .ok y) :
    ∃ ys, xs.mapM f = .ok ys := by
  cases hread : xs.mapM f with
  | ok ys => exact ⟨ys, rfl⟩
  | error e =>
      obtain ⟨x, hfirst, -⟩ := mapM_eq_error_iff.mp hread
      exact absurd (h x hfirst.mem.1) hfirst.mem.2

theorem forall_mem_iff_of_forall₂ {P : β → Prop} {f : α → Except ε β} {xs : List α} {ys : List β}
    (h : List.Forall₂ (fun x y => f x = .ok y) xs ys) :
    (∀ y ∈ ys, P y) ↔ ∀ x ∈ xs, ∀ y, f x = .ok y → P y := by
  induction h with
  | nil => simp
  | cons hxy _ ih =>
      rw [List.forall_mem_cons, List.forall_mem_cons, ih]
      refine and_congr_left fun _ => ?_
      constructor
      · intro hy z hz
        rw [hxy] at hz
        cases hz
        exact hy
      · intro h
        exact h _ hxy

theorem getElem?_eq_some_iff_of_forall₂ {f : α → Except ε β} {xs : List α} {ys : List β}
    (h : List.Forall₂ (fun x y => f x = .ok y) xs ys) {i : Nat}
    {y : β} : ys[i]? = some y ↔ ∃ x, xs[i]? = some x ∧ f x = .ok y := by
  induction h generalizing i with
  | nil => simp
  | cons hxy _ ih =>
      cases i with
      | zero =>
          rw [List.getElem?_cons_zero, List.getElem?_cons_zero]
          constructor
          · rintro ⟨⟩
            exact ⟨_, rfl, hxy⟩
          · rintro ⟨_, ⟨⟩, hy⟩
            rw [hxy] at hy
            cases hy
            rfl
      | succ i =>
          rw [List.getElem?_cons_succ, List.getElem?_cons_succ]
          exact ih

end TextLimits
