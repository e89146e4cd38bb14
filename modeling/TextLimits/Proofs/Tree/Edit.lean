import TextLimits.Proofs.Path
import TextLimits.Proofs.Tree.Way
import TextLimits.Tree.Edit

/-! # Changes keep a tree well formed

Putting a well-formed tree at the end of a way, or taking away what is there, leaves a well-formed
tree (`WellFormed.place`, `WellFormed.remove`).  So whatever is put together from the empty tree, entry
by entry, is a tree that a file system can hold (`foldl_place_wellFormed`). -/

namespace TextLimits.Tree

variable {top t : Tree} {names : List String} {way : List Segment}

/-! ### Entries and subtrees -/

theorem empty_wellFormed : empty.WellFormed :=
  .dir List.nodup_nil (fun _ h => by cases h) (fun _ h => by cases h)

section entries

variable {entries : List (String × Tree)} {listed : Bool}

theorem WellFormed.filter (h : (Tree.dir entries listed).WellFormed) (keep : String × Tree → Bool) :
    (Tree.dir (entries.filter keep) listed).WellFormed := by
  cases h with
  | dir unique names below =>
      exact .dir (unique.sublist (List.filter_sublist.map _))
        (fun e he => names e (List.mem_filter.mp he).1) fun e he => below e (List.mem_filter.mp he).1

theorem WellFormed.concat {name : String} {u : Tree} (h : (Tree.dir entries listed).WellFormed)
    (hnew : ∀ e ∈ entries, e.1 ≠ name) (hname : IsEntryName name) (hu : u.WellFormed) :
    (Tree.dir (entries ++ [(name, u)]) listed).WellFormed := by
  cases h with
  | dir unique names below =>
      refine .dir ?_ ?_ ?_
      · rw [List.map_append, List.nodup_append]
        refine ⟨unique, List.nodup_cons.mpr ⟨List.not_mem_nil, List.nodup_nil⟩, ?_⟩
        intro a ha b hb
        obtain ⟨e, he, rfl⟩ := List.mem_map.mp ha
        cases List.mem_singleton.mp hb
        exact hnew e he
      · intro e he
        rcases List.mem_append.mp he with he | he
        · exact names e he
        · cases List.mem_singleton.mp he
          exact hname
      · intro e he
        rcases List.mem_append.mp he with he | he
        · exact below e he
        · cases List.mem_singleton.mp he
          exact hu

theorem WellFormed.alter {name : String} {new : Option Tree} (h : (Tree.dir entries listed).WellFormed)
    (hname : IsEntryName name) (hnew : ∀ u ∈ new, u.WellFormed) :
    (Tree.dir (Tree.alter name new entries) listed).WellFormed := by
  have hothers := h.filter fun e => e.1 ≠ name
  cases new with
  | none => exact hothers
  | some u =>
      refine hothers.concat (fun e he => ?_) hname (hnew u rfl)
      exact of_decide_eq_true (List.mem_filter.mp he).2

end entries

theorem WellFormed.set {new : Option Tree} (ht : t.WellFormed) (hnames : ∀ n ∈ names, IsEntryName n)
    (hnew : ∀ u ∈ new, u.WellFormed) : (Tree.set new names t).WellFormed := by
  fun_induction Tree.set new names t with
  | case1 t =>
      cases new with
      | none => exact ht
      | some u => exact hnew u rfl
  | case2 name entries listed => exact ht.alter (hnames name List.mem_cons_self) hnew
  | case3 name rest entries listed hrest sub hsub ih =>
      have hbelow : sub.WellFormed := by
        cases ht with
        | dir _ _ below => exact below _ (mem_of_lookup_eq_some hsub)
      refine ht.alter (hnames name List.mem_cons_self) fun u hu => ?_
      cases hu
      exact ih hbelow fun n hn => hnames n (List.mem_cons_of_mem _ hn)
  | case4 name rest entries listed hrest hnone hsome ih =>
      refine ht.alter (hnames name List.mem_cons_self) fun u hu => ?_
      cases hu
      exact ih empty_wellFormed fun n hn => hnames n (List.mem_cons_of_mem _ hn)
  | case5 => exact ht
  | case6 => exact ht

/-! ### Ways -/

theorem isEntryName_of_mem_concat {place : List String} {name : String}
    (hplace : ∀ n ∈ place, IsEntryName n) (hname : IsEntryName name) :
    ∀ n ∈ place ++ [name], IsEntryName n := by
  intro n hn
  rcases List.mem_append.mp hn with hn | hn
  · exact hplace n hn
  · cases List.mem_singleton.mp hn
    exact hname

/-- The directories of a way are made one below the other, and where it ends is a place of names that
entries can have. -/
theorem WellFormed.makeDirs {done : List Segment} {result : Tree} {place : List String}
    (hw : top.WellFormed) (hproper : ∀ s ∈ way, s.IsProper)
    (h : Tree.makeDirs top done way = some (result, place)) :
    result.WellFormed ∧ ∀ n ∈ place, IsEntryName n := by
  induction way generalizing top done with
  | nil =>
      obtain ⟨_, hplace, heq⟩ := Option.map_eq_some_iff.mp h
      cases heq
      exact ⟨hw, hw.of_follow hplace⟩
  | cons step rest ih =>
      have hrest : ∀ s ∈ rest, s.IsProper := fun s hs => hproper s (List.mem_cons_of_mem _ hs)
      unfold Tree.makeDirs at h
      dsimp only at h
      split at h
      · exact ih hw hrest h
      · next name _ =>
        obtain ⟨above, habove, h⟩ := Option.bind_eq_some_iff.mp h
        have hname : IsEntryName name := hproper _ List.mem_cons_self
        have hnames := isEntryName_of_mem_concat (hw.of_follow habove) hname
        refine ih (hw.set hnames fun u hu => ?_) hrest h
        cases hu
        exact empty_wellFormed
      · cases h

theorem WellFormed.writePlace (hw : top.WellFormed) {place : List String} {name : String}
    (hplace : ∀ n ∈ place, IsEntryName n) (hname : IsEntryName name) (links : Nat) :
    ∀ n ∈ Tree.writePlace top links place name, IsEntryName n := by
  induction links generalizing place name with
  | zero => exact isEntryName_of_mem_concat hplace hname
  | succ links ih =>
      unfold Tree.writePlace
      split
      · next target _ =>
        dsimp only
        split
        · next ended last hended hlast =>
          obtain ⟨k, -, hleads⟩ := followAtMost_eq_some_iff.mp hended
          have hstart : ∀ n ∈ linkStart place target, IsEntryName n := by
            unfold linkStart
            split_ifs
            · simp
            · exact hplace
          refine ih (hw.of_leads hstart hleads) ?_
          exact Path.isProper_of_mem_steps (List.mem_of_getLast? hlast)
        · exact isEntryName_of_mem_concat hplace hname
      · exact isEntryName_of_mem_concat hplace hname

/-! ### Edits -/

/-- **What is put into a well-formed tree leaves it well formed.** -/
theorem WellFormed.place (hw : top.WellFormed) (hproper : ∀ s ∈ way, s.IsProper)
    (ht : t.WellFormed) : (top.place way t).WellFormed := by
  have hput : ∀ {result : Tree} {names : List String}, result.WellFormed →
      (∀ n ∈ names, IsEntryName n) → (Tree.set (some t) names result).WellFormed :=
    fun hresult hnames => hresult.set hnames fun u hu => by cases hu; exact ht
  unfold Tree.place
  split
  · next name hlast =>
    have hname : IsEntryName name := hproper _ (List.mem_of_getLast? hlast)
    have habove : ∀ s ∈ way.dropLast, s.IsProper := fun s hs =>
      hproper s ((List.dropLast_sublist _).mem hs)
    split
    · exact hw
    · next made place hmade =>
      obtain ⟨hresult, hplace⟩ := hw.makeDirs habove hmade
      have hhere := isEntryName_of_mem_concat hplace hname
      split
      · exact hput hresult (hresult.writePlace hplace hname maxLinks)
      · split
        · exact hresult
        · exact hput hresult hhere
      · exact hput hresult hhere
  · cases hmade : Tree.makeDirs top [] way with
    | none => exact hw
    | some made => exact (hw.makeDirs hproper hmade).1

/-- **What is left of a well-formed tree is well formed.** -/
theorem WellFormed.remove (hw : top.WellFormed) (hproper : ∀ s ∈ way, s.IsProper) :
    (top.remove way).WellFormed := by
  unfold Tree.remove
  split
  · next name hlast =>
    split
    · next place hplace =>
      have hname : IsEntryName name := hproper _ (List.mem_of_getLast? hlast)
      refine hw.set (isEntryName_of_mem_concat (hw.of_follow hplace) hname) fun u hu => ?_
      cases hu
    · exact hw
  · exact hw

/-- Putting one well-formed tree after the other into a well-formed one, each at the end of the way
that a text describes, leaves it well formed. -/
theorem foldl_place_wellFormed (hw : top.WellFormed) (entries : List (String × Tree))
    (h : ∀ e ∈ entries, e.2.WellFormed) :
    (entries.foldl (fun top e => top.place (Path.steps e.1) e.2) top).WellFormed := by
  induction entries generalizing top with
  | nil => exact hw
  | cons e entries ih =>
      have hproper : ∀ s ∈ Path.steps e.1, s.IsProper := fun s hs => Path.isProper_of_mem_steps hs
      refine ih (hw.place hproper (h e List.mem_cons_self)) fun e he => ?_
      exact h e (List.mem_cons_of_mem _ he)

end TextLimits.Tree
