import TextLimits.Proofs.Glob.Matching
import TextLimits.Proofs.Result
import TextLimits.Proofs.Scan.Files

/-! # Sources and the list of files

A resolver has one input for each source, in their order (`Resolver.ofSources_eq_ok_iff`).  Lists taken
one after another and freed of repetitions come in the order of the first list that holds an element,
then in the order of that list (`eraseDups_flatMap_pairwise`). -/

namespace TextLimits

/-! ### Lists -/

section lists

variable {α β : Type} [DecidableEq β]

theorem eraseDups_sublist (l : List β) : l.eraseDups.Sublist l := by
  cases l with
  | nil => exact .slnil
  | cons b l =>
      rw [List.eraseDups_cons]
      exact ((eraseDups_sublist _).trans List.filter_sublist).cons_cons b
termination_by l.length
decreasing_by exact Nat.lt_succ_of_le (List.length_filter_le _ _)

theorem nodup_eraseDups (l : List β) : l.eraseDups.Nodup := by
  cases l with
  | nil => exact List.nodup_nil
  | cons b l =>
      rw [List.eraseDups_cons, List.nodup_cons]
      constructor
      · rw [List.mem_eraseDups]
        simp
      · exact nodup_eraseDups _
termination_by l.length
decreasing_by exact Nat.lt_succ_of_le (List.length_filter_le _ _)

theorem eraseDups_of_nodup {l : List β} (h : l.Nodup) : l.eraseDups = l := by
  induction l with
  | nil => rfl
  | cons b l ih =>
      rw [List.nodup_cons] at h
      have hfilter : (l.filter fun c => !c == b) = l := by
        apply List.filter_eq_self.mpr
        intro c hc
        have hne : c ≠ b := fun heq => h.1 (heq ▸ hc)
        simpa using hne
      rw [List.eraseDups_cons, hfilter, ih h.2]

theorem eraseDups_filter (q : β → Bool) (l : List β) :
    (l.filter q).eraseDups = l.eraseDups.filter q := by
  cases l with
  | nil => rfl
  | cons b l =>
      rw [List.eraseDups_cons]
      by_cases hb : q b = true
      · rw [List.filter_cons_of_pos hb, List.filter_cons_of_pos hb, List.eraseDups_cons,
          List.filter_comm, eraseDups_filter q]
      · have hrest : (l.filter fun c => !c == b).filter q = l.filter q := by
          rw [List.filter_filter]
          apply List.filter_congr
          intro c _
          by_cases hc : c = b
          · simp [hc, hb]
          · simp [hc]
        rw [List.filter_cons_of_neg hb, List.filter_cons_of_neg hb, ← eraseDups_filter q, hrest]
termination_by l.length
decreasing_by all_goals exact Nat.lt_succ_of_le (List.length_filter_le _ _)

/-- The list at an index is the first one with an element. -/
def FirstAt (f : α → List β) (l : List α) (i : Nat) (b : β) : Prop :=
  (∃ a, l[i]? = some a ∧ b ∈ f a) ∧ ∀ j < i, ∀ a, l[j]? = some a → b ∉ f a

omit [DecidableEq β] in
theorem FirstAt.append {f : α → List β} {l : List α} {i : Nat} {b : β} (h : FirstAt f l i b)
    (more : List α) : FirstAt f (l ++ more) i b := by
  obtain ⟨⟨a, ha, hb⟩, hbefore⟩ := h
  have hi : i < l.length := (List.getElem?_eq_some_iff.mp ha).1
  refine ⟨⟨a, by rw [List.getElem?_append_left hi, ha], hb⟩, fun j hj a' ha' => ?_⟩
  rw [List.getElem?_append_left (by omega)] at ha'
  exact hbefore j hj a' ha'

theorem exists_firstAt {f : α → List β} {l : List α} {b : β} (h : b ∈ l.flatMap f) :
    ∃ i < l.length, FirstAt f l i b := by
  induction l with
  | nil => cases h
  | cons a l ih =>
      by_cases ha : b ∈ f a
      · exact ⟨0, Nat.zero_lt_succ _, ⟨a, rfl, ha⟩, fun j hj => absurd hj (Nat.not_lt_zero j)⟩
      · rw [List.flatMap_cons, List.mem_append] at h
        obtain ⟨i, hi, ⟨c, hc, hb⟩, hbefore⟩ := ih (h.resolve_left ha)
        refine ⟨i + 1, Nat.succ_lt_succ hi, ⟨c, hc, hb⟩, fun j hj c' hc' => ?_⟩
        cases j with
        | zero =>
            cases hc'
            exact ha
        | succ j => exact hbefore j (Nat.lt_of_succ_lt_succ hj) c' hc'

/-- Of ordered lists, taken one after another and freed of repetitions, the elements come in the
order of the first list with them, and within it in its own order. -/
theorem eraseDups_flatMap_pairwise {R : β → β → Prop} {f : α → List β} {l : List α}
    (h : ∀ a ∈ l, (f a).Pairwise R) :
    (l.flatMap f).eraseDups.Pairwise fun b c =>
      ∃ i j, FirstAt f l i b ∧ FirstAt f l j c ∧ (i < j ∨ i = j ∧ R b c) := by
  induction l using List.reverseRecOn with
  | nil => exact .nil
  | append_singleton l a ih =>
      have hlast : ∀ c ∈ ((f a).removeAll (l.flatMap f)).eraseDups,
          FirstAt f (l ++ [a]) l.length c := by
        intro c hc
        have hmem := List.mem_eraseDups.mp hc
        rw [List.removeAll, List.mem_filter] at hmem
        refine ⟨⟨a, by simp, hmem.1⟩, fun j hj a' ha' hc' => ?_⟩
        rw [List.getElem?_append_left hj] at ha'
        have hflat : c ∈ l.flatMap f :=
          List.mem_flatMap.mpr ⟨a', List.mem_of_getElem? ha', hc'⟩
        simp [hflat] at hmem
      rw [List.flatMap_append, List.flatMap_singleton, List.eraseDups_append, List.pairwise_append]
      refine ⟨?_, ?_, ?_⟩
      · refine (ih fun x hx => h x (List.mem_append_left _ hx)).imp fun {b c} hbc => ?_
        obtain ⟨i, j, hi, hj, hlt⟩ := hbc
        exact ⟨i, j, hi.append [a], hj.append [a], hlt⟩
      · have hsub : ((f a).removeAll (l.flatMap f)).eraseDups.Sublist (f a) :=
          (eraseDups_sublist _).trans List.filter_sublist
        refine ((h a (by simp)).sublist hsub).imp_of_mem fun {b c} hb hc hbc => ?_
        exact ⟨l.length, l.length, hlast b hb, hlast c hc, .inr ⟨rfl, hbc⟩⟩
      · intro b hb c hc
        obtain ⟨i, hi, hfirst⟩ := exists_firstAt (List.mem_eraseDups.mp hb)
        exact ⟨i, l.length, hfirst.append [a], hlast c hc, .inl hi⟩

end lists

/-! ### Sources -/

theorem ExcludeFilter.ofSources_eq_ok_iff {sources : List String} {f : ExcludeFilter} :
    ofSources sources = .ok f ↔
      List.Forall₂ (fun source g => Glob.parse source = .ok g) sources f.globs ∧
        ∀ g ∈ f.globs, g.depth ≤ Regex.maxDepth := by
  have hdepth : ∀ globs : List Glob, ¬ (globs.any fun g => Regex.maxDepth < g.depth) = true ↔
      ∀ g ∈ globs, g.depth ≤ Regex.maxDepth := by
    intro globs
    simp
  unfold ofSources
  rw [← mapM_eq_ok_iff, bind_eq_ok_iff]
  constructor
  · rintro ⟨globs, hglobs, h⟩
    split_ifs at h with hany
    cases h
    exact ⟨hglobs, (hdepth globs).mp hany⟩
  · rintro ⟨hglobs, hall⟩
    exact ⟨f.globs, hglobs, if_neg ((hdepth f.globs).mpr hall)⟩

namespace Resolver

theorem ofSources_eq_ok_iff {root : String} {inputs excludes : List String} {r : Resolver} :
    ofSources root inputs excludes = .ok r ↔
      r.root = root ∧ ExcludeFilter.ofSources excludes = .ok r.filter ∧
        List.Forall₂ (fun source p => InputPattern.parse source = .ok p) inputs r.inputs := by
  unfold ofSources
  simp only [← mapM_eq_ok_iff, bind_eq_ok_iff]
  constructor
  · rintro ⟨filter, hfilter, patterns, hinputs, h⟩
    cases h
    exact ⟨rfl, hfilter, hinputs⟩
  · rintro ⟨rfl, hfilter, hinputs⟩
    exact ⟨r.filter, hfilter, r.inputs, hinputs, rfl⟩

variable {top : Tree} {r : Resolver}

theorem mem_resolve {path : Path} : path ∈ r.resolve top ↔ ∃ p ∈ r.inputs, path ∈ r.filesOf top p := by
  rw [resolve, List.mem_eraseDups, List.mem_flatMap]

theorem exists_source_of_mem {root : String} {inputs excludes : List String}
    (hr : ofSources root inputs excludes = .ok r) {p : InputPattern} (hp : p ∈ r.inputs) :
    ∃ source ∈ inputs, InputPattern.parse source = .ok p := by
  obtain ⟨i, hi⟩ := List.mem_iff_getElem?.mp hp
  obtain ⟨source, hsource, hparse⟩ :=
    (getElem?_eq_some_iff_of_forall₂ (ofSources_eq_ok_iff.mp hr).2.2).mp hi
  exact ⟨source, List.mem_of_getElem? hsource, hparse⟩

theorem exists_file_of_mem_resolve {root : String} {inputs excludes : List String}
    (hr : ofSources root inputs excludes = .ok r) {path : Path} (h : path ∈ r.resolve top) :
    ∃ f, top.find? (Path.stepsFrom root path) = some (.file f) := by
  obtain ⟨p, hp, hmem⟩ := mem_resolve.mp h
  obtain ⟨source, -, hparse⟩ := exists_source_of_mem hr hp
  rw [← (ofSources_eq_ok_iff.mp hr).1]
  exact InputPattern.exists_file_of_mem_files hparse (List.mem_filter.mp hmem).1

/-- Resolved paths come in the order of the first input that yields them, and below it in the order
of their bytes. -/
theorem resolve_pairwise (hw : top.WellFormed) :
    (r.resolve top).Pairwise fun a b => ∃ i j, FirstAt (r.filesOf top) r.inputs i a ∧
      FirstAt (r.filesOf top) r.inputs j b ∧ (i < j ∨ i = j ∧ a.byteKey < b.byteKey) :=
  eraseDups_flatMap_pairwise fun _ _ => (InputPattern.files_pairwise hw).filter _

/-! ### A sample -/

/-- Two inputs, the second one below a link, and an exclusion for the sample tree. -/
def sample : Resolver where
  root := "/"
  inputs := [⟨⟨"src/*.rs", "src/".toList.map .literal ++ .star :: ".rs".toList.map .literal⟩,
      ⟨false, [.name "src"]⟩⟩,
    ⟨⟨"alias/*", "alias/".toList.map .literal ++ [.star]⟩, ⟨false, [.name "alias"]⟩⟩]
  filter := ⟨[⟨"**/b.txt", .treePrefix :: "b.txt".toList.map .literal⟩]⟩

theorem parse_sample : InputPattern.parse "src/*.rs" = .ok sample.inputs[0] :=
  InputPattern.parse_eq_ok_iff.mpr
    ⟨Glob.parse_eq_ok_iff.mpr ⟨by decide, by rfl⟩, by decide, by decide⟩

theorem ofSources_sample :
    ofSources "/" ["src/*.rs", "alias/*"] ["**/b.txt"] = .ok sample := by
  have halias : InputPattern.parse "alias/*" = .ok sample.inputs[1] :=
    InputPattern.parse_eq_ok_iff.mpr
      ⟨Glob.parse_eq_ok_iff.mpr ⟨by decide, by rfl⟩, by decide, by decide⟩
  have hexclude : Glob.parse "**/b.txt" = .ok sample.filter.globs[0] :=
    Glob.parse_eq_ok_iff.mpr ⟨by decide, by rfl⟩
  refine ofSources_eq_ok_iff.mpr ⟨rfl, ?_, .cons parse_sample (.cons halias .nil)⟩
  exact ExcludeFilter.ofSources_eq_ok_iff.mpr ⟨.cons hexclude .nil, by decide⟩

theorem resolve_sample : sample.resolve Tree.sample =
    [⟨false, [.name "src", .name "a.rs"]⟩, ⟨false, [.name "alias", .name "a.rs"]⟩] := by cbv

end Resolver

end TextLimits
