import TextLimits.Proofs.Scan.Resolve

/-! # What resolution finds

Resolving gives every path that some input yields (`Resolver.Yields`), once, in the order of the first
input that yields it and then byte by byte from the left (`Resolver.resolve_exact`).  An exclusion that
only asks for a name rejects no path that ends in two dots, but such a path is no file
(`endsInDots_eq_false`), so this exception is never met. -/

namespace TextLimits

/-! ### Exclusion -/

theorem ExcludeFilter.includes_iff_not_rejected {sources : List String} {f : ExcludeFilter}
    {path : String} (hf : ofSources sources = .ok f) :
    f.includes path = true ↔
      ∀ s ∈ sources, ∀ g, Glob.parse s = .ok g → rejectedBy path g = false := by
  unfold includes
  rw [Bool.not_eq_true', List.any_eq_false]
  simp only [Bool.not_eq_true]
  exact forall_mem_iff_of_forall₂ (ofSources_eq_ok_iff.mp hf).1

theorem ExcludeFilter.includes_iff {f : ExcludeFilter} {path : String}
    (hdots : endsInDots path = false) :
    f.includes path = true ↔ ∀ g ∈ f.globs, g.isMatch path = false := by
  unfold includes
  rw [Bool.not_eq_true', List.any_eq_false]
  refine forall₂_congr fun g _ => ?_
  unfold rejectedBy
  rw [hdots]
  simp

/-- What an exclusion rejects does not depend on the other ones, and not on their order or number. -/
theorem ExcludeFilter.includes_iff_sources {sources : List String} {f : ExcludeFilter} {path : String}
    (hf : ofSources sources = .ok f) (hdots : endsInDots path = false) :
    f.includes path = true ↔ ∀ s ∈ sources, ∀ g, Glob.parse s = .ok g → g.isMatch path = false := by
  rw [includes_iff hdots]
  exact forall_mem_iff_of_forall₂ (ofSources_eq_ok_iff.mp hf).1

namespace InputPattern

variable {top : Tree} {root source : String} {p : InputPattern} {names : List String}

theorem candidate_isProper (hp : parse source = .ok p) (hnames : ∀ n ∈ names, IsEntryName n) :
    ∀ s ∈ (p.candidate names).segments, s.IsProper := by
  intro s hs
  rcases List.mem_append.mp hs with hs | hs
  · exact Path.isProper_of_mem_ofText (mem_base hp (List.mem_filter.mp hs).1)
  · obtain ⟨n, hn, rfl⟩ := List.mem_map.mp hs
    exact hnames n hn

theorem endsInDots_of_mem_files (hw : top.WellFormed) (hp : parse source = .ok p) {path : Path}
    (h : path ∈ p.files top root) : ExcludeFilter.endsInDots path.text = false := by
  obtain ⟨f, hf⟩ := exists_file_of_mem_files hp h
  obtain ⟨t, names, u, hstart, hdown, -, -, rfl⟩ := (mem_files_iff hw).mp h
  have hnames := (Tree.WellFormed.of_descends hdown (hw.of_find? hstart)).2
  exact endsInDots_eq_false (candidate_isProper hp hnames) hf

end InputPattern

namespace Resolver

variable {top : Tree} {root : String} {inputs excludes : List String} {r : Resolver}

theorem isProper_of_mem_resolve (hw : top.WellFormed) (hr : ofSources root inputs excludes = .ok r)
    {path : Path} (h : path ∈ r.resolve top) : ∀ s ∈ path.segments, s.IsProper := by
  obtain ⟨p, hp, hmem⟩ := mem_resolve.mp h
  obtain ⟨source, -, hparse⟩ := exists_source_of_mem hr hp
  obtain ⟨t, names, u, hstart, hdown, -, -, rfl⟩ :=
    (InputPattern.mem_files_iff hw).mp (List.mem_filter.mp hmem).1
  exact InputPattern.candidate_isProper hparse
    (Tree.WellFormed.of_descends hdown (hw.of_find? hstart)).2

/-! ### What an input yields -/

/-- What an input yields: below real directories from the start of its walk, the candidate of a file
or of a link that ends at one, as far as the glob matches it and no exclusion does. -/
def Yields (top : Tree) (root : String) (excludes : List String) (p : InputPattern) (path : Path) :
    Prop :=
  (∃ t names u, top.find? (p.start root) = some t ∧ t.Descends names u ∧
    ((∃ f, u = .file f) ∨ (∃ target, u = .link target) ∧
      ∃ f, top.find? (p.start root ++ names.map .name) = some (.file f)) ∧
    path = p.candidate names) ∧
  p.glob.isMatch path.text = true ∧
  ∀ source ∈ excludes, ∀ g, Glob.parse source = .ok g → g.isMatch path.text = false

/-- The input at an index yields a path. -/
def YieldsAt (top : Tree) (root : String) (inputs excludes : List String) (i : Nat) (path : Path) :
    Prop :=
  ∃ source p, inputs[i]? = some source ∧ InputPattern.parse source = .ok p ∧
    Yields top root excludes p path

/-- The input at an index is the first one that yields a path. -/
def FirstYieldsAt (top : Tree) (root : String) (inputs excludes : List String) (i : Nat)
    (path : Path) : Prop :=
  YieldsAt top root inputs excludes i path ∧ ∀ j < i, ¬ YieldsAt top root inputs excludes j path

theorem mem_filesOf_iff (hw : top.WellFormed) (hr : ofSources root inputs excludes = .ok r)
    {source : String} {p : InputPattern} (hp : InputPattern.parse source = .ok p) {path : Path} :
    path ∈ r.filesOf top p ↔ Yields top root excludes p path := by
  obtain ⟨hroot, hfilter, -⟩ := ofSources_eq_ok_iff.mp hr
  unfold filesOf Yields
  rw [List.mem_filter, hroot]
  constructor
  · rintro ⟨hmem, hincludes⟩
    have hdots := InputPattern.endsInDots_of_mem_files hw hp hmem
    obtain ⟨t, names, u, hstart, hdown, hfile, hmatch, hpath⟩ :=
      (InputPattern.mem_files_iff hw).mp hmem
    have hu := (InputPattern.isSome_file?_below_iff hstart hw hdown).mp hfile
    exact ⟨⟨t, names, u, hstart, hdown, hu, hpath⟩, hmatch,
      (ExcludeFilter.includes_iff_sources hfilter hdots).mp hincludes⟩
  · rintro ⟨⟨t, names, u, hstart, hdown, hu, hpath⟩, hmatch, hnone⟩
    have hfile := (InputPattern.isSome_file?_below_iff hstart hw hdown).mpr hu
    have hmem : path ∈ p.files top root :=
      (InputPattern.mem_files_iff hw).mpr ⟨t, names, u, hstart, hdown, hfile, hmatch, hpath⟩
    have hdots := InputPattern.endsInDots_of_mem_files hw hp hmem
    exact ⟨hmem, (ExcludeFilter.includes_iff_sources hfilter hdots).mpr hnone⟩

theorem yieldsAt_iff (hw : top.WellFormed) (hr : ofSources root inputs excludes = .ok r) {i : Nat}
    {path : Path} :
    YieldsAt top root inputs excludes i path ↔
      ∃ p, r.inputs[i]? = some p ∧ path ∈ r.filesOf top p := by
  have hinputs := (ofSources_eq_ok_iff.mp hr).2.2
  constructor
  · rintro ⟨source, p, hsource, hp, hyields⟩
    exact ⟨p, (getElem?_eq_some_iff_of_forall₂ hinputs).mpr ⟨source, hsource, hp⟩,
      (mem_filesOf_iff hw hr hp).mpr hyields⟩
  · rintro ⟨p, hget, hmem⟩
    obtain ⟨source, hsource, hp⟩ := (getElem?_eq_some_iff_of_forall₂ hinputs).mp hget
    exact ⟨source, p, hsource, hp, (mem_filesOf_iff hw hr hp).mp hmem⟩

theorem firstYieldsAt_iff (hw : top.WellFormed) (hr : ofSources root inputs excludes = .ok r)
    {i : Nat} {path : Path} :
    FirstYieldsAt top root inputs excludes i path ↔
      FirstAt (r.filesOf top) r.inputs i path := by
  unfold FirstYieldsAt FirstAt
  simp only [yieldsAt_iff hw hr, not_exists, not_and]

/-! ### Resolution -/

/-- **Resolution is exact, ordered and free of repetitions.**  The list of files holds a path if some
input yields it, holds none twice, and is sorted by the first input that yields a path and then by
its segments, compared byte by byte from the left. -/
theorem resolve_exact (hw : top.WellFormed) (hr : ofSources root inputs excludes = .ok r) :
    (r.resolve top).Nodup ∧
      (∀ path, path ∈ r.resolve top ↔ ∃ i, YieldsAt top root inputs excludes i path) ∧
      (r.resolve top).Pairwise fun a b => ∃ i j,
        FirstYieldsAt top root inputs excludes i a ∧ FirstYieldsAt top root inputs excludes j b ∧
          (i < j ∨ i = j ∧ a.byteKey < b.byteKey) := by
  refine ⟨nodup_eraseDups _, fun path => ?_, ?_⟩
  · rw [mem_resolve]
    constructor
    · rintro ⟨p, hp, hmem⟩
      obtain ⟨i, hi⟩ := List.mem_iff_getElem?.mp hp
      exact ⟨i, (yieldsAt_iff hw hr).mpr ⟨p, hi, hmem⟩⟩
    · rintro ⟨i, hyields⟩
      obtain ⟨p, hi, hmem⟩ := (yieldsAt_iff hw hr).mp hyields
      exact ⟨p, List.mem_iff_getElem?.mpr ⟨i, hi⟩, hmem⟩
  · refine (resolve_pairwise hw).imp fun {a b} hab => ?_
    obtain ⟨i, j, hi, hj, hlt⟩ := hab
    exact ⟨i, j, (firstYieldsAt_iff hw hr).mpr hi, (firstYieldsAt_iff hw hr).mpr hj, hlt⟩

/-- The file below the link of the sample comes last, and the input that names the link yields it. -/
theorem resolve_exact_sample :
    sample.resolve Tree.sample =
        [⟨false, [.name "src", .name "a.rs"]⟩, ⟨false, [.name "alias", .name "a.rs"]⟩] ∧
      ∃ i, YieldsAt Tree.sample "/" ["src/*.rs", "alias/*"] ["**/b.txt"] i
        ⟨false, [.name "alias", .name "a.rs"]⟩ := by
  refine ⟨resolve_sample, ((resolve_exact Tree.sample_wellFormed ofSources_sample).2.1 _).mp ?_⟩
  rw [resolve_sample]
  simp

end Resolver

end TextLimits
