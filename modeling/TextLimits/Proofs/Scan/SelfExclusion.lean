import TextLimits.Proofs.Scan.Compiling
import TextLimits.Proofs.Scan.Naming

/-! # Excluding what was included

Exclusion can wait until all inputs are resolved (`Resolver.resolve_eq_filter`).  A text that is an
input and an exclusion is one glob for both, so nothing that it stands for is listed, unless it begins
with a dot and a slash: the input is read without them, but the exclusion is not, and no path begins so.
Such an exclusion has no effect at all (`Resolver.resolve_excluding_input`). -/

namespace TextLimits

namespace Resolver

variable {top : Tree} {root : String} {inputs excludes : List String} {r : Resolver}

/-- The files of all inputs, each at its first place, before anything is left out. -/
def included (r : Resolver) (top : Tree) : List Path :=
  (r.inputs.flatMap (InputPattern.files top r.root)).eraseDups

/-- **Exclusion can wait**: what is left out of each input is what is left out of all of them. -/
theorem resolve_eq_filter (r : Resolver) (top : Tree) :
    r.resolve top = (r.included top).filter fun path => r.filter.includes path.text := by
  unfold resolve included
  rw [← eraseDups_filter, List.filter_flatMap]
  rfl

theorem mem_included {path : Path} :
    path ∈ r.included top ↔ ∃ p ∈ r.inputs, path ∈ p.files top r.root := by
  rw [included, List.mem_eraseDups, List.mem_flatMap]

theorem exists_ofSources_of_subset (top : Tree) (hr : ofSources root inputs excludes = .ok r)
    {fewer : List String} (hsub : ∀ s ∈ fewer, s ∈ excludes) :
    ∃ r', ofSources root inputs fewer = .ok r' ∧ r'.included top = r.included top := by
  cases hr' : ofSources root inputs fewer with
  | error fault =>
      refine absurd ?_ (not_badSource_of_ofSources hr)
      rcases (fault_of_ofSources hr').1 with hbad | ⟨s, hs, hbad⟩
      · exact .inl hbad
      · exact .inr ⟨s, hsub s hs, hbad⟩
  | ok r' =>
      obtain ⟨hroot, -, hinputs⟩ := ofSources_eq_ok_iff.mp hr
      obtain ⟨hroot', -, hinputs'⟩ := ofSources_eq_ok_iff.mp hr'
      rw [← mapM_eq_ok_iff] at hinputs hinputs'
      rw [hinputs] at hinputs'
      refine ⟨r', rfl, ?_⟩
      unfold included
      rw [hroot, hroot', Except.ok.inj hinputs']

theorem text_of_mem_included (hw : top.WellFormed) (hr : ofSources root inputs excludes = .ok r)
    {path : Path} (h : path ∈ r.included top) :
    ¬ ['.', '/'] <+: path.text.toList ∧ ExcludeFilter.endsInDots path.text = false := by
  obtain ⟨p, hp, hmem⟩ := mem_included.mp h
  obtain ⟨source, -, hparse⟩ := exists_source_of_mem hr hp
  obtain ⟨hproper, hdot⟩ := InputPattern.candidate_of_mem_files hw hparse hmem
  exact ⟨Path.not_dotSlash_prefix_text hproper hdot,
    InputPattern.endsInDots_of_mem_files hw hparse hmem⟩

end Resolver

theorem Glob.dotSlash_prefix_of_isMatch {source path : String} {g : Glob} (hg : parse source = .ok g)
    (hsource : ['.', '/'] <+: source.toList) (h : g.isMatch path = true) :
    ['.', '/'] <+: path.toList := by
  obtain ⟨rest, hrest⟩ := hsource
  have hplain : ∀ c ∈ ['.'], IsPlain c := by simp [IsPlain]
  exact prefix_of_isMatch hg hrest.symm hplain h

namespace Resolver

variable {top : Tree} {root source : String} {inputs excludes : List String} {r : Resolver}
  {p : InputPattern}

theorem isMatch_of_mem_resolve (hw : top.WellFormed) (hr : ofSources root inputs excludes = .ok r)
    (hsource : source ∈ excludes) {g : Glob} (hg : Glob.parse source = .ok g) {path : Path}
    (h : path ∈ r.resolve top) : g.isMatch path.text = false := by
  obtain ⟨p, hp, hmem⟩ := mem_resolve.mp h
  obtain ⟨s, -, hparse⟩ := exists_source_of_mem hr hp
  exact ((mem_filesOf_iff hw hr hparse).mp hmem).2.2 source hsource g hg

/-- An exclusion that begins with a dot and a slash has no effect. -/
theorem resolve_without_dotSlash (hw : top.WellFormed) (hr : ofSources root inputs excludes = .ok r)
    (hdot : ['.', '/'] <+: source.toList) :
    ∃ r', ofSources root inputs (excludes.filter (· ≠ source)) = .ok r' ∧
      r.resolve top = r'.resolve top := by
  have hsub : ∀ s ∈ excludes.filter (· ≠ source), s ∈ excludes :=
    fun s hs => (List.mem_filter.mp hs).1
  obtain ⟨r', hr', hincluded⟩ := exists_ofSources_of_subset top hr hsub
  refine ⟨r', hr', ?_⟩
  rw [resolve_eq_filter, resolve_eq_filter, hincluded]
  apply List.filter_congr
  intro path hpath
  obtain ⟨hbegins, hdots⟩ := text_of_mem_included hw hr hpath
  rw [Bool.eq_iff_iff, ExcludeFilter.includes_iff_sources (ofSources_eq_ok_iff.mp hr).2.1 hdots,
    ExcludeFilter.includes_iff_sources (ofSources_eq_ok_iff.mp hr').2.1 hdots]
  constructor
  · intro h s hs
    exact h s (List.mem_filter.mp hs).1
  · intro h s hs g hg
    by_cases heq : s = source
    · subst heq
      by_contra hmatch
      rw [Bool.not_eq_false] at hmatch
      exact hbegins (Glob.dotSlash_prefix_of_isMatch hg hdot hmatch)
    · exact h s (List.mem_filter.mpr ⟨hs, by simpa using heq⟩) g hg

/-- **A text that is an input and an exclusion leaves nothing of what it stands for, unless it begins
with a dot and a slash.**  An exclusion that begins so has no effect. -/
theorem resolve_excluding_input (hw : top.WellFormed) (hr : ofSources root inputs excludes = .ok r)
    (hsource : source ∈ excludes) (hp : InputPattern.parse source = .ok p) :
    (¬ ['.', '/'] <+: source.toList →
      (∀ path ∈ p.files top root, path ∉ r.resolve top) ∧
        ((∀ s ∈ inputs, s = source) → r.resolve top = [])) ∧
      (['.', '/'] <+: source.toList →
        ∃ r', ofSources root inputs (excludes.filter (· ≠ source)) = .ok r' ∧
          r.resolve top = r'.resolve top) := by
  refine ⟨fun hdot => ?_, fun hdot => resolve_without_dotSlash hw hr hdot⟩
  have hglob := (InputPattern.parse_eq_ok_iff.mp hp).1
  rw [← InputPattern.stripped, InputPattern.stripped_eq_self hdot] at hglob
  have hnone : ∀ path ∈ p.files top root, path ∉ r.resolve top := by
    intro path hpath hmem
    obtain ⟨-, -, -, -, -, hmatch, -⟩ := InputPattern.mem_files.mp hpath
    rw [isMatch_of_mem_resolve hw hr hsource hglob hmem] at hmatch
    cases hmatch
  refine ⟨hnone, fun hall => List.eq_nil_iff_forall_not_mem.mpr fun path hmem => ?_⟩
  obtain ⟨q, hq, hkept⟩ := mem_resolve.mp hmem
  obtain ⟨s, hs, hparse⟩ := exists_source_of_mem hr hq
  rw [hall s hs, hp] at hparse
  obtain rfl : p = q := Except.ok.inj hparse
  have hfiles := (List.mem_filter.mp hkept).1
  rw [(ofSources_eq_ok_iff.mp hr).1] at hfiles
  exact hnone path hfiles hmem

theorem resolve_excluding_input_sample :
    ∃ r, ofSources "/" ["src/*.rs"] ["src/*.rs"] = .ok r ∧ r.resolve Tree.sample = [] := by
  have hglob := (InputPattern.parse_eq_ok_iff.mp parse_sample).1
  have hfilter : ExcludeFilter.ofSources ["src/*.rs"] = .ok ⟨[sample.inputs[0].glob]⟩ :=
    ExcludeFilter.ofSources_eq_ok_iff.mpr ⟨.cons hglob .nil, by decide⟩
  have hr : ofSources "/" ["src/*.rs"] ["src/*.rs"] =
      .ok ⟨"/", [sample.inputs[0]], ⟨[sample.inputs[0].glob]⟩⟩ :=
    ofSources_eq_ok_iff.mpr ⟨rfl, hfilter, .cons parse_sample .nil⟩
  have hempty := (resolve_excluding_input Tree.sample_wellFormed hr List.mem_cons_self
    parse_sample).1 (by decide)
  exact ⟨_, hr, hempty.2 fun s hs => List.mem_singleton.mp hs⟩

/-- A file that is left out by its name is listed if the name is written with a dot and a slash in
front of it, as an input and as an exclusion. -/
theorem resolve_dotSlash_both :
    ∃ r, ofSources "/" ["./src/a.rs"] ["./src/a.rs"] = .ok r ∧
      r.resolve Tree.sample = [⟨false, [.name "src", .name "a.rs"]⟩] := by
  have hinput : InputPattern.parse "./src/a.rs" = .ok
      ⟨⟨"src/a.rs", "src/a.rs".toList.map .literal⟩, ⟨false, [.name "src", .name "a.rs"]⟩⟩ :=
    InputPattern.parse_eq_ok_iff.mpr
      ⟨Glob.parse_eq_ok_iff.mpr ⟨by decide +kernel, by rfl⟩, by decide +kernel, by decide +kernel⟩
  have hglob : Glob.parse "./src/a.rs" =
      .ok ⟨"./src/a.rs", "./src/a.rs".toList.map .literal⟩ :=
    Glob.parse_eq_ok_iff.mpr ⟨by decide +kernel, by rfl⟩
  have hfilter : ExcludeFilter.ofSources ["./src/a.rs"] =
      .ok ⟨[⟨"./src/a.rs", "./src/a.rs".toList.map .literal⟩]⟩ :=
    ExcludeFilter.ofSources_eq_ok_iff.mpr ⟨.cons hglob .nil, by decide +kernel⟩
  refine ⟨⟨"/", [⟨⟨"src/a.rs", "src/a.rs".toList.map .literal⟩,
      ⟨false, [.name "src", .name "a.rs"]⟩⟩],
    ⟨[⟨"./src/a.rs", "./src/a.rs".toList.map .literal⟩]⟩⟩, ?_, by decide +kernel⟩
  exact ofSources_eq_ok_iff.mpr ⟨rfl, hfilter, .cons hinput .nil⟩

end Resolver

end TextLimits
