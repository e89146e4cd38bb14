import TextLimits.Proofs.Scan.SelfExclusion

/-! # Exclusion is a filter

Though each input leaves out what is excluded on its own, before files that came up already are left out
too, more exclusions take from the list of files exactly what one of them matches, and all else stays
where it is (`Resolver.resolve_append_excludes`).  So only the set of exclusions matters. -/

namespace TextLimits

/-- Whether one of some texts is a glob that matches a path. -/
def Glob.someMatches (sources : List String) (path : String) : Bool :=
  sources.any fun source =>
    match parse source with
    | .ok g => g.isMatch path
    | .error _ => false

theorem Glob.someMatches_iff {sources : List String} {path : String} :
    someMatches sources path = true ↔
      ∃ source ∈ sources, ∃ g, parse source = .ok g ∧ g.isMatch path = true := by
  unfold someMatches
  rw [List.any_eq_true]
  refine exists_congr fun source => and_congr_right fun _ => ?_
  cases parse source with
  | error fault => simp
  | ok g => simp

theorem Glob.someMatches_append (a b : List String) (path : String) :
    someMatches (a ++ b) path = (someMatches a path || someMatches b path) := List.any_append

theorem Glob.someMatches_congr {a b : List String} (h : ∀ s, s ∈ a ↔ s ∈ b) (path : String) :
    someMatches a path = someMatches b path := by
  rw [Bool.eq_iff_iff, someMatches_iff, someMatches_iff]
  exact exists_congr fun source => and_congr_left fun _ => h source

theorem ExcludeFilter.includes_eq_not_someMatches {sources : List String} {f : ExcludeFilter}
    {path : String} (hf : ofSources sources = .ok f) (hdots : endsInDots path = false) :
    f.includes path = !Glob.someMatches sources path := by
  rw [Bool.eq_iff_iff, includes_iff_sources hf hdots, Bool.not_eq_true', ← Bool.not_eq_true,
    Glob.someMatches_iff]
  simp only [not_exists, not_and, Bool.not_eq_true]

namespace Resolver

variable {top : Tree} {root : String} {inputs excludes : List String} {r : Resolver}

/-- What is resolved is what the inputs stand for, without what some exclusion matches. -/
theorem resolve_eq_filter_sources (hw : top.WellFormed) (hr : ofSources root inputs excludes = .ok r) :
    r.resolve top =
      (r.included top).filter fun path => !Glob.someMatches excludes path.text := by
  rw [resolve_eq_filter]
  apply List.filter_congr
  intro path hpath
  exact ExcludeFilter.includes_eq_not_someMatches (ofSources_eq_ok_iff.mp hr).2.1
    (text_of_mem_included hw hr hpath).2

/-- **More exclusions take out what one of them matches, and nothing else changes.**  What is left keeps
its order, so no exclusion makes a file appear or puts it elsewhere, and neither the order of the
exclusions nor their repetition matters. -/
theorem resolve_append_excludes {first more : List String} (hw : top.WellFormed)
    (hr : ofSources root inputs (first ++ more) = .ok r) :
    (∃ r', ofSources root inputs first = .ok r' ∧
      r.resolve top = (r'.resolve top).filter (fun path => !Glob.someMatches more path.text) ∧
      (r.resolve top).Sublist (r'.resolve top)) ∧
    ∀ same : List String, (∀ s, s ∈ same ↔ s ∈ first ++ more) →
      ∃ r', ofSources root inputs same = .ok r' ∧ r'.resolve top = r.resolve top := by
  have hresolve := resolve_eq_filter_sources hw hr
  constructor
  · obtain ⟨r', hr', hincluded⟩ :=
      exists_ofSources_of_subset top hr fun s hs => List.mem_append_left more hs
    have hfilter : r.resolve top =
        (r'.resolve top).filter fun path => !Glob.someMatches more path.text := by
      rw [hresolve, resolve_eq_filter_sources hw hr', hincluded, List.filter_filter]
      refine List.filter_congr fun path _ => ?_
      rw [Glob.someMatches_append, Bool.not_or, Bool.and_comm]
    exact ⟨r', hr', hfilter, hfilter ▸ List.filter_sublist⟩
  · intro same hsame
    obtain ⟨r', hr', hincluded⟩ := exists_ofSources_of_subset top hr fun s hs => (hsame s).mp hs
    refine ⟨r', hr', ?_⟩
    rw [hresolve, resolve_eq_filter_sources hw hr', hincluded]
    exact List.filter_congr fun path _ => by rw [Glob.someMatches_congr hsame]

/-- An exclusion that is there already makes no difference the second time, and a new one takes out the
first of two files. -/
theorem resolve_append_excludes_sample :
    ∃ r, ofSources "/" ["src/*.rs", "alias/*"] (["**/b.txt"] ++ ["src/*", "**/b.txt"]) = .ok r ∧
      sample.resolve Tree.sample =
        [⟨false, [.name "src", .name "a.rs"]⟩, ⟨false, [.name "alias", .name "a.rs"]⟩] ∧
      r.resolve Tree.sample = [⟨false, [.name "alias", .name "a.rs"]⟩] := by
  obtain ⟨-, hfilter, hinputs⟩ := ofSources_eq_ok_iff.mp ofSources_sample
  have hold := (List.forall₂_cons.mp (ExcludeFilter.ofSources_eq_ok_iff.mp hfilter).1).1
  have hnew : Glob.parse "src/*" = .ok ⟨"src/*", "src/".toList.map .literal ++ [.star]⟩ :=
    Glob.parse_eq_ok_iff.mpr ⟨by decide, by rfl⟩
  have hr : ofSources "/" ["src/*.rs", "alias/*"] (["**/b.txt"] ++ ["src/*", "**/b.txt"]) = .ok
      { sample with filter := ⟨[sample.filter.globs[0],
        ⟨"src/*", "src/".toList.map .literal ++ [.star]⟩, sample.filter.globs[0]]⟩ } :=
    ofSources_eq_ok_iff.mpr ⟨rfl, ExcludeFilter.ofSources_eq_ok_iff.mpr
      ⟨.cons hold (.cons hnew (.cons hold .nil)), by decide⟩, hinputs⟩
  obtain ⟨⟨r', hr', hresolve, -⟩, -⟩ := resolve_append_excludes Tree.sample_wellFormed hr
  rw [ofSources_sample] at hr'
  obtain rfl : sample = r' := Except.ok.inj hr'
  refine ⟨_, hr, resolve_sample, hresolve.trans ?_⟩
  rw [resolve_sample]
  decide +kernel

end Resolver

end TextLimits
