import TextLimits.Proofs.Glob.Levels
import TextLimits.Proofs.Scan.Escaping
import TextLimits.Proofs.Scan.Filtering

/-! # Files level by level

A glob that goes level by level, as an input or as an exclusion, stands for files of as many levels as it
has itself, and each of their names is matched by its part alone (`Resolver.resolve_levelwise`).  An input
is read without the dots and slashes in front of it, and so are its parts. -/

namespace TextLimits

variable {source : String}

theorem Glob.IsLevelwise.stripped (h : IsLevelwise source.toList) :
    IsLevelwise (InputPattern.stripped source).toList := by
  have hescape : ∀ text, escapesSlash text = false →
      escapesSlash (InputPattern.strip text) = false := by
    intro text htext
    fun_induction InputPattern.strip text with
    | case1 rest ih => exact ih (by simpa [escapesSlash] using htext)
    | case2 text => exact htext
  rw [InputPattern.stripped, String.toList_ofList]
  exact h.of_suffix (InputPattern.strip_suffix source.toList) (hescape _ h.noEscape)

namespace Resolver

variable {top : Tree} {root : String} {inputs excludes first more : List String} {r : Resolver}
  {path : Path}

theorem exists_isMatch_of_mem_resolve (hr : ofSources root [source] excludes = .ok r)
    (h : path ∈ r.resolve top) :
    ∃ g, Glob.parse (InputPattern.stripped source) = .ok g ∧ g.isMatch path.text = true := by
  obtain ⟨p, hp, hmem⟩ := mem_resolve.mp h
  obtain ⟨s, hs, hparse⟩ := exists_source_of_mem hr hp
  obtain rfl := List.mem_singleton.mp hs
  obtain ⟨t, names, -, -, -, hmatch, -⟩ := InputPattern.mem_files.mp (List.mem_filter.mp hmem).1
  exact ⟨p.glob, (InputPattern.parse_eq_ok_iff.mp hparse).1, hmatch⟩

theorem exists_isMatch_of_removed (top : Tree)
    (hr : ofSources root inputs (first ++ source :: more) = .ok r) :
    ∃ r', ofSources root inputs (first ++ more) = .ok r' ∧
      ∀ path ∈ r'.resolve top, path ∉ r.resolve top →
        ∃ g, Glob.parse source = .ok g ∧ g.isMatch path.text = true := by
  have hsub : ∀ s ∈ first ++ more, s ∈ first ++ source :: more := by
    intro s hs
    rcases List.mem_append.mp hs with h | h
    · exact List.mem_append_left _ h
    · exact List.mem_append_right _ (List.mem_cons_of_mem _ h)
  obtain ⟨r', hr', hincluded⟩ := exists_ofSources_of_subset top hr hsub
  refine ⟨r', hr', fun path hkept hremoved => ?_⟩
  rw [resolve_eq_filter, List.mem_filter,
    ExcludeFilter.includes_iff_not_rejected (ofSources_eq_ok_iff.mp hr').2.1, hincluded] at hkept
  rw [resolve_eq_filter, List.mem_filter, and_iff_right hkept.1,
    ExcludeFilter.includes_iff_not_rejected (ofSources_eq_ok_iff.mp hr).2.1] at hremoved
  simp only [not_forall, Bool.not_eq_false] at hremoved
  obtain ⟨s, hs, g, hg, hrejects⟩ := hremoved
  have hsource : s = source := by
    by_contra hne
    have hother : s ∈ first ++ more := by simpa [hne] using hs
    rw [hkept.2 s hother g hg] at hrejects
    cases hrejects
  subst hsource
  unfold ExcludeFilter.rejectedBy at hrejects
  exact ⟨g, hg, (Bool.and_eq_true_iff.mp hrejects).1⟩

/-- **Stars and question marks stay on their level.**  If nothing in a glob can stand for more than one
level of directories, what it matches, what is resolved of it as an input, and what it takes out as an
exclusion has as many slashes as the text itself, and parts that the parts of the text match alone. -/
theorem resolve_levelwise (hsource : Glob.IsLevelwise source.toList) :
    (∀ g, Glob.parse source = .ok g → ∀ path,
      g.isMatch path = true ↔ Glob.MatchesParts source path) ∧
    (∀ top root excludes r, ofSources root [source] excludes = .ok r →
      ∀ path ∈ r.resolve top, Glob.MatchesParts (InputPattern.stripped source) path.text) ∧
    ∀ top root inputs first more r, ofSources root inputs (first ++ source :: more) = .ok r →
      ∃ r', ofSources root inputs (first ++ more) = .ok r' ∧
        ∀ path ∈ r'.resolve top, path ∉ r.resolve top → Glob.MatchesParts source path.text := by
  refine ⟨fun g hg path => Glob.isMatch_iff_matchesParts hsource hg, ?_, ?_⟩
  · intro top root excludes r hr path hpath
    obtain ⟨g, hg, hmatch⟩ := exists_isMatch_of_mem_resolve hr hpath
    exact (Glob.isMatch_iff_matchesParts hsource.stripped hg).mp hmatch
  · intro top root inputs first more r hr
    obtain ⟨r', hr', hremoved⟩ := exists_isMatch_of_removed top hr
    refine ⟨r', hr', fun path hkept hnot => ?_⟩
    obtain ⟨g, hg, hmatch⟩ := hremoved path hkept hnot
    exact (Glob.isMatch_iff_matchesParts hsource hg).mp hmatch

/-- An escaped star is one character of a name; the question mark behind the slash stands for another
character, and not for the slash. -/
theorem resolve_levelwise_sample :
    Glob.IsLevelwise "./b\\*/?]".toList ∧
      (∃ r, ofSources "/" ["./b\\*/?]"] [] = .ok r ∧
        r.resolve Tree.specialNames = [⟨false, ["b*", "c]"].map .name⟩]) ∧
      Glob.MatchesParts "b\\*/?]" (Path.mk false (["b*", "c]"].map .name)).text := by
  have hsource : Glob.IsLevelwise "./b\\*/?]".toList :=
    ⟨by decide +kernel, by decide +kernel, by decide +kernel, by decide +kernel⟩
  have hp : InputPattern.parse "./b\\*/?]" = .ok
      ⟨⟨"b\\*/?]", [.literal 'b', .literal '*', .literal '/', .any, .literal ']']⟩, ⟨false, []⟩⟩ :=
    InputPattern.parse_eq_ok_iff.mpr
      ⟨Glob.parse_eq_ok_iff.mpr ⟨by decide +kernel, by rfl⟩, by decide +kernel, by decide +kernel⟩
  obtain ⟨r, hr, hfiles⟩ := exists_resolve_eq_files "/" Tree.specialNames_wellFormed hp
  have hresolve : r.resolve Tree.specialNames = [⟨false, ["b*", "c]"].map .name⟩] :=
    hfiles.trans (by cbv)
  have hstripped : InputPattern.stripped "./b\\*/?]" = "b\\*/?]" := by decide +kernel
  obtain ⟨-, hinput, -⟩ := resolve_levelwise hsource
  have hmatches := hinput _ _ _ _ hr _ (hresolve ▸ List.mem_singleton_self _)
  rw [hstripped] at hmatches
  exact ⟨hsource, ⟨r, hr, hresolve⟩, hmatches⟩

end Resolver

end TextLimits
