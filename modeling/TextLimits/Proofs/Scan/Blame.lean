import TextLimits.Proofs.Scan.Compiling
import TextLimits.Proofs.Scan.Naming

/-! # Which source is at fault

Several sources can be at fault at once, and only one of them is named: the first exclusion that is no glob,
else all exclusions together if one of them is nested too deep, else the first input that is no glob
(`Resolver.Blames`).  If no input is nested too deep, this says exactly which fault the sources of a resolver
come to (`Resolver.ofSources_eq_glob_iff`), and that there is one if some source is no glob or some exclusion
is nested too deep (`Resolver.exists_blames_iff`). -/

namespace TextLimits

namespace InputPattern

variable {source : String}

theorem exists_parse_eq_ok_iff (hdeep : ¬ TooDeep source) :
    (∃ p, parse source = .ok p) ↔ Glob.Parses (stripped source) := by
  constructor
  · rintro ⟨p, hp⟩
    exact ⟨p.glob, (parse_eq_ok_iff.mp hp).1⟩
  · rintro ⟨g, hg⟩
    have hdepth : g.depth ≤ Regex.maxDepth := Nat.not_lt.mp fun hlt => hdeep ⟨g, hg, hlt⟩
    exact ⟨⟨g, baseOf (stripped source)⟩, parse_eq_ok_iff.mpr ⟨hg, hdepth, rfl⟩⟩

theorem parse_of_not_parses (h : ¬ Glob.Parses (stripped source)) :
    parse source = .error (.glob (stripped source)) := by
  have hglob : Glob.parse (stripped source) = .error (.glob (stripped source)) :=
    Glob.parse_eq_error_iff.mpr ⟨h, rfl⟩
  unfold parse
  dsimp only
  rw [← stripped, hglob]
  rfl

/-- If no input is nested too deep, reading them fails at the first one whose text is no glob. -/
theorem mapM_parse_eq_error_iff {inputs : List String} {fault : Fault}
    (hdeep : ∀ source ∈ inputs, ¬ TooDeep source) :
    inputs.mapM parse = .error fault ↔
      ∃ source, FirstNot (fun source => Glob.Parses (stripped source)) inputs source ∧
        fault = .glob (stripped source) := by
  have hfirst : ∀ source, FirstNot (fun source => ∃ p, parse source = .ok p) inputs source ↔
      FirstNot (fun source => Glob.Parses (stripped source)) inputs source := fun source =>
    firstNot_congr fun other hother => exists_parse_eq_ok_iff (hdeep other hother)
  rw [mapM_eq_error_iff]
  refine exists_congr fun source => ?_
  rw [hfirst]
  refine and_congr_right fun h => ?_
  rw [parse_of_not_parses h.mem.2, Except.error.injEq, eq_comm]

end InputPattern

namespace Resolver

variable {root : String} {inputs excludes : List String}

/-- What is named as the glob at fault: the first exclusion that is none, else all exclusions together if one of
them is nested too deep, else the first input that is none, without what is stripped from it. -/
inductive Blames (inputs excludes : List String) : String → Prop
  | exclude {source : String} (h : FirstNot Glob.Parses excludes source) : Blames inputs excludes source
  | together (hparse : ∀ source ∈ excludes, Glob.Parses source)
      (hdeep : ∃ source ∈ excludes, Glob.TooDeep source) : Blames inputs excludes "combined patterns"
  | input {source : String} (hexcludes : ∀ source ∈ excludes, Glob.Compiles source)
      (h : FirstNot (fun source => Glob.Parses (InputPattern.stripped source)) inputs source) :
      Blames inputs excludes (InputPattern.stripped source)

theorem exists_blames_iff :
    (∃ pattern, Blames inputs excludes pattern) ↔
      (∃ source ∈ excludes, ¬ Glob.Parses source) ∨ (∃ source ∈ excludes, Glob.TooDeep source) ∨
        ∃ source ∈ inputs, ¬ Glob.Parses (InputPattern.stripped source) := by
  constructor
  · rintro ⟨pattern, h⟩
    cases h with
    | exclude h => exact .inl ⟨_, h.mem⟩
    | together _ hdeep => exact .inr (.inl hdeep)
    | input _ h => exact .inr (.inr ⟨_, h.mem⟩)
  · intro h
    by_cases hparse : ∃ source ∈ excludes, ¬ Glob.Parses source
    · obtain ⟨source, hfirst⟩ := exists_firstNot_iff.mpr hparse
      exact ⟨source, .exclude hfirst⟩
    by_cases hdeep : ∃ source ∈ excludes, Glob.TooDeep source
    · push Not at hparse
      exact ⟨_, .together hparse hdeep⟩
    · obtain ⟨source, hfirst⟩ := exists_firstNot_iff.mpr ((h.resolve_left hparse).resolve_left hdeep)
      push Not at hparse hdeep
      have hexcludes : ∀ source ∈ excludes, Glob.Compiles source := fun source hsource =>
        Glob.compiles_iff.mpr ⟨hparse source hsource, hdeep source hsource⟩
      exact ⟨_, .input hexcludes hfirst⟩

/-- **If no input is nested too deep, the glob at fault is the one that is named.** -/
theorem ofSources_eq_glob_iff (hdeep : ∀ source ∈ inputs, ¬ InputPattern.TooDeep source)
    {pattern : String} :
    ofSources root inputs excludes = .error (.glob pattern) ↔ Blames inputs excludes pattern := by
  rw [ofSources_eq_error_iff, ExcludeFilter.ofSources_eq_error_iff, ExcludeFilter.exists_ofSources_iff,
    InputPattern.mapM_parse_eq_error_iff hdeep]
  constructor
  · rintro ((⟨source, hfirst, heq⟩ | ⟨hparse, htoo, heq⟩) | ⟨hexcludes, source, hfirst, heq⟩)
    · cases heq
      exact .exclude hfirst
    · cases heq
      exact .together hparse htoo
    · cases heq
      exact .input hexcludes hfirst
  · intro h
    cases h with
    | exclude h => exact .inl (.inl ⟨_, h, rfl⟩)
    | together hparse htoo => exact .inl (.inr ⟨hparse, htoo, rfl⟩)
    | input hexcludes h => exact .inr ⟨hexcludes, _, h, rfl⟩

end Resolver

end TextLimits
