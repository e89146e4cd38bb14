import TextLimits.Proofs.Scan.Resolve

/-! # Sources that do not compile

Exclusions fail at the first one that is no glob, or as a whole if one of them is nested too deep
(`ExcludeFilter.ofSources_eq_error_iff`).  Reading the sources of a resolver fails only if one of them does not
compile, and then with a fault that names a glob, unless an input is nested too deep
(`Resolver.fault_of_ofSources`). -/

namespace TextLimits

/-- A source is a glob. -/
def Glob.Parses (source : String) : Prop := ∃ g, parse source = .ok g

/-- A source is a glob that is nested too deep to be matched. -/
def Glob.TooDeep (source : String) : Prop := ∃ g, parse source = .ok g ∧ Regex.maxDepth < g.depth

theorem Glob.parses_iff {source : String} :
    Parses source ↔ (tokens? source.toList).isSome = true := by
  unfold Parses parse
  cases tokens? source.toList with
  | none => simp
  | some tokens => simp

theorem Glob.parse_eq_error_iff {source : String} {fault : Fault} :
    parse source = .error fault ↔ ¬ Parses source ∧ fault = .glob source := by
  rw [parses_iff]
  unfold parse
  cases tokens? source.toList with
  | none => simp [eq_comm]
  | some tokens => simp

theorem Glob.fault_of_parse {source : String} {fault : Fault} (h : parse source = .error fault) :
    fault = .glob source :=
  (parse_eq_error_iff.mp h).2

/-- A source is a glob that can be matched. -/
def Glob.Compiles (source : String) : Prop := ∃ g, parse source = .ok g ∧ g.depth ≤ Regex.maxDepth

theorem Glob.not_tooDeep_of_compiles {source : String} (h : Compiles source) : ¬ TooDeep source := by
  obtain ⟨g, hg, hdepth⟩ := h
  rintro ⟨g', hg', hdeep⟩
  rw [hg] at hg'
  cases hg'
  exact absurd hdepth (Nat.not_le.mpr hdeep)

theorem Glob.compiles_iff {source : String} : Compiles source ↔ Parses source ∧ ¬ TooDeep source := by
  constructor
  · exact fun h => ⟨h.imp fun _ hg => hg.1, not_tooDeep_of_compiles h⟩
  · rintro ⟨⟨g, hg⟩, hdeep⟩
    exact ⟨g, hg, Nat.not_lt.mp fun hlt => hdeep ⟨g, hg, hlt⟩⟩

/-- A source is an input pattern. -/
def InputPattern.Compiles (source : String) : Prop := ∃ p, parse source = .ok p

/-- A source is nested deeper than a glob that can be matched. -/
def InputPattern.TooDeep (source : String) : Prop :=
  ∃ g, Glob.parse (String.ofList (strip source.toList)) = .ok g ∧ Regex.maxDepth < g.depth

theorem InputPattern.not_tooDeep_of_compiles {source : String} (h : Compiles source) :
    ¬ TooDeep source := by
  obtain ⟨p, hp⟩ := h
  obtain ⟨hglob, hdepth, -⟩ := parse_eq_ok_iff.mp hp
  exact Glob.not_tooDeep_of_compiles ⟨p.glob, hglob, hdepth⟩

theorem InputPattern.fault_of_parse {source : String} {fault : Fault}
    (h : parse source = .error fault) :
    (∃ pattern, fault = .glob pattern) ∨ TooDeep source ∧ ∃ pattern, fault = .tooDeep pattern := by
  unfold parse at h
  unfold TooDeep
  dsimp only at h
  generalize String.ofList (strip source.toList) = text at h ⊢
  cases hglob : Glob.parse text with
  | error e =>
      rw [hglob] at h
      cases h
      exact .inl ⟨text, Glob.fault_of_parse hglob⟩
  | ok g =>
      rw [hglob] at h
      simp only [bind, Except.bind] at h
      split_ifs at h with hdeep
      exact .inr ⟨⟨g, rfl, hdeep⟩, text, (Except.error.inj h).symm⟩

theorem Glob.any_tooDeep_iff {sources : List String} {globs : List Glob}
    (h : List.Forall₂ (fun source g => parse source = .ok g) sources globs) :
    (globs.any fun g => Regex.maxDepth < g.depth) = true ↔ ∃ source ∈ sources, TooDeep source := by
  have hnone := forall_mem_iff_of_forall₂ (P := fun g => ¬ Regex.maxDepth < g.depth) h
  rw [← not_iff_not, Bool.not_eq_true, List.any_eq_false]
  simpa [TooDeep] using hnone

/-- An exclusion fails at the first source that is no glob, and if all are globs, as a whole if one of them is
nested too deep. -/
theorem ExcludeFilter.ofSources_eq_error_iff {sources : List String} {fault : Fault} :
    ofSources sources = .error fault ↔
      (∃ source, FirstNot Glob.Parses sources source ∧ fault = .glob source) ∨
        (∀ source ∈ sources, Glob.Parses source) ∧ (∃ source ∈ sources, Glob.TooDeep source) ∧
          fault = .glob "combined patterns" := by
  unfold ofSources
  rw [bind_eq_error_iff, mapM_eq_error_iff]
  refine or_congr (exists_congr fun source => and_congr_right fun hfirst => ?_) ⟨?_, ?_⟩
  · rw [Glob.parse_eq_error_iff]
    exact and_iff_right hfirst.mem.2
  · rintro ⟨globs, hglobs, h⟩
    split_ifs at h with hany
    have hread := mapM_eq_ok_iff.mp hglobs
    have hparses : ∀ source ∈ sources, Glob.Parses source := fun source hsource =>
      (exists_mem_of_forall₂ hread source hsource).imp fun g hg => hg.2
    exact ⟨hparses, (Glob.any_tooDeep_iff hread).mp hany, (Except.error.inj h).symm⟩
  · rintro ⟨hparses, htoo, rfl⟩
    obtain ⟨globs, hglobs⟩ := exists_mapM_eq_ok hparses
    exact ⟨globs, hglobs, if_pos ((Glob.any_tooDeep_iff (mapM_eq_ok_iff.mp hglobs)).mpr htoo)⟩

theorem ExcludeFilter.fault_of_ofSources {sources : List String} {fault : Fault}
    (h : ofSources sources = .error fault) :
    (∃ source ∈ sources, ¬ Glob.Compiles source) ∧ ∃ pattern, fault = .glob pattern := by
  rcases ofSources_eq_error_iff.mp h with ⟨source, hfirst, rfl⟩ | ⟨-, ⟨source, hsource, hdeep⟩, rfl⟩
  · obtain ⟨hsource, hparse⟩ := hfirst.mem
    exact ⟨⟨source, hsource, fun ⟨g, hg, _⟩ => hparse ⟨g, hg⟩⟩, source, rfl⟩
  · exact ⟨⟨source, hsource, fun hcompiles => Glob.not_tooDeep_of_compiles hcompiles hdeep⟩, _, rfl⟩

theorem ExcludeFilter.exists_ofSources_iff {sources : List String} :
    (∃ f, ofSources sources = .ok f) ↔ ∀ source ∈ sources, Glob.Compiles source := by
  constructor
  · rintro ⟨f, hf⟩ source hsource
    obtain ⟨hglobs, hdepth⟩ := ofSources_eq_ok_iff.mp hf
    obtain ⟨g, hmem, hg⟩ := exists_mem_of_forall₂ hglobs source hsource
    exact ⟨g, hg, hdepth g hmem⟩
  · intro hall
    cases h : ofSources sources with
    | ok f => exact ⟨f, rfl⟩
    | error fault =>
        obtain ⟨⟨source, hsource, hbad⟩, -⟩ := fault_of_ofSources h
        exact absurd (hall source hsource) hbad

namespace Resolver

variable {root : String} {inputs excludes : List String} {r : Resolver} {fault : Fault}

/-- Some input or some exclusion does not compile. -/
def BadSource (inputs excludes : List String) : Prop :=
  (∃ source ∈ inputs, ¬ InputPattern.Compiles source) ∨ ∃ source ∈ excludes, ¬ Glob.Compiles source

theorem not_badSource_of_ofSources (h : ofSources root inputs excludes = .ok r) :
    ¬ BadSource inputs excludes := by
  obtain ⟨-, hfilter, hinputs⟩ := ofSources_eq_ok_iff.mp h
  rintro (⟨source, hsource, hbad⟩ | ⟨source, hsource, hbad⟩)
  · obtain ⟨p, -, hp⟩ := exists_mem_of_forall₂ hinputs source hsource
    exact hbad ⟨p, hp⟩
  · exact hbad (ExcludeFilter.exists_ofSources_iff.mp ⟨_, hfilter⟩ source hsource)

/-- The sources of a resolver fail as their exclusions do, and if these are read, as their inputs do. -/
theorem ofSources_eq_error_iff :
    ofSources root inputs excludes = .error fault ↔
      ExcludeFilter.ofSources excludes = .error fault ∨
        (∃ f, ExcludeFilter.ofSources excludes = .ok f) ∧
          inputs.mapM InputPattern.parse = .error fault := by
  have hrest : ∀ f : ExcludeFilter,
      (do return ⟨root, ← inputs.mapM InputPattern.parse, f⟩ : Except Fault Resolver) = .error fault ↔
        inputs.mapM InputPattern.parse = .error fault := by
    intro f
    rw [bind_eq_error_iff]
    exact or_iff_left nofun
  unfold ofSources
  rw [bind_eq_error_iff]
  simp only [hrest, exists_and_right]

theorem fault_of_ofSources (h : ofSources root inputs excludes = .error fault) :
    BadSource inputs excludes ∧ ((∃ pattern, fault = .glob pattern) ∨
      (∃ source ∈ inputs, InputPattern.TooDeep source) ∧ ∃ pattern, fault = .tooDeep pattern) := by
  rcases ofSources_eq_error_iff.mp h with hfilter | ⟨-, hinputs⟩
  · obtain ⟨hbad, hglob⟩ := ExcludeFilter.fault_of_ofSources hfilter
    exact ⟨.inr hbad, .inl hglob⟩
  · obtain ⟨source, hfirst, hparse⟩ := mapM_eq_error_iff.mp hinputs
    obtain ⟨hsource, hbad⟩ := hfirst.mem
    refine ⟨.inl ⟨source, hsource, hbad⟩, ?_⟩
    rcases InputPattern.fault_of_parse hparse with hglob | ⟨hdeep, htext⟩
    · exact .inl hglob
    · exact .inr ⟨⟨source, hsource, hdeep⟩, htext⟩

end Resolver

end TextLimits
