import TextLimits.Proofs.Glob.Nesting
import TextLimits.Proofs.Scan.Blame

/-! # One language for inputs and exclusions

An input is read without the dots and slashes at its start and an exclusion is read as it stands, but both
are globs or neither is, and both are nested too deep or neither is (`Glob.tooDeep?_strip`).  So the same
texts are accepted as inputs and as exclusions: the globs that are not nested too deep.  A text that is no
glob is refused as one; a glob that is nested too deep is refused as an exclusion, but as an input it breaks
the program off (`Resolver.ofSources_singleton`). -/

namespace TextLimits

/-! ### Reading one text -/

/-- What is stripped from an input makes no difference to whether it is a glob, nor to whether it is nested
too deep. -/
theorem Glob.tooDeep?_strip (source : List Char) :
    tooDeep? (InputPattern.strip source) = tooDeep? source := by
  fun_induction InputPattern.strip source with
  | case1 rest ih => rw [ih, tooDeep?_dotSlash]
  | case2 text => rfl

theorem Glob.not_parses_of_tooDeep? {source : String} (h : tooDeep? source.toList = none) :
    ¬ Parses source := by
  rw [tooDeep?, nesting?, Option.map_map, Option.map_eq_none_iff] at h
  rw [parses_iff, h]
  exact Bool.false_ne_true

theorem Glob.exists_parse_of_tooDeep? {source : String} {deep : Bool}
    (h : tooDeep? source.toList = some deep) :
    ∃ g, parse source = .ok g ∧ decide (Regex.maxDepth < g.depth) = deep := by
  obtain ⟨depth, hdepth, hdeep⟩ := Option.map_eq_some_iff.mp h
  obtain ⟨tokens, htokens, rfl⟩ := Option.map_eq_some_iff.mp hdepth
  exact ⟨⟨source, tokens⟩, parse_eq_ok_iff.mpr ⟨rfl, htokens⟩, hdeep⟩

namespace InputPattern

variable {source : String}

theorem tooDeep?_stripped (source : String) :
    Glob.tooDeep? (stripped source).toList = Glob.tooDeep? source.toList := by
  rw [stripped, String.toList_ofList, Glob.tooDeep?_strip]

theorem parse_of_tooDeep?_eq_none (h : Glob.tooDeep? source.toList = none) :
    parse source = .error (.glob (stripped source)) := by
  rw [← tooDeep?_stripped] at h
  exact parse_of_not_parses (Glob.not_parses_of_tooDeep? h)

theorem exists_parse_of_tooDeep? (h : Glob.tooDeep? source.toList = some false) :
    ∃ p, parse source = .ok p := by
  rw [← tooDeep?_stripped] at h
  obtain ⟨g, hglob, hdepth⟩ := Glob.exists_parse_of_tooDeep? h
  exact ⟨⟨g, baseOf (stripped source)⟩,
    parse_eq_ok_iff.mpr ⟨hglob, Nat.not_lt.mp (of_decide_eq_false hdepth), rfl⟩⟩

theorem parse_of_tooDeep (h : Glob.tooDeep? source.toList = some true) :
    parse source = .error (.tooDeep (stripped source)) := by
  rw [← tooDeep?_stripped] at h
  obtain ⟨g, hglob, hdepth⟩ := Glob.exists_parse_of_tooDeep? h
  unfold parse
  dsimp only
  rw [← stripped, hglob]
  exact if_pos (of_decide_eq_true hdepth)

end InputPattern

namespace ExcludeFilter

variable {source : String}

theorem ofSources_singleton_of_tooDeep?_eq_none (h : Glob.tooDeep? source.toList = none) :
    ofSources [source] = .error (.glob source) :=
  ofSources_eq_error_iff.mpr
    (.inl ⟨source, firstNot_cons_iff.mpr (.inl ⟨Glob.not_parses_of_tooDeep? h, rfl⟩), rfl⟩)

theorem exists_ofSources_singleton (h : Glob.tooDeep? source.toList = some false) :
    ∃ f, ofSources [source] = .ok f := by
  obtain ⟨g, hglob, hdepth⟩ := Glob.exists_parse_of_tooDeep? h
  refine ⟨⟨[g]⟩, ofSources_eq_ok_iff.mpr ⟨.cons hglob .nil, fun g' hg' => ?_⟩⟩
  rw [List.mem_singleton.mp hg']
  exact Nat.not_lt.mp (of_decide_eq_false hdepth)

theorem ofSources_singleton_of_tooDeep (h : Glob.tooDeep? source.toList = some true) :
    ofSources [source] = .error (.glob "combined patterns") := by
  obtain ⟨g, hglob, hdepth⟩ := Glob.exists_parse_of_tooDeep? h
  have hparses : ∀ other ∈ [source], Glob.Parses other := List.forall_mem_singleton.mpr ⟨g, hglob⟩
  exact ofSources_eq_error_iff.mpr
    (.inr ⟨hparses, ⟨source, List.mem_cons_self, g, hglob, of_decide_eq_true hdepth⟩, rfl⟩)

end ExcludeFilter

namespace Resolver

/-! ### One text as an input and as an exclusion -/

theorem ofSources_input_of_error {root source : String} {rest : List String} {fault : Fault}
    (h : InputPattern.parse source = .error fault) :
    ofSources root (source :: rest) [] = .error fault := by
  have hinputs : (source :: rest).mapM InputPattern.parse = .error fault := by
    rw [List.mapM_cons, h]
    rfl
  exact ofSources_eq_error_iff.mpr (.inr ⟨⟨⟨[]⟩, rfl⟩, hinputs⟩)

theorem ofSources_exclude_of_error {root source : String} {fault : Fault}
    (h : ExcludeFilter.ofSources [source] = .error fault) :
    ofSources root [] [source] = .error fault :=
  ofSources_eq_error_iff.mpr (.inl h)

/-- **The same texts are accepted as inputs and as exclusions**, those that are globs and not nested too
deep.  A text that is no glob is refused on both sides, with a fault that names it.  A glob that is nested
too deep is refused as an exclusion; as an input it breaks the program off. -/
theorem ofSources_singleton (root source : String) :
    ((∃ r, ofSources root [source] [] = .ok r) ↔ ∃ r, ofSources root [] [source] = .ok r) ∧
      ((∃ r, ofSources root [source] [] = .ok r) ↔
        ∃ depth, Glob.nesting? source.toList = some depth ∧ depth ≤ Regex.maxDepth) ∧
      (Glob.nesting? source.toList = none →
        ofSources root [source] [] = .error (.glob (InputPattern.stripped source)) ∧
          ofSources root [] [source] = .error (.glob source)) ∧
      ∀ depth, Glob.nesting? source.toList = some depth → Regex.maxDepth < depth →
        ofSources root [source] [] = .error (.tooDeep (InputPattern.stripped source)) ∧
          ofSources root [] [source] = .error (.glob "combined patterns") := by
  have htooDeep : ∀ nesting, Glob.nesting? source.toList = nesting →
      Glob.tooDeep? source.toList = nesting.map fun depth => decide (Regex.maxDepth < depth) :=
    fun nesting h => congrArg _ h
  cases h : Glob.nesting? source.toList with
  | none =>
      have hinput : ofSources root [source] [] = .error (.glob (InputPattern.stripped source)) :=
        ofSources_input_of_error (InputPattern.parse_of_tooDeep?_eq_none (htooDeep none h))
      have hexclude : ofSources root [] [source] = .error (.glob source) :=
        ofSources_exclude_of_error
          (ExcludeFilter.ofSources_singleton_of_tooDeep?_eq_none (htooDeep none h))
      simp [hinput, hexclude]
  | some depth =>
      have hdeep := htooDeep (some depth) h
      rw [Option.map_some] at hdeep
      rcases Nat.lt_or_ge Regex.maxDepth depth with hdepth | hdepth
      · rw [decide_eq_true hdepth] at hdeep
        have hinput : ofSources root [source] [] = .error (.tooDeep (InputPattern.stripped source)) :=
          ofSources_input_of_error (InputPattern.parse_of_tooDeep hdeep)
        have hexclude : ofSources root [] [source] = .error (.glob "combined patterns") :=
          ofSources_exclude_of_error (ExcludeFilter.ofSources_singleton_of_tooDeep hdeep)
        simp [hinput, hexclude, hdepth]
      · rw [decide_eq_false (Nat.not_lt.mpr hdepth)] at hdeep
        obtain ⟨p, hp⟩ := InputPattern.exists_parse_of_tooDeep? hdeep
        obtain ⟨f, hf⟩ := ExcludeFilter.exists_ofSources_singleton hdeep
        have hinput : ∃ r, ofSources root [source] [] = .ok r :=
          ⟨⟨root, [p], ⟨[]⟩⟩, ofSources_eq_ok_iff.mpr ⟨rfl, rfl, .cons hp .nil⟩⟩
        have hexclude : ∃ r, ofSources root [] [source] = .ok r :=
          ⟨⟨root, [], f⟩, ofSources_eq_ok_iff.mpr ⟨rfl, hf, .nil⟩⟩
        simp [hinput, hexclude, hdepth]

/-- Three hundred groups around one letter break the program off as an input, while as an exclusion they
are refused as a glob. -/
theorem ofSources_nested :
    let source := String.ofList (List.replicate 300 '{' ++ 'a' :: List.replicate 300 '}')
    ofSources "/" [source] [] = .error (.tooDeep source) ∧
      ofSources "/" [] [source] = .error (.glob "combined patterns") := by
  intro source
  have hdeep : Glob.tooDeep? source.toList = some true := by
    rw [String.toList_ofList]
    decide +kernel
  have hstripped : InputPattern.stripped source = source :=
    InputPattern.stripped_eq_self (by rw [String.toList_ofList]; decide)
  have hinput := InputPattern.parse_of_tooDeep hdeep
  rw [hstripped] at hinput
  exact ⟨ofSources_input_of_error hinput,
    ofSources_exclude_of_error (ExcludeFilter.ofSources_singleton_of_tooDeep hdeep)⟩

end Resolver

/-! ### Choices within choices -/

/-- A hundred and twenty-five pairs of braces, each the second choice in the one before. -/
def choices : List Char :=
  (List.replicate 125 ['{', 'a', ',']).flatten ++ 'b' :: List.replicate 125 '}'

theorem braces?_choices : Glob.braces? (String.ofList choices).toList = some 125 := by
  rw [String.toList_ofList]
  decide +kernel

theorem tooDeep?_choices : Glob.tooDeep? (String.ofList choices).toList = some true := by
  rw [String.toList_ofList]
  decide +kernel

theorem stripped_choices : InputPattern.stripped (String.ofList choices) = String.ofList choices :=
  InputPattern.stripped_eq_self (by rw [String.toList_ofList]; decide)

theorem parse_choices :
    InputPattern.parse (String.ofList choices) = .error (.tooDeep (String.ofList choices)) := by
  have hparse := InputPattern.parse_of_tooDeep tooDeep?_choices
  rwa [stripped_choices] at hparse

end TextLimits
