import TextLimits.Proofs.Check.Parts

/-! # Which ignore patterns matter

The reports of a run depend only on the set of ignore patterns that are regular expressions
(`Check.reporting_ignoring`), and the patterns that are none are only warned of (`Check.run_ignoring`). -/

namespace TextLimits

namespace Settings

/-- The same settings with other ignore patterns. -/
def ignoring (s : Settings) (sources : List String) : Settings :=
  { s with ignoreLinesMatching := sources }

theorem mem_compiling_iff {s : Settings} {source : String} :
    source ∈ s.compiling ↔
      source ∈ s.ignoreLinesMatching ∧ (Regex.compile? source).isSome = true := by
  rw [compiling, List.mem_filter]

theorem compiling_ignoring_compiling (s : Settings) :
    (s.ignoring s.compiling).compiling = s.compiling := by
  show s.compiling.filter _ = _
  rw [List.filter_eq_self]
  exact fun source hsource => (mem_compiling_iff.mp hsource).2

theorem notCompiling_ignoring_compiling (s : Settings) :
    (s.ignoring s.compiling).notCompiling = [] := by
  show s.compiling.filter _ = _
  rw [List.filter_eq_nil_iff]
  intro source hsource hnone
  rw [Option.isNone_iff_eq_none] at hnone
  have hsome := (mem_compiling_iff.mp hsource).2
  rw [hnone] at hsome
  cases hsome

theorem exempts_patterns_iff {s : Settings} {line : List Char} :
    s.patterns.exempts line = true ↔
      ∃ source ∈ s.compiling, (Regex.compile? source).any (fun r => r.isMatch line) = true := by
  rw [exempts_patterns, List.any_eq_true]
  constructor
  · rintro ⟨source, hsource, hmatch⟩
    refine ⟨source, mem_compiling_iff.mpr ⟨hsource, ?_⟩, hmatch⟩
    obtain ⟨r, hr, -⟩ := Option.any_eq_true _ _ |>.mp hmatch
    rw [hr]
    rfl
  · rintro ⟨source, hsource, hmatch⟩
    exact ⟨source, (mem_compiling_iff.mp hsource).1, hmatch⟩

section sameCompiling

variable {s : Settings} {sources : List String}
  (h : ∀ source, source ∈ (s.ignoring sources).compiling ↔ source ∈ s.compiling)

include h

/-- The same patterns exempt the same lines, however often and in whatever order they stand. -/
theorem exempts_ignoring : (s.ignoring sources).patterns.exempts = s.patterns.exempts := by
  funext line
  rw [Bool.eq_iff_iff, exempts_patterns_iff, exempts_patterns_iff]
  simp only [h]

theorem inspector_ignoring : (s.ignoring sources).inspector = s.inspector := by
  unfold inspector
  rw [exempts_ignoring h]
  rfl

theorem compiling_ignoring_eq_nil_iff : (s.ignoring sources).compiling = [] ↔ s.compiling = [] := by
  simp only [List.eq_nil_iff_forall_not_mem, h]

end sameCompiling

theorem mem_compiling_ignoring_iff {s : Settings} {sources : List String}
    (h : ∀ source, source ∈ sources ↔ source ∈ s.ignoreLinesMatching) (source : String) :
    source ∈ (s.ignoring sources).compiling ↔ source ∈ s.compiling := by
  rw [mem_compiling_iff, mem_compiling_iff, ← h source]
  rfl

theorem summary_ne_empty (s : Settings) : s.summary ≠ "" := by
  unfold summary
  rw [String.append_assoc, ne_eq, String.append_eq_empty_iff]
  exact fun h => absurd h.1 (by decide)

end Settings

namespace Check

variable {s : Settings} {root : String} {tree : Timeline}

/-! ### Other ignore patterns -/

section sameCompiling

variable {sources : List String}
  (h : ∀ source, source ∈ (s.ignoring sources).compiling ↔ source ∈ s.compiling)

include h

theorem inspect_ignoring (root : String) (top : Tree) (path : Path) :
    inspect (s.ignoring sources) root top path = inspect s root top path := by
  unfold inspect
  rw [Settings.inspector_ignoring h]

theorem visit_ignoring (root : String) (top : Tree) (path : Path) :
    visit (s.ignoring sources) root top path = visit s root top path := by
  unfold visit
  rw [inspect_ignoring h]
  rfl

theorem runFiles_ignoring (root : String) (trees : Nat → Tree) (turn : Nat) (paths : List Path) :
    runFiles (s.ignoring sources) root trees turn paths = runFiles s root trees turn paths := by
  induction paths generalizing turn with
  | nil => rfl
  | cons path paths ih => rw [runFiles_cons, runFiles_cons, visit_ignoring h, ih]

/-- All reports, and the result, depend only on the set of patterns in effect. -/
theorem reporting_ignoring (root : String) (tree : Timeline) :
    reporting (s.ignoring sources) root tree = reporting s root tree := by
  unfold reporting
  simp only [runFiles_ignoring h]
  rfl

theorem summaryAfter_ignoring_eq_empty_iff (result : Except Fault Bool) :
    summaryAfter (s.ignoring sources) result = "" ↔ summaryAfter s result = "" := by
  cases result with
  | error fault => exact Iff.rfl
  | ok passed =>
      simp only [summaryAfter, closing, ne_eq, Settings.compiling_ignoring_eq_nil_iff h]
      split_ifs
      · exact iff_of_false (Settings.summary_ne_empty _) (Settings.summary_ne_empty _)
      · exact Iff.rfl

end sameCompiling

theorem warnings_ignoring_compiling (s : Settings) (root : String) :
    warnings (s.ignoring s.compiling) root = "" := by
  unfold warnings
  rw [Settings.notCompiling_ignoring_compiling]
  exact ite_self _

/-- **Only the set of ignore patterns in effect decides a check.**  Without the patterns that are none, a run
has the same result and writes the same to the first output; from the second one just the warnings on
them are missing.  With the same patterns in another order or number, the report on every file is the
same, and so are the result and the presence of the line on ignore patterns; this line and the warnings
follow the list. -/
theorem run_ignoring (s : Settings) (root : String) (tree : Timeline) :
    (∃ out rest result,
      (run s root tree).play .unlimited =
        (⟨Sink.holding out, Sink.holding (warnings s root ++ rest)⟩, result) ∧
      (run (s.ignoring s.compiling) root tree).play .unlimited =
        (⟨Sink.holding out, Sink.holding rest⟩, result)) ∧
    ∀ sources, (∀ source, source ∈ sources ↔ source ∈ s.ignoreLinesMatching) →
      (∀ top path, visit (s.ignoring sources) root top path = visit s root top path) ∧
      ∃ reports rest result,
        (run s root tree).play .unlimited =
          (⟨Sink.holding (reports ++ summaryAfter s result),
            Sink.holding (warnings s root ++ rest)⟩, result) ∧
        (run (s.ignoring sources) root tree).play .unlimited =
          (⟨Sink.holding (reports ++ summaryAfter (s.ignoring sources) result),
            Sink.holding (warnings (s.ignoring sources) root ++ rest)⟩, result) ∧
        (summaryAfter (s.ignoring sources) result = "" ↔ summaryAfter s result = "") := by
  constructor
  · have hcompiling : ∀ source, source ∈ (s.ignoring s.compiling).compiling ↔ source ∈ s.compiling := by
      simp [Settings.compiling_ignoring_compiling]
    have hkept := play_run (s.ignoring s.compiling) root tree
    have hsummary : summaryAfter (s.ignoring s.compiling) (reporting s root tree).result =
        summaryAfter s (reporting s root tree).result := by
      unfold summaryAfter closing Settings.summary
      rw [Settings.compiling_ignoring_compiling]
    rw [reporting_ignoring hcompiling, warnings_ignoring_compiling, hsummary,
      String.empty_append] at hkept
    exact ⟨_, _, _, play_run s root tree, hkept⟩
  · intro sources hsources
    have hcompiling := Settings.mem_compiling_ignoring_iff hsources
    have hother := play_run (s.ignoring sources) root tree
    rw [reporting_ignoring hcompiling] at hother
    exact ⟨visit_ignoring hcompiling root, _, _, _, play_run s root tree, hother,
      summaryAfter_ignoring_eq_empty_iff hcompiling _⟩

/-- The sample settings with one more ignore pattern, which is a regular expression. -/
def mixed : Settings := sample.ignoring ["b$", "("]

/-- The list can be turned round and a pattern be repeated: what is said of a file stays the same. -/
theorem run_ignoring_mixed :
    (∀ source, source ∈ ["(", "b$", "b$"] ↔ source ∈ mixed.ignoreLinesMatching) ∧
      ∀ path, visit (mixed.ignoring ["(", "b$", "b$"]) "/" Tree.sample path =
        visit mixed "/" Tree.sample path := by
  have hsources : ∀ source, source ∈ ["(", "b$", "b$"] ↔ source ∈ mixed.ignoreLinesMatching := by
    simp [mixed, Settings.ignoring, or_comm]
  exact ⟨hsources, ((run_ignoring mixed "/" (.still Tree.sample)).2 _ hsources).1 Tree.sample⟩

end Check

end TextLimits
