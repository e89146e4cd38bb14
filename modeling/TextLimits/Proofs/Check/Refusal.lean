import TextLimits.Proofs.Check.Faults
import TextLimits.Proofs.Check.World
import TextLimits.Proofs.Scan.Blame

/-! # Checks that are refused

A check without inputs, or with a source that is no glob, comes to an end before it has done anything
(`Check.EndsUntouched`): nothing is written, not even a warning, the tree is not looked through and no file is
opened.  Want of inputs comes first, and then the sources decide alone which of them is named
(`Check.run_refused`). -/

namespace TextLimits.Check

variable {s : Settings} {root pattern : String} {tree : Timeline}

/-- A check ends in a fault and leaves everything as it was, whatever the tree is and becomes, and whatever the
outputs do; and so it does in any world, which would change with every access to it. -/
def EndsUntouched (s : Settings) (root : String) (fault : Fault) : Prop :=
  (∀ (tree : Timeline) (σ : Type) (offer : σ → Channel → String → σ × Option String) (d : σ),
    (run s root tree).playOn offer d = (d, .error fault)) ∧
  ∀ (σ : Type) (w : World σ) (d : σ), runIn w s root d = (d, .error fault)

theorem endsUntouched_of_no_inputs (hin : s.inputs = []) : EndsUntouched s root noInputs := by
  refine ⟨fun tree σ offer d => ?_, fun σ w d => ?_⟩
  · rw [run_of_no_inputs hin]
    rfl
  · rw [runIn_of_no_inputs hin]
    rfl

theorem endsUntouched_of_ofSources_error {fault : Fault} (hin : s.inputs ≠ [])
    (hr : Resolver.ofSources root s.inputs s.excludes = .error fault) : EndsUntouched s root fault := by
  refine ⟨fun tree σ offer d => ?_, fun σ w d => ?_⟩
  · rw [run_of_ofSources_error hin hr]
    rfl
  · rw [runIn_of_ofSources_error hin hr]
    rfl

/-! ### Results -/

theorem result_run_eq_config_iff :
    (∃ reason, (run s root tree).result = .error (.config reason)) ↔ s.inputs = [] := by
  constructor
  · rintro ⟨reason, h⟩
    by_contra hin
    cases hr : Resolver.ofSources root s.inputs s.excludes with
    | error fault =>
        rw [run_of_ofSources_error hin hr] at h
        obtain rfl : fault = .config reason := Except.error.inj h
        rcases (Resolver.fault_of_ofSources hr).2 with ⟨_, hglob⟩ | ⟨-, _, hdeep⟩
        · cases hglob
        · cases hdeep
    | ok r =>
        rw [run_of_ofSources hin hr] at h
        obtain ⟨path, -, hfile⟩ := fault_of_runResolved h
        cases hfile
  · exact fun hin => ⟨_, result_of_no_inputs hin⟩

theorem result_run_eq_glob_iff (hin : s.inputs ≠ []) :
    (run s root tree).result = .error (.glob pattern) ↔
      Resolver.ofSources root s.inputs s.excludes = .error (.glob pattern) := by
  cases hr : Resolver.ofSources root s.inputs s.excludes with
  | error fault =>
      rw [run_of_ofSources_error hin hr]
      exact ⟨fun h => congrArg Except.error (Except.error.inj h),
        fun h => congrArg Except.error (Except.error.inj h)⟩
  | ok r =>
      rw [run_of_ofSources hin hr]
      refine iff_of_false (fun h => ?_) nofun
      obtain ⟨path, -, hfile⟩ := fault_of_runResolved h
      cases hfile

/-- **Failures before the scan are complete and leave no trace.**  Whatever becomes of the tree and whatever the
outputs do, a check fails for its settings if and only if there are no inputs.  Otherwise, if no input is nested
too deep, it fails for a glob if and only if some exclusion or input is none, or some exclusion is nested too
deep, and the glob that it names is the first exclusion that is none, else the exclusions together, else the
first input that is none.  In all these cases nothing is written, the tree is not looked through and no file is
opened. -/
theorem run_refused (s : Settings) (root : String) :
    (∀ (tree : Timeline) (σ : Type) (offer : σ → Channel → String → σ × Option String) (d : σ),
      (∃ reason, ((run s root tree).playOn offer d).2 = .error (.config reason)) ↔ s.inputs = []) ∧
    (s.inputs = [] → EndsUntouched s root noInputs) ∧
    (s.inputs ≠ [] → (∀ source ∈ s.inputs, ¬ InputPattern.TooDeep source) →
      (∀ (tree : Timeline) (σ : Type) (offer : σ → Channel → String → σ × Option String) (d : σ)
        (pattern : String), ((run s root tree).playOn offer d).2 = .error (.glob pattern) ↔
          Resolver.Blames s.inputs s.excludes pattern) ∧
      ((∃ pattern, Resolver.Blames s.inputs s.excludes pattern) ↔
        (∃ source ∈ s.excludes, ¬ Glob.Parses source) ∨ (∃ source ∈ s.excludes, Glob.TooDeep source) ∨
          ∃ source ∈ s.inputs, ¬ Glob.Parses (InputPattern.stripped source)) ∧
      ∀ pattern, Resolver.Blames s.inputs s.excludes pattern → EndsUntouched s root (.glob pattern)) := by
  have huntouched : s.inputs = [] → EndsUntouched s root noInputs := endsUntouched_of_no_inputs
  refine ⟨fun tree σ offer d => ⟨?_, fun hin => ?_⟩, huntouched, fun hin hdeep => ?_⟩
  · rintro ⟨reason, h⟩
    exact result_run_eq_config_iff.mp ⟨reason, Transcript.result_of_playOn offer h nofun⟩
  · rw [(huntouched hin).1 tree σ offer d]
    exact ⟨_, rfl⟩
  · have hblamed : ∀ pattern, Resolver.Blames s.inputs s.excludes pattern →
        EndsUntouched s root (.glob pattern) := fun pattern hblames =>
      endsUntouched_of_ofSources_error hin ((Resolver.ofSources_eq_glob_iff hdeep).mpr hblames)
    refine ⟨fun tree σ offer d pattern => ⟨fun h => ?_, fun hblames => ?_⟩, Resolver.exists_blames_iff,
      hblamed⟩
    · have hresult := (result_run_eq_glob_iff hin).mp (Transcript.result_of_playOn offer h nofun)
      exact (Resolver.ofSources_eq_glob_iff hdeep).mp hresult
    · rw [(hblamed pattern hblames).1 tree σ offer d]

/-- Settings with an input, two exclusions and an ignore pattern that cannot be read. -/
def refusedSample : Settings := ⟨["./a[", "*.rs"], ["b", "c[", "["], ["("], 1, 1⟩

/-- Of all that is wrong with the settings, the first exclusion that is no glob is named. -/
theorem run_refused_sample :
    refusedSample.inputs ≠ [] ∧
      (∀ source ∈ refusedSample.inputs, ¬ InputPattern.TooDeep source) ∧
      EndsUntouched refusedSample "/" (.glob "c[") := by
  have hin : refusedSample.inputs ≠ [] := by decide
  have hdeep : ∀ source ∈ refusedSample.inputs, ¬ InputPattern.TooDeep source := by
    have hnone : ¬ Glob.Parses (InputPattern.stripped "./a[") := by
      rw [Glob.parses_iff]
      decide +kernel
    have hstar : Glob.parse (InputPattern.stripped "*.rs") = .ok ⟨"*.rs", .star :: ".rs".toList.map .literal⟩ :=
      Glob.parse_eq_ok_iff.mpr ⟨by decide +kernel, by rfl⟩
    refine List.forall_mem_cons.mpr ⟨fun ⟨g, hg, _⟩ => hnone ⟨g, hg⟩, List.forall_mem_singleton.mpr ?_⟩
    exact Glob.not_tooDeep_of_compiles ⟨_, hstar, by decide⟩
  have hblames : Resolver.Blames refusedSample.inputs refusedSample.excludes "c[" := by
    refine .exclude ⟨["b"], ["["], rfl, List.forall_mem_singleton.mpr ?_, ?_⟩
    · exact Glob.parses_iff.mpr (by decide +kernel)
    · rw [Glob.parses_iff]
      decide +kernel
  obtain ⟨-, -, hrefused⟩ := run_refused refusedSample "/"
  obtain ⟨-, -, huntouched⟩ := hrefused hin hdeep
  exact ⟨hin, hdeep, huntouched "c[" hblames⟩

/-- Of choices within choices and a text that is no glob, the second is to be named, but the check breaks off
at the first. -/
theorem endsUntouched_of_choices :
    let s : Settings := { Settings.default with inputs := [String.ofList choices, "["] }
    (∀ source ∈ s.inputs, ∀ n, Glob.braces? source.toList = some n → n ≤ 250) ∧
      Resolver.Blames s.inputs s.excludes "[" ∧ EndsUntouched s "/" (.tooDeep (String.ofList choices)) := by
  intro s
  have hnone : Glob.braces? "[".toList = none := by decide +kernel
  have hstripped : InputPattern.stripped "[" = "[" := by decide +kernel
  refine ⟨?_, ?_, endsUntouched_of_ofSources_error (s := s) (List.cons_ne_nil _ _)
    (Resolver.ofSources_input_of_error parse_choices)⟩
  · intro source hsource n hn
    rcases List.mem_pair.mp hsource with rfl | rfl
    · rw [braces?_choices] at hn
      cases hn
      decide
    · rw [hnone] at hn
      cases hn
  · have hchoices : Glob.Parses (InputPattern.stripped (String.ofList choices)) := by
      rw [stripped_choices]
      exact (Glob.exists_parse_of_tooDeep? tooDeep?_choices).imp fun _ hg => hg.1
    have hbracket : ¬ Glob.Parses (InputPattern.stripped "[") := by
      rw [Glob.parses_iff]
      decide +kernel
    have hinput : Resolver.Blames s.inputs s.excludes (InputPattern.stripped "[") :=
      .input (List.forall_mem_nil _)
        ⟨[String.ofList choices], [], rfl, List.forall_mem_singleton.mpr hchoices, hbracket⟩
    rwa [hstripped] at hinput

end TextLimits.Check
