import TextLimits.Proofs.Check.Faults
import TextLimits.Proofs.Check.ReadBack

/-! # The parts of a run

A run is its reports, with the line on ignore patterns behind them on the first output, and on the second
one its warnings and the final message (`Check.run_parts`).  Its result is that of its files: it has passed
if every file has (`Check.result_runFiles_eq_true_iff`), and if it has not, the report on some file that
failed stands on the first output (`Check.exists_failed`). -/

namespace TextLimits.Check

variable {s : Settings} {root : String} {tree : Timeline}

/-! ### Parts -/

/-- The part of a run that inspects the files and reports on them. -/
def reporting (s : Settings) (root : String) (tree : Timeline) : Transcript Bool := do
  if s.inputs.isEmpty then Transcript.fail noInputs
  let resolver ← .ofResult (Resolver.ofSources root s.inputs s.excludes)
  runFiles s root tree.atTurn 0 (resolver.resolve tree.atStart)

/-- The warnings of a run, one for each ignore pattern that is none, if the files can be resolved. -/
def warnings (s : Settings) (root : String) : String :=
  if s.inputs ≠ [] ∧ (Resolver.ofSources root s.inputs s.excludes).isOk = true then
    String.join (s.notCompiling.map warning)
  else ""

/-- What stands on the first output behind the reports of a run with some result. -/
def summaryAfter (s : Settings) : Except Fault Bool → String
  | .ok passed => closing s passed
  | .error _ => ""

/-- What stands on the second output behind the warnings of a run with some result. -/
def verdict : Except Fault Bool → String
  | .ok false => failureMessage ++ Report.newline
  | .ok true | .error _ => ""

theorem reporting_of_no_inputs (hin : s.inputs = []) : reporting s root tree = .fail noInputs := by
  have hinputs : s.inputs.isEmpty = true := List.isEmpty_iff.mpr hin
  unfold reporting
  rw [if_pos hinputs]
  rfl

theorem reporting_of_ofSources_error {fault : Fault} (hin : s.inputs ≠ [])
    (hr : Resolver.ofSources root s.inputs s.excludes = .error fault) :
    reporting s root tree = .fail fault := by
  have hinputs : ¬ s.inputs.isEmpty = true := fun h => hin (List.isEmpty_iff.mp h)
  unfold reporting
  rw [if_neg hinputs, hr]
  rfl

theorem reporting_of_ofSources {r : Resolver} (hin : s.inputs ≠ [])
    (hr : Resolver.ofSources root s.inputs s.excludes = .ok r) :
    reporting s root tree = runFiles s root tree.atTurn 0 (r.resolve tree.atStart) := by
  have hinputs : ¬ s.inputs.isEmpty = true := fun h => hin (List.isEmpty_iff.mp h)
  unfold reporting
  rw [if_neg hinputs, hr]
  rfl

theorem textOn_err_visit (s : Settings) (root : String) (top : Tree) (path : Path) :
    (visit s root top path).textOn .err = "" := by
  by_cases hread : Readable top root path
  · exact (gives_visit hread).err
  · exact (fails_visit hread).err

theorem textOn_err_runFiles (s : Settings) (root : String) (trees : Nat → Tree) (turn : Nat)
    (paths : List Path) : (runFiles s root trees turn paths).textOn .err = "" := by
  induction paths generalizing turn with
  | nil => rfl
  | cons path paths ih =>
      have hvisit := textOn_err_visit s root (trees turn) path
      have hrest := ih (turn + 1)
      rw [runFiles_cons]
      cases hfirst : (visit s root (trees turn) path).result with
      | error fault =>
          rw [Transcript.bind_eq_of_error hfirst]
          exact hvisit
      | ok passed =>
          rw [Transcript.textOn_bind hfirst, hvisit, String.empty_append]
          cases hothers : (runFiles s root trees (turn + 1) paths).result with
          | error fault =>
              rw [Transcript.bind_eq_of_error hothers]
              exact hrest
          | ok others =>
              rw [Transcript.textOn_bind hothers, hrest, String.empty_append]
              rfl

theorem runResolved_parts (s : Settings) (root : String) (trees : Nat → Tree) (paths : List Path) :
    (runResolved s root trees paths).result = (runFiles s root trees 0 paths).result ∧
      (runResolved s root trees paths).textOn .out =
        (runFiles s root trees 0 paths).textOn .out ++
          summaryAfter s (runFiles s root trees 0 paths).result ∧
      (runResolved s root trees paths).textOn .err =
        String.join (s.notCompiling.map warning) ++
          verdict (runFiles s root trees 0 paths).result := by
  have herr := textOn_err_runFiles s root trees 0 paths
  cases hfiles : (runFiles s root trees 0 paths).result with
  | ok passed =>
      have hgives : (runResolved s root trees paths).Gives passed
          ("" ++ ((runFiles s root trees 0 paths).textOn .out ++ closing s passed))
          (String.join (s.notCompiling.map warning) ++
            ("" ++ if passed = false then failureMessage ++ Report.newline else "")) :=
        (gives_warnings s).bind (Transcript.Gives.bind ⟨hfiles, rfl, herr⟩ (gives_ending s passed))
      rw [String.empty_append, String.empty_append] at hgives
      refine ⟨hgives.result, hgives.out, hgives.err.trans ?_⟩
      cases passed <;> rfl
  | error fault =>
      have hending : (do let passed ← runFiles s root trees 0 paths
                         if !passed then conclude s
                         return passed : Transcript Bool).Fails fault
          ((runFiles s root trees 0 paths).textOn .out) "" :=
        Transcript.Fails.bind ⟨hfiles, rfl, herr⟩
      have hfails : (runResolved s root trees paths).Fails fault
          ("" ++ (runFiles s root trees 0 paths).textOn .out)
          (String.join (s.notCompiling.map warning) ++ "") :=
        (gives_warnings s).bind_fails hending
      rw [String.empty_append] at hfails
      exact ⟨hfails.result, hfails.out.trans String.append_empty.symm, hfails.err⟩

/-- **The parts of a run.**  Its result is that of its reports; behind them stands the line on ignore
patterns, and the final message stands behind the warnings. -/
theorem run_parts (s : Settings) (root : String) (tree : Timeline) :
    (run s root tree).result = (reporting s root tree).result ∧
      (run s root tree).textOn .out =
        (reporting s root tree).textOn .out ++ summaryAfter s (reporting s root tree).result ∧
      (run s root tree).textOn .err =
        warnings s root ++ verdict (reporting s root tree).result := by
  by_cases hin : s.inputs = []
  · have hnone : ¬ (s.inputs ≠ [] ∧ (Resolver.ofSources root s.inputs s.excludes).isOk = true) :=
      fun h => h.1 hin
    rw [run_of_no_inputs hin, reporting_of_no_inputs hin, warnings, if_neg hnone]
    exact ⟨rfl, rfl, rfl⟩
  cases hr : Resolver.ofSources root s.inputs s.excludes with
  | error fault =>
      rw [run_of_ofSources_error hin hr, reporting_of_ofSources_error hin hr, warnings, hr,
        if_neg (by simp [Except.isOk, Except.toBool])]
      exact ⟨rfl, rfl, rfl⟩
  | ok r =>
      rw [run_of_ofSources hin hr, reporting_of_ofSources hin hr, warnings, hr,
        if_pos ⟨hin, rfl⟩]
      exact runResolved_parts s root tree.atTurn (r.resolve tree.atStart)

theorem play_run (s : Settings) (root : String) (tree : Timeline) :
    (run s root tree).play .unlimited =
      (⟨Sink.holding ((reporting s root tree).textOn .out ++
          summaryAfter s (reporting s root tree).result),
        Sink.holding (warnings s root ++ verdict (reporting s root tree).result)⟩,
        (reporting s root tree).result) := by
  obtain ⟨hresult, hout, herr⟩ := run_parts s root tree
  rw [Transcript.play_unlimited, hresult, hout, herr]

/-! ### Results -/

theorem exists_resolver_of_ok {passed : Bool} (hok : (run s root tree).result = .ok passed) :
    s.inputs ≠ [] ∧ ∃ r, Resolver.ofSources root s.inputs s.excludes = .ok r := by
  have hin : s.inputs ≠ [] := by
    intro hin
    rw [run_of_no_inputs hin] at hok
    cases hok
  refine ⟨hin, ?_⟩
  cases hr : Resolver.ofSources root s.inputs s.excludes with
  | ok r => exact ⟨r, rfl⟩
  | error fault =>
      rw [run_of_ofSources_error hin hr] at hok
      cases hok

/-- What a run with some result needs: inputs, a resolver, and files with this result. -/
theorem result_run_eq_ok_iff {passed : Bool} :
    (run s root tree).result = .ok passed ↔
      s.inputs ≠ [] ∧ ∃ r, Resolver.ofSources root s.inputs s.excludes = .ok r ∧
        (runFiles s root tree.atTurn 0 (r.resolve tree.atStart)).result = .ok passed := by
  rw [(run_parts s root tree).1]
  constructor
  · intro hok
    obtain ⟨hin, r, hr⟩ := exists_resolver_of_ok ((run_parts s root tree).1.trans hok)
    rw [reporting_of_ofSources hin hr] at hok
    exact ⟨hin, r, hr, hok⟩
  · rintro ⟨hin, r, hr, hfiles⟩
    rw [reporting_of_ofSources hin hr]
    exact hfiles

/-- A run breaks off only at an input that is nested too deep. -/
theorem result_run_ne_tooDeep
    (hdeep : ∀ source ∈ s.inputs, ¬ InputPattern.TooDeep source) (pattern : String) :
    (run s root tree).result ≠ .error (.tooDeep pattern) := by
  intro h
  by_cases hin : s.inputs = []
  · rw [result_of_no_inputs hin] at h
    cases h
  cases hr : Resolver.ofSources root s.inputs s.excludes with
  | error fault =>
      rw [run_of_ofSources_error hin hr] at h
      obtain rfl : fault = .tooDeep pattern := Except.error.inj h
      rcases (Resolver.fault_of_ofSources hr).2 with ⟨_, hglob⟩ | ⟨⟨source, hsource, hbad⟩, -⟩
      · cases hglob
      · exact hdeep source hsource hbad
  | ok r =>
      rw [run_of_ofSources hin hr] at h
      obtain ⟨path, -, hfile⟩ := fault_of_runResolved h
      cases hfile

/-! ### Files -/

variable {top : Tree}

theorem readable_of_visit {path : Path} {passed : Bool}
    (h : (visit s root top path).result = .ok passed) : Readable top root path := by
  by_contra hread
  rw [(fails_visit hread).result] at h
  cases h

theorem gives_visit_of_passed {path : Path} (h : (visit s root top path).result = .ok true) :
    (visit s root top path).Gives true ("OK   " ++ path.text ++ Report.newline) "" := by
  have hgives := gives_visit (s := s) (readable_of_visit h)
  have haccepts : s.Accepts (linesAt top root path) :=
    of_decide_eq_true (Except.ok.inj (hgives.result.symm.trans h))
  rwa [decide_eq_true haccepts, Settings.block, if_pos haccepts] at hgives

theorem gives_visit_of_failed {path : Path} (h : (visit s root top path).result = .ok false) :
    ∃ details, (visit s root top path).Gives false
      ("FAIL " ++ path.text ++ Report.newline ++ details) "" := by
  have hgives := gives_visit (s := s) (readable_of_visit h)
  have hfails : ¬ s.Accepts (linesAt top root path) :=
    of_decide_eq_false (Except.ok.inj (hgives.result.symm.trans h))
  rw [decide_eq_false hfails, Settings.block, if_neg hfails, String.append_assoc] at hgives
  exact ⟨_, hgives⟩

theorem result_runFiles_eq_true_iff {turn : Nat} {paths : List Path} :
    (runFiles s root (fun _ => top) turn paths).result = .ok true ↔
      ∀ path ∈ paths, (visit s root top path).result = .ok true := by
  induction paths generalizing turn with
  | nil => simp [runFiles, pure, Transcript.pure]
  | cons path paths ih =>
      rw [runFiles_cons, Transcript.result_bind_eq_ok_iff, List.forall_mem_cons, ← @ih (turn + 1)]
      constructor
      · rintro ⟨first, hfirst, hrest⟩
        obtain ⟨others, hothers, hboth⟩ := Transcript.result_bind_eq_ok_iff.mp hrest
        obtain ⟨rfl, rfl⟩ := Bool.and_eq_true_iff.mp (Except.ok.inj hboth)
        exact ⟨hfirst, hothers⟩
      · rintro ⟨hfirst, hothers⟩
        exact ⟨true, hfirst, Transcript.result_bind_eq_ok_iff.mpr ⟨true, hothers, rfl⟩⟩

/-- Among files that have not all passed is one that has failed, and its report stands behind the reports on
the files before it. -/
theorem exists_failed {turn : Nat} {paths : List Path}
    (h : (runFiles s root (fun _ => top) turn paths).result = .ok false) :
    ∃ before path after texts rest, paths = before ++ path :: after ∧
      List.Forall₂ (fun p t => ∃ passed, (visit s root top p).Gives passed t "") before texts ∧
      (visit s root top path).result = .ok false ∧
      (runFiles s root (fun _ => top) turn paths).textOn .out =
        String.join texts ++ ((visit s root top path).textOn .out ++ rest) := by
  induction paths generalizing turn with
  | nil => cases h
  | cons path paths ih =>
      rw [runFiles_cons] at h ⊢
      obtain ⟨first, hfirst, hrest⟩ := Transcript.result_bind_eq_ok_iff.mp h
      obtain ⟨others, hothers, hboth⟩ := Transcript.result_bind_eq_ok_iff.mp hrest
      have hvisit : (visit s root top path).Gives first ((visit s root top path).textOn .out) "" :=
        ⟨hfirst, rfl, textOn_err_visit s root top path⟩
      have hothers' : (runFiles s root (fun _ => top) (turn + 1) paths).Gives others
          ((runFiles s root (fun _ => top) (turn + 1) paths).textOn .out) "" :=
        ⟨hothers, rfl, textOn_err_runFiles s root _ (turn + 1) paths⟩
      have hrun : (do let passed ← visit s root top path
                      let others ← runFiles s root (fun _ => top) (turn + 1) paths
                      return passed && others : Transcript Bool).Gives (first && others)
          ((visit s root top path).textOn .out ++
            (runFiles s root (fun _ => top) (turn + 1) paths).textOn .out) ("" ++ "") :=
        hvisit.bind hothers'.bind_pure
      have hout := hrun.out
      cases first with
      | false => exact ⟨[], path, paths, [], _, rfl, .nil, hfirst, hout.trans String.empty_append.symm⟩
      | true =>
          obtain rfl : others = false := Except.ok.inj hboth
          obtain ⟨before, failed, after, texts, rest, rfl, hbefore, hfailed, htexts⟩ := ih hothers
          refine ⟨path :: before, failed, after, _ :: texts, rest, rfl, .cons ⟨true, hvisit⟩ hbefore,
            hfailed, ?_⟩
          rw [hout, htexts, String.join_cons, String.append_assoc]

end TextLimits.Check
