import TextLimits.Check
import TextLimits.Proofs.Inspection.Findings
import TextLimits.Proofs.Inspection.Records
import TextLimits.Proofs.Scan.Resolve
import TextLimits.Proofs.Transcript

/-! # What a check says

A check of a tree that does not change, with files that can all be read, gives one block for each
resolved file, made from its lines alone (`Settings.block`), and then what depends on whether all
files passed (`Check.run_exact`). -/

namespace TextLimits

/-! ### What is true of a file -/

namespace Settings

/-- The ignore patterns that are regular expressions. -/
def compiling (s : Settings) : List String :=
  s.ignoreLinesMatching.filter fun source => (Regex.compile? source).isSome

/-- The ignore patterns that are none. -/
def notCompiling (s : Settings) : List String :=
  s.ignoreLinesMatching.filter fun source => (Regex.compile? source).isNone

/-- Whether a line is too long: it has more characters than allowed, and no ignore pattern that is a
regular expression matches it. -/
def tooLong (s : Settings) (line : List Char) : Bool :=
  decide (s.maxLineLength.toNat < line.length) &&
    !(s.ignoreLinesMatching.any fun source =>
      (Regex.compile? source).any fun r => r.isMatch line)

/-- The numbers and lengths of the lines that are too long. -/
def offending (s : Settings) (ls : List (List Char)) : List (Nat × Nat) :=
  ((ls.zipIdx 1).filter fun l => s.tooLong l.1).map fun l => (l.2, l.1.length)

/-- The lines of a file that passes: not too many, and none of them too long. -/
def Accepts (s : Settings) (ls : List (List Char)) : Prop :=
  ls.length ≤ s.maxLinesInFile.toNat ∧ ∀ line ∈ ls, s.tooLong line = false

instance (s : Settings) (ls : List (List Char)) : Decidable (s.Accepts ls) :=
  inferInstanceAs (Decidable (_ ∧ _))

/-- What is said of a file with some lines. -/
def block (s : Settings) (path : String) (ls : List (List Char)) : String :=
  if s.Accepts ls then "OK   " ++ path ++ Report.newline
  else
    "FAIL " ++ path ++ Report.newline ++
      (if s.offending ls = [] then ""
        else s!"  * The following line(s) have more than allowed {s.maxLineLength.toNat} characters:" ++
          Report.newline ++ String.join ((s.offending ls).map fun l =>
            s!"    * Line {l.1}: {l.2} characters" ++ Report.newline)) ++
      if s.maxLinesInFile.toNat < ls.length then
        s!"  * The file is too long. It contains {ls.length} line(s), " ++
          s!"but only {s.maxLinesInFile.toNat} line(s) are allowed." ++ Report.newline
      else ""

variable (s : Settings)

theorem exempts_patterns (line : List Char) :
    s.patterns.exempts line = s.ignoreLinesMatching.any fun source =>
      (Regex.compile? source).any fun r => r.isMatch line := by
  unfold patterns IgnorePatterns.ofSources IgnorePatterns.exempts
  dsimp only
  rw [List.any_filterMap]
  rfl

theorem isLong_inspector (line : List Char) : s.inspector.isLong line = s.tooLong line := by
  unfold Inspector.isLong tooLong
  rw [← exempts_patterns]
  rfl

theorem findings_inspector (ls : List (List Char)) : s.inspector.findings 1 ls = s.offending ls := by
  unfold Inspector.findings offending
  simp only [isLong_inspector]

theorem offending_eq_nil_iff (ls : List (List Char)) :
    s.offending ls = [] ↔ ∀ line ∈ ls, s.tooLong line = false := by
  rw [← findings_inspector, Inspector.findings_eq_nil_iff]
  simp only [isLong_inspector]

theorem longLines_isEmpty_iff (ls : List (List Char)) :
    (s.inspector.inspectLines ls).longLines.isEmpty = true ↔ s.offending ls = [] := by
  rw [← findings_inspector, ← Inspector.longLines_inspectLines, List.isEmpty_iff,
    List.map_eq_nil_iff]

theorem isClean_inspectLines (ls : List (List Char)) :
    (s.inspector.inspectLines ls).isClean s.limits.lineCount = decide (s.Accepts ls) := by
  rw [Bool.eq_iff_iff, decide_eq_true_iff]
  unfold Record.isClean Accepts
  rw [Bool.and_eq_true, decide_eq_true_iff, longLines_isEmpty_iff, offending_eq_nil_iff,
    Inspector.lineCount_inspectLines, and_comm]
  rfl

theorem text_inspectLines (path : String) (ls : List (List Char)) :
    Report.text path s.limits (s.inspector.inspectLines ls) = s.block path ls := by
  have hlines : (s.inspector.inspectLines ls).longLines.map Report.longLineText =
      (s.offending ls).map fun l => s!"    * Line {l.1}: {l.2} characters" ++ Report.newline := by
    rw [← findings_inspector, ← Inspector.longLines_inspectLines, List.map_map]
    rfl
  have hcount := s.inspector.lineCount_inspectLines ls
  unfold Report.text block Report.longLinesText Report.lineCountText Report.lineCountSentence
  simp only [isClean_inspectLines, decide_eq_true_iff, longLines_isEmpty_iff, hlines, hcount]
  rfl

theorem fault?_inspectLines (ls : List (List Char)) :
    Report.fault? s.limits (s.inspector.inspectLines ls) = none :=
  s.inspector.fault?_inspectLines s.limits.lineCount ls

theorem gives_reportOn (path : String) (ls : List (List Char)) :
    (Report.on path s.limits (s.inspector.inspectLines ls)).Gives (decide (s.Accepts ls))
      (s.block path ls) "" := by
  have hgives := Report.gives_on path (s.fault?_inspectLines ls)
  rwa [text_inspectLines, isClean_inspectLines] at hgives

theorem sources_patterns : s.patterns.sources = s.compiling := by
  unfold patterns IgnorePatterns.ofSources IgnorePatterns.sources compiling
  dsimp only
  induction s.ignoreLinesMatching with
  | nil => rfl
  | cons source sources ih =>
      cases h : Regex.compile? source with
      | none => rw [List.filterMap_cons_none h, ih, List.filter_cons_of_neg (by simp [h])]
      | some r =>
          have hsource : r.source = source := by
            obtain ⟨program, -, rfl⟩ := Option.map_eq_some_iff.mp h
            rfl
          rw [List.filterMap_cons_some h, List.map_cons, ih, List.filter_cons_of_pos (by simp [h]),
            hsource]

theorem patterns_isEmpty_iff : s.patterns.isEmpty = true ↔ s.compiling = [] := by
  rw [← sources_patterns]
  unfold IgnorePatterns.isEmpty IgnorePatterns.sources
  rw [List.isEmpty_iff, List.map_eq_nil_iff]

/-- The line that tells which ignore patterns were in effect. -/
def summary (s : Settings) : String :=
  "The --ignore-lines-matching was set to: " ++ " ".intercalate s.compiling ++ Report.newline

theorem summary_patterns : s.patterns.summary = s.summary := by
  unfold IgnorePatterns.summary IgnorePatterns.display summary
  rw [sources_patterns]

end Settings

/-! ### The run -/

namespace Check

variable {s : Settings} {root : String} {top : Tree}

/-- The lines of the file that a path leads to from the root. -/
def linesAt (top : Tree) (root : String) (path : Path) : List (List Char) :=
  match top.file? (Path.stepsFrom root path) with
  | some file => lines LineEnding.chars (Utf8.decodeLossy file.content)
  | none => []

/-- From a root, a path leads to a file that can be read to its end. -/
def Readable (top : Tree) (root : String) (path : Path) : Prop :=
  ∃ file, top.file? (Path.stepsFrom root path) = some file ∧ file.breaksOff = false

theorem inspect_of_readable {path : Path} (h : Readable top root path) :
    inspect s root top path = .ok (s.inspector.inspectLines (linesAt top root path)) := by
  obtain ⟨file, hfile, hread⟩ := h
  unfold inspect linesAt
  rw [hfile]
  dsimp only
  rw [hread, if_neg Bool.false_ne_true, Inspector.inspectStream_eq_inspectLines,
    List.flatten_singleton, lines_decodeLossy]
  rfl

theorem inspect_of_not_readable {path : Path} (h : ¬ Readable top root path) :
    inspect s root top path = .error (.fileRead (Path.joinText root path.text)) := by
  unfold inspect
  cases hfile : top.file? (Path.stepsFrom root path) with
  | none => rfl
  | some file =>
      have hbreaks : file.breaksOff = true := by
        by_contra hread
        exact h ⟨file, hfile, Bool.eq_false_of_not_eq_true hread⟩
      dsimp only
      rw [if_pos hbreaks]
      rfl

/-! ### One file -/

/-- Inspects a file and reports on it. -/
def visit (s : Settings) (root : String) (top : Tree) (path : Path) : Transcript Bool := do
  let record ← .ofResult (inspect s root top path)
  Report.on path.text s.limits record

theorem gives_visit {path : Path} (h : Readable top root path) :
    (visit s root top path).Gives (decide (s.Accepts (linesAt top root path)))
      (s.block path.text (linesAt top root path)) "" := by
  have hvisit := (Transcript.gives_ofResult (inspect_of_readable (s := s) h)).bind
    (s.gives_reportOn path.text (linesAt top root path))
  rwa [String.empty_append, String.empty_append] at hvisit

theorem fails_visit {path : Path} (h : ¬ Readable top root path) :
    (visit s root top path).Fails (.fileRead (Path.joinText root path.text)) "" "" :=
  (Transcript.fails_ofResult (inspect_of_not_readable h)).bind

/-! ### One file after another -/

variable {trees : Nat → Tree} {paths : List Path} {turn : Nat}

theorem runFiles_cons (path : Path) (paths : List Path) :
    runFiles s root trees turn (path :: paths) = do
      let passed ← visit s root (trees turn) path
      let others ← runFiles s root trees (turn + 1) paths
      return passed && others := by
  unfold visit
  rw [runFiles]
  cases inspect s root (trees turn) path with
  | ok record => rfl
  | error fault => rfl

/-- What is said of files, each as it is when it has its turn. -/
def blocks (s : Settings) (root : String) (trees : Nat → Tree) (turn : Nat) (paths : List Path) :
    List String :=
  (paths.zipIdx turn).map fun q => s.block q.1.text (linesAt (trees q.2) root q.1)

/-- Whether all of some files pass, each as it is when it has its turn. -/
def allAccepted (s : Settings) (root : String) (trees : Nat → Tree) (turn : Nat)
    (paths : List Path) : Bool :=
  (paths.zipIdx turn).all fun q => s.Accepts (linesAt (trees q.2) root q.1)

/-- The files are reported on in their order, each by its block, and the run has passed if all of them
have. -/
theorem gives_runFiles_at (h : ∀ q ∈ paths.zipIdx turn, Readable (trees q.2) root q.1) :
    (runFiles s root trees turn paths).Gives (allAccepted s root trees turn paths)
      (String.join (blocks s root trees turn paths)) "" := by
  induction paths generalizing turn with
  | nil => exact Transcript.gives_pure true
  | cons path paths ih =>
      rw [List.zipIdx_cons, List.forall_mem_cons] at h
      have hrun : (do let passed ← visit s root (trees turn) path
                      let others ← runFiles s root trees (turn + 1) paths
                      return passed && others : Transcript Bool).Gives
          (decide (s.Accepts (linesAt (trees turn) root path)) &&
            allAccepted s root trees (turn + 1) paths)
          (s.block path.text (linesAt (trees turn) root path) ++
            String.join (blocks s root trees (turn + 1) paths)) ("" ++ "") :=
        (gives_visit h.1).bind (ih h.2).bind_pure
      rw [runFiles_cons, blocks, List.zipIdx_cons, List.map_cons, String.join_cons]
      exact hrun

/-- A file that cannot be read ends the run: what was said of the files before it stands. -/
theorem fails_runFiles {before after : List Path} {path : Path}
    (hbefore : ∀ q ∈ before.zipIdx turn, Readable (trees q.2) root q.1)
    (hpath : ¬ Readable (trees (turn + before.length)) root path) :
    (runFiles s root trees turn (before ++ path :: after)).Fails
      (.fileRead (Path.joinText root path.text))
      (String.join (blocks s root trees turn before)) "" := by
  induction before generalizing turn with
  | nil =>
      rw [List.nil_append, runFiles_cons]
      exact (fails_visit hpath).bind
  | cons first before ih =>
      rw [List.zipIdx_cons, List.forall_mem_cons] at hbefore
      rw [List.length_cons, Nat.add_comm before.length, ← Nat.add_assoc] at hpath
      have hrun : (do let passed ← visit s root (trees turn) first
                      let others ← runFiles s root trees (turn + 1) (before ++ path :: after)
                      return passed && others : Transcript Bool).Fails
          (.fileRead (Path.joinText root path.text))
          (s.block first.text (linesAt (trees turn) root first) ++
            String.join (blocks s root trees (turn + 1) before)) ("" ++ "") :=
        (gives_visit hbefore.1).bind_fails (ih hbefore.2 hpath).bind
      rw [List.cons_append, runFiles_cons, blocks, List.zipIdx_cons, List.map_cons, String.join_cons]
      exact hrun

theorem readable_of_runFiles {passed : Bool}
    (h : (runFiles s root trees turn paths).result = .ok passed) :
    ∀ q ∈ paths.zipIdx turn, Readable (trees q.2) root q.1 := by
  induction paths generalizing turn passed with
  | nil => simp
  | cons path paths ih =>
      rw [runFiles_cons, Transcript.result_bind_eq_ok_iff] at h
      obtain ⟨first, hfirst, hrest⟩ := h
      obtain ⟨others, hothers, -⟩ := Transcript.result_bind_eq_ok_iff.mp hrest
      rw [List.zipIdx_cons, List.forall_mem_cons]
      refine ⟨?_, ih hothers⟩
      by_contra hpath
      rw [(fails_visit hpath).result] at hfirst
      cases hfirst

theorem gives_runFiles (hfiles : ∀ path ∈ paths, Readable top root path) (turn : Nat) :
    (runFiles s root (fun _ => top) turn paths).Gives
      (decide (∀ path ∈ paths, s.Accepts (linesAt top root path)))
      (String.join (paths.map fun path => s.block path.text (linesAt top root path))) "" := by
  have hturns : ∀ P : Path → Prop, (∀ q ∈ paths.zipIdx turn, P q.1) ↔ ∀ path ∈ paths, P path := by
    intro P
    rw [← List.forall_mem_map (f := Prod.fst), List.zipIdx_map_fst]
  have hblocks : blocks s root (fun _ => top) turn paths =
      paths.map fun path => s.block path.text (linesAt top root path) := by
    conv_rhs => rw [← List.zipIdx_map_fst turn paths, List.map_map]
    rfl
  have hall : allAccepted s root (fun _ => top) turn paths =
      decide (∀ path ∈ paths, s.Accepts (linesAt top root path)) := by
    rw [Bool.eq_iff_iff, decide_eq_true_iff, allAccepted, List.all_eq_true, ← hturns]
    simp only [decide_eq_true_iff]
  rw [← hblocks, ← hall]
  exact gives_runFiles_at ((hturns (Readable top root)).mpr hfiles)

/-- What is said of a pattern that is none. -/
def warning (source : String) : String :=
  "Warning: " ++ (Fault.regex source).message ++ Report.newline

theorem gives_warnings (s : Settings) :
    ((IgnorePatterns.rejected s.ignoreLinesMatching).forM warn).Gives () ""
      (String.join (s.notCompiling.map warning)) := by
  have hwarn : ∀ fault ∈ IgnorePatterns.rejected s.ignoreLinesMatching, (warn fault).Gives () ""
      ("Warning: " ++ fault.message ++ Report.newline) := fun _ _ => Transcript.gives_write_err _
  have hall := Transcript.Gives.forM_err hwarn
  unfold IgnorePatterns.rejected at hall ⊢
  rw [List.map_map] at hall
  exact hall

theorem gives_conclude (s : Settings) :
    (conclude s).Gives () (if s.compiling ≠ [] then s.summary else "")
      (failureMessage ++ Report.newline) := by
  have hmessage := Transcript.gives_write_err (failureMessage ++ Report.newline)
  unfold conclude
  by_cases h : s.compiling = []
  · have hempty : ¬ (!s.patterns.isEmpty) = true := by
      rw [s.patterns_isEmpty_iff.mpr h]
      decide
    rw [if_neg hempty, if_neg (not_not_intro h)]
    exact hmessage
  · have hsome : (!s.patterns.isEmpty) = true := by
      rw [Bool.not_eq_true', Bool.eq_false_iff]
      exact fun hempty => h (s.patterns_isEmpty_iff.mp hempty)
    have hboth : (do Transcript.write .out s.summary
                     Transcript.write .err (failureMessage ++ Report.newline)).Gives ()
        (s.summary ++ "") ("" ++ (failureMessage ++ Report.newline)) :=
      (Transcript.gives_write_out s.summary).bind hmessage
    rw [if_pos hsome, if_pos h, s.summary_patterns]
    rw [String.append_empty, String.empty_append] at hboth
    exact hboth

theorem gives_ending (s : Settings) (passed : Bool) :
    (do if !passed then conclude s
        return passed : Transcript Bool).Gives passed
      (if passed = false ∧ s.compiling ≠ [] then s.summary else "")
      (if passed = false then failureMessage ++ Report.newline else "") := by
  cases passed with
  | true => exact Transcript.gives_pure true
  | false =>
      have h := (gives_conclude s).bind_pure (f := fun _ => false)
      simp only [true_and, if_true]
      exact h

/-! ### From the settings to the files -/

/-- What is done once the files are known. -/
def runResolved (s : Settings) (root : String) (trees : Nat → Tree) (paths : List Path) :
    Transcript Bool := do
  (IgnorePatterns.rejected s.ignoreLinesMatching).forM warn
  let passed ← runFiles s root trees 0 paths
  if !passed then conclude s
  return passed

theorem run_of_no_inputs {tree : Timeline} (hin : s.inputs = []) :
    run s root tree = .fail noInputs := by
  have hinputs : s.inputs.isEmpty = true := List.isEmpty_iff.mpr hin
  unfold run
  rw [if_pos hinputs]
  rfl

theorem run_of_ofSources_error {tree : Timeline} {fault : Fault} (hin : s.inputs ≠ [])
    (hr : Resolver.ofSources root s.inputs s.excludes = .error fault) :
    run s root tree = .fail fault := by
  have hinputs : ¬ s.inputs.isEmpty = true := fun h => hin (List.isEmpty_iff.mp h)
  unfold run
  rw [if_neg hinputs, hr]
  rfl

theorem run_of_ofSources {tree : Timeline} {r : Resolver} (hin : s.inputs ≠ [])
    (hr : Resolver.ofSources root s.inputs s.excludes = .ok r) :
    run s root tree = runResolved s root tree.atTurn (r.resolve tree.atStart) := by
  have hinputs : ¬ s.inputs.isEmpty = true := fun h => hin (List.isEmpty_iff.mp h)
  unfold run
  rw [if_neg hinputs, hr]
  rfl

/-- Files that can all be read when they have their turn make a run that comes to its end. -/
theorem gives_runResolved {trees : Nat → Tree} {paths : List Path}
    (h : ∀ q ∈ paths.zipIdx, Readable (trees q.2) root q.1) :
    (runResolved s root trees paths).Gives (allAccepted s root trees 0 paths)
      (String.join (blocks s root trees 0 paths) ++
        if allAccepted s root trees 0 paths = false ∧ s.compiling ≠ [] then s.summary else "")
      (String.join (s.notCompiling.map warning) ++
        if allAccepted s root trees 0 paths = false then failureMessage ++ Report.newline else "") := by
  have hrun : (runResolved s root trees paths).Gives (allAccepted s root trees 0 paths)
      ("" ++ (String.join (blocks s root trees 0 paths) ++
        if allAccepted s root trees 0 paths = false ∧ s.compiling ≠ [] then s.summary else ""))
      (String.join (s.notCompiling.map warning) ++ ("" ++
        if allAccepted s root trees 0 paths = false then failureMessage ++ Report.newline else "")) :=
    (gives_warnings s).bind ((gives_runFiles_at h).bind (gives_ending s _))
  rwa [String.empty_append, String.empty_append] at hrun

/-- **A completed run says exactly what is true of the files.**  It has passed if every resolved file
has, writes the block of each resolved file in their order, and the line on ignore patterns only if it
has not passed and some are in effect; on the other output stand the warnings on ignore patterns, and
the final message only if it has not passed. -/
theorem run_exact {r : Resolver} (hin : s.inputs ≠ [])
    (hr : Resolver.ofSources root s.inputs s.excludes = .ok r)
    (hread : ∀ path ∈ r.resolve top, ∀ file,
      top.file? (Path.stepsFrom root path) = some file → file.breaksOff = false) :
    (∀ path ∈ r.resolve top, (top.file? (Path.stepsFrom root path)).isSome = true) ∧
      ∃ passed : Bool,
        (passed = true ↔ ∀ path ∈ r.resolve top, s.Accepts (linesAt top root path)) ∧
        (run s root (.still top)).play Outputs.unlimited =
          (⟨Sink.holding (String.join ((r.resolve top).map fun path =>
                s.block path.text (linesAt top root path)) ++
              if passed = false ∧ s.compiling ≠ [] then s.summary else ""),
            Sink.holding (String.join (s.notCompiling.map warning) ++
              if passed = false then failureMessage ++ Report.newline else "")⟩,
            .ok passed) := by
  have hfiles : ∀ path ∈ r.resolve top, ∃ file,
      top.file? (Path.stepsFrom root path) = some file ∧ file.breaksOff = false := by
    intro path hpath
    obtain ⟨file, hfile⟩ := Resolver.exists_file_of_mem_resolve hr hpath
    have hfile? := Tree.file?_eq_some_iff.mpr hfile
    exact ⟨file, hfile?, hread path hpath file hfile?⟩
  refine ⟨fun path hpath => ?_, decide (∀ path ∈ r.resolve top, s.Accepts (linesAt top root path)),
    decide_eq_true_iff, ?_⟩
  · obtain ⟨file, hfile, -⟩ := hfiles path hpath
    rw [hfile]
    rfl
  apply Transcript.Gives.play
  have hreports := gives_runFiles (s := s) hfiles 0
  generalize decide (∀ path ∈ r.resolve top, s.Accepts (linesAt top root path)) = passed
    at hreports ⊢
  have hinputs : ¬ s.inputs.isEmpty = true := fun h => hin (List.isEmpty_iff.mp h)
  have hrun : (run s root (.still top)).Gives passed
      ("" ++ ("" ++ (String.join ((r.resolve top).map fun path =>
          s.block path.text (linesAt top root path)) ++
        if passed = false ∧ s.compiling ≠ [] then s.summary else "")))
      ("" ++ (String.join (s.notCompiling.map warning) ++
        ("" ++ if passed = false then failureMessage ++ Report.newline else ""))) := by
    unfold run
    rw [if_neg hinputs]
    exact (Transcript.gives_ofResult hr).bind
      ((gives_warnings s).bind (hreports.bind (gives_ending s passed)))
  simpa only [String.empty_append] using hrun

/-- Settings that the file of the sample tree does not satisfy, with a pattern that is none. -/
def sample : Settings := ⟨["src/*.rs", "alias/*"], ["**/b.txt"], ["("], 1, 10⟩

/-- What is said of the file of the sample tree under a path. -/
def sampleBlock (path : String) : String :=
  "FAIL " ++ path ++ "\n" ++
    "  * The following line(s) have more than allowed 1 characters:\n    * Line 1: 2 characters\n"

theorem linesAt_sample {path : Path} (h : path ∈ Resolver.sample.resolve Tree.sample) :
    Tree.sample.file? (Path.stepsFrom "/" path) = some ⟨[97, 98, 10], false⟩ ∧
      linesAt Tree.sample "/" path = [['a', 'b']] := by
  rw [Resolver.resolve_sample, List.mem_cons, List.mem_singleton] at h
  rcases h with rfl | rfl
  · exact ⟨by cbv, by cbv⟩
  · exact ⟨by cbv, by cbv⟩

theorem block_sample (path : String) : sample.block path [['a', 'b']] = sampleBlock path := by
  have hoffending : sample.offending [['a', 'b']] = [(1, 2)] := by cbv
  have hfails : ¬ sample.Accepts [['a', 'b']] := by
    intro h
    rw [(sample.offending_eq_nil_iff _).mpr h.2] at hoffending
    cases hoffending
  have hcount : ¬ sample.maxLinesInFile.toNat < [['a', 'b']].length := by decide
  unfold Settings.block sampleBlock
  rw [if_neg hfails, if_neg hcount, hoffending, if_neg (by simp), String.append_empty]
  congr 1

theorem patterns_sample : sample.compiling = [] ∧ sample.notCompiling = ["("] :=
  ⟨by cbv, by cbv⟩

theorem run_exact_sample :
    (run sample "/" (.still Tree.sample)).play Outputs.unlimited =
      (⟨Sink.holding (sampleBlock "src/a.rs" ++ sampleBlock "alias/a.rs"),
        Sink.holding (warning "(" ++ "One or more input files failed the checks.\n")⟩,
        .ok false) := by
  have hread : ∀ path ∈ Resolver.sample.resolve Tree.sample, ∀ file,
      Tree.sample.file? (Path.stepsFrom "/" path) = some file → file.breaksOff = false := by
    intro path hpath file hfile
    rw [(linesAt_sample hpath).1] at hfile
    cases hfile
    rfl
  obtain ⟨-, passed, hpassed, hplay⟩ :=
    run_exact (s := sample) (by decide) Resolver.ofSources_sample hread
  have hfalse : passed = false := by
    rw [Bool.eq_false_iff]
    intro htrue
    have hmem : ⟨false, [.name "src", .name "a.rs"]⟩ ∈ Resolver.sample.resolve Tree.sample := by
      rw [Resolver.resolve_sample]
      exact List.mem_cons_self
    have haccepts := hpassed.mp htrue _ hmem
    rw [(linesAt_sample hmem).2] at haccepts
    have hlong : sample.tooLong ['a', 'b'] = true := by cbv
    rw [haccepts.2 _ List.mem_cons_self] at hlong
    cases hlong
  have hblocks : ((Resolver.sample.resolve Tree.sample).map fun path =>
      sample.block path.text (linesAt Tree.sample "/" path)) =
      (Resolver.sample.resolve Tree.sample).map fun path => sampleBlock path.text :=
    List.map_congr_left fun path hpath => by rw [(linesAt_sample hpath).2, block_sample]
  have hmessage : failureMessage ++ Report.newline =
      "One or more input files failed the checks.\n" := by cbv
  have hsrc : (Path.mk false [.name "src", .name "a.rs"]).text = "src/a.rs" := by decide
  have halias : (Path.mk false [.name "alias", .name "a.rs"]).text = "alias/a.rs" := by decide
  rw [hplay, hfalse, hblocks, Resolver.resolve_sample, patterns_sample.1, patterns_sample.2, hmessage]
  simp only [List.map_cons, List.map_nil, String.join_cons, String.join_nil, hsrc, halias, ne_eq,
    not_true_eq_false, and_false, if_false, if_true, String.append_empty]

end Check

end TextLimits
