import TextLimits.Program
import TextLimits.Proofs.CommandLine.Spelling
import TextLimits.Proofs.Check.Parts

/-! # What the program tells

The exit code and what is printed as diagnosis come from one result (`Program.exitCode_checked`,
`Program.err_checked`): there is no complaint behind the warnings if all files were reported to be in
order, the final message if some file was reported to fail, and a single error message if the check came
to no result (`Program.run_truthful`).  Only an input that is nested too deep breaks the program off, with an
exit code of its own (`Program.exitCode_of_choices`). -/

namespace TextLimits.Program

variable {line : CommandLine} {currentDir : String} {top : Tree} {s : Settings}

/-! ### From the command line to the check -/

/-- The settings of the check that a command line asks for: those that are loaded, with what the command
line changes. -/
def settings (line : CommandLine) (currentDir : String) (top : Tree) : Except Fault Settings :=
  (Settings.load (.ofTree top currentDir) line.config line.noConfig).map (·.overriddenBy line)

theorem check_of_settings (h : settings line currentDir top = .ok s) :
    check line currentDir top = Check.run s currentDir (.still top) := by
  unfold settings at h
  unfold check
  cases hload : Settings.load (.ofTree top currentDir) line.config line.noConfig with
  | error fault =>
      rw [hload] at h
      cases h
  | ok loaded =>
      rw [hload] at h
      obtain rfl : loaded.overriddenBy line = s := Except.ok.inj h
      rfl

theorem check_of_settings_error {fault : Fault} (h : settings line currentDir top = .error fault) :
    check line currentDir top = .fail fault := by
  unfold settings at h
  unfold check
  cases hload : Settings.load (.ofTree top currentDir) line.config line.noConfig with
  | ok loaded =>
      rw [hload] at h
      cases h
  | error e =>
      rw [hload] at h
      obtain rfl : e = fault := Except.error.inj h
      rfl

theorem run_of_parse {arguments : List String} (h : CommandLine.parse arguments = .ok line) :
    run arguments currentDir top = .checked (check line currentDir top) := by
  unfold run
  rw [h]

theorem run_of_parse_error {arguments : List String} {stop : CommandLine.Stop}
    (h : CommandLine.parse arguments = .error stop) : run arguments currentDir top = .stopped stop := by
  unfold run
  rw [h]

theorem settings_ne_tooDeep (pattern : String) :
    settings line currentDir top ≠ .error (.tooDeep pattern) := by
  unfold settings Settings.load Settings.ofFile
  intro h
  split_ifs at h
  · cases h
  split at h
  · split at h
    · cases h
    · split at h
      · cases h
      · cases h
  · cases h

theorem result_check_eq_ok_iff {passed : Bool} :
    (check line currentDir top).result = .ok passed ↔
      ∃ s, settings line currentDir top = .ok s ∧
        (Check.run s currentDir (.still top)).result = .ok passed := by
  cases h : settings line currentDir top with
  | error fault =>
      rw [check_of_settings_error h]
      simp [Transcript.fail, Transcript.ofResult]
  | ok s =>
      rw [check_of_settings h]
      simp

theorem result_check_ne_tooDeep (hdeep : ∀ s, settings line currentDir top = .ok s →
    ∀ source ∈ s.inputs, ¬ InputPattern.TooDeep source) (pattern : String) :
    (check line currentDir top).result ≠ .error (.tooDeep pattern) := by
  cases h : settings line currentDir top with
  | error fault =>
      rw [check_of_settings_error h]
      intro hfault
      obtain rfl : fault = .tooDeep pattern := Except.error.inj hfault
      exact settings_ne_tooDeep pattern h
  | ok s =>
      rw [check_of_settings h]
      exact Check.result_run_ne_tooDeep (hdeep s h) pattern

/-! ### The diagnosis -/

/-- The warnings of the program: one for each ignore pattern that is none, if the check comes to its files. -/
def warned (line : CommandLine) (currentDir : String) (top : Tree) : String :=
  match settings line currentDir top with
  | .ok s => Check.warnings s currentDir
  | .error _ => ""

/-- What stands behind the warnings of a check with some result. -/
def tail : Except Fault Bool → String
  | .ok true => ""
  | .ok false => Check.failureMessage ++ Report.newline
  | .error fault => "Error: " ++ fault.message ++ Report.newline

theorem err_checked (line : CommandLine) (currentDir : String) (top : Tree) :
    (Ending.checked (check line currentDir top)).err =
      warned line currentDir top ++ tail (check line currentDir top).result := by
  unfold Ending.err warned
  cases h : settings line currentDir top with
  | error fault =>
      rw [check_of_settings_error h]
      rfl
  | ok s =>
      obtain ⟨hresult, -, herr⟩ := Check.run_parts s currentDir (.still top)
      rw [check_of_settings h]
      dsimp only
      rw [herr, ← hresult, String.append_assoc]
      unfold Ending.complaint
      rcases (Check.run s currentDir (.still top)).result with fault | _ | _
      · exact congrArg _ String.empty_append
      · exact congrArg _ String.append_empty
      · rfl

theorem head?_append {text : String} {c : Char} (h : text.toList.head? = some c) (rest : String) :
    (text ++ rest).toList.head? = some c := by
  rw [String.toList_append, List.head?_append, h, Option.some_or]

theorem head?_error (message : String) :
    ("Error: " ++ message ++ Report.newline).toList.head? = some 'E' :=
  head?_append (head?_append (by decide) message) Report.newline

theorem head?_failureMessage : (Check.failureMessage ++ Report.newline).toList.head? = some 'O' := by
  decide

/-- The three things that can stand behind the warnings tell the three kinds of results apart. -/
theorem tail_eq_empty_iff {result : Except Fault Bool} : tail result = "" ↔ result = .ok true := by
  rcases result with fault | _ | _
  · refine iff_of_false (fun h => ?_) nofun
    have hhead := head?_error fault.message
    rw [show "Error: " ++ fault.message ++ Report.newline = "" from h] at hhead
    cases hhead
  · exact iff_of_false (by decide) nofun
  · exact iff_of_true rfl rfl

theorem tail_eq_failureMessage_iff {result : Except Fault Bool} :
    tail result = Check.failureMessage ++ Report.newline ↔ result = .ok false := by
  rcases result with fault | _ | _
  · refine iff_of_false (fun h => ?_) nofun
    have hhead := head?_error fault.message
    rw [show "Error: " ++ fault.message ++ Report.newline = _ from h, head?_failureMessage] at hhead
    exact absurd (Option.some.inj hhead) (by decide)
  · exact iff_of_true rfl rfl
  · exact iff_of_false (by decide) nofun

/-! ### The exit code -/

theorem exitCode_checked_eq_zero_iff {t : Transcript Bool} :
    (Ending.checked t).exitCode = 0 ↔ t.result = .ok true := by
  unfold Ending.exitCode
  dsimp only
  split
  · next h => exact iff_of_true rfl h
  · next h => exact iff_of_false (by decide) (by rw [h]; nofun)
  · next h => exact iff_of_false (by decide) (by rw [h]; nofun)
  · next h => exact iff_of_false (by decide) (by rw [h]; nofun)

theorem exitCode_checked {t : Transcript Bool} (h : ∀ pattern, t.result ≠ .error (.tooDeep pattern)) :
    (Ending.checked t).exitCode = 0 ∨ (Ending.checked t).exitCode = 1 := by
  unfold Ending.exitCode
  dsimp only
  split
  · exact .inl rfl
  · exact .inr rfl
  · next hdeep => exact absurd hdeep (h _)
  · exact .inr rfl

theorem exitCode_stopped (stop : CommandLine.Stop) :
    ((Ending.stopped stop).exitCode = 0 ∨ (Ending.stopped stop).exitCode = 1) ∧
      ((Ending.stopped stop).exitCode = 0 ↔ stop = .version ∨ ∃ long, stop = .help long) := by
  cases stop with
  | help long => exact ⟨.inl rfl, iff_of_true rfl (.inr ⟨long, rfl⟩)⟩
  | version => exact ⟨.inl rfl, iff_of_true rfl (.inl rfl)⟩
  | refused r =>
      refine ⟨.inr rfl, iff_of_false (by decide : (1 : Nat) ≠ 0) ?_⟩
      rintro (h | ⟨long, h⟩)
      · cases h
      · cases h

/-! ### The reports -/

/-- All files that a command line leads to have been read, and reported to be in order. -/
def AllInOrder (line : CommandLine) (currentDir : String) (top : Tree) : Prop :=
  ∃ s r, settings line currentDir top = .ok s ∧ s.inputs ≠ [] ∧
    Resolver.ofSources currentDir s.inputs s.excludes = .ok r ∧
    ∀ path ∈ r.resolve top, Check.Readable top currentDir path ∧
      (Check.visit s currentDir top path).Gives true ("OK   " ++ path.text ++ Report.newline) ""

/-- On the first output stands a report that some file failed, behind the reports on the files before it. -/
def HoldsFailure (line : CommandLine) (currentDir : String) (top : Tree) : Prop :=
  ∃ s r before path after texts text rest, settings line currentDir top = .ok s ∧
    Resolver.ofSources currentDir s.inputs s.excludes = .ok r ∧
    r.resolve top = before ++ path :: after ∧
    List.Forall₂ (fun p t => ∃ passed, (Check.visit s currentDir top p).Gives passed t "") before texts ∧
    (∃ passed, (Check.visit s currentDir top path).Gives passed text "") ∧
    "FAIL ".toList <+: text.toList ∧
    (check line currentDir top).textOn .out = String.join texts ++ text ++ rest

theorem result_check_eq_true_iff :
    (check line currentDir top).result = .ok true ↔ AllInOrder line currentDir top := by
  rw [result_check_eq_ok_iff]
  constructor
  · rintro ⟨s, hs, hrun⟩
    obtain ⟨hin, r, hr, hfiles⟩ := Check.result_run_eq_ok_iff.mp hrun
    have hvisits := Check.result_runFiles_eq_true_iff.mp hfiles
    exact ⟨s, r, hs, hin, hr, fun path hpath => ⟨Check.readable_of_visit (hvisits path hpath),
      Check.gives_visit_of_passed (hvisits path hpath)⟩⟩
  · rintro ⟨s, r, hs, hin, hr, hall⟩
    refine ⟨s, hs, Check.result_run_eq_ok_iff.mpr ⟨hin, r, hr, ?_⟩⟩
    exact Check.result_runFiles_eq_true_iff.mpr fun path hpath => (hall path hpath).2.result

theorem result_check_ne_true_of_holdsFailure (h : HoldsFailure line currentDir top) :
    (check line currentDir top).result ≠ .ok true := by
  intro htrue
  obtain ⟨s, r, hs, -, hr, hall⟩ := result_check_eq_true_iff.mp htrue
  obtain ⟨s', r', before, path, after, texts, text, rest, hs', hr', hsplit, -, ⟨passed, hgives⟩,
    hfail, -⟩ := h
  obtain rfl : s = s' := Except.ok.inj (hs.symm.trans hs')
  obtain rfl : r = r' := Except.ok.inj (hr.symm.trans hr')
  have hmem : path ∈ r.resolve top := by simp [hsplit]
  have htext : text = "OK   " ++ path.text ++ Report.newline :=
    hgives.out.symm.trans (hall path hmem).2.out
  have hok : text.toList.head? = some 'O' := by
    rw [htext]
    exact head?_append (head?_append (by decide) path.text) Report.newline
  obtain ⟨more, hmore⟩ := hfail
  have hbegin : "FAIL ".toList.head? = some 'F' := by decide
  rw [← hmore, List.head?_append, hbegin] at hok
  exact absurd (Option.some.inj hok) (by decide)

/-- A check that has not passed has reported a failure. -/
theorem holdsFailure_of_result (h : (check line currentDir top).result = .ok false) :
    HoldsFailure line currentDir top := by
  obtain ⟨s, hs, hrun⟩ := result_check_eq_ok_iff.mp h
  obtain ⟨hin, r, hr, hresult⟩ := Check.result_run_eq_ok_iff.mp hrun
  have hfiles : (Check.runFiles s currentDir (fun _ => top) 0 (r.resolve top)).result = .ok false := hresult
  obtain ⟨before, path, after, texts, rest, hsplit, htexts, hfailed, hout⟩ := Check.exists_failed hfiles
  obtain ⟨details, hfail⟩ := Check.gives_visit_of_failed hfailed
  have hreports : (check line currentDir top).textOn .out =
      (Check.runFiles s currentDir (fun _ => top) 0 (r.resolve top)).textOn .out ++
        Check.summaryAfter s (.ok false) := by
    obtain ⟨hparts, hruns, -⟩ := Check.run_parts s currentDir (.still top)
    rw [check_of_settings hs, hruns, ← hparts, hrun, Check.reporting_of_ofSources hin hr]
    rfl
  have hbegins : "FAIL ".toList <+: ("FAIL " ++ path.text ++ Report.newline ++ details).toList := by
    simp only [String.toList_append, List.append_assoc]
    exact List.prefix_append _ _
  refine ⟨s, r, before, path, after, texts, _, rest ++ Check.summaryAfter s (.ok false), hs, hr, hsplit,
    htexts, ⟨false, hfail⟩, hbegins, ?_⟩
  rw [hreports, hout, hfail.out]
  simp only [String.append_assoc]

/-- The final message is there if the check has come to a result and a report of a failure stands on the first
output. -/
theorem result_check_eq_false_iff :
    (check line currentDir top).result = .ok false ↔
      (∃ passed, (check line currentDir top).result = .ok passed) ∧
        HoldsFailure line currentDir top := by
  constructor
  · exact fun h => ⟨⟨false, h⟩, holdsFailure_of_result h⟩
  · rintro ⟨⟨passed, hpassed⟩, hfailure⟩
    cases passed with
    | false => exact hpassed
    | true => exact absurd hpassed (result_check_ne_true_of_holdsFailure hfailure)

/-- **The exit code and the diagnosis tell the truth together.**  If no input is nested too deep, the exit code
is one of two.  Arguments that are not accepted make it the one of success for the help and the version
alone.  Otherwise the diagnosis is the warnings, and then nothing, the final message or one error message:
nothing, with the exit code of success, if all files that the settings lead to were read and reported to
be in order; and the final message if the check has come to its end and a report of a failure stands on the
first output. -/
theorem run_truthful (arguments : List String) (currentDir : String) (top : Tree)
    (hdeep : ∀ line s, CommandLine.parse arguments = .ok line → settings line currentDir top = .ok s →
      ∀ source ∈ s.inputs, ¬ InputPattern.TooDeep source) :
    ((run arguments currentDir top).exitCode = 0 ∨ (run arguments currentDir top).exitCode = 1) ∧
    (∀ stop, CommandLine.parse arguments = .error stop →
      ((run arguments currentDir top).exitCode = 0 ↔ stop = .version ∨ ∃ long, stop = .help long)) ∧
    ∀ line, CommandLine.parse arguments = .ok line →
      ∃ tail, (run arguments currentDir top).err = warned line currentDir top ++ tail ∧
        (tail = "" ∨ tail = Check.failureMessage ++ Report.newline ∨
          ∃ fault, (check line currentDir top).result = .error fault ∧
            tail = "Error: " ++ fault.message ++ Report.newline) ∧
        ((run arguments currentDir top).exitCode = 0 ↔ tail = "") ∧
        ((run arguments currentDir top).exitCode = 0 ↔ AllInOrder line currentDir top) ∧
        (tail = Check.failureMessage ++ Report.newline ↔
          (∃ passed, (check line currentDir top).result = .ok passed) ∧
            HoldsFailure line currentDir top) := by
  refine ⟨?_, fun stop hstop => ?_, fun line hline => ?_⟩
  · cases harguments : CommandLine.parse arguments with
    | error stop =>
        rw [run_of_parse_error harguments]
        exact (exitCode_stopped stop).1
    | ok line =>
        rw [run_of_parse harguments]
        exact exitCode_checked (result_check_ne_tooDeep fun s hs => hdeep line s harguments hs)
  · rw [run_of_parse_error hstop]
    exact (exitCode_stopped stop).2
  · rw [run_of_parse hline]
    refine ⟨tail (check line currentDir top).result, err_checked line currentDir top, ?_, ?_, ?_, ?_⟩
    · rcases (check line currentDir top).result with fault | _ | _
      · exact .inr (.inr ⟨fault, rfl, rfl⟩)
      · exact .inr (.inl rfl)
      · exact .inl rfl
    · rw [exitCode_checked_eq_zero_iff, tail_eq_empty_iff]
    · rw [exitCode_checked_eq_zero_iff, result_check_eq_true_iff]
    · rw [tail_eq_failureMessage_iff, result_check_eq_false_iff]

/-- The arguments that lead to the settings of the sample. -/
def sampleArguments : List String :=
  ["--no-config", "-i", "src/*.rs", "alias/*", "-e", "**/b.txt", "--ignore-lines-matching", "(",
    "--max-line-length", "1", "--max-lines-in-file", "10"]

/-- The command line that they are. -/
def sampleLine : CommandLine :=
  ⟨["src/*.rs", "alias/*"], ["**/b.txt"], ["("], some 1, some 10, none, true, 0⟩

theorem parse_sampleArguments : CommandLine.parse sampleArguments = .ok sampleLine := by
  cbv

theorem settings_sampleLine (currentDir : String) (top : Tree) :
    settings sampleLine currentDir top = .ok Check.sample := rfl

/-- A file of the sample has a line that is too long, so the program does not end with success. -/
theorem run_truthful_sample :
    (∀ source ∈ Check.sample.inputs, ¬ InputPattern.TooDeep source) ∧
      (run sampleArguments "/" Tree.sample).exitCode = 1 := by
  have hgood : ¬ Resolver.BadSource Check.sample.inputs Check.sample.excludes :=
    Resolver.not_badSource_of_ofSources Resolver.ofSources_sample
  have hdeep : ∀ source ∈ Check.sample.inputs, ¬ InputPattern.TooDeep source := by
    intro source hsource
    apply InputPattern.not_tooDeep_of_compiles
    by_contra hbad
    exact hgood (.inl ⟨source, hsource, hbad⟩)
  obtain ⟨hcode, -, haccepted⟩ := run_truthful sampleArguments "/" Tree.sample (by
    intro line s hline hs
    obtain rfl : sampleLine = line := Except.ok.inj (parse_sampleArguments.symm.trans hline)
    obtain rfl : Check.sample = s := Except.ok.inj ((settings_sampleLine _ _).symm.trans hs)
    exact hdeep)
  obtain ⟨tail, -, -, -, hzero, -⟩ := haccepted sampleLine parse_sampleArguments
  refine ⟨hdeep, hcode.resolve_left fun h => ?_⟩
  obtain ⟨s, r, hs, -, hr, hall⟩ := hzero.mp h
  obtain rfl : Check.sample = s := Except.ok.inj ((settings_sampleLine _ _).symm.trans hs)
  obtain rfl : Resolver.sample = r := Except.ok.inj (Resolver.ofSources_sample.symm.trans hr)
  have hmem : ⟨false, [.name "src", .name "a.rs"]⟩ ∈ Resolver.sample.resolve Tree.sample := by
    rw [Resolver.resolve_sample]
    exact List.mem_cons_self
  obtain ⟨hread, hpassed⟩ := hall _ hmem
  have haccepts : Check.sample.Accepts [['a', 'b']] := by
    rw [← (Check.linesAt_sample hmem).2]
    exact of_decide_eq_true (Except.ok.inj ((Check.gives_visit hread).result.symm.trans hpassed.result))
  have hlong : Check.sample.tooLong ['a', 'b'] = true := by cbv
  rw [haccepts.2 _ List.mem_cons_self] at hlong
  cases hlong

theorem parse_input {text : String} (hplain : CommandLine.Token.ofArgument text = [.plain text])
    (hdashes : text ≠ "--") :
    CommandLine.parse ["--no-config", "-i", text] =
      .ok ⟨[text], [], [], none, none, none, true, 0⟩ := by
  have htokens : CommandLine.Token.ofArguments ["--no-config", "-i", text] =
      [.option .noConfig true, .option .inputs false, .plain text] := by
    have hfirst : CommandLine.Token.ofArgument "--no-config" = [.option .noConfig true] := by decide +kernel
    have hsecond : CommandLine.Token.ofArgument "-i" = [.option .inputs false] := by decide +kernel
    simp only [CommandLine.Token.ofArguments, if_neg hdashes, hfirst, hsecond, hplain]
    rfl
  unfold CommandLine.parse
  rw [htokens]
  rfl

theorem settings_input (text : String) :
    settings ⟨[text], [], [], none, none, none, true, 0⟩ currentDir top =
      .ok { Settings.default with inputs := [text] } := rfl

/-- Choices within choices break the program off, with neither of the two exit codes. -/
theorem exitCode_of_choices :
    ∃ line s, CommandLine.parse ["--no-config", "-i", String.ofList choices] = .ok line ∧
      settings line "/" .empty = .ok s ∧
      (∀ source ∈ s.inputs, Glob.braces? source.toList = some 125) ∧
      (run ["--no-config", "-i", String.ofList choices] "/" .empty).exitCode = 101 := by
  have hparse : CommandLine.parse ["--no-config", "-i", String.ofList choices] =
      .ok ⟨[String.ofList choices], [], [], none, none, none, true, 0⟩ := by
    refine parse_input (CommandLine.Token.ofArgument_plain ?_) fun h => ?_
    · rw [String.toList_ofList]
      decide
    · have hlist := congrArg String.toList h
      rw [String.toList_ofList] at hlist
      exact absurd hlist (by decide)
  have hrun : check ⟨[String.ofList choices], [], [], none, none, none, true, 0⟩ "/" .empty =
      .fail (.tooDeep (String.ofList choices)) := by
    rw [check_of_settings (settings_input _)]
    exact Check.run_of_ofSources_error (List.cons_ne_nil _ _)
      (Resolver.ofSources_input_of_error parse_choices)
  refine ⟨_, _, hparse, settings_input _, List.forall_mem_singleton.mpr braces?_choices, ?_⟩
  rw [run_of_parse hparse, hrun]
  rfl

end TextLimits.Program
