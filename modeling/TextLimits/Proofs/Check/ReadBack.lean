import Mathlib
import TextLimits.Proofs.Check
import TextLimits.Proofs.Report
import TextLimits.Proofs.Scan.Resolution

/-! # Reading back what a check says

The first output of a run that has come to its end is the text of one report after another, and then
perhaps the line on ignore patterns (`Check.textOn_out_of_ok`).  With the same settings, two such runs
that write the same have found the same (`Check.run_read_back`): the paths of their files are known by
their texts (`Path.text_inj`), and the reports by theirs (`Report.texts_append_inj`).  The first of these
rests on names being texts, which are printed as they are. -/

namespace TextLimits.Check

variable {s : Settings} {root : String} {tree : Timeline} {r : Resolver} {passed : Bool}

/-- The path and the record of each of some files, each as it is when it has its turn. -/
def reports (s : Settings) (root : String) (trees : Nat → Tree) (paths : List Path) :
    List (String × Record) :=
  paths.zipIdx.map fun q => (q.1.text, s.inspector.inspectLines (linesAt (trees q.2) root q.1))

theorem length_reports (trees : Nat → Tree) (paths : List Path) :
    (reports s root trees paths).length = paths.length := by
  rw [reports, List.length_map, List.length_zipIdx]

theorem getElem_reports {trees : Nat → Tree} {paths : List Path} {i : Nat} (hi : i < paths.length)
    (h : i < (reports s root trees paths).length) :
    (reports s root trees paths)[i] =
      (paths[i].text, s.inspector.inspectLines (linesAt (trees i) root paths[i])) := by
  simp only [reports, List.getElem_map, List.getElem_zipIdx, Nat.zero_add]

theorem not_mem_of_mem_reports {trees : Nat → Tree} {paths : List Path} {c : Char}
    (h : ∀ path ∈ paths, c ∉ path.text.toList) :
    ∀ report ∈ reports s root trees paths, c ∉ report.1.toList := by
  intro report hreport
  obtain ⟨q, hq, rfl⟩ := List.mem_map.mp hreport
  exact h q.1 (List.fst_mem_of_mem_zipIdx hq)

theorem join_blocks (trees : Nat → Tree) (paths : List Path) :
    String.join (blocks s root trees 0 paths) = Report.texts s.limits (reports s root trees paths) := by
  unfold blocks Report.texts reports
  rw [List.map_map]
  congr 2
  funext q
  exact (s.text_inspectLines q.1.text _).symm

/-- Whether all of some reports are on files that have passed. -/
def allClean (s : Settings) (reports : List (String × Record)) : Bool :=
  reports.all fun report => report.2.isClean s.limits.lineCount

theorem allAccepted_eq_allClean (trees : Nat → Tree) (paths : List Path) :
    allAccepted s root trees 0 paths = allClean s (reports s root trees paths) := by
  unfold allAccepted allClean reports
  rw [List.all_map]
  congr 1
  funext q
  exact (s.isClean_inspectLines _).symm

/-- What stands on the first output behind the reports. -/
def closing (s : Settings) (passed : Bool) : String :=
  if passed = false ∧ s.compiling ≠ [] then s.summary else ""

theorem endsReports_closing (s : Settings) (passed : Bool) :
    Report.EndsReports (closing s passed).toList := by
  intro c hc
  unfold closing at hc
  split_ifs at hc
  · have hbegin : "The --ignore-lines-matching was set to: ".toList.head? = some 'T' := by decide
    unfold Settings.summary at hc
    simp only [String.toList_append, List.head?_append, hbegin, Option.some_or] at hc
    exact (Option.some.inj hc).symm
  · cases hc

/-! ### What is written -/

/-- What the reports of a run say is its result and all that it writes, apart from the warnings. -/
theorem gives_reports (tree : Timeline) (hin : s.inputs ≠ [])
    (hr : Resolver.ofSources root s.inputs s.excludes = .ok r)
    {said : List (String × Record)}
    (hread : ∀ q ∈ (r.resolve tree.atStart).zipIdx, Readable (tree.atTurn q.2) root q.1)
    (hsaid : reports s root tree.atTurn (r.resolve tree.atStart) = said) :
    (run s root tree).Gives (allClean s said)
      (Report.texts s.limits said ++ closing s (allClean s said))
      (String.join (s.notCompiling.map warning) ++
        if allClean s said = false then failureMessage ++ Report.newline else "") := by
  have hgives := gives_runResolved (s := s) hread
  rw [join_blocks, allAccepted_eq_allClean, hsaid] at hgives
  rw [run_of_ofSources hin hr]
  exact hgives

/-- A run that has come to its end has read all files, and has written the reports on them. -/
theorem textOn_out_of_ok (hr : Resolver.ofSources root s.inputs s.excludes = .ok r)
    (hok : (run s root tree).result = .ok passed) :
    (∀ q ∈ (r.resolve tree.atStart).zipIdx, Readable (tree.atTurn q.2) root q.1) ∧
      passed = allClean s (reports s root tree.atTurn (r.resolve tree.atStart)) ∧
      (run s root tree).textOn .out =
        Report.texts s.limits (reports s root tree.atTurn (r.resolve tree.atStart)) ++
          closing s passed := by
  have hin : s.inputs ≠ [] := by
    intro hin
    rw [run_of_no_inputs hin] at hok
    cases hok
  have hread : ∀ q ∈ (r.resolve tree.atStart).zipIdx, Readable (tree.atTurn q.2) root q.1 := by
    rw [run_of_ofSources hin hr] at hok
    obtain ⟨_, -, hfiles⟩ := Transcript.result_bind_eq_ok_iff.mp hok
    obtain ⟨_, hresult, -⟩ := Transcript.result_bind_eq_ok_iff.mp hfiles
    exact readable_of_runFiles hresult
  have hgives := gives_reports tree hin hr hread rfl
  have hpassed : passed = allClean s (reports s root tree.atTurn (r.resolve tree.atStart)) :=
    Except.ok.inj (hok.symm.trans hgives.result)
  rw [hpassed]
  exact ⟨hread, rfl, hgives.out⟩

/-! ### Reading it back -/

theorem allClean_eq_of_forall₂ {a b : List (String × Record)}
    (h : List.Forall₂ (fun a b => a.1 = b.1 ∧ Report.Agree s.limits a.2 b.2) a b) :
    allClean s a = allClean s b := by
  unfold allClean
  induction h with
  | nil => rfl
  | cons hab _ ih => rw [List.all_cons, List.all_cons, hab.2.passed, ih]

theorem eq_of_forall₂_reports {root₁ root₂ : String} {trees₁ trees₂ : Nat → Tree}
    {paths₁ paths₂ : List Path} (hproper₁ : ∀ path ∈ paths₁, ∀ s ∈ path.segments, s.IsProper)
    (hproper₂ : ∀ path ∈ paths₂, ∀ s ∈ path.segments, s.IsProper)
    (h : List.Forall₂ (fun a b => a.1 = b.1 ∧ Report.Agree s.limits a.2 b.2)
      (reports s root₁ trees₁ paths₁) (reports s root₂ trees₂ paths₂)) :
    paths₁ = paths₂ ∧ ∀ i path, paths₁[i]? = some path →
      Report.Agree s.limits (s.inspector.inspectLines (linesAt (trees₁ i) root₁ path))
        (s.inspector.inspectLines (linesAt (trees₂ i) root₂ path)) := by
  obtain ⟨hlength, hget⟩ := List.forall₂_iff_get.mp h
  rw [length_reports, length_reports] at hlength
  have hsay : ∀ i (h₁ : i < paths₁.length) (h₂ : i < paths₂.length),
      paths₁[i].text = paths₂[i].text ∧
        Report.Agree s.limits (s.inspector.inspectLines (linesAt (trees₁ i) root₁ paths₁[i]))
          (s.inspector.inspectLines (linesAt (trees₂ i) root₂ paths₂[i])) := by
    intro i h₁ h₂
    have hi := hget i (by rwa [length_reports]) (by rwa [length_reports])
    rwa [List.get_eq_getElem, List.get_eq_getElem, getElem_reports h₁, getElem_reports h₂] at hi
  have hpaths : paths₁ = paths₂ := List.ext_getElem hlength fun i h₁ h₂ =>
    Path.text_inj (hproper₁ _ (List.getElem_mem h₁)) (hproper₂ _ (List.getElem_mem h₂))
      (hsay i h₁ h₂).1
  subst hpaths
  refine ⟨rfl, fun i path hpath => ?_⟩
  obtain ⟨hi, rfl⟩ := List.getElem?_eq_some_iff.mp hpath
  exact (hsay i hi hi).2

/-- **The report can be read back.**  If two runs with the same settings come to their ends and write the
same to the first output, and no path of theirs has a line feed, then they have resolved the same list
of paths, have found the same under each of them as far as a report tells, and have the same result. -/
theorem run_read_back {root₁ root₂ : String} {tree₁ tree₂ : Timeline} {r₁ r₂ : Resolver}
    {passed₁ passed₂ : Bool} (hw₁ : tree₁.atStart.WellFormed) (hw₂ : tree₂.atStart.WellFormed)
    (hr₁ : Resolver.ofSources root₁ s.inputs s.excludes = .ok r₁)
    (hr₂ : Resolver.ofSources root₂ s.inputs s.excludes = .ok r₂)
    (hok₁ : ((run s root₁ tree₁).play .unlimited).2 = .ok passed₁)
    (hok₂ : ((run s root₂ tree₂).play .unlimited).2 = .ok passed₂)
    (hfeed₁ : ∀ path ∈ r₁.resolve tree₁.atStart, '\n' ∉ path.text.toList)
    (hfeed₂ : ∀ path ∈ r₂.resolve tree₂.atStart, '\n' ∉ path.text.toList)
    (hsame : ((run s root₁ tree₁).play .unlimited).1.out.taken =
      ((run s root₂ tree₂).play .unlimited).1.out.taken) :
    r₁.resolve tree₁.atStart = r₂.resolve tree₂.atStart ∧ passed₁ = passed₂ ∧
      ∀ i path, (r₁.resolve tree₁.atStart)[i]? = some path →
        ∃ record₁ record₂, inspect s root₁ (tree₁.atTurn i) path = .ok record₁ ∧
          inspect s root₂ (tree₂.atTurn i) path = .ok record₂ ∧
          Report.Agree s.limits record₁ record₂ := by
  rw [Transcript.play_unlimited] at hok₁ hok₂
  rw [Transcript.play_unlimited, Transcript.play_unlimited] at hsame
  obtain ⟨hread₁, hpassed₁, hout₁⟩ := textOn_out_of_ok hr₁ hok₁
  obtain ⟨hread₂, hpassed₂, hout₂⟩ := textOn_out_of_ok hr₂ hok₂
  have hproper₁ : ∀ path ∈ r₁.resolve tree₁.atStart, ∀ s ∈ path.segments, s.IsProper :=
    fun _ h => Resolver.isProper_of_mem_resolve hw₁ hr₁ h
  have hproper₂ : ∀ path ∈ r₂.resolve tree₂.atStart, ∀ s ∈ path.segments, s.IsProper :=
    fun _ h => Resolver.isProper_of_mem_resolve hw₂ hr₂ h
  generalize r₁.resolve tree₁.atStart = paths₁ at *
  generalize r₂.resolve tree₂.atStart = paths₂ at *
  have htext : (Report.texts s.limits (reports s root₁ tree₁.atTurn paths₁)).toList ++
      (closing s passed₁).toList =
      (Report.texts s.limits (reports s root₂ tree₂.atTurn paths₂)).toList ++
        (closing s passed₂).toList := by
    rw [← String.toList_append, ← String.toList_append, ← hout₁, ← hout₂]
    exact Utf8.encode_injective hsame
  obtain ⟨hall, -⟩ := Report.texts_append_inj (not_mem_of_mem_reports hfeed₁)
    (not_mem_of_mem_reports hfeed₂) (endsReports_closing s passed₁) (endsReports_closing s passed₂)
    htext
  have hpassed : passed₁ = passed₂ := by
    rw [hpassed₁, hpassed₂]
    exact allClean_eq_of_forall₂ hall
  obtain ⟨rfl, hagree⟩ := eq_of_forall₂_reports hproper₁ hproper₂ hall
  refine ⟨rfl, hpassed, fun i path hpath => ?_⟩
  have hturn : (path, i) ∈ paths₁.zipIdx := List.mem_zipIdx_iff_getElem?.mpr hpath
  exact ⟨_, _, inspect_of_readable (hread₁ _ hturn), inspect_of_readable (hread₂ _ hturn),
    hagree i path hpath⟩

/-- The sample tree, moved to a directory. -/
def moved : Tree := .dir [("home", Tree.sample)]

/-- The sample resolver, moved there. -/
def movedResolver : Resolver := { Resolver.sample with root := "/home" }

theorem moved_wellFormed : moved.WellFormed := by
  refine .dir (by decide) (by decide) fun e he => ?_
  rw [List.mem_singleton.mp he]
  exact Tree.sample_wellFormed

theorem resolve_moved : movedResolver.resolve moved = Resolver.sample.resolve Tree.sample := by
  rw [Resolver.resolve_sample]
  cbv

theorem file?_moved {path : Path} (h : path ∈ Resolver.sample.resolve Tree.sample) :
    moved.file? (Path.stepsFrom "/home" path) = some ⟨[97, 98, 10], false⟩ := by
  rw [Resolver.resolve_sample, List.mem_cons, List.mem_singleton] at h
  rcases h with rfl | rfl
  · cbv
  · cbv

/-- The sample and the moved sample say the same, so the same paths were resolved. -/
theorem run_read_back_sample :
    (run sample "/" (.still Tree.sample)).play .unlimited =
        (run sample "/home" (.still moved)).play .unlimited ∧
      Resolver.sample.resolve Tree.sample = movedResolver.resolve moved := by
  have hread₁ : ∀ q ∈ (Resolver.sample.resolve Tree.sample).zipIdx, Readable Tree.sample "/" q.1 :=
    fun q hq => ⟨_, (linesAt_sample (List.fst_mem_of_mem_zipIdx hq)).1, rfl⟩
  have hread₂ : ∀ q ∈ (movedResolver.resolve moved).zipIdx, Readable moved "/home" q.1 := by
    rw [resolve_moved]
    exact fun q hq => ⟨_, file?_moved (List.fst_mem_of_mem_zipIdx hq), rfl⟩
  have hr₂ : Resolver.ofSources "/home" sample.inputs sample.excludes = .ok movedResolver := by
    obtain ⟨-, hfilter, hinputs⟩ := Resolver.ofSources_eq_ok_iff.mp Resolver.ofSources_sample
    exact Resolver.ofSources_eq_ok_iff.mpr ⟨rfl, hfilter, hinputs⟩
  have hreports : reports sample "/home" (fun _ => moved) (movedResolver.resolve moved) =
      reports sample "/" (fun _ => Tree.sample) (Resolver.sample.resolve Tree.sample) := by
    rw [resolve_moved]
    refine List.map_congr_left fun q hq => ?_
    have hpath := List.fst_mem_of_mem_zipIdx hq
    unfold linesAt
    rw [(linesAt_sample hpath).1, file?_moved hpath]
  have hplay₁ := (gives_reports (s := sample) (.still Tree.sample) (by decide)
    Resolver.ofSources_sample hread₁ rfl).play
  have hplay₂ := (gives_reports (s := sample) (.still moved) (by decide) hr₂ hread₂ hreports).play
  have hsame : (run sample "/" (.still Tree.sample)).play .unlimited =
      (run sample "/home" (.still moved)).play .unlimited := hplay₁.trans hplay₂.symm
  have hfeed : ∀ path ∈ Resolver.sample.resolve Tree.sample, '\n' ∉ path.text.toList := by
    rw [Resolver.resolve_sample]
    decide
  have hfeed₂ : ∀ path ∈ movedResolver.resolve moved, '\n' ∉ path.text.toList := by
    rwa [resolve_moved]
  have hw₁ : (Timeline.still Tree.sample).atStart.WellFormed := Tree.sample_wellFormed
  have hw₂ : (Timeline.still moved).atStart.WellFormed := moved_wellFormed
  have hback := run_read_back (s := sample) hw₁ hw₂ Resolver.ofSources_sample hr₂
    (congrArg Prod.snd hplay₁) (congrArg Prod.snd hplay₂) hfeed hfeed₂
    (congrArg (fun played => played.1.out.taken) hsame)
  exact ⟨hsame, hback.1⟩

end TextLimits.Check
