import TextLimits.Proofs.Check
import TextLimits.Proofs.Scan.Acceptance
import TextLimits.Proofs.Scan.Joining

/-! # What a check can fail with

A check fails for want of inputs, for a source that does not compile, or for a file that cannot be
read (`Check.fault_of_run`), and its outputs can refuse to write; nothing else stops it.  If the tree
does not change and all of its files can be read, only the settings can be at fault
(`Check.exists_fault_iff`).  This rests on two agreements without a check between them: what the walk has
found is found again from the root (`Resolver.follow_joinText_of_mem_resolve`), and what the inspection
has found suits the report (`Inspector.fault?_inspectStream`). -/

namespace TextLimits

/-- A tree with files that can all be read to their ends. -/
def Tree.AllReadable (top : Tree) : Prop :=
  ∀ place file, top.at? place = some (.file file) → file.breaksOff = false

namespace Tree.AllReadable

theorem file {f : File} (h : f.breaksOff = false) : (Tree.file f).AllReadable := by
  intro place file hat
  cases place with
  | nil =>
      cases hat
      exact h
  | cons name rest => cases hat

theorem link (target : String) : (Tree.link target).AllReadable := by
  intro place file hat
  cases place with
  | nil => cases hat
  | cons name rest => cases hat

theorem dir {entries : List (String × Tree)} (h : ∀ e ∈ entries, e.2.AllReadable) :
    (Tree.dir entries).AllReadable := by
  intro place file hat
  exact forall_at?_dir (P := fun u => ∀ f, u = .file f → f.breaksOff = false) (fun _ hf => by cases hf)
    (fun e he place u hu f hf => h e he place f (hf ▸ hu)) place (.file file) hat file rfl

end Tree.AllReadable

namespace Check

variable {s : Settings} {root : String} {fault : Fault}

/-! ### Faults -/

theorem fault_of_visit {top : Tree} {path : Path} (h : (visit s root top path).result = .error fault) :
    fault = .fileRead (Path.joinText root path.text) := by
  by_cases hread : Readable top root path
  · rw [(gives_visit hread).result] at h
    cases h
  · rw [(fails_visit hread).result] at h
    exact (Except.error.inj h).symm

theorem fault_of_runFiles {trees : Nat → Tree} {paths : List Path} {turn : Nat}
    (h : (runFiles s root trees turn paths).result = .error fault) :
    ∃ path ∈ paths, fault = .fileRead (Path.joinText root path.text) := by
  induction paths generalizing turn with
  | nil => cases h
  | cons path paths ih =>
      rw [runFiles_cons, Transcript.result_bind_eq_error_iff] at h
      rcases h with hvisit | ⟨passed, -, hrest⟩
      · exact ⟨path, List.mem_cons_self, fault_of_visit hvisit⟩
      · rw [Transcript.result_bind_eq_error_iff] at hrest
        rcases hrest with hothers | ⟨others, -, hdone⟩
        · obtain ⟨p, hp, heq⟩ := ih hothers
          exact ⟨p, List.mem_cons_of_mem _ hp, heq⟩
        · cases hdone

theorem fault_of_runResolved {trees : Nat → Tree} {paths : List Path}
    (h : (runResolved s root trees paths).result = .error fault) :
    ∃ path ∈ paths, fault = .fileRead (Path.joinText root path.text) := by
  unfold runResolved at h
  rw [Transcript.result_bind_eq_error_iff, (gives_warnings s).result] at h
  rcases h with hwarn | ⟨-, -, hfiles⟩
  · cases hwarn
  rw [Transcript.result_bind_eq_error_iff] at hfiles
  rcases hfiles with hfiles | ⟨passed, -, hending⟩
  · exact fault_of_runFiles hfiles
  · rw [(gives_ending s passed).result] at hending
    cases hending

/-- **What a run can fail with**: no inputs, a source that does not compile, or a file that cannot be
read. -/
theorem fault_of_run {tree : Timeline} (h : (run s root tree).result = .error fault) :
    fault = noInputs ∨ (∃ pattern, fault = .glob pattern) ∨ (∃ pattern, fault = .tooDeep pattern) ∨
      ∃ path, fault = .fileRead path := by
  by_cases hin : s.inputs = []
  · rw [run_of_no_inputs hin] at h
    exact .inl (Except.error.inj h).symm
  refine .inr ?_
  cases hr : Resolver.ofSources root s.inputs s.excludes with
  | error e =>
      rw [run_of_ofSources_error hin hr] at h
      obtain rfl : e = fault := Except.error.inj h
      rcases (Resolver.fault_of_ofSources hr).2 with hglob | ⟨-, hdeep⟩
      · exact .inl hglob
      · exact .inr (.inl hdeep)
  | ok r =>
      rw [run_of_ofSources hin hr] at h
      obtain ⟨path, -, heq⟩ := fault_of_runResolved h
      exact .inr (.inr ⟨_, heq⟩)

/-- A run never ends in a broken invariant, whatever becomes of the files and of what is written. -/
theorem run_ne_invariant {tree : Timeline} {σ : Type} (offer : σ → Channel → String → σ × Option String)
    (d : σ) (reason : String) : ((run s root tree).playOn offer d).2 ≠ .error (.invariant reason) := by
  intro h
  rcases fault_of_run (Transcript.result_of_playOn offer h nofun) with h | ⟨_, h⟩ | ⟨_, h⟩ | ⟨_, h⟩
  · cases h
  · cases h
  · cases h
  · cases h

/-! ### A tree without unreadable files -/

theorem readable_of_mem_resolve {top : Tree} {r : Resolver} (hread : top.AllReadable)
    (hr : Resolver.ofSources root s.inputs s.excludes = .ok r) {path : Path}
    (h : path ∈ r.resolve top) : Readable top root path := by
  obtain ⟨file, hfile⟩ := Resolver.exists_file_of_mem_resolve hr h
  obtain ⟨place, -, hat⟩ := Tree.find?_eq_some_iff.mp hfile
  exact ⟨file, Tree.file?_eq_some_iff.mpr hfile, hread place file hat⟩

theorem result_of_no_inputs {tree : Timeline} (hin : s.inputs = []) :
    (run s root tree).result = .error noInputs := by
  rw [run_of_no_inputs hin]
  rfl

theorem result_of_badSource {tree : Timeline} (hin : s.inputs ≠ [])
    (hdeep : ∀ source ∈ s.inputs, ¬ InputPattern.TooDeep source)
    (hbad : Resolver.BadSource s.inputs s.excludes) :
    ∃ pattern, (run s root tree).result = .error (.glob pattern) := by
  cases hr : Resolver.ofSources root s.inputs s.excludes with
  | ok r => exact absurd hbad (Resolver.not_badSource_of_ofSources hr)
  | error fault =>
      rw [run_of_ofSources_error hin hr]
      rcases (Resolver.fault_of_ofSources hr).2 with ⟨pattern, rfl⟩ | ⟨⟨source, hsource, h⟩, -⟩
      · exact ⟨pattern, rfl⟩
      · exact absurd h (hdeep source hsource)

theorem result_of_not_badSource {top : Tree} (hread : top.AllReadable) (hin : s.inputs ≠ [])
    (hgood : ¬ Resolver.BadSource s.inputs s.excludes) :
    ∃ passed, (run s root (.still top)).result = .ok passed := by
  cases hr : Resolver.ofSources root s.inputs s.excludes with
  | error fault => exact absurd (Resolver.fault_of_ofSources hr).1 hgood
  | ok r =>
      have hfiles : ∀ q ∈ (r.resolve top).zipIdx, Readable top root q.1 := fun q hq =>
        readable_of_mem_resolve hread hr (List.fst_mem_of_mem_zipIdx hq)
      rw [run_of_ofSources hin hr]
      exact ⟨_, (gives_runResolved hfiles).result⟩

/-- A run on a tree without unreadable files fails if there is no input or some source does not
compile, and only then. -/
theorem exists_fault_iff {top : Tree} (hread : top.AllReadable)
    (hdeep : ∀ source ∈ s.inputs, ¬ InputPattern.TooDeep source) :
    (∃ fault, (run s root (.still top)).result = .error fault) ↔
      s.inputs = [] ∨ Resolver.BadSource s.inputs s.excludes := by
  constructor
  · rintro ⟨fault, hfault⟩
    by_contra hor
    obtain ⟨hin, hgood⟩ := not_or.mp hor
    have hok : ∃ passed, (run s root (.still top)).result = .ok passed :=
      result_of_not_badSource hread hin hgood
    obtain ⟨passed, hpassed⟩ := hok
    rw [hpassed] at hfault
    cases hfault
  · intro hor
    by_cases hin : s.inputs = []
    · exact ⟨noInputs, result_of_no_inputs hin⟩
    · have hglob : ∃ pattern, (run s root (.still top)).result = .error (.glob pattern) :=
        result_of_badSource hin hdeep (hor.resolve_left hin)
      obtain ⟨pattern, hpattern⟩ := hglob
      exact ⟨.glob pattern, hpattern⟩

/-- **The only errors of a run are the user's.**  No run ends in a broken invariant, whatever its outputs
do and whatever becomes of the tree in its course.  On a tree without unreadable files, with outputs
that take everything and no input nested too deep, a run fails if there is no input or some source does
not compile, and only then.  Every resolved path, joined to the root, leads to the very file that was
found under it, and no record of an inspection is refused by the report. -/
theorem run_faults (s : Settings) (root : String) :
    (∀ (tree : Timeline) (reason : String),
      (∀ (σ : Type) (offer : σ → Channel → String → σ × Option String) (d : σ),
        ((run s root tree).playOn offer d).2 ≠ .error (.invariant reason)) ∧
      ∀ o : Outputs, ((run s root tree).play o).2 ≠ .error (.invariant reason)) ∧
    (∀ top : Tree, top.AllReadable → (∀ source ∈ s.inputs, ¬ InputPattern.TooDeep source) →
      ((∃ fault, ((run s root (.still top)).play .unlimited).2 = .error fault) ↔
        s.inputs = [] ∨ Resolver.BadSource s.inputs s.excludes) ∧
      (s.inputs = [] → ((run s root (.still top)).play .unlimited).2 = .error noInputs) ∧
      (s.inputs ≠ [] → Resolver.BadSource s.inputs s.excludes →
        ∃ pattern, ((run s root (.still top)).play .unlimited).2 = .error (.glob pattern))) ∧
    (∀ (top : Tree) (r : Resolver), top.WellFormed → top.isDir = true →
      Resolver.ofSources root s.inputs s.excludes = .ok r → ∀ path ∈ r.resolve top,
        ∃ place file, top.follow (Path.steps (Path.joinText root path.text)) = some place ∧
          top.follow (Path.stepsFrom root path) = some place ∧ top.at? place = some (.file file) ∧
          (∃ p ∈ r.inputs, p.FindsAt top root path place) ∧
          ∀ p ∈ r.inputs, ∀ other, p.FindsAt top root path other → other = place) ∧
    ∀ (i : Inspector) (stream : Stream) (record : Record) (maxLines : Nat),
      i.inspectStream stream = .ok record →
        Report.fault? ⟨i.limit, maxLines⟩ record = none ∧
          Record.ofEntries record.longLines record.lineCount = .ok record := by
  refine ⟨fun tree reason => ⟨fun σ offer d => run_ne_invariant offer d reason, fun o => ?_⟩,
    fun top hread hdeep => ?_, fun top r hw htop hr path hpath => ?_,
    fun i stream record maxLines h => ?_⟩
  · rw [Transcript.play_eq_playOn]
    exact run_ne_invariant Outputs.offer o reason
  · rw [Transcript.result_play_unlimited]
    exact ⟨exists_fault_iff hread hdeep, result_of_no_inputs, fun hin hbad =>
      result_of_badSource hin hdeep hbad⟩
  · exact Resolver.follow_joinText_of_mem_resolve hw htop hr hpath
  · exact ⟨i.fault?_inspectStream h maxLines, i.ofEntries_inspectStream h⟩

theorem allReadable_sample : Tree.sample.AllReadable := by
  refine .dir ?_
  simp only [List.forall_mem_cons, List.not_mem_nil, false_implies, implies_true, and_true]
  refine ⟨.link _, .dir ?_⟩
  simp only [List.forall_mem_cons, List.not_mem_nil, false_implies, implies_true, and_true]
  exact ⟨.file rfl, .file rfl⟩

/-- The run on the sample tree does not fail, and what was found below the link is the file that the
root and its path lead to. -/
theorem run_faults_sample :
    (¬ ∃ fault, ((run sample "/" (.still Tree.sample)).play .unlimited).2 = .error fault) ∧
      ∃ place file, Tree.sample.follow (Path.steps (Path.joinText "/" "alias/a.rs")) = some place ∧
        Tree.sample.at? place = some (.file file) ∧
        ∃ p ∈ Resolver.sample.inputs,
          p.FindsAt Tree.sample "/" ⟨false, [.name "alias", .name "a.rs"]⟩ place := by
  obtain ⟨-, hfails, hjoin, -⟩ := run_faults sample "/"
  have hgood : ¬ Resolver.BadSource sample.inputs sample.excludes :=
    Resolver.not_badSource_of_ofSources Resolver.ofSources_sample
  have hdeep : ∀ source ∈ sample.inputs, ¬ InputPattern.TooDeep source := by
    intro source hsource
    apply InputPattern.not_tooDeep_of_compiles
    by_contra hbad
    exact hgood (.inl ⟨source, hsource, hbad⟩)
  refine ⟨fun h => ?_, ?_⟩
  · rcases (hfails Tree.sample allReadable_sample hdeep).1.mp h with hin | hbad
    · cases hin
    · exact hgood hbad
  · have hmem : (⟨false, [.name "alias", .name "a.rs"]⟩ : Path) ∈
        Resolver.sample.resolve Tree.sample := by
      rw [Resolver.resolve_sample]
      simp
    have htext : (Path.mk false [.name "alias", .name "a.rs"]).text = "alias/a.rs" := by decide
    obtain ⟨place, file, hfollow, -, hat, hfound, -⟩ := hjoin Tree.sample Resolver.sample
      Tree.sample_wellFormed rfl Resolver.ofSources_sample _ hmem
    rw [htext] at hfollow
    exact ⟨place, file, hfollow, hat, hfound⟩

/-- Choices within choices do not compile, but the check breaks off at them instead of naming them as a
glob. -/
theorem run_of_choices :
    let s : Settings := { Settings.default with inputs := [String.ofList choices] }
    Tree.empty.AllReadable ∧ (∀ source ∈ s.inputs, Glob.braces? source.toList = some 125) ∧
      Resolver.BadSource s.inputs s.excludes ∧
      ((run s "/" (.still .empty)).play .unlimited).2 = .error (.tooDeep (String.ofList choices)) ∧
      ¬ ∃ pattern, ((run s "/" (.still .empty)).play .unlimited).2 = .error (.glob pattern) := by
  intro s
  have hresult : ((run s "/" (.still .empty)).play .unlimited).2 =
      .error (.tooDeep (String.ofList choices)) := by
    rw [run_of_ofSources_error (s := s) (List.cons_ne_nil _ _)
      (Resolver.ofSources_input_of_error parse_choices)]
    rfl
  refine ⟨.dir (List.forall_mem_nil _), List.forall_mem_singleton.mpr braces?_choices,
    .inl ⟨_, List.mem_singleton_self _, ?_⟩, hresult, ?_⟩
  · rintro ⟨p, hp⟩
    rw [parse_choices] at hp
    cases hp
  · rintro ⟨pattern, h⟩
    rw [hresult] at h
    cases h

end Check

end TextLimits
