import TextLimits.Proofs.Scan.Naming
import TextLimits.Proofs.Tree.Lexical

/-! # Paths of one file

Resolution lists no path twice, but one file can have several paths: from the root and from the top of
the tree, or with two dots and without.  In a tree without links two resolved paths name one file exactly
if their segments lead to one place (`Resolver.resolve_sameFile`).  So the files of one input are all
different, and so are those of several inputs of which none goes up and all are relative, or all
absolute. -/

namespace TextLimits

namespace Path

/-- Two paths, joined to a root, name one file. -/
def SameFile (top : Tree) (root : String) (a b : Path) : Prop :=
  ∃ place f, top.follow (steps (joinText root a.text)) = some place ∧
    top.follow (steps (joinText root b.text)) = some place ∧ top.at? place = some (.file f)

/-- The place that a path leads to from a root if it meets no link. -/
def landing (root : String) (p : Path) : List String := Segment.moves [] (stepsFrom root p)

theorem exists_names {p : Path} (hdot : .current ∉ p.segments) (hup : .parent ∉ p.segments) :
    ∃ names : List String, p.segments = names.map .name := by
  obtain ⟨absolute, segments⟩ := p
  induction segments with
  | nil => exact ⟨[], rfl⟩
  | cons s segments ih =>
      obtain ⟨names, hnames⟩ := ih (fun h => hdot (List.mem_cons_of_mem _ h))
        fun h => hup (List.mem_cons_of_mem _ h)
      cases s with
      | current => exact absurd List.mem_cons_self hdot
      | parent => exact absurd List.mem_cons_self hup
      | name n => exact ⟨n :: names, congrArg (Segment.name n :: ·) hnames⟩

theorem eq_of_landing_eq {root : String} {a b : Path} (hkind : a.absolute = b.absolute)
    (ha : .current ∉ a.segments ∧ .parent ∉ a.segments)
    (hb : .current ∉ b.segments ∧ .parent ∉ b.segments) (h : a.landing root = b.landing root) :
    a = b := by
  have hlanding : ∀ (absolute : Bool) (names : List String),
      landing root ⟨absolute, names.map .name⟩ = landing root ⟨absolute, []⟩ ++ names := by
    intro absolute names
    rw [← Segment.moves_names]
    unfold landing stepsFrom
    cases absolute with
    | true => rfl
    | false =>
        rw [← Segment.moves_append]
        simp
  obtain ⟨names, hnames⟩ := exists_names ha.1 ha.2
  obtain ⟨names', hnames'⟩ := exists_names hb.1 hb.2
  obtain ⟨absolute, segments⟩ := a
  obtain ⟨absolute', segments'⟩ := b
  obtain rfl : absolute = absolute' := hkind
  obtain rfl : segments = names.map .name := hnames
  obtain rfl : segments' = names'.map .name := hnames'
  rw [hlanding, hlanding] at h
  rw [List.append_cancel_left h]

end Path

namespace InputPattern

variable {p : InputPattern} {names : List String}

theorem stepsFrom_candidate (root : String) (names : List String) :
    Path.stepsFrom root (p.candidate names) =
      Path.stepsFrom root (p.candidate []) ++ names.map .name := by
  unfold Path.stepsFrom candidate
  dsimp only
  split_ifs <;> simp

theorem landing_candidate_injective (root : String) (p : InputPattern) :
    Function.Injective fun names => (p.candidate names).landing root := by
  intro a b h
  simp only [Path.landing, stepsFrom_candidate root a, stepsFrom_candidate root b,
    Segment.moves_append, Segment.moves_names] at h
  exact List.append_cancel_left h

theorem parent_mem_base (h : .parent ∈ (p.candidate names).segments) : .parent ∈ p.base.segments := by
  rcases List.mem_append.mp h with h | h
  · exact (List.mem_filter.mp h).1
  · obtain ⟨n, -, hn⟩ := List.mem_map.mp h
    cases hn

end InputPattern

namespace Resolver

variable {top : Tree} {root : String} {inputs excludes : List String} {r : Resolver} {a b : Path}

theorem exists_candidate_of_mem_filesOf {p : InputPattern} {path : Path} (h : path ∈ r.filesOf top p) :
    ∃ names, path = p.candidate names := by
  obtain ⟨t, names, -, -, -, -, hpath⟩ := InputPattern.mem_files.mp (List.mem_filter.mp h).1
  exact ⟨names, hpath⟩

/-- In a tree without links a resolved path leads where its segments say. -/
theorem follow_landing (hw : top.WellFormed) (htop : top.isDir = true) (hlinks : top.LinkFree)
    (hr : ofSources root inputs excludes = .ok r) {path : Path} (h : path ∈ r.resolve top) :
    ∃ f, top.follow (Path.steps (Path.joinText root path.text)) = some (path.landing root) ∧
      top.at? (path.landing root) = some (.file f) := by
  obtain ⟨place, f, hjoin, hfollow, hat, -⟩ := follow_joinText_of_mem_resolve hw htop hr h
  obtain rfl := hlinks.eq_moves hfollow
  exact ⟨f, hjoin, hat⟩

/-- Resolved paths name one file exactly if their segments lead to one place. -/
theorem sameFile_iff (hw : top.WellFormed) (htop : top.isDir = true) (hlinks : top.LinkFree)
    (hr : ofSources root inputs excludes = .ok r) (ha : a ∈ r.resolve top) (hb : b ∈ r.resolve top) :
    a.SameFile top root b ↔ a.landing root = b.landing root := by
  obtain ⟨f, hfollow, hat⟩ := follow_landing hw htop hlinks hr ha
  obtain ⟨-, hfollow', -⟩ := follow_landing hw htop hlinks hr hb
  unfold Path.SameFile
  rw [hfollow, hfollow']
  constructor
  · rintro ⟨place, -, hplace, hplace', -⟩
    exact Option.some.inj (hplace.trans hplace'.symm)
  · intro h
    exact ⟨_, f, rfl, by rw [h], hat⟩

theorem current_not_mem_of_mem_resolve (ha : a ∈ r.resolve top) : .current ∉ a.segments := by
  obtain ⟨p, -, hmem⟩ := mem_resolve.mp ha
  obtain ⟨names, rfl⟩ := exists_candidate_of_mem_filesOf hmem
  exact InputPattern.current_not_mem_candidate names

/-- Different paths at one place differ in kind, or one of them goes up. -/
theorem differ_of_landing_eq (ha : a ∈ r.resolve top) (hb : b ∈ r.resolve top) (hne : a ≠ b)
    (h : a.landing root = b.landing root) :
    a.absolute ≠ b.absolute ∨ .parent ∈ a.segments ∨ .parent ∈ b.segments := by
  by_contra hsame
  rw [not_or, not_or, not_not] at hsame
  obtain ⟨hkind, hup, hup'⟩ := hsame
  exact hne (Path.eq_of_landing_eq hkind ⟨current_not_mem_of_mem_resolve ha, hup⟩
    ⟨current_not_mem_of_mem_resolve hb, hup'⟩ h)

theorem eq_of_mem_filesOf {p : InputPattern} (ha : a ∈ r.filesOf top p) (hb : b ∈ r.filesOf top p)
    (h : a.landing root = b.landing root) : a = b := by
  obtain ⟨names, rfl⟩ := exists_candidate_of_mem_filesOf ha
  obtain ⟨names', rfl⟩ := exists_candidate_of_mem_filesOf hb
  rw [InputPattern.landing_candidate_injective root p h]

theorem alike_of_mem_resolve (hup : ∀ p ∈ r.inputs, .parent ∉ p.base.segments)
    (hkind : ∀ p ∈ r.inputs, ∀ q ∈ r.inputs, p.base.absolute = q.base.absolute)
    (ha : a ∈ r.resolve top) (hb : b ∈ r.resolve top) :
    a.absolute = b.absolute ∧ .parent ∉ a.segments ∧ .parent ∉ b.segments := by
  obtain ⟨p, hp, hmem⟩ := mem_resolve.mp ha
  obtain ⟨q, hq, hmem'⟩ := mem_resolve.mp hb
  obtain ⟨names, rfl⟩ := exists_candidate_of_mem_filesOf hmem
  obtain ⟨names', rfl⟩ := exists_candidate_of_mem_filesOf hmem'
  exact ⟨hkind p hp q hq, fun h => hup p hp (InputPattern.parent_mem_base h),
    fun h => hup q hq (InputPattern.parent_mem_base h)⟩

/-- **In a tree without links two resolved paths name one file exactly if their segments lead to one
place.**  Two different ones that do are not of one input, and one of them is absolute and the other is
not, or one of them goes up.  So every file is listed once if no input goes up in its base and all of
them are relative, or all absolute. -/
theorem resolve_sameFile (hw : top.WellFormed) (htop : top.isDir = true) (hlinks : top.LinkFree)
    (hr : ofSources root inputs excludes = .ok r) :
    (r.resolve top).Nodup ∧
      (∀ a ∈ r.resolve top, ∀ b ∈ r.resolve top,
        (a.SameFile top root b ↔ a.landing root = b.landing root) ∧
        (a.SameFile top root b → a ≠ b →
          (a.absolute ≠ b.absolute ∨ .parent ∈ a.segments ∨ .parent ∈ b.segments) ∧
          ∀ p ∈ r.inputs, ¬ (a ∈ r.filesOf top p ∧ b ∈ r.filesOf top p))) ∧
      ((∀ p ∈ r.inputs, .parent ∉ p.base.segments) →
        (∀ p ∈ r.inputs, ∀ q ∈ r.inputs, p.base.absolute = q.base.absolute) →
        (r.resolve top).Pairwise fun a b => ¬ a.SameFile top root b) := by
  have hnodup : (r.resolve top).Nodup := nodup_eraseDups _
  refine ⟨hnodup, fun a ha b hb => ?_, fun hup hkind => ?_⟩
  · have hiff := sameFile_iff hw htop hlinks hr ha hb
    refine ⟨hiff, fun hsame hne => ⟨differ_of_landing_eq ha hb hne (hiff.mp hsame), ?_⟩⟩
    rintro p - ⟨hmem, hmem'⟩
    exact hne (eq_of_mem_filesOf hmem hmem' (hiff.mp hsame))
  · refine hnodup.imp_of_mem fun {a b} ha hb hne hsame => ?_
    obtain ⟨hab, hupa, hupb⟩ := alike_of_mem_resolve hup hkind ha hb
    have hlanding := (sameFile_iff hw htop hlinks hr ha hb).mp hsame
    rcases differ_of_landing_eq ha hb hne hlanding with h | h | h
    · exact h hab
    · exact hupa h
    · exact hupb h

end Resolver

/-- A directory without links. -/
def Tree.twoFiles : Tree :=
  .dir [("a.rs", .file ⟨[], false⟩), ("src", .dir [("a.rs", .file ⟨[], false⟩)])]

theorem Tree.twoFiles_wellFormed : twoFiles.WellFormed := by decide

theorem Tree.twoFiles_linkFree : twoFiles.LinkFree := by
  apply linkFree_dir
  simp only [List.forall_mem_cons, List.not_mem_nil, false_implies, implies_true, and_true]
  refine ⟨linkFree_file _, linkFree_dir ?_⟩
  simp only [List.forall_mem_cons, List.not_mem_nil, false_implies, implies_true, and_true]
  exact linkFree_file _

namespace Resolver

/-- A name, and all files of this name. -/
def twoInputs : Resolver where
  root := "/"
  inputs := [⟨⟨"a.rs", "a.rs".toList.map .literal⟩, ⟨false, [.name "a.rs"]⟩⟩,
    ⟨⟨"**/a.rs", .treePrefix :: "a.rs".toList.map .literal⟩, ⟨false, []⟩⟩]
  filter := ⟨[]⟩

theorem parse_name : InputPattern.parse "a.rs" = .ok twoInputs.inputs[0] :=
  InputPattern.parse_eq_ok_iff.mpr
    ⟨Glob.parse_eq_ok_iff.mpr ⟨by decide, by rfl⟩, by decide, by decide⟩

/-- The name and the files of this name name no file twice, though both have the first one. -/
theorem resolve_sameFile_sample :
    ofSources "/" ["a.rs", "**/a.rs"] [] = .ok twoInputs ∧
      twoInputs.resolve Tree.twoFiles =
        [⟨false, [.name "a.rs"]⟩, ⟨false, [.name "src", .name "a.rs"]⟩] ∧
      (twoInputs.resolve Tree.twoFiles).Pairwise fun a b => ¬ a.SameFile Tree.twoFiles "/" b := by
  have hall : InputPattern.parse "**/a.rs" = .ok twoInputs.inputs[1] :=
    InputPattern.parse_eq_ok_iff.mpr
      ⟨Glob.parse_eq_ok_iff.mpr ⟨by decide, by rfl⟩, by decide, by decide⟩
  have hr : ofSources "/" ["a.rs", "**/a.rs"] [] = .ok twoInputs :=
    ofSources_eq_ok_iff.mpr ⟨rfl, rfl, .cons parse_name (.cons hall .nil)⟩
  have hfiles := resolve_sameFile Tree.twoFiles_wellFormed rfl Tree.twoFiles_linkFree hr
  exact ⟨hr, by cbv, hfiles.2.2 (by decide) (by decide)⟩

/-- A file that is an input by its name and by its absolute path is listed twice. -/
theorem resolve_name_and_absolute :
    ∃ r, ofSources "/" ["a.rs", "/a.rs"] [] = .ok r ∧
      r.resolve Tree.twoFiles = [⟨false, [.name "a.rs"]⟩, ⟨true, [.name "a.rs"]⟩] ∧
      (Path.mk false [.name "a.rs"]).SameFile Tree.twoFiles "/" ⟨true, [.name "a.rs"]⟩ := by
  have habsolute : InputPattern.parse "/a.rs" =
      .ok ⟨⟨"/a.rs", "/a.rs".toList.map .literal⟩, ⟨true, [.name "a.rs"]⟩⟩ :=
    InputPattern.parse_eq_ok_iff.mpr
      ⟨Glob.parse_eq_ok_iff.mpr ⟨by decide, by rfl⟩, by decide, by decide⟩
  have hr : ofSources "/" ["a.rs", "/a.rs"] [] = .ok ⟨"/", [twoInputs.inputs[0],
      ⟨⟨"/a.rs", "/a.rs".toList.map .literal⟩, ⟨true, [.name "a.rs"]⟩⟩], ⟨[]⟩⟩ :=
    ofSources_eq_ok_iff.mpr ⟨rfl, rfl, .cons parse_name (.cons habsolute .nil)⟩
  refine ⟨_, hr, by cbv, ["a.rs"], ⟨[], false⟩, ?_, ?_, rfl⟩
  · decide +kernel
  · decide +kernel

end Resolver

end TextLimits
