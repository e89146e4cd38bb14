import TextLimits.Proofs.Scan.Resolution
import TextLimits.Proofs.Scan.WholeWalk

/-! # Opening what was found

A walk finds a file at a place of the tree (`InputPattern.FindsAt`), and knows it by a path that says
nothing of the walk.  Joined to the root, the path leads to this place again, whatever the root and the
input are (`Resolver.follow_joinText_of_mem_resolve`): dots, links and slashes at the end of the root
make no difference. -/

namespace TextLimits

variable {top : Tree} {root : String} {path : Path} {place : List String}

theorem Tree.follow_steps_append (root : String) (s : Segment) (rest : List Segment) :
    top.follow (Path.steps root ++ s :: rest) = top.follow (Path.way root ++ s :: rest) := by
  rcases Path.steps_eq_way root with hroot | hroot
  · rw [hroot]
  · rw [hroot, List.append_assoc, List.singleton_append]
    apply Option.ext
    intro place
    constructor
    · exact follow_append_of_current
    · intro h
      obtain ⟨k, hk, hway⟩ := follow_eq_some_iff.mp h
      obtain ⟨mid, k₁, k₂, h₁, h₂, rfl⟩ := hway.split
      exact follow_eq_some_iff.mpr ⟨k₁ + k₂, hk, h₁.append (.current h₂.isDir_start h₂)⟩

/-- A path that is joined to the text of a root leads where it leads from the root. -/
theorem Tree.follow_joinText (hne : path.segments ≠ []) (hproper : ∀ s ∈ path.segments, s.IsProper) :
    top.follow (Path.steps (Path.joinText root path.text)) = top.follow (Path.stepsFrom root path) := by
  rw [Path.steps_joinText root hne hproper]
  unfold Path.stepsFrom
  cases habsolute : path.absolute with
  | true => rfl
  | false =>
      obtain ⟨s, rest, hsegments⟩ := List.exists_cons_of_ne_nil hne
      rw [if_neg Bool.false_ne_true, if_neg Bool.false_ne_true, hsegments]
      exact (follow_steps_append root s rest).symm

namespace InputPattern

variable {source : String} {p : InputPattern}

/-- The walk of an input comes by a path, and what it finds there is at some place. -/
def FindsAt (top : Tree) (root : String) (p : InputPattern) (path : Path) (place : List String) :
    Prop :=
  ∃ t names, top.find? (p.start root) = some t ∧ names ∈ t.walk ∧ path = p.candidate names ∧
    top.follow (p.start root ++ names.map .name) = some place

theorem FindsAt.follow (hp : parse source = .ok p) (h : FindsAt top root p path place) :
    top.follow (Path.stepsFrom root path) = some place := by
  obtain ⟨t, names, hstart, -, rfl, hfollow⟩ := h
  rw [← follow_candidate hp hstart, hfollow]

theorem FindsAt.segments_ne_nil (hp : parse source = .ok p) (htop : top.isDir = true)
    (h : FindsAt top root p path place) {f : File} (hfile : top.at? place = some (.file f)) :
    path.segments ≠ [] := by
  have hfollow := h.follow hp
  obtain ⟨t, names, hstart, hwalk, rfl, -⟩ := h
  intro hnil
  obtain ⟨hbase, hnames⟩ := List.append_eq_nil_iff.mp hnil
  cases habsolute : (p.candidate names).absolute with
  | true =>
      have hway : Path.stepsFrom root (p.candidate names) = [] := by
        unfold Path.stepsFrom
        rw [if_pos habsolute, hnil]
      rw [hway] at hfollow
      obtain rfl : [] = place := Option.some.inj hfollow
      obtain rfl : top = .file f := Option.some.inj hfile
      cases htop
  | false =>
      exact ne_nil_of_mem_walk_start hp habsolute hstart hbase hwalk (List.map_eq_nil_iff.mp hnames)

end InputPattern

/-- **A resolved path, joined to the root, names the very file that was found.**  Every input that comes
by the path finds the same place. -/
theorem Resolver.follow_joinText_of_mem_resolve {inputs excludes : List String} {r : Resolver}
    (hw : top.WellFormed) (htop : top.isDir = true) (hr : ofSources root inputs excludes = .ok r)
    (h : path ∈ r.resolve top) :
    ∃ place file, top.follow (Path.steps (Path.joinText root path.text)) = some place ∧
      top.follow (Path.stepsFrom root path) = some place ∧ top.at? place = some (.file file) ∧
      (∃ p ∈ r.inputs, p.FindsAt top root path place) ∧
      ∀ p ∈ r.inputs, ∀ other, p.FindsAt top root path other → other = place := by
  obtain ⟨p, hp, hmem⟩ := mem_resolve.mp h
  obtain ⟨source, -, hparse⟩ := exists_source_of_mem hr hp
  obtain ⟨t, names, hstart, hwalk, hfile, -, hpath⟩ :=
    InputPattern.mem_files.mp (List.mem_filter.mp hmem).1
  rw [(ofSources_eq_ok_iff.mp hr).1] at hstart hfile
  obtain ⟨file, hfound⟩ := Tree.isSome_file?_iff.mp hfile
  obtain ⟨place, hplace, hat⟩ := Tree.find?_eq_some_iff.mp hfound
  have hfinds : p.FindsAt top root path place := ⟨t, names, hstart, hwalk, hpath, hplace⟩
  have hfollow := hfinds.follow hparse
  refine ⟨place, file, ?_, hfollow, hat, ⟨p, hp, hfinds⟩, ?_⟩
  · rw [Tree.follow_joinText (hfinds.segments_ne_nil hparse htop hat)
      (isProper_of_mem_resolve hw hr h), hfollow]
  · intro q hq other hother
    obtain ⟨source', -, hparse'⟩ := exists_source_of_mem hr hq
    have hsame := hother.follow hparse'
    rw [hfollow] at hsame
    exact (Option.some.inj hsame).symm

end TextLimits
