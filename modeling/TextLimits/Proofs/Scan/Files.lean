import TextLimits.Proofs.Path
import TextLimits.Proofs.Tree.Walk
import TextLimits.Proofs.Tree.Way
import TextLimits.Scan.Resolver

/-! # The files of one input

An input stands for what the walk from its start lists, as far as it is a file and the glob matches it
(`mem_files_iff`), in the order of the paths compared byte by byte from the left (`files_pairwise`).
Such a path leads from the root to the very place that the file was found at (`follow_candidate`), and
it does not end in two dots (`endsInDots_eq_false`). -/

namespace TextLimits

/-- The bytes of the segments of a path, which order paths. -/
def Path.byteKey (p : Path) : List (List UInt8) := p.segments.map fun s => nameBytes s.text

theorem nodup_of_byteKey_pairwise {paths : List Path}
    (h : paths.Pairwise fun a b => a.byteKey < b.byteKey) : paths.Nodup := by
  unfold List.Nodup
  refine h.imp ?_
  rintro a _ hlt rfl
  exact List.lt_irrefl _ hlt

namespace InputPattern

variable {top t : Tree} {root source : String} {p : InputPattern} {names : List String}

/-! ### Members -/

theorem mem_files {path : Path} :
    path ∈ p.files top root ↔
      ∃ t names, top.find? (p.start root) = some t ∧ names ∈ t.walk ∧
        (top.file? (p.start root ++ names.map .name)).isSome = true ∧
        p.glob.isMatch path.text = true ∧ path = p.candidate names := by
  unfold files
  cases hstart : top.find? (p.start root) with
  | none => simp
  | some t =>
      simp only [List.mem_map, List.mem_filter, Bool.and_eq_true]
      constructor
      · rintro ⟨names, ⟨hwalk, hfile, hmatch⟩, rfl⟩
        exact ⟨t, names, rfl, hwalk, hfile, hmatch, rfl⟩
      · rintro ⟨_, names, heq, hwalk, hfile, hmatch, rfl⟩
        cases heq
        exact ⟨names, ⟨hwalk, hfile, hmatch⟩, rfl⟩

theorem isSome_file?_below_iff {way : List Segment} {u : Tree} (ht : top.find? way = some t)
    (hw : top.WellFormed) (hdown : t.Descends names u) :
    (top.file? (way ++ names.map .name)).isSome = true ↔
      (∃ f, u = .file f) ∨ (∃ target, u = .link target) ∧
        ∃ f, top.find? (way ++ names.map .name) = some (.file f) := by
  rw [Tree.isSome_file?_iff]
  have hat := hdown.at?_eq (hw.of_find? ht)
  cases u with
  | file f =>
      have hnl : (Tree.file f).NoLink := fun _ h => by cases h
      rw [Tree.find?_append_names ht hat hnl]
      simp
  | link target => simp
  | dir entries listed =>
      have hnl : (Tree.dir entries listed).NoLink := fun _ h => by cases h
      rw [Tree.find?_append_names ht hat hnl]
      simp

/-- What a walk reaches and is found to be a file is a file, or a link that ends at one. -/
theorem mem_files_iff (hw : top.WellFormed) {path : Path} :
    path ∈ p.files top root ↔
      ∃ t names u, top.find? (p.start root) = some t ∧ t.Descends names u ∧
        (top.file? (p.start root ++ names.map .name)).isSome = true ∧
        p.glob.isMatch path.text = true ∧ path = p.candidate names := by
  rw [mem_files]
  constructor
  · rintro ⟨t, names, hstart, hwalk, hfile, hmatch, hpath⟩
    obtain ⟨u, hdown, -⟩ := Tree.mem_walk.mp hwalk
    exact ⟨t, names, u, hstart, hdown, hfile, hmatch, hpath⟩
  · rintro ⟨t, names, u, hstart, hdown, hfile, hmatch, hpath⟩
    refine ⟨t, names, hstart, Tree.mem_walk.mpr ⟨u, hdown, ?_⟩, hfile, hmatch, hpath⟩
    rcases (isSome_file?_below_iff hstart hw hdown).mp hfile with ⟨f, rfl⟩ | ⟨⟨target, rfl⟩, -⟩
    · rfl
    · rfl

/-! ### Order -/

theorem byteKey_candidate (names : List String) :
    (p.candidate names).byteKey =
      (p.base.segments.filter (· ≠ .current)).map (fun s => nameBytes s.text) ++
        names.map nameBytes := by
  rw [Path.byteKey, candidate, List.map_append, List.map_map]
  rfl

/-- The files of an input come in the order of their paths, byte by byte from the left. -/
theorem files_pairwise (hw : top.WellFormed) :
    (p.files top root).Pairwise fun a b => a.byteKey < b.byteKey := by
  unfold files
  cases hstart : top.find? (p.start root) with
  | none => exact .nil
  | some t =>
      rw [List.pairwise_map]
      refine ((Tree.walk_pairwise (hw.of_find? hstart)).filter _).imp fun {a b} hab => ?_
      rw [byteKey_candidate, byteKey_candidate]
      exact List.append_left_lt hab

theorem nodup_files (hw : top.WellFormed) : (p.files top root).Nodup :=
  nodup_of_byteKey_pairwise (files_pairwise hw)

/-! ### The base -/

theorem parse_eq_ok_iff :
    parse source = .ok p ↔
      Glob.parse (String.ofList (strip source.toList)) = .ok p.glob ∧
        p.glob.depth ≤ Regex.maxDepth ∧ p.base = baseOf (String.ofList (strip source.toList)) := by
  unfold parse
  generalize String.ofList (strip source.toList) = text
  cases hglob : Glob.parse text with
  | error e => simp [hglob, bind, Except.bind]
  | ok g =>
      simp only [hglob, bind, Except.bind]
      by_cases hdepth : Regex.maxDepth < g.depth
      · rw [if_pos hdepth]
        constructor
        · intro h
          cases h
        · rintro ⟨h, hle, -⟩
          cases h
          omega
      · rw [if_neg hdepth]
        constructor
        · intro h
          cases h
          exact ⟨rfl, Nat.not_lt.mp hdepth, rfl⟩
        · rintro ⟨h, -, hbase⟩
          cases p
          cases h
          rw [← hbase]

theorem mem_base (hp : parse source = .ok p) {s : Segment} (hs : s ∈ p.base.segments) :
    s ∈ (Path.ofText (String.ofList (strip source.toList))).segments := by
  rw [(parse_eq_ok_iff.mp hp).2.2] at hs
  exact (List.takeWhile_sublist _).mem hs

/-- A base holds a dot at most at its start, and only if it is relative. -/
theorem segments_base (hp : parse source = .ok p) :
    p.base.segments = p.base.segments.filter (· ≠ .current) ∨
      p.base.absolute = false ∧
        p.base.segments = .current :: p.base.segments.filter (· ≠ .current) := by
  rw [(parse_eq_ok_iff.mp hp).2.2]
  generalize String.ofList (strip source.toList) = text
  have hkept : ∀ q : Segment → Bool,
      ((((Path.parts text).map Segment.ofPart).filter (· ≠ .current)).takeWhile q).filter
        (· ≠ .current) =
      (((Path.parts text).map Segment.ofPart).filter (· ≠ .current)).takeWhile q := by
    intro q
    apply List.filter_eq_self.mpr
    intro s hs
    exact (List.mem_filter.mp ((List.takeWhile_sublist _).mem hs)).2
  unfold baseOf Path.ofText
  dsimp only
  split_ifs with hdot
  · refine .inr ⟨?_, ?_⟩
    · unfold Path.isAbsolute
      unfold Path.parts at hdot
      cases htext : text.toList with
      | nil => rfl
      | cons c rest =>
          rw [htext, List.splitOn_cons_eq_if_modifyHead] at hdot
          apply decide_eq_false
          rintro ⟨⟩
          rw [if_pos (beq_self_eq_true '/')] at hdot
          cases hdot
    · rw [List.takeWhile_cons_of_pos (by decide), List.filter_cons_of_neg (by simp), hkept]
  · exact .inl (hkept _).symm

/-- The path of a file leads from the root to the place where the file was found. -/
theorem follow_candidate (hp : parse source = .ok p) (hstart : top.find? (p.start root) = some t)
    (names : List String) :
    top.follow (p.start root ++ names.map .name) =
      top.follow (Path.stepsFrom root (p.candidate names)) := by
  have hbase := segments_base hp
  unfold start at hstart ⊢
  unfold Path.stepsFrom candidate
  dsimp only
  generalize p.base.segments.filter (· ≠ .current) = kept at hbase
  rcases hbase with hbase | ⟨hrel, hbase⟩
  · rw [hbase] at hstart ⊢
    cases habs : p.base.absolute with
    | true => rfl
    | false =>
        rw [habs, if_neg Bool.false_ne_true] at hstart
        rw [if_neg Bool.false_ne_true, if_neg Bool.false_ne_true]
        cases kept with
        | nil =>
            have hdot := Tree.directory_of_find? hstart
            rw [Path.below_nil, hdot] at hstart ⊢
            rw [List.append_assoc]
            exact Tree.follow_append_current_of_find? hstart
        | cons s kept => rw [Path.below_of_ne_nil (List.cons_ne_nil s kept), List.append_assoc]
  · rw [hbase, hrel, if_neg Bool.false_ne_true, Path.below_of_ne_nil (List.cons_ne_nil _ _)] at hstart ⊢
    rw [if_neg Bool.false_ne_true, List.append_assoc]
    exact Tree.follow_append_current_of_find? hstart

theorem find?_candidate (hp : parse source = .ok p) (hstart : top.find? (p.start root) = some t)
    (names : List String) :
    top.find? (p.start root ++ names.map .name) =
      top.find? (Path.stepsFrom root (p.candidate names)) := by
  unfold Tree.find?
  rw [follow_candidate hp hstart]

theorem exists_file_of_mem_files (hp : parse source = .ok p) {path : Path}
    (h : path ∈ p.files top root) : ∃ f, top.find? (Path.stepsFrom root path) = some (.file f) := by
  obtain ⟨t, names, hstart, -, hfile, -, rfl⟩ := mem_files.mp h
  rw [← find?_candidate hp hstart]
  exact Tree.isSome_file?_iff.mp hfile

end InputPattern

/-! ### Paths that end in two dots -/

theorem endsInDots_concat (absolute : Bool) (init : List Segment) {last : Segment}
    (hlast : last.IsProper) :
    ExcludeFilter.endsInDots (Path.mk absolute (init ++ [last])).text = decide (last = .parent) := by
  obtain ⟨front, heq, hfront⟩ := Path.exists_toList_text_concat absolute init last
  have htake : (front ++ last.text.toList).reverse.takeWhile (· ≠ '/') =
      last.text.toList.reverse := by
    rw [List.reverse_append, List.takeWhile_append_of_pos]
    · rcases hfront with rfl | ⟨rest, rfl⟩ <;> simp
    · intro c hc
      have hmem := List.mem_reverse.mp hc
      exact decide_eq_true fun h => Segment.not_mem_text hlast (h ▸ hmem)
  unfold ExcludeFilter.endsInDots
  rw [heq, htake]
  apply decide_eq_decide.mpr
  constructor
  · intro hdots
    have htext : last.text = ".." := by
      apply String.toList_inj.mp
      rw [← List.reverse_reverse last.text.toList, hdots]
      rfl
    cases last with
    | current => exact absurd htext (by decide)
    | name s => exact absurd htext hlast.2.2.1
    | parent => rfl
  · rintro rfl
    decide

theorem endsInDots_eq_false {top : Tree} {root : String} {path : Path} {f : File}
    (hproper : ∀ s ∈ path.segments, s.IsProper)
    (hfile : top.find? (Path.stepsFrom root path) = some (.file f)) :
    ExcludeFilter.endsInDots path.text = false := by
  obtain ⟨absolute, segments⟩ := path
  rcases List.eq_nil_or_concat segments with rfl | ⟨init, last, hsegments⟩
  · cases absolute <;> decide
  · rw [List.concat_eq_append] at hsegments
    subst hsegments
    rw [endsInDots_concat absolute init (hproper last (by simp))]
    apply decide_eq_false
    rintro rfl
    have hdir : (Tree.file f).isDir = true := by
      cases absolute with
      | true => exact Tree.find?_concat_parent hfile
      | false =>
          apply Tree.find?_concat_parent (a := Path.steps root ++ init)
          rw [List.append_assoc]
          exact hfile
    cases hdir

end TextLimits
