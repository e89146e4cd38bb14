import TextLimits.Proofs.Glob.Escape
import TextLimits.Proofs.Scan.Joining

/-! # Inputs that name a file

The glob of an input without special characters matches its own text, while the walk starts at the
path that the text names, which is printed without empty parts and dots.  So the input resolves to
the file that it names if it is written as paths are printed, and else to nothing
(`Resolver.resolve_plain`).  Dots and slashes at the very start are no matter, unless they hide a slash
that makes the text absolute. -/

namespace TextLimits

namespace InputPattern

variable {top : Tree} {root source text : String} {p : InputPattern} {path : Path}
  {place : List String}

/-! ### Globs of literals -/

theorem current_not_mem_candidate (names : List String) : .current ∉ (p.candidate names).segments := by
  intro h
  rcases List.mem_append.mp h with h | h
  · exact of_decide_eq_true (List.mem_filter.mp h).2 rfl
  · obtain ⟨name, -, hname⟩ := List.mem_map.mp h
    cases hname

theorem candidate_of_mem_files (hw : top.WellFormed) (hp : parse source = .ok p)
    (h : path ∈ p.files top root) : (∀ s ∈ path.segments, s.IsProper) ∧ .current ∉ path.segments := by
  obtain ⟨t, names, hstart, hwalk, -, -, rfl⟩ := mem_files.mp h
  exact ⟨candidate_isProper hp (isEntryName_of_mem_walk hw hstart hwalk),
    current_not_mem_candidate names⟩

/-- Literals match the one path that their text names, if it is written so. -/
theorem eq_of_mem_files_literals (hw : top.WellFormed) (hp : parse source = .ok p)
    (htokens : p.glob.tokens = text.toList.map .literal) (h : path ∈ p.files top root) :
    path = Path.ofText text ∧ path.text = text := by
  obtain ⟨hproper, hdot⟩ := candidate_of_mem_files hw hp h
  obtain ⟨-, -, -, -, -, hmatch, -⟩ := mem_files.mp h
  have htext : path.text = text := String.toList_inj.mp ((Glob.isMatch_literals_iff htokens).mp hmatch)
  refine ⟨?_, htext⟩
  rw [← htext, Path.ofText_text hproper hdot]

theorem files_eq_singleton (hw : top.WellFormed) (honly : ∀ q ∈ p.files top root, q = path)
    (h : path ∈ p.files top root) : p.files top root = [path] := by
  apply eq_of_byteKey_pairwise (files_pairwise hw) (List.pairwise_singleton _ _)
  intro q
  rw [List.mem_singleton]
  exact ⟨honly q, fun hq => hq ▸ h⟩

theorem files_eq_nil (honly : ∀ q ∈ p.files top root, q = path) (h : path ∉ p.files top root) :
    p.files top root = [] :=
  List.eq_nil_iff_forall_not_mem.mpr fun q hq => h (honly q hq ▸ hq)

/-! ### Reading literals -/

/-- The text of an input as its glob and its base are read from it. -/
def stripped (source : String) : String := String.ofList (strip source.toList)

theorem stripped_eq_self (h : ¬ ['.', '/'] <+: source.toList) : stripped source = source := by
  unfold stripped strip
  split
  · next rest heq => exact absurd ⟨rest, heq.symm⟩ h
  · exact String.ofList_toList

theorem mem_stripped {c : Char} (h : c ∈ (stripped source).toList) : c ∈ source.toList := by
  rw [stripped, String.toList_ofList] at h
  exact (strip_suffix source.toList).mem h

theorem filter_parts_stripped (source : String) :
    ((Path.parts (stripped source)).map Segment.ofPart).filter (· ≠ .current) =
      ((Path.parts source).map Segment.ofPart).filter (· ≠ .current) := by
  have hstrip : ∀ text : List Char,
      (((strip text).splitOn '/').map Segment.ofPart).filter (· ≠ .current) =
        ((text.splitOn '/').map Segment.ofPart).filter (· ≠ .current) := by
    intro text
    fun_induction strip text with
    | case1 rest ih =>
        have hsplit : ('.' :: '/' :: rest).splitOn '/' = ['.'].splitOn '/' ++ rest.splitOn '/' :=
          List.splitOn_append_cons_self ['.'] rest
        rw [ih, hsplit, List.map_append, List.filter_append]
        rfl
    | case2 text => rfl
  unfold Path.parts stripped
  rw [String.toList_ofList]
  exact hstrip source.toList

theorem exists_parse_of_stripped (h : stripped source = Glob.escape text) :
    ∃ p, parse source = .ok p ∧ p.base = baseOf (stripped source) ∧
      p.glob.tokens = text.toList.map .literal := by
  have hglob := Glob.parse_escape text
  rw [← h] at hglob
  exact ⟨⟨_, _⟩, parse_eq_ok_iff.mpr
    ⟨hglob, Glob.depth_le_maxDepth (Glob.groups_literals _), rfl⟩, rfl, rfl⟩

theorem isMeta_of_special {c : Char} (h : (c = '*' || c = '?' || c = '[' || c = '{') = true) :
    Glob.IsMeta c := by
  simp only [Bool.or_eq_true, decide_eq_true_eq] at h
  rcases h with ((rfl | rfl) | rfl) | rfl <;> decide

theorem baseOf_plain (hplain : ∀ c ∈ text.toList, ¬ Glob.IsMeta c) : baseOf text = Path.ofText text := by
  have hall : ∀ s ∈ (Path.ofText text).segments, (!isSpecial s) = true := by
    intro s hs
    rcases Path.mem_segments_ofText hs with rfl | ⟨part, hpart, rfl⟩
    · decide
    · rw [isSpecial_ofPart, Bool.not_eq_true', List.any_eq_false]
      intro c hc hspecial
      exact hplain c (mem_of_mem_splitOn hpart hc).1 (isMeta_of_special hspecial)
  unfold baseOf
  dsimp only
  rw [List.takeWhile_eq_self_iff.mpr hall]

/-- A text without special characters is an input of literals, with the path that it names for its
base. -/
theorem exists_parse_plain (hplain : ∀ c ∈ source.toList, ¬ Glob.IsMeta c) :
    ∃ p, parse source = .ok p ∧ p.base = Path.ofText (stripped source) ∧
      p.glob.tokens = (stripped source).toList.map .literal := by
  have hstripped : ∀ c ∈ (stripped source).toList, ¬ Glob.IsMeta c := fun c hc =>
    hplain c (mem_stripped hc)
  rw [← baseOf_plain hstripped]
  exact exists_parse_of_stripped (Glob.escape_eq_self_iff.mpr hstripped).symm

/-! ### Files at the base -/

theorem start_eq_stepsFrom (h : p.base.absolute = true ∨ p.base.segments ≠ []) :
    p.start root = Path.stepsFrom root p.base := by
  unfold start Path.stepsFrom
  cases habsolute : p.base.absolute with
  | true => rfl
  | false =>
      rw [habsolute] at h
      have hne : p.base.segments ≠ [] := h.resolve_left Bool.false_ne_true
      rw [if_neg Bool.false_ne_true, if_neg Bool.false_ne_true, Path.below_of_ne_nil hne]

theorem base_mem_files (hstart : p.start root = Path.stepsFrom root p.base)
    (hdot : .current ∉ p.base.segments) (hmatch : p.glob.isMatch p.base.text = true)
    (hfile : (top.file? (Path.stepsFrom root p.base)).isSome = true) :
    p.base ∈ p.files top root := by
  obtain ⟨f, hf⟩ := Tree.isSome_file?_iff.mp hfile
  rw [← hstart] at hfile hf
  refine mem_files.mpr ⟨.file f, [], hf, Tree.nil_mem_walk.mpr rfl, ?_, hmatch, ?_⟩
  · rw [List.map_nil, List.append_nil]
    exact hfile
  · have hkept : p.base.segments.filter (· ≠ .current) = p.base.segments :=
      List.filter_eq_self.mpr fun s hs => decide_eq_true fun h => hdot (h ▸ hs)
    unfold candidate
    rw [hkept, List.map_nil, List.append_nil]

theorem segments_ne_nil_of_mem_files (hp : parse source = .ok p) (hrel : p.base.absolute = false)
    (h : path ∈ p.files top root) : path.segments ≠ [] := by
  obtain ⟨t, names, hstart, hwalk, -, -, rfl⟩ := mem_files.mp h
  intro hnil
  obtain ⟨hbase, hnames⟩ := List.append_eq_nil_iff.mp hnil
  exact ne_nil_of_mem_walk_start hp hrel hstart hbase hwalk (List.map_eq_nil_iff.mp hnames)

/-- A relative input of literals has files only if its text is in normal form. -/
theorem isNormal_of_mem_files (hw : top.WellFormed) (hp : parse source = .ok p)
    (hrel : p.base.absolute = false) (htokens : p.glob.tokens = text.toList.map .literal)
    (h : path ∈ p.files top root) : Path.IsNormal text := by
  obtain ⟨hproper, hdot⟩ := candidate_of_mem_files hw hp h
  have hne := segments_ne_nil_of_mem_files hp hrel h
  have htext := (eq_of_mem_files_literals hw hp htokens h).2
  obtain ⟨t, names, -, -, -, -, rfl⟩ := mem_files.mp h
  have hpath : p.candidate names = ⟨false, (p.candidate names).segments⟩ := by
    rw [← hrel]
    rfl
  rw [← htext, hpath]
  exact Path.isNormal_text hne hproper hdot

theorem current_not_mem_base (hp : parse source = .ok p) (habsolute : p.base.absolute = true) :
    .current ∉ p.base.segments := by
  intro hmem
  rcases segments_base hp with h | ⟨hrel, -⟩
  · rw [h] at hmem
    exact of_decide_eq_true (List.mem_filter.mp hmem).2 rfl
  · rw [habsolute] at hrel
    cases hrel

theorem files_of_absolute_literals (hw : top.WellFormed) (hp : parse source = .ok p)
    (hbase : p.base = Path.ofText text) (habsolute : Path.isAbsolute text = true)
    (htokens : p.glob.tokens = text.toList.map .literal) :
    p.files top root =
      if (Path.ofText text).text = text ∧ (top.file? (Path.ofText text).segments).isSome
      then [Path.ofText text] else [] := by
  have honly : ∀ q ∈ p.files top root, q = Path.ofText text := fun q hq =>
    (eq_of_mem_files_literals hw hp htokens hq).1
  have hway : Path.stepsFrom root (Path.ofText text) = (Path.ofText text).segments :=
    if_pos habsolute
  have hbaseAbsolute : p.base.absolute = true := by
    rw [hbase, Path.absolute_ofText, habsolute]
  split_ifs with hwritten
  · obtain ⟨htext, hfile⟩ := hwritten
    refine files_eq_singleton hw honly ?_
    rw [← hbase] at htext hfile hway ⊢
    rw [← hway] at hfile
    refine base_mem_files (start_eq_stepsFrom (.inl hbaseAbsolute))
      (current_not_mem_base hp hbaseAbsolute) ?_ hfile
    exact (Glob.isMatch_literals_iff htokens).mpr (congrArg String.toList htext)
  · refine files_eq_nil honly fun h =>
      hwritten ⟨(eq_of_mem_files_literals hw hp htokens h).2, ?_⟩
    have hfile := exists_file_of_mem_files hp h
    rwa [hway, ← Tree.isSome_file?_iff] at hfile

end InputPattern

namespace Resolver

variable {top : Tree} {root source : String}

theorem exists_resolve_eq_files (root : String) (hw : top.WellFormed) {p : InputPattern}
    (hp : InputPattern.parse source = .ok p) :
    ∃ r, ofSources root [source] [] = .ok r ∧ r.resolve top = p.files top root := by
  refine ⟨⟨root, [p], ⟨[]⟩⟩, ofSources_eq_ok_iff.mpr ⟨rfl, rfl, .cons hp .nil⟩, ?_⟩
  have hkept : filesOf ⟨root, [p], ⟨[]⟩⟩ top p = (p.files top root).filter fun _ => true := rfl
  unfold resolve
  rw [List.flatMap_singleton, hkept, List.filter_true,
    eraseDups_of_nodup (InputPattern.nodup_files hw)]

/-- The path that a text in normal form names leads from the root to where the text joined to it
leads. -/
theorem follow_ofText_stripped (hrel : Path.isAbsolute source = false) {place : List String}
    (hnormal : Path.IsNormal (InputPattern.stripped source))
    (hplace : top.follow (Path.steps (Path.joinText root source)) = some place) :
    top.follow (Path.stepsFrom root (Path.ofText (InputPattern.stripped source))) = some place := by
  rw [Path.steps_joinText_of_relative root hrel] at hplace
  have hkept := Tree.follow_append_filter hplace
  have hsegments : (Path.steps source).filter (· ≠ .current) =
      (Path.ofText (InputPattern.stripped source)).segments := by
    rw [Path.filter_steps, ← InputPattern.filter_parts_stripped, hnormal.filter_parts, hnormal.ofText]
  have hway : Path.stepsFrom root (Path.ofText (InputPattern.stripped source)) =
      Path.steps root ++ (Path.ofText (InputPattern.stripped source)).segments := by
    unfold Path.stepsFrom
    rw [hnormal.ofText]
    rfl
  obtain ⟨s, rest, hcons⟩ := List.exists_cons_of_ne_nil hnormal.segments_ne_nil
  rw [hsegments, hcons, ← Tree.follow_steps_append, ← hcons, ← hway] at hkept
  exact hkept

open InputPattern (stripped) in
/-- **A text without special characters that names a file from the root resolves to this file, if it
is written as paths are printed**: without empty parts and dots, apart from dots and slashes at its
start.  Written in another way it resolves to nothing.  If an absolute text is left when its start is
stripped, it resolves to the file with that path, and the root plays no part. -/
theorem resolve_plain (hw : top.WellFormed) (hplain : ∀ c ∈ source.toList, ¬ Glob.IsMeta c)
    (hrel : Path.isAbsolute source = false) {place : List String} {f : File}
    (hplace : top.follow (Path.steps (Path.joinText root source)) = some place)
    (hat : top.at? place = some (.file f)) :
    ∃ r, ofSources root [source] [] = .ok r ∧
      (Path.IsNormal (stripped source) →
        r.resolve top = [Path.ofText (stripped source)] ∧
        top.follow (Path.steps (Path.joinText root (Path.ofText (stripped source)).text)) =
          some place) ∧
      (¬ Path.IsNormal (stripped source) → Path.isAbsolute (stripped source) = false →
        r.resolve top = []) ∧
      (Path.isAbsolute (stripped source) = true →
        r.resolve top =
          if (Path.ofText (stripped source)).text = stripped source ∧
            (top.file? (Path.ofText (stripped source)).segments).isSome
          then [Path.ofText (stripped source)] else []) := by
  obtain ⟨p, hp, hbase, htokens⟩ := InputPattern.exists_parse_plain hplain
  obtain ⟨r, hr, hresolve⟩ := exists_resolve_eq_files root hw hp
  have honly : ∀ q ∈ p.files top root, q = Path.ofText (stripped source) := fun q hq =>
    (InputPattern.eq_of_mem_files_literals hw hp htokens hq).1
  refine ⟨r, hr, ?_⟩
  rw [hresolve]
  refine ⟨fun hnormal => ?_, fun hnormal hrelative => ?_, fun habsolute => ?_⟩
  · have hfollow := follow_ofText_stripped hrel hnormal hplace
    have hproper : ∀ s ∈ (Path.ofText (stripped source)).segments, s.IsProper := fun s hs =>
      Path.isProper_of_mem_ofText hs
    rw [Tree.follow_joinText hnormal.segments_ne_nil hproper, hfollow]
    refine ⟨InputPattern.files_eq_singleton hw honly ?_, rfl⟩
    rw [← hbase] at hfollow ⊢
    refine InputPattern.base_mem_files ?_ ?_ ?_ ?_
    · exact InputPattern.start_eq_stepsFrom (.inr (hbase ▸ hnormal.segments_ne_nil))
    · exact hbase ▸ hnormal.current_not_mem
    · rw [Glob.isMatch_literals_iff htokens, hbase, hnormal.text_ofText]
    · exact Tree.isSome_file?_iff.mpr ⟨f, Tree.find?_eq_some_iff.mpr ⟨place, hfollow, hat⟩⟩
  · have hbaseRelative : p.base.absolute = false := by
      rw [hbase, Path.absolute_ofText, hrelative]
    exact InputPattern.files_eq_nil honly fun h =>
      hnormal (InputPattern.isNormal_of_mem_files hw hp hbaseRelative htokens h)
  · exact InputPattern.files_of_absolute_literals hw hp hbase habsolute htokens

/-- Seen from the link of the sample, the file is above and below again. -/
theorem resolve_plain_sample :
    ∃ r, ofSources "/alias" ["././../src/a.rs"] [] = .ok r ∧
      r.resolve Tree.sample = [Path.ofText "../src/a.rs"] ∧
      Tree.sample.follow (Path.steps (Path.joinText "/alias" (Path.ofText "../src/a.rs").text)) =
        some ["src", "a.rs"] := by
  have hplace : Tree.sample.follow (Path.steps (Path.joinText "/alias" "././../src/a.rs")) =
      some ["src", "a.rs"] := by decide +kernel
  have hstripped : InputPattern.stripped "././../src/a.rs" = "../src/a.rs" := by decide +kernel
  have hplain : ∀ c ∈ "././../src/a.rs".toList, ¬ Glob.IsMeta c := by simp [Glob.IsMeta]
  obtain ⟨r, hr, hnormal, -, -⟩ :=
    resolve_plain Tree.sample_wellFormed hplain (by decide +kernel) hplace rfl
  rw [hstripped] at hnormal
  exact ⟨r, hr, hnormal (by decide +kernel)⟩

/-- The text of a file with a slash written twice resolves to nothing. -/
theorem resolve_doubled_slash :
    Tree.sample.follow (Path.steps (Path.joinText "/" "src//a.rs")) = some ["src", "a.rs"] ∧
      ∃ r, ofSources "/" ["src//a.rs"] [] = .ok r ∧ r.resolve Tree.sample = [] := by
  have hp : InputPattern.parse "src//a.rs" = .ok
      ⟨⟨"src//a.rs", "src//a.rs".toList.map .literal⟩, ⟨false, [.name "src", .name "a.rs"]⟩⟩ :=
    InputPattern.parse_eq_ok_iff.mpr
      ⟨Glob.parse_eq_ok_iff.mpr ⟨by decide +kernel, by rfl⟩, by decide +kernel, by decide +kernel⟩
  obtain ⟨r, hr, hresolve⟩ := exists_resolve_eq_files "/" Tree.sample_wellFormed hp
  exact ⟨by decide +kernel, r, hr, hresolve.trans (by decide +kernel)⟩

end Resolver

end TextLimits
