import TextLimits.Proofs.Glob.Trees
import TextLimits.Proofs.Scan.Filtering

/-! # Excluding directories

An exclusion of two stars below some directories rejects the paths that have these directories in front of
something else, and with two stars and a slash before them it rejects the paths that pass through them
anywhere (`ExcludeFilter.includes_directory`).  Both speak of whole names, whatever stands in them. -/

namespace TextLimits

variable {dirs names : List String}

/-! ### Names and the parts of their text -/

theorem isOrdinary_of_mem_intercalate (hdirs : ∀ d ∈ dirs, Glob.IsLiteralName d) :
    ∀ c ∈ ("/".intercalate dirs).toList, Glob.IsOrdinary c := by
  intro c hc
  rw [String.toList_intercalate] at hc
  rcases mem_intercalate hc with rfl | ⟨part, hpart, hmem⟩
  · decide
  · obtain ⟨d, hd, rfl⟩ := List.mem_map.mp hpart
    exact (hdirs d hd).2 c hmem

theorem splitOn_intercalate_names (hne : names ≠ []) (hnames : ∀ n ∈ names, IsEntryName n) :
    ("/".intercalate names).toList.splitOn '/' = names.map String.toList := by
  rw [← Path.text_names]
  exact Path.parts_names hne hnames

theorem map_toList_eq_append_iff {rest : List (List Char)} :
    names.map String.toList = dirs.map String.toList ++ rest ↔
      ∃ below, names = dirs ++ below ∧ below.map String.toList = rest := by
  constructor
  · intro h
    obtain ⟨before, below, rfl, hbefore, rfl⟩ := List.map_eq_append_iff.mp h
    rw [List.map_injective_iff.mpr (fun _ _ => String.toList_injective) hbefore]
    exact ⟨below, rfl, rfl⟩
  · rintro ⟨below, rfl, rfl⟩
    exact List.map_append

theorem parts_names_eq_append_iff (hnames : ∀ n ∈ names, IsEntryName n) (hdirs : dirs ≠ [])
    {front rest : List (List Char)} (hrest : rest ≠ []) :
    Path.parts (Path.mk false (names.map .name)).text =
        front ++ (dirs.map String.toList ++ rest) ↔
      ∃ before below, names = before ++ (dirs ++ below) ∧ before.map String.toList = front ∧
        below.map String.toList = rest := by
  by_cases hnil : names = []
  · subst hnil
    have hempty : Path.parts (Path.mk false (([] : List String).map .name)).text = [[]] := by decide
    have hdirs := List.length_pos_iff.mpr hdirs
    have hrest := List.length_pos_iff.mpr hrest
    refine iff_of_false (fun h => ?_) ?_
    · have hlength := congrArg List.length (hempty.symm.trans h)
      simp only [List.length_cons, List.length_nil, List.length_append, List.length_map] at hlength
      omega
    · rintro ⟨before, below, h, -⟩
      have hlength := congrArg List.length h
      simp only [List.length_nil, List.length_append] at hlength
      omega
  · rw [Path.parts_names hnil hnames]
    constructor
    · intro h
      obtain ⟨before, behind, rfl, rfl, hbehind⟩ := List.map_eq_append_iff.mp h
      obtain ⟨below, rfl, rfl⟩ := map_toList_eq_append_iff.mp hbehind
      exact ⟨before, below, rfl, rfl, rfl⟩
    · rintro ⟨before, below, rfl, rfl, rfl⟩
      rw [List.map_append, List.map_append]

theorem parts_below_iff (hnames : ∀ n ∈ names, IsEntryName n) (hdirs : dirs ≠ []) :
    (∃ rest, rest ≠ [] ∧
        Path.parts (Path.mk false (names.map .name)).text = dirs.map String.toList ++ rest) ↔
      dirs <+: names ∧ dirs ≠ names := by
  constructor
  · rintro ⟨rest, hrest, h⟩
    change _ = [] ++ _ at h
    obtain ⟨before, below, rfl, hbefore, rfl⟩ := (parts_names_eq_append_iff hnames hdirs hrest).mp h
    obtain rfl := List.map_eq_nil_iff.mp hbefore
    exact ⟨List.prefix_append dirs below, by simpa using hrest⟩
  · rintro ⟨⟨below, rfl⟩, hproper⟩
    have hbelow : below.map String.toList ≠ [] := by simpa using hproper
    refine ⟨below.map String.toList, hbelow, ?_⟩
    change _ = [] ++ _
    exact (parts_names_eq_append_iff hnames hdirs hbelow).mpr ⟨[], below, rfl, rfl, rfl⟩

theorem parts_anywhere_iff (hnames : ∀ n ∈ names, IsEntryName n) (hdirs : dirs ≠ []) :
    (∃ front rest, rest ≠ [] ∧ Path.parts (Path.mk false (names.map .name)).text =
        front ++ (dirs.map String.toList ++ rest)) ↔
      ∃ before below, names = before ++ (dirs ++ below) ∧ below ≠ [] := by
  constructor
  · rintro ⟨front, rest, hrest, h⟩
    obtain ⟨before, below, rfl, -, rfl⟩ := (parts_names_eq_append_iff hnames hdirs hrest).mp h
    exact ⟨before, below, rfl, by simpa using hrest⟩
  · rintro ⟨before, below, rfl, hbelow⟩
    have hmap : below.map String.toList ≠ [] := by simpa using hbelow
    exact ⟨before.map String.toList, below.map String.toList, hmap,
      (parts_names_eq_append_iff hnames hdirs hmap).mpr ⟨before, below, rfl, rfl, rfl⟩⟩

namespace ExcludeFilter

/-! ### Filters of one glob -/

theorem endsInDots_names (hnames : ∀ n ∈ names, IsEntryName n) :
    endsInDots (Path.mk false (names.map .name)).text = false := by
  rcases List.eq_nil_or_concat names with rfl | ⟨init, last, rfl⟩
  · decide
  · rw [List.concat_eq_append, List.map_append]
    have hlast : (Segment.name last).IsProper := hnames last (by simp)
    exact (endsInDots_concat false (init.map .name) hlast).trans (by simp)

/-- The filter of a text that is a glob without groups, and which names it rejects. -/
theorem exists_ofSources_of_tokens? {source : String} {tokens : List Glob.Token}
    (h : Glob.tokens? source.toList = some tokens) (hgroups : Glob.groups tokens = [])
    (hstars : tokens ≠ [.treePrefix]) :
    ∃ f, ofSources [source] = .ok f ∧ ∀ names : List String, (∀ n ∈ names, IsEntryName n) →
      (f.includes (Path.mk false (names.map .name)).text = false ↔
        Glob.ListAccepts tokens (Utf8.encode (Path.mk false (names.map .name)).text.toList)) := by
  have hglob : Glob.parse source = .ok ⟨source, tokens⟩ := Glob.parse_eq_ok_iff.mpr ⟨rfl, h⟩
  have hf : ofSources [source] = .ok ⟨[⟨source, tokens⟩]⟩ := by
    refine ofSources_eq_ok_iff.mpr ⟨.cons hglob .nil, fun g hg => ?_⟩
    rw [List.mem_singleton.mp hg]
    exact Glob.depth_le_maxDepth hgroups
  refine ⟨_, hf, fun names hnames => ?_⟩
  rw [← Bool.not_eq_true, includes_iff (endsInDots_names hnames)]
  simp only [List.mem_singleton, forall_eq, Bool.not_eq_false, Glob.isMatch_iff, or_iff_right hstars]

/-! ### Directories -/

theorem toList_intercalate_stars (hdirs : dirs ≠ []) :
    ("/".intercalate (dirs ++ ["**"])).toList =
      ("/".intercalate dirs).toList ++ ['/'] ++ ['*', '*'] := by
  rw [String.intercalate_append_of_ne_nil hdirs (List.cons_ne_nil _ _), String.toList_append,
    String.toList_append, String.intercalate_singleton]
  rfl

theorem toList_stars_intercalate_stars (hdirs : dirs ≠ []) :
    ("/".intercalate ("**" :: (dirs ++ ["**"]))).toList =
      ['*', '*', '/'] ++ (("/".intercalate dirs).toList ++ ['/'] ++ ['*', '*']) := by
  rw [String.intercalate_cons_of_ne_nil (by simp), String.toList_append, String.toList_append,
    toList_intercalate_stars hdirs]
  rfl

/-- **Two stars below some directories reject what is beneath them, and nothing else**: the paths of
which the directories are a proper beginning.  With two stars and a slash in front, the directories may
stand anywhere in the path, as long as something comes after them. -/
theorem includes_directory (hne : dirs ≠ []) (hdirs : ∀ d ∈ dirs, Glob.IsLiteralName d) :
    (∃ f, ofSources ["/".intercalate (dirs ++ ["**"])] = .ok f ∧
      ∀ names : List String, (∀ n ∈ names, IsEntryName n) →
        (f.includes (Path.mk false (names.map .name)).text = false ↔ dirs <+: names ∧ dirs ≠ names)) ∧
    ∃ f, ofSources ["/".intercalate ("**" :: (dirs ++ ["**"]))] = .ok f ∧
      ∀ names : List String, (∀ n ∈ names, IsEntryName n) →
        (f.includes (Path.mk false (names.map .name)).text = false ↔
          ∃ before below, names = before ++ (dirs ++ below) ∧ below ≠ []) := by
  have hordinary := isOrdinary_of_mem_intercalate hdirs
  have hparts := splitOn_intercalate_names hne fun d hd => (hdirs d hd).1
  have hgroups := Glob.groups_subtree ("/".intercalate dirs).toList
  constructor
  · have htokens := Glob.tokens?_subtree hordinary
    rw [← toList_intercalate_stars hne] at htokens
    obtain ⟨f, hf, hincludes⟩ := exists_ofSources_of_tokens? htokens hgroups (Glob.subtree_ne _)
    refine ⟨f, hf, fun names hnames => ?_⟩
    rw [hincludes names hnames, Glob.listAccepts_subtree_iff, hparts]
    exact parts_below_iff hnames hne
  · have htokens := Glob.tokens?_anySubtree hordinary
    rw [← toList_stars_intercalate_stars hne] at htokens
    obtain ⟨f, hf, hincludes⟩ := exists_ofSources_of_tokens? htokens hgroups (by simp)
    refine ⟨f, hf, fun names hnames => ?_⟩
    rw [hincludes names hnames, Glob.listAccepts_anySubtree_iff, hparts]
    exact parts_anywhere_iff hnames hne

/-- A directory that a path passes through twice is found; names that only begin or end like it, and
the name at the end of a path, are none. -/
theorem includes_directory_sample :
    ∃ f, ofSources ["/".intercalate ["**", "obj", "**"]] = .ok f ∧
      f.includes (Path.mk false (["src", "obj", "obj", "a.rs"].map .name)).text = false ∧
      f.includes (Path.mk false (["obj2", "my obj", "obj"].map .name)).text = true := by
  have hdirs : ∀ d ∈ ["obj"], Glob.IsLiteralName d := by decide +kernel
  obtain ⟨-, f, hf, hincludes⟩ := includes_directory (List.cons_ne_nil _ _) hdirs
  refine ⟨f, hf, (hincludes _ (by decide +kernel)).mpr ⟨["src"], ["obj", "a.rs"], rfl, by simp⟩, ?_⟩
  rw [← Bool.not_eq_false, hincludes _ (by decide +kernel)]
  rintro ⟨before, below, h, hbelow⟩
  have hmem : "obj" ∈ ["obj2", "my obj", "obj"].dropLast := by
    rw [h, ← List.append_assoc, List.dropLast_append_of_ne_nil hbelow]
    simp
  exact absurd hmem (by decide)

end ExcludeFilter

end TextLimits
