import TextLimits.Proofs.Scan.Directories
import TextLimits.Proofs.Scan.Escaping

/-! # Inputs at every depth

An input of some directories, two stars, and a star in front of a suffix has the directories for its base,
and its glob matches the paths below them whose last name ends in the suffix.  So it resolves to the files
that the walk from the directories reaches with such a name, at any depth (`Resolver.resolve_recursive`). -/

namespace TextLimits

variable {top : Tree} {root suffix : String} {dirs names : List String} {path : Path}

/-- Some names lead down to a file from the end of a way, through directories that can be listed and no link
to one.  The last of them may be that of a link to a file. -/
def Tree.FileBelow (top : Tree) (way : List Segment) (names : List String) : Prop :=
  (∃ t u, top.find? way = some t ∧ t.Descends names u) ∧
    (top.file? (way ++ names.map .name)).isSome = true

/-- The input for the files below some directories whose names end in a suffix. -/
def recursiveSource (dirs : List String) (suffix : String) : String :=
  "/".intercalate (dirs ++ ["**", "*" ++ suffix])

/-! ### Reading the input -/

/-- A suffix that stands for itself and for nothing but the end of one name. -/
def IsLiteralSuffix (suffix : String) : Prop := ∀ c ∈ suffix.toList, c ≠ '/' ∧ Glob.IsOrdinary c

instance (suffix : String) : Decidable (IsLiteralSuffix suffix) :=
  List.decidableBAll (fun c => c ≠ '/' ∧ Glob.IsOrdinary c) suffix.toList

theorem IsLiteralSuffix.slash_not_mem (h : IsLiteralSuffix suffix) : '/' ∉ suffix.toList :=
  fun hmem => (h _ hmem).1 rfl

theorem isEntryName_stars : IsEntryName "**" := by decide

theorem isEntryName_star_append (hsuffix : IsLiteralSuffix suffix) : IsEntryName ("*" ++ suffix) := by
  have htext : ("*" ++ suffix).toList = '*' :: suffix.toList := String.toList_append
  have hne : ∀ text : String, '*' ∉ text.toList → "*" ++ suffix ≠ text := by
    rintro text hstar rfl
    rw [htext] at hstar
    exact hstar List.mem_cons_self
  refine ⟨hne _ (by decide), hne _ (by decide), hne _ (by decide), ?_⟩
  rw [htext, List.mem_cons, not_or]
  exact ⟨by decide, hsuffix.slash_not_mem⟩

theorem isEntryName_of_mem_recursive (hdirs : ∀ d ∈ dirs, Glob.IsLiteralName d)
    (hsuffix : IsLiteralSuffix suffix) : ∀ n ∈ dirs ++ ["**", "*" ++ suffix], IsEntryName n := by
  intro n hn
  rcases List.mem_append.mp hn with hn | hn
  · exact (hdirs n hn).1
  · rcases List.mem_pair.mp hn with rfl | rfl
    · exact isEntryName_stars
    · exact isEntryName_star_append hsuffix

theorem exists_tokens?_recursive (hdirs : ∀ d ∈ dirs, Glob.IsLiteralName d)
    (hsuffix : IsLiteralSuffix suffix) :
    ∃ tokens, Glob.tokens? (recursiveSource dirs suffix).toList = some tokens ∧
      Glob.groups tokens = [] ∧ tokens ≠ [.treePrefix] ∧ ∀ text : List Char,
        Glob.ListAccepts tokens (Utf8.encode text) ↔
          ∃ front last, text.splitOn '/' = dirs.map String.toList ++ (front ++ [last]) ∧
            suffix.toList <:+ last := by
  have hstars : ("/".intercalate ["**", "*" ++ suffix]).toList =
      ['*', '*', '/'] ++ '*' :: suffix.toList := by
    rw [String.intercalate_cons_of_ne_nil (List.cons_ne_nil _ _), String.intercalate_singleton,
      String.toList_append, String.toList_append, String.toList_append]
    rfl
  have hordinary : ∀ c ∈ suffix.toList, Glob.IsOrdinary c := fun c hc => (hsuffix c hc).2
  by_cases hne : dirs = []
  · subst hne
    have htokens := Glob.tokens?_recursive hordinary
    rw [← hstars] at htokens
    refine ⟨_, htokens, ?_, by simp, fun text => ?_⟩
    · exact Glob.groups_literals suffix.toList
    · exact Glob.listAccepts_recursive_iff hsuffix.slash_not_mem
  · have hbelow : (recursiveSource dirs suffix).toList =
        ("/".intercalate dirs).toList ++ ['/'] ++ (['*', '*', '/'] ++ '*' :: suffix.toList) := by
      rw [recursiveSource, String.intercalate_append_of_ne_nil hne (List.cons_ne_nil _ _),
        String.toList_append, String.toList_append, hstars]
      rfl
    have htokens := Glob.tokens?_recursive_below (isOrdinary_of_mem_intercalate hdirs) hordinary
    rw [← hbelow] at htokens
    refine ⟨_, htokens, ?_, ?_, fun text => ?_⟩
    · rw [Glob.groups_append, Glob.groups_literals]
      exact Glob.groups_literals suffix.toList
    · cases ("/".intercalate dirs).toList <;> simp
    · rw [Glob.listAccepts_recursive_below_iff hsuffix.slash_not_mem,
        splitOn_intercalate_names hne fun d hd => (hdirs d hd).1]

theorem isSpecial_of_isLiteralName {d : String} (hd : Glob.IsLiteralName d) :
    InputPattern.isSpecial (.name d) = false := by
  unfold InputPattern.isSpecial Segment.text
  rw [List.any_eq_false]
  intro c hc hspecial
  obtain ⟨⟨hquestion, hstar, hbracket, -, hbrace⟩, -⟩ := hd.2 c hc
  simp only [Bool.or_eq_true, decide_eq_true_eq] at hspecial
  rcases hspecial with ((rfl | rfl) | rfl) | rfl <;> contradiction

theorem front_recursive (hdirs : ∀ d ∈ dirs, Glob.IsLiteralName d) :
    InputPattern.front (dirs ++ ["**", "*" ++ suffix]) = dirs := by
  have hplain : ∀ d ∈ dirs, (!InputPattern.isSpecial (.name d)) = true := by
    intro d hd
    rw [isSpecial_of_isLiteralName (hdirs d hd), Bool.not_false]
  rw [InputPattern.front, List.takeWhile_append_of_pos hplain, List.takeWhile_cons_of_neg (by decide),
    List.append_nil]

theorem parts_recursive_iff {ending : List Char} (hne : names ≠ []) (hnames : ∀ n ∈ names, IsEntryName n) :
    (∃ front last, Path.parts (Path.mk false (names.map .name)).text =
        dirs.map String.toList ++ (front ++ [last]) ∧ ending <:+ last) ↔
      ∃ front last, names = dirs ++ (front ++ [last]) ∧ ending <:+ last.toList := by
  rw [Path.parts_names hne hnames]
  constructor
  · rintro ⟨front, last, h, hends⟩
    obtain ⟨below, rfl, hbelow⟩ := map_toList_eq_append_iff.mp h
    obtain ⟨middle, final, rfl, -, hfinal⟩ := List.map_eq_append_iff.mp hbelow
    obtain ⟨name, rfl, rfl⟩ := List.map_eq_singleton_iff.mp hfinal
    exact ⟨middle, name, rfl, hends⟩
  · rintro ⟨front, last, rfl, hends⟩
    exact ⟨front.map String.toList, last.toList, by simp, hends⟩

/-- The input has the directories for its base, and matches the paths below them whose last name ends in
the suffix. -/
theorem exists_parse_recursive (hdirs : ∀ d ∈ dirs, Glob.IsLiteralName d)
    (hsuffix : IsLiteralSuffix suffix) :
    ∃ p, InputPattern.parse (recursiveSource dirs suffix) = .ok p ∧
      p.base = ⟨false, dirs.map .name⟩ ∧
      ∀ names : List String, names ≠ [] → (∀ n ∈ names, IsEntryName n) →
        (p.glob.isMatch (Path.mk false (names.map .name)).text = true ↔
          ∃ front last, names = dirs ++ (front ++ [last]) ∧ suffix.toList <:+ last.toList) := by
  obtain ⟨tokens, htokens, hgroups, hstars, haccepts⟩ := exists_tokens?_recursive hdirs hsuffix
  have hentries := isEntryName_of_mem_recursive hdirs hsuffix
  have htext : recursiveSource dirs suffix =
      (Path.mk false ((dirs ++ ["**", "*" ++ suffix]).map .name)).text :=
    (Path.text_names _).symm
  have hstripped : InputPattern.stripped (recursiveSource dirs suffix) = recursiveSource dirs suffix := by
    rw [htext]
    exact InputPattern.stripped_text hentries
  have hbase : InputPattern.baseOf (recursiveSource dirs suffix) = ⟨false, dirs.map .name⟩ := by
    rw [htext, InputPattern.baseOf_text hentries, front_recursive hdirs]
  have hp : InputPattern.parse (recursiveSource dirs suffix) =
      .ok ⟨⟨recursiveSource dirs suffix, tokens⟩, ⟨false, dirs.map .name⟩⟩ := by
    rw [InputPattern.parse_eq_ok_iff]
    change Glob.parse (InputPattern.stripped _) = _ ∧ _ ∧
      _ = InputPattern.baseOf (InputPattern.stripped _)
    rw [hstripped, hbase]
    exact ⟨Glob.parse_eq_ok_iff.mpr ⟨rfl, htokens⟩, Glob.depth_le_maxDepth hgroups, rfl⟩
  refine ⟨_, hp, rfl, fun names hne hnames => ?_⟩
  rw [Glob.isMatch_iff, or_iff_right hstars, haccepts]
  exact parts_recursive_iff hne hnames

/-! ### Walking below the directories -/

theorem Tree.FileBelow.isEntryName (hw : top.WellFormed) {way : List Segment}
    (h : top.FileBelow way names) : ∀ n ∈ names, IsEntryName n := by
  obtain ⟨⟨t, u, hfind, hdown⟩, -⟩ := h
  exact (Tree.WellFormed.of_descends hdown (hw.of_find? hfind)).2

/-- The files of an input with a base of names are those below the base that the glob matches. -/
theorem InputPattern.mem_files_iff_fileBelow (hw : top.WellFormed) {p : InputPattern} {source : String}
    (hp : parse source = .ok p) (hbase : p.base = ⟨false, dirs.map .name⟩) :
    path ∈ p.files top root ↔
      ∃ names, dirs ++ names ≠ [] ∧ top.FileBelow (Path.below root (dirs.map .name)) names ∧
        p.glob.isMatch path.text = true ∧ path = ⟨false, (dirs ++ names).map .name⟩ := by
  have hstart : p.start root = Path.below root (dirs.map .name) :=
    start_of_names (congrArg Path.absolute hbase) (congrArg Path.segments hbase)
  have hway : ∀ names t, top.find? (Path.below root (dirs.map .name)) = some t →
      top.file? (Path.below root (dirs.map .name) ++ names.map .name) =
        top.file? (Path.steps root ++ (dirs ++ names).map .name) := by
    intro names t ht
    rw [← hstart] at ht ⊢
    unfold Tree.file?
    rw [find?_candidate hp ht, candidate_of_names hbase]
    rfl
  constructor
  · intro h
    obtain ⟨t, names, ht, hwalk, -, hmatch, rfl⟩ := mem_files.mp h
    have hpath := candidate_of_names hbase names
    have hne : dirs ++ names ≠ [] := by
      intro hnil
      obtain ⟨rfl, hnames⟩ := List.append_eq_nil_iff.mp hnil
      exact ne_nil_of_mem_walk_start hp (by rw [hbase]) ht (by rw [hbase]; rfl) hwalk hnames
    have hfile : (top.file? (Path.steps root ++ (dirs ++ names).map .name)).isSome = true := by
      obtain ⟨f, hf⟩ := exists_file_of_mem_files hp h
      rw [hpath] at hf
      exact Tree.isSome_file?_iff.mpr ⟨f, hf⟩
    have hbelow := (candidate_mem_files_iff hw hp hbase hmatch hfile).mp h
    rw [hstart] at ht
    exact ⟨names, hne, ⟨hbelow, by rwa [hway names t ht]⟩, hmatch, hpath⟩
  · rintro ⟨names, hne, ⟨⟨t, u, ht, hdown⟩, hfile⟩, hmatch, hpath⟩
    rw [← candidate_of_names hbase] at hpath
    subst hpath
    rw [hway names t ht] at hfile
    exact (candidate_mem_files_iff hw hp hbase hmatch hfile).mpr ⟨t, u, ht, hdown⟩

/-- **Two stars and a star in front of a suffix find every file below the directories whose name ends in
the suffix**, at any depth and no other, each once and in the order of the names, byte by byte from the
top. -/
theorem Resolver.resolve_recursive (hw : top.WellFormed) (root : String)
    (hdirs : ∀ d ∈ dirs, Glob.IsLiteralName d) (hsuffix : IsLiteralSuffix suffix) :
    ∃ r, Resolver.ofSources root [recursiveSource dirs suffix] [] = .ok r ∧
      (∀ path, path ∈ r.resolve top ↔
        ∃ front last, top.FileBelow (Path.below root (dirs.map .name)) (front ++ [last]) ∧
          suffix.toList <:+ last.toList ∧ path = ⟨false, (dirs ++ (front ++ [last])).map .name⟩) ∧
      (r.resolve top).Nodup ∧ (r.resolve top).Pairwise fun a b => a.byteKey < b.byteKey := by
  obtain ⟨p, hp, hbase, hmatches⟩ := exists_parse_recursive hdirs hsuffix
  obtain ⟨r, hr, hresolve⟩ := exists_resolve_eq_files root hw hp
  have hentries : ∀ names, top.FileBelow (Path.below root (dirs.map .name)) names →
      ∀ n ∈ dirs ++ names, IsEntryName n := by
    intro names hbelow n hn
    exact (List.mem_append.mp hn).elim (fun h => (hdirs n h).1) (hbelow.isEntryName hw n)
  refine ⟨r, hr, fun path => ?_, ?_, ?_⟩
  · rw [hresolve, InputPattern.mem_files_iff_fileBelow hw hp hbase]
    constructor
    · rintro ⟨names, hne, hbelow, hmatch, rfl⟩
      obtain ⟨front, last, hnames, hends⟩ := (hmatches _ hne (hentries _ hbelow)).mp hmatch
      obtain rfl := List.append_cancel_left hnames
      exact ⟨front, last, hbelow, hends, rfl⟩
    · rintro ⟨front, last, hbelow, hends, rfl⟩
      have hne : dirs ++ (front ++ [last]) ≠ [] := by simp
      exact ⟨front ++ [last], hne, hbelow,
        (hmatches _ hne (hentries _ hbelow)).mpr ⟨front, last, rfl, hends⟩, rfl⟩
  · rw [hresolve]
    exact InputPattern.nodup_files hw
  · rw [hresolve]
    exact InputPattern.files_pairwise hw

/-- A name that is the suffix and nothing else, below a directory whose name ends in it, too. -/
def Tree.suffixes : Tree :=
  .dir [("src", .dir [("a.rs", .dir [(".rs", .file ⟨[], false⟩)]), ("b.txt", .file ⟨[], false⟩)])]

theorem Tree.suffixes_wellFormed : suffixes.WellFormed := by decide

/-- The file that is called like the suffix is found, its directory is none of the files. -/
theorem Resolver.resolve_recursive_sample :
    ∃ r, Resolver.ofSources "/" [recursiveSource ["src"] ".rs"] [] = .ok r ∧
      ⟨false, ["src", "a.rs", ".rs"].map .name⟩ ∈ r.resolve Tree.suffixes ∧
      ⟨false, ["src", "a.rs"].map .name⟩ ∉ r.resolve Tree.suffixes := by
  have hdirs : ∀ d ∈ ["src"], Glob.IsLiteralName d := by decide +kernel
  have hsuffix : IsLiteralSuffix ".rs" := by decide +kernel
  have hdeep : Tree.suffixes.FileBelow (Path.below "/" (["src"].map .name)) (["a.rs"] ++ [".rs"]) :=
    ⟨⟨_, .file ⟨[], false⟩, rfl, .down List.mem_cons_self (.down List.mem_cons_self (.here _))⟩, by cbv⟩
  obtain ⟨r, hr, hmem, -⟩ := resolve_recursive Tree.suffixes_wellFormed "/" hdirs hsuffix
  refine ⟨r, hr, (hmem _).mpr ⟨_, _, hdeep, List.suffix_rfl, rfl⟩, ?_⟩
  rw [hmem]
  rintro ⟨front, last, ⟨-, hfile⟩, -, hpath⟩
  have hnames : ["a.rs"].map Segment.name = (front ++ [last]).map .name := by
    simpa using congrArg Path.segments hpath
  rw [← hnames] at hfile
  exact absurd hfile (by decide +kernel)

end TextLimits
