import TextLimits.Proofs.Scan.Naming

/-! # Escaped paths as inputs

The escaped text of a path is a glob that matches this path and no other.  The walk for it starts at a
base that is read from the escaped text as it stands, up to the first name with one of the characters
at which a base stops.  A backslash is none of them, so the base is a way to the file only if the names
in it needed no escape; then the file is found, as far as no link to a directory lies below the base
(`Resolver.resolve_escape`). -/

namespace TextLimits

namespace InputPattern

variable {top : Tree} {root source : String} {p : InputPattern} {names bs : List String}

/-! ### Names and their escaped forms -/

/-- The names in front of the first one at which a base stops. -/
def front (names : List String) : List String := names.takeWhile fun n => !isSpecial (.name n)

/-- The names from the first one on at which a base stops. -/
def behind (names : List String) : List String := names.dropWhile fun n => !isSpecial (.name n)

theorem front_append_behind (names : List String) : front names ++ behind names = names :=
  List.takeWhile_append_dropWhile

theorem isSpecial_escape (name : String) :
    isSpecial (.name (Glob.escape name)) = isSpecial (.name name) := by
  have hone : ∀ c : Char,
      ((Glob.escapeChar c).any fun c => c = '*' || c = '?' || c = '[' || c = '{') =
        (c = '*' || c = '?' || c = '[' || c = '{') := by
    intro c
    unfold Glob.escapeChar
    split_ifs <;> simp
  unfold isSpecial Segment.text
  dsimp only
  rw [Glob.toList_escape, Glob.escapeChars, List.any_flatMap]
  exact congrArg name.toList.any (funext hone)

theorem isEntryName_escape {name : String} (h : IsEntryName name) : IsEntryName (Glob.escape name) := by
  obtain ⟨hempty, hdot, hdots, hslash⟩ := h
  have hsame : ∀ text : String, '\\' ∉ text.toList → name ≠ text → Glob.escape name ≠ text := by
    rintro text hbackslash hne rfl
    rw [Glob.toList_escape] at hbackslash
    apply hne
    rw [Glob.escape, Glob.escapeChars_eq_self_of_not_mem hbackslash, String.ofList_toList]
  refine ⟨hsame _ (by decide) hempty, hsame _ (by decide) hdot, hsame _ (by decide) hdots, ?_⟩
  rw [Glob.toList_escape, Glob.mem_escapeChars_iff]
  rintro (h | ⟨h, -⟩)
  · exact hslash h
  · exact absurd h (by decide)

theorem escapeChars_intercalate (parts : List (List Char)) :
    Glob.escapeChars (['/'].intercalate parts) = ['/'].intercalate (parts.map Glob.escapeChars) := by
  induction parts with
  | nil => rfl
  | cons part parts ih =>
      by_cases hne : parts = []
      · subst hne
        simp
      · have hmap : parts.map Glob.escapeChars ≠ [] := by simpa using hne
        rw [List.intercalate_cons_of_ne_nil hne, List.map_cons,
          List.intercalate_cons_of_ne_nil hmap, Glob.escapeChars_append, Glob.escapeChars_append, ih]
        rfl

theorem escape_text (names : List String) :
    Glob.escape (Path.mk false (names.map .name)).text =
      (Path.mk false ((names.map Glob.escape).map .name)).text := by
  apply String.toList_inj.mp
  rw [Glob.toList_escape, Path.toList_text_relative, Path.toList_text_relative,
    escapeChars_intercalate]
  simp only [List.map_map]
  refine congrArg _ (List.map_congr_left fun name _ => ?_)
  exact (Glob.toList_escape name).symm

/-! ### Reading an escaped path -/

theorem isProper_names (hnames : ∀ n ∈ names, IsEntryName n) :
    ∀ s ∈ names.map Segment.name, s.IsProper := by
  intro s hs
  obtain ⟨n, hn, rfl⟩ := List.mem_map.mp hs
  exact hnames n hn

theorem current_not_mem_names (names : List String) : .current ∉ names.map Segment.name := by
  simp

theorem stripped_text (hnames : ∀ n ∈ names, IsEntryName n) :
    stripped (Path.mk false (names.map .name)).text = (Path.mk false (names.map .name)).text :=
  stripped_eq_self (Path.not_dotSlash_prefix_text (isProper_names hnames) (current_not_mem_names names))

theorem baseOf_text (hnames : ∀ n ∈ names, IsEntryName n) :
    baseOf (Path.mk false (names.map .name)).text = ⟨false, (front names).map .name⟩ := by
  unfold baseOf
  dsimp only
  rw [Path.ofText_text (isProper_names hnames) (current_not_mem_names names), List.takeWhile_map]
  rfl

theorem front_map_escape (names : List String) :
    front (names.map Glob.escape) = (front names).map Glob.escape := by
  have hstop : (fun n => !isSpecial (.name n)) ∘ Glob.escape = fun n => !isSpecial (.name n) := by
    funext n
    rw [Function.comp_apply, isSpecial_escape]
  rw [front, List.takeWhile_map, hstop]
  rfl

/-- An escaped path is an input of its literals, with the escaped names in front for its base. -/
theorem exists_parse_escape (hnames : ∀ n ∈ names, IsEntryName n) :
    ∃ p, parse (Glob.escape (Path.mk false (names.map .name)).text) = .ok p ∧
      p.base = ⟨false, ((front names).map Glob.escape).map .name⟩ ∧
      p.glob.tokens = (Path.mk false (names.map .name)).text.toList.map .literal := by
  have hescaped : ∀ n ∈ names.map Glob.escape, IsEntryName n := by
    intro n hn
    obtain ⟨name, hname, rfl⟩ := List.mem_map.mp hn
    exact isEntryName_escape (hnames name hname)
  have hstripped : stripped (Glob.escape (Path.mk false (names.map .name)).text) =
      Glob.escape (Path.mk false (names.map .name)).text := by
    rw [escape_text]
    exact stripped_text hescaped
  obtain ⟨p, hp, hbase, htokens⟩ := exists_parse_of_stripped hstripped
  rw [hstripped, escape_text, baseOf_text hescaped, front_map_escape] at hbase
  exact ⟨p, hp, hbase, htokens⟩

/-! ### Walking to an escaped path -/

theorem candidate_injective (p : InputPattern) : Function.Injective p.candidate := by
  intro a b h
  have hsegments := List.append_cancel_left (congrArg Path.segments h)
  exact List.map_injective_iff.mpr (fun _ _ => Segment.name.inj) hsegments

theorem candidate_of_names (hbase : p.base = ⟨false, bs.map .name⟩) (names : List String) :
    p.candidate names = ⟨false, (bs ++ names).map .name⟩ := by
  have hkept : p.base.segments.filter (· ≠ .current) = bs.map .name := by
    rw [hbase, Segment.filter_names]
  exact candidate_eq_fromRoot (congrArg Path.absolute hbase) hkept names

/-- A file is among those of an input with a base of names exactly if names lead down to it from the
end of the base. -/
theorem candidate_mem_files_iff (hw : top.WellFormed) (hp : parse source = .ok p)
    (hbase : p.base = ⟨false, bs.map .name⟩)
    (hmatch : p.glob.isMatch (p.candidate names).text = true)
    (hfile : (top.file? (Path.steps root ++ (bs ++ names).map .name)).isSome = true) :
    p.candidate names ∈ p.files top root ↔
      ∃ t u, top.find? (Path.below root (bs.map .name)) = some t ∧ t.Descends names u := by
  have hbelow : p.start root = Path.below root (bs.map .name) :=
    start_of_names (congrArg Path.absolute hbase) (congrArg Path.segments hbase)
  have hway : ∀ rest, Path.stepsFrom root (p.candidate rest) =
      Path.steps root ++ (bs ++ rest).map .name := by
    intro rest
    rw [candidate_of_names hbase]
    rfl
  rw [mem_files_iff hw]
  constructor
  · rintro ⟨t, rest, u, hstart, hdown, -, -, hpath⟩
    obtain rfl := candidate_injective p hpath
    exact ⟨t, u, hbelow ▸ hstart, hdown⟩
  · rintro ⟨t, u, hfind, hdown⟩
    rw [← hbelow] at hfind
    refine ⟨t, names, u, hfind, hdown, ?_, hmatch, rfl⟩
    unfold Tree.file?
    rw [find?_candidate hp hfind, hway]
    exact hfile

theorem mem_files_escape_iff (hw : top.WellFormed) (hp : parse source = .ok p)
    (hbase : p.base = ⟨false, ((front names).map Glob.escape).map .name⟩)
    (htokens : p.glob.tokens = (Path.mk false (names.map .name)).text.toList.map .literal)
    (hfile : (top.file? (Path.steps root ++ names.map .name)).isSome = true) :
    ⟨false, names.map .name⟩ ∈ p.files top root ↔
      (front names).map Glob.escape = front names ∧
        ∃ t u, top.find? (Path.below root ((front names).map .name)) = some t ∧
          t.Descends (behind names) u := by
  by_cases hfront : (front names).map Glob.escape = front names
  · rw [hfront] at hbase
    have hpath := candidate_of_names hbase (behind names)
    rw [front_append_behind] at hpath
    rw [and_iff_right hfront, ← hpath]
    apply candidate_mem_files_iff hw hp hbase
    · rw [hpath, Glob.isMatch_literals_iff htokens]
    · rwa [front_append_behind]
  · refine iff_of_false (fun h => hfront ?_) fun h => hfront h.1
    obtain ⟨t, rest, -, -, -, -, hpath⟩ := mem_files.mp h
    rw [candidate_of_names hbase] at hpath
    have hnames : names = (front names).map Glob.escape ++ rest :=
      List.map_injective_iff.mpr (fun _ _ => Segment.name.inj) (congrArg Path.segments hpath)
    have hsplit : (front names).map Glob.escape ++ rest = front names ++ behind names := by
      rw [← hnames, front_append_behind]
    exact (List.append_inj hsplit (List.length_map _)).1

/-- No name in front of the first one at which a base stops needs an escape. -/
def FrontIsPlain (names : List String) : Prop := ∀ n ∈ front names, ∀ c ∈ n.toList, ¬ Glob.IsMeta c

/-- From the end of the front, the other names lead down through directories that can be listed, and no link
to a directory. -/
def FrontLeadsDown (top : Tree) (root : String) (names : List String) : Prop :=
  ∃ t u, top.find? (Path.below root ((front names).map .name)) = some t ∧
    t.Descends (behind names) u

theorem frontIsPlain_iff : FrontIsPlain names ↔ (front names).map Glob.escape = front names := by
  have hmap : (front names).map Glob.escape = front names ↔
      ∀ n ∈ front names, Glob.escape n = n := by
    conv_lhs => rhs; rw [← List.map_id (front names)]
    exact List.map_inj_left
  rw [hmap]
  exact forall₂_congr fun n _ => Glob.escape_eq_self_iff.symm

/-- Where a file lies at names below the root, behind directories that can be listed, the names lead down
from the end of every front. -/
theorem frontLeadsDown_of_descends (hw : top.WellFormed) {t u : Tree}
    (hfile : (top.file? (Path.steps root ++ names.map .name)).isSome = true)
    (hroot : top.find? (Path.directory root) = some t) (hdown : t.Descends names u) :
    FrontLeadsDown top root names := by
  rw [← front_append_behind names] at hdown
  obtain ⟨v, hfront, hbehind⟩ := Tree.descends_append_iff.mp hdown
  by_cases hnil : behind names = []
  · obtain ⟨f, hf⟩ := Tree.isSome_file?_iff.mp hfile
    have hnames := front_append_behind names
    rw [hnil, List.append_nil] at hnames
    refine ⟨.file f, .file f, ?_, by rw [hnil]; exact .here _⟩
    rw [hnames, Tree.find?_below hroot, hf]
  · have hnl : v.NoLink := by
      rintro target rfl
      cases hbehind.isDir_of_ne_nil hnil
    refine ⟨v, u, ?_, hbehind⟩
    rw [Tree.find?_below hroot]
    exact Tree.find?_append_names (Tree.find?_steps_of_directory hroot) (hfront.at?_eq (hw.of_find? hroot)) hnl

end InputPattern

/-- **The escaped text of a path resolves to the path, if no name in front of the first one at which a
base stops needs an escape**, and if the others lead down through directories that can be listed, and no
link to a directory.  Else it resolves to nothing.  They do lead down if the file lies below the root behind
such directories only. -/
theorem Resolver.resolve_escape {top : Tree} (hw : top.WellFormed) {root : String}
    {names : List String} (hnames : ∀ n ∈ names, IsEntryName n)
    (hfile : (top.file? (Path.steps root ++ names.map .name)).isSome = true) :
    ∃ r, Resolver.ofSources root [Glob.escape (Path.mk false (names.map .name)).text] [] = .ok r ∧
      (InputPattern.FrontIsPlain names ∧ InputPattern.FrontLeadsDown top root names →
        r.resolve top = [⟨false, names.map .name⟩]) ∧
      (¬ (InputPattern.FrontIsPlain names ∧ InputPattern.FrontLeadsDown top root names) →
        r.resolve top = []) ∧
      ∀ t u, top.find? (Path.directory root) = some t → t.Descends names u →
        InputPattern.FrontLeadsDown top root names := by
  obtain ⟨p, hp, hbase, htokens⟩ := InputPattern.exists_parse_escape hnames
  obtain ⟨r, hr, hresolve⟩ := exists_resolve_eq_files root hw hp
  have honly : ∀ q ∈ p.files top root, q = ⟨false, names.map .name⟩ := by
    intro q hq
    rw [(InputPattern.eq_of_mem_files_literals hw hp htokens hq).1]
    exact Path.ofText_text (InputPattern.isProper_names hnames)
      (InputPattern.current_not_mem_names names)
  have hmem := InputPattern.mem_files_escape_iff hw hp hbase htokens hfile
  rw [← InputPattern.frontIsPlain_iff] at hmem
  refine ⟨r, hr, ?_⟩
  rw [hresolve]
  refine ⟨fun h => ?_, fun h => ?_, fun t u hroot hdown => ?_⟩
  · exact InputPattern.files_eq_singleton hw honly (hmem.mpr h)
  · exact InputPattern.files_eq_nil honly (mt hmem.mp h)
  · exact InputPattern.frontLeadsDown_of_descends hw hfile hroot hdown

/-- A file and a directory whose names hold special characters. -/
def Tree.specialNames : Tree :=
  .dir [("a]", .file ⟨[], false⟩), ("b*", .dir [("c]", .file ⟨[], false⟩)])]

theorem Tree.specialNames_wellFormed : specialNames.WellFormed := by decide

/-- The base of an escaped path stops at a star, so an escaped bracket behind it does no harm. -/
theorem Resolver.resolve_escape_sample :
    Glob.escape (Path.mk false (["b*", "c]"].map .name)).text = "b\\*/c\\]" ∧
      ∃ r, Resolver.ofSources "/" [Glob.escape (Path.mk false (["b*", "c]"].map .name)).text] [] =
          .ok r ∧
        r.resolve Tree.specialNames = [⟨false, ["b*", "c]"].map .name⟩] := by
  have hfile : (Tree.specialNames.file? (Path.steps "/" ++ ["b*", "c]"].map .name)).isSome = true := by
    cbv
  obtain ⟨r, hr, hfound, -, hdown⟩ := resolve_escape Tree.specialNames_wellFormed
    (by decide) hfile
  refine ⟨by decide +kernel, r, hr, hfound ⟨?_, ?_⟩⟩
  · have hfront : InputPattern.front ["b*", "c]"] = [] := by decide +kernel
    intro n hn
    rw [hfront] at hn
    cases hn
  · have hroot : Tree.specialNames.find? (Path.directory "/") = some Tree.specialNames := by
      rfl
    exact hdown _ _ hroot (.down (List.mem_cons_of_mem _ List.mem_cons_self)
      (.down List.mem_cons_self (.here _)))

/-- The base of an escaped bracket is a name with a backslash, which there is not. -/
theorem Resolver.resolve_escape_bracket :
    Glob.escape "a]" = "a\\]" ∧
      (Tree.specialNames.file? (Path.steps "/" ++ [.name "a]"])).isSome = true ∧
      ∃ r, Resolver.ofSources "/" [Glob.escape "a]"] [] = .ok r ∧
        r.resolve Tree.specialNames = [] := by
  have hescape : Glob.escape "a]" = "a\\]" := by decide +kernel
  have hp : InputPattern.parse "a\\]" = .ok
      ⟨⟨"a\\]", [.literal 'a', .literal ']']⟩, ⟨false, [.name "a\\]"]⟩⟩ :=
    InputPattern.parse_eq_ok_iff.mpr
      ⟨Glob.parse_eq_ok_iff.mpr ⟨by decide +kernel, by rfl⟩, by decide +kernel, by decide +kernel⟩
  obtain ⟨r, hr, hresolve⟩ := exists_resolve_eq_files "/" Tree.specialNames_wellFormed hp
  rw [hescape]
  exact ⟨rfl, by decide +kernel, r, hr, hresolve.trans (by decide +kernel)⟩

end TextLimits
