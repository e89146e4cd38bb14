import TextLimits.Proofs.Toml.Names
import TextLimits.Settings.Source

/-! # The schema of the settings

Settings are read from documents of three forms and from no others (`Settings.Fits`): one without any key,
and one whose only key is `check`, with a table or an array under it.  In the table every name is that of a
field and every value is of the kind that the field has; a field without a name in it keeps its default
content (`Settings.Updates`).  An array is read as the table that gives its items to the fields in their
fixed order (`Settings.ofFile_eq_ok_iff`), so a table is not the only form that is accepted
(`Settings.ofText_positional`). -/

namespace TextLimits.Settings

open Toml

/-! ### Fields -/

/-- The fields of settings. -/
inductive Field where
  | inputs
  | excludes
  | ignoreLinesMatching
  | maxLineLength
  | maxLinesInFile
  deriving DecidableEq

/-- The name that a field has in a document. -/
def Field.name : Field → String
  | inputs => "inputs"
  | excludes => "excludes"
  | ignoreLinesMatching => "ignore_lines_matching"
  | maxLineLength => "max_line_length"
  | maxLinesInFile => "max_lines_in_file"

/-- What a field holds: a list of strings, or a limit of 64 bits. -/
inductive Content where
  | strings (l : List String)
  | limit (n : UInt64)

/-- The content of a field. -/
def content (s : Settings) : Field → Content
  | .inputs => .strings s.inputs
  | .excludes => .strings s.excludes
  | .ignoreLinesMatching => .strings s.ignoreLinesMatching
  | .maxLineLength => .limit s.maxLineLength
  | .maxLinesInFile => .limit s.maxLinesInFile

/-- The values that stand for the content of a field: arrays of strings, and integers that are not negative
and have at most 64 bits. -/
inductive Content.SaidBy : Content → Value → Prop
  | strings (headed : Bool) (l : List String) : SaidBy (.strings l) (.array headed (l.map .string))
  | limit (n : UInt64) : SaidBy (.limit n) (.integer n.toNat)

theorem Content.saidBy_strings_iff {l : List String} {v : Value} :
    (Content.strings l).SaidBy v ↔ ∃ headed, v = .array headed (l.map .string) := by
  constructor
  · rintro ⟨⟩
    exact ⟨_, rfl⟩
  · rintro ⟨headed, rfl⟩
    exact .strings headed l

theorem Content.saidBy_limit_iff {n : UInt64} {v : Value} :
    (Content.limit n).SaidBy v ↔ v = .integer n.toNat := by
  constructor
  · rintro ⟨⟩
    rfl
  · rintro rfl
    exact .limit n

theorem Field.name_injective : Function.Injective Field.name := by
  intro f g h
  cases f <;> cases g <;> first | rfl | exact absurd h (by decide)

theorem ext_content {s s' : Settings} (h : ∀ f, s.content f = s'.content f) : s = s' := by
  have hinputs := h .inputs
  have hexcludes := h .excludes
  have hignore := h .ignoreLinesMatching
  have hlength := h .maxLineLength
  have hcount := h .maxLinesInFile
  obtain ⟨_, _, _, _, _⟩ := s
  obtain ⟨_, _, _, _, _⟩ := s'
  simp only [content, Content.strings.injEq, Content.limit.injEq] at *
  simp only [*]

/-- Settings with one field taken from other settings. -/
def withField (s other : Settings) : Field → Settings
  | .inputs => { s with inputs := other.inputs }
  | .excludes => { s with excludes := other.excludes }
  | .ignoreLinesMatching => { s with ignoreLinesMatching := other.ignoreLinesMatching }
  | .maxLineLength => { s with maxLineLength := other.maxLineLength }
  | .maxLinesInFile => { s with maxLinesInFile := other.maxLinesInFile }

theorem content_withField (s other : Settings) (f g : Field) :
    (s.withField other f).content g = if g = f then other.content g else s.content g := by
  cases f <;> cases g <;> rfl

/-! ### Values -/

theorem refuse_ne_ok {α : Type} {v : Value} {wanted : String} {a : α} : refuse v wanted ≠ .ok a := by
  intro h
  obtain ⟨text, -, h⟩ := bind_eq_ok_iff.mp h
  cases h

theorem stringOf_eq_ok_iff {v : Value} {text : String} : stringOf v = .ok text ↔ v = .string text := by
  unfold stringOf
  split
  · simp
  · next hother =>
      constructor
      · exact fun h => absurd h refuse_ne_ok
      · exact fun h => absurd h (hother text)

theorem mapM_stringOf_eq_ok_iff {items : List Value} {l : List String} :
    items.mapM stringOf = .ok l ↔ items = l.map .string := by
  induction items generalizing l with
  | nil =>
      rw [List.mapM_nil]
      cases l <;> simp [pure, Except.pure]
  | cons v items ih =>
      rw [List.mapM_cons, bind_eq_ok_iff]
      constructor
      · rintro ⟨text, htext, h⟩
        obtain ⟨rest, hrest, h⟩ := bind_eq_ok_iff.mp h
        cases h
        rw [List.map_cons, stringOf_eq_ok_iff.mp htext, ih.mp hrest]
      · intro h
        cases l with
        | nil => cases h
        | cons text rest =>
            rw [List.map_cons, List.cons.injEq] at h
            refine ⟨text, stringOf_eq_ok_iff.mpr h.1, ?_⟩
            rw [ih.mpr h.2]
            rfl

theorem stringsOf_eq_ok_iff {v : Value} {l : List String} :
    stringsOf v = .ok l ↔ (Content.strings l).SaidBy v := by
  rw [Content.saidBy_strings_iff]
  unfold stringsOf
  split
  · rw [mapM_stringOf_eq_ok_iff]
    simp
  · next hother =>
      constructor
      · exact fun h => absurd h refuse_ne_ok
      · rintro ⟨headed, hv⟩
        exact absurd hv (hother headed _)

theorem limitOf_eq_ok_iff {v : Value} {n : UInt64} :
    limitOf v = .ok n ↔ (Content.limit n).SaidBy v := by
  constructor
  · intro h
    unfold limitOf at h
    split at h
    · split at h
      · next k hk =>
          split_ifs at h with hsize
          · cases h
            rw [Int.mem_toNat?.mp hk]
            exact .limit _
          · exact absurd h refuse_ne_ok
      · split_ifs at h
        · obtain ⟨text, -, h⟩ := bind_eq_ok_iff.mp h
          cases h
        · exact absurd h refuse_ne_ok
    · exact absurd h refuse_ne_ok
  · intro h
    rw [Content.saidBy_limit_iff.mp h]
    have hn : Int.toNat? (n.toNat : Int) = some n.toNat := rfl
    unfold limitOf
    simp only [hn, dif_pos n.toNat_lt_size]
    rw [UInt64.ofNatLT_toNat]

/-! ### Tables -/

/-- Settings that are changed in one field, by what is read from a value, have there what the value stands
for, and elsewhere what they had. -/
theorem update_eq_ok_iff {α : Type} {s next : Settings} {v : Value} {read : Except Error α}
    {update : α → Settings} {wrap : α → Content} {f : Field}
    (hread : ∀ a, read = .ok a ↔ (wrap a).SaidBy v)
    (hkind : ∀ c : Settings, ∃ a, c.content f = wrap a)
    (hupdate : ∀ a g, (update a).content g = if g = f then wrap a else s.content g) :
    (read >>= fun a => pure (update a)) = .ok next ↔
      (next.content f).SaidBy v ∧ ∀ g, g ≠ f → next.content g = s.content g := by
  rw [bind_eq_ok_iff]
  constructor
  · rintro ⟨a, ha, h⟩
    cases h
    rw [hupdate, if_pos rfl]
    exact ⟨(hread a).mp ha, fun g hg => by rw [hupdate, if_neg hg]⟩
  · rintro ⟨hsaid, hothers⟩
    obtain ⟨a, ha⟩ := hkind next
    rw [ha] at hsaid
    refine ⟨a, (hread a).mpr hsaid, congrArg Except.ok (ext_content fun g => ?_)⟩
    rw [hupdate]
    split_ifs with hg
    · rw [hg, ha]
    · exact (hothers g hg).symm

/-- A value under the name of a field changes this field and no other. -/
theorem setField_name_eq_ok_iff {s next : Settings} {f : Field} {v : Value} :
    setField s f.name v = .ok next ↔
      (next.content f).SaidBy v ∧ ∀ g, g ≠ f → next.content g = s.content g := by
  cases f with
  | inputs | excludes | ignoreLinesMatching =>
      refine update_eq_ok_iff (fun _ => stringsOf_eq_ok_iff) (fun _ => ⟨_, rfl⟩) fun _ g => ?_
      cases g <;> rfl
  | maxLineLength | maxLinesInFile =>
      refine update_eq_ok_iff (fun _ => limitOf_eq_ok_iff) (fun _ => ⟨_, rfl⟩) fun _ g => ?_
      cases g <;> rfl

theorem exists_name_of_setField {s next : Settings} {name : String} {v : Value}
    (h : setField s name v = .ok next) : ∃ f : Field, f.name = name := by
  have hnames : ∀ text ∈ fieldNames, ∃ f : Field, f.name = text := by
    have hall : fieldNames = [Field.inputs, .excludes, .ignoreLinesMatching, .maxLineLength,
      .maxLinesInFile].map Field.name := rfl
    intro text htext
    rw [hall] at htext
    obtain ⟨f, -, hf⟩ := List.mem_map.mp htext
    exact ⟨f, hf⟩
  apply hnames
  unfold setField at h
  split at h
  all_goals first | decide | cases h

/-- Entries change settings: every name in them is that of a field, whose new content is what its value
stands for, and a field without a name in them keeps its content. -/
structure Updates (entries : Entries) (base s : Settings) : Prop where
  known : ∀ e ∈ entries, ∃ f : Field, f.name = e.1
  given : ∀ (f : Field) (v : Value), (f.name, v) ∈ entries → (s.content f).SaidBy v
  kept : ∀ f : Field, f.name ∉ entries.map Prod.fst → s.content f = base.content f

theorem Updates.of_perm {entries entries' : Entries} {base s : Settings}
    (hperm : entries.Perm entries') (h : Updates entries base s) : Updates entries' base s := by
  refine ⟨fun e he => h.known e (hperm.mem_iff.mpr he), fun f v hv =>
    h.given f v (hperm.mem_iff.mpr hv), fun f hf => h.kept f ?_⟩
  rwa [(hperm.map Prod.fst).mem_iff]

theorem updates_cons_iff {f : Field} {v : Value} {entries : Entries} {base s : Settings}
    (hnew : f.name ∉ entries.map Prod.fst) :
    Updates ((f.name, v) :: entries) base s ↔
      (s.content f).SaidBy v ∧ Updates entries (base.withField s f) s := by
  constructor
  · intro h
    refine ⟨h.given f v List.mem_cons_self, fun e he => h.known e (List.mem_cons_of_mem _ he),
      fun g w hw => h.given g w (List.mem_cons_of_mem _ hw), fun g hg => ?_⟩
    rw [content_withField]
    split_ifs with hgf
    · rfl
    · refine h.kept g ?_
      rw [List.map_cons, List.mem_cons, not_or]
      exact ⟨fun h => hgf (Field.name_injective h), hg⟩
  · rintro ⟨hsaid, hrest⟩
    refine ⟨List.forall_mem_cons.mpr ⟨⟨f, rfl⟩, hrest.known⟩, fun g w hw => ?_, fun g hg => ?_⟩
    · rcases List.mem_cons.mp hw with heq | hw
      · obtain ⟨hname, rfl⟩ := Prod.mk.inj heq
        obtain rfl := Field.name_injective hname
        exact hsaid
      · exact hrest.given g w hw
    · rw [List.map_cons, List.mem_cons, not_or] at hg
      have hne : g ≠ f := fun h => hg.1 (congrArg Field.name h)
      rw [hrest.kept g hg.2, content_withField, if_neg hne]

/-- Names that differ can be given their values one after another. -/
theorem foldlM_setField_eq_ok_iff {entries : Entries} {base s : Settings}
    (hnames : (entries.map Prod.fst).Nodup) :
    entries.foldlM (fun s e => setField s e.1 e.2) base = .ok s ↔ Updates entries base s := by
  induction entries generalizing base with
  | nil =>
      constructor
      · rintro ⟨⟩
        exact ⟨by simp, by simp, fun _ _ => rfl⟩
      · intro h
        rw [ext_content fun f => h.kept f (by simp)]
        rfl
  | cons e entries ih =>
      obtain ⟨name, v⟩ := e
      rw [List.map_cons, List.nodup_cons] at hnames
      rw [List.foldlM_cons, bind_eq_ok_iff]
      constructor
      · rintro ⟨next, hnext, hrest⟩
        have hrest := (ih hnames.2).mp hrest
        obtain ⟨f, rfl⟩ := exists_name_of_setField hnext
        obtain ⟨hsaid, hothers⟩ := setField_name_eq_ok_iff.mp hnext
        have hsame : s.content f = next.content f := hrest.kept f hnames.1
        have hwith : next = base.withField s f := ext_content fun g => by
          rw [content_withField]
          split_ifs with hgf
          · rw [hgf, hsame]
          · exact hothers g hgf
        rw [hwith] at hrest
        rw [← hsame] at hsaid
        exact (updates_cons_iff hnames.1).mpr ⟨hsaid, hrest⟩
      · intro h
        obtain ⟨f, rfl⟩ := h.known (name, v) List.mem_cons_self
        obtain ⟨hsaid, hrest⟩ := (updates_cons_iff hnames.1).mp h
        refine ⟨base.withField s f, setField_name_eq_ok_iff.mpr ⟨?_, fun g hg => ?_⟩, (ih hnames.2).mpr hrest⟩
        · rwa [content_withField, if_pos rfl]
        · rw [content_withField, if_neg hg]

/-! ### Documents -/

/-- Entries of documents that hold settings. -/
inductive Fits : Entries → Settings → Prop
  | absent : Fits [] default
  | table {kind : TableKind} {entries : Entries} {s : Settings} (h : Updates entries default s) :
      Fits [("check", .table kind entries)] s
  /-- The items of an array belong to the fields in their order; further ones are not looked at. -/
  | positional {headed : Bool} {items : List Value} {s : Settings}
      (h : Updates (fieldNames.zip items) default s) : Fits [("check", .array headed items)] s

theorem sorted_perm (entries : Entries) : (sorted entries).Perm entries := List.mergeSort_perm _ _

theorem nodup_map_sorted {entries : Entries} (h : entries.Distinct) :
    ((sorted entries).map Prod.fst).Nodup :=
  ((sorted_perm entries).map Prod.fst).nodup_iff.mpr h.names

theorem nodup_map_zip_fieldNames (items : List Value) : ((fieldNames.zip items).map Prod.fst).Nodup := by
  have hlength : (fieldNames.take (min fieldNames.length items.length)).length ≤
      (items.take (min fieldNames.length items.length)).length := by
    simp
  rw [List.zip_eq_zip_take_min, List.map_fst_zip hlength]
  exact (List.take_sublist _ _).nodup (by decide)

/-- The value under `check` holds settings if it is a table or an array that fits them. -/
theorem ofCheck_eq_ok_iff {v : Value} {s : Settings} (hv : v.Distinct) :
    ofCheck v = .ok s ↔ Fits [("check", v)] s := by
  constructor
  · intro h
    unfold ofCheck at h
    split at h
    · next kind entries =>
        have hentries := Value.distinct_table_iff.mp hv
        have hsorted := (foldlM_setField_eq_ok_iff (nodup_map_sorted hentries)).mp h
        exact .table (hsorted.of_perm (sorted_perm entries))
    · next headed items =>
        exact .positional ((foldlM_setField_eq_ok_iff (nodup_map_zip_fieldNames items)).mp h)
    · cases h
    · exact absurd h refuse_ne_ok
  · rintro (_ | hupdates | hupdates)
    · have hentries := Value.distinct_table_iff.mp hv
      exact (foldlM_setField_eq_ok_iff (nodup_map_sorted hentries)).mpr
        (hupdates.of_perm (sorted_perm _).symm)
    · exact (foldlM_setField_eq_ok_iff (nodup_map_zip_fieldNames _)).mpr hupdates

/-- Reads the value under a key of the document. -/
def ofTop (e : String × Value) : Except Error Settings :=
  if e.1 = "check" then ofCheck e.2 else .error (.mismatch (.unknownField e.1 ["check"]))

theorem ofEntries_eq (entries : Entries) :
    ofEntries entries = (sorted entries).foldlM (fun _ e => ofTop e) default := rfl

theorem ofEntries_nil : ofEntries [] = .ok default := by
  have hsorted : sorted [] = [] := List.mergeSort_nil
  rw [ofEntries_eq, hsorted]
  rfl

theorem ofEntries_singleton (e : String × Value) : ofEntries [e] = ofTop e := by
  have hsorted : sorted [e] = [e] := List.mergeSort_singleton e
  rw [ofEntries_eq, hsorted, List.foldlM_cons]
  cases ofTop e <;> rfl

theorem eq_check_of_foldlM_ofTop {entries : Entries} {base s : Settings}
    (h : entries.foldlM (fun _ e => ofTop e) base = .ok s) : ∀ e ∈ entries, e.1 = "check" := by
  induction entries generalizing base with
  | nil => simp
  | cons e entries ih =>
      rw [List.foldlM_cons] at h
      obtain ⟨next, hnext, hrest⟩ := bind_eq_ok_iff.mp h
      rw [List.forall_mem_cons]
      refine ⟨?_, ih hrest⟩
      by_contra hother
      rw [ofTop, if_neg hother] at hnext
      cases hnext

theorem ofEntries_eq_ok_iff {entries : Entries} {s : Settings} (hentries : entries.Distinct) :
    ofEntries entries = .ok s ↔ Fits entries s := by
  have hcheck : ∀ {v : Value}, Entries.Distinct [("check", v)] →
      (ofEntries [("check", v)] = .ok s ↔ Fits [("check", v)] s) := by
    intro v hv
    rw [ofEntries_singleton]
    exact ofCheck_eq_ok_iff (hv.values _ List.mem_cons_self)
  constructor
  · intro h
    have hall : ∀ e ∈ entries, e.1 = "check" := fun e he =>
      eq_check_of_foldlM_ofTop h e ((sorted_perm entries).mem_iff.mpr he)
    match entries, hentries, hall, h with
    | [], _, _, h =>
        rw [ofEntries_nil] at h
        cases h
        exact .absent
    | [(name, v)], hentries, hall, h =>
        obtain rfl : name = "check" := hall (name, v) List.mem_cons_self
        exact (hcheck hentries).mp h
    | e :: e' :: _, hentries, hall, _ =>
        have hnames := hentries.names
        rw [List.map_cons, List.map_cons, hall e (by simp), hall e' (by simp)] at hnames
        simp at hnames
  · intro h
    cases h with
    | absent => exact ofEntries_nil
    | table hupdates => exact (hcheck hentries).mpr (.table hupdates)
    | positional hupdates => exact (hcheck hentries).mpr (.positional hupdates)

theorem ofText_eq_ok_iff {text : List Char} {s : Settings} :
    ofText text = .ok s ↔ ∃ entries, document text = .ok entries ∧ Fits entries s := by
  unfold ofText
  rw [bind_eq_ok_iff]
  refine exists_congr fun entries => and_congr_right fun h => ?_
  exact ofEntries_eq_ok_iff (distinct_of_document h)

theorem ofFile_eq_ok_iff_ofText {files : FileSource} {path : String} {s : Settings} :
    ofFile files path = .ok s ↔ ∃ text, files.read path = some text ∧ ofText text = .ok s := by
  unfold ofFile
  cases files.read path with
  | none => simp
  | some text =>
      cases h : ofText text with
      | ok settings => simp [h]
      | error e => simp [h]

/-- **The documents that settings are loaded from.**  A file holds settings if it can be read, is a document,
and this has no key, or has the key `check` alone with a table or an array that fits the settings.  No name
has two values in a table of the document. -/
theorem ofFile_eq_ok_iff {files : FileSource} {path : String} {s : Settings} :
    ofFile files path = .ok s ↔ ∃ text entries, files.read path = some text ∧
      document text = .ok entries ∧ entries.Distinct ∧ Fits entries s := by
  rw [ofFile_eq_ok_iff_ofText]
  constructor
  · rintro ⟨text, hread, h⟩
    obtain ⟨entries, hentries, hfits⟩ := ofText_eq_ok_iff.mp h
    exact ⟨text, entries, hread, hentries, distinct_of_document hentries, hfits⟩
  · rintro ⟨text, entries, hread, hentries, -, hfits⟩
    exact ⟨text, hread, ofText_eq_ok_iff.mpr ⟨entries, hentries, hfits⟩⟩

/-- Settings are loaded from a document without any table: an array stands under its key. -/
theorem ofText_positional :
    document "check=[['a']]".toList = .ok [("check", .array false [.array false [.string "a"]])] ∧
      ofText "check=[['a']]".toList = .ok { default with inputs := ["a"] } := by
  constructor
  · cbv
  · cbv

end TextLimits.Settings
