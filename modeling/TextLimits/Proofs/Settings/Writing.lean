import TextLimits.Proofs.Settings.Schema
import TextLimits.Proofs.Toml.Tables

/-! # Settings that are written out

Settings are written field by field: the strings of a list between quotes, a limit in decimal digits.  Whichever
fields are written, in whichever order and layout, the settings that are read back have these fields, and the
default content in the others (`Settings.ofFile_written`). -/

namespace TextLimits.Settings

open Toml

/-- The texts of the content of a field: an array of strings, each between quotes with its special characters
escaped, or the digits of a number. -/
inductive Content.WrittenAs : Content → List Char → Prop
  | strings {l : List String} {texts : List (List Char)} (h : List.Forall₂ SpellsString l texts) :
      WrittenAs (.strings l) ('[' :: (comma.intercalate texts ++ [']']))
  | limit (n : UInt64) : WrittenAs (.limit n) (toString n.toNat).toList

/-- A document has the given fields of settings under `check`, in this order. -/
def WrittenIn (c : Settings) (layout : Layout) (fields : List Field) (text : List Char) : Prop :=
  ∃ texts : List (List Char),
    List.Forall₂ (fun f t => (c.content f).WrittenAs t) fields texts ∧
      text = (layout.lines "check" ((fields.map Field.name).zip texts)).flatten

/-- Settings with the content of some of their fields, and the default content in the others. -/
def only (c : Settings) (fields : List Field) : Settings where
  inputs := if .inputs ∈ fields then c.inputs else default.inputs
  excludes := if .excludes ∈ fields then c.excludes else default.excludes
  ignoreLinesMatching :=
    if .ignoreLinesMatching ∈ fields then c.ignoreLinesMatching else default.ignoreLinesMatching
  maxLineLength := if .maxLineLength ∈ fields then c.maxLineLength else default.maxLineLength
  maxLinesInFile := if .maxLinesInFile ∈ fields then c.maxLinesInFile else default.maxLinesInFile

theorem content_only_of_mem {c : Settings} {fields : List Field} {f : Field} (h : f ∈ fields) :
    (c.only fields).content f = c.content f := by
  cases f <;> simp [content, only, h]

theorem content_only_of_not_mem {c : Settings} {fields : List Field} {f : Field} (h : f ∉ fields) :
    (c.only fields).content f = default.content f := by
  cases f <;> simp [content, only, h]

/-! ### Texts -/

theorem exists_spellsString (s : String) : ∃ text, SpellsString s text := by
  obtain ⟨inner, h⟩ := exists_spellsChars s.toList
  exact ⟨_, inner, h, rfl⟩

theorem exists_forall₂ {α β : Type} {R : α → β → Prop} (h : ∀ a, ∃ b, R a b) (l : List α) :
    ∃ l', List.Forall₂ R l l' := by
  choose f hf using h
  exact ⟨l.map f, by simpa [List.forall₂_map_right_iff] using fun a _ => hf a⟩

theorem Content.exists_writtenAs (content : Content) : ∃ text, content.WrittenAs text := by
  cases content with
  | strings l =>
      obtain ⟨texts, h⟩ := exists_forall₂ exists_spellsString l
      exact ⟨_, .strings h⟩
  | limit n => exact ⟨_, .limit n⟩

theorem exists_writtenIn (c : Settings) (layout : Layout) (fields : List Field) :
    ∃ text, c.WrittenIn layout fields text := by
  obtain ⟨texts, h⟩ := exists_forall₂ (fun f => (c.content f).exists_writtenAs) fields
  exact ⟨_, texts, h, rfl⟩

/-! ### Entries -/

theorem Field.isBare_name (f : Field) : IsBare f.name := by
  cases f <;> exact ⟨by decide, List.all_eq_true.mp (by rfl)⟩

theorem values_strings (l : List String) :
    Written.values (l.map fun s => .string (.ok s)) = .ok (l.map .string) := by
  induction l with
  | nil => rfl
  | cons s l ih =>
      rw [List.map_cons, Written.values, ih]
      rfl

theorem Content.WrittenAs.exists_written {content : Content} {text : List Char}
    (h : content.WrittenAs text) : ∃ w v, (∀ depth, Takes (value (depth + 2)) text w) ∧
      w.value = .ok v ∧ content.SaidBy v := by
  cases h with
  | @strings l texts h =>
      refine ⟨.array (l.map fun s => .string (.ok s)), .array false (l.map .string),
        fun depth => takes_array ?_, ?_, .strings false l⟩
      · rw [List.forall₂_map_right_iff]
        exact h.flip.imp fun _ _ hs => takes_string hs depth
      · rw [Written.value, values_strings]
        rfl
  | limit n => exact ⟨_, _, fun depth => takes_decimal n.toNat (depth + 1), rfl, .limit n⟩

theorem exists_entries {c : Settings} {fields : List Field} {texts : List (List Char)}
    (h : List.Forall₂ (fun f t => (c.content f).WrittenAs t) fields texts) :
    ∃ es : List Entry, es.map Entry.spelled = (fields.map Field.name).zip texts ∧
      List.Forall₂ (fun f e => e.name = f.name ∧ (c.content f).SaidBy e.denoted) fields es := by
  induction h with
  | nil => exact ⟨[], rfl, .nil⟩
  | @cons f text fields texts htext _ ih =>
      obtain ⟨es, hspelled, hes⟩ := ih
      obtain ⟨w, v, htakes, hdenotes, hsaid⟩ := htext.exists_written
      refine ⟨⟨f.name, text, w, v, f.isBare_name, htakes, hdenotes⟩ :: es, ?_, .cons ⟨rfl, hsaid⟩ hes⟩
      rw [List.map_cons, hspelled]
      rfl

theorem map_name_of_forall₂ {c : Settings} {fields : List Field} {es : List Entry}
    (h : List.Forall₂ (fun f e => e.name = f.name ∧ (c.content f).SaidBy e.denoted) fields es) :
    es.map Entry.name = fields.map Field.name := by
  induction h with
  | nil => rfl
  | cons he _ ih => rw [List.map_cons, List.map_cons, he.1, ih]

theorem exists_field_of_mem {c : Settings} {fields : List Field} {es : List Entry}
    (h : List.Forall₂ (fun f e => e.name = f.name ∧ (c.content f).SaidBy e.denoted) fields es)
    {e : Entry} (he : e ∈ es) : ∃ f ∈ fields, e.name = f.name ∧ (c.content f).SaidBy e.denoted := by
  induction h with
  | nil => cases he
  | @cons f first fields es hfirst _ ih =>
      rcases List.mem_cons.mp he with rfl | he
      · exact ⟨f, List.mem_cons_self, hfirst⟩
      · obtain ⟨g, hg, hsaid⟩ := ih he
        exact ⟨g, List.mem_cons_of_mem _ hg, hsaid⟩

/-- The entries of some fields give these fields their content, and no others. -/
theorem updates_of_forall₂ {c : Settings} {fields : List Field} {es : List Entry}
    (h : List.Forall₂ (fun f e => e.name = f.name ∧ (c.content f).SaidBy e.denoted) fields es) :
    Updates (es.map Entry.said) default (c.only fields) := by
  have hnames : (es.map Entry.said).map Prod.fst = fields.map Field.name := by
    rw [← map_name_of_forall₂ h, List.map_map]
    rfl
  refine ⟨?_, ?_, ?_⟩
  · intro p hp
    obtain ⟨e, he, rfl⟩ := List.mem_map.mp hp
    obtain ⟨f, -, hname, -⟩ := exists_field_of_mem h he
    exact ⟨f, hname.symm⟩
  · intro f v hv
    obtain ⟨e, he, heq⟩ := List.mem_map.mp hv
    obtain ⟨g, hg, hname, hsaid⟩ := exists_field_of_mem h he
    obtain ⟨hfst, rfl⟩ := Prod.mk.inj heq
    obtain rfl : f = g := Field.name_injective (hfst.symm.trans hname)
    rwa [content_only_of_mem hg]
  · intro f hf
    rw [hnames, List.mem_map_of_injective Field.name_injective] at hf
    exact content_only_of_not_mem hf

/-! ### Reading back -/

/-- A table that changes the default settings fits the result in every layout. -/
theorem fits_layout {entries : Entries} {s : Settings} (h : Updates entries default s)
    (layout : Layout) : Fits (layout.entries "check" entries) s := by
  cases layout with
  | headed => exact .table h
  | dotted =>
      cases entries with
      | nil =>
          rw [ext_content fun f => h.kept f List.not_mem_nil]
          exact .absent
      | cons e entries => exact .table h
  | inline => exact .table h

theorem ofText_writtenIn {c : Settings} {layout : Layout} {fields : List Field}
    (hfields : fields.Nodup) {text : List Char} (h : c.WrittenIn layout fields text) :
    ofText text = .ok (c.only fields) := by
  obtain ⟨texts, htexts, rfl⟩ := h
  obtain ⟨es, hspelled, hes⟩ := exists_entries htexts
  have hnames : (es.map Entry.name).Nodup := by
    rw [map_name_of_forall₂ hes]
    exact hfields.map Field.name_injective
  have hcheck : IsBare "check" := ⟨by decide, List.all_eq_true.mp (by rfl)⟩
  rw [ofText_eq_ok_iff, ← hspelled]
  exact ⟨_, layout.document_lines hcheck hnames, fits_layout (updates_of_forall₂ hes) layout⟩

/-- **What is written out is read back.**  Settings can be written with any of their fields, in any order and
any layout; and from a file with such a text, settings with these fields are loaded. -/
theorem ofFile_written (c : Settings) (layout : Layout) {fields : List Field}
    (hfields : fields.Nodup) :
    (∃ text, c.WrittenIn layout fields text) ∧
      ∀ text, c.WrittenIn layout fields text → ∀ (files : FileSource) (path : String),
        files.read path = some text → ofFile files path = .ok (c.only fields) := by
  refine ⟨c.exists_writtenIn layout fields, fun text htext files path hread => ?_⟩
  exact ofFile_eq_ok_iff_ofText.mpr ⟨text, hread, ofText_writtenIn hfields htext⟩

/-- Two fields between braces: the greatest limit, and a glob with a quote and a line feed in it. -/
theorem ofFile_written_inline :
    [Field.maxLineLength, .inputs].Nodup ∧
      ofFile ⟨fun _ => some ("check = \x7b max_line_length = 18446744073709551615, " ++
        "inputs = [\"\\\"\\u000a\"] \x7d\n").toList, fun _ => false, none⟩ "settings.toml" =
          .ok { default with inputs := ["\"\n"], maxLineLength := 18446744073709551615 } := by
  have hfields : [Field.maxLineLength, .inputs].Nodup := by decide
  have hquote : SpellsChar '"' ['\\', '"'] := .short (by decide)
  have hfeed : SpellsChar '\n' ('\\' :: 'u' :: ['0', '0', '0', 'a']) :=
    .code (by decide) (List.all_eq_true.mp (by rfl)) (by rfl)
  have hinputs : SpellsString "\"\n" ('"' :: ((['\\', '"'] ++
      ('\\' :: 'u' :: ['0', '0', '0', 'a'] ++ [])) ++ ['"'])) :=
    ⟨_, .cons hquote (.cons hfeed .nil), rfl⟩
  refine ⟨hfields, (ofFile_written ⟨["\"\n"], ["left out"], [], 18446744073709551615, 1⟩ .inline
    hfields).2 _ ?_ _ "settings.toml" rfl⟩
  exact ⟨_, .cons (.limit _) (.cons (.strings (.cons hinputs .nil)) .nil), by cbv⟩

end TextLimits.Settings
