import TextLimits.Proofs.Result
import TextLimits.Toml.Document

/-! # Names in a document

In a document that has been put together, no table has two values for one name
(`distinct_of_document`).  What is read from a text holds no tables but those between braces
(`plain_of_statements?`), and every statement adds to a table only under a name that is new there
(`distinct_apply`). -/

namespace TextLimits.Toml

/-- A value in which no table has two values for one name. -/
inductive Value.Distinct : Value → Prop
  | string (s : String) : Distinct (.string s)
  | integer (n : Int) : Distinct (.integer n)
  | float (f : Float) : Distinct (.float f)
  | boolean (b : Bool) : Distinct (.boolean b)
  | datetime : Distinct .datetime
  | array {headed : Bool} {items : List Value} (hitems : ∀ v ∈ items, v.Distinct) :
      Distinct (.array headed items)
  | table {kind : TableKind} {entries : Entries} (hnames : (entries.map Prod.fst).Nodup)
      (hvalues : ∀ e ∈ entries, e.2.Distinct) : Distinct (.table kind entries)

/-- Entries with one value for each name, down to the tables below. -/
structure Entries.Distinct (entries : Entries) : Prop where
  names : (entries.map Prod.fst).Nodup
  values : ∀ e ∈ entries, e.2.Distinct

theorem Value.distinct_table_iff {kind : TableKind} {entries : Entries} :
    (Value.table kind entries).Distinct ↔ entries.Distinct := by
  constructor
  · rintro ⟨⟩
    exact ⟨‹_›, ‹_›⟩
  · rintro ⟨hnames, hvalues⟩
    exact .table hnames hvalues

theorem Value.distinct_array_iff {headed : Bool} {items : List Value} :
    (Value.array headed items).Distinct ↔ ∀ v ∈ items, v.Distinct := by
  constructor
  · rintro ⟨⟩
    assumption
  · exact .array

/-! ### Entries that are added and replaced -/

theorem lookup_eq_none_iff {entries : Entries} {name : String} :
    entries.lookup name = none ↔ name ∉ entries.map Prod.fst := by
  rw [List.lookup_eq_none_iff]
  constructor
  · intro h hmem
    obtain ⟨e, he, rfl⟩ := List.mem_map.mp hmem
    exact bne_iff_ne.mp (h e he) rfl
  · intro h e he
    rw [bne_iff_ne]
    rintro rfl
    exact h (List.mem_map_of_mem he)

namespace Entries.Distinct

variable {entries entries' : Entries} {name : String} {v : Value}

theorem nil : Entries.Distinct [] := ⟨List.nodup_nil, by simp⟩

theorem of_lookup (h : entries.Distinct) (hv : entries.lookup name = some v) : v.Distinct := by
  obtain ⟨before, after, rfl, -⟩ := List.lookup_eq_some_iff.mp hv
  exact h.values (name, v) (by simp)

theorem add (h : entries.Distinct) (hnew : entries.lookup name = none) (hv : v.Distinct) :
    (entries.add name v).Distinct := by
  have habsent := lookup_eq_none_iff.mp hnew
  unfold Entries.add
  refine ⟨?_, ?_⟩
  · rw [List.map_append, List.nodup_append']
    exact ⟨h.names, List.nodup_singleton name, by simpa using habsent⟩
  · intro e he
    rcases List.mem_append.mp he with he | he
    · exact h.values e he
    · rw [List.mem_singleton.mp he]
      exact hv

theorem replace (h : entries.Distinct) (hv : v.Distinct) : (entries.replace name v).Distinct := by
  have hnames : (entries.replace name v).map Prod.fst = entries.map Prod.fst := by
    unfold Entries.replace
    rw [List.map_map]
    refine List.map_congr_left fun e _ => ?_
    by_cases he : e.1 = name
    · simp [he]
    · simp [he]
  refine ⟨by rw [hnames]; exact h.names, ?_⟩
  intro e he
  obtain ⟨e', he', rfl⟩ := List.mem_map.mp he
  split_ifs
  · exact hv
  · exact h.values e' he'

end Entries.Distinct

/-! ### Tables that are entered -/

/-- A change that keeps the names of a table distinct can be made at any list of names. -/
theorem distinct_descend {byDots : Bool} {change : TableKind → Entries → Option Entries}
    (hchange : ∀ kind es es', es.Distinct → change kind es = some es' → es'.Distinct)
    {path : List String} {kind : TableKind} {entries entries' : Entries} (h : entries.Distinct)
    (hd : descend byDots change path kind entries = some entries') : entries'.Distinct := by
  induction path generalizing kind entries entries' with
  | nil => exact hchange kind entries entries' h hd
  | cons name path ih =>
      unfold descend at hd
      split at hd
      · next hnew =>
          obtain ⟨sub, hsub, rfl⟩ := Option.map_eq_some_iff.mp hd
          exact h.add hnew (Value.distinct_table_iff.mpr (ih .nil hsub))
      · next kind' sub hsome =>
          have hdistinct := Value.distinct_table_iff.mp (h.of_lookup hsome)
          split_ifs at hd
          obtain ⟨sub', hsub, rfl⟩ := Option.map_eq_some_iff.mp hd
          exact h.replace (Value.distinct_table_iff.mpr (ih hdistinct hsub))
      · next items hsome =>
          have hitems := Value.distinct_array_iff.mp (h.of_lookup hsome)
          split at hd
          · next kind' sub hlast =>
              have hdistinct := hitems _ (List.mem_of_getLast? hlast)
              obtain ⟨sub', hsub, rfl⟩ := Option.map_eq_some_iff.mp hd
              have hnew : (Value.table kind' sub').Distinct :=
                Value.distinct_table_iff.mpr (ih (Value.distinct_table_iff.mp hdistinct) hsub)
              refine h.replace (.array fun v hv => ?_)
              rcases List.mem_append.mp hv with hv | hv
              · exact hitems v (List.dropLast_subset items hv)
              · rw [List.mem_singleton.mp hv]
                exact hnew
          · cases hd
      · cases hd

theorem distinct_assign {path : List String} {name : String} {v : Value} {kind : TableKind}
    {entries entries' : Entries} (h : entries.Distinct) (hv : v.Distinct)
    (ha : assign path name v kind entries = some entries') : entries'.Distinct := by
  refine distinct_descend (fun kind es es' hes hchange => ?_) h ha
  split_ifs at hchange with hrefused
  obtain rfl := Option.some.inj hchange
  refine hes.add ?_ hv
  by_contra hsome
  exact hrefused (.inr (Option.isSome_iff_ne_none.mpr hsome))

theorem distinct_head {name : String} {entries entries' : Entries} (h : entries.Distinct)
    (hh : head name entries = some entries') : entries'.Distinct := by
  unfold head at hh
  split at hh
  · next hnew =>
      obtain rfl := Option.some.inj hh
      exact h.add hnew (Value.distinct_table_iff.mpr .nil)
  · next sub hsome =>
      obtain rfl := Option.some.inj hh
      have hsub := Value.distinct_table_iff.mp (h.of_lookup hsome)
      exact h.replace (Value.distinct_table_iff.mpr hsub)
  · cases hh

theorem distinct_headArray {name : String} {entries entries' : Entries} (h : entries.Distinct)
    (hh : headArray name entries = some entries') : entries'.Distinct := by
  have hempty : (Value.table .headed []).Distinct := Value.distinct_table_iff.mpr .nil
  unfold headArray at hh
  split at hh
  · next hnew =>
      obtain rfl := Option.some.inj hh
      exact h.add hnew (.array (by simpa using hempty))
  · next items hsome =>
      obtain rfl := Option.some.inj hh
      have hitems := Value.distinct_array_iff.mp (h.of_lookup hsome)
      refine h.replace (.array fun v hv => ?_)
      rcases List.mem_append.mp hv with hv | hv
      · exact hitems v hv
      · rw [List.mem_singleton.mp hv]
        exact hempty
  · cases hh

/-! ### Values as written -/

/-- A value as written in which no word stands for a table with a name given twice. -/
inductive Written.Plain : Written → Prop
  | string (s : Spelled) : Plain (.string s)
  | word {value : Option Value} (hvalue : ∀ v, value = some v → v.Distinct) : Plain (.word value)
  | array {items : List Written} (hitems : ∀ w ∈ items, w.Plain) : Plain (.array items)
  | inline {entries : List (Key × Written)} (hentries : ∀ e ∈ entries, e.2.Plain) :
      Plain (.inline entries)

theorem orMalformed_eq_ok_iff {α : Type} {o : Option α} {a : α} :
    orMalformed o = .ok a ↔ o = some a := by
  cases o <;> simp [orMalformed]

theorem distinct_of_values {items : List Written} {vs : List Value}
    (hitems : ∀ w ∈ items, ∀ v, w.value = .ok v → v.Distinct) (h : Written.values items = .ok vs) :
    ∀ v ∈ vs, v.Distinct := by
  induction items generalizing vs with
  | nil =>
      rw [Written.values] at h
      cases h
      simp
  | cons w items ih =>
      rw [List.forall_mem_cons] at hitems
      rw [Written.values] at h
      obtain ⟨v, hv, h⟩ := bind_eq_ok_iff.mp h
      obtain ⟨rest, hrest, h⟩ := bind_eq_ok_iff.mp h
      cases h
      rw [List.forall_mem_cons]
      exact ⟨hitems.1 v hv, ih hitems.2 hrest⟩

theorem distinct_of_entries {written : List (Key × Written)} {done entries : Entries}
    (hwritten : ∀ e ∈ written, ∀ v, e.2.value = .ok v → v.Distinct) (hdone : done.Distinct)
    (h : Written.entries written done = .ok entries) : entries.Distinct := by
  induction written generalizing done with
  | nil =>
      rw [Written.entries] at h
      cases h
      exact hdone
  | cons e written ih =>
      obtain ⟨key, w⟩ := e
      rw [List.forall_mem_cons] at hwritten
      rw [Written.entries] at h
      obtain ⟨names, -, h⟩ := bind_eq_ok_iff.mp h
      obtain ⟨⟨path, name⟩, -, h⟩ := bind_eq_ok_iff.mp h
      obtain ⟨v, hv, h⟩ := bind_eq_ok_iff.mp h
      obtain ⟨next, hnext, h⟩ := bind_eq_ok_iff.mp h
      have hassign := orMalformed_eq_ok_iff.mp hnext
      exact ih hwritten.2 (distinct_assign hdone (hwritten.1 v hv) hassign) h

theorem Written.Plain.distinct {w : Written} (hw : w.Plain) :
    ∀ v, w.value = .ok v → v.Distinct := by
  induction hw with
  | string s =>
      intro v h
      obtain ⟨text, -, rfl⟩ := map_eq_ok_iff.mp h
      exact .string text
  | @word value hvalue =>
      intro v h
      rw [Written.value] at h
      exact hvalue v (orMalformed_eq_ok_iff.mp h)
  | @array items hitems ih =>
      intro v h
      rw [Written.value] at h
      obtain ⟨vs, hvs, rfl⟩ := map_eq_ok_iff.mp h
      exact .array (distinct_of_values ih hvs)
  | @inline entries hentries ih =>
      intro v h
      rw [Written.value] at h
      obtain ⟨es, hes, rfl⟩ := map_eq_ok_iff.mp h
      exact Value.distinct_table_iff.mpr (distinct_of_entries ih .nil hes)

/-! ### What is read from a text -/

theorem distinct_of_scalar? {word : List Char} {v : Value} (h : scalar? word = some v) :
    v.Distinct := by
  unfold scalar? at h
  split_ifs at h
  · cases h
    exact .boolean true
  · cases h
    exact .boolean false
  · cases h
    exact .datetime
  · split at h
    · cases h
      exact .integer _
    · obtain ⟨f, -, rfl⟩ := Option.map_eq_some_iff.mp h
      exact .float f

theorem plain_of_word {cs rest : List Char} {w : Written} (h : word cs = some (w, rest)) :
    w.Plain := by
  have hscalar : ∀ text, (Written.word (scalar? text)).Plain := fun text =>
    .word fun v hv => distinct_of_scalar? hv
  unfold word at h
  dsimp only at h
  split_ifs at h
  split at h
  · split_ifs at h
    · cases h
      exact hscalar _
    · cases h
      exact hscalar _
  · cases h
    exact hscalar _

/-- A reader of values reads none that stands for a table with a name given twice. -/
def ReadsPlain (item : Reader Written) : Prop := ∀ cs w rest, item cs = some (w, rest) → w.Plain

theorem plain_of_assignment {item : Reader Written} (hitem : ReadsPlain item)
    {cs rest : List Char} {e : Key × Written} (h : assignment item cs = some (e, rest)) :
    e.2.Plain := by
  unfold assignment at h
  obtain ⟨⟨k, afterKey⟩, -, h⟩ := Option.bind_eq_some_iff.mp h
  obtain ⟨afterSign, -, h⟩ := Option.bind_eq_some_iff.mp h
  obtain ⟨⟨w, after⟩, hw, h⟩ := Option.bind_eq_some_iff.mp h
  cases h
  exact hitem _ _ _ hw

theorem forall_mem_of_sequence {α : Type} {P : α → Prop} {close : Char} {entry : Reader α}
    (hentry : ∀ cs a rest, entry cs = some (a, rest) → P a) {fuel : Nat} {done entries : List α}
    {cs rest : List Char} (hdone : ∀ a ∈ done, P a)
    (h : sequence close entry fuel done cs = some (entries, rest)) : ∀ a ∈ entries, P a := by
  induction fuel generalizing done cs with
  | zero => cases h
  | succ fuel ih =>
      rw [sequence] at h
      obtain ⟨next, -, h⟩ := Option.bind_eq_some_iff.mp h
      split at h
      · cases h
      · split at h
        · cases h
          simpa using hdone
        · obtain ⟨⟨a, after⟩, ha, h⟩ := Option.bind_eq_some_iff.mp h
          have hmore : ∀ a' ∈ a :: done, P a' := by
            rw [List.forall_mem_cons]
            exact ⟨hentry _ _ _ ha, hdone⟩
          obtain ⟨next', -, h⟩ := Option.bind_eq_some_iff.mp h
          split at h
          · cases h
          · split_ifs at h
            · exact ih hmore h
            · cases h
              exact fun a' ha' => hmore a' (List.mem_reverse.mp ha')

theorem readsPlain_value (depth : Nat) : ReadsPlain (value depth) := by
  induction depth with
  | zero => intro cs w rest h; cases h
  | succ depth ih =>
      intro cs w rest h
      unfold value at h
      split at h
      iterate 4
        obtain ⟨⟨s, after⟩, -, h⟩ := Option.map_eq_some_iff.mp h
        cases h
        exact .string s
      · obtain ⟨⟨items, after⟩, hitems, h⟩ := Option.map_eq_some_iff.mp h
        cases h
        exact .array (forall_mem_of_sequence ih (by simp) hitems)
      · obtain ⟨⟨entries, after⟩, hentries, h⟩ := Option.map_eq_some_iff.mp h
        cases h
        exact .inline (forall_mem_of_sequence (fun _ _ _ => plain_of_assignment ih) (by simp) hentries)
      · exact plain_of_word h

/-- A statement whose value, if it gives one, stands for no table with a name given twice. -/
def Statement.Plain : Statement → Prop
  | .header _ | .arrayHeader _ => True
  | .assign _ w => w.Plain

theorem plain_of_headerLine {cs rest : List Char} {s : Statement}
    (h : headerLine cs = some (s, rest)) : s.Plain := by
  unfold headerLine at h
  split at h
  · obtain ⟨⟨k, afterKey⟩, -, h⟩ := Option.bind_eq_some_iff.mp h
    obtain ⟨afterFirst, -, h⟩ := Option.bind_eq_some_iff.mp h
    obtain ⟨afterSecond, -, h⟩ := Option.bind_eq_some_iff.mp h
    obtain ⟨next, -, h⟩ := Option.bind_eq_some_iff.mp h
    cases h
    trivial
  · obtain ⟨⟨k, afterKey⟩, -, h⟩ := Option.bind_eq_some_iff.mp h
    obtain ⟨afterBracket, -, h⟩ := Option.bind_eq_some_iff.mp h
    obtain ⟨next, -, h⟩ := Option.bind_eq_some_iff.mp h
    cases h
    trivial

theorem plain_of_assignLine {cs rest : List Char} {s : Statement}
    (h : assignLine cs = some (s, rest)) : s.Plain := by
  unfold assignLine at h
  obtain ⟨⟨⟨k, w⟩, after⟩, hassign, h⟩ := Option.bind_eq_some_iff.mp h
  obtain ⟨next, -, h⟩ := Option.bind_eq_some_iff.mp h
  cases h
  exact plain_of_assignment (readsPlain_value _) hassign

theorem plain_of_statements {fuel : Nat} {done all : List Statement} {cs : List Char}
    (hdone : ∀ s ∈ done, s.Plain) (h : statements fuel done cs = some all) : ∀ s ∈ all, s.Plain := by
  induction fuel generalizing done cs with
  | zero => cases h
  | succ fuel ih =>
      have hmore : ∀ {s : Statement}, s.Plain → ∀ s' ∈ s :: done, s'.Plain := by
        intro s hs
        rw [List.forall_mem_cons]
        exact ⟨hs, hdone⟩
      unfold statements at h
      split at h
      · cases h
        simpa using hdone
      · exact ih hdone h
      · obtain ⟨⟨s, rest⟩, hs, h⟩ := Option.bind_eq_some_iff.mp h
        exact ih (hmore (plain_of_headerLine hs)) h
      · split_ifs at h
        · obtain ⟨rest, -, h⟩ := Option.bind_eq_some_iff.mp h
          exact ih hdone h
        · obtain ⟨⟨s, rest⟩, hs, h⟩ := Option.bind_eq_some_iff.mp h
          exact ih (hmore (plain_of_assignLine hs)) h

theorem plain_of_statements? {text : List Char} {all : List Statement}
    (h : statements? text = some all) : ∀ s ∈ all, s.Plain :=
  plain_of_statements (by simp) h

/-! ### The document -/

/-- A statement keeps the names of a document distinct. -/
theorem distinct_apply {d d' : Draft} {s : Statement} (hs : s.Plain) (hd : d.entries.Distinct)
    (h : d.apply s = .ok d') : d'.entries.Distinct := by
  cases s with
  | header key =>
      obtain ⟨names, -, h⟩ := bind_eq_ok_iff.mp h
      obtain ⟨⟨path, name⟩, -, h⟩ := bind_eq_ok_iff.mp h
      obtain ⟨entries, hentries, h⟩ := bind_eq_ok_iff.mp h
      cases h
      exact distinct_descend (fun _ _ _ hes hh => distinct_head hes hh) hd
        (orMalformed_eq_ok_iff.mp hentries)
  | arrayHeader key =>
      obtain ⟨names, -, h⟩ := bind_eq_ok_iff.mp h
      obtain ⟨⟨path, name⟩, -, h⟩ := bind_eq_ok_iff.mp h
      obtain ⟨entries, hentries, h⟩ := bind_eq_ok_iff.mp h
      cases h
      exact distinct_descend (fun _ _ _ hes hh => distinct_headArray hes hh) hd
        (orMalformed_eq_ok_iff.mp hentries)
  | assign key w =>
      obtain ⟨names, -, h⟩ := bind_eq_ok_iff.mp h
      obtain ⟨⟨path, name⟩, -, h⟩ := bind_eq_ok_iff.mp h
      obtain ⟨v, hv, h⟩ := bind_eq_ok_iff.mp h
      obtain ⟨entries, hentries, h⟩ := bind_eq_ok_iff.mp h
      cases h
      exact distinct_descend (fun _ _ _ hes ha => distinct_assign hes (hs.distinct v hv) ha) hd
        (orMalformed_eq_ok_iff.mp hentries)

theorem distinct_foldlM_apply {all : List Statement} {d d' : Draft} (hall : ∀ s ∈ all, s.Plain)
    (hd : d.entries.Distinct) (h : all.foldlM Draft.apply d = .ok d') : d'.entries.Distinct :=
  foldlM_keeps (P := fun d => d.entries.Distinct)
    (fun s hs _ _ hbefore happly => distinct_apply (hall s hs) hbefore happly) hd h

/-- **In a document, every table has one value for each name.** -/
theorem distinct_of_document {text : List Char} {entries : Entries}
    (h : document text = .ok entries) : entries.Distinct := by
  obtain ⟨all, hall, h⟩ := bind_eq_ok_iff.mp h
  obtain ⟨d, hd, h⟩ := bind_eq_ok_iff.mp h
  cases h
  exact distinct_foldlM_apply (plain_of_statements? (orMalformed_eq_ok_iff.mp hall)) .nil hd

end TextLimits.Toml
