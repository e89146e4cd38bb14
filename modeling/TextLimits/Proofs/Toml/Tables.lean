import TextLimits.Proofs.Toml.Lines
import TextLimits.Proofs.Toml.Names

/-! # Tables as they are written

A table of values stands below a header, or is made by dotted keys, or stands between braces (`Layout`).  In
each of these ways a document of lines denotes the table with all its entries in their order
(`Layout.document_lines`). -/

namespace TextLimits.Toml

/-- An entry of a table, and how it is written: under a bare name, with a value that nests arrays at most
once. -/
structure Entry where
  name : String
  text : List Char
  written : Written
  denoted : Value
  bare : IsBare name
  takes : ∀ depth, Takes (value (depth + 2)) text written
  denotes : written.value = .ok denoted

/-- What an entry gives to its table. -/
def Entry.said (e : Entry) : String × Value := (e.name, e.denoted)

/-- What of an entry is in the text. -/
def Entry.spelled (e : Entry) : String × List Char := (e.name, e.text)

/-- The ways to write a table under a name of the document. -/
inductive Layout where
  /-- Below a header. -/
  | headed
  /-- With a dotted key for each value. -/
  | dotted
  /-- Between braces, in one line. -/
  | inline

/-- The lines of a document with one table, whose values have the given texts. -/
def Layout.lines (table : String) (pairs : List (String × List Char)) : Layout → List (List Char)
  | headed => headerText [table] :: pairs.map fun p => assignText [p.1] p.2 ++ ['\n']
  | dotted => pairs.map fun p => assignText [table, p.1] p.2 ++ ['\n']
  | inline => [assignText [table] (inlineText (pairs.map fun p => assignText [p.1] p.2)) ++ ['\n']]

/-- The entries of the document.  Without values there are no dotted keys, and so no table. -/
def Layout.entries (table : String) (entries : Entries) : Layout → Entries
  | headed => [(table, .table .headed entries)]
  | dotted => if entries.isEmpty then [] else [(table, .table .dotted entries)]
  | inline => [(table, .table .inline entries)]

/-! ### Entries -/

theorem replace_singleton (name : String) (v w : Value) :
    Entries.replace [(name, v)] name w = [(name, w)] := by
  simp [Entries.replace]

section assign

variable {entries : Entries} {name : String} (hname : name ∉ entries.map Prod.fst)

include hname

theorem assign_nil (v : Value) {kind : TableKind} (hkind : kind ≠ .dotted) :
    assign [] name v kind entries = some (entries.add name v) := by
  have hfree : (entries.lookup name).isSome = false := by rw [lookup_eq_none_iff.mpr hname]; rfl
  cases kind with
  | dotted => exact absurd rfl hkind
  | headed => simp [assign, descend, hfree]
  | implied => simp [assign, descend, hfree]
  | inline => simp [assign, descend, hfree]

theorem assign_dotted (v : Value) (table : String) (kind : TableKind) :
    assign [table] name v kind [(table, .table .dotted entries)] =
      some [(table, .table .dotted (entries.add name v))] := by
  have hfree : (entries.lookup name).isSome = false := by rw [lookup_eq_none_iff.mpr hname]; rfl
  simp [assign, descend, replace_singleton, TableKind.isOpen, hfree]

end assign

theorem assign_dotted_nil (v : Value) (table name : String) (kind : TableKind) :
    assign [table] name v kind [] = some [(table, .table .dotted [(name, v)])] := by
  simp [assign, descend, Entries.add]

/-! ### Statements -/

theorem append_said_cons (entries : Entries) (e : Entry) (es : List Entry) :
    entries ++ (e :: es).map Entry.said = (entries ++ [e.said]) ++ es.map Entry.said := by
  simp

theorem name_not_mem {entries : Entries} {e : Entry} {es : List Entry}
    (h : ((entries ++ (e :: es).map Entry.said).map Prod.fst).Nodup) :
    e.name ∉ entries.map Prod.fst := by
  rw [List.map_append, List.nodup_append] at h
  exact fun hmem => h.2.2 _ hmem e.name (by simp [Entry.said]) rfl

theorem apply_assign {entries : Entries} {table : String} (e : Entry)
    (h : e.name ∉ entries.map Prod.fst) :
    Draft.apply ⟨[(table, .table .headed entries)], [table]⟩ (.assign [.ok e.name] e.written) =
      .ok ⟨[(table, .table .headed (entries ++ [e.said]))], [table]⟩ := by
  have hassign : descend false (assign [] e.name e.denoted) [table] .headed
      [(table, .table .headed entries)] =
        some [(table, .table .headed (entries ++ [e.said]))] := by
    simp [descend, replace_singleton, TableKind.isOpen,
      assign_nil h e.denoted (by decide : TableKind.headed ≠ .dotted), Entries.add, Entry.said]
  show (do
    let v ← e.written.value
    let entries ← orMalformed (descend false (assign [] e.name v) [table] .headed
      [(table, .table .headed entries)])
    return (⟨entries, [table]⟩ : Draft) : Except Error Draft) = _
  rw [e.denotes]
  simp only [bind, Except.bind, hassign, orMalformed]
  rfl

theorem apply_dotted {entries changed : Entries} {table : String} (e : Entry)
    (h : assign [table] e.name e.denoted .headed entries = some changed) :
    Draft.apply ⟨entries, []⟩ (.assign [.ok table, .ok e.name] e.written) = .ok ⟨changed, []⟩ := by
  show (do
    let v ← e.written.value
    let entries ← orMalformed (descend false (assign [table] e.name v) [] .headed entries)
    return (⟨entries, []⟩ : Draft) : Except Error Draft) = _
  rw [e.denotes]
  simp only [bind, Except.bind, descend, h, orMalformed]
  rfl

/-- Statements that each add an entry with a new name to a document add all of them. -/
theorem foldlM_apply_entries (draft : Entries → Draft) (statement : Entry → Statement)
    (hstep : ∀ entries (e : Entry), e.name ∉ entries.map Prod.fst →
      (draft entries).apply (statement e) = .ok (draft (entries ++ [e.said])))
    (es : List Entry) (entries : Entries) (h : ((entries ++ es.map Entry.said).map Prod.fst).Nodup) :
    (es.map statement).foldlM Draft.apply (draft entries) =
      .ok (draft (entries ++ es.map Entry.said)) := by
  induction es generalizing entries with
  | nil => simp [pure, Except.pure]
  | cons e es ih =>
      have hname := name_not_mem h
      rw [append_said_cons] at h ⊢
      rw [List.map_cons, List.foldlM_cons, hstep entries e hname]
      exact ih _ h

theorem foldlM_apply_assign (table : String) (es : List Entry) (entries : Entries)
    (h : ((entries ++ es.map Entry.said).map Prod.fst).Nodup) :
    (es.map fun e => Statement.assign [.ok e.name] e.written).foldlM Draft.apply
        ⟨[(table, .table .headed entries)], [table]⟩ =
      .ok ⟨[(table, .table .headed (entries ++ es.map Entry.said))], [table]⟩ :=
  foldlM_apply_entries (fun entries => ⟨[(table, .table .headed entries)], [table]⟩) _
    (fun _ e hname => apply_assign e hname) es entries h

theorem foldlM_apply_dotted (table : String) (es : List Entry) (entries : Entries)
    (h : ((entries ++ es.map Entry.said).map Prod.fst).Nodup) :
    (es.map fun e => Statement.assign [.ok table, .ok e.name] e.written).foldlM Draft.apply
        ⟨Layout.dotted.entries table entries, []⟩ =
      .ok ⟨Layout.dotted.entries table (entries ++ es.map Entry.said), []⟩ := by
  refine foldlM_apply_entries (fun entries => ⟨Layout.dotted.entries table entries, []⟩) _
    (fun entries e hname => apply_dotted e ?_) es entries h
  cases entries with
  | nil => exact assign_dotted_nil e.denoted table e.name .headed
  | cons first entries => exact assign_dotted hname e.denoted table .headed

theorem entries_inline (es : List Entry) (entries : Entries)
    (h : ((entries ++ es.map Entry.said).map Prod.fst).Nodup) :
    Written.entries (es.map fun e => ([.ok e.name], e.written)) entries =
      .ok (entries ++ es.map Entry.said) := by
  induction es generalizing entries with
  | nil => simp [Written.entries]
  | cons e es ih =>
      have hname := name_not_mem h
      have hassign := assign_nil hname e.denoted (by decide : TableKind.inline ≠ .dotted)
      rw [append_said_cons] at h ⊢
      rw [List.map_cons, Written.entries]
      show (do
        let v ← e.written.value
        Written.entries _ (← orMalformed (assign [] e.name v .inline entries))) = _
      rw [e.denotes]
      simp only [bind, Except.bind, hassign, orMalformed]
      exact ih _ h

/-! ### Documents -/

/-- What the lines of a document with one table say. -/
def Layout.statements (table : String) (es : List Entry) : Layout → List Statement
  | headed => .header [.ok table] :: es.map fun e => .assign [.ok e.name] e.written
  | dotted => es.map fun e => .assign [.ok table, .ok e.name] e.written
  | inline => [.assign [.ok table] (.inline (es.map fun e => ([.ok e.name], e.written)))]

theorem Layout.says_lines {table : String} (htable : IsBare table) (es : List Entry)
    (layout : Layout) :
    List.Forall₂ Says (layout.lines table (es.map Entry.spelled)) (layout.statements table es) := by
  cases layout with
  | headed =>
      refine .cons (says_header (List.cons_ne_nil _ _) (by simpa using htable)) ?_
      simp only [List.map_map, List.forall₂_map_left_iff, List.forall₂_map_right_iff]
      exact List.forall₂_same.mpr fun e _ =>
        says_assign (List.cons_ne_nil _ _) (by simpa [Entry.spelled] using e.bare) (e.takes 79)
  | dotted =>
      simp only [lines, statements, List.map_map, List.forall₂_map_left_iff,
        List.forall₂_map_right_iff]
      exact List.forall₂_same.mpr fun e _ =>
        says_assign (List.cons_ne_nil _ _) (by simpa [Entry.spelled] using ⟨htable, e.bare⟩) (e.takes 79)
  | inline =>
      refine .cons (says_assign (List.cons_ne_nil _ _) (by simpa using htable)
        (takes_inline ?_)) .nil
      simp only [List.map_map, List.forall₂_map_left_iff, List.forall₂_map_right_iff]
      exact List.forall₂_same.mpr fun e _ =>
        takes_assignment (List.cons_ne_nil _ _) (by simpa [Entry.spelled] using e.bare) (e.takes 78)

theorem Layout.foldlM_statements (table : String) {es : List Entry} (h : (es.map Entry.name).Nodup)
    (layout : Layout) : ∃ place, (layout.statements table es).foldlM Draft.apply ⟨[], []⟩ =
      .ok ⟨layout.entries table (es.map Entry.said), place⟩ := by
  have hnames : (([] ++ es.map Entry.said).map Prod.fst).Nodup := by
    rw [List.nil_append, List.map_map]
    exact h
  cases layout with
  | headed => exact ⟨[table], foldlM_apply_assign table es [] hnames⟩
  | dotted => exact ⟨[], foldlM_apply_dotted table es [] hnames⟩
  | inline =>
      refine ⟨[], ?_⟩
      have hvalue : (Written.inline (es.map fun e => ([.ok e.name], e.written))).value =
          .ok (.table .inline (es.map Entry.said)) := by
        rw [Written.value, entries_inline es [] hnames]
        rfl
      have happly : Draft.apply ⟨[], []⟩
          (.assign [.ok table] (.inline (es.map fun e => ([.ok e.name], e.written)))) =
            .ok ⟨[(table, .table .inline (es.map Entry.said))], []⟩ := by
        show (do
          let v ← (Written.inline (es.map fun e => ([.ok e.name], e.written))).value
          let entries ← orMalformed (descend false (assign [] table v) [] .headed [])
          return (⟨entries, []⟩ : Draft) : Except Error Draft) = _
        rw [hvalue]
        rfl
      rw [statements, List.foldlM_cons, happly]
      rfl

/-- **A table is read as it is written.**  In whichever way the values of a table are laid out in lines, the
document holds the table with these values. -/
theorem Layout.document_lines {table : String} (htable : IsBare table) {es : List Entry}
    (h : (es.map Entry.name).Nodup) (layout : Layout) :
    document (layout.lines table (es.map Entry.spelled)).flatten =
      .ok (layout.entries table (es.map Entry.said)) := by
  obtain ⟨place, hplace⟩ := layout.foldlM_statements table h
  have hread := statements?_flatten (layout.says_lines htable es)
  unfold document
  rw [hread]
  simp only [orMalformed, bind, Except.bind, hplace]
  rfl

end TextLimits.Toml
