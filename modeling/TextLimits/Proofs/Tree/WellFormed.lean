import TextLimits.Tree

/-! # Well-formed trees

A file system gives every entry of a directory a name of its own, which is neither empty nor a dot
name and holds no slash (`Tree.WellFormed`).  In such a tree a list of names leads down to one place
(`Descends.at?_eq`), by way of directories that can be listed. -/

namespace TextLimits

/-- A name that an entry of a directory can have. -/
def IsEntryName (name : String) : Prop :=
  name ≠ "" ∧ name ≠ "." ∧ name ≠ ".." ∧ '/' ∉ name.toList

instance (name : String) : Decidable (IsEntryName name) :=
  inferInstanceAs (Decidable (_ ∧ _ ∧ _ ∧ _))

namespace Tree

/-- Induction on a tree, with a hypothesis for every entry of a directory. -/
@[elab_as_elim]
theorem induct {motive : Tree → Prop} (file : ∀ f, motive (.file f))
    (link : ∀ target, motive (.link target))
    (dir : ∀ entries listed, (∀ e ∈ entries, motive e.2) → motive (.dir entries listed)) (t : Tree) :
    motive t := by
  apply Tree.rec (motive_1 := motive) (motive_2 := fun entries => ∀ e ∈ entries, motive e.2)
    (motive_3 := fun e => motive e.2) file link fun entries listed => dir entries listed
  · intro e he
    cases he
  · intro head tail hhead htail e he
    rcases List.mem_cons.mp he with rfl | he
    · exact hhead
    · exact htail e he
  · intro name sub hsub
    exact hsub

/-- A tree that a file system can hold. -/
inductive WellFormed : Tree → Prop
  | file (f : File) : WellFormed (.file f)
  | link (target : String) : WellFormed (.link target)
  | dir {entries : List (String × Tree)} {listed : Bool} (unique : (entries.map Prod.fst).Nodup)
      (names : ∀ e ∈ entries, IsEntryName e.1) (below : ∀ e ∈ entries, WellFormed e.2) :
      WellFormed (.dir entries listed)

theorem wellFormed_dir_iff {entries : List (String × Tree)} {listed : Bool} :
    WellFormed (.dir entries listed) ↔ (entries.map Prod.fst).Nodup ∧ (∀ e ∈ entries, IsEntryName e.1) ∧
      ∀ e ∈ entries, e.2.WellFormed := by
  constructor
  · intro h
    cases h with
    | dir hunique hnames hbelow => exact ⟨hunique, hnames, hbelow⟩
  · rintro ⟨hunique, hnames, hbelow⟩
    exact .dir hunique hnames hbelow

mutual

/-- A tree can be tested for being well formed. -/
def decideWellFormed : (t : Tree) → Decidable t.WellFormed
  | .file f => .isTrue (.file f)
  | .link target => .isTrue (.link target)
  | .dir entries _ =>
      letI := decideWellFormedEntries entries
      decidable_of_iff' _ wellFormed_dir_iff

def decideWellFormedEntries : (entries : List (String × Tree)) →
    Decidable (∀ e ∈ entries, e.2.WellFormed)
  | [] => .isTrue (List.forall_mem_nil _)
  | (_, t) :: entries =>
      letI := decideWellFormed t
      letI := decideWellFormedEntries entries
      decidable_of_iff' _ List.forall_mem_cons

end

instance : DecidablePred WellFormed := decideWellFormed

/-- Going down from a tree along names, through real directories that can be listed. -/
inductive Descends : Tree → List String → Tree → Prop
  | here (t : Tree) : Descends t [] t
  | down {entries : List (String × Tree)} {name : String} {sub t : Tree} {names : List String} :
      (name, sub) ∈ entries → Descends sub names t → Descends (.dir entries) (name :: names) t

/-! ### Subtrees at names -/

theorem at?_cons (t : Tree) (name : String) (names : List String) :
    t.at? (name :: names) = (t.child? name).bind fun sub => sub.at? names := rfl

theorem at?_append (t : Tree) (a b : List String) :
    t.at? (a ++ b) = (t.at? a).bind fun sub => sub.at? b := by
  induction a generalizing t with
  | nil => rfl
  | cons name a ih =>
      rw [List.cons_append, at?_cons, at?_cons]
      cases t.child? name with
      | none => rfl
      | some sub => exact ih sub

theorem isDir_of_child? {t sub : Tree} {name : String} (h : t.child? name = some sub) :
    t.isDir = true := by
  cases t with
  | dir entries listed => rfl
  | file f => cases h
  | link target => cases h

theorem isDir_of_at?_append {t sub u : Tree} {a b : List String} (ha : t.at? a = some sub)
    (hab : t.at? (a ++ b) = some u) (hb : b ≠ []) : sub.isDir = true := by
  rw [at?_append, ha, Option.bind_some] at hab
  cases b with
  | nil => exact absurd rfl hb
  | cons name b =>
      rw [at?_cons] at hab
      cases he : sub.child? name with
      | none => rw [he] at hab; cases hab
      | some v => exact isDir_of_child? he

/-! ### Well-formed subtrees -/

theorem lookup_eq_some_of_mem {entries : List (String × Tree)}
    (hunique : (entries.map Prod.fst).Nodup) {name : String} {sub : Tree}
    (h : (name, sub) ∈ entries) : entries.lookup name = some sub := by
  induction entries with
  | nil => cases h
  | cons e entries ih =>
      rw [List.map_cons, List.nodup_cons] at hunique
      rcases List.mem_cons.mp h with rfl | h
      · exact List.lookup_cons_self
      · have hne : name ≠ e.1 := by
          rintro rfl
          exact hunique.1 (List.mem_map.mpr ⟨_, h, rfl⟩)
        rw [List.lookup_cons, beq_false_of_ne hne]
        exact ih hunique.2 h

theorem mem_of_lookup_eq_some {entries : List (String × Tree)} {name : String} {sub : Tree}
    (h : entries.lookup name = some sub) : (name, sub) ∈ entries := by
  obtain ⟨l₁, l₂, rfl, -⟩ := List.lookup_eq_some_iff.mp h
  simp

theorem mem_of_child?_eq_some {entries : List (String × Tree)} {listed : Bool} {name : String}
    {sub : Tree} (h : (Tree.dir entries listed).child? name = some sub) : (name, sub) ∈ entries := by
  rw [child?] at h
  split at h
  · cases h
  · exact mem_of_lookup_eq_some h

theorem forall_at?_dir {P : Tree → Prop} {entries : List (String × Tree)} {listed : Bool}
    (hself : P (.dir entries listed))
    (hbelow : ∀ e ∈ entries, ∀ place u, e.2.at? place = some u → P u) (place : List String) (u : Tree)
    (h : (Tree.dir entries listed).at? place = some u) : P u := by
  cases place with
  | nil =>
      cases h
      exact hself
  | cons name rest =>
      rw [at?_cons] at h
      obtain ⟨sub, hsub, hrest⟩ := Option.bind_eq_some_iff.mp h
      exact hbelow (name, sub) (mem_of_child?_eq_some hsub) rest u hrest

/-- The names that lead down from a well-formed tree, and what they lead to, are well formed. -/
theorem WellFormed.of_descends {t u : Tree} {names : List String} (h : t.Descends names u)
    (ht : t.WellFormed) : u.WellFormed ∧ ∀ name ∈ names, IsEntryName name := by
  induction h with
  | here t => exact ⟨ht, fun _ h => by cases h⟩
  | down hmem _ ih =>
      cases ht with
      | dir unique hnames below =>
          obtain ⟨hu, hrest⟩ := ih (below _ hmem)
          refine ⟨hu, fun n hn => ?_⟩
          rcases List.mem_cons.mp hn with rfl | hn
          · exact hnames _ hmem
          · exact hrest n hn

theorem Descends.at?_eq {t u : Tree} {names : List String} (h : t.Descends names u)
    (ht : t.WellFormed) : t.at? names = some u := by
  induction h with
  | here t => rfl
  | down hmem _ ih =>
      cases ht with
      | dir unique hnames below =>
          have hempty : ¬ String.isEmpty _ = true := fun h =>
            (hnames _ hmem).1 (String.isEmpty_iff.mp h)
          rw [at?_cons, child?, if_neg hempty, lookup_eq_some_of_mem unique hmem]
          exact ih (below _ hmem)

theorem descends_append_iff {t u : Tree} {a b : List String} :
    t.Descends (a ++ b) u ↔ ∃ v, t.Descends a v ∧ v.Descends b u := by
  constructor
  · intro h
    induction a generalizing t with
    | nil => exact ⟨t, .here t, h⟩
    | cons name a ih =>
        cases h with
        | down hmem hdown =>
            obtain ⟨v, hv, hu⟩ := ih hdown
            exact ⟨v, .down hmem hv, hu⟩
  · rintro ⟨v, hv, hu⟩
    induction hv with
    | here t => exact hu
    | down hmem _ ih => exact .down hmem (ih hu)

theorem Descends.isDir_of_ne_nil {t u : Tree} {names : List String} (h : t.Descends names u)
    (hne : names ≠ []) : t.isDir = true := by
  cases h with
  | here => exact absurd rfl hne
  | down _ _ => rfl

theorem WellFormed.at? {t u : Tree} {names : List String} (ht : t.WellFormed)
    (h : t.at? names = some u) : u.WellFormed ∧ ∀ name ∈ names, IsEntryName name := by
  induction names generalizing t with
  | nil =>
      cases h
      exact ⟨ht, List.forall_mem_nil _⟩
  | cons name names ih =>
      rw [at?_cons] at h
      obtain ⟨sub, hsub, hrest⟩ := Option.bind_eq_some_iff.mp h
      cases ht with
      | file f => cases hsub
      | link target => cases hsub
      | dir _ hnames below =>
          have hmem := mem_of_child?_eq_some hsub
          obtain ⟨hu, hrest⟩ := ih (below _ hmem) hrest
          exact ⟨hu, List.forall_mem_cons.mpr ⟨hnames _ hmem, hrest⟩⟩

/-- A directory with two files, beside a link to it. -/
def sample : Tree :=
  .dir [("alias", .link "src"),
    ("src", .dir [("a.rs", .file ⟨[97, 98, 10], false⟩), ("b.txt", .file ⟨[], false⟩)])]

theorem sample_wellFormed : sample.WellFormed := by decide

end Tree

end TextLimits
