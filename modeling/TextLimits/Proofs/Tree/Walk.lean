import Mathlib.Data.List.Sort
import TextLimits.Proofs.Text.Encoding
import TextLimits.Proofs.Tree.WellFormed
import TextLimits.Tree.Walk

/-! # What a walk lists

A walk lists the names that lead down to anything that is no directory (`mem_walk`), in the order of
the names compared byte by byte from the top (`walk_pairwise`), so each of them once. -/

namespace TextLimits

/-- The bytes of a name. -/
def nameBytes (name : String) : List UInt8 := Utf8.encode name.toList

theorem nameBytes_lt {a b : String} (h : a < b) : nameBytes a < nameBytes b :=
  Utf8.encode_lt_encode h

namespace Tree

/-! ### Entries in the order of their names -/

theorem walkEntries_eq_map (entries : List (String × Tree)) :
    walkEntries entries = entries.map fun e => (e.1, e.2.walk) := by
  induction entries with
  | nil => rfl
  | cons e entries ih =>
      obtain ⟨name, t⟩ := e
      rw [walkEntries, ih, List.map_cons]

theorem mem_walkEntries {entries : List (String × Tree)} {name : String}
    {listed : List (List String)} :
    (name, listed) ∈ walkEntries entries ↔ ∃ t, (name, t) ∈ entries ∧ t.walk = listed := by
  rw [walkEntries_eq_map, List.mem_map]
  constructor
  · rintro ⟨⟨n, t⟩, hmem, heq⟩
    cases heq
    exact ⟨t, hmem, rfl⟩
  · rintro ⟨t, hmem, rfl⟩
    exact ⟨(name, t), hmem, rfl⟩

theorem mem_sortByName {α : Type} {entries : List (String × α)} {e : String × α} :
    e ∈ sortByName entries ↔ e ∈ entries := List.mem_mergeSort

theorem sortByName_pairwise {α : Type} {entries : List (String × α)}
    (hunique : (entries.map Prod.fst).Nodup) :
    (sortByName entries).Pairwise fun a b => a.1 < b.1 := by
  have hperm : List.Perm (sortByName entries) entries := List.mergeSort_perm _ _
  have hne : (sortByName entries).Pairwise fun a b => a.1 ≠ b.1 :=
    List.pairwise_map.mp ((hperm.map Prod.fst).nodup_iff.mpr hunique)
  have hle : (sortByName entries).Pairwise fun a b => (!decide (b.1 < a.1)) = true := by
    apply List.pairwise_mergeSort
    · intro a b c hab hbc
      simp only [Bool.not_eq_true', decide_eq_false_iff_not, String.not_lt] at hab hbc ⊢
      exact String.le_trans hab hbc
    · intro a b
      simp only [Bool.or_eq_true, Bool.not_eq_true', decide_eq_false_iff_not, String.not_lt]
      exact String.le_total a.1 b.1
  refine hle.imp₂ (fun a b hab hne => ?_) hne
  simp only [Bool.not_eq_true', decide_eq_false_iff_not, String.not_lt] at hab
  exact String.not_le.mp fun hba => hne (String.le_antisymm hab hba)

/-! ### Members and order -/

theorem walk_file (f : File) : (Tree.file f).walk = [[]] := by simp [walk]

theorem walk_link (target : String) : (Tree.link target).walk = [[]] := by simp [walk]

theorem walk_of_not_listed (entries : List (String × Tree)) : (Tree.dir entries false).walk = [] := by
  simp [walk]

theorem mem_walk_dir {entries : List (String × Tree)} {names : List String} :
    names ∈ (Tree.dir entries).walk ↔
      ∃ name t rest, (name, t) ∈ entries ∧ rest ∈ t.walk ∧ names = name :: rest := by
  rw [walk, List.mem_flatMap]
  constructor
  · rintro ⟨⟨name, listed⟩, hmem, hnames⟩
    obtain ⟨t, ht, rfl⟩ := mem_walkEntries.mp (mem_sortByName.mp hmem)
    obtain ⟨rest, hrest, rfl⟩ := List.mem_map.mp hnames
    exact ⟨name, t, rest, ht, hrest, rfl⟩
  · rintro ⟨name, t, rest, ht, hrest, rfl⟩
    exact ⟨(name, t.walk), mem_sortByName.mpr (mem_walkEntries.mpr ⟨t, ht, rfl⟩),
      List.mem_map.mpr ⟨rest, hrest, rfl⟩⟩

/-- A walk lists what is no directory. -/
theorem mem_walk {t : Tree} {names : List String} :
    names ∈ t.walk ↔ ∃ u, t.Descends names u ∧ u.isDir = false := by
  induction t using induct generalizing names with
  | file f =>
      constructor
      · intro h
        rw [walk_file, List.mem_singleton] at h
        subst h
        exact ⟨.file f, .here _, rfl⟩
      · rintro ⟨u, h, -⟩
        cases h
        rw [walk_file]
        exact List.mem_singleton.mpr rfl
  | link target =>
      constructor
      · intro h
        rw [walk_link, List.mem_singleton] at h
        subst h
        exact ⟨.link target, .here _, rfl⟩
      · rintro ⟨u, h, -⟩
        cases h
        rw [walk_link]
        exact List.mem_singleton.mpr rfl
  | dir entries listed ih =>
      cases listed with
      | false =>
          rw [walk_of_not_listed]
          refine iff_of_false List.not_mem_nil ?_
          rintro ⟨u, h, hu⟩
          cases h
          cases hu
      | true =>
          rw [mem_walk_dir]
          constructor
          · rintro ⟨name, t, rest, ht, hrest, rfl⟩
            obtain ⟨u, hdown, hu⟩ := (ih _ ht).mp hrest
            exact ⟨u, .down ht hdown, hu⟩
          · rintro ⟨u, h, hu⟩
            cases h with
            | here => cases hu
            | down hmem hdown => exact ⟨_, _, _, hmem, (ih _ hmem).mpr ⟨u, hdown, hu⟩, rfl⟩

theorem nil_mem_walk {t : Tree} : [] ∈ t.walk ↔ t.isDir = false := by
  rw [mem_walk]
  constructor
  · rintro ⟨u, h, hu⟩
    cases h
    exact hu
  · intro h
    exact ⟨t, .here t, h⟩

/-- A walk comes in the order of the names, byte by byte from the top. -/
theorem walk_pairwise {t : Tree} (ht : t.WellFormed) :
    t.walk.Pairwise fun a b => a.map nameBytes < b.map nameBytes := by
  induction t using induct with
  | file f => rw [walk_file]; exact List.pairwise_singleton _ _
  | link target => rw [walk_link]; exact List.pairwise_singleton _ _
  | dir entries listed ih =>
      cases listed with
      | false => rw [walk_of_not_listed]; exact .nil
      | true =>
          cases ht with
          | dir unique _ below =>
              rw [walk, List.pairwise_flatMap]
              constructor
              · rintro ⟨name, listed⟩ hmem
                obtain ⟨t, ht, rfl⟩ := mem_walkEntries.mp (mem_sortByName.mp hmem)
                rw [prefixed, List.pairwise_map]
                refine (ih _ ht (below _ ht)).imp fun h => ?_
                exact List.cons_lt_cons_iff.mpr (Or.inr ⟨rfl, h⟩)
              · have hnames : ((walkEntries entries).map Prod.fst).Nodup := by
                  rw [walkEntries_eq_map, List.map_map]
                  exact unique
                refine (sortByName_pairwise hnames).imp fun {a b} hab x hx y hy => ?_
                obtain ⟨rest, -, rfl⟩ := List.mem_map.mp hx
                obtain ⟨rest', -, rfl⟩ := List.mem_map.mp hy
                exact List.cons_lt_cons_iff.mpr (Or.inl (nameBytes_lt hab))

end Tree

end TextLimits
