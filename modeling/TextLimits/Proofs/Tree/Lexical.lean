import TextLimits.Proofs.Tree.Way

/-! # Ways that meet no link

In a tree without links a way can only lead where its segments say (`Tree.LinkFree.eq_moves`): a name
leads down, two dots lead up, and a dot nowhere.  So two ways that lead anywhere lead to one place
exactly if they say the same. -/

namespace TextLimits

namespace Segment

/-- The place that a segment leads to from another if it meets no link. -/
def move (place : List String) : Segment → List String
  | .current => place
  | .parent => place.dropLast
  | .name n => place ++ [n]

/-- The place that a way leads to from another if it meets no link. -/
def moves (place : List String) (way : List Segment) : List String := way.foldl move place

theorem moves_append (place : List String) (a b : List Segment) :
    moves place (a ++ b) = moves (moves place a) b := List.foldl_append

theorem moves_names (place names : List String) : moves place (names.map .name) = place ++ names := by
  induction names generalizing place with
  | nil => exact (List.append_nil place).symm
  | cons n names ih =>
      rw [List.map_cons, moves, List.foldl_cons, ← moves, ih, move, List.append_assoc,
        List.singleton_append]

end Segment

namespace Tree

variable {top : Tree}

/-- A tree without links. -/
def LinkFree (top : Tree) : Prop := ∀ place t, top.at? place = some t → t.NoLink

theorem linkFree_file (f : File) : (Tree.file f).LinkFree := by
  intro place t hat
  cases place with
  | nil =>
      cases hat
      exact fun _ h => by cases h
  | cons name rest => cases hat

theorem linkFree_dir {entries : List (String × Tree)} {listed : Bool}
    (h : ∀ e ∈ entries, e.2.LinkFree) :
    (Tree.dir entries listed).LinkFree :=
  forall_at?_dir (fun _ h => by cases h) h

theorem Leads.eq_moves (hlinks : top.LinkFree) {place target : List String} {way : List Segment}
    {k : Nat} (h : Leads top place way k target) : target = Segment.moves place way := by
  induction h with
  | done place => rfl
  | current _ _ ih => exact ih
  | parent _ _ ih => exact ih
  | name _ _ _ ih => exact ih
  | link hat _ _ => exact absurd rfl (hlinks _ _ hat _)

/-- **In a tree without links a way leads nowhere but where its segments say.** -/
theorem LinkFree.eq_moves (hlinks : top.LinkFree) {way : List Segment} {place : List String}
    (h : top.follow way = some place) : place = Segment.moves [] way := by
  obtain ⟨k, -, hway⟩ := follow_eq_some_iff.mp h
  exact hway.eq_moves hlinks

end Tree

end TextLimits
