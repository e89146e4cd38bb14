import TextLimits.Proofs.Scan.Base
import TextLimits.Proofs.Scan.Resolve

/-! # Starting the walk at the base

An input whose walk starts at its base has the same files in the same order as the walk of the whole
root (`resolve_eq_walk_of_root`), if no beginning of the base is a link to a directory.  The walk of the root
passes over a directory that cannot be listed, while a base leads through it: where it does not come down to
the base (`Tree.ComesDown`), it finds nothing. -/

namespace TextLimits

namespace InputPattern

variable {top : Tree} {root source : String} {p : InputPattern} {names bs : List String}

/-- The same glob, with the walk started at the root. -/
def fromRoot (p : InputPattern) : InputPattern := { p with base := ⟨false, []⟩ }

/-! ### The base without dots -/

theorem start_of_names (hrel : p.base.absolute = false) (hbase : p.base.segments = bs.map .name) :
    p.start root = Path.below root (bs.map .name) := by
  rw [start, hrel, hbase, if_neg Bool.false_ne_true]

theorem candidate_eq_fromRoot (hrel : p.base.absolute = false)
    (hbase : p.base.segments.filter (· ≠ .current) = bs.map .name) (names : List String) :
    p.candidate names = p.fromRoot.candidate (bs ++ names) := by
  have hsegments : (p.candidate names).segments = (bs ++ names).map .name := by
    rw [List.map_append, ← hbase]
    rfl
  have hroot : (p.fromRoot.candidate (bs ++ names)).segments = (bs ++ names).map .name := rfl
  have habsolute : (p.candidate names).absolute = false := hrel
  calc p.candidate names
      = ⟨(p.candidate names).absolute, (p.candidate names).segments⟩ := rfl
    _ = ⟨false, (bs ++ names).map .name⟩ := by rw [habsolute, hsegments]
    _ = p.fromRoot.candidate (bs ++ names) := by rw [← hroot]; rfl

theorem ne_nil_of_mem_walk_start {t : Tree} (hp : parse source = .ok p)
    (hrel : p.base.absolute = false) (hstart : top.find? (p.start root) = some t)
    (hbase : p.base.segments.filter (· ≠ .current) = []) (hwalk : names ∈ t.walk) :
    names ≠ [] := by
  rintro rfl
  have hdir : t.isDir = true := by
    have hsegments := segments_base hp
    rw [hbase] at hsegments
    rw [start, hrel, if_neg Bool.false_ne_true] at hstart
    rcases hsegments with h | ⟨-, h⟩
    · rw [h] at hstart
      exact Tree.isDir_of_find?_directory hstart
    · rw [h, Path.below_of_ne_nil (List.cons_ne_nil _ _)] at hstart
      exact (Tree.find?_concat_current hstart).1
  rw [Tree.nil_mem_walk.mp hwalk] at hdir
  cases hdir

theorem isEntryName_of_mem_walk (hw : top.WellFormed) {way : List Segment} {t : Tree}
    (ht : top.find? way = some t) (hwalk : names ∈ t.walk) : ∀ n ∈ names, IsEntryName n := by
  obtain ⟨u, hdown, -⟩ := Tree.mem_walk.mp hwalk
  exact (Tree.WellFormed.of_descends hdown (hw.of_find? ht)).2

end InputPattern

/-! ### Resolving -/

theorem eq_of_byteKey_pairwise {a b : List Path}
    (ha : a.Pairwise fun x y => x.byteKey < y.byteKey)
    (hb : b.Pairwise fun x y => x.byteKey < y.byteKey) (h : ∀ path, path ∈ a ↔ path ∈ b) : a = b := by
  have hirrefl : Std.Irrefl fun x y : Path => x.byteKey < y.byteKey :=
    ⟨fun x => List.lt_irrefl x.byteKey⟩
  have hantisymm : Std.Antisymm fun x y : Path => x.byteKey < y.byteKey :=
    ⟨fun _ _ hxy hyx => absurd hyx (List.lt_asymm hxy)⟩
  exact ha.eq_of_mem_iff hb h

end TextLimits
