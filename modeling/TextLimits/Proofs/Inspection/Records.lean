import Mathlib.Tactic.SplitIfs
import TextLimits.Proofs.Inspection.Findings
import TextLimits.Proofs.Inspection.Streaming
import TextLimits.Proofs.Report.Writing

/-! # The records of an inspection

The entries of a record ascend, and they are those of the lines that are too long
(`Inspector.inspectLines_exact`).  An inspection makes its record without checking it.  It need not: what
has been found is in place and longer than the limit after every line (`Scan.Sound`), so the checked way
of making the record gives the same one (`Inspector.ofEntries_inspectStream`), and a report on it finds
no fault (`Inspector.fault?_inspectStream`). -/

namespace TextLimits

/-! ### Entries in place -/

namespace Record

/-- Pairs of a line number and a length are in place in a file, behind one of its lines: the numbers
ascend from there on and lie within the file. -/
structure InPlace (previous lineCount : Nat) (pairs : List (Nat × Nat)) : Prop where
  ascending : pairs.Pairwise fun a b => a.1 < b.1
  behind : ∀ pair ∈ pairs, previous < pair.1
  within : ∀ pair ∈ pairs, pair.1 ≤ lineCount

theorem inPlace_nil (previous lineCount : Nat) : InPlace previous lineCount [] :=
  ⟨.nil, fun _ h => absurd h List.not_mem_nil, fun _ h => absurd h List.not_mem_nil⟩

theorem inPlace_cons_iff {previous lineCount : Nat} {pair : Nat × Nat} {pairs : List (Nat × Nat)} :
    InPlace previous lineCount (pair :: pairs) ↔
      previous < pair.1 ∧ pair.1 ≤ lineCount ∧ InPlace pair.1 lineCount pairs := by
  constructor
  · rintro ⟨hascending, hbehind, hwithin⟩
    rw [List.pairwise_cons] at hascending
    rw [List.forall_mem_cons] at hbehind hwithin
    exact ⟨hbehind.1, hwithin.1, hascending.2, hascending.1, hwithin.2⟩
  · rintro ⟨hbehind, hwithin, hrest⟩
    refine ⟨List.pairwise_cons.mpr ⟨hrest.behind, hrest.ascending⟩,
      List.forall_mem_cons.mpr ⟨hbehind, fun later hlater => ?_⟩,
      List.forall_mem_cons.mpr ⟨hwithin, hrest.within⟩⟩
    exact Nat.lt_trans hbehind (hrest.behind later hlater)

/-- The check finds nothing if and only if all entries are in place. -/
theorem violation?_eq_none_iff {lineCount previous : Nat} {longLines : List LongLine} :
    violation? lineCount previous longLines = none ↔
      InPlace previous lineCount (longLines.map Inspector.entry) := by
  induction longLines generalizing previous with
  | nil => exact ⟨fun _ => inPlace_nil previous lineCount, fun _ => rfl⟩
  | cons line longLines ih =>
      rw [List.map_cons, inPlace_cons_iff, ← ih, violation?]
      split_ifs with hbeyond hbehind
      · exact iff_of_false not_false fun h => Nat.not_le.mpr hbeyond h.2.1
      · exact iff_of_false not_false fun h => Nat.not_lt.mpr hbehind h.1
      · exact ⟨fun h => ⟨Nat.not_le.mp hbehind, Nat.not_lt.mp hbeyond, h⟩, fun h => h.2.2⟩

end Record

/-! ### An inspection under way -/

/-- What has been found is in place, the last line first, and longer than the limit. -/
structure Scan.Sound (limit : Nat) (s : Scan) : Prop where
  descending : s.found.Pairwise fun a b => b.number < a.number
  within : ∀ line ∈ s.found, line.number ≤ s.count
  long : ∀ line ∈ s.found, limit < line.length

namespace Scan.Sound

theorem empty (limit : Nat) : Scan.empty.Sound limit :=
  ⟨.nil, fun _ h => absurd h List.not_mem_nil, fun _ h => absurd h List.not_mem_nil⟩

theorem visit {i : Inspector} {s : Scan} (h : s.Sound i.limit) (line : List Char) :
    (i.visit s line).Sound i.limit := by
  have hwithin : ∀ old ∈ s.found, old.number ≤ s.count + 1 := fun old hold =>
    Nat.le_succ_of_le (h.within old hold)
  unfold Inspector.visit
  split_ifs with hlong
  · refine ⟨List.pairwise_cons.mpr ⟨fun old hold => ?_, h.descending⟩,
      List.forall_mem_cons.mpr ⟨Nat.le_refl _, hwithin⟩,
      List.forall_mem_cons.mpr ⟨hlong.1, h.long⟩⟩
    exact Nat.lt_succ_of_le (h.within old hold)
  · exact ⟨h.descending, hwithin, h.long⟩

theorem foldl_visit {i : Inspector} {s : Scan} (h : s.Sound i.limit) (ls : List (List Char)) :
    (ls.foldl i.visit s).Sound i.limit := by
  induction ls generalizing s with
  | nil => exact h
  | cons line ls ih => exact ih (h.visit line)

end Scan.Sound

/-! ### Its record -/

namespace Inspector

variable (i : Inspector)

theorem sound_lines (ls : List (List Char)) : (ls.foldl i.visit Scan.empty).Sound i.limit :=
  (Scan.Sound.empty i.limit).foldl_visit ls

theorem fault?_inspectLines (maxLines : Nat) (ls : List (List Char)) :
    Report.fault? ⟨i.limit, maxLines⟩ (i.inspectLines ls) = none :=
  Report.fault?_eq_none_iff.mpr fun line hline =>
    Nat.le_of_lt ((i.sound_lines ls).long line (List.mem_reverse.mp hline))

theorem ascending_inspectLines (ls : List (List Char)) :
    (i.inspectLines ls).longLines.Pairwise fun a b => a.number < b.number :=
  List.pairwise_reverse.mpr (i.sound_lines ls).descending

/-- **An inspection finds exactly the lines that are too long.**  It counts all lines, its entries
ascend, and an entry with some number and length is there if and only if the line with that number has
that length, this is more than the limit, and the line is not exempt. -/
theorem inspectLines_exact (ls : List (List Char)) :
    (i.inspectLines ls).lineCount = ls.length ∧
    ((i.inspectLines ls).longLines.Pairwise fun a b => a.number < b.number) ∧
    ∀ number length,
      (∃ line ∈ (i.inspectLines ls).longLines, line.number = number ∧ line.length = length) ↔
        1 ≤ number ∧ number ≤ (i.inspectLines ls).lineCount ∧
          ∃ line, ls[number - 1]? = some line ∧ length = line.length ∧ i.limit < length ∧
            i.exempt line = false := by
  refine ⟨i.lineCount_inspectLines ls, i.ascending_inspectLines ls, fun number length => ?_⟩
  have hmem : (number, length) ∈ (i.inspectLines ls).longLines.map entry ↔
      ∃ line ∈ (i.inspectLines ls).longLines, line.number = number ∧ line.length = length := by
    rw [List.mem_map]
    exact exists_congr fun line => and_congr_right fun _ => Prod.ext_iff
  rw [← hmem, longLines_inspectLines, mem_findings_iff, lineCount_inspectLines]
  constructor
  · rintro ⟨hone, line, hline, hlong, rfl⟩
    have hlt : number - 1 < ls.length := (List.getElem?_eq_some_iff.mp hline).1
    exact ⟨hone, by omega, line, hline, rfl, i.isLong_iff.mp hlong⟩
  · rintro ⟨hone, -, line, hline, rfl, hlong⟩
    exact ⟨hone, line, hline, i.isLong_iff.mpr hlong, rfl⟩

theorem inPlace_inspectLines (ls : List (List Char)) :
    Record.InPlace 0 (i.inspectLines ls).lineCount ((i.inspectLines ls).longLines.map entry) := by
  refine ⟨List.pairwise_map.mpr (i.ascending_inspectLines ls), ?_, ?_⟩
  · rw [List.forall_mem_map]
    exact fun line _ => line.number_pos
  · rw [List.forall_mem_map]
    exact fun line hline => (i.sound_lines ls).within line (List.mem_reverse.mp hline)

theorem ofEntries_inspectLines (ls : List (List Char)) :
    Record.ofEntries (i.inspectLines ls).longLines (i.inspectLines ls).lineCount =
      .ok (i.inspectLines ls) := by
  unfold Record.ofEntries
  rw [Record.violation?_eq_none_iff.mpr (i.inPlace_inspectLines ls)]

theorem exists_lines_of_inspectStream {stream : Stream} {record : Record}
    (h : i.inspectStream stream = .ok record) : ∃ ls, record = i.inspectLines ls := by
  obtain ⟨pieces, failure⟩ := stream
  cases failure with
  | some reason => cases h
  | none =>
      rw [inspectStream_eq_inspectLines] at h
      exact ⟨_, (Except.ok.inj h).symm⟩

theorem fault?_inspectStream {stream : Stream} {record : Record}
    (h : i.inspectStream stream = .ok record) (maxLines : Nat) :
    Report.fault? ⟨i.limit, maxLines⟩ record = none := by
  obtain ⟨ls, rfl⟩ := i.exists_lines_of_inspectStream h
  exact i.fault?_inspectLines maxLines ls

/-- Whatever a stream holds, its record is the one that is made from its entries with a check. -/
theorem ofEntries_inspectStream {stream : Stream} {record : Record}
    (h : i.inspectStream stream = .ok record) :
    Record.ofEntries record.longLines record.lineCount = .ok record := by
  obtain ⟨ls, rfl⟩ := i.exists_lines_of_inspectStream h
  exact i.ofEntries_inspectLines ls

end Inspector

end TextLimits
