import TextLimits.Inspection

/-! # What an inspection finds

The record of a list of lines counts all of them (`lineCount_inspectLines`) and has one entry for
each line that is too long, with its number and its length, in their order
(`longLines_inspectLines`). -/

namespace TextLimits.Inspector

/-- Whether a line is longer than allowed. -/
def isLong (i : Inspector) (line : List Char) : Bool :=
  decide (i.limit < line.length) && !i.exempt line

/-- The numbers and lengths of the lines that are too long, counted from a number on. -/
def findings (i : Inspector) (start : Nat) (ls : List (List Char)) : List (Nat × Nat) :=
  ((ls.zipIdx start).filter fun l => i.isLong l.1).map fun l => (l.2, l.1.length)

/-- The number and the length of an entry. -/
def entry (line : LongLine) : Nat × Nat := (line.number, line.length)

variable (i : Inspector)

theorem findings_cons (start : Nat) (line : List Char) (ls : List (List Char)) :
    i.findings start (line :: ls) =
      (if i.isLong line then [(start, line.length)] else []) ++ i.findings (start + 1) ls := by
  unfold findings
  rw [List.zipIdx_cons, List.filter_cons]
  by_cases h : i.isLong line = true
  · rw [if_pos h, if_pos h]
    rfl
  · rw [if_neg h, if_neg h]
    rfl

theorem findings_append (start : Nat) (ls ls' : List (List Char)) :
    i.findings start (ls ++ ls') = i.findings start ls ++ i.findings (start + ls.length) ls' := by
  unfold findings
  rw [List.zipIdx_append, List.filter_append, List.map_append]

theorem visit_entries (s : Scan) (line : List Char) :
    (i.visit s line).count = s.count + 1 ∧
      (i.visit s line).found.reverse.map entry =
        s.found.reverse.map entry ++ if i.isLong line then [(s.count + 1, line.length)] else [] := by
  unfold visit
  by_cases h : i.limit < line.length ∧ i.exempt line = false
  · have hlong : i.isLong line = true := by simp [isLong, h]
    rw [if_pos h, if_pos hlong]
    exact ⟨rfl, by simp [entry]⟩
  · have hlong : ¬ i.isLong line = true := by simpa [isLong] using h
    rw [if_neg h, if_neg hlong]
    exact ⟨rfl, (List.append_nil _).symm⟩

theorem foldl_visit (ls : List (List Char)) (s : Scan) :
    (ls.foldl i.visit s).count = s.count + ls.length ∧
      (ls.foldl i.visit s).found.reverse.map entry =
        s.found.reverse.map entry ++ i.findings (s.count + 1) ls := by
  induction ls generalizing s with
  | nil => exact ⟨rfl, (List.append_nil _).symm⟩
  | cons line ls ih =>
      obtain ⟨hcount, hfound⟩ := i.visit_entries s line
      obtain ⟨ihcount, ihfound⟩ := ih (i.visit s line)
      rw [List.foldl_cons, List.length_cons, findings_cons]
      refine ⟨by omega, ?_⟩
      rw [ihfound, hfound, hcount, List.append_assoc]

theorem lineCount_inspectLines (ls : List (List Char)) :
    (i.inspectLines ls).lineCount = ls.length :=
  (i.foldl_visit ls Scan.empty).1.trans (Nat.zero_add _)

/-- **The record has exactly the lines that are too long**, by number and length. -/
theorem longLines_inspectLines (ls : List (List Char)) :
    (i.inspectLines ls).longLines.map entry = i.findings 1 ls :=
  (i.foldl_visit ls Scan.empty).2

theorem findings_eq_nil_iff {start : Nat} {ls : List (List Char)} :
    i.findings start ls = [] ↔ ∀ line ∈ ls, i.isLong line = false := by
  induction ls generalizing start with
  | nil => simp [findings]
  | cons line ls ih =>
      rw [findings_cons, List.append_eq_nil_iff, ih, List.forall_mem_cons]
      simp

theorem isLong_iff {line : List Char} :
    i.isLong line = true ↔ i.limit < line.length ∧ i.exempt line = false := by
  rw [isLong, Bool.and_eq_true, decide_eq_true_iff, Bool.not_eq_true']

/-- A pair is found if the line with that number is too long and has that length. -/
theorem mem_findings_iff {start number length : Nat} {ls : List (List Char)} :
    (number, length) ∈ i.findings start ls ↔
      start ≤ number ∧ ∃ line, ls[number - start]? = some line ∧ i.isLong line = true ∧
        line.length = length := by
  unfold findings
  rw [List.mem_map]
  constructor
  · rintro ⟨⟨line, place⟩, hmem, heq⟩
    obtain ⟨hmem, hlong⟩ := List.mem_filter.mp hmem
    obtain ⟨hstart, hline⟩ := List.mk_mem_zipIdx_iff_le_and_getElem?_sub.mp hmem
    obtain ⟨rfl, hlength⟩ := Prod.mk.inj heq
    exact ⟨hstart, line, hline, hlong, hlength⟩
  · rintro ⟨hstart, line, hline, hlong, rfl⟩
    have hmem : (line, number) ∈ ls.zipIdx start :=
      List.mk_mem_zipIdx_iff_le_and_getElem?_sub.mpr ⟨hstart, hline⟩
    exact ⟨(line, number), List.mem_filter.mpr ⟨hmem, hlong⟩, rfl⟩

end TextLimits.Inspector
