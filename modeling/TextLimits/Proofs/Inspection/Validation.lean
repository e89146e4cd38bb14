import TextLimits.IgnorePatterns
import TextLimits.Proofs.Inspection.Records

/-! # Checked records

A record from bare pairs of line number and length is checked in two steps: first no number may be zero,
then the numbers must ascend within the file.  What passes is in place (`ofPairs_outcome`), and all that
is in place is found in some file (`inspectLines_linesFor`), so the check accepts exactly what an
inspection can find (`ofPairs_inspected`).  The two steps are told apart by the complaint: a zero is
complained of wherever it stands (`ofPairs_zero_behind`). -/

namespace TextLimits.Record

variable {previous lineCount : Nat} {pairs : List (Nat × Nat)}

/-! ### What is complained of -/

/-- What is wrong with a line number behind a previous one. -/
inductive Violation.IsAbout (lineCount previous number : Nat) : Violation → Prop
  | numberZero : number = 0 → IsAbout lineCount previous number .numberZero
  | beyondEnd : lineCount < number → IsAbout lineCount previous number (.beyondEnd number lineCount)
  | notAscending : 0 < number → number ≤ previous →
      IsAbout lineCount previous number (.notAscending number previous)

/-- A complaint about the first pair that is out of place. -/
def Violation.IsFirst (previous lineCount : Nat) (pairs : List (Nat × Nat)) (v : Violation) : Prop :=
  ∃ before number length after, pairs = before ++ (number, length) :: after ∧
    InPlace previous lineCount before ∧
    v.IsAbout lineCount ((before.map Prod.fst).getLastD previous) number

theorem Violation.IsFirst.cons {v : Violation} (pair : Nat × Nat)
    (h : v.IsFirst pair.1 lineCount pairs) (hbehind : previous < pair.1) (hwithin : pair.1 ≤ lineCount) :
    v.IsFirst previous lineCount (pair :: pairs) := by
  obtain ⟨before, number, length, after, rfl, hplace, habout⟩ := h
  refine ⟨pair :: before, number, length, after, rfl,
    inPlace_cons_iff.mpr ⟨hbehind, hwithin, hplace⟩, ?_⟩
  rwa [List.map_cons, List.getLastD_cons]

theorem isFirst_of_violation? {v : Violation} {longLines : List LongLine}
    (h : violation? lineCount previous longLines = some v) :
    v.IsFirst previous lineCount (longLines.map Inspector.entry) := by
  induction longLines generalizing previous with
  | nil => cases h
  | cons line longLines ih =>
      rw [violation?] at h
      split_ifs at h with hbeyond hbehind
      · cases h
        exact ⟨[], line.number, line.length, longLines.map Inspector.entry, rfl,
          inPlace_nil previous lineCount, .beyondEnd hbeyond⟩
      · cases h
        exact ⟨[], line.number, line.length, longLines.map Inspector.entry, rfl,
          inPlace_nil previous lineCount, .notAscending line.number_pos hbehind⟩
      · exact (ih h).cons (Inspector.entry line) (Nat.not_le.mp hbehind) (Nat.not_lt.mp hbeyond)

/-! ### Both steps of the check -/

theorem ofPairs_eq (pairs : List (Nat × Nat)) (lineCount : Nat) :
    ofPairs pairs lineCount = (pairs.mapM fun pair => LongLine.ofNumber pair.1 pair.2) >>=
      fun longLines => ofEntries longLines lineCount := rfl

theorem ofPairs_of_zero (h : ∃ pair ∈ pairs, pair.1 = 0) (lineCount : Nat) :
    ofPairs pairs lineCount = .error .numberZero := by
  have hmap : (pairs.mapM fun pair => LongLine.ofNumber pair.1 pair.2) = .error .numberZero := by
    induction pairs with
    | nil =>
        obtain ⟨pair, hpair, -⟩ := h
        cases hpair
    | cons pair pairs ih =>
        obtain ⟨number, length⟩ := pair
        rw [List.mapM_cons]
        cases number with
        | zero => rfl
        | succ number =>
            have hrest : ∃ pair ∈ pairs, pair.1 = 0 := by
              obtain ⟨pair, hpair, hzero⟩ := h
              rcases List.mem_cons.mp hpair with rfl | hpair
              · cases hzero
              · exact ⟨pair, hpair, hzero⟩
            rw [ih hrest]
            rfl
  rw [ofPairs_eq, hmap]
  rfl

theorem ofPairs_map_entry (longLines : List LongLine) (lineCount : Nat) :
    ofPairs (longLines.map Inspector.entry) lineCount = ofEntries longLines lineCount := by
  have hmap : ((longLines.map Inspector.entry).mapM fun pair => LongLine.ofNumber pair.1 pair.2) =
      .ok longLines := by
    induction longLines with
    | nil => rfl
    | cons line longLines ih =>
        have hline : LongLine.ofNumber (Inspector.entry line).1 (Inspector.entry line).2 = .ok line :=
          dif_pos line.number_pos
        rw [List.map_cons, List.mapM_cons, ih, hline]
        rfl
  rw [ofPairs_eq, hmap]
  rfl

theorem exists_map_entry_eq (h : ∀ pair ∈ pairs, pair.1 ≠ 0) :
    ∃ longLines : List LongLine, longLines.map Inspector.entry = pairs := by
  induction pairs with
  | nil => exact ⟨[], rfl⟩
  | cons pair pairs ih =>
      rw [List.forall_mem_cons] at h
      obtain ⟨longLines, hlines⟩ := ih h.2
      exact ⟨⟨pair.1, pair.2, Nat.pos_of_ne_zero h.1⟩ :: longLines, congrArg (pair :: ·) hlines⟩

theorem ofPairs_of_inPlace {r : Record}
    (h : InPlace 0 r.lineCount (r.longLines.map Inspector.entry)) :
    ofPairs (r.longLines.map Inspector.entry) r.lineCount = .ok r := by
  rw [ofPairs_map_entry, ofEntries, violation?_eq_none_iff.mpr h]

/-- All that the check can come to: a zero is complained of first, then the first pair that is out of
place, and a record has the given pairs, which are in place. -/
theorem ofPairs_outcome (pairs : List (Nat × Nat)) (lineCount : Nat) :
    ((∃ pair ∈ pairs, pair.1 = 0) ∧ ofPairs pairs lineCount = .error .numberZero) ∨
    ((∀ pair ∈ pairs, pair.1 ≠ 0) ∧
      ∃ v, ofPairs pairs lineCount = .error v ∧ v.IsFirst 0 lineCount pairs) ∨
    (InPlace 0 lineCount pairs ∧ ∃ r, ofPairs pairs lineCount = .ok r ∧
      r.longLines.map Inspector.entry = pairs ∧ r.lineCount = lineCount) := by
  by_cases hzero : ∃ pair ∈ pairs, pair.1 = 0
  · exact .inl ⟨hzero, ofPairs_of_zero hzero lineCount⟩
  · have hnone : ∀ pair ∈ pairs, pair.1 ≠ 0 := fun pair hpair h => hzero ⟨pair, hpair, h⟩
    obtain ⟨longLines, rfl⟩ := exists_map_entry_eq hnone
    rw [ofPairs_map_entry, ofEntries]
    cases hfound : violation? lineCount 0 longLines with
    | some v => exact .inr (.inl ⟨hnone, v, rfl, isFirst_of_violation? hfound⟩)
    | none =>
        exact .inr (.inr ⟨violation?_eq_none_iff.mp hfound, ⟨longLines, lineCount⟩, rfl, rfl, rfl⟩)

theorem inPlace_of_ofPairs {r : Record} (h : ofPairs pairs lineCount = .ok r) :
    InPlace 0 lineCount pairs ∧ r.longLines.map Inspector.entry = pairs ∧ r.lineCount = lineCount := by
  rcases ofPairs_outcome pairs lineCount with ⟨-, herror⟩ | ⟨-, v, herror, -⟩ | ⟨hplace, r', hok, hr'⟩
  · cases herror.symm.trans h
  · cases herror.symm.trans h
  · cases hok.symm.trans h
    exact ⟨hplace, hr'⟩

theorem complaint_of_ofPairs {v : Violation} (h : ofPairs pairs lineCount = .error v) :
    (∃ pair ∈ pairs, pair.1 = 0) ∧ v = .numberZero ∨
      (∀ pair ∈ pairs, pair.1 ≠ 0) ∧ v.IsFirst 0 lineCount pairs := by
  rcases ofPairs_outcome pairs lineCount with ⟨hzero, herror⟩ | ⟨hnone, v', herror, hfirst⟩ |
    ⟨-, r, hok, -⟩
  · cases herror.symm.trans h
    exact .inl ⟨hzero, rfl⟩
  · cases herror.symm.trans h
    exact .inr ⟨hnone, hfirst⟩
  · cases hok.symm.trans h

/-! ### A file for given pairs -/

/-- Lines that have the given lengths at the given numbers and are empty elsewhere, from behind a
previous line to the end of the file. -/
def linesFor (lineCount : Nat) : (previous : Nat) → List (Nat × Nat) → List (List Char)
  | previous, [] => List.replicate (lineCount - previous) []
  | previous, (number, length) :: rest =>
    List.replicate (number - (previous + 1)) [] ++
      List.replicate length 'x' :: linesFor lineCount number rest

theorem length_linesFor (h : InPlace previous lineCount pairs) :
    (linesFor lineCount previous pairs).length = lineCount - previous := by
  induction pairs generalizing previous with
  | nil => rw [linesFor, List.length_replicate]
  | cons pair pairs ih =>
      obtain ⟨hbehind, hwithin, hrest⟩ := inPlace_cons_iff.mp h
      rw [linesFor, List.length_append, List.length_replicate, List.length_cons, ih hrest]
      omega

variable (i : Inspector)

theorem findings_empty_lines (start n : Nat) : i.findings start (List.replicate n []) = [] := by
  rw [Inspector.findings_eq_nil_iff]
  intro line hline
  rw [List.eq_of_mem_replicate hline]
  simp [Inspector.isLong]

theorem findings_linesFor (hexempt : ∀ line, i.exempt line = false)
    (hlong : ∀ pair ∈ pairs, i.limit < pair.2) (h : InPlace previous lineCount pairs) :
    i.findings (previous + 1) (linesFor lineCount previous pairs) = pairs := by
  induction pairs generalizing previous with
  | nil => exact findings_empty_lines i _ _
  | cons pair pairs ih =>
      obtain ⟨number, length⟩ := pair
      obtain ⟨hbehind, -, hrest⟩ := inPlace_cons_iff.mp h
      rw [List.forall_mem_cons] at hlong
      have hline : i.isLong (List.replicate length 'x') = true := by
        rw [Inspector.isLong_iff, List.length_replicate]
        exact ⟨hlong.1, hexempt _⟩
      have hnumber : previous + 1 + (number - (previous + 1)) = number := by
        dsimp only at hbehind
        omega
      rw [linesFor, Inspector.findings_append, findings_empty_lines, List.nil_append,
        List.length_replicate, hnumber, Inspector.findings_cons, if_pos hline, ih hlong.2 hrest,
        List.length_replicate]
      rfl

theorem entry_inj {a b : LongLine} (h : Inspector.entry a = Inspector.entry b) : a = b := by
  cases a
  cases b
  cases h
  rfl

theorem eq_of_map_entry_eq {r r' : Record}
    (hentries : r.longLines.map Inspector.entry = r'.longLines.map Inspector.entry)
    (hcount : r.lineCount = r'.lineCount) : r = r' := by
  have hlines : r.longLines = r'.longLines := (List.map_inj_right fun _ _ => entry_inj).mp hentries
  cases r
  cases r'
  cases hlines
  cases hcount
  rfl

/-- A record with entries in place that are longer than the limit is found in some file. -/
theorem inspectLines_linesFor {r : Record} (hexempt : ∀ line, i.exempt line = false)
    (hlong : ∀ pair ∈ r.longLines.map Inspector.entry, i.limit < pair.2)
    (h : InPlace 0 r.lineCount (r.longLines.map Inspector.entry)) :
    i.inspectLines (linesFor r.lineCount 0 (r.longLines.map Inspector.entry)) = r := by
  refine eq_of_map_entry_eq ?_ ?_
  · rw [Inspector.longLines_inspectLines]
    exact findings_linesFor i hexempt hlong h
  · rw [Inspector.lineCount_inspectLines, length_linesFor h]
    rfl

/-! ### What is accepted -/

/-- **The check accepts exactly what an inspection can find.**  Pairs whose lengths are more than a limit
pass in a file with some number of lines if and only if there are so many lines in which an inspection
with this limit and no ignore patterns finds just these pairs, and the record is then the one of the
inspection.  Otherwise the complaint is that there is a zero among the numbers, or, if there is none, it
is about the first pair that is beyond the end or not behind its predecessor. -/
theorem ofPairs_inspected (limit lineCount : Nat) (pairs : List (Nat × Nat))
    (hlong : ∀ pair ∈ pairs, limit < pair.2) :
    (∀ r, ofPairs pairs lineCount = .ok r ↔
      ∃ ls : List (List Char), ls.length = lineCount ∧
        (Inspector.mk limit IgnorePatterns.empty.exempts).inspectLines ls = r ∧
        r.longLines.map Inspector.entry = pairs ∧ r.lineCount = lineCount) ∧
    ∀ v, ofPairs pairs lineCount = .error v →
      v.fault = .invariant v.message ∧
        ((∃ pair ∈ pairs, pair.1 = 0) ∧ v = .numberZero ∨
          (∀ pair ∈ pairs, pair.1 ≠ 0) ∧ v.IsFirst 0 lineCount pairs) := by
  refine ⟨fun r => ⟨fun h => ?_, ?_⟩, fun v h => ⟨rfl, complaint_of_ofPairs h⟩⟩
  · obtain ⟨hplace, rfl, rfl⟩ := inPlace_of_ofPairs h
    exact ⟨linesFor r.lineCount 0 (r.longLines.map Inspector.entry), length_linesFor hplace,
      inspectLines_linesFor _ (fun _ => rfl) hlong hplace, rfl, rfl⟩
  · rintro ⟨ls, -, rfl, rfl, rfl⟩
    exact ofPairs_of_inPlace (Inspector.inPlace_inspectLines _ ls)

/-- Two long lines of four, with the last one at the end of the file. -/
theorem ofPairs_inspected_sample :
    (∀ pair ∈ [(2, 4), (4, 5)], 3 < pair.2) ∧
      ofPairs [(2, 4), (4, 5)] 4 = .ok ⟨[⟨2, 4, by decide⟩, ⟨4, 5, by decide⟩], 4⟩ := by
  have hlong : ∀ pair ∈ [(2, 4), (4, 5)], 3 < pair.2 := by decide
  have hfound : (Inspector.mk 3 IgnorePatterns.empty.exempts).inspectLines
      [[], ['a', 'b', 'c', 'd'], ['e'], ['f', 'g', 'h', 'i', 'j']] =
        ⟨[⟨2, 4, by decide⟩, ⟨4, 5, by decide⟩], 4⟩ := by decide
  exact ⟨hlong, ((ofPairs_inspected 3 4 [(2, 4), (4, 5)] hlong).1 _).mpr
    ⟨_, rfl, hfound, rfl, rfl⟩⟩

/-- A zero is complained of even behind a pair that lies beyond the end of the file and so is the first
one out of place. -/
theorem ofPairs_zero_behind :
    let pairs := [(5, 10), (0, 10)]
    (∀ pair ∈ pairs, 3 < pair.2) ∧ ofPairs pairs 4 = .error .numberZero ∧
      ¬ Violation.numberZero.IsFirst 0 4 pairs ∧ (Violation.beyondEnd 5 4).IsFirst 0 4 pairs := by
  intro pairs
  refine ⟨by decide, rfl, ?_, ⟨[], 5, 10, [(0, 10)], rfl, inPlace_nil 0 4, .beyondEnd (by decide)⟩⟩
  rintro ⟨before, number, length, after, hsplit, hplace, habout⟩
  cases before with
  | nil =>
      have hpair : (number, length) = (5, 10) := (List.cons.inj hsplit).1.symm
      cases hpair
      cases habout with
      | numberZero hzero => cases hzero
  | cons pair before =>
      rw [List.cons_append] at hsplit
      obtain ⟨rfl, -⟩ := List.cons.inj hsplit
      have hwithin : 5 ≤ 4 := (inPlace_cons_iff.mp hplace).2.1
      exact absurd hwithin (by decide)

end TextLimits.Record
