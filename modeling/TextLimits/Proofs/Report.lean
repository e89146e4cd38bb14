import Mathlib
import TextLimits.Proofs.Report.Writing

/-! # Reading reports back

Reports can be told apart by their text.  Each part of a report ends where no longer part could go
on, so equal texts have equal first parts and equal rests: a number in front of a character that is no digit
(`decimal_append_inj`), a line on a long line (`longLineText_append_inj`), the lines on all of them
(`longLinesText_append_inj`), the sentence on the number of lines (`lineCountText_append_inj`), a report
(`text_append_inj`), and reports one after another (`texts_append_inj`).  What a report does not say is
how many lines a file has that does not have too many; `Report.Agree` is what it does say. -/

namespace TextLimits

/-! ### Parts up to a separator -/

/-- Texts are equal up to the first place of a separator and behind it. -/
theorem append_cons_inj_of_not_mem {α : Type} {d : α} {a b x y : List α} (ha : d ∉ a) (hb : d ∉ b)
    (h : a ++ d :: x = b ++ d :: y) : a = b ∧ x = y := by
  induction a generalizing b with
  | nil =>
      cases b with
      | nil => exact ⟨rfl, (List.cons.inj h).2⟩
      | cons c b =>
          rw [List.nil_append, List.cons_append] at h
          exact absurd ((List.cons.inj h).1 ▸ List.mem_cons_self) hb
  | cons c a ih =>
      cases b with
      | nil =>
          rw [List.nil_append, List.cons_append] at h
          exact absurd ((List.cons.inj h).1 ▸ List.mem_cons_self) ha
      | cons c' b =>
          rw [List.cons_append, List.cons_append] at h
          obtain ⟨rfl, hrest⟩ := List.cons.inj h
          obtain ⟨rfl, hxy⟩ := ih (fun hd => ha (List.mem_cons_of_mem _ hd))
            (fun hd => hb (List.mem_cons_of_mem _ hd)) hrest
          exact ⟨rfl, hxy⟩

theorem not_mem_toString {d : Char} (hd : d.isDigit = false) (n : Nat) : d ∉ (toString n).toList := by
  intro hmem
  rw [Nat.toString_eq_repr, Nat.toList_repr] at hmem
  rw [Nat.isDigit_of_mem_toDigits (by decide) (by decide) hmem] at hd
  cases hd

/-- A number ends at the first character that is no digit. -/
theorem decimal_append_inj {d : Char} (hd : d.isDigit = false) {n m : Nat} {x y : List Char}
    (h : (toString n).toList ++ d :: x = (toString m).toList ++ d :: y) : n = m ∧ x = y := by
  obtain ⟨htext, hxy⟩ := append_cons_inj_of_not_mem (not_mem_toString hd n) (not_mem_toString hd m) h
  exact ⟨Nat.repr_inj.mp (String.toList_inj.mp htext), hxy⟩

theorem not_prefix_append {p q : List Char} (hlength : p.length ≤ q.length) (hne : ¬ p <+: q)
    (x : List Char) : ¬ p <+: q ++ x := fun h =>
  hne (List.prefix_of_prefix_length_le h (List.prefix_append q x) hlength)

theorem head?_of_begins {c : Char} {p x : List Char} (h : c :: p <+: x) : x.head? = some c := by
  obtain ⟨rest, rfl⟩ := h
  rfl

namespace Report

variable {limits : Limits} {x y : List Char}

/-! ### Long lines -/

theorem toList_longLineText (line : LongLine) :
    (longLineText line).toList = "    * Line ".toList ++ ((toString line.number).toList ++
      ':' :: ' ' :: ((toString line.length).toList ++ ' ' :: "characters\n".toList)) := by
  have htext : longLineText line = "    * Line " ++ toString line.number ++ ": " ++
      toString line.length ++ " characters" ++ "\n" := rfl
  rw [htext]
  simp only [String.toList_append, List.append_assoc]
  rfl

theorem longLineText_append_inj {a b : LongLine}
    (h : (longLineText a).toList ++ x = (longLineText b).toList ++ y) : a = b ∧ x = y := by
  simp only [toList_longLineText, List.append_assoc, List.cons_append] at h
  obtain ⟨hnumber, h⟩ := decimal_append_inj (by decide) (List.append_cancel_left h)
  obtain ⟨hlength, h⟩ := decimal_append_inj (by decide) (List.cons.inj h).2
  refine ⟨?_, List.append_cancel_left h⟩
  cases a
  cases b
  cases hnumber
  cases hlength
  rfl

/-- What every line on a long line begins with. -/
def indent : List Char := [' ', ' ', ' ', ' ']

theorem indent_begins (line : LongLine) (x : List Char) :
    indent <+: (longLineText line).toList ++ x := by
  have hline : indent <+: "    * Line ".toList := by decide
  rw [toList_longLineText, List.append_assoc]
  exact hline.trans (List.prefix_append _ _)

/-- The lines on long lines end where no such line follows. -/
theorem longLineTexts_append_inj {as bs : List LongLine} (hx : ¬ indent <+: x)
    (hy : ¬ indent <+: y)
    (h : (String.join (as.map longLineText)).toList ++ x =
      (String.join (bs.map longLineText)).toList ++ y) : as = bs ∧ x = y := by
  induction as generalizing bs with
  | nil =>
      cases bs with
      | nil => exact ⟨rfl, h⟩
      | cons b bs =>
          rw [List.map_cons, String.join_cons, String.toList_append, List.append_assoc] at h
          have hbegin : x = (longLineText b).toList ++ _ := h
          rw [hbegin] at hx
          exact absurd (indent_begins b _) hx
  | cons a as ih =>
      rw [List.map_cons, String.join_cons, String.toList_append, List.append_assoc] at h
      cases bs with
      | nil =>
          have hbegin : (longLineText a).toList ++ _ = y := h
          rw [← hbegin] at hy
          exact absurd (indent_begins a _) hy
      | cons b bs =>
          rw [List.map_cons, String.join_cons, String.toList_append, List.append_assoc] at h
          obtain ⟨rfl, hrest⟩ := longLineText_append_inj h
          obtain ⟨rfl, hxy⟩ := ih hrest
          exact ⟨rfl, hxy⟩

/-- What the heading over the lines on long lines begins with. -/
def headingMark : List Char := [' ', ' ', '*', ' ', 'T', 'h', 'e', ' ', 'f', 'o']

theorem headingMark_begins (limits : Limits) (x : List Char) :
    headingMark <+: (longLinesHeading limits).toList ++ x := by
  have htext : longLinesHeading limits = "  * The following line(s) have more than allowed " ++
      toString limits.lineLength ++ " characters:" ++ newline := rfl
  have hheading : headingMark <+: "  * The following line(s) have more than allowed ".toList := by
    decide
  rw [htext]
  simp only [String.toList_append, List.append_assoc]
  exact hheading.trans (List.prefix_append _ _)

/-- What can stand behind the part of a report on long lines. -/
structure EndsLongLines (x : List Char) : Prop where
  noLine : ¬ indent <+: x
  noHeading : ¬ headingMark <+: x

theorem toList_longLinesText {r : Record} (h : r.longLines ≠ []) :
    (longLinesText limits r).toList = (longLinesHeading limits).toList ++
      (String.join (r.longLines.map longLineText)).toList := by
  rw [longLinesText, if_neg (by rwa [List.isEmpty_iff]), String.toList_append]

theorem longLinesText_of_nil {r : Record} (h : r.longLines = []) : longLinesText limits r = "" :=
  if_pos (by rw [h, List.isEmpty_nil])

theorem longLinesText_append_inj {r r' : Record} (hx : EndsLongLines x) (hy : EndsLongLines y)
    (h : (longLinesText limits r).toList ++ x = (longLinesText limits r').toList ++ y) :
    r.longLines = r'.longLines ∧ x = y := by
  by_cases hr : r.longLines = []
  · rw [longLinesText_of_nil hr] at h
    by_cases hr' : r'.longLines = []
    · rw [longLinesText_of_nil hr'] at h
      exact ⟨hr.trans hr'.symm, h⟩
    · rw [toList_longLinesText hr', List.append_assoc] at h
      have hbegin : x = (longLinesHeading limits).toList ++ _ := h
      exact absurd (hbegin ▸ headingMark_begins limits _) hx.noHeading
  · rw [toList_longLinesText hr, List.append_assoc] at h
    by_cases hr' : r'.longLines = []
    · rw [longLinesText_of_nil hr'] at h
      have hbegin : (longLinesHeading limits).toList ++ _ = y := h
      exact absurd (hbegin ▸ headingMark_begins limits _) hy.noHeading
    · rw [toList_longLinesText hr', List.append_assoc] at h
      exact longLineTexts_append_inj hx.noLine hy.noLine (List.append_cancel_left h)

/-! ### The number of lines -/

/-- What the sentence on the number of lines begins with. -/
def countMark : List Char := "  * The file is too long. It contains ".toList

/-- What stands in that sentence behind the number. -/
def countTail (limits : Limits) : List Char :=
  "line(s), ".toList ++
    ("but only " ++ toString limits.lineCount ++ " line(s) are allowed." ++ newline).toList

theorem toList_lineCountText {r : Record} (h : limits.lineCount < r.lineCount) :
    (lineCountText limits r).toList =
      countMark ++ ((toString r.lineCount).toList ++ ' ' :: countTail limits) := by
  unfold lineCountText lineCountSentence countMark countTail
  rw [if_pos h]
  simp only [String.toList_append, List.append_assoc]
  rfl

theorem lineCountText_of_not_lt {r : Record} (h : ¬ limits.lineCount < r.lineCount) :
    lineCountText limits r = "" := if_neg h

theorem head?_lineCountText {r : Record} (h : limits.lineCount < r.lineCount) (x : List Char) :
    ((lineCountText limits r).toList ++ x).head? = some ' ' := by
  rw [toList_lineCountText h]
  rfl

theorem endsLongLines_lineCountText (r : Record) (hx : x.head? ≠ some ' ') :
    EndsLongLines ((lineCountText limits r).toList ++ x) := by
  by_cases h : limits.lineCount < r.lineCount
  · rw [toList_lineCountText h, List.append_assoc]
    exact ⟨not_prefix_append (by decide) (by decide) _, not_prefix_append (by decide) (by decide) _⟩
  · rw [lineCountText_of_not_lt h]
    exact ⟨fun hp => hx (head?_of_begins hp), fun hp => hx (head?_of_begins hp)⟩

theorem lineCountText_append_inj {r r' : Record} (hx : x.head? ≠ some ' ') (hy : y.head? ≠ some ' ')
    (h : (lineCountText limits r).toList ++ x = (lineCountText limits r').toList ++ y) :
    (limits.lineCount < r.lineCount ∨ limits.lineCount < r'.lineCount →
      r.lineCount = r'.lineCount) ∧ x = y := by
  by_cases hr : limits.lineCount < r.lineCount
  · by_cases hr' : limits.lineCount < r'.lineCount
    · rw [toList_lineCountText hr, toList_lineCountText hr'] at h
      simp only [List.append_assoc, List.cons_append] at h
      obtain ⟨hcount, hrest⟩ := decimal_append_inj (by decide) (List.append_cancel_left h)
      exact ⟨fun _ => hcount, List.append_cancel_left hrest⟩
    · have hhead := head?_lineCountText hr x
      rw [h, lineCountText_of_not_lt hr'] at hhead
      exact absurd hhead hy
  · by_cases hr' : limits.lineCount < r'.lineCount
    · have hhead := head?_lineCountText hr' y
      rw [← h, lineCountText_of_not_lt hr] at hhead
      exact absurd hhead hx
    · rw [lineCountText_of_not_lt hr, lineCountText_of_not_lt hr'] at h
      exact ⟨fun hor => absurd hor (not_or.mpr ⟨hr, hr'⟩), h⟩

/-! ### Reports -/

/-- What the reports on two records tell alike: whether the file has passed, which of its lines are too
long, and how many lines it has if these are too many. -/
structure Agree (limits : Limits) (r r' : Record) : Prop where
  passed : r.isClean limits.lineCount = r'.isClean limits.lineCount
  longLines : r.longLines = r'.longLines
  lineCount : limits.lineCount < r.lineCount ∨ limits.lineCount < r'.lineCount →
    r.lineCount = r'.lineCount

/-- The beginning of a report, which tells whether the file has passed. -/
def mark (limits : Limits) (r : Record) : String :=
  if r.isClean limits.lineCount then "OK   " else "FAIL "

/-- What stands in a report below its first line. -/
def details (limits : Limits) (r : Record) : String :=
  if r.isClean limits.lineCount then "" else longLinesText limits r ++ lineCountText limits r

theorem toList_text (path : String) (r : Record) :
    (text path limits r).toList =
      (mark limits r).toList ++ (path.toList ++ '\n' :: (details limits r).toList) := by
  unfold text mark details
  split_ifs
  · simp only [String.toList_append, List.append_assoc]
    rfl
  · simp only [String.toList_append, List.append_assoc]
    rfl

theorem head?_text (path : String) (r : Record) (x : List Char) :
    ((text path limits r).toList ++ x).head? = some 'O' ∨
      ((text path limits r).toList ++ x).head? = some 'F' := by
  rw [toList_text]
  unfold mark
  split_ifs
  · exact .inl rfl
  · exact .inr rfl

theorem mark_append_inj {r r' : Record}
    (h : (mark limits r).toList ++ x = (mark limits r').toList ++ y) :
    r.isClean limits.lineCount = r'.isClean limits.lineCount ∧ x = y := by
  unfold mark at h
  cases hr : r.isClean limits.lineCount with
  | true =>
      cases hr' : r'.isClean limits.lineCount with
      | true =>
          rw [hr, hr'] at h
          exact ⟨rfl, List.append_cancel_left h⟩
      | false =>
          rw [hr, hr'] at h
          cases (List.cons.inj h).1
  | false =>
      cases hr' : r'.isClean limits.lineCount with
      | true =>
          rw [hr, hr'] at h
          cases (List.cons.inj h).1
      | false =>
          rw [hr, hr'] at h
          exact ⟨rfl, List.append_cancel_left h⟩

theorem of_isClean {r : Record} (h : r.isClean limits.lineCount = true) :
    r.longLines = [] ∧ ¬ limits.lineCount < r.lineCount := by
  rw [isClean_eq_decide_passes, decide_eq_true_iff] at h
  exact ⟨h.1, Nat.not_lt.mpr h.2⟩

/-- Below its first line, a report on a file that has not passed tells what was found. -/
theorem details_append_inj {r r' : Record}
    (hpassed : r.isClean limits.lineCount = r'.isClean limits.lineCount)
    (hx : x.head? ≠ some ' ') (hy : y.head? ≠ some ' ')
    (h : (details limits r).toList ++ x = (details limits r').toList ++ y) :
    Agree limits r r' ∧ x = y := by
  unfold details at h
  cases hr : r.isClean limits.lineCount with
  | true =>
      have hr' := hpassed.symm.trans hr
      rw [if_pos hr, if_pos hr'] at h
      obtain ⟨hlines, hcount⟩ := of_isClean hr
      obtain ⟨hlines', hcount'⟩ := of_isClean hr'
      exact ⟨⟨hpassed, hlines.trans hlines'.symm,
        fun hor => absurd hor (not_or.mpr ⟨hcount, hcount'⟩)⟩, h⟩
  | false =>
      have hr' := hpassed.symm.trans hr
      rw [hr, hr', if_neg Bool.false_ne_true, if_neg Bool.false_ne_true, String.toList_append,
        String.toList_append, List.append_assoc, List.append_assoc] at h
      obtain ⟨hlines, hrest⟩ := longLinesText_append_inj (endsLongLines_lineCountText r hx)
        (endsLongLines_lineCountText r' hy) h
      obtain ⟨hcount, hxy⟩ := lineCountText_append_inj hx hy hrest
      exact ⟨⟨hpassed, hlines, hcount⟩, hxy⟩

/-- **A report tells the path, the outcome and the findings**, in front of anything that does not begin
with a blank, if the path has no line feed. -/
theorem text_append_inj {p q : String} {r r' : Record} (hp : '\n' ∉ p.toList) (hq : '\n' ∉ q.toList)
    (hx : x.head? ≠ some ' ') (hy : y.head? ≠ some ' ')
    (h : (text p limits r).toList ++ x = (text q limits r').toList ++ y) :
    p = q ∧ Agree limits r r' ∧ x = y := by
  simp only [toList_text, List.append_assoc, List.cons_append] at h
  obtain ⟨hpassed, hrest⟩ := mark_append_inj h
  obtain ⟨hpath, hrest⟩ := append_cons_inj_of_not_mem hp hq hrest
  exact ⟨String.toList_inj.mp hpath, details_append_inj hpassed hx hy hrest⟩

/-- What can stand behind reports: nothing, or a text that begins as no report does. -/
def EndsReports (x : List Char) : Prop := ∀ c, x.head? = some c → c = 'T'

/-- The text of reports on some paths and records. -/
def texts (limits : Limits) (reports : List (String × Record)) : String :=
  String.join (reports.map fun report => text report.1 limits report.2)

theorem toList_texts_cons (report : String × Record) (reports : List (String × Record))
    (x : List Char) :
    (texts limits (report :: reports)).toList ++ x =
      (text report.1 limits report.2).toList ++ ((texts limits reports).toList ++ x) := by
  rw [texts, List.map_cons, String.join_cons, String.toList_append, List.append_assoc]
  rfl

theorem head?_texts (reports : List (String × Record)) (hx : EndsReports x) :
    ((texts limits reports).toList ++ x).head? ≠ some ' ' := by
  cases reports with
  | nil =>
      intro h
      cases hx ' ' h
  | cons report reports =>
      rw [toList_texts_cons]
      rcases head?_text report.1 report.2 ((texts limits reports).toList ++ x) with h | h
      · rw [h]; decide
      · rw [h]; decide

theorem not_endsReports_text (path : String) (r : Record) (x : List Char) :
    ¬ EndsReports ((text path limits r).toList ++ x) := by
  intro hends
  rcases head?_text path r x with h | h
  · cases hends _ h
  · cases hends _ h

/-- **Reports one after another can be read back**, in front of anything that begins as no report
does. -/
theorem texts_append_inj {as bs : List (String × Record)} (has : ∀ a ∈ as, '\n' ∉ a.1.toList)
    (hbs : ∀ b ∈ bs, '\n' ∉ b.1.toList) (hx : EndsReports x) (hy : EndsReports y)
    (h : (texts limits as).toList ++ x = (texts limits bs).toList ++ y) :
    List.Forall₂ (fun a b => a.1 = b.1 ∧ Agree limits a.2 b.2) as bs ∧ x = y := by
  induction as generalizing bs with
  | nil =>
      cases bs with
      | nil => exact ⟨.nil, h⟩
      | cons b bs =>
          rw [toList_texts_cons] at h
          have hbegin : x = (text b.1 limits b.2).toList ++ _ := h
          rw [hbegin] at hx
          exact absurd hx (not_endsReports_text b.1 b.2 _)
  | cons a as ih =>
      rw [toList_texts_cons] at h
      cases bs with
      | nil =>
          have hbegin : (text a.1 limits a.2).toList ++ _ = y := h
          rw [← hbegin] at hy
          exact absurd hy (not_endsReports_text a.1 a.2 _)
      | cons b bs =>
          rw [toList_texts_cons] at h
          rw [List.forall_mem_cons] at has hbs
          obtain ⟨hpath, hagree, hrest⟩ :=
            text_append_inj has.1 hbs.1 (head?_texts as hx) (head?_texts bs hy) h
          obtain ⟨hall, hxy⟩ := ih has.2 hbs.2 hrest
          exact ⟨.cons ⟨hpath, hagree⟩ hall, hxy⟩

end Report

end TextLimits
