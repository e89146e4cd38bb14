import TextLimits.Proofs.Transcript.Limited
import TextLimits.Report

/-! # Writing a report

A report is written line by line, and on outputs that have room the lines make up its text
(`gives_on`).  Nothing is written if an entry is shorter than the limit; after that, an output that
becomes full holds as much of the text as has room (`on_limited`), whatever the record.  A file that
does not pass has at least one reason in its report (`reasons_ne_nil`): what makes it fail and what
makes a reason be written are different tests, which cover the same records. -/

namespace TextLimits.Report

variable {path : String} {limits : Limits} {record : Record}

/-! ### Entries that suit the limit -/

theorem fault?_eq_none_iff :
    fault? limits record = none ↔ ∀ line ∈ record.longLines, limits.lineLength ≤ line.length := by
  unfold fault?
  rw [Option.map_eq_none_iff, List.find?_eq_none]
  refine forall₂_congr fun line _ => ?_
  rw [decide_eq_true_iff, Nat.not_lt]

theorem exists_fault?_eq (h : ∃ line ∈ record.longLines, line.length < limits.lineLength) :
    ∃ before line after, record.longLines = before ++ line :: after ∧
      (∀ earlier ∈ before, limits.lineLength ≤ earlier.length) ∧
      line.length < limits.lineLength ∧ fault? limits record = some (shortLine limits line) := by
  have hfound : (record.longLines.find? fun line => line.length < limits.lineLength).isSome := by
    rw [List.find?_isSome]
    obtain ⟨line, hline, hshort⟩ := h
    exact ⟨line, hline, decide_eq_true hshort⟩
  obtain ⟨line, hline⟩ := Option.isSome_iff_exists.mp hfound
  obtain ⟨hshort, before, after, hsplit, hbefore⟩ := List.find?_eq_some_iff_append.mp hline
  refine ⟨before, line, after, hsplit, ?_, of_decide_eq_true hshort, ?_⟩
  · intro earlier hearlier
    have hlong := hbefore earlier hearlier
    simpa using hlong
  · rw [fault?, hline, Option.map_some]

/-! ### The lines of a report -/

theorem gives_writeLongLines (limits : Limits) (record : Record) :
    (writeLongLines limits record).Gives () (longLinesText limits record) "" := by
  unfold writeLongLines longLinesText
  cases record.longLines.isEmpty with
  | true => exact Transcript.gives_pure ()
  | false =>
      have hlines := Transcript.Gives.forM_out fun line (_ : line ∈ record.longLines) =>
        Transcript.gives_write_out (longLineText line)
      have hboth : (do Transcript.write .out (longLinesHeading limits)
                       record.longLines.forM fun line =>
                         Transcript.write .out (longLineText line)).Gives ()
          (longLinesHeading limits ++ String.join (record.longLines.map longLineText)) ("" ++ "") :=
        (Transcript.gives_write_out (longLinesHeading limits)).bind hlines
      exact hboth

theorem gives_writeLineCount (limits : Limits) (record : Record) :
    (writeLineCount limits record).Gives () (lineCountText limits record) "" := by
  unfold writeLineCount lineCountText
  by_cases h : limits.lineCount < record.lineCount
  · rw [if_pos h, if_pos h]
    exact Transcript.gives_write_out (lineCountSentence limits record)
  · rw [if_neg h, if_neg h]
    exact Transcript.gives_pure ()

/-- Line by line, a report that finds no fault writes its text. -/
theorem gives_on (path : String) (h : fault? limits record = none) :
    (on path limits record).Gives (record.isClean limits.lineCount) (text path limits record) "" := by
  unfold on text
  rw [h]
  cases record.isClean limits.lineCount with
  | true => exact (Transcript.gives_write_out ("OK   " ++ path ++ newline)).bind_pure
  | false =>
      have hcount : (do writeLineCount limits record; return false).Gives false
          (lineCountText limits record) "" :=
        (gives_writeLineCount limits record).bind_pure
      have hdetails : (do writeLongLines limits record
                          writeLineCount limits record
                          return false).Gives false
          (longLinesText limits record ++ lineCountText limits record) ("" ++ "") :=
        (gives_writeLongLines limits record).bind hcount
      have hall : (do Transcript.write .out ("FAIL " ++ path ++ newline)
                      writeLongLines limits record
                      writeLineCount limits record
                      return false).Gives false
          ("FAIL " ++ path ++ newline ++ (longLinesText limits record ++ lineCountText limits record))
          ("" ++ ("" ++ "")) :=
        (Transcript.gives_write_out ("FAIL " ++ path ++ newline)).bind hdetails
      rw [← String.append_assoc] at hall
      exact hall

/-! ### What makes a file fail -/

/-- A file passes if none of its lines is too long and it has not too many. -/
def Passes (limits : Limits) (record : Record) : Prop :=
  record.longLines = [] ∧ record.lineCount ≤ limits.lineCount

instance (limits : Limits) (record : Record) : Decidable (Passes limits record) :=
  inferInstanceAs (Decidable (_ ∧ _))

/-- The lines below the first one of a report on a file that does not pass: those on long lines, in
the order of the record, and the sentence on the number of lines. -/
def reasons (limits : Limits) (record : Record) : List String :=
  (if record.longLines = [] then []
    else longLinesHeading limits :: record.longLines.map longLineText) ++
  (if limits.lineCount < record.lineCount then [lineCountSentence limits record] else [])

theorem isClean_eq_decide_passes :
    record.isClean limits.lineCount = decide (Passes limits record) := by
  rw [Bool.eq_iff_iff, decide_eq_true_iff]
  unfold Record.isClean Passes
  rw [Bool.and_eq_true, List.isEmpty_iff, decide_eq_true_iff]

theorem reasons_ne_nil (h : ¬ Passes limits record) : reasons limits record ≠ [] := by
  intro hnil
  obtain ⟨hlines, hcount⟩ := List.append_eq_nil_iff.mp hnil
  refine h ⟨?_, ?_⟩
  · by_contra hne
    rw [if_neg hne] at hlines
    cases hlines
  · by_contra hlt
    rw [if_pos (Nat.not_le.mp hlt)] at hcount
    cases hcount

theorem join_reasons :
    String.join (reasons limits record) =
      longLinesText limits record ++ lineCountText limits record := by
  have hlines : String.join (if record.longLines = [] then []
      else longLinesHeading limits :: record.longLines.map longLineText) =
      longLinesText limits record := by
    unfold longLinesText
    by_cases h : record.longLines = []
    · rw [if_pos h, if_pos (List.isEmpty_iff.mpr h)]
      rfl
    · rw [if_neg h, if_neg (mt List.isEmpty_iff.mp h), String.join_cons]
  have hcount : String.join (if limits.lineCount < record.lineCount
      then [lineCountSentence limits record] else []) = lineCountText limits record := by
    unfold lineCountText
    by_cases h : limits.lineCount < record.lineCount
    · rw [if_pos h, if_pos h, String.join_cons]
      exact String.append_empty
    · rw [if_neg h, if_neg h]
      rfl
  rw [reasons, String.join_append, hlines, hcount]

theorem text_of_passes (h : Passes limits record) :
    text path limits record = "OK   " ++ path ++ newline := by
  unfold text
  rw [isClean_eq_decide_passes, decide_eq_true h]
  rfl

theorem text_of_not_passes (h : ¬ Passes limits record) :
    text path limits record =
      "FAIL " ++ path ++ newline ++ String.join (reasons limits record) := by
  unfold text
  rw [isClean_eq_decide_passes, decide_eq_false h, join_reasons, ← String.append_assoc]
  rfl

/-! ### Outputs that become full -/

/-- **A report is written in full, or breaks off where its output is full, or is not begun.**  If an
entry is shorter than the limit, the first such entry is complained of and nothing is written.
Otherwise the output holds as much of the text as has room, and the report ends well if and only if
that is all of it; it then says whether the file passed.  The text is one line if the file passed, and
otherwise a line with at least one reason below it. -/
theorem on_limited (path : String) (limits : Limits) (record : Record) (limit : Channel → Nat) :
    let played := (on path limits record).play (.limited limit)
    let bytes := Utf8.encode (text path limits record).toList
    ((∃ line ∈ record.longLines, line.length < limits.lineLength) →
      ∃ before line after, record.longLines = before ++ line :: after ∧
        (∀ earlier ∈ before, limits.lineLength ≤ earlier.length) ∧
        line.length < limits.lineLength ∧
        played = (.limited limit, .error (shortLine limits line))) ∧
    ((∀ line ∈ record.longLines, limits.lineLength ≤ line.length) →
      played.1 = ⟨⟨some (limit .out), bytes.take (limit .out)⟩, Sink.new (some (limit .err))⟩ ∧
      played.2 = if bytes.length ≤ limit .out then .ok (decide (Passes limits record))
        else .error (.io Sink.fullReason)) ∧
    (Passes limits record → text path limits record = "OK   " ++ path ++ newline) ∧
    (¬ Passes limits record → reasons limits record ≠ [] ∧
      text path limits record =
        "FAIL " ++ path ++ newline ++ String.join (reasons limits record)) := by
  intro played bytes
  refine ⟨fun hshort => ?_, fun hlong => ?_, text_of_passes, fun hfails =>
    ⟨reasons_ne_nil hfails, text_of_not_passes hfails⟩⟩
  · obtain ⟨before, line, after, hsplit, hbefore, hline, hfault⟩ := exists_fault?_eq hshort
    have hon : on path limits record = .fail (shortLine limits line) := by
      unfold on
      rw [hfault]
    refine ⟨before, line, after, hsplit, hbefore, hline, ?_⟩
    have hplayed : played = (on path limits record).play (.limited limit) := rfl
    rw [hplayed, hon]
    rfl
  · have hgives := gives_on path (fault?_eq_none_iff.mpr hlong)
    rw [isClean_eq_decide_passes] at hgives
    have hplayed : played = _ := hgives.play_limited limit
    rw [hplayed]
    exact ⟨rfl, rfl⟩

/-- An entry as long as the limit is reported, here to an output that has room for all of the first line
but its end. -/
example :
    (on "a" ⟨3, 1⟩ ⟨[⟨1, 3, by decide⟩], 1⟩).play (.limited fun _ => 6) =
      (⟨⟨some 6, Utf8.encode "FAIL a".toList⟩, Sink.new (some 6)⟩, .error (.io Sink.fullReason)) := rfl

end TextLimits.Report
