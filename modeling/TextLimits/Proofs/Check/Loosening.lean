import Mathlib
import TextLimits.Proofs.Check.Parts

/-! # Looser settings

Settings are loosened by higher limits and by more ignore patterns.  A line that is too long under the
looser settings is too long under the stricter ones (`Loosens.tooLong`), so what is found in a file under
the looser ones is a part of what was found before (`Loosens.offending`), and no file fails that did not
fail before (`Loosens.accepts`).  A run that comes to its end does so under looser settings, too, with
reports on the same paths (`Check.run_loosened`). -/

namespace TextLimits

namespace Settings

variable {s s' : Settings}

/-- Settings that select the same files and hold them to no more: no limit is lower, and no ignore pattern
is missing. -/
structure Loosens (s' s : Settings) : Prop where
  inputs : s'.inputs = s.inputs
  excludes : s'.excludes = s.excludes
  maxLineLength : s.maxLineLength ≤ s'.maxLineLength
  maxLinesInFile : s.maxLinesInFile ≤ s'.maxLinesInFile
  ignoreLinesMatching : ∀ source ∈ s.ignoreLinesMatching, source ∈ s'.ignoreLinesMatching

theorem tooLong_eq (s : Settings) (line : List Char) :
    s.tooLong line =
      (decide (s.maxLineLength.toNat < line.length) && !s.patterns.exempts line) := by
  rw [tooLong, exempts_patterns]

/-- Whether what was found in some lines is found under these settings: the line has more characters than
allowed, and no ignore pattern matches it. -/
def findsAgain (s : Settings) (ls : List (List Char)) (found : Nat × Nat) : Bool :=
  decide (s.maxLineLength.toNat < found.2) && !(ls[found.1 - 1]?).any s.patterns.exempts

/-- What is found in a line is found again if the line is too long. -/
theorem findsAgain_of_mem_zipIdx (s : Settings) {ls : List (List Char)} {l : List Char × Nat}
    (h : l ∈ ls.zipIdx 1) : s.findsAgain ls (l.2, l.1.length) = s.tooLong l.1 := by
  have hline : ls[l.2 - 1]? = some l.1 := by
    obtain ⟨line, number⟩ := l
    have hmem := List.mem_zipIdx_iff_le_and_getElem?_sub.mp h
    exact hmem.2
  rw [findsAgain, hline, tooLong_eq]
  rfl

namespace Loosens

theorem exempts (h : s'.Loosens s) {line : List Char} (hline : s.patterns.exempts line = true) :
    s'.patterns.exempts line = true := by
  rw [exempts_patterns, List.any_eq_true] at hline ⊢
  obtain ⟨source, hsource, hmatch⟩ := hline
  exact ⟨source, h.ignoreLinesMatching source hsource, hmatch⟩

theorem tooLong (h : s'.Loosens s) {line : List Char} (hline : s'.tooLong line = true) :
    s.tooLong line = true := by
  rw [tooLong_eq, Bool.and_eq_true, decide_eq_true_iff, Bool.not_eq_true'] at hline ⊢
  obtain ⟨hlength, hexempt⟩ := hline
  have hlimit := UInt64.le_iff_toNat_le.mp h.maxLineLength
  refine ⟨by omega, ?_⟩
  by_contra hbefore
  rw [Bool.not_eq_false] at hbefore
  rw [h.exempts hbefore] at hexempt
  cases hexempt

/-- **What is found under looser settings** is what was found before, apart from the lines that are short
enough or ignored now. -/
theorem offending (h : s'.Loosens s) (ls : List (List Char)) :
    s'.offending ls = (s.offending ls).filter (s'.findsAgain ls) := by
  unfold Settings.offending
  rw [List.filter_map, List.filter_filter]
  congr 1
  apply List.filter_congr
  intro l hl
  have hagain : s'.findsAgain ls (l.2, l.1.length) = s'.tooLong l.1 := s'.findsAgain_of_mem_zipIdx hl
  rw [Function.comp_apply, hagain]
  by_cases hlong : s'.tooLong l.1 = true
  · rw [hlong, h.tooLong hlong]
    rfl
  · rw [Bool.eq_false_iff.mpr hlong, Bool.false_and]

theorem accepts (h : s'.Loosens s) {ls : List (List Char)} (hls : s.Accepts ls) : s'.Accepts ls := by
  obtain ⟨hcount, hlines⟩ := hls
  have hlimit := UInt64.le_iff_toNat_le.mp h.maxLinesInFile
  refine ⟨by omega, fun line hline => ?_⟩
  by_contra hlong
  rw [Bool.not_eq_false] at hlong
  have hbefore := h.tooLong hlong
  rw [hlines line hline] at hbefore
  cases hbefore

end Loosens

end Settings

namespace Check

variable {s s' : Settings} {root : String} {top : Tree} {passed : Bool}

/-- What the record of a file under looser settings holds of the one before. -/
theorem inspect_of_loosens (h : s'.Loosens s) {path : Path} (hpath : Readable top root path) :
    ∃ record record', inspect s root top path = .ok record ∧ inspect s' root top path = .ok record' ∧
      record'.lineCount = record.lineCount ∧
      record'.longLines.map Inspector.entry =
        (record.longLines.map Inspector.entry).filter (s'.findsAgain (linesAt top root path)) ∧
      (record.isClean s.limits.lineCount = true → record'.isClean s'.limits.lineCount = true) := by
  refine ⟨_, _, inspect_of_readable hpath, inspect_of_readable hpath, ?_, ?_, ?_⟩
  · rw [Inspector.lineCount_inspectLines, Inspector.lineCount_inspectLines]
  · rw [Inspector.longLines_inspectLines, Inspector.longLines_inspectLines,
      Settings.findings_inspector, Settings.findings_inspector, h.offending]
  · rw [Settings.isClean_inspectLines, Settings.isClean_inspectLines, decide_eq_true_iff,
      decide_eq_true_iff]
    exact h.accepts

theorem allClean_of_loosens (h : s'.Loosens s) {trees : Nat → Tree} {paths : List Path}
    (hall : allClean s (reports s root trees paths) = true) :
    allClean s' (reports s' root trees paths) = true := by
  rw [← allAccepted_eq_allClean, allAccepted, List.all_eq_true] at hall ⊢
  intro q hq
  exact decide_eq_true (h.accepts (of_decide_eq_true (hall q hq)))

/-- **Loosening never creates a failure.**  If a run comes to its end, so does the run with looser
settings.  Both report on the same paths in the same order; the long lines reported under each path are
those reported before, apart from the lines that are short enough or ignored now; a file that was found
clean is found clean again, and a run that has passed passes again. -/
theorem run_loosened (h : s'.Loosens s)
    (hok : ((run s root (.still top)).play .unlimited).2 = .ok passed) :
    ∃ (r : Resolver) (passed' : Bool), Resolver.ofSources root s.inputs s.excludes = .ok r ∧
      ((run s' root (.still top)).play .unlimited).2 = .ok passed' ∧
      (passed = true → passed' = true) ∧
      ((run s root (.still top)).play .unlimited).1.out = Sink.holding
        (Report.texts s.limits (reports s root (fun _ => top) (r.resolve top)) ++ closing s passed) ∧
      ((run s' root (.still top)).play .unlimited).1.out = Sink.holding
        (Report.texts s'.limits (reports s' root (fun _ => top) (r.resolve top)) ++
          closing s' passed') ∧
      ∀ path ∈ r.resolve top, ∃ record record',
        inspect s root top path = .ok record ∧ inspect s' root top path = .ok record' ∧
          record'.lineCount = record.lineCount ∧
          record'.longLines.map Inspector.entry =
            (record.longLines.map Inspector.entry).filter (s'.findsAgain (linesAt top root path)) ∧
          (record.isClean s.limits.lineCount = true → record'.isClean s'.limits.lineCount = true) := by
  rw [Transcript.result_play_unlimited] at hok
  obtain ⟨hin, r, hr⟩ := exists_resolver_of_ok hok
  obtain ⟨hread, hpassed, hout⟩ := textOn_out_of_ok hr hok
  have hin' : s'.inputs ≠ [] := by rwa [h.inputs]
  have hr' : Resolver.ofSources root s'.inputs s'.excludes = .ok r := by rwa [h.inputs, h.excludes]
  have hgives := gives_reports (s := s') (.still top) hin' hr' hread rfl
  refine ⟨r, _, hr, by rw [Transcript.result_play_unlimited, hgives.result], ?_, ?_, ?_, ?_⟩
  · intro htrue
    rw [htrue] at hpassed
    exact allClean_of_loosens h hpassed.symm
  · rw [Transcript.play_unlimited, hout]
    rfl
  · rw [Transcript.play_unlimited, hgives.out]
    rfl
  · intro path hpath
    obtain ⟨i, hi⟩ := List.mem_iff_getElem?.mp hpath
    have hturn : (path, i) ∈ (r.resolve top).zipIdx := List.mem_zipIdx_iff_getElem?.mpr hi
    exact inspect_of_loosens h (hread _ hturn)

/-- The settings of the sample, with one more ignore pattern. -/
def loosened : Settings := { sample with ignoreLinesMatching := ["b$", "("], maxLinesInFile := 11 }

/-- What is found in the file of the sample tree is not found again under the loosened settings. -/
theorem run_loosened_sample :
    loosened.Loosens sample ∧
      (∃ passed, ((run sample "/" (.still Tree.sample)).play .unlimited).2 = .ok passed) ∧
      ∀ path ∈ Resolver.sample.resolve Tree.sample, ∃ record,
        inspect loosened "/" Tree.sample path = .ok record ∧ record.longLines = [] := by
  have hloosens : loosened.Loosens sample := ⟨rfl, rfl, by decide, by decide, by decide⟩
  have hgood : ¬ Resolver.BadSource sample.inputs sample.excludes :=
    Resolver.not_badSource_of_ofSources Resolver.ofSources_sample
  have hends : ∃ passed, (run sample "/" (.still Tree.sample)).result = .ok passed :=
    result_of_not_badSource allReadable_sample (by decide) hgood
  obtain ⟨passed, hok⟩ := hends
  rw [← Transcript.result_play_unlimited] at hok
  refine ⟨hloosens, ⟨passed, hok⟩, fun path hpath => ?_⟩
  obtain ⟨r, -, hr, -, -, -, -, hrecords⟩ := run_loosened hloosens hok
  obtain rfl : Resolver.sample = r := Except.ok.inj (Resolver.ofSources_sample.symm.trans hr)
  obtain ⟨record, record', hrecord, hrecord', -, hentries, -⟩ := hrecords path hpath
  refine ⟨record', hrecord', ?_⟩
  have hread : Readable Tree.sample "/" path := ⟨_, (linesAt_sample hpath).1, rfl⟩
  have hbefore : record.longLines.map Inspector.entry = [(1, 2)] := by
    rw [inspect_of_readable hread, (linesAt_sample hpath).2] at hrecord
    rw [← Except.ok.inj hrecord, Inspector.longLines_inspectLines, Settings.findings_inspector]
    decide +kernel
  have hagain : loosened.findsAgain [['a', 'b']] (1, 2) = false := by decide +kernel
  rw [hbefore, (linesAt_sample hpath).2, List.filter_cons_of_neg (by simp [hagain])] at hentries
  exact List.map_eq_nil_iff.mp hentries

end Check

end TextLimits
