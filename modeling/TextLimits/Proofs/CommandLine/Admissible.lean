import TextLimits.Proofs.CommandLine.Spelling
import TextLimits.Proofs.Result

/-! # The command lines that can be asked for

Reading never names a settings file by an empty path, nor counts diagnostics beyond the bound, and it refuses
to name a file and to want none (`admissible_of_parse`).  Every other command line can be asked for: it is
spelled by its options one after another, each value attached (`exists_arguments`).  So these three conditions
say exactly which command lines there are (`exists_parse_iff`). -/

namespace TextLimits.CommandLine

variable {line line' : CommandLine}

/-- What no option can break: a settings file has a path, and diagnostics are counted up to the bound. -/
structure Bounded (line : CommandLine) : Prop where
  path : line.config ≠ some ""
  verbose : line.verbose ≤ maxVerbose

/-- The conditions for a command line to be asked for by some arguments. -/
structure Admissible (line : CommandLine) : Prop extends Bounded line where
  source : ¬ (line.config.isSome = true ∧ line.noConfig = true)

/-! ### What reading keeps -/

namespace Bounded

theorem addValue {o : Opt} {value : String} (h : line.Bounded) (hadd : line.addValue o value = .ok line') :
    line'.Bounded := by
  unfold CommandLine.addValue at hadd
  cases o with
  | inputs | excludes | ignoreLinesMatching =>
      cases hadd
      exact ⟨h.path, h.verbose⟩
  | maxLineLength | maxLinesInFile =>
      dsimp only at hadd
      split at hadd
      · cases hadd
        exact ⟨h.path, h.verbose⟩
      · cases hadd
  | config =>
      dsimp only at hadd
      split_ifs at hadd with hempty
      cases hadd
      exact ⟨fun heq => hempty (by rw [Option.some.inj heq]; rfl), h.verbose⟩
  | noConfig | verbose | help | version => cases hadd

theorem addFlag {o : Opt} {long : Bool} (h : line.Bounded) (hadd : line.addFlag o long = .ok line') :
    line'.Bounded := by
  unfold CommandLine.addFlag at hadd
  cases o with
  | noConfig =>
      cases hadd
      exact ⟨h.path, h.verbose⟩
  | verbose =>
      cases hadd
      exact ⟨h.path, Nat.min_le_right _ _⟩
  | inputs | excludes | ignoreLinesMatching | maxLineLength | maxLinesInFile | config | help | version =>
      cases hadd

variable {p q : Progress}

theorem take {o : Opt} {values : List String} (h : p.line.Bounded) (htake : p.take o values = .ok q) :
    q.line.Bounded := by
  unfold Progress.take at htake
  dsimp only at htake
  split_ifs at htake
  · cases htake
  obtain ⟨-, -, htake⟩ := bind_eq_ok_iff.mp htake
  obtain ⟨line', hline, htake⟩ := bind_eq_ok_iff.mp htake
  cases htake
  exact foldlM_keeps (fun _ _ _ _ hbefore hadd => hbefore.addValue hadd) h (mapError_eq_ok_iff.mp hline)

theorem settle (h : p.line.Bounded) (hsettle : p.settle = .ok q) : q.line.Bounded := by
  unfold Progress.settle at hsettle
  split at hsettle
  · exact take (p := { p with waiting := none }) h hsettle
  · cases hsettle
    exact h

theorem meet {o : Opt} {long : Bool} (h : p.line.Bounded) (hmeet : p.meet o long = .ok q) :
    q.line.Bounded := by
  unfold Progress.meet at hmeet
  obtain ⟨settled, hsettle, hmeet⟩ := bind_eq_ok_iff.mp hmeet
  have hsettled := h.settle hsettle
  split_ifs at hmeet
  · obtain ⟨-, -, hmeet⟩ := bind_eq_ok_iff.mp hmeet
    obtain ⟨line', hline, hmeet⟩ := bind_eq_ok_iff.mp hmeet
    cases hmeet
    exact hsettled.addFlag hline
  · cases hmeet
    exact hsettled

theorem step {token : Token} (h : p.line.Bounded) (hstep : p.step token = .ok q) : q.line.Bounded := by
  cases token with
  | plain text =>
      unfold Progress.step at hstep
      dsimp only at hstep
      split at hstep
      · split_ifs at hstep
        cases hstep
        exact h
      · cases hstep
  | option o long => exact h.meet hstep
  | valued o value =>
      unfold Progress.step at hstep
      dsimp only at hstep
      split_ifs at hstep
      obtain ⟨settled, hsettle, htake⟩ := bind_eq_ok_iff.mp hstep
      exact (h.settle hsettle).take htake
  | stray text => cases hstep

end Bounded

/-- A command line that is read is admissible. -/
theorem admissible_of_parse {arguments : List String} (h : parse arguments = .ok line) :
    line.Admissible := by
  obtain ⟨p, q, hp, hq, hboth, rfl⟩ := parse_eq_ok_iff.mp h
  have hstart : Progress.start.line.Bounded := ⟨by decide, by decide⟩
  have hread : p.line.Bounded :=
    foldlM_keeps (P := fun p : Progress => p.line.Bounded) (fun _ _ _ _ hbefore hstep => hbefore.step hstep)
      hstart hp
  exact ⟨hread.settle hq, hboth⟩

/-! ### A spelling for each command line -/

/-- What a command line gives to an option, each value at a place of its own. -/
def parts (line : CommandLine) : Opt → List (List String)
  | .inputs => line.inputs.map ([·])
  | .excludes => line.excludes.map ([·])
  | .ignoreLinesMatching => line.ignoreLinesMatching.map ([·])
  | .maxLineLength => line.maxLineLength.toList.map fun n => [toString n.toNat]
  | .maxLinesInFile => line.maxLinesInFile.toList.map fun n => [toString n.toNat]
  | .config => line.config.toList.map ([·])
  | .noConfig => List.replicate line.noConfig.toNat []
  | .verbose => List.replicate line.verbose []
  | .help | .version => []

/-- What a command line asks for, option by option. -/
def occurrences (line : CommandLine) : List Occurrence :=
  Opt.all.flatMap fun o => (line.parts o).map (Occurrence.mk o)

theorem given_map_mk (o other : Opt) (parts : List (List String)) :
    given o (parts.map (Occurrence.mk other)) = if other = o then parts else [] := by
  by_cases h : other = o <;> simp [given, List.filterMap_map, h]

theorem given_occurrences (line : CommandLine) (o : Opt) : given o line.occurrences = line.parts o := by
  unfold occurrences Opt.all
  simp only [List.flatMap_cons, List.flatMap_nil, given_append, given_map_mk]
  cases o <;> simp [given]

theorem flatten_map_singleton (values : List String) : (values.map ([·])).flatten = values := by
  rw [← List.flatMap_def, List.flatMap_singleton']

theorem givesLimit_decimal (limit : Option UInt64) :
    GivesLimit limit (limit.toList.map fun n => [toString n.toNat]) := by
  cases limit with
  | none => exact .unset
  | some n => exact .set (isDecimal_toString n)

theorem says_occurrences (line : CommandLine) : line.Says line.occurrences := by
  constructor <;> simp only [given_occurrences, parts, flatten_map_singleton, List.length_replicate]
  case maxLineLength => exact givesLimit_decimal line.maxLineLength
  case maxLinesInFile => exact givesLimit_decimal line.maxLinesInFile
  case noConfig => cases line.noConfig <;> rfl

/-- Occurrences with one value, or with none where the option takes none, are written one after another. -/
theorem exists_writing {occurrences : List Occurrence}
    (h : ∀ x ∈ occurrences, (x.opt.arity ≠ .none ∧ ∃ value, x.values = [value]) ∨
      x.opt.arity = .none ∧ x.values = []) : ∃ arguments, Writing occurrences arguments := by
  induction occurrences with
  | nil => exact ⟨[], .nil⟩
  | cons x occurrences ih =>
      obtain ⟨hx, hrest⟩ := List.forall_mem_cons.mp h
      obtain ⟨arguments, hwriting⟩ := ih hrest
      obtain ⟨o, values⟩ := x
      rcases hx with ⟨hvalues, value, rfl⟩ | ⟨hflag, rfl⟩
      · exact ⟨_, .append (.attached value hvalues .long) hwriting⟩
      · exact ⟨_, .append (.flag hflag) hwriting⟩

theorem exists_writing_occurrences (line : CommandLine) :
    ∃ arguments, Writing line.occurrences arguments := by
  refine exists_writing fun x hx => ?_
  obtain ⟨o, -, hx⟩ := List.mem_flatMap.mp hx
  obtain ⟨values, hvalues, rfl⟩ := List.mem_map.mp hx
  cases o with
  | inputs | excludes | ignoreLinesMatching | maxLineLength | maxLinesInFile | config =>
      obtain ⟨value, -, rfl⟩ := List.mem_map.mp hvalues
      exact .inl ⟨nofun, _, rfl⟩
  | noConfig | verbose => exact .inr ⟨rfl, List.eq_of_mem_replicate hvalues⟩
  | help | version => cases hvalues

theorem exists_arguments (h : line.Admissible) : ∃ arguments, parse arguments = .ok line := by
  have hwritten := line.says_occurrences
  obtain ⟨arguments, hwriting⟩ := line.exists_writing_occurrences
  have hline : ofOccurrences line.occurrences = line := hwritten.ofOccurrences_eq
  have hparse := parse_of_writing hwriting (hwritten.compatible h.path h.verbose)
  rw [hline] at hparse
  exact ⟨arguments, hparse h.source⟩

/-- **The command lines that can be asked for** are the admissible ones. -/
theorem exists_parse_iff : (∃ arguments, parse arguments = .ok line) ↔ line.Admissible :=
  ⟨fun ⟨_, h⟩ => admissible_of_parse h, exists_arguments⟩

end TextLimits.CommandLine
