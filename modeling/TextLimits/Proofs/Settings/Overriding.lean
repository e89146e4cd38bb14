import TextLimits.CommandLine.Override
import TextLimits.Proofs.CommandLine.Admissible

/-! # Command lines one after another

Arguments that are refused leave the settings as they are, and any others change them as their command line
says (`Settings.overriddenByAll`).  In the end the inputs and the limits are the last ones given, and all
exclusions and ignored lines stand behind those of the settings (`Settings.overlaid`).  Two command lines in
turn are one (`CommandLine.followedBy`), so command lines act on settings, and any number of them comes to
one that can be asked for (`Settings.overriddenByAll_exact`). -/

namespace TextLimits

namespace CommandLine

/-! ### Two command lines in one -/

/-- Whether a command line says where the settings come from. -/
def choosesSource (line : CommandLine) : Bool := line.config.isSome || line.noConfig

/-- A command line and what another one changes in it: the inputs, the limits and the source of the settings
in place of those there, exclusions and ignored lines after those there. -/
def followedBy (a b : CommandLine) : CommandLine where
  inputs := if b.inputs.isEmpty then a.inputs else b.inputs
  excludes := a.excludes ++ b.excludes
  ignoreLinesMatching := a.ignoreLinesMatching ++ b.ignoreLinesMatching
  maxLineLength := b.maxLineLength.or a.maxLineLength
  maxLinesInFile := b.maxLinesInFile.or a.maxLinesInFile
  config := if b.choosesSource then b.config else a.config
  noConfig := if b.choosesSource then b.noConfig else a.noConfig
  verbose := min (a.verbose + b.verbose) maxVerbose

variable {a b : CommandLine}

theorem isEmpty_inputs_followedBy (a b : CommandLine) :
    (a.followedBy b).inputs.isEmpty = (b.inputs.isEmpty && a.inputs.isEmpty) := by
  unfold followedBy
  dsimp only
  split_ifs with hb <;> simp [hb]

theorem choosesSource_followedBy (a b : CommandLine) :
    (a.followedBy b).choosesSource = (b.choosesSource || a.choosesSource) := by
  unfold followedBy choosesSource
  dsimp only
  split_ifs with hb <;> simp [hb]

theorem followedBy_assoc (a b c : CommandLine) :
    (a.followedBy b).followedBy c = a.followedBy (b.followedBy c) := by
  have hinputs := isEmpty_inputs_followedBy b c
  have hsource := choosesSource_followedBy b c
  rw [followedBy, followedBy.eq_def a (b.followedBy c), hinputs, hsource, CommandLine.mk.injEq]
  refine ⟨?replaced, List.append_assoc .., List.append_assoc .., (Option.or_assoc ..).symm,
    (Option.or_assoc ..).symm, ?source, ?refusal, ?count⟩
  case replaced => cases h : c.inputs.isEmpty <;> simp [followedBy, h]
  case source => cases h : c.choosesSource <;> simp [followedBy, h]
  case refusal => cases h : c.choosesSource <;> simp [followedBy, h]
  case count =>
    dsimp only [followedBy]
    omega

instance : Std.Associative followedBy := ⟨followedBy_assoc⟩

theorem followedBy_empty (h : a.Admissible) : a.followedBy empty = a := by
  have hverbose := h.verbose
  simp [followedBy, empty, choosesSource, hverbose]

theorem admissible_empty : empty.Admissible := ⟨⟨nofun, Nat.zero_le _⟩, nofun⟩

theorem Admissible.followedBy (ha : a.Admissible) (hb : b.Admissible) : (a.followedBy b).Admissible := by
  unfold CommandLine.followedBy
  by_cases h : b.choosesSource = true
  · simp only [h, if_true]
    exact ⟨⟨hb.path, Nat.min_le_right _ _⟩, hb.source⟩
  · simp only [h]
    exact ⟨⟨ha.path, Nat.min_le_right _ _⟩, ha.source⟩

/-! ### Any number of them -/

/-- The command lines among some arguments that are not refused. -/
def accepted (vectors : List (List String)) : List CommandLine :=
  vectors.filterMap fun arguments => (parse arguments).toOption

/-- The command line that all of them come to. -/
def together (vectors : List (List String)) : CommandLine := (accepted vectors).foldl followedBy empty

theorem admissible_of_mem_accepted {vectors : List (List String)} {line : CommandLine}
    (h : line ∈ accepted vectors) : line.Admissible := by
  obtain ⟨arguments, -, hparse⟩ := List.mem_filterMap.mp h
  exact admissible_of_parse (toOption_eq_some_iff.mp hparse)

theorem admissible_together (vectors : List (List String)) : (together vectors).Admissible :=
  List.foldlRecOn _ followedBy admissible_empty
    fun _ hbefore _ hline => hbefore.followedBy (admissible_of_mem_accepted hline)

theorem together_append (vectors more : List (List String)) :
    together (vectors ++ more) = (together vectors).followedBy (together more) := by
  have hempty := followedBy_empty (admissible_together vectors)
  calc together (vectors ++ more)
      = (accepted more).foldl followedBy (together vectors) := by
        rw [together, accepted, List.filterMap_append, List.foldl_append]
        rfl
    _ = (accepted more).foldl followedBy ((together vectors).followedBy empty) := by rw [hempty]
    _ = (together vectors).followedBy (together more) := List.foldl_assoc

end CommandLine

namespace Settings

open CommandLine

/-- The settings as some arguments change them: not at all if they are refused. -/
def overriddenByArguments (s : Settings) (arguments : List String) : Settings :=
  match parse arguments with
  | .ok line => s.overriddenBy line
  | .error _ => s

/-- The settings as several lists of arguments change them, one after another. -/
def overriddenByAll (s : Settings) (vectors : List (List String)) : Settings :=
  vectors.foldl overriddenByArguments s

/-- The settings with the last inputs and the last limits that some command lines give, if any does, and
with all that they exclude or ignore. -/
def overlaid (s : Settings) (lines : List CommandLine) : Settings where
  inputs := ((lines.map (·.inputs)).filter (· ≠ [])).getLastD s.inputs
  excludes := s.excludes ++ lines.flatMap (·.excludes)
  ignoreLinesMatching := s.ignoreLinesMatching ++ lines.flatMap (·.ignoreLinesMatching)
  maxLineLength := (lines.filterMap (·.maxLineLength)).getLastD s.maxLineLength
  maxLinesInFile := (lines.filterMap (·.maxLinesInFile)).getLastD s.maxLinesInFile

theorem overriddenBy_followedBy (s : Settings) (a b : CommandLine) :
    (s.overriddenBy a).overriddenBy b = s.overriddenBy (a.followedBy b) := by
  rw [overriddenBy, overriddenBy.eq_def s (a.followedBy b), isEmpty_inputs_followedBy, Settings.mk.injEq]
  refine ⟨?replaced, List.append_assoc .., List.append_assoc .., Option.getD_or.symm, Option.getD_or.symm⟩
  case replaced => cases h : b.inputs.isEmpty <;> simp [overriddenBy, followedBy, h]

theorem overriddenBy_empty (s : Settings) : s.overriddenBy CommandLine.empty = s := by
  simp [overriddenBy, CommandLine.empty]

/-- Command lines in turn, without those that are refused. -/
theorem overriddenByAll_eq_foldl (s : Settings) (vectors : List (List String)) :
    s.overriddenByAll vectors = (accepted vectors).foldl overriddenBy s := by
  unfold overriddenByAll accepted
  rw [List.foldl_filterMap]
  congr 1
  funext s arguments
  unfold overriddenByArguments
  cases parse arguments <;> rfl

theorem getLastD_filterMap_cons {f : CommandLine → Option UInt64} (line : CommandLine)
    (lines : List CommandLine) (limit : UInt64) :
    ((line :: lines).filterMap f).getLastD limit = (lines.filterMap f).getLastD ((f line).getD limit) := by
  cases h : f line with
  | none => rw [List.filterMap_cons_none h, Option.getD_none]
  | some n => rw [List.filterMap_cons_some h, List.getLastD_cons, Option.getD_some]

theorem overlaid_cons (s : Settings) (line : CommandLine) (lines : List CommandLine) :
    s.overlaid (line :: lines) = (s.overriddenBy line).overlaid lines := by
  rw [overlaid, overlaid.eq_def (s.overriddenBy line), Settings.mk.injEq]
  refine ⟨?replaced, ?excluded, ?ignored, getLastD_filterMap_cons line lines s.maxLineLength,
    getLastD_filterMap_cons line lines s.maxLinesInFile⟩
  case replaced =>
    rw [List.map_cons, List.filter_cons, overriddenBy]
    cases h : line.inputs with
    | nil => rfl
    | cons source sources => exact List.getLastD_cons ..
  case excluded => simp [overriddenBy]
  case ignored => simp [overriddenBy]

theorem foldl_overriddenBy_eq_overlaid (s : Settings) (lines : List CommandLine) :
    lines.foldl overriddenBy s = s.overlaid lines := by
  induction lines generalizing s with
  | nil => simp [overlaid]
  | cons line lines ih => rw [List.foldl_cons, ih, overlaid_cons]

/-- **Command lines act on settings.**  After any lists of arguments, the refused ones left out, the inputs
and the limits are the last ones given, or else those of the settings, and the exclusions and the ignored lines
are those of the settings and then those given.  The same is what a single command line does, which can be
asked for; it is put together from the accepted ones, two of which come to one, whatever the settings
are, and how they are grouped does not matter. -/
theorem overriddenByAll_exact (s : Settings) (vectors : List (List String)) :
    s.overriddenByAll vectors = s.overlaid (accepted vectors) ∧
    s.overriddenByAll vectors = s.overriddenBy (together vectors) ∧
    (∃ arguments, parse arguments = .ok (together vectors)) ∧
    (∀ more, together (vectors ++ more) = (together vectors).followedBy (together more)) ∧
    (∀ a b : CommandLine, (s.overriddenBy a).overriddenBy b = s.overriddenBy (a.followedBy b)) ∧
    ∀ a b c : CommandLine, (a.followedBy b).followedBy c = a.followedBy (b.followedBy c) := by
  have hfold := overriddenByAll_eq_foldl s vectors
  refine ⟨?overlaid, ?single, exists_arguments (admissible_together vectors), together_append vectors,
    overriddenBy_followedBy s, followedBy_assoc⟩
  case overlaid => rw [hfold, foldl_overriddenBy_eq_overlaid]
  case single =>
    calc s.overriddenByAll vectors
        = (accepted vectors).foldl overriddenBy (s.overriddenBy CommandLine.empty) := by
          rw [hfold, overriddenBy_empty]
      _ = s.overriddenBy (together vectors) :=
          List.foldl_hom s.overriddenBy fun a b => overriddenBy_followedBy s a b

/-- Inputs that are given later replace the others, exclusions are added, and what is refused counts for
nothing. -/
example : Settings.default.overriddenByAll
    [["-i", "a", "-e", "b"], ["-i", "c", "--width"], ["--max-line-length=80"], ["-i", "d", "e", "-e", "f"]] =
      ⟨["d", "e"], ["b", "f"], [], 80, 2000⟩ := by
  cbv

end Settings

end TextLimits
