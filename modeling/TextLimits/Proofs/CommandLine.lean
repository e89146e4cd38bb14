import TextLimits.CommandLine
import TextLimits.Proofs.Result

/-! # Command lines that are accepted

A command line is accepted if its tokens are read to the end, the option that waits there takes effect, and
no two options exclude each other (`parse_eq_ok_iff`). -/

namespace TextLimits.CommandLine

theorem Progress.conflict?_eq_none_iff {p : Progress} :
    p.conflict? = none ↔ ¬ (p.line.config.isSome = true ∧ p.line.noConfig = true) := by
  unfold conflict?
  rw [← Bool.and_eq_true]
  by_cases h : (p.line.config.isSome && p.line.noConfig) = true
  · rw [if_pos h]
    split <;> simp [h]
  · rw [if_neg h]
    simp [h]

theorem parse_eq_ok_iff {arguments : List String} {line : CommandLine} :
    parse arguments = .ok line ↔
      ∃ p q, (Token.ofArguments arguments).foldlM Progress.step .start = .ok p ∧ p.settle = .ok q ∧
        ¬ (line.config.isSome = true ∧ line.noConfig = true) ∧ q.line = line := by
  unfold parse
  simp only [bind_eq_ok_iff]
  constructor
  · rintro ⟨p, hp, q, hq, h⟩
    cases hconflict : q.conflict? with
    | some refusal => rw [hconflict] at h; cases h
    | none =>
        rw [hconflict] at h
        cases h
        exact ⟨p, q, hp, hq, Progress.conflict?_eq_none_iff.mp hconflict, rfl⟩
  · rintro ⟨p, q, hp, hq, hboth, rfl⟩
    refine ⟨p, hp, q, hq, ?_⟩
    rw [Progress.conflict?_eq_none_iff.mpr hboth]
    rfl

/-- An accepted command line does not ask for a settings file and for none. -/
theorem not_both_of_parse {arguments : List String} {line : CommandLine}
    (h : parse arguments = .ok line) : ¬ (line.config.isSome = true ∧ line.noConfig = true) := by
  obtain ⟨_, _, -, -, hboth, -⟩ := parse_eq_ok_iff.mp h
  exact hboth

end TextLimits.CommandLine
