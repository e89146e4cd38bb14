import TextLimits.Check
import TextLimits.Proofs.Transcript.Limited

/-! # Checks with outputs that become full

A check with full outputs is the check with unlimited ones, cut off at one text
(`Check.run_limited`). -/

namespace TextLimits

namespace Check

/-- **A full output never corrupts or reorders what a check says.**  If both outputs have room for what
unlimited ones take, the check ends as it does with those and they hold the same.  Otherwise it ends
with the reason of the full output, both hold beginnings of what unlimited ones take, and the output
that refused a text holds exactly as many bytes as it can. -/
theorem run_limited (s : Settings) (root : String) (tree : Timeline) (limit : Channel → Nat) :
    let full := (run s root tree).play .unlimited
    let part := (run s root tree).play (.limited limit)
    ((∀ c, (full.1.on c).taken.length ≤ limit c) →
      part.2 = full.2 ∧ ∀ c, (part.1.on c).taken = (full.1.on c).taken) ∧
    ((¬ ∀ c, (full.1.on c).taken.length ≤ limit c) →
      part.2 = .error (.io Sink.fullReason) ∧ (∀ c, (part.1.on c).taken <+: (full.1.on c).taken) ∧
      ∃ channel, (run s root tree).RefusedOn limit channel ∧
        (part.1.on channel).taken.length = limit channel) := by
  intro full part
  have hfull : ∀ c, (full.1.on c).taken = c.bytes (run s root tree).texts :=
    (run s root tree).taken_play_unlimited
  simp only [hfull]
  constructor
  · intro h
    have hpart : part = _ := (run s root tree).play_limited_of_fits h
    rw [hpart]
    exact ⟨(run s root tree).result_play_unlimited.symm, Outputs.taken_on_holding _ _⟩
  · intro h
    obtain ⟨taken, channel, hplay, hbegins, hrefused, hlength⟩ :=
      (run s root tree).play_limited_of_not_fits h
    have hpart : part = _ := hplay
    rw [hpart]
    refine ⟨rfl, fun c => ?_, channel, hrefused, ?_⟩
    · rw [Outputs.taken_on_holding]
      exact hbegins c
    · rw [Outputs.taken_on_holding]
      exact hlength

end Check

end TextLimits
