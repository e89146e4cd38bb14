import TextLimits.Proofs.Transcript

/-! # Outputs that become full

Outputs with limits take a transcript to its end if every output has room for all that is written to
it (`writeAll_of_fits`).  If one has not, there is a first text that is not taken whole
(`writeAll_of_not_fits`): everything before it was taken, and the output that refused it holds as many
bytes as it can.  So an activity that writes to one output only leaves there as much of its text as
has room (`Gives.play_limited`). -/

namespace TextLimits

/-! ### Outputs by channel -/

/-- The bytes of the texts for a channel. -/
def Channel.bytes (channel : Channel) (texts : List (Channel × String)) : List UInt8 :=
  (texts.filter fun w => w.1 = channel).flatMap fun w => Utf8.encode w.2.toList

namespace Channel

@[simp] theorem bytes_nil (channel : Channel) : channel.bytes [] = [] := rfl

theorem bytes_append (channel : Channel) (a b : List (Channel × String)) :
    channel.bytes (a ++ b) = channel.bytes a ++ channel.bytes b := by
  simp [bytes]

theorem bytes_cons (channel : Channel) (w : Channel × String) (texts : List (Channel × String)) :
    channel.bytes (w :: texts) = channel.bytes [w] ++ channel.bytes texts :=
  channel.bytes_append [w] texts

theorem bytes_singleton (channel : Channel) (text : String) :
    channel.bytes [(channel, text)] = Utf8.encode text.toList := by
  simp [bytes]

theorem bytes_singleton_of_ne {c channel : Channel} (h : c ≠ channel) (text : String) :
    c.bytes [(channel, text)] = [] := by
  simp [bytes, h.symm]

end Channel

namespace Outputs

/-- The sink of a channel. -/
def on (o : Outputs) : Channel → Sink
  | .out => o.out
  | .err => o.err

/-- Outputs with limits that hold some bytes. -/
def holding (limit : Channel → Nat) (taken : Channel → List UInt8) : Outputs :=
  ⟨⟨some (limit .out), taken .out⟩, ⟨some (limit .err), taken .err⟩⟩

/-- Outputs with limits that have taken nothing. -/
def limited (limit : Channel → Nat) : Outputs :=
  ⟨Sink.new (some (limit .out)), Sink.new (some (limit .err))⟩

theorem taken_on_holding (limit : Channel → Nat) (taken : Channel → List UInt8) (channel : Channel) :
    ((holding limit taken).on channel).taken = taken channel := by
  cases channel <;> rfl

theorem holding_take {limit : Channel → Nat} {taken : Channel → List UInt8}
    (h : ∀ c, (taken c).length ≤ limit c) :
    holding limit (fun c => (taken c).take (limit c)) = holding limit taken :=
  congrArg (holding limit) (funext fun c => List.take_of_length_le (h c))

variable {limit : Channel → Nat} {taken : Channel → List UInt8}

/-- A text is taken up to the limit of its output. -/
theorem write_holding (h : ∀ c, (taken c).length ≤ limit c) (channel : Channel) (text : String) :
    (holding limit taken).write channel text =
      (holding limit fun c => (taken c ++ c.bytes [(channel, text)]).take (limit c),
        decide ((taken channel ++ channel.bytes [(channel, text)]).length ≤ limit channel)) := by
  have hother : ∀ c ≠ channel, (taken c ++ c.bytes [(channel, text)]).take (limit c) = taken c := by
    intro c hc
    rw [Channel.bytes_singleton_of_ne hc, List.append_nil, List.take_of_length_le (h c)]
  cases channel with
  | out =>
      unfold holding
      dsimp only
      rw [hother .err (by decide), Channel.bytes_singleton]
      rfl
  | err =>
      unfold holding
      dsimp only
      rw [hother .out (by decide), Channel.bytes_singleton]
      rfl

theorem fits_singleton (h : ∀ c, (taken c).length ≤ limit c) {channel : Channel} {text : String}
    (hfits : (taken channel ++ channel.bytes [(channel, text)]).length ≤ limit channel) (c : Channel) :
    (taken c ++ c.bytes [(channel, text)]).length ≤ limit c := by
  by_cases hc : c = channel
  · rw [hc]
    exact hfits
  · rw [Channel.bytes_singleton_of_ne hc, List.append_nil]
    exact h c

/-! ### Texts that fit, and the first one that does not -/

theorem writeAll_of_fits {texts : List (Channel × String)}
    (h : ∀ c, (taken c ++ c.bytes texts).length ≤ limit c) :
    (holding limit taken).writeAll texts =
      (holding limit fun c => taken c ++ c.bytes texts, true) := by
  induction texts generalizing taken with
  | nil =>
      simp only [Channel.bytes_nil, List.append_nil]
      rfl
  | cons w texts ih =>
      obtain ⟨channel, text⟩ := w
      simp only [Channel.bytes_cons _ _ texts, ← List.append_assoc] at h ⊢
      have hfirst : ∀ c, (taken c ++ c.bytes [(channel, text)]).length ≤ limit c := fun c =>
        Nat.le_trans (by simp) (h c)
      have htaken : ∀ c, (taken c).length ≤ limit c := fun c => Nat.le_trans (by simp) (hfirst c)
      rw [writeAll, write_holding htaken, holding_take hfirst, decide_eq_true (hfirst channel)]
      exact ih h

/-- If the outputs have no room for all texts, there is a first one that is refused, and its output is
then full. -/
theorem writeAll_of_not_fits {texts : List (Channel × String)}
    (htaken : ∀ c, (taken c).length ≤ limit c)
    (h : ¬ ∀ c, (taken c ++ c.bytes texts).length ≤ limit c) :
    ∃ before channel text after, texts = before ++ (channel, text) :: after ∧
      (∀ c, (taken c ++ c.bytes before).length ≤ limit c) ∧
      limit channel < (taken channel ++ channel.bytes (before ++ [(channel, text)])).length ∧
      (holding limit taken).writeAll texts =
        (holding limit fun c =>
          (taken c ++ c.bytes (before ++ [(channel, text)])).take (limit c), false) := by
  induction texts generalizing taken with
  | nil =>
      simp only [Channel.bytes_nil, List.append_nil] at h
      exact absurd htaken h
  | cons w texts ih =>
      obtain ⟨channel, text⟩ := w
      by_cases hfits : (taken channel ++ channel.bytes [(channel, text)]).length ≤ limit channel
      · have hfirst := fits_singleton htaken hfits
        simp only [Channel.bytes_cons _ _ texts, ← List.append_assoc] at h
        obtain ⟨before, channel', text', after, rfl, hbefore, hrefused, hwrite⟩ := ih hfirst h
        refine ⟨(channel, text) :: before, channel', text', after, rfl, ?_, ?_, ?_⟩
        · intro c
          rw [Channel.bytes_cons, ← List.append_assoc]
          exact hbefore c
        · rw [List.cons_append, Channel.bytes_cons, ← List.append_assoc]
          exact hrefused
        · rw [writeAll, write_holding htaken, holding_take hfirst, decide_eq_true hfits]
          simp only [List.cons_append, Channel.bytes_cons _ _ (before ++ [(channel', text')]),
            ← List.append_assoc]
          exact hwrite
      · refine ⟨[], channel, text, texts, rfl, ?_, Nat.not_le.mp hfits, ?_⟩
        · intro c
          rw [Channel.bytes_nil, List.append_nil]
          exact htaken c
        · rw [writeAll, write_holding htaken, decide_eq_false hfits]
          rfl

end Outputs

namespace Transcript

variable {α : Type}

theorem encode_textOn (t : Transcript α) (channel : Channel) :
    Utf8.encode (t.textOn channel).toList = channel.bytes t.texts := by
  unfold textOn Channel.bytes
  induction t.texts.filter fun w => w.1 = channel with
  | nil => rfl
  | cons w texts ih =>
      rw [List.map_cons, String.join_cons, String.toList_append, Utf8.encode_append, ih,
        List.flatMap_cons]

theorem taken_play_unlimited (t : Transcript α) (channel : Channel) :
    ((t.play .unlimited).1.on channel).taken = channel.bytes t.texts := by
  rw [play_unlimited, ← t.encode_textOn]
  cases channel <;> rfl

/-- A transcript is refused on a channel: all of its texts up to some one are taken, and that one goes
beyond the limit of the channel. -/
def RefusedOn (t : Transcript α) (limit : Channel → Nat) (channel : Channel) : Prop :=
  ∃ before text after, t.texts = before ++ (channel, text) :: after ∧
    (∀ c, (c.bytes before).length ≤ limit c) ∧
    limit channel < (channel.bytes (before ++ [(channel, text)])).length

variable (t : Transcript α) {limit : Channel → Nat}

theorem limited_eq_holding (limit : Channel → Nat) :
    Outputs.limited limit = Outputs.holding limit fun _ => [] := rfl

theorem play_limited_of_fits (h : ∀ c, (c.bytes t.texts).length ≤ limit c) :
    t.play (.limited limit) = (.holding limit fun c => c.bytes t.texts, t.result) := by
  have hall : (Outputs.holding limit fun _ => []).writeAll t.texts =
      (.holding limit fun c => c.bytes t.texts, true) := Outputs.writeAll_of_fits h
  unfold play
  rw [limited_eq_holding, hall]

/-- Outputs with too little room hold the beginnings of what is written to them, and the one that
refused a text is full. -/
theorem play_limited_of_not_fits (h : ¬ ∀ c, (c.bytes t.texts).length ≤ limit c) :
    ∃ taken channel, t.play (.limited limit) =
        (.holding limit taken, .error (.io Sink.fullReason)) ∧
      (∀ c, taken c <+: c.bytes t.texts) ∧ t.RefusedOn limit channel ∧
      (taken channel).length = limit channel := by
  have hnothing : ∀ c, ([] : List UInt8).length ≤ limit c := fun _ => Nat.zero_le _
  obtain ⟨before, channel, text, after, htexts, hbefore, hrefused, hwrite⟩ :=
    Outputs.writeAll_of_not_fits hnothing h
  refine ⟨fun c => (c.bytes (before ++ [(channel, text)])).take (limit c), channel, ?_, ?_,
    ⟨before, text, after, htexts, hbefore, hrefused⟩, ?_⟩
  · unfold play
    rw [limited_eq_holding, hwrite]
    rfl
  · intro c
    have hsplit : t.texts = (before ++ [(channel, text)]) ++ after := by
      rw [htexts, List.append_cons]
    rw [hsplit, c.bytes_append _ after]
    exact (List.take_prefix _ _).trans (List.prefix_append _ _)
  · exact List.length_take_of_le (Nat.le_of_lt hrefused)

theorem RefusedOn.bytes_ne_nil {channel : Channel} (h : t.RefusedOn limit channel) :
    channel.bytes t.texts ≠ [] := by
  obtain ⟨before, text, after, htexts, -, hrefused⟩ := h
  intro hnil
  rw [htexts, List.append_cons, Channel.bytes_append] at hnil
  rw [(List.append_eq_nil_iff.mp hnil).1] at hrefused
  exact absurd hrefused (Nat.not_lt_zero _)

/-! ### Activities that write to one output -/

variable {t : Transcript α} {a : α} {out : String}

theorem Gives.bytes_out (h : t.Gives a out "") :
    Channel.out.bytes t.texts = Utf8.encode out.toList := by
  rw [← t.encode_textOn, h.out]

theorem Gives.bytes_err (h : t.Gives a out "") : Channel.err.bytes t.texts = [] := by
  rw [← t.encode_textOn, h.err]
  rfl

/-- An activity that writes to the first output only leaves there as much of its text as has room, and
ends well if this is all of it. -/
theorem Gives.play_limited (h : t.Gives a out "") (limit : Channel → Nat) :
    t.play (.limited limit) =
      (⟨⟨some (limit .out), (Utf8.encode out.toList).take (limit .out)⟩,
        Sink.new (some (limit .err))⟩,
        if (Utf8.encode out.toList).length ≤ limit .out then .ok a
        else .error (.io Sink.fullReason)) := by
  by_cases hfits : (Utf8.encode out.toList).length ≤ limit .out
  · have hall : ∀ c, (c.bytes t.texts).length ≤ limit c := by
      rintro (_ | _)
      · rwa [h.bytes_out]
      · rw [h.bytes_err]
        exact Nat.zero_le _
    rw [t.play_limited_of_fits hall, h.result, if_pos hfits, Outputs.holding, h.bytes_out,
      h.bytes_err, List.take_of_length_le hfits]
    rfl
  · have hnot : ¬ ∀ c, (c.bytes t.texts).length ≤ limit c := by
      intro hall
      have hle := hall .out
      rw [h.bytes_out] at hle
      exact hfits hle
    obtain ⟨taken, channel, hplay, hbegins, hrefused, hfull⟩ := t.play_limited_of_not_fits hnot
    have herr : taken .err = [] := by
      have hbegin := hbegins .err
      rwa [h.bytes_err, List.prefix_nil] at hbegin
    have hout : taken .out = (Utf8.encode out.toList).take (limit .out) := by
      cases channel with
      | out =>
          have hbegin := hbegins .out
          rwa [h.bytes_out, List.prefix_iff_eq_take, hfull] at hbegin
      | err => exact absurd h.bytes_err hrefused.bytes_ne_nil
    rw [hplay, if_neg hfits, Outputs.holding, hout, herr]
    rfl

end Transcript

end TextLimits
