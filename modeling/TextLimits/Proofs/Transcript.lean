import TextLimits.Proofs.Text.Encoding
import TextLimits.Transcript

/-! # What a transcript gives

`Transcript.Gives t a out err` says that an activity ends well with a result and writes one text to
each output.  It is preserved by going on after an activity (`Gives.bind`) and by doing one thing after
another (`Gives.forM`), and outputs without limits take exactly the two texts (`Gives.play`).
`Transcript.Fails t fault out err` says the same of an activity that ends in a fault: what was written
before stands, and nothing comes after it (`Fails.bind`, `Gives.bind_fails`).  Outputs of any kind have
a say only in whether they refuse to write (`result_playOn`). -/

namespace TextLimits

/-- An output without a limit that has taken a text. -/
def Sink.holding (text : String) : Sink := ⟨none, Utf8.encode text.toList⟩

/-- Outputs without limits that have taken nothing. -/
def Outputs.unlimited : Outputs := ⟨Sink.new none, Sink.new none⟩

/-- A text is offered to one of the outputs, which refuses it if it is full. -/
def Outputs.offer (o : Outputs) (channel : Channel) (text : String) :
    Outputs × Option String :=
  ((o.write channel text).1, if (o.write channel text).2 then none else some Sink.fullReason)

namespace Transcript

variable {α β : Type}

/-- An activity ends well with a result, after a text to each output. -/
structure Gives (t : Transcript α) (a : α) (out err : String) : Prop where
  result : t.result = .ok a
  out : t.textOn .out = out
  err : t.textOn .err = err

/-- An activity ends in a fault, after a text to each output. -/
structure Fails (t : Transcript α) (fault : Fault) (out err : String) : Prop where
  result : t.result = .error fault
  out : t.textOn .out = out
  err : t.textOn .err = err

/-! ### One activity -/

theorem gives_pure (a : α) : (pure a : Transcript α).Gives a "" "" := ⟨rfl, rfl, rfl⟩

theorem gives_ofResult {r : Except Fault α} {a : α} (h : r = .ok a) : (ofResult r).Gives a "" "" :=
  ⟨h, rfl, rfl⟩

theorem fails_ofResult {r : Except Fault α} {fault : Fault} (h : r = .error fault) :
    (ofResult r).Fails fault "" "" := ⟨h, rfl, rfl⟩

theorem gives_write_out (text : String) : (write .out text).Gives () text "" :=
  ⟨rfl, String.join_cons.trans String.append_empty, rfl⟩

theorem gives_write_err (text : String) : (write .err text).Gives () "" text :=
  ⟨rfl, rfl, String.join_cons.trans String.append_empty⟩

/-! ### One activity after another -/

variable {t : Transcript α} {next : α → Transcript β} {a : α} {b : β} {fault : Fault}
  {o e o' e' : String}

theorem bind_eq_of_ok (h : t.result = .ok a) :
    t >>= next = ⟨t.texts ++ (next a).texts, (next a).result⟩ := by
  show Transcript.bind t next = _
  unfold Transcript.bind
  rw [h]

theorem bind_eq_of_error (h : t.result = .error fault) : t >>= next = ⟨t.texts, .error fault⟩ := by
  show Transcript.bind t next = _
  unfold Transcript.bind
  rw [h]

theorem result_bind (t : Transcript α) (next : α → Transcript β) :
    (t >>= next).result = t.result >>= fun a => (next a).result := by
  cases h : t.result with
  | ok a => rw [bind_eq_of_ok h]; rfl
  | error fault => rw [bind_eq_of_error h]; rfl

theorem result_bind_eq_ok_iff :
    (t >>= next).result = .ok b ↔ ∃ a, t.result = .ok a ∧ (next a).result = .ok b := by
  rw [result_bind]
  cases t.result <;> simp [bind, Except.bind]

theorem result_bind_eq_error_iff :
    (t >>= next).result = .error fault ↔
      t.result = .error fault ∨ ∃ a, t.result = .ok a ∧ (next a).result = .error fault := by
  rw [result_bind]
  cases t.result <;> simp [bind, Except.bind]

/-- What is written to an output comes in the order of the activities. -/
theorem textOn_bind (h : t.result = .ok a) (channel : Channel) :
    (t >>= next).textOn channel = t.textOn channel ++ (next a).textOn channel := by
  unfold textOn
  rw [bind_eq_of_ok h, List.filter_append, List.map_append, String.join_append]

theorem Gives.bind (ht : t.Gives a o e) (hnext : (next a).Gives b o' e') :
    (t >>= next).Gives b (o ++ o') (e ++ e') := by
  refine ⟨?_, ?_, ?_⟩
  · rw [bind_eq_of_ok ht.result]
    exact hnext.result
  · rw [textOn_bind ht.result, ht.out, hnext.out]
  · rw [textOn_bind ht.result, ht.err, hnext.err]

theorem Fails.bind (ht : t.Fails fault o e) : (t >>= next).Fails fault o e := by
  rw [bind_eq_of_error ht.result]
  exact ⟨rfl, ht.out, ht.err⟩

/-- What was written before a fault stands. -/
theorem Gives.bind_fails (ht : t.Gives a o e) (hnext : (next a).Fails fault o' e') :
    (t >>= next).Fails fault (o ++ o') (e ++ e') := by
  refine ⟨?_, ?_, ?_⟩
  · rw [bind_eq_of_ok ht.result]
    exact hnext.result
  · rw [textOn_bind ht.result, ht.out, hnext.out]
  · rw [textOn_bind ht.result, ht.err, hnext.err]

theorem Gives.bind_pure {f : α → β} (ht : t.Gives a o e) :
    (t >>= fun a => Pure.pure (f a)).Gives (f a) o e := by
  have h : (t >>= fun a => Pure.pure (f a)).Gives (f a) (o ++ "") (e ++ "") :=
    ht.bind (gives_pure (f a))
  rwa [String.append_empty, String.append_empty] at h

/-- Doing the same for each element of a list writes the texts for the elements in their order. -/
theorem Gives.forM {f : β → Transcript Unit} {out err : β → String} {l : List β}
    (h : ∀ b ∈ l, (f b).Gives () (out b) (err b)) :
    (l.forM f).Gives () (String.join (l.map out)) (String.join (l.map err)) := by
  induction l with
  | nil => exact gives_pure ()
  | cons b l ih =>
      rw [List.map_cons, List.map_cons, String.join_cons, String.join_cons]
      exact (h b List.mem_cons_self).bind (ih fun c hc => h c (List.mem_cons_of_mem _ hc))

theorem join_map_empty (l : List β) : String.join (l.map fun _ => "") = "" := by
  induction l with
  | nil => rfl
  | cons b l ih => rw [List.map_cons, String.join_cons, ih, String.empty_append]

theorem Gives.forM_out {f : β → Transcript Unit} {out : β → String} {l : List β}
    (h : ∀ b ∈ l, (f b).Gives () (out b) "") :
    (l.forM f).Gives () (String.join (l.map out)) "" := by
  have hall := Gives.forM h
  rwa [join_map_empty] at hall

theorem Gives.forM_err {f : β → Transcript Unit} {err : β → String} {l : List β}
    (h : ∀ b ∈ l, (f b).Gives () "" (err b)) :
    (l.forM f).Gives () "" (String.join (l.map err)) := by
  have hall := Gives.forM h
  rwa [join_map_empty] at hall

/-! ### Outputs without limits -/

theorem writeAll_unlimited (texts : List (Channel × String)) (out err : List UInt8) :
    Outputs.writeAll ⟨⟨none, out⟩, ⟨none, err⟩⟩ texts =
      (⟨⟨none, out ++ Utf8.encode (textOn .out ⟨texts, .ok ()⟩).toList⟩,
        ⟨none, err ++ Utf8.encode (textOn .err ⟨texts, .ok ()⟩).toList⟩⟩, true) := by
  induction texts generalizing out err with
  | nil => simp [Outputs.writeAll, textOn]
  | cons w texts ih =>
      obtain ⟨channel, text⟩ := w
      cases channel with
      | out =>
          rw [Outputs.writeAll, show Outputs.write _ .out text =
            (⟨⟨none, out ++ Utf8.encode text.toList⟩, ⟨none, err⟩⟩, true) from rfl]
          dsimp only
          rw [ih]
          simp [textOn, Utf8.encode_append]
      | err =>
          rw [Outputs.writeAll, show Outputs.write _ .err text =
            (⟨⟨none, out⟩, ⟨none, err ++ Utf8.encode text.toList⟩⟩, true) from rfl]
          dsimp only
          rw [ih]
          simp [textOn, Utf8.encode_append]

theorem play_unlimited (t : Transcript α) :
    t.play Outputs.unlimited =
      (⟨Sink.holding (t.textOn .out), Sink.holding (t.textOn .err)⟩, t.result) := by
  have hall : Outputs.unlimited.writeAll t.texts =
      (⟨Sink.holding (t.textOn .out), Sink.holding (t.textOn .err)⟩, true) :=
    writeAll_unlimited t.texts [] []
  unfold Transcript.play
  rw [hall]

theorem result_play_unlimited (t : Transcript α) : (t.play Outputs.unlimited).2 = t.result := by
  rw [play_unlimited]

theorem Gives.play (h : t.Gives a o e) :
    t.play Outputs.unlimited = (⟨Sink.holding o, Sink.holding e⟩, .ok a) := by
  rw [play_unlimited, h.result, h.out, h.err]

theorem Fails.play (h : t.Fails fault o e) :
    t.play Outputs.unlimited = (⟨Sink.holding o, Sink.holding e⟩, .error fault) := by
  rw [play_unlimited, h.result, h.out, h.err]

/-! ### Outputs of any kind -/

variable {σ : Type} (offer : σ → Channel → String → σ × Option String)

/-- Offers texts to a device, up to the first one that it refuses for some reason. -/
def offerAll : σ → List (Channel × String) → σ × Option String
  | d, [] => (d, none)
  | d, (channel, text) :: rest =>
    match offer d channel text with
    | (d, none) => offerAll d rest
    | (d, some reason) => (d, some reason)

/-- Writes a transcript to a device, whatever that does with the texts that it is offered. -/
def playOn (t : Transcript α) (d : σ) : σ × Except Fault α :=
  match offerAll offer d t.texts with
  | (d, none) => (d, t.result)
  | (d, some reason) => (d, .error (.io reason))

/-- A device has a say only in whether it refuses to write. -/
theorem result_playOn (t : Transcript α) (d : σ) :
    (t.playOn offer d).2 = t.result ∨ ∃ reason, (t.playOn offer d).2 = .error (.io reason) := by
  unfold playOn
  split
  · exact .inl rfl
  · next reason _ => exact .inr ⟨reason, rfl⟩

theorem result_of_playOn {t : Transcript α} {d : σ} {fault : Fault}
    (h : (t.playOn offer d).2 = .error fault) (hio : ∀ reason, fault ≠ .io reason) :
    t.result = .error fault := by
  rcases result_playOn offer t d with hresult | ⟨reason, hrefused⟩
  · exact hresult.symm.trans h
  · exact absurd (Except.error.inj (h.symm.trans hrefused)) (hio reason)

theorem offerAll_offer (o : Outputs) (texts : List (Channel × String)) :
    offerAll Outputs.offer o texts =
      ((o.writeAll texts).1, if (o.writeAll texts).2 then none else some Sink.fullReason) := by
  induction texts generalizing o with
  | nil => rfl
  | cons w texts ih =>
      obtain ⟨channel, text⟩ := w
      rw [offerAll, Outputs.writeAll, Outputs.offer]
      cases h : o.write channel text with
      | mk o' taken =>
          cases taken with
          | true => exact ih o'
          | false => rfl

theorem play_eq_playOn (t : Transcript α) (o : Outputs) : t.play o = t.playOn Outputs.offer o := by
  unfold play playOn
  rw [offerAll_offer]
  cases h : o.writeAll t.texts with
  | mk o' taken =>
      cases taken with
      | true => rfl
      | false => rfl

end Transcript

end TextLimits
