import TextLimits.Sink
import TextLimits.Fault

/-! # Transcripts

A transcript is what an activity writes to its two outputs, in order, and how it ends.  An activity
that ends in a fault does nothing after it (`Transcript.bind`).  Played onto outputs that can be full
(`Transcript.play`), it stops at the first text that is not taken whole. -/

namespace TextLimits

/-- The outputs by name. -/
inductive Channel where
  | out
  | err
  deriving DecidableEq

/-- What is written, and how it ends. -/
structure Transcript (α : Type) where
  texts : List (Channel × String)
  result : Except Fault α

namespace Transcript

variable {α β : Type}

/-- Writes nothing. -/
protected def pure (a : α) : Transcript α := ⟨[], .ok a⟩

/-- Goes on after an activity, unless it ends in a fault. -/
protected def bind (t : Transcript α) (next : α → Transcript β) : Transcript β :=
  match t.result with
  | .ok a => ⟨t.texts ++ (next a).texts, (next a).result⟩
  | .error fault => ⟨t.texts, .error fault⟩

instance : Monad Transcript where
  pure := Transcript.pure
  bind := Transcript.bind

/-- Ends as something does that writes nothing. -/
def ofResult (r : Except Fault α) : Transcript α := ⟨[], r⟩

/-- Ends in a fault. -/
def fail (fault : Fault) : Transcript α := ofResult (.error fault)

/-- Writes a text. -/
def write (channel : Channel) (text : String) : Transcript Unit := ⟨[(channel, text)], .ok ()⟩

/-- All that is written to an output. -/
def textOn (channel : Channel) (t : Transcript α) : String :=
  String.join ((t.texts.filter fun w => w.1 = channel).map Prod.snd)

end Transcript

/-- The two outputs. -/
structure Outputs where
  out : Sink
  err : Sink

namespace Outputs

/-- The outputs after a text was offered to one of them, and whether it took all of it. -/
def write (o : Outputs) (channel : Channel) (text : String) : Outputs × Bool :=
  match channel with
  | .out => ({ o with out := (o.out.write text).1 }, (o.out.write text).2)
  | .err => ({ o with err := (o.err.write text).1 }, (o.err.write text).2)

/-- The outputs after some texts were offered, up to the first that is not taken whole, and whether
all were taken. -/
def writeAll (o : Outputs) : List (Channel × String) → Outputs × Bool
  | [] => (o, true)
  | (channel, text) :: rest =>
    match o.write channel text with
    | (o, true) => writeAll o rest
    | (o, false) => (o, false)

end Outputs

/-- Writes a transcript to outputs that may be full before its end. -/
def Transcript.play {α : Type} (t : Transcript α) (o : Outputs) : Outputs × Except Fault α :=
  match o.writeAll t.texts with
  | (o, true) => (o, t.result)
  | (o, false) => (o, .error (.io Sink.fullReason))

end TextLimits
