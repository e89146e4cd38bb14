import TextLimits.Inspection
import TextLimits.Proofs.Text.Lines

/-! # Inspection of a stream

The bytes of a stream are inspected as they come, line by line, and a line is decoded on its own.
This is a simulation: feeding a byte to the inspection is pushing it to the splitting of the bytes
into lines (`feed_seen`).  So the record is the one of the decoded text as a whole, however the
bytes are cut into pieces (`inspectStream_eq_inspectText`). -/

namespace TextLimits.Inspector

/-- The inspection of a byte string that has been split up to some point. -/
def seen (i : Inspector) (s : LineSplit UInt8) : Stream.Scan :=
  ⟨(s.closed.reverse.map Utf8.decodeLossy).foldl i.visit Scan.empty, s.pending⟩

theorem feed_seen (i : Inspector) (s : LineSplit UInt8) (b : UInt8) :
    i.feed (i.seen s) b = i.seen (s.push LineEnding.bytes b) := by
  unfold feed LineSplit.push
  by_cases hb : b = LineEnding.bytes.feed
  · simp [seen, hb]
  · simp [seen, hb]

theorem foldl_feed_seen (i : Inspector) (bytes : List UInt8) (s : LineSplit UInt8) :
    bytes.foldl i.feed (i.seen s) = i.seen (bytes.foldl (LineSplit.push LineEnding.bytes) s) := by
  induction bytes generalizing s with
  | nil => rfl
  | cons b bytes ih => rw [List.foldl_cons, feed_seen, ih, List.foldl_cons]

theorem finish_seen (i : Inspector) (s : LineSplit UInt8) :
    i.finish (i.seen s) = (s.finish.map Utf8.decodeLossy).foldl i.visit Scan.empty := by
  unfold finish LineSplit.finish
  cases hp : s.pending with
  | nil => simp [seen, hp]
  | cons b rest => simp [seen, hp]

/-- A stream is inspected as the list of its lines, each decoded on its own. -/
theorem inspectStream_eq_inspectLines (i : Inspector) (pieces : List (List UInt8)) :
    i.inspectStream ⟨pieces, none⟩ =
      .ok (i.inspectLines ((lines LineEnding.bytes pieces.flatten).map Utf8.decodeLossy)) := by
  have hfold : pieces.foldl (fun s piece => piece.foldl i.feed s) (i.seen LineSplit.empty) =
      pieces.flatten.foldl i.feed (i.seen LineSplit.empty) := List.foldl_flatten.symm
  have hstart : (⟨Scan.empty, []⟩ : Stream.Scan) = i.seen LineSplit.empty := rfl
  unfold inspectStream
  rw [hstart, hfold, foldl_feed_seen]
  dsimp only
  rw [finish_seen]
  rfl

/-- **Inspecting a stream is inspecting its text**: whatever the bytes and however they are cut into
pieces, the record is the one of the text that all of them together are decoded to. -/
theorem inspectStream_eq_inspectText (i : Inspector) (pieces : List (List UInt8)) :
    i.inspectStream ⟨pieces, none⟩ = .ok (i.inspectText (Utf8.decodeLossy pieces.flatten)) := by
  rw [inspectStream_eq_inspectLines, inspectText, lines_decodeLossy]

end TextLimits.Inspector
