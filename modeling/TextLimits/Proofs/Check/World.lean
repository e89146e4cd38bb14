import TextLimits.Proofs.Check

/-! # A check in a world

A transcript tells what a check writes, made from a tree as it is at different times.  Here the check is done
act by act (`Check.runIn`), in a world that has a state of any kind: writing a text, looking through the tree
and opening a file may all change it, and nothing else does.  In the world that a timeline and some outputs
make up, this comes to the transcript played on the outputs afterwards (`Check.runIn_world`). -/

namespace TextLimits

/-- Outputs and a file tree with a state that every access may change. -/
structure World (σ : Type) where
  /-- A text is offered to an output, which may refuse it for some reason. -/
  offer : σ → Channel → String → σ × Option String
  /-- The tree is looked through. -/
  survey : σ → σ × Tree
  /-- The file at the end of a way is opened and read. -/
  openFile : σ → List Segment → σ × Option File

/-- What is done in a world: it leaves a state, with a result or a fault. -/
def Deed (σ α : Type) : Type := σ → σ × Except Fault α

namespace Deed

variable {σ α β : Type}

protected def pure (a : α) : Deed σ α := fun d => (d, .ok a)

/-- Nothing is done after a fault. -/
protected def bind (deed : Deed σ α) (next : α → Deed σ β) : Deed σ β := fun d =>
  match deed d with
  | (d, .ok a) => next a d
  | (d, .error fault) => (d, .error fault)

instance : Monad (Deed σ) where
  pure := Deed.pure
  bind := Deed.bind

/-- Ends as something does that needs no world. -/
def ofResult (r : Except Fault α) : Deed σ α := fun d => (d, r)

end Deed

namespace World

variable {σ α : Type} (w : World σ)

/-- Writes a transcript. -/
def say (t : Transcript α) : Deed σ α := t.playOn w.offer

/-- Looks through the tree. -/
def lookThrough : Deed σ Tree := fun d => ((w.survey d).1, .ok (w.survey d).2)

end World

/-! ### The check act by act -/

namespace Check

variable {σ : Type} (w : World σ) (s : Settings) (root : String)

/-- The record of what was found where a file should be. -/
def inspectFile (path : Path) : Option File → Except Fault Record
  | none => .error (.fileRead (Path.joinText root path.text))
  | some file =>
    let unread : Fault := .fileRead (Path.joinText root path.text)
    let failure := if file.breaksOff then some unread.message else none
    (s.inspector.inspectStream ⟨[file.content], failure⟩).mapError fun _ => unread

/-- Opens a file and inspects it. -/
def inspectIn (path : Path) : Deed σ Record := fun d =>
  let (d, file) := w.openFile d (Path.stepsFrom root path)
  (d, inspectFile s root path file)

/-- Inspects files and reports on each, before the next one is opened. -/
def runFilesIn : List Path → Deed σ Bool
  | [] => return true
  | path :: rest => do
    let record ← inspectIn w s root path
    let passed ← w.say (Report.on path.text s.limits record)
    let others ← runFilesIn rest
    return passed && others

/-- What is done once the sources are read. -/
def runResolverIn (resolver : Resolver) : Deed σ Bool := do
  w.say ((IgnorePatterns.rejected s.ignoreLinesMatching).forM warn)
  let top ← w.lookThrough
  let passed ← runFilesIn w s root (resolver.resolve top)
  w.say do
    if !passed then conclude s
    return passed

/-- Checks the files that the settings select, and says whether all passed. -/
def runIn : Deed σ Bool := do
  if s.inputs.isEmpty then Deed.ofResult (.error noInputs)
  let resolver ← .ofResult (Resolver.ofSources root s.inputs s.excludes)
  runResolverIn w s root resolver

variable {w s root}

theorem runIn_of_no_inputs (hin : s.inputs = []) : runIn w s root = .ofResult (.error noInputs) := by
  have hinputs : s.inputs.isEmpty = true := List.isEmpty_iff.mpr hin
  unfold runIn
  rw [if_pos hinputs]
  rfl

theorem runIn_of_ofSources_error {fault : Fault} (hin : s.inputs ≠ [])
    (hr : Resolver.ofSources root s.inputs s.excludes = .error fault) :
    runIn w s root = .ofResult (.error fault) := by
  have hinputs : ¬ s.inputs.isEmpty = true := fun h => hin (List.isEmpty_iff.mp h)
  unfold runIn
  rw [if_neg hinputs, hr]
  rfl

theorem runIn_of_ofSources {r : Resolver} (hin : s.inputs ≠ [])
    (hr : Resolver.ofSources root s.inputs s.excludes = .ok r) :
    runIn w s root = runResolverIn w s root r := by
  have hinputs : ¬ s.inputs.isEmpty = true := fun h => hin (List.isEmpty_iff.mp h)
  unfold runIn
  rw [if_neg hinputs, hr]
  rfl

end Check

/-! ### The world of a timeline -/

/-- The world that a timeline and some outputs make up.  Its state counts the files that were opened, which
is the turn of the next one. -/
def Timeline.world {σ : Type} (tree : Timeline) (offer : σ → Channel → String → σ × Option String) :
    World (σ × Nat) where
  offer d channel text := (((offer d.1 channel text).1, d.2), (offer d.1 channel text).2)
  survey d := (d, tree.atStart)
  openFile d way := ((d.1, d.2 + 1), (tree.atTurn d.2).file? way)

namespace Transcript

variable {σ α β : Type} {offer : σ → Channel → String → σ × Option String}

theorem offerAll_append (d : σ) (texts more : List (Channel × String)) :
    offerAll offer d (texts ++ more) =
      match offerAll offer d texts with
      | (d, none) => offerAll offer d more
      | (d, some reason) => (d, some reason) := by
  induction texts generalizing d with
  | nil => rfl
  | cons w texts ih =>
      obtain ⟨channel, text⟩ := w
      rw [List.cons_append, offerAll, offerAll]
      cases h : offer d channel text with
      | mk d refusal =>
          cases refusal with
          | none => exact ih d
          | some reason => rfl

theorem playOn_bind (t : Transcript α) (next : α → Transcript β) (d : σ) :
    (t >>= next).playOn offer d =
      match t.playOn offer d with
      | (d, .ok a) => (next a).playOn offer d
      | (d, .error fault) => (d, .error fault) := by
  cases h : t.result with
  | ok a =>
      rw [bind_eq_of_ok h]
      unfold playOn
      rw [offerAll_append, h]
      cases offerAll offer d t.texts with
      | mk d refusal => cases refusal <;> rfl
  | error fault =>
      rw [bind_eq_of_error h]
      unfold playOn
      rw [h]
      cases offerAll offer d t.texts with
      | mk d refusal => cases refusal <;> rfl

end Transcript

namespace Deed

variable {σ α β : Type} (offer : σ → Channel → String → σ × Option String)

/-- A deed that begins in a turn does what a transcript does when it is played, and unless it fails, it ends
in another turn. -/
def Follows (deed : Deed (σ × Nat) α) (t : Transcript α) (turn next : Nat) : Prop :=
  ∀ d, ∃ reached, deed (d, turn) = (((t.playOn offer d).1, reached), (t.playOn offer d).2) ∧
    ∀ a, (t.playOn offer d).2 = .ok a → reached = next

variable {offer} {tree : Timeline} {turn middle next : Nat}

theorem follows_pure (a : α) (turn : Nat) :
    (pure a : Deed (σ × Nat) α).Follows offer (pure a) turn turn :=
  fun _ => ⟨turn, rfl, fun _ _ => rfl⟩

theorem offerAll_world (d : σ) (turn : Nat) (texts : List (Channel × String)) :
    Transcript.offerAll (tree.world offer).offer (d, turn) texts =
      (((Transcript.offerAll offer d texts).1, turn), (Transcript.offerAll offer d texts).2) := by
  induction texts generalizing d with
  | nil => rfl
  | cons w texts ih =>
      obtain ⟨channel, text⟩ := w
      rw [Transcript.offerAll, Transcript.offerAll, Timeline.world]
      dsimp only
      cases h : offer d channel text with
      | mk d refusal =>
          cases refusal with
          | none => exact ih d
          | some reason => rfl

theorem follows_say (t : Transcript α) (turn : Nat) :
    ((tree.world offer).say t).Follows offer t turn turn := by
  refine fun d => ⟨turn, ?_, fun _ _ => rfl⟩
  unfold World.say Transcript.playOn
  rw [offerAll_world]
  cases Transcript.offerAll offer d t.texts with
  | mk d refusal => cases refusal <;> rfl

/-- What follows one after another follows in all. -/
theorem Follows.bind {deed : Deed (σ × Nat) α} {t : Transcript α} {deeds : α → Deed (σ × Nat) β}
    {ts : α → Transcript β} (h : deed.Follows offer t turn middle)
    (hnext : ∀ a, (deeds a).Follows offer (ts a) middle next) :
    (deed >>= deeds).Follows offer (t >>= ts) turn next := by
  intro d
  obtain ⟨reached, hdeed, hreached⟩ := h d
  show ∃ last, Deed.bind deed deeds (d, turn) = _ ∧ _
  rw [Deed.bind, hdeed, Transcript.playOn_bind]
  cases hplay : t.playOn offer d with
  | mk d result =>
      rw [hplay] at hreached
      cases result with
      | ok a =>
          obtain rfl := hreached a rfl
          exact hnext a d
      | error fault => exact ⟨reached, rfl, nofun⟩

end Deed

namespace Check

variable {σ : Type} {offer : σ → Channel → String → σ × Option String} {tree : Timeline}

theorem inspect_eq_inspectFile (s : Settings) (root : String) (top : Tree) (path : Path) :
    inspect s root top path = inspectFile s root path (top.file? (Path.stepsFrom root path)) := by
  unfold inspect
  cases top.file? (Path.stepsFrom root path) <;> rfl

theorem follows_inspectIn (s : Settings) (root : String) (path : Path) (turn : Nat) :
    (inspectIn (tree.world offer) s root path).Follows offer
      (.ofResult (inspect s root (tree.atTurn turn) path)) turn (turn + 1) := by
  refine fun d => ⟨turn + 1, ?_, fun _ _ => rfl⟩
  rw [inspect_eq_inspectFile]
  rfl

variable (offer tree)

theorem follows_runFilesIn (s : Settings) (root : String) (paths : List Path) (turn : Nat) :
    (runFilesIn (tree.world offer) s root paths).Follows offer (runFiles s root tree.atTurn turn paths)
      turn (turn + paths.length) := by
  induction paths generalizing turn with
  | nil => exact Deed.follows_pure true turn
  | cons path paths ih =>
      rw [List.length_cons, Nat.add_comm paths.length, ← Nat.add_assoc]
      exact (follows_inspectIn s root path turn).bind fun record =>
        (Deed.follows_say (Report.on path.text s.limits record) (turn + 1)).bind fun passed =>
          (ih (turn + 1)).bind fun others => Deed.follows_pure (passed && others) _

theorem follows_runResolverIn (s : Settings) (root : String) (r : Resolver) :
    (runResolverIn (tree.world offer) s root r).Follows offer
      (runResolved s root tree.atTurn (r.resolve tree.atStart)) 0 (r.resolve tree.atStart).length := by
  have hfiles := follows_runFilesIn offer tree s root (r.resolve tree.atStart) 0
  rw [Nat.zero_add] at hfiles
  exact (Deed.follows_say _ 0).bind fun _ => hfiles.bind fun _ => Deed.follows_say _ _

/-- **A transcript played on outputs is the check that is done act by act** with these outputs and the files
as they are when they have their turn. -/
theorem runIn_world (s : Settings) (root : String) (tree : Timeline)
    (offer : σ → Channel → String → σ × Option String) (d : σ) :
    ∃ opened, runIn (tree.world offer) s root (d, 0) =
      ((((run s root tree).playOn offer d).1, opened), ((run s root tree).playOn offer d).2) := by
  by_cases hin : s.inputs = []
  · rw [runIn_of_no_inputs hin, run_of_no_inputs hin]
    exact ⟨0, rfl⟩
  cases hr : Resolver.ofSources root s.inputs s.excludes with
  | error fault =>
      rw [runIn_of_ofSources_error hin hr, run_of_ofSources_error hin hr]
      exact ⟨0, rfl⟩
  | ok r =>
      obtain ⟨opened, hrun, -⟩ := follows_runResolverIn offer tree s root r d
      rw [runIn_of_ofSources hin hr, run_of_ofSources hin hr]
      exact ⟨opened, hrun⟩

end Check

end TextLimits
