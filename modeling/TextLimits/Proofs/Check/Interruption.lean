import TextLimits.Proofs.Check

/-! # Checks that break off at a file

The first file that cannot be read when it has its turn ends the check, whether it is gone by then or
reading it fails after any part of its content (`Check.run_stops_at_unreadable`). -/

namespace TextLimits

theorem Resolver.inputs_ne_nil {root : String} {inputs excludes : List String} {r : Resolver}
    {top : Tree} {path : Path} (hr : ofSources root inputs excludes = .ok r)
    (h : path ∈ r.resolve top) : inputs ≠ [] := by
  rintro rfl
  obtain ⟨-, -, hinputs⟩ := ofSources_eq_ok_iff.mp hr
  obtain ⟨p, hp, -⟩ := mem_resolve.mp h
  rw [List.forall₂_nil_left_iff.mp hinputs] at hp
  cases hp

namespace Check

variable {s : Settings} {root : String}

theorem fails_runResolved {trees : Nat → Tree} {before after : List Path} {path : Path}
    (hbefore : ∀ q ∈ before.zipIdx, Readable (trees q.2) root q.1)
    (hpath : ¬ Readable (trees before.length) root path) :
    (runResolved s root trees (before ++ path :: after)).Fails
      (.fileRead (Path.joinText root path.text))
      (String.join (blocks s root trees 0 before)) (String.join (s.notCompiling.map warning)) := by
  have hfile : ¬ Readable (trees (0 + before.length)) root path := by rwa [Nat.zero_add]
  have hrun : (runResolved s root trees (before ++ path :: after)).Fails
      (.fileRead (Path.joinText root path.text))
      ("" ++ String.join (blocks s root trees 0 before))
      (String.join (s.notCompiling.map warning) ++ "") :=
    (gives_warnings s).bind_fails (fails_runFiles hbefore hfile).bind
  rwa [String.empty_append, String.append_empty] at hrun

/-- **A file that fails midway stops the run cleanly.**  If a file is the first one that cannot be read
to its end when it has its turn, the run ends with the fault that names it.  The first output then
holds the reports on the files before it and nothing else, and the second one the warnings on ignore
patterns and nothing else, whether or not all files before it have passed. -/
theorem run_stops_at_unreadable {tree : Timeline} {r : Resolver} {i : Nat} {path : Path}
    (hr : Resolver.ofSources root s.inputs s.excludes = .ok r)
    (hpath : (r.resolve tree.atStart)[i]? = some path)
    (hbefore : ∀ j < i, ∀ p, (r.resolve tree.atStart)[j]? = some p →
      Readable (tree.atTurn j) root p)
    (hunreadable : ¬ Readable (tree.atTurn i) root path) :
    (run s root tree).play .unlimited =
      (⟨Sink.holding (String.join (blocks s root tree.atTurn 0 ((r.resolve tree.atStart).take i))),
        Sink.holding (String.join (s.notCompiling.map warning))⟩,
        .error (.fileRead (Path.joinText root path.text))) := by
  have hin : s.inputs ≠ [] := Resolver.inputs_ne_nil hr (List.mem_of_getElem? hpath)
  obtain ⟨hi, hget⟩ := List.getElem?_eq_some_iff.mp hpath
  have hlength : ((r.resolve tree.atStart).take i).length = i :=
    List.length_take_of_le (Nat.le_of_lt hi)
  have hsplit : r.resolve tree.atStart =
      (r.resolve tree.atStart).take i ++ path :: (r.resolve tree.atStart).drop (i + 1) := by
    rw [← hget, ← List.drop_eq_getElem_cons hi, List.take_append_drop]
  have htaken : ∀ q ∈ ((r.resolve tree.atStart).take i).zipIdx, Readable (tree.atTurn q.2) root q.1 := by
    rintro ⟨p, j⟩ hq
    have hj := List.mem_zipIdx_iff_getElem?.mp hq
    rw [List.getElem?_take] at hj
    split_ifs at hj with hlt
    exact hbefore j hlt p hj
  rw [run_of_ofSources hin hr]
  apply Transcript.Fails.play
  conv in runResolved _ _ _ _ => rw [hsplit]
  refine fails_runResolved htaken ?_
  rwa [hlength]

/-- The sample tree, in which reading the first file fails on its second line from the second turn
on. -/
def breakingOff : Timeline where
  atStart := Tree.sample
  atTurn
    | 0 => Tree.sample
    | _ + 1 => .dir [("alias", .link "src"), ("src", .dir [("a.rs", .file ⟨[97, 98, 10, 99], true⟩)])]

/-- The file has failed under its first path when reading it fails under the second. -/
theorem run_stops_at_unreadable_sample :
    (run sample "/" breakingOff).play .unlimited =
      (⟨Sink.holding (sampleBlock "src/a.rs"), Sink.holding (warning "(")⟩,
        .error (.fileRead "/alias/a.rs")) := by
  have hresolve : Resolver.sample.resolve breakingOff.atStart =
      [⟨false, [.name "src", .name "a.rs"]⟩, ⟨false, [.name "alias", .name "a.rs"]⟩] :=
    Resolver.resolve_sample
  have hbefore : ∀ j < 1, ∀ p, (Resolver.sample.resolve breakingOff.atStart)[j]? = some p →
      Readable (breakingOff.atTurn j) "/" p := by
    intro j hj p hp
    obtain rfl : j = 0 := Nat.lt_one_iff.mp hj
    exact ⟨_, (linesAt_sample (List.mem_of_getElem? hp)).1, rfl⟩
  have hunreadable : ¬ Readable (breakingOff.atTurn 1) "/" ⟨false, [.name "alias", .name "a.rs"]⟩ := by
    rintro ⟨file, hfile, hread⟩
    have hbreaks : (breakingOff.atTurn 1).file?
        (Path.stepsFrom "/" ⟨false, [.name "alias", .name "a.rs"]⟩) =
          some ⟨[97, 98, 10, 99], true⟩ := by cbv
    rw [hbreaks] at hfile
    cases hfile
    cases hread
  have hplay := run_stops_at_unreadable (s := sample) (i := 1) Resolver.ofSources_sample
    (by rw [hresolve]; rfl) hbefore hunreadable
  have hlines : linesAt (breakingOff.atTurn 0) "/" ⟨false, [.name "src", .name "a.rs"]⟩ =
      [['a', 'b']] := by cbv
  have hblocks : blocks sample "/" breakingOff.atTurn 0
      ((Resolver.sample.resolve breakingOff.atStart).take 1) = [sampleBlock "src/a.rs"] := by
    rw [hresolve]
    show [sample.block _ (linesAt (breakingOff.atTurn 0) "/" _)] = _
    rw [hlines, block_sample]
    rfl
  have hpath : Path.joinText "/" (Path.mk false [.name "alias", .name "a.rs"]).text =
      "/alias/a.rs" := by decide
  rw [hplay, hblocks, hpath, patterns_sample.2]
  simp only [List.map_cons, List.map_nil, String.join_cons, String.join_nil, String.append_empty]

end Check

end TextLimits
