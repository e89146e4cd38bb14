import TextLimits.Proofs.Path
import TextLimits.Proofs.Tree.WellFormed

/-! # Ways through a tree

`Leads top place way k target` says that a way leads from a place to a target and meets `k` links.
Following a way with a bound on the links is the same relation (`followAtMost_eq_some_iff`), so a way
can be taken in parts (`Leads.append`, `Leads.split`), and names that lead down through directories can be put
behind any way (`find?_append_names`). -/

namespace TextLimits.Tree

variable {top : Tree}

/-! ### The relation -/

/-- The place that a link in a directory is followed from. -/
def linkStart (place : List String) (target : String) : List String :=
  if Path.isAbsolute target then [] else place

/-- A tree that is no link. -/
def NoLink (t : Tree) : Prop := ∀ target, t ≠ .link target

/-- A way from a place to a target, with the number of links met. -/
inductive Leads (top : Tree) : List String → List Segment → Nat → List String → Prop
  | done (place : List String) : Leads top place [] 0 place
  | current {place target : List String} {rest : List Segment} {k : Nat} :
      (top.at? place).any isDir = true → Leads top place rest k target →
      Leads top place (.current :: rest) k target
  | parent {place target : List String} {rest : List Segment} {k : Nat} :
      (top.at? place).any isDir = true → Leads top place.dropLast rest k target →
      Leads top place (.parent :: rest) k target
  | name {place target : List String} {rest : List Segment} {k : Nat} {name : String} {t : Tree} :
      top.at? (place ++ [name]) = some t → t.NoLink → Leads top (place ++ [name]) rest k target →
      Leads top place (.name name :: rest) k target
  | link {place target : List String} {rest : List Segment} {k : Nat} {name text : String} :
      top.at? (place ++ [name]) = some (.link text) →
      Leads top (linkStart place text) (Path.steps text ++ rest) k target →
      Leads top place (.name name :: rest) (k + 1) target

/-! ### Following a way -/

theorem followWith_of_link {viaLink : List String → List Segment → Option (List String)}
    {place : List String} {rest : List Segment} {name text : String}
    (h : top.at? (place ++ [name]) = some (.link text)) :
    followWith top viaLink place (.name name :: rest) =
      viaLink (linkStart place text) (Path.steps text ++ rest) := by
  rw [followWith, h]
  rfl

theorem followWith_of_noLink {viaLink : List String → List Segment → Option (List String)}
    {place : List String} {rest : List Segment} {name : String} {t : Tree}
    (h : top.at? (place ++ [name]) = some t) (ht : t.NoLink) :
    followWith top viaLink place (.name name :: rest) =
      followWith top viaLink (place ++ [name]) rest := by
  rw [followWith, h]
  cases t with
  | link text => exact absurd rfl (ht text)
  | file f => rfl
  | dir entries listed => rfl

theorem leads_of_followWith {viaLink : List String → List Segment → Option (List String)} {n : Nat}
    (hvia : ∀ place way target, viaLink place way = some target →
      ∃ k, k + 1 ≤ n ∧ Leads top place way k target)
    {place target : List String} {way : List Segment}
    (h : followWith top viaLink place way = some target) :
    ∃ k ≤ n, Leads top place way k target := by
  induction way generalizing place with
  | nil =>
      cases h
      exact ⟨0, Nat.zero_le n, .done _⟩
  | cons step rest ih =>
      cases step with
      | current =>
          rw [followWith] at h
          split at h
          · next hdir =>
            obtain ⟨k, hk, hl⟩ := ih h
            exact ⟨k, hk, .current hdir hl⟩
          · cases h
      | parent =>
          rw [followWith] at h
          split at h
          · next hdir =>
            obtain ⟨k, hk, hl⟩ := ih h
            exact ⟨k, hk, .parent hdir hl⟩
          · cases h
      | name name =>
          cases hat : top.at? (place ++ [name]) with
          | none =>
              rw [followWith, hat] at h
              cases h
          | some t =>
              by_cases ht : t.NoLink
              · rw [followWith_of_noLink hat ht] at h
                obtain ⟨k, hk, hl⟩ := ih h
                exact ⟨k, hk, .name hat ht hl⟩
              · obtain ⟨text, rfl⟩ : ∃ text, t = .link text := by
                  simpa [NoLink] using ht
                rw [followWith_of_link hat] at h
                obtain ⟨k, hk, hl⟩ := hvia _ _ _ h
                exact ⟨k + 1, hk, .link hat hl⟩

theorem leads_of_followAtMost {n : Nat} {place target : List String} {way : List Segment}
    (h : followAtMost top n place way = some target) : ∃ k ≤ n, Leads top place way k target := by
  induction n generalizing place way target with
  | zero => exact leads_of_followWith (fun _ _ _ h => by cases h) h
  | succ n ih =>
      refine leads_of_followWith (fun p w t ht => ?_) h
      obtain ⟨k, hk, hl⟩ := ih ht
      exact ⟨k, Nat.succ_le_succ hk, hl⟩

theorem followAtMost_current (n : Nat) (place : List String) (rest : List Segment) :
    followAtMost top n place (.current :: rest) =
      if (top.at? place).any isDir then followAtMost top n place rest else none := by
  cases n <;> rfl

theorem followAtMost_parent (n : Nat) (place : List String) (rest : List Segment) :
    followAtMost top n place (.parent :: rest) =
      if (top.at? place).any isDir then followAtMost top n place.dropLast rest else none := by
  cases n <;> rfl

theorem followAtMost_of_noLink (n : Nat) {place : List String} {rest : List Segment} {name : String}
    {t : Tree} (h : top.at? (place ++ [name]) = some t) (ht : t.NoLink) :
    followAtMost top n place (.name name :: rest) = followAtMost top n (place ++ [name]) rest := by
  cases n <;> exact followWith_of_noLink h ht

theorem Leads.followAtMost {place target : List String} {way : List Segment} {k n : Nat}
    (h : Leads top place way k target) (hn : k ≤ n) :
    Tree.followAtMost top n place way = some target := by
  induction h generalizing n with
  | done place => cases n <;> rfl
  | current hdir _ ih => rw [followAtMost_current, if_pos hdir, ih hn]
  | parent hdir _ ih => rw [followAtMost_parent, if_pos hdir, ih hn]
  | name hat ht _ ih => rw [followAtMost_of_noLink n hat ht, ih hn]
  | link hat _ ih =>
      cases n with
      | zero => exact absurd hn (Nat.not_succ_le_zero _)
      | succ n =>
          rw [Tree.followAtMost, followWith_of_link hat]
          exact ih (Nat.le_of_succ_le_succ hn)

/-- **Following a way is the relation**, with the links that it meets counted. -/
theorem followAtMost_eq_some_iff {n : Nat} {place target : List String} {way : List Segment} :
    followAtMost top n place way = some target ↔ ∃ k ≤ n, Leads top place way k target :=
  ⟨leads_of_followAtMost, fun ⟨_, hk, h⟩ => h.followAtMost hk⟩

theorem follow_eq_some_iff {way : List Segment} {target : List String} :
    top.follow way = some target ↔ ∃ k ≤ maxLinks, Leads top [] way k target :=
  followAtMost_eq_some_iff

/-! ### Ways in parts -/

theorem Leads.append {place mid target : List String} {a b : List Segment} {k₁ k₂ : Nat}
    (ha : Leads top place a k₁ mid) (hb : Leads top mid b k₂ target) :
    Leads top place (a ++ b) (k₁ + k₂) target := by
  induction ha with
  | done place => simpa using hb
  | current hdir _ ih => exact .current hdir (ih hb)
  | parent hdir _ ih => exact .parent hdir (ih hb)
  | name hat ht _ ih => exact .name hat ht (ih hb)
  | link hat _ ih =>
      have h := ih hb
      rw [List.append_assoc] at h
      rw [Nat.add_right_comm]
      exact .link hat h

theorem Leads.split {place target : List String} {a b : List Segment} {k : Nat}
    (h : Leads top place (a ++ b) k target) :
    ∃ mid k₁ k₂, Leads top place a k₁ mid ∧ Leads top mid b k₂ target ∧ k = k₁ + k₂ := by
  generalize hw : a ++ b = way at h
  induction h generalizing a with
  | done place =>
      obtain ⟨rfl, rfl⟩ := List.append_eq_nil_iff.mp hw
      exact ⟨place, 0, 0, .done _, .done _, rfl⟩
  | @current place target rest k hdir hrest ih =>
      rcases List.append_eq_cons_iff.mp hw with ⟨rfl, rfl⟩ | ⟨a, rfl, rfl⟩
      · exact ⟨place, 0, k, .done _, .current hdir hrest, (Nat.zero_add k).symm⟩
      · obtain ⟨mid, k₁, k₂, h₁, h₂, hk⟩ := ih rfl
        exact ⟨mid, k₁, k₂, .current hdir h₁, h₂, hk⟩
  | @parent place target rest k hdir hrest ih =>
      rcases List.append_eq_cons_iff.mp hw with ⟨rfl, rfl⟩ | ⟨a, rfl, rfl⟩
      · exact ⟨place, 0, k, .done _, .parent hdir hrest, (Nat.zero_add k).symm⟩
      · obtain ⟨mid, k₁, k₂, h₁, h₂, hk⟩ := ih rfl
        exact ⟨mid, k₁, k₂, .parent hdir h₁, h₂, hk⟩
  | @name place target rest k name t hat ht hrest ih =>
      rcases List.append_eq_cons_iff.mp hw with ⟨rfl, rfl⟩ | ⟨a, rfl, rfl⟩
      · exact ⟨place, 0, k, .done _, .name hat ht hrest, (Nat.zero_add k).symm⟩
      · obtain ⟨mid, k₁, k₂, h₁, h₂, hk⟩ := ih rfl
        exact ⟨mid, k₁, k₂, .name hat ht h₁, h₂, hk⟩
  | @link place target rest k name text hat hrest ih =>
      rcases List.append_eq_cons_iff.mp hw with ⟨rfl, rfl⟩ | ⟨a, rfl, rfl⟩
      · exact ⟨place, 0, k + 1, .done _, .link hat hrest, (Nat.zero_add _).symm⟩
      · obtain ⟨mid, k₁, k₂, h₁, h₂, hk⟩ := ih (List.append_assoc _ _ _)
        exact ⟨mid, k₁ + 1, k₂, .link hat h₁, h₂, by omega⟩

theorem Leads.noLinks_names {place names : List String} {u : Tree}
    (h : top.at? (place ++ names) = some u) (hu : u.NoLink) :
    Leads top place (names.map .name) 0 (place ++ names) := by
  induction names generalizing place with
  | nil =>
      rw [List.append_nil]
      exact .done place
  | cons name names ih =>
      rw [List.append_cons] at h ⊢
      have hmid : ∃ t, top.at? (place ++ [name]) = some t ∧ t.NoLink := by
        rw [at?_append] at h
        obtain ⟨t, ht, hsub⟩ := Option.bind_eq_some_iff.mp h
        refine ⟨t, ht, ?_⟩
        rintro text rfl
        cases names with
        | nil => exact hu text (Option.some.inj hsub).symm
        | cons => cases hsub
      obtain ⟨t, ht, hnl⟩ := hmid
      exact .name ht hnl (ih h)

theorem Leads.isDir_start {place target : List String} {s : Segment} {rest : List Segment} {k : Nat}
    (h : Leads top place (s :: rest) k target) : (top.at? place).any isDir = true := by
  have hname : ∀ {name : String} {t : Tree}, top.at? (place ++ [name]) = some t →
      (top.at? place).any isDir = true := by
    intro name t ht
    rw [at?_append] at ht
    obtain ⟨u, hu, hsub⟩ := Option.bind_eq_some_iff.mp ht
    rw [hu]
    exact isDir_of_at?_append hu (b := [name]) (by rw [at?_append, hu]; exact hsub) (by simp)
  cases h with
  | current hdir _ => exact hdir
  | parent hdir _ => exact hdir
  | name hat _ _ => exact hname hat
  | link hat _ => exact hname hat

theorem steps_ne_nil (text : String) : Path.steps text ≠ [] := by
  intro h
  unfold Path.steps at h
  dsimp only at h
  rw [List.map_eq_nil_iff, List.append_eq_nil_iff] at h
  have hne : Path.parts text ≠ [] := List.splitOn_ne_nil _ _
  rw [List.getLast?_eq_some_getLast hne] at h
  exact absurd h.2 (by simp)

theorem isDir_dropLast {place : List String} (h : (top.at? place).any isDir = true) :
    (top.at? place.dropLast).any isDir = true := by
  rcases List.eq_nil_or_concat place with rfl | ⟨init, name, hplace⟩
  · exact h
  · rw [List.concat_eq_append] at hplace
    subst hplace
    rw [List.dropLast_concat]
    rw [at?_append] at h
    cases hinit : top.at? init with
    | none => rw [hinit] at h; cases h
    | some t =>
        rw [hinit, Option.bind_some, at?_cons] at h
        cases he : t.child? name with
        | none => rw [he] at h; cases h
        | some u => simpa using isDir_of_child? he

theorem noLink_of_any_isDir {t : Option Tree} (h : t.any isDir = true) :
    ∃ u, t = some u ∧ u.NoLink := by
  cases t with
  | none => cases h
  | some u =>
      refine ⟨u, rfl, ?_⟩
      rintro text rfl
      cases h

theorem Leads.target_noLink {place target : List String} {way : List Segment} {k : Nat}
    (h : Leads top place way k target) :
    (way = [] ∧ target = place) ∨ ∃ u, top.at? target = some u ∧ u.NoLink := by
  induction h with
  | done place => exact .inl ⟨rfl, rfl⟩
  | current hdir _ ih =>
      rcases ih with ⟨-, rfl⟩ | h
      · exact .inr (noLink_of_any_isDir hdir)
      · exact .inr h
  | parent hdir _ ih =>
      rcases ih with ⟨-, rfl⟩ | h
      · exact .inr (noLink_of_any_isDir (isDir_dropLast hdir))
      · exact .inr h
  | name hat ht _ ih =>
      rcases ih with ⟨-, rfl⟩ | h
      · exact .inr ⟨_, hat, ht⟩
      · exact .inr h
  | link hat _ ih =>
      rcases ih with ⟨h, -⟩ | h
      · exact absurd (List.append_eq_nil_iff.mp h).1 (steps_ne_nil _)
      · exact .inr h

/-! ### What is found at the end -/

theorem find?_eq_some_iff {way : List Segment} {u : Tree} :
    top.find? way = some u ↔ ∃ target, top.follow way = some target ∧ top.at? target = some u :=
  Option.bind_eq_some_iff

theorem file?_eq_some_iff {way : List Segment} {f : File} :
    top.file? way = some f ↔ top.find? way = some (.file f) := by
  unfold file?
  cases h : top.find? way with
  | none => simp
  | some u => cases u <;> simp

theorem isSome_file?_iff {way : List Segment} :
    (top.file? way).isSome = true ↔ ∃ f, top.find? way = some (.file f) := by
  simp only [Option.isSome_iff_exists, file?_eq_some_iff]

theorem WellFormed.of_find? (hw : top.WellFormed) {way : List Segment} {t : Tree}
    (h : top.find? way = some t) : t.WellFormed := by
  obtain ⟨place, -, hat⟩ := find?_eq_some_iff.mp h
  exact (hw.at? hat).1

theorem WellFormed.of_leads (hw : top.WellFormed) {place target : List String} {way : List Segment}
    {k : Nat} (hplace : ∀ name ∈ place, IsEntryName name) (h : Leads top place way k target) :
    ∀ name ∈ target, IsEntryName name := by
  rcases h.target_noLink with ⟨-, rfl⟩ | ⟨u, hat, -⟩
  · exact hplace
  · exact (hw.at? hat).2

theorem WellFormed.of_follow (hw : top.WellFormed) {way : List Segment} {place : List String}
    (h : top.follow way = some place) : ∀ name ∈ place, IsEntryName name := by
  obtain ⟨k, -, hway⟩ := follow_eq_some_iff.mp h
  exact hw.of_leads (fun _ h => by cases h) hway

/-- Names that lead down through directories can be put behind a way. -/
theorem find?_append_names {way : List Segment} {names : List String} {t u : Tree}
    (ht : top.find? way = some t) (hu : t.at? names = some u) (hnl : u.NoLink) :
    top.find? (way ++ names.map .name) = some u := by
  obtain ⟨place, hplace, hat⟩ := find?_eq_some_iff.mp ht
  obtain ⟨k, hk, hway⟩ := follow_eq_some_iff.mp hplace
  have hsub : top.at? (place ++ names) = some u := by rw [at?_append, hat, Option.bind_some, hu]
  exact find?_eq_some_iff.mpr ⟨place ++ names,
    follow_eq_some_iff.mpr ⟨k + 0, hk, hway.append (.noLinks_names hsub hnl)⟩, hsub⟩

theorem exists_leads_of_find?_append {a b : List Segment} {u : Tree}
    (h : top.find? (a ++ b) = some u) :
    ∃ mid k target, top.follow a = some mid ∧ Leads top mid b k target ∧ top.at? target = some u := by
  obtain ⟨target, htarget, hu⟩ := find?_eq_some_iff.mp h
  obtain ⟨k, hk, hway⟩ := follow_eq_some_iff.mp htarget
  obtain ⟨mid, k₁, k₂, h₁, h₂, rfl⟩ := hway.split
  exact ⟨mid, k₂, target, follow_eq_some_iff.mpr ⟨k₁, by omega, h₁⟩, h₂, hu⟩

/-! ### Dots -/

theorem find?_concat_current {a : List Segment} {t : Tree} (h : top.find? (a ++ [.current]) = some t) :
    t.isDir = true ∧ ∃ place, top.follow a = some place ∧ top.at? place = some t := by
  obtain ⟨mid, k, target, hmid, hleads, hat⟩ := exists_leads_of_find?_append h
  cases hleads with
  | current hdir hrest =>
      cases hrest
      refine ⟨?_, mid, hmid, hat⟩
      rwa [hat] at hdir

theorem find?_concat_parent {a : List Segment} {t : Tree} (h : top.find? (a ++ [.parent]) = some t) :
    t.isDir = true := by
  obtain ⟨mid, k, target, -, hleads, hat⟩ := exists_leads_of_find?_append h
  cases hleads with
  | parent hdir hrest =>
      cases hrest
      have h := isDir_dropLast hdir
      rwa [hat] at h

theorem follow_append_of_current {a b : List Segment} {target : List String}
    (h : top.follow (a ++ .current :: b) = some target) : top.follow (a ++ b) = some target := by
  obtain ⟨k, hk, hway⟩ := follow_eq_some_iff.mp h
  obtain ⟨mid, k₁, k₂, h₁, h₂, rfl⟩ := hway.split
  cases h₂ with
  | current _ h₂ => exact follow_eq_some_iff.mpr ⟨k₁ + k₂, hk, h₁.append h₂⟩

/-- The dots in the last part of a way can be left out. -/
theorem follow_append_filter {a b : List Segment} {target : List String}
    (h : top.follow (a ++ b) = some target) :
    top.follow (a ++ b.filter (· ≠ .current)) = some target := by
  induction b generalizing a with
  | nil => exact h
  | cons s b ih =>
      by_cases hs : s = .current
      · subst hs
        rw [List.filter_cons_of_neg (by simp)]
        exact ih (follow_append_of_current h)
      · rw [List.filter_cons_of_pos (by simpa using hs), List.append_cons]
        rw [List.append_cons] at h
        exact ih h

/-- A dot makes no difference to a way where there is a directory. -/
theorem follow_append_current {a b : List Segment} {place : List String}
    (ha : top.follow a = some place) (hdir : (top.at? place).any isDir = true) :
    top.follow (a ++ .current :: b) = top.follow (a ++ b) := by
  apply Option.ext
  intro target
  constructor
  · exact follow_append_of_current
  · intro h
    obtain ⟨k, hk, hway⟩ := follow_eq_some_iff.mp h
    obtain ⟨mid, k₁, k₂, h₁, h₂, rfl⟩ := hway.split
    have hmid : top.follow a = some mid := follow_eq_some_iff.mpr ⟨k₁, by omega, h₁⟩
    rw [ha] at hmid
    cases hmid
    exact follow_eq_some_iff.mpr ⟨k₁ + k₂, hk, h₁.append (.current hdir h₂)⟩

theorem follow_append_current_of_find? {a b c : List Segment} {t : Tree}
    (h : top.find? (a ++ .current :: c) = some t) :
    top.follow (a ++ .current :: b) = top.follow (a ++ b) := by
  obtain ⟨mid, k, target, hmid, hleads, -⟩ := exists_leads_of_find?_append h
  cases hleads with
  | current hdir _ => exact follow_append_current hmid hdir

theorem find?_append_current {a b c : List Segment} {t : Tree}
    (h : top.find? (a ++ .current :: c) = some t) :
    top.find? (a ++ .current :: b) = top.find? (a ++ b) := by
  unfold find?
  rw [follow_append_current_of_find? h]

/-- What is found as a directory has a name, and the way to it ends in a dot. -/
theorem directory_of_find? {text : String} {t : Tree} (h : top.find? (Path.directory text) = some t) :
    Path.directory text = Path.steps text ++ [.current] := by
  unfold Path.directory at h ⊢
  by_cases hempty : text.isEmpty = true
  · rw [if_pos hempty] at h
    have hnone : top.find? [.name ""] = none := by
      cases top <;> rfl
    rw [hnone] at h
    cases h
  · exact if_neg hempty

/-- The way below a directory is that of the text which names it. -/
theorem find?_below {root : String} {t : Tree} (h : top.find? (Path.directory root) = some t)
    (segments : List Segment) :
    top.find? (Path.below root segments) = top.find? (Path.steps root ++ segments) := by
  by_cases hnil : segments = []
  · subst hnil
    have hdot := directory_of_find? h
    rw [hdot] at h
    rw [Path.below_nil, hdot, find?_append_current h]
  · rw [Path.below_of_ne_nil hnil]

theorem find?_steps_of_directory {text : String} {t : Tree}
    (h : top.find? (Path.directory text) = some t) : top.find? (Path.steps text) = some t := by
  rwa [← List.append_nil (Path.steps text), ← find?_below h, Path.below_nil]

theorem isDir_of_find?_directory {text : String} {t : Tree}
    (h : top.find? (Path.directory text) = some t) : t.isDir = true := by
  rw [directory_of_find? h] at h
  exact (find?_concat_current h).1

end TextLimits.Tree
