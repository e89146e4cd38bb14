import TextLimits.Glob

/-! # What a glob matches

The texts that a token accepts are given token by token (`Token.Accepts`), those of a list of tokens
as concatenations (`ListAccepts`).  The table of a token decides for every end piece of a text whether
it is accepted in front of what comes after (`Token.table_decides`), so a glob matches a path exactly if
its tokens accept the bytes of the path (`isMatch_iff`); two stars alone match everything. -/

namespace TextLimits.Glob

/-! ### The texts that tokens accept -/

mutual

/-- The texts that a token stands for. -/
def Token.Accepts : Token → List UInt8 → Prop
  | .literal c, u => u = String.utf8EncodeChar c
  | .any, u => ∃ b, b ≠ slash ∧ u = [b]
  | .star, u => slash ∉ u
  | .treePrefix, u => u = [] ∨ ∃ v, u = v ++ [slash]
  | .treeSuffix, u => ∃ v, u = slash :: v
  | .treeMiddle, u => u = [slash] ∨ ∃ v, u = slash :: (v ++ [slash])
  | .cls negated ranges, u => ∃ b, inClass negated ranges b = true ∧ u = [b]
  | .alternates branches, u =>
    (allBlank branches = true ∧ u = []) ∨ (allBlank branches = false ∧ SomeAccepts branches u)

/-- The texts that a list of tokens stands for, one after another. -/
def ListAccepts : List Token → List UInt8 → Prop
  | [], u => u = []
  | t :: rest, u => ∃ v w, u = v ++ w ∧ t.Accepts v ∧ ListAccepts rest w

/-- The texts of the branches that are not blank. -/
def SomeAccepts : List (List Token) → List UInt8 → Prop
  | [], _ => False
  | b :: rest, u => (isBlankList b = false ∧ ListAccepts b u) ∨ SomeAccepts rest u

end

theorem listAccepts_append {a b : List Token} {u : List UInt8} :
    ListAccepts (a ++ b) u ↔ ∃ v w, u = v ++ w ∧ ListAccepts a v ∧ ListAccepts b w := by
  induction a generalizing u with
  | nil =>
      constructor
      · intro h
        exact ⟨[], u, rfl, rfl, h⟩
      · rintro ⟨_, w, rfl, rfl, h⟩
        exact h
  | cons t a ih =>
      simp only [List.cons_append, ListAccepts, ih]
      constructor
      · rintro ⟨v, _, rfl, hv, x, y, rfl, hx, hy⟩
        exact ⟨v ++ x, y, (List.append_assoc v x y).symm, ⟨v, x, rfl, hv, hx⟩, hy⟩
      · rintro ⟨_, y, rfl, ⟨v, x, rfl, hv, hx⟩, hy⟩
        exact ⟨v, x ++ y, List.append_assoc v x y, hv, x, y, rfl, hx, hy⟩

theorem listAccepts_literals {text : List Char} {u : List UInt8} :
    ListAccepts (text.map .literal) u ↔ u = Utf8.encode text := by
  induction text generalizing u with
  | nil => rfl
  | cons c text ih =>
      simp only [List.map_cons, ListAccepts, Token.Accepts, ih]
      constructor
      · rintro ⟨_, _, rfl, rfl, rfl⟩
        rfl
      · rintro rfl
        exact ⟨_, _, rfl, rfl, rfl⟩

/-! ### Tables -/

namespace Table

/-- Whether a table says of every end piece of a text whether it has a property. -/
def Decides (P : List UInt8 → Prop) : List UInt8 → Table → Prop
  | [], k => ∃ a, k = [a] ∧ (a = true ↔ P [])
  | b :: text, k => ∃ a k', k = a :: k' ∧ (a = true ↔ P (b :: text)) ∧ Decides P text k'

variable {P Q : List UInt8 → Prop} {text : List UInt8} {k l : Table}

theorem Decides.congr (h : Decides P text k) (hPQ : ∀ u, P u ↔ Q u) : Decides Q text k := by
  induction text generalizing k with
  | nil =>
      obtain ⟨a, rfl, ha⟩ := h
      exact ⟨a, rfl, ha.trans (hPQ _)⟩
  | cons b text ih =>
      obtain ⟨a, k, rfl, ha, hk⟩ := h
      exact ⟨a, k, rfl, ha.trans (hPQ _), ih hk⟩

theorem Decides.headD (h : Decides P text k) : k.headD false = true ↔ P text := by
  cases text with
  | nil =>
      obtain ⟨a, rfl, ha⟩ := h
      exact ha
  | cons b text =>
      obtain ⟨a, k, rfl, ha, -⟩ := h
      exact ha

theorem decides_atEnd (text : List UInt8) : Decides (fun u => u = []) text (atEnd text) := by
  induction text with
  | nil => exact ⟨true, rfl, by simp⟩
  | cons b text ih => exact ⟨false, atEnd text, rfl, by simp, ih⟩

theorem decides_false (h : Decides P text k) : Decides (fun _ => False) text (k.map fun _ => false) := by
  induction text generalizing k with
  | nil =>
      obtain ⟨a, rfl, -⟩ := h
      exact ⟨false, rfl, by simp⟩
  | cons b text ih =>
      obtain ⟨a, k, rfl, -, hk⟩ := h
      exact ⟨false, _, rfl, by simp, ih hk⟩

theorem Decides.or (h : Decides P text k) (h' : Decides Q text l) :
    Decides (fun u => P u ∨ Q u) text (k.or l) := by
  induction text generalizing k l with
  | nil =>
      obtain ⟨a, rfl, ha⟩ := h
      obtain ⟨a', rfl, ha'⟩ := h'
      exact ⟨a || a', rfl, by rw [Bool.or_eq_true, ha, ha']⟩
  | cons b text ih =>
      obtain ⟨a, k, rfl, ha, hk⟩ := h
      obtain ⟨a', l, rfl, ha', hl⟩ := h'
      exact ⟨a || a', Table.or k l, rfl, by rw [Bool.or_eq_true, ha, ha'], ih hk hl⟩

theorem Decides.one (p : UInt8 → Bool) (h : Decides P text k) :
    Decides (fun u => ∃ b v, u = b :: v ∧ p b = true ∧ P v) text (Table.one p text k) := by
  induction text generalizing k with
  | nil =>
      obtain ⟨a, rfl, -⟩ := h
      exact ⟨false, rfl, by simp⟩
  | cons b text ih =>
      obtain ⟨a, k, rfl, -, hk⟩ := h
      refine ⟨p b && k.headD false, Table.one p text k, rfl, ?_, ih hk⟩
      rw [Bool.and_eq_true, hk.headD]
      constructor
      · rintro ⟨hb, hP⟩
        exact ⟨b, text, rfl, hb, hP⟩
      · rintro ⟨b', v, heq, hb, hP⟩
        cases heq
        exact ⟨hb, hP⟩

theorem Decides.many (p : UInt8 → Bool) (h : Decides P text k) :
    Decides (fun u => ∃ v w, u = v ++ w ∧ (∀ b ∈ v, p b = true) ∧ P w) text
      (Table.many p text k) := by
  induction text generalizing k with
  | nil =>
      obtain ⟨a, rfl, ha⟩ := h
      refine ⟨a, rfl, ha.trans ⟨fun hP => ⟨[], [], rfl, by simp, hP⟩, ?_⟩⟩
      rintro ⟨v, w, heq, -, hP⟩
      obtain ⟨rfl, rfl⟩ := List.append_eq_nil_iff.mp heq.symm
      exact hP
  | cons b text ih =>
      obtain ⟨a, k, rfl, ha, hk⟩ := h
      refine ⟨_, Table.many p text k, rfl, ?_, ih hk⟩
      rw [Bool.or_eq_true, Bool.and_eq_true, ha, (ih hk).headD]
      constructor
      · rintro (hP | ⟨hb, v, w, rfl, hv, hP⟩)
        · exact ⟨[], b :: text, rfl, by simp, hP⟩
        · refine ⟨b :: v, w, rfl, ?_, hP⟩
          intro c hc
          rcases List.mem_cons.mp hc with rfl | hc
          · exact hb
          · exact hv c hc
      · rintro ⟨v, w, heq, hv, hP⟩
        rcases List.cons_eq_append_iff.mp heq with ⟨rfl, rfl⟩ | ⟨v, rfl, rfl⟩
        · exact .inl hP
        · exact .inr ⟨hv b List.mem_cons_self, v, w, rfl,
            fun c hc => hv c (List.mem_cons_of_mem _ hc), hP⟩

theorem Decides.bytes (bytes : List UInt8) (h : Decides P text k) :
    Decides (fun u => ∃ v, u = bytes ++ v ∧ P v) text
      (bytes.foldr (fun b k => Table.one (· == b) text k) k) := by
  induction bytes with
  | nil => exact h.congr fun u => by simp
  | cons b bytes ih =>
      refine (ih.one (· == b)).congr fun u => ?_
      constructor
      · rintro ⟨b', _, rfl, hb, v, rfl, hP⟩
        rw [beq_iff_eq] at hb
        subst hb
        exact ⟨v, rfl, hP⟩
      · rintro ⟨v, rfl, hP⟩
        exact ⟨b, bytes ++ v, rfl, beq_self_eq_true b, v, rfl, hP⟩

end Table

/-! ### Tables of tokens -/

variable {text : List UInt8} {k : Table} {P : List UInt8 → Prop}

theorem Table.Decides.nothing (h : Decides P text k) :
    Decides (fun u => ∃ v w, u = v ++ w ∧ v = [] ∧ P w) text k := by
  refine h.congr fun u => ?_
  constructor
  · intro hP
    exact ⟨[], u, rfl, rfl, hP⟩
  · rintro ⟨_, w, rfl, rfl, hP⟩
    exact hP

theorem Table.Decides.upToSlash (h : Decides P text k) :
    Decides (fun u => ∃ v w, u = v ++ [slash] ++ w ∧ P w) text
      (Table.many (fun _ => true) text (Table.one (· == slash) text k)) := by
  refine ((h.one _).many _).congr fun u => ?_
  constructor
  · rintro ⟨v, _, rfl, -, b, w, rfl, hb, hP⟩
    rw [beq_iff_eq] at hb
    subst hb
    exact ⟨v, w, by simp, hP⟩
  · rintro ⟨v, w, rfl, hP⟩
    exact ⟨v, slash :: w, by simp, fun _ _ => rfl, slash, w, rfl, beq_self_eq_true _, hP⟩

mutual

/-- The table of a token in front of a table decides what the token in front of the table's property
accepts. -/
theorem Token.table_decides (t : Token) {k : Table} {P : List UInt8 → Prop}
    (h : Table.Decides P text k) :
    Table.Decides (fun u => ∃ v w, u = v ++ w ∧ t.Accepts v ∧ P w) text (t.table text k) := by
  cases t with
  | literal c =>
      refine (h.bytes (String.utf8EncodeChar c)).congr fun u => ?_
      constructor
      · rintro ⟨w, rfl, hP⟩
        exact ⟨_, w, rfl, rfl, hP⟩
      · rintro ⟨_, w, rfl, rfl, hP⟩
        exact ⟨w, rfl, hP⟩
  | any =>
      refine (h.one _).congr fun u => ?_
      constructor
      · rintro ⟨b, w, rfl, hb, hP⟩
        exact ⟨[b], w, rfl, ⟨b, by simpa using hb, rfl⟩, hP⟩
      · rintro ⟨_, w, rfl, ⟨b, hb, rfl⟩, hP⟩
        exact ⟨b, w, rfl, by simpa using hb, hP⟩
  | star =>
      refine (h.many _).congr fun u => ?_
      have hslash : ∀ v : List UInt8, (∀ b ∈ v, (b != slash) = true) ↔ slash ∉ v := by
        intro v
        simp only [bne_iff_ne]
        exact ⟨fun h hmem => h _ hmem rfl, fun h b hb hbs => h (hbs ▸ hb)⟩
      simp only [Token.Accepts, hslash]
  | treePrefix =>
      refine (h.or h.upToSlash).congr fun u => ?_
      constructor
      · rintro (hP | ⟨v, w, rfl, hP⟩)
        · exact ⟨[], u, rfl, .inl rfl, hP⟩
        · exact ⟨v ++ [slash], w, rfl, .inr ⟨v, rfl⟩, hP⟩
      · rintro ⟨_, w, rfl, rfl | ⟨v, rfl⟩, hP⟩
        · exact .inl hP
        · exact .inr ⟨v, w, rfl, hP⟩
  | treeSuffix =>
      refine ((h.many _).one _).congr fun u => ?_
      constructor
      · rintro ⟨b, _, rfl, hb, v, w, rfl, -, hP⟩
        rw [beq_iff_eq] at hb
        subst hb
        exact ⟨slash :: v, w, rfl, ⟨v, rfl⟩, hP⟩
      · rintro ⟨_, w, rfl, ⟨v, rfl⟩, hP⟩
        exact ⟨slash, v ++ w, rfl, beq_self_eq_true _, v, w, rfl, fun _ _ => rfl, hP⟩
  | treeMiddle =>
      refine ((h.or h.upToSlash).one _).congr fun u => ?_
      constructor
      · rintro ⟨b, u, rfl, hb, hP | ⟨v, w, rfl, hP⟩⟩
        · rw [beq_iff_eq] at hb
          subst hb
          exact ⟨[slash], u, rfl, .inl rfl, hP⟩
        · rw [beq_iff_eq] at hb
          subst hb
          exact ⟨slash :: (v ++ [slash]), w, rfl, .inr ⟨v, rfl⟩, hP⟩
      · rintro ⟨_, w, rfl, rfl | ⟨v, rfl⟩, hP⟩
        · exact ⟨slash, w, rfl, beq_self_eq_true _, .inl hP⟩
        · exact ⟨slash, v ++ [slash] ++ w, by simp, beq_self_eq_true _, .inr ⟨v, w, rfl, hP⟩⟩
  | cls negated ranges =>
      refine (h.one _).congr fun u => ?_
      constructor
      · rintro ⟨b, w, rfl, hb, hP⟩
        exact ⟨[b], w, rfl, ⟨b, hb, rfl⟩, hP⟩
      · rintro ⟨_, w, rfl, ⟨b, hb, rfl⟩, hP⟩
        exact ⟨b, w, rfl, hb, hP⟩
  | alternates branches =>
      rw [Token.table]
      cases hblank : allBlank branches with
      | true =>
          rw [if_pos rfl]
          refine h.nothing.congr fun u => ?_
          simp [Token.Accepts, hblank]
      | false =>
          rw [if_neg Bool.false_ne_true]
          refine (branchesTable_decides branches h).congr fun u => ?_
          simp [Token.Accepts, hblank]

theorem listTable_decides (tokens : List Token) {k : Table} {P : List UInt8 → Prop}
    (h : Table.Decides P text k) :
    Table.Decides (fun u => ∃ v w, u = v ++ w ∧ ListAccepts tokens v ∧ P w) text
      (listTable text tokens k) := by
  cases tokens with
  | nil =>
      rw [listTable]
      exact h.nothing
  | cons t rest =>
      rw [listTable]
      refine (Token.table_decides t (listTable_decides rest h)).congr fun u => ?_
      simp only [ListAccepts]
      constructor
      · rintro ⟨v, _, rfl, hv, x, y, rfl, hx, hP⟩
        exact ⟨v ++ x, y, (List.append_assoc v x y).symm, ⟨v, x, rfl, hv, hx⟩, hP⟩
      · rintro ⟨_, y, rfl, ⟨v, x, rfl, hv, hx⟩, hP⟩
        exact ⟨v, x ++ y, List.append_assoc v x y, hv, x, y, rfl, hx, hP⟩

theorem branchesTable_decides (branches : List (List Token)) {k : Table} {P : List UInt8 → Prop}
    (h : Table.Decides P text k) :
    Table.Decides (fun u => ∃ v w, u = v ++ w ∧ SomeAccepts branches v ∧ P w) text
      (branchesTable text branches k) := by
  cases branches with
  | nil =>
      rw [branchesTable]
      refine (Table.decides_false h).congr fun u => ?_
      simp [SomeAccepts]
  | cons b rest =>
      rw [branchesTable]
      have hrest := branchesTable_decides rest h
      cases hblank : isBlankList b with
      | true =>
          rw [if_pos rfl]
          refine hrest.congr fun u => ?_
          simp [SomeAccepts, hblank]
      | false =>
          rw [if_neg Bool.false_ne_true]
          refine ((listTable_decides b h).or hrest).congr fun u => ?_
          simp only [SomeAccepts, hblank, true_and]
          constructor
          · rintro (⟨v, w, rfl, hv, hP⟩ | ⟨v, w, rfl, hv, hP⟩)
            · exact ⟨v, w, rfl, .inl hv, hP⟩
            · exact ⟨v, w, rfl, .inr hv, hP⟩
          · rintro ⟨v, w, rfl, hv | hv, hP⟩
            · exact .inl ⟨v, w, rfl, hv, hP⟩
            · exact .inr ⟨v, w, rfl, hv, hP⟩

end

/-! ### Globs -/

theorem parse_eq_ok_iff {source : String} {g : Glob} :
    parse source = .ok g ↔ g.source = source ∧ tokens? source.toList = some g.tokens := by
  unfold parse
  cases htokens : tokens? source.toList with
  | none => simp
  | some tokens =>
      constructor
      · rintro h
        cases h
        exact ⟨rfl, rfl⟩
      · rintro ⟨rfl, h⟩
        cases h
        rfl

/-- Tokens match a text as a whole if they accept it, and two stars alone match everything. -/
theorem matchesBytes_iff (tokens : List Token) (text : List UInt8) :
    matchesBytes tokens text = true ↔ tokens = [.treePrefix] ∨ ListAccepts tokens text := by
  have h := (listTable_decides tokens (Table.decides_atEnd text)).headD
  have hlist : (∃ v w, text = v ++ w ∧ ListAccepts tokens v ∧ w = []) ↔ ListAccepts tokens text := by
    simp
  rw [hlist] at h
  unfold matchesBytes
  split
  · simp
  · next hne =>
    rw [h]
    constructor
    · exact .inr
    · rintro (heq | hacc)
      · exact absurd heq hne
      · exact hacc

theorem isMatch_iff (g : Glob) (path : String) :
    g.isMatch path = true ↔
      g.tokens = [.treePrefix] ∨ ListAccepts g.tokens (Utf8.encode path.toList) :=
  matchesBytes_iff _ _

end TextLimits.Glob
