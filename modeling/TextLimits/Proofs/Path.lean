import Mathlib.Tactic.SplitIfs
import TextLimits.Proofs.Tree.WellFormed

/-! # Texts of paths

The segments of a path that was read from a text are dots or names that an entry can have
(`isProper_of_mem_ofText`), and so are those of a way (`isProper_of_mem_steps`).  The text of a
relative path has the texts of its segments for its parts (`parts_text`), so a path of such segments is
known by its text (`text_inj`), and read back from it if no segment is a dot (`ofText_text`).  The way
of a path joined to a root goes through the root and then through the path (`steps_joinText`). -/

namespace TextLimits

/-! ### Parts -/

theorem mem_of_mem_splitOn {a c : Char} {text part : List Char} (h : part ∈ text.splitOn a)
    (hc : c ∈ part) : c ∈ text ∧ c ≠ a := by
  induction text generalizing part with
  | nil =>
      rw [List.splitOn_nil, List.mem_singleton] at h
      subst h
      cases hc
  | cons d text ih =>
      rw [List.splitOn_cons_eq_if_modifyHead] at h
      split at h
      · rcases List.mem_cons.mp h with rfl | h
        · cases hc
        · exact ⟨List.mem_cons_of_mem _ (ih h hc).1, (ih h hc).2⟩
      · next hd =>
        cases hsplit : text.splitOn a with
        | nil => exact absurd hsplit (List.splitOn_ne_nil a text)
        | cons first parts =>
            rw [hsplit] at h ih
            rcases List.mem_cons.mp h with rfl | h
            · rcases List.mem_cons.mp hc with rfl | hc
              · exact ⟨List.mem_cons_self, fun heq => hd (beq_iff_eq.mpr heq)⟩
              · have hfirst := ih List.mem_cons_self hc
                exact ⟨List.mem_cons_of_mem _ hfirst.1, hfirst.2⟩
            · have hrest := ih (List.mem_cons_of_mem _ h) hc
              exact ⟨List.mem_cons_of_mem _ hrest.1, hrest.2⟩

theorem mem_intercalate {sep c : Char} {parts : List (List Char)}
    (h : c ∈ [sep].intercalate parts) : c = sep ∨ ∃ part ∈ parts, c ∈ part := by
  induction parts with
  | nil => cases h
  | cons part parts ih =>
      by_cases hne : parts = []
      · subst hne
        rw [List.intercalate_singleton] at h
        exact .inr ⟨part, List.mem_cons_self, h⟩
      · rw [List.intercalate_cons_of_ne_nil hne, List.append_assoc] at h
        rcases List.mem_append.mp h with h | h
        · exact .inr ⟨part, List.mem_cons_self, h⟩
        · rcases List.mem_cons.mp h with rfl | h
          · exact .inl rfl
          · rcases ih h with rfl | ⟨q, hq, hc⟩
            · exact .inl rfl
            · exact .inr ⟨q, List.mem_cons_of_mem _ hq, hc⟩

theorem intercalate_append {sep : Char} {a b : List (List Char)} (ha : a ≠ []) (hb : b ≠ []) :
    [sep].intercalate (a ++ b) = [sep].intercalate a ++ sep :: [sep].intercalate b := by
  induction a with
  | nil => exact absurd rfl ha
  | cons part a ih =>
      by_cases hne : a = []
      · subst hne
        rw [List.singleton_append, List.intercalate_cons_of_ne_nil hb, List.intercalate_singleton,
          List.append_assoc]
        rfl
      · rw [List.cons_append, List.intercalate_cons_of_ne_nil (by simp [hne]), ih hne,
          List.intercalate_cons_of_ne_nil hne]
        simp

theorem splitOn_inj {sep : Char} {a b : List Char} : a.splitOn sep = b.splitOn sep ↔ a = b := by
  constructor
  · intro h
    have ha : [sep].intercalate (a.splitOn sep) = a := List.intercalate_splitOn sep
    rw [← ha, h, List.intercalate_splitOn]
  · rintro rfl
    rfl

theorem splitOn_eq_singleton_iff {sep : Char} {text part : List Char} :
    text.splitOn sep = [part] ↔ text = part ∧ sep ∉ part := by
  constructor
  · intro h
    have htext : [sep].intercalate [part] = text := by rw [← h, List.intercalate_splitOn]
    rw [List.intercalate_singleton] at htext
    exact ⟨htext.symm, fun hmem => (mem_of_mem_splitOn (h ▸ List.mem_cons_self) hmem).2 rfl⟩
  · rintro ⟨rfl, hmem⟩
    exact List.splitOn_eq_singleton hmem

theorem length_splitOn (sep : Char) (text : List Char) :
    (text.splitOn sep).length = text.count sep + 1 := by
  induction text with
  | nil => rfl
  | cons c text ih =>
      rw [List.splitOn_cons_eq_if_modifyHead]
      split_ifs with hc
      · rw [List.length_cons, ih, beq_iff_eq.mp hc, List.count_cons_self]
      · rw [List.length_modifyHead, ih, List.count_cons_of_ne (by simpa using hc)]

theorem splitOn_eq_append_iff {sep : Char} {text : List Char} {front behind : List (List Char)}
    (hfront : front ≠ []) (hbehind : behind ≠ []) :
    text.splitOn sep = front ++ behind ↔
      ∃ x y, text = x ++ sep :: y ∧ x.splitOn sep = front ∧ y.splitOn sep = behind := by
  constructor
  · intro h
    have hnot : ∀ part ∈ front ++ behind, sep ∉ part := fun part hpart hmem =>
      (mem_of_mem_splitOn (h ▸ hpart) hmem).2 rfl
    refine ⟨[sep].intercalate front, [sep].intercalate behind, ?_, ?_, ?_⟩
    · rw [← intercalate_append hfront hbehind, ← h, List.intercalate_splitOn]
    · exact List.splitOn_intercalate sep (fun part hpart => hnot part (List.mem_append_left _ hpart))
        hfront
    · exact List.splitOn_intercalate sep (fun part hpart => hnot part (List.mem_append_right _ hpart))
        hbehind
  · rintro ⟨x, y, rfl, rfl, rfl⟩
    exact List.splitOn_append_cons_self x y

namespace Segment

/-- A segment that is a dot, two dots, or a name that an entry can have. -/
def IsProper : Segment → Prop
  | .name s => IsEntryName s
  | _ => True

theorem ofPart_isProper {part : List Char} (h : '/' ∉ part) : (ofPart part).IsProper := by
  unfold ofPart
  split_ifs with h1 h2
  · trivial
  · trivial
  · rw [not_or] at h1
    refine ⟨?_, ?_, ?_, ?_⟩
    · intro heq
      exact h1.1 (String.ofList_inj.mp heq)
    · intro heq
      exact h1.2 (String.ofList_inj.mp heq)
    · intro heq
      exact h2 (String.ofList_inj.mp heq)
    · rwa [String.toList_ofList]

theorem ofPart_toList {name : String} (h : IsEntryName name) : ofPart name.toList = .name name := by
  obtain ⟨h1, h2, h3, -⟩ := h
  unfold ofPart
  rw [if_neg, if_neg, String.ofList_toList]
  · intro heq
    exact h3 (String.toList_inj.mp heq)
  · rintro (heq | heq)
    · exact h1 (String.toList_inj.mp heq)
    · exact h2 (String.toList_inj.mp heq)

theorem toList_text_ofPart {part : List Char} (hnil : part ≠ []) (hdot : part ≠ ['.']) :
    (ofPart part).text.toList = part := by
  unfold ofPart
  split_ifs with h1 h2
  · exact absurd h1 (not_or.mpr ⟨hnil, hdot⟩)
  · rw [h2]
    rfl
  · exact String.toList_ofList

theorem ofPart_ne_current {part : List Char} (hnil : part ≠ []) (hdot : part ≠ ['.']) :
    ofPart part ≠ .current := by
  intro h
  have htext := toList_text_ofPart hnil hdot
  rw [h] at htext
  exact hdot htext.symm

theorem filter_names (names : List String) :
    (names.map Segment.name).filter (· ≠ .current) = names.map .name := by
  apply List.filter_eq_self.mpr
  intro s hs
  obtain ⟨name, -, rfl⟩ := List.mem_map.mp hs
  rfl

theorem not_mem_text {s : Segment} (h : s.IsProper) : '/' ∉ s.text.toList := by
  cases s with
  | current => decide
  | parent => decide
  | name s => exact h.2.2.2

theorem toList_text_ne_nil {s : Segment} (h : s.IsProper) : s.text.toList ≠ [] := by
  cases s with
  | current => decide
  | parent => decide
  | name s => exact fun hnil => h.1 (String.toList_inj.mp hnil)

theorem ofPart_text {s : Segment} (h : s.IsProper) : ofPart s.text.toList = s := by
  cases s with
  | current => decide
  | parent => decide
  | name s => exact ofPart_toList h

end Segment

namespace Path

theorem absolute_ofText (text : String) : (ofText text).absolute = isAbsolute text := rfl

theorem mem_segments_ofText {text : String} {s : Segment} (h : s ∈ (ofText text).segments) :
    s = .current ∨ ∃ part ∈ parts text, s = Segment.ofPart part := by
  unfold ofText at h
  dsimp only at h
  split_ifs at h
  · rcases List.mem_cons.mp h with rfl | h
    · exact .inl rfl
    · obtain ⟨part, hpart, rfl⟩ := List.mem_map.mp (List.mem_filter.mp h).1
      exact .inr ⟨part, hpart, rfl⟩
  · obtain ⟨part, hpart, rfl⟩ := List.mem_map.mp (List.mem_filter.mp h).1
    exact .inr ⟨part, hpart, rfl⟩

theorem isProper_of_mem_ofText {text : String} {s : Segment} (h : s ∈ (ofText text).segments) :
    s.IsProper := by
  rcases mem_segments_ofText h with rfl | ⟨part, hpart, rfl⟩
  · trivial
  · exact Segment.ofPart_isProper fun hslash => (mem_of_mem_splitOn hpart hslash).2 rfl

theorem isProper_of_mem_steps {text : String} {s : Segment} (h : s ∈ steps text) : s.IsProper := by
  unfold steps at h
  dsimp only at h
  obtain ⟨part, hpart, rfl⟩ := List.mem_map.mp h
  have hmem : part ∈ parts text := by
    rcases List.mem_append.mp hpart with h | h
    · exact (List.dropLast_sublist _).mem (List.mem_filter.mp h).1
    · exact List.mem_of_getLast? (Option.mem_toList.mp h)
  exact Segment.ofPart_isProper fun hslash => (mem_of_mem_splitOn hmem hslash).2 rfl

/-! ### Texts -/

theorem toList_text_relative (segments : List Segment) :
    (Path.mk false segments).text.toList =
      ['/'].intercalate (segments.map fun s => s.text.toList) := by
  simp [text, List.map_map, Function.comp_def]

theorem parts_text {segments : List Segment} (hne : segments ≠ [])
    (hproper : ∀ s ∈ segments, s.IsProper) :
    parts (Path.mk false segments).text = segments.map fun s => s.text.toList := by
  unfold parts
  rw [toList_text_relative]
  apply List.splitOn_intercalate
  · intro part hpart
    obtain ⟨s, hs, rfl⟩ := List.mem_map.mp hpart
    exact Segment.not_mem_text (hproper s hs)
  · simpa using hne

theorem text_names (names : List String) :
    (Path.mk false (names.map .name)).text = "/".intercalate names := by
  simp [text, List.map_map, Function.comp_def, Segment.text]

theorem parts_names {names : List String} (hne : names ≠ []) (hnames : ∀ n ∈ names, IsEntryName n) :
    parts (Path.mk false (names.map .name)).text = names.map String.toList := by
  rw [parts_text (by simpa using hne)]
  · rw [List.map_map]
    rfl
  · intro s hs
    obtain ⟨n, hn, rfl⟩ := List.mem_map.mp hs
    exact hnames n hn

theorem map_ofPart_parts_text {segments : List Segment} (hne : segments ≠ [])
    (hproper : ∀ s ∈ segments, s.IsProper) :
    (parts (Path.mk false segments).text).map Segment.ofPart = segments := by
  rw [parts_text hne hproper, List.map_map]
  calc segments.map (Segment.ofPart ∘ fun s => s.text.toList)
      = segments.map id := List.map_congr_left fun s hs => Segment.ofPart_text (hproper s hs)
    _ = segments := List.map_id segments

theorem nil_not_mem_parts_text {segments : List Segment} (hne : segments ≠ [])
    (hproper : ∀ s ∈ segments, s.IsProper) : [] ∉ parts (Path.mk false segments).text := by
  rw [parts_text hne hproper]
  intro hmem
  obtain ⟨s, hs, hnil⟩ := List.mem_map.mp hmem
  exact Segment.toList_text_ne_nil (hproper s hs) hnil

theorem toList_text_absolute (segments : List Segment) :
    (Path.mk true segments).text.toList = '/' :: (Path.mk false segments).text.toList :=
  String.toList_append

theorem isAbsolute_text {p : Path} (hproper : ∀ s ∈ p.segments, s.IsProper) :
    isAbsolute p.text = p.absolute := by
  obtain ⟨absolute, segments⟩ := p
  unfold isAbsolute
  cases absolute with
  | true =>
      rw [toList_text_absolute]
      rfl
  | false =>
      by_cases hne : segments = []
      · subst hne
        rfl
      · rw [decide_eq_false_iff_not]
        intro hhead
        obtain ⟨rest, htext⟩ := List.head?_eq_some_iff.mp hhead
        apply nil_not_mem_parts_text hne hproper
        unfold parts
        rw [htext, List.splitOn_cons_eq_if_modifyHead, if_pos (beq_self_eq_true '/')]
        exact List.mem_cons_self

theorem segments_inj {a b : List Segment} (ha : ∀ s ∈ a, s.IsProper) (hb : ∀ s ∈ b, s.IsProper)
    (h : (Path.mk false a).text = (Path.mk false b).text) : a = b := by
  have hempty : parts (Path.mk false []).text = [[]] := by decide
  by_cases hane : a = []
  · by_cases hbne : b = []
    · rw [hane, hbne]
    · subst hane
      have hnil := nil_not_mem_parts_text hbne hb
      rw [← h, hempty] at hnil
      exact absurd List.mem_cons_self hnil
  · by_cases hbne : b = []
    · subst hbne
      have hnil := nil_not_mem_parts_text hane ha
      rw [h, hempty] at hnil
      exact absurd List.mem_cons_self hnil
    · rw [← map_ofPart_parts_text hane ha, h, map_ofPart_parts_text hbne hb]

/-- **A path is known by its text.** -/
theorem text_inj {p q : Path} (hp : ∀ s ∈ p.segments, s.IsProper) (hq : ∀ s ∈ q.segments, s.IsProper)
    (h : p.text = q.text) : p = q := by
  have habsolute : p.absolute = q.absolute := by
    rw [← isAbsolute_text hp, h, isAbsolute_text hq]
  obtain ⟨absolute, a⟩ := p
  obtain ⟨absolute', b⟩ := q
  obtain rfl : absolute = absolute' := habsolute
  have hnames : (Path.mk false a).text = (Path.mk false b).text := by
    cases absolute with
    | false => exact h
    | true =>
        have htext := congrArg String.toList h
        rw [toList_text_absolute, toList_text_absolute] at htext
        exact String.toList_inj.mp (List.cons.inj htext).2
  obtain rfl : a = b := segments_inj hp hq hnames
  rfl

/-- The text of a path ends in the text of its last segment, alone or behind a slash. -/
theorem exists_toList_text_concat (absolute : Bool) (init : List Segment) (s : Segment) :
    ∃ front, (Path.mk absolute (init ++ [s])).text.toList = front ++ s.text.toList ∧
      (front = [] ∨ ∃ rest, front = rest ++ ['/']) := by
  have hnames : ∃ front, ("/".intercalate ((init ++ [s]).map Segment.text)).toList =
      front ++ s.text.toList ∧ (front = [] ∨ ∃ rest, front = rest ++ ['/']) := by
    rw [List.map_append]
    by_cases hinit : init = []
    · subst hinit
      exact ⟨[], by simp, .inl rfl⟩
    · have hmap : init.map Segment.text ≠ [] := by simpa using hinit
      rw [String.intercalate_append_of_ne_nil hmap (by simp)]
      exact ⟨("/".intercalate (init.map Segment.text)).toList ++ ['/'], by simp, .inr ⟨_, rfl⟩⟩
  obtain ⟨front, heq, hfront⟩ := hnames
  cases absolute with
  | false => exact ⟨front, heq, hfront⟩
  | true =>
      refine ⟨'/' :: front, ?_, .inr ?_⟩
      · rw [toList_text_absolute, List.cons_append, ← heq]
        rfl
      rcases hfront with rfl | ⟨rest, rfl⟩
      · exact ⟨[], rfl⟩
      · exact ⟨'/' :: rest, rfl⟩

/-! ### Reading a path back -/

theorem parts_append_slash (base text : String) :
    parts (base ++ "/" ++ text) = parts base ++ parts text := by
  unfold parts
  rw [String.toList_append, String.toList_append, List.append_assoc]
  exact List.splitOn_append_cons_self _ _

theorem parts_text_absolute (segments : List Segment) :
    parts (Path.mk true segments).text = [] :: parts (Path.mk false segments).text :=
  parts_append_slash "" _

theorem head?_parts_text_ne {p : Path} (hproper : ∀ s ∈ p.segments, s.IsProper)
    (hdot : .current ∉ p.segments) : (parts p.text).head? ≠ some ['.'] := by
  obtain ⟨absolute, segments⟩ := p
  cases absolute with
  | true =>
      rw [parts_text_absolute]
      exact fun h => by cases h
  | false =>
      cases segments with
      | nil => decide
      | cons s segments =>
          rw [parts_text (List.cons_ne_nil s segments) hproper, List.map_cons, List.head?_cons]
          intro h
          have hs := Segment.ofPart_text (hproper s List.mem_cons_self)
          rw [Option.some.inj h] at hs
          obtain rfl : Segment.current = s := hs
          exact hdot List.mem_cons_self

theorem filter_map_ofPart_parts_text {segments : List Segment}
    (hproper : ∀ s ∈ segments, s.IsProper) (hdot : .current ∉ segments) :
    ((parts (Path.mk false segments).text).map Segment.ofPart).filter (· ≠ .current) = segments := by
  by_cases hne : segments = []
  · subst hne
    decide
  · rw [map_ofPart_parts_text hne hproper]
    exact List.filter_eq_self.mpr fun s hs => decide_eq_true fun h => hdot (h ▸ hs)

/-- **A path without dots is read back from its text.** -/
theorem ofText_text {p : Path} (hproper : ∀ s ∈ p.segments, s.IsProper)
    (hdot : .current ∉ p.segments) : ofText p.text = p := by
  have hhead := head?_parts_text_ne hproper hdot
  have habsolute := isAbsolute_text hproper
  unfold ofText
  dsimp only
  rw [if_neg hhead, habsolute]
  obtain ⟨absolute, segments⟩ := p
  have hkept := filter_map_ofPart_parts_text hproper hdot
  cases absolute with
  | false => rw [hkept]
  | true =>
      rw [parts_text_absolute, List.map_cons, List.filter_cons_of_neg (by decide), hkept]

theorem not_dotSlash_prefix_text {p : Path} (hproper : ∀ s ∈ p.segments, s.IsProper)
    (hdot : .current ∉ p.segments) : ¬ ['.', '/'] <+: p.text.toList := by
  rintro ⟨rest, hrest⟩
  apply head?_parts_text_ne hproper hdot
  have hparts : parts p.text = ['.'].splitOn '/' ++ rest.splitOn '/' := by
    unfold parts
    rw [← hrest]
    exact List.splitOn_append_cons_self ['.'] rest
  rw [hparts]
  rfl

/-! ### Texts in normal form -/

/-- A relative text as paths are printed: none of its parts is empty or a dot. -/
def IsNormal (text : String) : Prop := ∀ part ∈ parts text, part ≠ [] ∧ part ≠ ['.']

instance (text : String) : Decidable (IsNormal text) :=
  inferInstanceAs (Decidable (∀ part ∈ parts text, part ≠ [] ∧ part ≠ ['.']))

theorem isNormal_text {segments : List Segment} (hne : segments ≠ [])
    (hproper : ∀ s ∈ segments, s.IsProper) (hdot : .current ∉ segments) :
    IsNormal (Path.mk false segments).text := by
  intro part hpart
  rw [parts_text hne hproper] at hpart
  obtain ⟨s, hs, rfl⟩ := List.mem_map.mp hpart
  refine ⟨Segment.toList_text_ne_nil (hproper s hs), fun h => hdot ?_⟩
  have hcurrent := Segment.ofPart_text (hproper s hs)
  rw [h] at hcurrent
  obtain rfl : Segment.current = s := hcurrent
  exact hs

theorem IsNormal.isAbsolute {text : String} (h : IsNormal text) : isAbsolute text = false := by
  apply decide_eq_false
  intro hhead
  obtain ⟨rest, htext⟩ := List.head?_eq_some_iff.mp hhead
  refine (h [] ?_).1 rfl
  unfold parts
  rw [htext, List.splitOn_cons_eq_if_modifyHead, if_pos (beq_self_eq_true '/')]
  exact List.mem_cons_self

theorem IsNormal.filter_parts {text : String} (h : IsNormal text) :
    ((parts text).map Segment.ofPart).filter (· ≠ .current) = (parts text).map Segment.ofPart := by
  apply List.filter_eq_self.mpr
  intro s hs
  obtain ⟨part, hpart, rfl⟩ := List.mem_map.mp hs
  exact decide_eq_true (Segment.ofPart_ne_current (h part hpart).1 (h part hpart).2)

theorem IsNormal.ofText {text : String} (h : IsNormal text) :
    Path.ofText text = ⟨false, (parts text).map Segment.ofPart⟩ := by
  have hhead : (parts text).head? ≠ some ['.'] := fun hhead =>
    (h _ (List.mem_of_head? hhead)).2 rfl
  unfold Path.ofText
  dsimp only
  rw [if_neg hhead, h.filter_parts, h.isAbsolute]

theorem IsNormal.segments_ne_nil {text : String} (h : IsNormal text) :
    (Path.ofText text).segments ≠ [] := by
  rw [h.ofText]
  exact mt List.map_eq_nil_iff.mp (List.splitOn_ne_nil _ _)

theorem IsNormal.current_not_mem {text : String} (h : IsNormal text) :
    .current ∉ (Path.ofText text).segments := by
  rw [h.ofText]
  intro hmem
  rw [← h.filter_parts] at hmem
  exact of_decide_eq_true (List.mem_filter.mp hmem).2 rfl

theorem IsNormal.text_ofText {text : String} (h : IsNormal text) : (Path.ofText text).text = text := by
  apply String.toList_inj.mp
  rw [h.ofText, toList_text_relative, List.map_map]
  calc ['/'].intercalate ((parts text).map ((fun s => s.text.toList) ∘ Segment.ofPart))
      = ['/'].intercalate ((parts text).map id) := by
        congr 1
        exact List.map_congr_left fun part hpart =>
          Segment.toList_text_ofPart (h part hpart).1 (h part hpart).2
    _ = text.toList := by
        rw [List.map_id]
        exact List.intercalate_splitOn '/'

/-! ### Ways -/

theorem below_nil (root : String) : below root [] = directory root := rfl

theorem below_of_ne_nil {root : String} {segments : List Segment} (h : segments ≠ []) :
    below root segments = steps root ++ segments :=
  if_neg fun hempty => h (List.isEmpty_iff.mp hempty)

/-- The way through the parts of a text, without a last step where the text ends in a slash. -/
def way (text : String) : List Segment := ((parts text).filter (· ≠ [])).map Segment.ofPart

theorem exists_parts_eq_concat (text : String) : ∃ front last, parts text = front ++ [last] := by
  rcases List.eq_nil_or_concat (parts text) with h | ⟨front, last, h⟩
  · exact absurd h (List.splitOn_ne_nil _ _)
  · exact ⟨front, last, by rw [h, List.concat_eq_append]⟩

theorem steps_of_parts {text : String} {front : List (List Char)} {last : List Char}
    (h : parts text = front ++ [last]) :
    steps text = (front.filter (· ≠ []) ++ [last]).map Segment.ofPart := by
  unfold steps
  dsimp only
  rw [h, List.dropLast_concat, List.getLast?_concat]
  rfl

/-- A way goes first through what stands in front of a slash. -/
theorem steps_append_slash (base text : String) :
    steps (base ++ "/" ++ text) = way base ++ steps text := by
  obtain ⟨front, last, h⟩ := exists_parts_eq_concat text
  have hparts : parts (base ++ "/" ++ text) = (parts base ++ front) ++ [last] := by
    rw [parts_append_slash, h, List.append_assoc]
  rw [steps_of_parts hparts, steps_of_parts h, List.filter_append, List.append_assoc,
    List.map_append]
  rfl

/-- A slash at the end of a text stands for one more step, which stays where it is. -/
theorem steps_eq_way (text : String) :
    steps text = way text ∨ steps text = way text ++ [.current] := by
  obtain ⟨front, last, h⟩ := exists_parts_eq_concat text
  have hway : way text = (front.filter (· ≠ []) ++ [last].filter (· ≠ [])).map Segment.ofPart := by
    rw [way, h, List.filter_append]
  rw [steps_of_parts h, hway]
  by_cases hlast : last = []
  · have hkept : [last].filter (· ≠ []) = [] := by simpa using hlast
    rw [hkept, List.append_nil, List.map_append, hlast]
    exact .inr rfl
  · have hkept : [last].filter (· ≠ []) = [last] := by simpa using hlast
    rw [hkept]
    exact .inl rfl

theorem way_append_slash (base : String) : way (base ++ "/") = way base := by
  have hparts := parts_append_slash base ""
  rw [String.append_empty] at hparts
  unfold way
  rw [hparts, List.filter_append]
  exact congrArg _ (List.append_nil _)

theorem steps_text {segments : List Segment} (hne : segments ≠ [])
    (hproper : ∀ s ∈ segments, s.IsProper) : steps (Path.mk false segments).text = segments := by
  obtain ⟨front, last, h⟩ := exists_parts_eq_concat (Path.mk false segments).text
  have hnil := nil_not_mem_parts_text hne hproper
  rw [h] at hnil
  have hfront : front.filter (· ≠ []) = front := List.filter_eq_self.mpr fun part hpart =>
    decide_eq_true fun heq => hnil (List.mem_append_left _ (heq ▸ hpart))
  rw [steps_of_parts h, hfront, ← h, map_ofPart_parts_text hne hproper]

/-- The parts that are neither empty nor dots are what a way has besides dots. -/
theorem filter_steps (text : String) :
    (steps text).filter (· ≠ .current) =
      ((parts text).map Segment.ofPart).filter (· ≠ .current) := by
  obtain ⟨front, last, h⟩ := exists_parts_eq_concat text
  have hfront : ((front.filter (· ≠ [])).map Segment.ofPart).filter (· ≠ .current) =
      (front.map Segment.ofPart).filter (· ≠ .current) := by
    rw [List.filter_map, List.filter_map, List.filter_filter]
    congr 1
    apply List.filter_congr
    intro part _
    by_cases hnil : part = []
    · subst hnil
      decide
    · simp [hnil]
  rw [steps_of_parts h, h, List.map_append, List.map_append, List.filter_append, List.filter_append,
    hfront]

theorem steps_joinText_of_relative (root : String) {text : String} (hrel : isAbsolute text = false) :
    steps (joinText root text) = way root ++ steps text := by
  unfold joinText
  by_cases hroot : root = ""
  · subst hroot
    have hempty : way "" = [] := by decide
    rw [if_pos (.inr rfl), hempty, List.nil_append]
  · rw [hrel, if_neg (by simpa [String.isEmpty_iff] using hroot)]
    split_ifs with hlast
    · obtain ⟨front, hfront⟩ := List.getLast?_eq_some_iff.mp hlast
      obtain rfl : root = String.ofList front ++ "/" := by
        apply String.toList_inj.mp
        rw [hfront, String.toList_append, String.toList_ofList]
        rfl
      rw [steps_append_slash, way_append_slash]
    · rw [steps_append_slash]

/-- The way of a path that is joined to a root goes through the root first, unless the path is
absolute. -/
theorem steps_joinText (root : String) {p : Path} (hne : p.segments ≠ [])
    (hproper : ∀ s ∈ p.segments, s.IsProper) :
    steps (joinText root p.text) = if p.absolute then p.segments else way root ++ p.segments := by
  have habsolute := isAbsolute_text hproper
  obtain ⟨absolute, segments⟩ := p
  have hnames := steps_text hne hproper
  cases absolute with
  | true =>
      have hempty : way "" = [] := by decide
      have hslash : (Path.mk true segments).text = "" ++ "/" ++ (Path.mk false segments).text := rfl
      unfold joinText
      rw [if_pos (.inl habsolute), if_pos rfl, hslash, steps_append_slash, hempty, hnames,
        List.nil_append]
  | false =>
      rw [if_neg Bool.false_ne_true, steps_joinText_of_relative root habsolute, hnames]

end Path

end TextLimits
