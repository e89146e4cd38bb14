import TextLimits.Proofs.Toml.Writing

/-! # Lines as they are written

What is read from lines that consist of bare names and of values as they are written: a name or several with
dots between them (`key_keyText`), a value under them (`takes_assignment`), an inline table
(`takes_inline`), and one statement after another (`statements?_flatten`). -/

namespace TextLimits.Toml

/-! ### Keys -/

/-- A name that can stand in a key without quotes. -/
def IsBare (name : String) : Prop := name ≠ "" ∧ ∀ c ∈ name.toList, isBareChar c = true

/-- The text of a key of bare names. -/
def keyText (names : List String) : List Char := ['.'].intercalate (names.map String.toList)

/-- A text at which a key ends. -/
def EndsKey (rest : List Char) : Prop :=
  ∃ c more, rest = c :: more ∧ isBareChar c = false ∧ (skipBlanks rest).head? ≠ some '.'

theorem beginsItem_of_isBareChar {c : Char} (h : isBareChar c = true) : beginsItem c = true := by
  rw [beginsItem, contains_eq_false h (by rfl)]
  rfl

theorem skipBlanks_beginsItem {c : Char} (h : beginsItem c = true) (rest : List Char) :
    skipBlanks (c :: rest) = c :: rest := by
  obtain ⟨-, -, htab, hspace, -⟩ := beginsItem_ne h
  simp [skipBlanks, isBlank, htab, hspace]

theorem IsBare.begins {name : String} (h : IsBare name) :
    ∃ c more, name.toList = c :: more ∧ isBareChar c = true := by
  cases hname : name.toList with
  | nil => exact absurd (String.toList_eq_nil_iff.mp hname) h.1
  | cons c more => exact ⟨c, more, rfl, h.2 c (by rw [hname]; exact List.mem_cons_self)⟩

theorem keyPart_bare {name : String} (h : IsBare name) {rest : List Char}
    (hrest : ∃ c more, rest = c :: more ∧ isBareChar c = false) :
    keyPart (name.toList ++ rest) = some (.ok name, rest) := by
  obtain ⟨d, after, rfl, hd⟩ := hrest
  have htake : (name.toList ++ d :: after).takeWhile isBareChar = name.toList := by
    rw [List.takeWhile_append_of_pos h.2, List.takeWhile_cons_of_neg (by simp [hd]),
      List.append_nil]
  obtain ⟨c, more, hname, hc⟩ := h.begins
  have hempty : ¬ name.toList.isEmpty = true := by simp [hname]
  unfold keyPart
  split
  · next heq =>
      rw [hname] at heq
      exact absurd (List.cons.inj heq).1 (ne_of_test hc (by decide))
  · next heq =>
      rw [hname] at heq
      exact absurd (List.cons.inj heq).1 (ne_of_test hc (by decide))
  · simp only [htake, if_neg hempty, List.drop_left, String.ofList_toList]

theorem keyText_cons_cons (name name' : String) (names : List String) :
    keyText (name :: name' :: names) = name.toList ++ '.' :: keyText (name' :: names) := by
  simp [keyText, List.intercalate_cons_cons]

theorem keyText_singleton (name : String) : keyText [name] = name.toList := by
  simp [keyText, List.intercalate_singleton]

theorem keyText_begins {name : String} (h : IsBare name) (names : List String) :
    ∃ c more, keyText (name :: names) = c :: more ∧ isBareChar c = true := by
  obtain ⟨c, more, hname, hc⟩ := h.begins
  cases names with
  | nil => exact ⟨c, more, by rw [keyText_singleton, hname], hc⟩
  | cons name' names =>
      exact ⟨c, more ++ '.' :: keyText (name' :: names), by rw [keyText_cons_cons, hname]; rfl, hc⟩

theorem length_le_keyText (names : List String) : names.length ≤ (keyText names).length + 1 := by
  induction names with
  | nil => exact Nat.zero_le _
  | cons name names ih =>
      cases names with
      | nil => simp
      | cons name' names =>
          rw [keyText_cons_cons]
          simp only [List.length_cons, List.length_append] at ih ⊢
          omega

/-- A key is read up to its end, with the blanks there. -/
theorem key_keyText {names : List String} (hne : names ≠ []) (hbare : ∀ n ∈ names, IsBare n)
    {rest : List Char} (hrest : EndsKey rest) {fuel : Nat} (hfuel : names.length ≤ fuel) :
    key fuel (keyText names ++ rest) = some (names.map .ok, skipBlanks rest) := by
  induction names generalizing fuel with
  | nil => exact absurd rfl hne
  | cons name names ih =>
      rw [List.forall_mem_cons] at hbare
      obtain ⟨fuel, rfl⟩ : ∃ n, fuel = n + 1 := ⟨fuel - 1, by simp at hfuel; omega⟩
      obtain ⟨c, more, htext, hc⟩ := keyText_begins hbare.1 names
      have hskip : skipBlanks (keyText (name :: names) ++ rest) = keyText (name :: names) ++ rest := by
        rw [htext]
        exact skipBlanks_beginsItem (beginsItem_of_isBareChar hc) _
      rw [key, hskip]
      cases names with
      | nil =>
          obtain ⟨d, after, rfl, hd, hdot⟩ := hrest
          rw [keyText_singleton, keyPart_bare hbare.1 ⟨d, after, rfl, hd⟩]
          simp only [Option.bind_eq_bind, Option.bind_some]
          split
          · next heq => exact absurd (by rw [heq]; rfl) hdot
          · rfl
      | cons name' names =>
          have hpart := keyPart_bare hbare.1
            ⟨'.', keyText (name' :: names) ++ rest, rfl, by decide⟩
          have hdot : skipBlanks ('.' :: (keyText (name' :: names) ++ rest)) =
              '.' :: (keyText (name' :: names) ++ rest) := rfl
          have hlength : (name' :: names).length ≤ fuel := by simpa using hfuel
          rw [keyText_cons_cons, List.append_assoc, List.cons_append, hpart]
          simp only [Option.bind_eq_bind, Option.bind_some, hdot,
            ih (List.cons_ne_nil _ _) hbare.2 hlength]
          rfl

/-! ### Values under keys -/

/-- The text of a key, the equals sign and the text of a value. -/
def assignText (names : List String) (text : List Char) : List Char :=
  keyText names ++ ' ' :: '=' :: ' ' :: text

theorem takes_assignment {item : Reader Written} {names : List String} (hne : names ≠ [])
    (hbare : ∀ n ∈ names, IsBare n) {text : List Char} {w : Written} (h : Takes item text w) :
    Takes (assignment item) (assignText names text) (names.map .ok, w) := by
  obtain ⟨name, names, rfl⟩ := List.exists_cons_of_ne_nil hne
  refine ⟨?_, fun rest hrest => ?_⟩
  · obtain ⟨c, more, htext, hc⟩ := keyText_begins (hbare name List.mem_cons_self) names
    exact ⟨c, more ++ ' ' :: '=' :: ' ' :: text, by rw [assignText, htext]; rfl,
      beginsItem_of_isBareChar hc⟩
  · obtain ⟨d, after, rfl, hd⟩ := h.begins
    have hends : EndsKey (' ' :: '=' :: ' ' :: (d :: after ++ rest)) :=
      ⟨' ', _, rfl, by decide, by simp [skipBlanks, isBlank]⟩
    have hfuel : (name :: names).length ≤
        (keyText (name :: names) ++ ' ' :: '=' :: ' ' :: (d :: after ++ rest)).length + 1 := by
      have hlength := length_le_keyText (name :: names)
      rw [List.length_append]
      omega
    have hblank : skipBlanks (' ' :: '=' :: ' ' :: (d :: after ++ rest)) =
        '=' :: ' ' :: (d :: after ++ rest) := rfl
    have hvalue : skipBlanks (' ' :: (d :: after ++ rest)) = d :: after ++ rest :=
      skipBlanks_beginsItem hd _
    unfold assignment
    simp only [assignText, List.append_assoc, List.cons_append] at hfuel hends hblank hvalue ⊢
    rw [key_keyText hne hbare hends hfuel, hblank]
    have hread := h.reads rest hrest
    rw [List.cons_append] at hread
    simp [expect, hvalue, hread]

/-- The text of an inline table whose entries have these texts. -/
def inlineText (texts : List (List Char)) : List Char :=
  '\x7b' :: ' ' :: (comma.intercalate texts ++ [' ', '\x7d'])

theorem takes_inline {depth : Nat} {texts : List (List Char)} {entries : List (Key × Written)}
    (h : List.Forall₂ (Takes (assignment (value depth))) texts entries) :
    Takes (value (depth + 1)) (inlineText texts) (.inline entries) := by
  refine ⟨⟨'\x7b', _, rfl, by decide⟩, fun rest hrest => ?_⟩
  have hclosing : skipSpace false (' ' :: '\x7d' :: rest) = some ('\x7d' :: rest) := by
    simp [skipSpace, isBlank]
  have hends : EndsValue (' ' :: '\x7d' :: rest) := ⟨' ', _, rfl, by decide, by decide⟩
  have hfuel : texts.length <
      (' ' :: (comma.intercalate texts ++ ' ' :: '\x7d' :: rest)).length + 1 := by
    have hlength := length_le_of_takes h
    rw [List.length_cons, List.length_append]
    omega
  have hread := sequence_intercalate (by decide) (by decide) hclosing hends h _ hfuel []
    (' ' :: (comma.intercalate texts ++ ' ' :: '\x7d' :: rest)) rfl
  rw [inlineText, List.cons_append, List.cons_append, List.append_assoc, List.cons_append,
    List.singleton_append]
  show (sequence '\x7d' (assignment (value depth)) _ [] _).map _ = _
  rw [hread]
  rfl

/-! ### Lines -/

/-- A line says something, whatever lines come after it. -/
structure Says (line : List Char) (s : Statement) : Prop where
  begins : ∃ c more, line = c :: more ∧ c ≠ '\uFEFF'
  reads : ∀ fuel done rest,
    statements (fuel + 1) done (line ++ rest) = statements fuel (s :: done) rest

theorem endsValue_newline (rest : List Char) : EndsValue ('\n' :: rest) :=
  ⟨'\n', rest, rfl, by decide, by decide⟩

theorem endOfLine_newline (rest : List Char) : endOfLine ('\n' :: rest) = some rest := rfl

theorem says_assign {names : List String} (hne : names ≠ []) (hbare : ∀ n ∈ names, IsBare n)
    {text : List Char} {w : Written} (h : Takes (value (maxDepth + 1)) text w) :
    Says (assignText names text ++ ['\n']) (.assign (names.map .ok) w) := by
  obtain ⟨name, names, rfl⟩ := List.exists_cons_of_ne_nil hne
  obtain ⟨c, more, hkey, hc⟩ := keyText_begins (hbare name List.mem_cons_self) names
  have hbegins : assignText (name :: names) text = c :: (more ++ ' ' :: '=' :: ' ' :: text) := by
    rw [assignText, hkey]
    rfl
  refine ⟨⟨c, more ++ ' ' :: '=' :: ' ' :: text ++ ['\n'], by rw [hbegins]; rfl,
    ne_of_test hc (by decide)⟩, fun fuel done rest => ?_⟩
  have hline := (takes_assignment hne hbare h).reads ('\n' :: rest) (endsValue_newline rest)
  have hskip := skipBlanks_beginsItem (beginsItem_of_isBareChar hc)
    (more ++ ' ' :: '=' :: ' ' :: text ++ '\n' :: rest)
  rw [List.append_assoc, List.singleton_append]
  rw [hbegins, List.cons_append] at hline ⊢
  have hassign : assignLine (c :: (more ++ ' ' :: '=' :: ' ' :: text ++ '\n' :: rest)) =
      some (.assign ((name :: names).map .ok) w, rest) := by
    unfold assignLine
    rw [hline]
    simp [endOfLine_newline]
  have hfeed : c ≠ '\n' := ne_of_test hc (by decide)
  have hbracket : c ≠ '[' := ne_of_test hc (by decide)
  have hplain : ¬ (c = '#' ∨ c = '\r') :=
    not_or.mpr ⟨ne_of_test hc (by decide), ne_of_test hc (by decide)⟩
  rw [statements, hskip]
  split
  · next heq => cases heq
  · next heq => exact absurd (List.cons.inj heq).1 hfeed
  · next heq => exact absurd (List.cons.inj heq).1 hbracket
  · next heq =>
      obtain ⟨rfl, rfl⟩ := List.cons.inj heq
      rw [if_neg hplain, hassign]
      rfl

/-- The line of a header. -/
def headerText (names : List String) : List Char := '[' :: (keyText names ++ [']', '\n'])

theorem says_header {names : List String} (hne : names ≠ []) (hbare : ∀ n ∈ names, IsBare n) :
    Says (headerText names) (.header (names.map .ok)) := by
  obtain ⟨name, names, rfl⟩ := List.exists_cons_of_ne_nil hne
  refine ⟨⟨'[', _, rfl, by decide⟩, fun fuel done rest => ?_⟩
  obtain ⟨c, more, hkey, hc⟩ := keyText_begins (hbare name List.mem_cons_self) names
  have hbracket : c ≠ '[' := ne_of_test hc (by decide)
  have hends : EndsKey (']' :: '\n' :: rest) := ⟨']', _, rfl, by decide, by simp [skipBlanks, isBlank]⟩
  have hfuel : (name :: names).length ≤
      (keyText (name :: names) ++ ']' :: '\n' :: rest).length + 1 := by
    have hlength := length_le_keyText (name :: names)
    rw [List.length_append]
    omega
  have hread := key_keyText hne hbare hends hfuel
  have hclose : skipBlanks (']' :: '\n' :: rest) = ']' :: '\n' :: rest := rfl
  have hheader : headerLine (keyText (name :: names) ++ ']' :: '\n' :: rest) =
      some (.header ((name :: names).map .ok), rest) := by
    unfold headerLine
    split
    · next heq =>
        rw [hkey] at heq
        exact absurd (List.cons.inj heq).1 hbracket
    · rw [hread, hclose]
      simp [expect, endOfLine_newline]
  have hskip : skipBlanks ('[' :: (keyText (name :: names) ++ ']' :: '\n' :: rest)) =
      '[' :: (keyText (name :: names) ++ ']' :: '\n' :: rest) := rfl
  rw [headerText, List.cons_append, List.append_assoc, List.cons_append, List.singleton_append,
    statements, hskip]
  show (headerLine _).bind _ = _
  rw [hheader]
  rfl

theorem statements_flatten {lines : List (List Char)} {all : List Statement}
    (h : List.Forall₂ Says lines all) {fuel : Nat} (hfuel : lines.length < fuel)
    (done : List Statement) : statements fuel done lines.flatten = some (done.reverse ++ all) := by
  induction h generalizing fuel done with
  | nil =>
      obtain ⟨fuel, rfl⟩ : ∃ n, fuel = n + 1 := ⟨fuel - 1, by simp at hfuel; omega⟩
      rw [List.append_nil]
      rfl
  | cons hline _ ih =>
      obtain ⟨fuel, rfl⟩ : ∃ n, fuel = n + 1 := ⟨fuel - 1, by simp at hfuel; omega⟩
      rw [List.flatten_cons, hline.reads, ih (by simpa using hfuel)]
      simp

theorem length_le_flatten {lines : List (List Char)} {all : List Statement}
    (h : List.Forall₂ Says lines all) : lines.length ≤ lines.flatten.length := by
  induction h with
  | nil => exact Nat.zero_le _
  | cons hline _ ih =>
      obtain ⟨c, more, rfl, -⟩ := hline.begins
      rw [List.flatten_cons, List.length_append, List.length_cons, List.length_cons]
      omega

/-- A text of lines has the statements of its lines. -/
theorem statements?_flatten {lines : List (List Char)} {all : List Statement}
    (h : List.Forall₂ Says lines all) : statements? lines.flatten = some all := by
  have hfuel : lines.length < lines.flatten.length + 1 :=
    Nat.lt_succ_of_le (length_le_flatten h)
  have hread : statements (lines.flatten.length + 1) [] lines.flatten = some all :=
    statements_flatten h hfuel []
  cases h with
  | nil => rfl
  | @cons line s lines all hline _ =>
      obtain ⟨c, more, rfl, hmark⟩ := hline.begins
      unfold statements?
      rw [List.flatten_cons, List.cons_append] at hread ⊢
      split
      · next heq => exact absurd (List.cons.inj heq).1 hmark
      · exact hread

end TextLimits.Toml
