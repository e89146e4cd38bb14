import Mathlib
import TextLimits.Toml.Document

/-! # Values as they are written

What is read from the text of a value: a string between quotes, whichever of its characters are escaped and
how (`takes_string`), a number in decimal digits (`takes_decimal`), and an array of values
(`takes_array`). -/

namespace TextLimits.Toml

/-! ### Characters between quotes -/

/-- The letters of escapes, with the characters that they stand for. -/
def shortEscapes : List (Char × Char) :=
  [('b', '\x08'), ('t', '\t'), ('n', '\n'), ('f', '\x0c'), ('r', '\r'), ('e', '\x1b'), ('"', '"'),
    ('\\', '\\')]

/-- The letters of escapes by number, with the count of digits. -/
def codeEscapes : List (Char × Nat) := [('x', 2), ('u', 4), ('U', 8)]

/-- The texts that stand for a character between quotes.  Quotes, backslashes and control characters have to
be escaped, all others may be. -/
inductive SpellsChar : Char → List Char → Prop
  | itself {c : Char} (hquote : c ≠ '"') (hslash : c ≠ '\\') (hcontrol : isControl c = false) :
      SpellsChar c [c]
  | short {letter c : Char} (h : (letter, c) ∈ shortEscapes) : SpellsChar c ['\\', letter]
  | code {letter c : Char} {digits : List Char} (h : (letter, digits.length) ∈ codeEscapes)
      (hhex : ∀ d ∈ digits, isHex d = true) (hcode : numeral 16 digits = c.toNat) :
      SpellsChar c ('\\' :: letter :: digits)

/-- The texts that stand for characters between quotes, one after another. -/
inductive SpellsChars : List Char → List Char → Prop
  | nil : SpellsChars [] []
  | cons {c : Char} {cs piece text : List Char} (hc : SpellsChar c piece)
      (hcs : SpellsChars cs text) : SpellsChars (c :: cs) (piece ++ text)

theorem basicString_itself {c : Char} (hquote : c ≠ '"') (hslash : c ≠ '\\')
    (hcontrol : isControl c = false) (s : Spelling) (rest : List Char) :
    basicString s .plain (c :: rest) = basicString (s.push c) .plain rest := by
  have hbreak : ¬ (c = '\n' ∨ c = '\r') := by
    rintro (rfl | rfl)
    · exact absurd hcontrol (by decide)
    · exact absurd hcontrol (by decide)
  simp only [basicString, if_neg hbreak, if_neg hquote, if_neg hslash, hcontrol,
    Bool.false_eq_true, if_false]

theorem basicString_short {letter c : Char} (h : (letter, c) ∈ shortEscapes) (s : Spelling)
    (rest : List Char) :
    basicString s .plain ('\\' :: letter :: rest) = basicString (s.push c) .plain rest := by
  simp only [shortEscapes, List.mem_cons, Prod.mk.injEq, List.not_mem_nil, or_false] at h
  rcases h with ⟨rfl, rfl⟩ | ⟨rfl, rfl⟩ | ⟨rfl, rfl⟩ | ⟨rfl, rfl⟩ | ⟨rfl, rfl⟩ | ⟨rfl, rfl⟩ |
    ⟨rfl, rfl⟩ | ⟨rfl, rfl⟩ <;> rfl

theorem isHex_ne {d : Char} (h : isHex d = true) : d ≠ '\n' ∧ d ≠ '\r' ∧ d ≠ '"' := by
  refine ⟨?_, ?_, ?_⟩
  all_goals
    rintro rfl
    exact absurd h (by decide)

theorem basicString_digits {digits : List Char} (hne : digits ≠ [])
    (hhex : ∀ d ∈ digits, isHex d = true) (s : Spelling) (value : Nat) (rest : List Char) :
    basicString s (.digits digits.length value) (digits ++ rest) =
      basicString (s.pushCode (digits.foldl (fun n c => n * 16 + CharSet.hexDigit c) value)) .plain
        rest := by
  induction digits generalizing value with
  | nil => exact absurd rfl hne
  | cons d digits ih =>
      rw [List.forall_mem_cons] at hhex
      obtain ⟨hfeed, hret, hquote⟩ := isHex_ne hhex.1
      rw [List.cons_append, basicString, if_neg (not_or.mpr ⟨hfeed, hret⟩)]
      simp only [if_neg hquote, escapeDigit, hhex.1, if_true, List.length_cons, List.foldl_cons]
      cases digits with
      | nil => rfl
      | cons d' digits =>
          have hleft : ¬ (d' :: digits).length + 1 ≤ 1 := by simp
          rw [if_neg hleft, Nat.add_sub_cancel]
          exact ih (List.cons_ne_nil _ _) hhex.2 _

theorem pushCode_toNat (s : Spelling) (c : Char) : s.pushCode c.toNat = s.push c := by
  have hvalid : c.toNat.isValidChar := c.valid
  unfold Spelling.pushCode
  rw [dif_pos hvalid]
  rfl

theorem basicString_code {letter c : Char} {digits : List Char}
    (h : (letter, digits.length) ∈ codeEscapes) (hhex : ∀ d ∈ digits, isHex d = true)
    (hcode : numeral 16 digits = c.toNat) (s : Spelling) (rest : List Char) :
    basicString s .plain ('\\' :: letter :: (digits ++ rest)) =
      basicString (s.push c) .plain rest := by
  have hne : digits ≠ [] := by
    rintro rfl
    simp [codeEscapes] at h
  have hmode : basicString s .plain ('\\' :: letter :: (digits ++ rest)) =
      basicString s (.digits digits.length 0) (digits ++ rest) := by
    simp only [codeEscapes, List.mem_cons, Prod.mk.injEq, List.not_mem_nil, or_false] at h
    rcases h with ⟨rfl, hlength⟩ | ⟨rfl, hlength⟩ | ⟨rfl, hlength⟩ <;> rw [hlength] <;> rfl
  rw [hmode, basicString_digits hne hhex, ← pushCode_toNat, ← hcode]
  rfl

/-- Whatever stands for a character is read as this character. -/
theorem basicString_spellsChar {c : Char} {piece : List Char} (h : SpellsChar c piece)
    (s : Spelling) (rest : List Char) :
    basicString s .plain (piece ++ rest) = basicString (s.push c) .plain rest := by
  cases h with
  | itself hquote hslash hcontrol => exact basicString_itself hquote hslash hcontrol s rest
  | short h => exact basicString_short h s rest
  | code h hhex hcode => exact basicString_code h hhex hcode s rest

theorem basicString_spellsChars {cs text : List Char} (h : SpellsChars cs text) (s : Spelling)
    (rest : List Char) :
    basicString s .plain (text ++ '"' :: rest) =
      some ({ s with chars := cs.reverse ++ s.chars }.result, rest) := by
  induction h generalizing s with
  | nil => rfl
  | cons hc _ ih =>
      rw [List.append_assoc, basicString_spellsChar hc, ih]
      simp [Spelling.push]

theorem SpellsChar.head?_ne {c : Char} {piece : List Char} (h : SpellsChar c piece) :
    ∃ d rest, piece = d :: rest ∧ d ≠ '"' := by
  cases h with
  | itself hquote => exact ⟨c, [], rfl, hquote⟩
  | short => exact ⟨_, _, rfl, by decide⟩
  | code => exact ⟨_, _, rfl, by decide⟩

/-- The four digits of a number with at most seven bits. -/
def codeDigits (n : Nat) : List Char := ['0', '0', Nat.digitChar (n / 16), Nat.digitChar (n % 16)]

theorem codeDigits_spec : ∀ n < 128,
    numeral 16 (codeDigits n) = n ∧ (codeDigits n).all isHex = true := by
  decide

theorem exists_spellsChar (c : Char) : ∃ piece, SpellsChar c piece := by
  by_cases hquote : c = '"'
  · exact ⟨['\\', '"'], .short (by rw [hquote]; decide)⟩
  by_cases hslash : c = '\\'
  · exact ⟨['\\', '\\'], .short (by rw [hslash]; decide)⟩
  cases hcontrol : isControl c with
  | false => exact ⟨_, .itself hquote hslash hcontrol⟩
  | true =>
      have hlt : c.toNat < 128 := by
        simp only [isControl, Bool.or_eq_true, Bool.and_eq_true, decide_eq_true_iff] at hcontrol
        omega
      obtain ⟨hcode, hhex⟩ := codeDigits_spec c.toNat hlt
      exact ⟨'\\' :: 'u' :: codeDigits c.toNat, .code (by simp [codeEscapes, codeDigits])
        (List.all_eq_true.mp hhex) hcode⟩

theorem exists_spellsChars (cs : List Char) : ∃ text, SpellsChars cs text := by
  induction cs with
  | nil => exact ⟨[], .nil⟩
  | cons c cs ih =>
      obtain ⟨piece, hpiece⟩ := exists_spellsChar c
      obtain ⟨text, htext⟩ := ih
      exact ⟨piece ++ text, .cons hpiece htext⟩

/-! ### What a reader takes -/

/-- A text at which every value ends: it begins with a character that belongs to no word and opens no
string. -/
def EndsValue (rest : List Char) : Prop :=
  ∃ c more, rest = c :: more ∧ isWordChar c = false ∧ c ≠ '"'

/-- A character that begins an entry of an array or a table: it is not skipped, and it closes neither. -/
def beginsItem (c : Char) : Bool := !(['\n', '\r', '\t', ' ', '#', ']', '\x7d'].contains c)

/-- A reader takes a text for something, whatever comes after its end. -/
structure Takes {α : Type} (item : Reader α) (text : List Char) (a : α) : Prop where
  begins : ∃ c more, text = c :: more ∧ beginsItem c = true
  reads : ∀ rest, EndsValue rest → item (text ++ rest) = some (a, rest)

theorem beginsItem_ne {c : Char} (h : beginsItem c = true) :
    c ≠ '\n' ∧ c ≠ '\r' ∧ c ≠ '\t' ∧ c ≠ ' ' ∧ c ≠ '#' ∧ c ≠ ']' ∧ c ≠ '\x7d' := by
  simpa [beginsItem] using h

theorem skipSpace_beginsItem {c : Char} (h : beginsItem c = true) (rest : List Char) :
    skipSpace false (c :: rest) = some (c :: rest) := by
  obtain ⟨hfeed, hret, htab, hspace, hhash, -, -⟩ := beginsItem_ne h
  simp [skipSpace, isBlank, hfeed, hret, htab, hspace, hhash]

section test

variable {p : Char → Bool} {c : Char} (h : p c = true)

include h

theorem ne_of_test {d : Char} (hd : p d = false) : c ≠ d := by
  rintro rfl
  rw [h] at hd
  cases hd

theorem contains_eq_false {l : List Char} (hl : l.any p = false) : l.contains c = false := by
  rw [List.contains_eq_mem, decide_eq_false_iff_not]
  exact fun hmem => List.any_eq_false.mp hl c hmem h

end test

/-! ### Strings -/

theorem value_quote {cs : List Char} (h : ∀ more, cs ≠ '"' :: '"' :: more) (depth : Nat) :
    value (depth + 1) ('"' :: cs) =
      (basicString Spelling.empty .plain cs).map fun (s, rest) => (.string s, rest) := by
  unfold value
  split
  · next heq => exact absurd (List.cons.inj heq).2 (h _)
  · next heq => rw [(List.cons.inj heq).2]
  · next heq => cases heq
  · next heq => cases heq
  · next heq => cases heq
  · next heq => cases heq
  · next hquote _ _ _ _ => exact absurd rfl (hquote cs)

theorem SpellsChars.not_quotes {cs inner rest : List Char} (h : SpellsChars cs inner)
    (hrest : EndsValue rest) (more : List Char) : inner ++ '"' :: rest ≠ '"' :: '"' :: more := by
  intro heq
  cases h with
  | nil =>
      obtain ⟨c, after, rfl, -, hc⟩ := hrest
      exact hc (List.cons.inj (List.cons.inj heq).2).1
  | cons hchar _ =>
      obtain ⟨d, after, rfl, hd⟩ := hchar.head?_ne
      exact hd (List.cons.inj heq).1

/-- The texts of a string. -/
def SpellsString (s : String) (text : List Char) : Prop :=
  ∃ inner, SpellsChars s.toList inner ∧ text = '"' :: (inner ++ ['"'])

theorem takes_string {s : String} {text : List Char} (h : SpellsString s text) (depth : Nat) :
    Takes (value (depth + 1)) text (.string (.ok s)) := by
  obtain ⟨inner, hinner, rfl⟩ := h
  refine ⟨⟨_, _, rfl, by decide⟩, fun rest hrest => ?_⟩
  have hread := basicString_spellsChars hinner Spelling.empty rest
  rw [List.cons_append, List.append_assoc, List.singleton_append,
    value_quote (hinner.not_quotes hrest), hread]
  simp [Spelling.result, Spelling.empty]

/-! ### Numbers -/

theorem isWordChar_of_isDigit {c : Char} (h : c.isDigit = true) : isWordChar c = true := by
  rw [isWordChar, contains_eq_false h (by rfl)]
  rfl

theorem beginsItem_of_isDigit {c : Char} (h : c.isDigit = true) : beginsItem c = true := by
  rw [beginsItem, contains_eq_false h (by rfl)]
  rfl

theorem head?_toDigits_ne {n : Nat} (h : 0 < n) : (Nat.toDigits 10 n).head? ≠ some '0' := by
  induction n using Nat.strong_induction_on with
  | _ n ih =>
      by_cases hlt : n < 10
      · rw [Nat.toDigits_of_lt_base hlt]
        interval_cases n <;> decide
      · have hdiv : 0 < n / 10 := by omega
        rw [Nat.toDigits_of_base_le (by decide) (by omega),
          List.head?_append_of_ne_nil _ Nat.toDigits_ne_nil]
        exact ih (n / 10) (by omega) hdiv

section digits

variable {ds : List Char} (hds : ∀ c ∈ ds, c.isDigit = true)

include hds

theorem expect_of_digits {c : Char} (hc : c.isDigit = false) : expect c ds = none := by
  cases ds with
  | nil => rfl
  | cons d ds => simp [expect, ne_of_test (hds d List.mem_cons_self) hc]

theorem digits_of_fixedDigits {count n : Nat} {rest : List Char}
    (h : fixedDigits count ds = some (n, rest)) : ∀ c ∈ rest, c.isDigit = true := by
  unfold fixedDigits at h
  dsimp only at h
  split_ifs at h
  cases h
  exact fun c hc => hds c (List.mem_of_mem_drop hc)

theorem isDatetime_of_digits : isDatetime ds = false ∧ isDateShaped ds = false := by
  have hdate : date? ds = none ∧ isDateShaped ds = false := by
    unfold date? isDateShaped
    cases h : fixedDigits 4 ds with
    | none => exact ⟨rfl, rfl⟩
    | some year =>
        have hexpect : expect '-' year.2 = none :=
          expect_of_digits (digits_of_fixedDigits hds h) (by decide)
        simp [hexpect]
  have htime : time? ds = none := by
    unfold time?
    cases h : fixedDigits 2 ds with
    | none => rfl
    | some hour =>
        have hexpect : expect ':' hour.2 = none :=
          expect_of_digits (digits_of_fixedDigits hds h) (by decide)
        simp [hexpect]
  refine ⟨?_, hdate.2⟩
  unfold isDatetime
  simp [hdate.1, htime]

theorem plainDigits_of_digits (hne : ds ≠ []) : plainDigits Char.isDigit ds = some ds := by
  induction ds with
  | nil => exact absurd rfl hne
  | cons d ds ih =>
      rw [List.forall_mem_cons] at hds
      cases ds with
      | nil => simp [plainDigits, hds.1]
      | cons d' ds =>
          have hlow : d' ≠ '_' := ne_of_test (hds.2 d' List.mem_cons_self) (by decide)
          rw [plainDigits, if_pos hds.1, ih hds.2 (List.cons_ne_nil _ _)]
          · rfl
          · simp
          · simpa using hlow

theorem splitSign_of_digits : splitSign ds = (false, ds) := by
  unfold splitSign
  split
  · exact absurd (hds '+' List.mem_cons_self) (by decide)
  · exact absurd (hds '-' List.mem_cons_self) (by decide)
  · rfl

theorem numeral_of_digits : numeral 10 ds = Nat.ofDigitChars 10 ds 0 := by
  unfold numeral
  rw [Nat.ofDigitChars_eq_foldl]
  generalize 0 = start
  induction ds generalizing start with
  | nil => rfl
  | cons d ds ih =>
      rw [List.forall_mem_cons] at hds
      have hdigit : '0' ≤ d ∧ d ≤ '9' := by
        have h := hds.1
        simp only [Char.isDigit, Bool.and_eq_true, decide_eq_true_eq] at h
        exact h
      have hvalue : CharSet.hexDigit d = d.toNat - '0'.toNat := if_pos hdigit
      rw [List.foldl_cons, List.foldl_cons, hvalue, Nat.mul_comm]
      exact ih hds.2 _

end digits

/-- The digits of a number denote it. -/
theorem scalar?_toDigits (n : Nat) : scalar? (Nat.toDigits 10 n) = some (.integer n) := by
  have hds : ∀ c ∈ Nat.toDigits 10 n, c.isDigit = true := fun c hc =>
    Nat.isDigit_of_mem_toDigits (by decide) (by decide) hc
  have hvalue : numeral 10 (Nat.toDigits 10 n) = n :=
    (numeral_of_digits hds).trans Nat.ofDigitChars_ten_toDigits
  have hplain := plainDigits_of_digits hds Nat.toDigits_ne_nil
  have htimes := isDatetime_of_digits hds
  have hzero : ∀ rest, Nat.toDigits 10 n = '0' :: rest → rest = [] := by
    intro rest hrest
    rcases Nat.eq_zero_or_pos n with rfl | hn
    · exact (List.cons.inj hrest).2.symm
    · exact absurd (by rw [hrest]; rfl) (head?_toDigits_ne hn)
  have hhead : ∀ c rest, Nat.toDigits 10 n = c :: rest → c.isDigit = true := fun c rest h =>
    hds c (by rw [h]; exact List.mem_cons_self)
  have hsecond : ∀ c d rest, Nat.toDigits 10 n = c :: d :: rest → d.isDigit = true := fun c d rest h =>
    hds d (by rw [h]; simp)
  generalize Nat.toDigits 10 n = ds at *
  have hdecimal : decimalDigits ds = some ds := by
    unfold decimalDigits
    rw [hplain]
    split
    · next heq => exact absurd (hzero _ (Option.some.inj heq)) (List.cons_ne_nil _ _)
    · rfl
  have hinteger : integer? ds = some (n : Int) := by
    unfold integer?
    split
    · exact absurd (hsecond _ _ _ rfl) (by decide)
    · exact absurd (hsecond _ _ _ rfl) (by decide)
    · exact absurd (hsecond _ _ _ rfl) (by decide)
    · rw [splitSign_of_digits hds]
      simp only [hdecimal, Option.map_some, Bool.false_eq_true, if_false, hvalue]
  have htrue : ds ≠ ['t', 'r', 'u', 'e'] := fun h => absurd (hhead _ _ h) (by decide)
  have hfalse : ds ≠ ['f', 'a', 'l', 's', 'e'] := fun h => absurd (hhead _ _ h) (by decide)
  unfold scalar?
  rw [if_neg htrue, if_neg hfalse, htimes.1, if_neg Bool.false_ne_true, hinteger]

/-- A word is read up to the character that ends it. -/
theorem word_append {first rest : List Char} (hne : first ≠ [])
    (hfirst : ∀ c ∈ first, isWordChar c = true) (hdate : isDateShaped first = false)
    (hrest : EndsValue rest) : word (first ++ rest) = some (.word (scalar? first), rest) := by
  obtain ⟨c, more, rfl, hc, -⟩ := hrest
  have htake : (first ++ c :: more).takeWhile isWordChar = first := by
    rw [List.takeWhile_append_of_pos hfirst, List.takeWhile_cons_of_neg (by simp [hc]),
      List.append_nil]
  have hempty : ¬ first.isEmpty = true := by simpa using hne
  unfold word
  simp only [htake, if_neg hempty, hdate, List.drop_left]

theorem value_word {c : Char} (h : c.isDigit = true) (depth : Nat) (rest : List Char) :
    value (depth + 1) (c :: rest) = word (c :: rest) := by
  unfold value
  split
  iterate 6
    next heq => exact absurd (List.cons.inj heq).1 (ne_of_test h (by decide))
  rfl

theorem takes_decimal (n depth : Nat) :
    Takes (value (depth + 1)) (toString n).toList (.word (some (.integer n))) := by
  rw [Nat.toString_eq_repr, Nat.toList_repr, ← scalar?_toDigits]
  have hds : ∀ c ∈ Nat.toDigits 10 n, c.isDigit = true := fun c hc =>
    Nat.isDigit_of_mem_toDigits (by decide) (by decide) hc
  have hne : Nat.toDigits 10 n ≠ [] := Nat.toDigits_ne_nil
  generalize Nat.toDigits 10 n = ds at hds hne ⊢
  cases ds with
  | nil => exact absurd rfl hne
  | cons d ds =>
      have hd := hds d List.mem_cons_self
      refine ⟨⟨d, ds, rfl, beginsItem_of_isDigit hd⟩, fun rest hrest => ?_⟩
      rw [List.cons_append, value_word hd, ← List.cons_append]
      exact word_append hne (fun c hc => isWordChar_of_isDigit (hds c hc))
        (isDatetime_of_digits hds).2 hrest

/-! ### Sequences -/

section sequence
variable {α : Type} {close : Char} {entry : Reader α} {fuel : Nat} {done : List α} {cs rest : List Char}

theorem sequence_closes (hskip : skipSpace false cs = some (close :: rest)) :
    sequence close entry (fuel + 1) done cs = some (done.reverse, rest) := by
  rw [sequence, hskip, Option.bind_eq_bind, Option.bind_some]
  exact if_pos rfl

theorem sequence_entry {c d : Char} {more after : List Char} {a : α}
    (hskip : skipSpace false cs = some (c :: more)) (hc : c ≠ close)
    (hentry : entry (c :: more) = some (a, after)) (hafter : skipSpace false after = some (d :: rest)) :
    sequence close entry (fuel + 1) done cs =
      if d = ',' then sequence close entry fuel (a :: done) rest
      else if d = close then some ((a :: done).reverse, rest)
      else none := by
  rw [sequence, hskip]
  simp only [Option.bind_eq_bind, Option.bind_some, if_neg hc, hentry, hafter]
  rfl

end sequence

/-- What stands between two entries. -/
def comma : List Char := [',', ' ']

theorem sequence_intercalate {α : Type} {close : Char} {entry : Reader α}
    (hclose : beginsItem close = false) (hcomma : close ≠ ',')
    {closing rest : List Char} (hclosing : skipSpace false closing = some (close :: rest))
    (hends : EndsValue closing) {texts : List (List Char)} {as : List α}
    (htexts : List.Forall₂ (Takes entry) texts as) (fuel : Nat) (hfuel : texts.length < fuel)
    (done : List α) (cs : List Char)
    (hcs : skipSpace false cs = skipSpace false (comma.intercalate texts ++ closing)) :
    sequence close entry fuel done cs = some (done.reverse ++ as, rest) := by
  induction htexts generalizing fuel done cs with
  | nil =>
      obtain ⟨fuel, rfl⟩ : ∃ n, fuel = n + 1 := ⟨fuel - 1, by simp at hfuel; omega⟩
      rw [List.append_nil]
      exact sequence_closes (hcs.trans hclosing)
  | @cons text a texts as htext htexts ih =>
      obtain ⟨c, more, rfl, hc⟩ := htext.begins
      have hne : c ≠ close := by
        rintro rfl
        rw [hclose] at hc
        cases hc
      obtain ⟨fuel, rfl⟩ : ∃ n, fuel = n + 1 := ⟨fuel - 1, by simp at hfuel; omega⟩
      cases htexts with
      | nil =>
          have hskip : skipSpace false cs = some (c :: (more ++ closing)) := by
            rw [hcs, List.intercalate_singleton]
            exact skipSpace_beginsItem hc _
          rw [sequence_entry hskip hne (htext.reads closing hends) hclosing, if_neg hcomma, if_pos rfl]
          simp
      | @cons text' a' texts as htext' htexts =>
          have hsplit : comma.intercalate ((c :: more) :: text' :: texts) ++ closing =
              c :: (more ++ (',' :: ' ' :: (comma.intercalate (text' :: texts) ++ closing))) := by
            rw [List.intercalate_cons_cons]
            simp [comma]
          have hskip : skipSpace false cs = some
              (c :: (more ++ (',' :: ' ' :: (comma.intercalate (text' :: texts) ++ closing)))) := by
            rw [hcs, hsplit]
            exact skipSpace_beginsItem hc _
          have hread := htext.reads (',' :: ' ' :: (comma.intercalate (text' :: texts) ++ closing))
            ⟨',', _, rfl, by decide, by decide⟩
          have hblank : skipSpace false (' ' :: (comma.intercalate (text' :: texts) ++ closing)) =
              skipSpace false (comma.intercalate (text' :: texts) ++ closing) := rfl
          have hlength : (text' :: texts).length < fuel := by simpa using hfuel
          rw [sequence_entry hskip hne hread rfl, if_pos rfl,
            ih fuel hlength (a :: done) _ hblank]
          simp

/-! ### Arrays -/

theorem length_le_of_takes {α : Type} {item : Reader α} {texts : List (List Char)} {as : List α}
    (h : List.Forall₂ (Takes item) texts as) : texts.length ≤ (comma.intercalate texts).length := by
  induction h with
  | nil => exact Nat.zero_le _
  | @cons text a texts as htext htexts ih =>
      obtain ⟨c, more, rfl, -⟩ := htext.begins
      cases htexts with
      | nil => simp [List.intercalate_singleton]
      | @cons text' a' texts as _ _ =>
          rw [List.intercalate_cons_cons]
          simp only [List.length_cons, List.length_append, comma] at ih ⊢
          omega

theorem takes_array {depth : Nat} {texts : List (List Char)} {items : List Written}
    (h : List.Forall₂ (Takes (value depth)) texts items) :
    Takes (value (depth + 1)) ('[' :: (comma.intercalate texts ++ [']'])) (.array items) := by
  refine ⟨⟨'[', _, rfl, by decide⟩, fun rest hrest => ?_⟩
  have hclosing : skipSpace false (']' :: rest) = some (']' :: rest) := by
    simp [skipSpace, isBlank]
  have hends : EndsValue (']' :: rest) := ⟨']', rest, rfl, by decide, by decide⟩
  have hfuel : texts.length < (comma.intercalate texts ++ ']' :: rest).length + 1 := by
    have hlength := length_le_of_takes h
    rw [List.length_append]
    omega
  have hread := sequence_intercalate (by decide) (by decide) hclosing hends h _ hfuel [] _ rfl
  rw [List.cons_append, List.append_assoc, List.singleton_append]
  show (sequence ']' (value depth) _ [] _).map _ = _
  rw [hread]
  rfl

end TextLimits.Toml
