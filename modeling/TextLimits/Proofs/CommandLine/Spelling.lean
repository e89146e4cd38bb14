import Mathlib
import TextLimits.Proofs.CommandLine

/-! # Spellings of a command line

A command line can be spelled in many ways: an option by its name or its letter, its values attached or
separate, a list cut into any number of occurrences, and the options in any order.  What counts is which
values each option is given, in order (`CommandLine.given`); the occurrences alone say what the reading
comes to (`Progress.reached`), whatever the arguments are that write them (`Writing.run`).  So every
spelling of a command line is read as this command line (`parse_of_spells`). -/

namespace TextLimits.CommandLine

/-! ### Options and their tokens -/

/-- The texts that announce an option: two dashes and its name, or one dash and its letter. -/
inductive Opt.Mark (o : Opt) : String → Prop
  | long : Mark o ("--" ++ o.longName)
  | short {c : Char} (hletter : o.letter? = some c) : Mark o ("-" ++ String.singleton c)

theorem Opt.ofLongName?_longName (o : Opt) : Opt.ofLongName? o.longName = some o := by
  cases o <;> decide +kernel

theorem Opt.ofLetter?_of_letter? {o : Opt} {c : Char} (h : o.letter? = some c) :
    Opt.ofLetter? c = some o ∧ c ≠ '-' := by
  cases o <;> cases h <;> exact ⟨by decide +kernel, by decide⟩

theorem Opt.ne_equals_of_mem_longName {o : Opt} {c : Char} (h : c ∈ o.longName.toList) : c ≠ '=' := by
  have hall : (o.longName.toList.all fun c => c ≠ '=') = true := by
    cases o <;> decide +kernel
  exact of_decide_eq_true (List.all_eq_true.mp hall c h)

namespace Token

theorem ofLong_longName (o : Opt) (rest : List Char) (hrest : ∀ c ∈ rest.head?, c = '=') :
    ofLong (o.longName.toList ++ rest) =
      if rest = [] then .option o true else .valued o (String.ofList rest.tail) := by
  have hname : ∀ c ∈ o.longName.toList, decide (c ≠ '=') = true :=
    fun c hc => decide_eq_true (Opt.ne_equals_of_mem_longName hc)
  have htake : (o.longName.toList ++ rest).takeWhile (· ≠ '=') = o.longName.toList := by
    rw [List.takeWhile_append_of_pos hname]
    cases rest with
    | nil => simp
    | cons c value => simp [hrest c rfl]
  have hdrop : (o.longName.toList ++ rest).dropWhile (· ≠ '=') = rest := by
    rw [List.dropWhile_append_of_pos hname]
    cases rest with
    | nil => rfl
    | cons c value => simp [hrest c rfl]
  unfold ofLong
  simp only [htake, hdrop, String.ofList_toList, Opt.ofLongName?_longName]
  cases rest <;> rfl

theorem ofArgument_longName (o : Opt) : ofArgument ("--" ++ o.longName) = [.option o true] := by
  have hbody := ofLong_longName o [] (by simp)
  rw [List.append_nil] at hbody
  simp [ofArgument, hbody]

theorem ofArgument_mark {o : Opt} {mark : String} (hvalues : o.arity ≠ .none) (hmark : o.Mark mark) :
    ∃ long, ofArgument mark = [.option o long] := by
  cases hmark with
  | long => exact ⟨true, ofArgument_longName o⟩
  | @short c hletter =>
      obtain ⟨hof, hdash⟩ := Opt.ofLetter?_of_letter? hletter
      refine ⟨false, ?_⟩
      simp [ofArgument, ofLetters, hof, hvalues]

theorem ofArgument_attached {o : Opt} {mark : String} (hvalues : o.arity ≠ .none) (hmark : o.Mark mark)
    (value : String) : ofArgument (mark ++ "=" ++ value) = [.valued o value] := by
  cases hmark with
  | long =>
      have hbody := ofLong_longName o ('=' :: value.toList) (by simp)
      simp [ofArgument, hbody]
  | @short c hletter =>
      obtain ⟨hof, hdash⟩ := Opt.ofLetter?_of_letter? hletter
      simp [ofArgument, ofLetters, hof, hvalues, attached]

theorem ofArgument_plain {value : String} (h : value.toList.head? ≠ some '-') :
    ofArgument value = [.plain value] := by
  unfold ofArgument
  split
  · next heq => simp [heq] at h
  · next heq => simp [heq] at h
  · rfl

theorem ofLetters_verbose (n : Nat) :
    ofLetters (List.replicate n 'v') = List.replicate n (.option .verbose false) := by
  induction n with
  | zero => rfl
  | succ n ih =>
      have hof : Opt.ofLetter? 'v' = some .verbose := by decide +kernel
      simp [List.replicate_succ, ofLetters, hof, ih, Opt.arity]

theorem ofArgument_verbose (n : Nat) :
    ofArgument ("-" ++ String.ofList (List.replicate (n + 1) 'v')) =
      List.replicate (n + 1) (.option .verbose false) := by
  have hletters := ofLetters_verbose (n + 1)
  rw [List.replicate_succ] at hletters
  simp [ofArgument, List.replicate_succ, hletters]

/-- Arguments none of which ends the options are read one by one. -/
theorem ofArguments_append {arguments : List String} (h : "--" ∉ arguments) (rest : List String) :
    ofArguments (arguments ++ rest) = arguments.flatMap ofArgument ++ ofArguments rest := by
  induction arguments with
  | nil => rfl
  | cons argument others ih =>
      obtain ⟨hargument, hothers⟩ := not_or.mp (List.mem_cons.not.mp h)
      rw [List.cons_append, ofArguments, if_neg (Ne.symm hargument), ih hothers, List.flatMap_cons,
        List.append_assoc]

theorem ends_not_mem {arguments : List String}
    (h : ∀ text, Token.stray text ∉ arguments.flatMap ofArgument) : "--" ∉ arguments := by
  intro hmem
  have hstray : ofArgument "--" = [.stray "--"] := by decide +kernel
  exact h "--" (List.mem_flatMap.mpr ⟨"--", hmem, by simp [hstray]⟩)

end Token

/-! ### Occurrences of options -/

/-- An option with the values that it has at one place. -/
structure Occurrence where
  opt : Opt
  values : List String

/-- What an option is given, place by place. -/
def given (o : Opt) (occurrences : List Occurrence) : List (List String) :=
  occurrences.filterMap fun x => if x.opt = o then some x.values else none

theorem given_append (o : Opt) (occurrences more : List Occurrence) :
    given o (occurrences ++ more) = given o occurrences ++ given o more :=
  List.filterMap_append

theorem given_singleton (o : Opt) (x : Occurrence) :
    given o [x] = if x.opt = o then [x.values] else [] := by
  by_cases h : x.opt = o <;> simp [given, h]

theorem given_eq_nil_iff {o : Opt} {occurrences : List Occurrence} :
    given o occurrences = [] ↔ ∀ x ∈ occurrences, x.opt ≠ o := by
  simp [given, List.filterMap_eq_nil_iff]

/-- The command line that occurrences of options make up. -/
def ofOccurrences (occurrences : List Occurrence) : CommandLine where
  inputs := (given .inputs occurrences).flatten
  excludes := (given .excludes occurrences).flatten
  ignoreLinesMatching := (given .ignoreLinesMatching occurrences).flatten
  maxLineLength := (given .maxLineLength occurrences).flatten.head?.bind number?
  maxLinesInFile := (given .maxLinesInFile occurrences).flatten.head?.bind number?
  config := (given .config occurrences).flatten.head?
  noConfig := given .noConfig occurrences ≠ []
  verbose := (given .verbose occurrences).length

/-- Occurrences that can stand in one command line. -/
structure Compatible (occurrences : List Occurrence) : Prop where
  once : ∀ o : Opt, o.repeatable = false → (given o occurrences).length ≤ 1
  lineLength : ∀ values ∈ given .maxLineLength occurrences, ∀ value ∈ values, (number? value).isSome = true
  linesInFile :
    ∀ values ∈ given .maxLinesInFile occurrences, ∀ value ∈ values, (number? value).isSome = true
  config : ∀ values ∈ given .config occurrences, "" ∉ values
  verbose : (given .verbose occurrences).length ≤ maxVerbose
  help : given .help occurrences = []
  version : given .version occurrences = []

theorem Compatible.of_append {occurrences more : List Occurrence}
    (h : Compatible (occurrences ++ more)) : Compatible occurrences := by
  have hlength : ∀ o, (given o occurrences).length ≤ (given o (occurrences ++ more)).length := by
    intro o
    rw [given_append, List.length_append]
    omega
  have hmem : ∀ {o values}, values ∈ given o occurrences → values ∈ given o (occurrences ++ more) := by
    intro o values hvalues
    rw [given_append]
    exact List.mem_append_left _ hvalues
  exact
    { once := fun o ho => (hlength o).trans (h.once o ho)
      lineLength := fun values hvalues => h.lineLength values (hmem hvalues)
      linesInFile := fun values hvalues => h.linesInFile values (hmem hvalues)
      config := fun values hvalues => h.config values (hmem hvalues)
      verbose := (hlength .verbose).trans h.verbose
      help := (List.append_eq_nil_iff.mp ((given_append _ _ _).symm.trans h.help)).1
      version := (List.append_eq_nil_iff.mp ((given_append _ _ _).symm.trans h.version)).1 }

theorem Compatible.given_eq_nil {occurrences : List Occurrence} {x : Occurrence}
    (h : Compatible (occurrences ++ [x])) (honce : x.opt.repeatable = false) :
    given x.opt occurrences = [] := by
  have hlength := h.once x.opt honce
  rw [given_append, given_singleton, if_pos rfl, List.length_append, List.length_singleton] at hlength
  exact List.length_eq_zero_iff.mp (by omega)

theorem mem_given_concat (occurrences : List Occurrence) (x : Occurrence) :
    x.values ∈ given x.opt (occurrences ++ [x]) := by
  rw [given_append, given_singleton, if_pos rfl]
  exact List.mem_append_right _ List.mem_cons_self

/-! ### What the reading comes to -/

namespace Progress

/-- The reading after some occurrences, when the last one has taken effect. -/
def reached (occurrences : List Occurrence) : Progress :=
  ⟨ofOccurrences occurrences, occurrences.map (·.opt), none⟩

variable {occurrences : List Occurrence} {x : Occurrence}

theorem checkNew_reached (h : Compatible (occurrences ++ [x])) :
    (reached occurrences).checkNew x.opt = .ok () := by
  unfold checkNew
  refine if_neg ?_
  rintro ⟨hmem, honce⟩
  obtain ⟨y, hy, hopt⟩ := List.mem_map.mp hmem
  exact given_eq_nil_iff.mp (h.given_eq_nil honce) y hy hopt

theorem foldlM_addValue {o : Opt} (build : List String → CommandLine)
    (hadd : ∀ before value, (build before).addValue o value = .ok (build (before ++ [value])))
    (before values : List String) :
    values.foldlM (fun line => line.addValue o) (build before) = .ok (build (before ++ values)) := by
  induction values generalizing before with
  | nil => simp [pure, Except.pure]
  | cons value values ih =>
      rw [List.foldlM_cons, hadd, List.append_cons before value values]
      exact ih (before ++ [value])

theorem addValues_reached (hvalues : x.opt.arity ≠ .none)
    (hone : x.opt.arity = .one → x.values.length = 1) (h : Compatible (occurrences ++ [x])) :
    x.values.foldlM (fun line => line.addValue x.opt) (ofOccurrences occurrences) =
      .ok (ofOccurrences (occurrences ++ [x])) := by
  obtain ⟨o, values⟩ := x
  have hlast := mem_given_concat occurrences ⟨o, values⟩
  have hfirst := h.given_eq_nil
  simp only at hvalues hone hlast hfirst ⊢
  cases o with
  | inputs =>
      rw [foldlM_addValue (fun inputs => { ofOccurrences occurrences with inputs }) fun _ _ => rfl]
      simp [ofOccurrences, given_append, given_singleton]
  | excludes =>
      rw [foldlM_addValue (fun excludes => { ofOccurrences occurrences with excludes }) fun _ _ => rfl]
      simp [ofOccurrences, given_append, given_singleton]
  | ignoreLinesMatching =>
      rw [foldlM_addValue
        (fun ignoreLinesMatching => { ofOccurrences occurrences with ignoreLinesMatching }) fun _ _ => rfl]
      simp [ofOccurrences, given_append, given_singleton]
  | maxLineLength =>
      obtain ⟨value, rfl⟩ := List.length_eq_one_iff.mp (hone rfl)
      obtain ⟨n, hn⟩ := Option.isSome_iff_exists.mp (h.lineLength _ hlast value (by simp))
      simp [addValue, hn, ofOccurrences, given_append, given_singleton, hfirst rfl]
  | maxLinesInFile =>
      obtain ⟨value, rfl⟩ := List.length_eq_one_iff.mp (hone rfl)
      obtain ⟨n, hn⟩ := Option.isSome_iff_exists.mp (h.linesInFile _ hlast value (by simp))
      simp [addValue, hn, ofOccurrences, given_append, given_singleton, hfirst rfl]
  | config =>
      obtain ⟨value, rfl⟩ := List.length_eq_one_iff.mp (hone rfl)
      have hpath : value ≠ "" := fun heq => h.config _ hlast (by simp [heq])
      simp [addValue, hpath, ofOccurrences, given_append, given_singleton, hfirst rfl]
  | noConfig | verbose | help | version => exact absurd rfl hvalues

theorem take_reached (hvalues : x.opt.arity ≠ .none) (hsome : x.values ≠ [])
    (hone : x.opt.arity = .one → x.values.length = 1) (h : Compatible (occurrences ++ [x])) :
    (reached occurrences).take x.opt x.values = .ok (reached (occurrences ++ [x])) := by
  have hempty : x.values.isEmpty = false := by simpa using hsome
  have hline : Except.mapError Stop.refused
      (x.values.foldlM (fun line => addValue line x.opt) (ofOccurrences occurrences)) =
        .ok (ofOccurrences (occurrences ++ [x])) := by
    rw [addValues_reached hvalues hone h]
    rfl
  unfold take
  rw [checkNew_reached h, hempty]
  simp only [reached, bind, Except.bind, hline, pure, Except.pure, List.map_append, List.map_cons,
    List.map_nil]
  rfl

theorem addFlag_reached {o : Opt} (hflag : o.arity = .none)
    (h : Compatible (occurrences ++ [⟨o, []⟩])) (long : Bool) :
    (ofOccurrences occurrences).addFlag o long = .ok (ofOccurrences (occurrences ++ [⟨o, []⟩])) := by
  have hhelp := given_eq_nil_iff.mp h.help ⟨o, []⟩ (by simp)
  have hversion := given_eq_nil_iff.mp h.version ⟨o, []⟩ (by simp)
  cases o with
  | noConfig => simp [addFlag, ofOccurrences, given_append, given_singleton]
  | verbose =>
      have hcount := h.verbose
      rw [given_append, given_singleton, if_pos rfl, List.length_append, List.length_singleton] at hcount
      simp [addFlag, ofOccurrences, given_append, given_singleton, hcount]
  | help => exact absurd rfl hhelp
  | version => exact absurd rfl hversion
  | inputs | excludes | ignoreLinesMatching | maxLineLength | maxLinesInFile | config => cases hflag

theorem meet_reached {p : Progress} (hp : p.settle = .ok (reached occurrences)) {o : Opt}
    (hflag : o.arity = .none) (h : Compatible (occurrences ++ [⟨o, []⟩])) (long : Bool) :
    p.meet o long = .ok (reached (occurrences ++ [⟨o, []⟩])) := by
  have hnew : (reached occurrences).checkNew o = .ok () := checkNew_reached h
  have hline := addFlag_reached hflag h long
  unfold meet
  simp only [hp, bind, Except.bind, hflag, hnew, if_true]
  simp only [reached, hline, pure, Except.pure, List.map_append, List.map_cons, List.map_nil]

theorem foldlM_plain {o : Opt} (line : CommandLine) (before : List Opt) (waiting values : List String)
    (hone : o.arity = .one → (waiting ++ values).length ≤ 1) :
    (values.map Token.plain).foldlM step ⟨line, before, some (o, waiting)⟩ =
      .ok ⟨line, before, some (o, waiting ++ values)⟩ := by
  induction values generalizing waiting with
  | nil => simp [pure, Except.pure]
  | cons value values ih =>
      have hfits : ¬ (o.arity = .one ∧ waiting ≠ []) := by
        rintro ⟨hvalue, hne⟩
        have hlength := hone hvalue
        have hpos := List.length_pos_of_ne_nil hne
        rw [List.length_append, List.length_cons] at hlength
        omega
      rw [List.append_cons] at hone ⊢
      rw [List.map_cons, List.foldlM_cons, step]
      simp only [if_neg hfits, bind, Except.bind]
      exact ih _ hone

theorem foldlM_flags {o : Opt} (hflag : o.arity = .none) (n : Nat) {occurrences : List Occurrence}
    {p : Progress} (hp : p.settle = .ok (reached occurrences))
    (h : Compatible (occurrences ++ List.replicate n ⟨o, []⟩)) :
    ∃ q, (List.replicate n (Token.option o false)).foldlM step p = .ok q ∧
      q.settle = .ok (reached (occurrences ++ List.replicate n ⟨o, []⟩)) := by
  induction n generalizing occurrences p with
  | zero => exact ⟨p, rfl, by simpa using hp⟩
  | succ n ih =>
      rw [List.replicate_succ, List.append_cons] at h
      have hmeet : p.step (.option o false) = .ok (reached (occurrences ++ [⟨o, []⟩])) :=
        meet_reached hp hflag h.of_append false
      obtain ⟨q, hq, hsettle⟩ := ih (p := .reached (occurrences ++ [⟨o, []⟩])) rfl h
      rw [List.replicate_succ, List.replicate_succ, List.append_cons, List.foldlM_cons, hmeet]
      exact ⟨q, hq, hsettle⟩

end Progress

/-! ### Writing occurrences down -/

/-- Arguments that write occurrences next to each other: an option with its values, or a cluster. -/
inductive Piece : List Occurrence → List String → Prop
  /-- A value attached by an equals sign. -/
  | attached {o : Opt} {mark : String} (value : String) (hvalues : o.arity ≠ .none)
      (hmark : o.Mark mark) : Piece [⟨o, [value]⟩] [mark ++ "=" ++ value]
  /-- Separate values, none of which starts with a dash. -/
  | separate {o : Opt} {mark : String} {values : List String} (hvalues : o.arity ≠ .none)
      (hmark : o.Mark mark) (hsome : values ≠ []) (hone : o.arity = .one → values.length = 1)
      (hplain : ∀ value ∈ values, value.toList.head? ≠ some '-') :
      Piece [⟨o, values⟩] (mark :: values)
  /-- An option that takes no value, spelled out. -/
  | flag {o : Opt} (hflag : o.arity = .none) : Piece [⟨o, []⟩] ["--" ++ o.longName]
  /-- A cluster of the letter that asks for more diagnostics. -/
  | cluster (n : Nat) :
      Piece (List.replicate (n + 1) ⟨.verbose, []⟩) ["-" ++ String.ofList (List.replicate (n + 1) 'v')]

/-- Arguments that write occurrences, piece by piece. -/
inductive Writing : List Occurrence → List String → Prop
  | nil : Writing [] []
  | append {occurrences more : List Occurrence} {piece arguments : List String}
      (hpiece : Piece occurrences piece) (hrest : Writing more arguments) :
      Writing (occurrences ++ more) (piece ++ arguments)

theorem flatMap_ofArgument_plain {values : List String}
    (hplain : ∀ value ∈ values, value.toList.head? ≠ some '-') :
    values.flatMap Token.ofArgument = values.map Token.plain := by
  induction values with
  | nil => rfl
  | cons value values ih =>
      obtain ⟨hvalue, hvalues⟩ := List.forall_mem_cons.mp hplain
      rw [List.flatMap_cons, Token.ofArgument_plain hvalue, ih hvalues, List.map_cons,
        List.singleton_append]

namespace Piece

variable {more : List Occurrence} {piece : List String}

theorem ends_not_mem (h : Piece more piece) : "--" ∉ piece := by
  refine Token.ends_not_mem fun text => ?_
  cases h with
  | attached value hvalues hmark => simp [Token.ofArgument_attached hvalues hmark]
  | separate hvalues hmark _ _ hplain =>
      obtain ⟨long, hlong⟩ := Token.ofArgument_mark hvalues hmark
      rw [List.flatMap_cons, hlong, flatMap_ofArgument_plain hplain]
      simp
  | flag => simp [Token.ofArgument_longName]
  | cluster n =>
      rw [List.flatMap_singleton, Token.ofArgument_verbose]
      simp

/-- **Reading a piece** comes to what its occurrences come to. -/
theorem run (hpiece : Piece more piece) {occurrences : List Occurrence} {p : Progress}
    (hp : p.settle = .ok (.reached occurrences)) (h : Compatible (occurrences ++ more)) :
    ∃ q, (piece.flatMap Token.ofArgument).foldlM Progress.step p = .ok q ∧
      q.settle = .ok (.reached (occurrences ++ more)) := by
  cases hpiece with
  | attached value hvalues hmark =>
      refine ⟨.reached (occurrences ++ _), ?_, rfl⟩
      have htake := Progress.take_reached hvalues (by simp) (by simp) h
      simp only at htake
      rw [List.flatMap_singleton, Token.ofArgument_attached hvalues hmark, List.foldlM_cons, Progress.step,
        if_neg hvalues, hp]
      simp only [bind, Except.bind, htake]
      rfl
  | @separate o mark values hvalues hmark hsome hone hplain =>
      obtain ⟨long, hlong⟩ := Token.ofArgument_mark hvalues hmark
      refine ⟨⟨ofOccurrences occurrences, occurrences.map (·.opt), some (o, values)⟩, ?_, ?_⟩
      · rw [List.flatMap_cons, hlong, flatMap_ofArgument_plain hplain, List.singleton_append,
          List.foldlM_cons, Progress.step, Progress.meet, hp]
        simp only [bind, Except.bind, if_neg hvalues]
        exact Progress.foldlM_plain _ _ [] values fun hvalue => (hone hvalue).le
      · exact Progress.take_reached (x := ⟨o, values⟩) hvalues hsome hone h
  | flag hflag =>
      refine ⟨.reached (occurrences ++ _), ?_, rfl⟩
      have hmeet := Progress.meet_reached hp hflag h true
      rw [List.flatMap_singleton, Token.ofArgument_longName, List.foldlM_cons, Progress.step, hmeet]
      rfl
  | cluster n =>
      rw [List.flatMap_singleton, Token.ofArgument_verbose]
      exact Progress.foldlM_flags rfl (n + 1) hp h

end Piece

/-- **Reading what writes occurrences**, after others, comes to what all of them come to. -/
theorem Writing.run {more : List Occurrence} {arguments : List String} (hwriting : Writing more arguments)
    {occurrences : List Occurrence} {p : Progress} (hp : p.settle = .ok (.reached occurrences))
    (h : Compatible (occurrences ++ more)) :
    ∃ q, (Token.ofArguments arguments).foldlM Progress.step p = .ok q ∧
      q.settle = .ok (.reached (occurrences ++ more)) := by
  induction hwriting generalizing occurrences p with
  | nil => exact ⟨p, rfl, by simpa using hp⟩
  | append hpiece hrest ih =>
      rw [← List.append_assoc] at h ⊢
      obtain ⟨q, hq, hsettle⟩ := hpiece.run hp h.of_append
      obtain ⟨r, hr, hend⟩ := ih hsettle h
      refine ⟨r, ?_, hend⟩
      rw [Token.ofArguments_append hpiece.ends_not_mem, List.foldlM_append, hq]
      exact hr

/-- Occurrences that can stand in one command line are read as the command line that they make up, however
they are written. -/
theorem parse_of_writing {occurrences : List Occurrence} {arguments : List String}
    (hwriting : Writing occurrences arguments) (h : Compatible occurrences)
    (hboth : ¬ ((ofOccurrences occurrences).config.isSome = true ∧
      (ofOccurrences occurrences).noConfig = true)) :
    parse arguments = .ok (ofOccurrences occurrences) := by
  have hstart : Progress.settle .start = .ok (.reached []) := rfl
  obtain ⟨p, hp, hsettle⟩ := hwriting.run hstart h
  exact parse_eq_ok_iff.mpr ⟨p, _, hp, hsettle, hboth, rfl⟩

/-! ### Spellings -/

/-- A text writes a number in decimal, with digits alone. -/
structure IsDecimal (text : String) (n : UInt64) : Prop where
  ne_empty : text ≠ ""
  digits : ∀ c ∈ text.toList, c.isDigit = true
  value : Nat.ofDigitChars 10 text.toList 0 = n.toNat

/-- The usual form of a number is one of its decimal forms, that without zeros in front. -/
theorem isDecimal_toString (n : UInt64) : IsDecimal (toString n.toNat) n := by
  rw [Nat.toString_eq_ofList_toDigits]
  constructor
  · exact fun h => Nat.toDigits_ne_nil (String.ofList_eq_empty_iff.mp h)
  · intro c hc
    rw [String.toList_ofList] at hc
    exact Nat.isDigit_of_mem_toDigits (by omega) (by omega) hc
  · rw [String.toList_ofList, Nat.ofDigitChars_ten_toDigits]

theorem number?_of_isDecimal {text : String} {n : UInt64} (h : IsDecimal text n) :
    number? text = some n := by
  have hdigits := h.digits
  have hvalue := h.value
  rw [Nat.ofDigitChars_eq_foldl] at hvalue
  cases htext : text.toList with
  | nil => exact absurd (String.toList_eq_nil_iff.mp htext) h.ne_empty
  | cons c rest =>
      rw [htext] at hdigits hvalue
      have hsign : c ≠ '+' := by
        rintro rfl
        exact absurd (hdigits '+' List.mem_cons_self) (by decide)
      have hall : (c :: rest).all Char.isDigit = true := List.all_eq_true.mpr hdigits
      have hsize : n.toNat < UInt64.size := n.toNat_lt_size
      unfold number?
      simp only [htext]
      split
      · next heq => exact absurd (List.cons.inj heq).1 hsign
      · rw [hvalue, if_pos ⟨List.cons_ne_nil c rest, hall, hsize⟩, UInt64.ofNat_toNat]

/-- What a limit is given: nothing if it is not set, and else its decimal form once. -/
inductive GivesLimit : Option UInt64 → List (List String) → Prop
  | unset : GivesLimit none []
  | set {n : UInt64} {text : String} (h : IsDecimal text n) : GivesLimit (some n) [[text]]

namespace GivesLimit

variable {limit : Option UInt64} {parts : List (List String)}

theorem length_le (h : GivesLimit limit parts) : parts.length ≤ 1 := by
  cases h <;> simp

theorem number?_head? (h : GivesLimit limit parts) : parts.flatten.head?.bind number? = limit := by
  cases h with
  | unset => rfl
  | set hdecimal => simp [number?_of_isDecimal hdecimal]

theorem number?_isSome (h : GivesLimit limit parts) :
    ∀ values ∈ parts, ∀ value ∈ values, (number? value).isSome = true := by
  cases h with
  | unset => simp
  | set hdecimal => simp [number?_of_isDecimal hdecimal]

end GivesLimit

/-- Occurrences say what a command line asks for: each list in any number of parts, each limit and the
settings file at most once. -/
structure Says (line : CommandLine) (occurrences : List Occurrence) : Prop where
  inputs : (given .inputs occurrences).flatten = line.inputs
  excludes : (given .excludes occurrences).flatten = line.excludes
  ignoreLinesMatching :
    (given .ignoreLinesMatching occurrences).flatten = line.ignoreLinesMatching
  maxLineLength : GivesLimit line.maxLineLength (given .maxLineLength occurrences)
  maxLinesInFile : GivesLimit line.maxLinesInFile (given .maxLinesInFile occurrences)
  config : given .config occurrences = line.config.toList.map fun path => [path]
  noConfig : given .noConfig occurrences = if line.noConfig then [[]] else []
  verbose : (given .verbose occurrences).length = line.verbose
  help : given .help occurrences = []
  version : given .version occurrences = []

/-- Arguments spell a command line: they write occurrences, in any order, that say what it asks for. -/
def Spells (arguments : List String) (line : CommandLine) : Prop :=
  ∃ occurrences, line.Says occurrences ∧ Writing occurrences arguments

namespace Says

variable {line : CommandLine} {occurrences : List Occurrence}

theorem ofOccurrences_eq (h : line.Says occurrences) : ofOccurrences occurrences = line := by
  have hlineLength := h.maxLineLength.number?_head?
  have hlinesInFile := h.maxLinesInFile.number?_head?
  have hconfig : (given .config occurrences).flatten.head? = line.config := by
    rw [h.config]
    cases line.config <;> rfl
  have hskipped : decide (given .noConfig occurrences ≠ []) = line.noConfig := by
    rw [h.noConfig]
    cases line.noConfig <;> rfl
  unfold ofOccurrences
  rw [h.inputs, h.excludes, h.ignoreLinesMatching, hlineLength, hlinesInFile, hconfig, hskipped, h.verbose]

theorem compatible (h : line.Says occurrences) (hpath : line.config ≠ some "")
    (hverbose : line.verbose ≤ maxVerbose) : Compatible occurrences where
  once := by
    intro o honce
    cases o with
    | inputs | excludes | ignoreLinesMatching | verbose => cases honce
    | maxLineLength => exact h.maxLineLength.length_le
    | maxLinesInFile => exact h.maxLinesInFile.length_le
    | config =>
        rw [h.config, List.length_map]
        exact Option.length_toList_le
    | noConfig =>
        rw [h.noConfig]
        split <;> simp
    | help => simp [h.help]
    | version => simp [h.version]
  lineLength := h.maxLineLength.number?_isSome
  linesInFile := h.maxLinesInFile.number?_isSome
  config := by
    intro values hvalues hempty
    rw [h.config] at hvalues
    obtain ⟨path, hnamed, rfl⟩ := List.mem_map.mp hvalues
    rw [Option.mem_toList, ← List.mem_singleton.mp hempty] at hnamed
    exact hpath hnamed
  verbose := h.verbose.le.trans hverbose
  help := h.help
  version := h.version

end Says

/-- **Every spelling of a command line means the same.**  Arguments that spell a command line are read as
this command line, if it does not name a settings file and ask for none, the settings file has a path, and
diagnostics are not asked for more often than is counted. -/
theorem parse_of_spells {arguments : List String} {line : CommandLine} (h : Spells arguments line)
    (hboth : ¬ (line.config.isSome = true ∧ line.noConfig = true)) (hpath : line.config ≠ some "")
    (hverbose : line.verbose ≤ maxVerbose) : parse arguments = .ok line := by
  obtain ⟨occurrences, hline, hwriting⟩ := h
  obtain rfl := hline.ofOccurrences_eq
  exact parse_of_writing hwriting (hline.compatible hpath hverbose) hboth

/-- A command line with a list in two parts, one of them a text that looks like an option, and the
diagnostics in two parts as well. -/
def sample : CommandLine := ⟨["a", "", "-c"], [], [], some 80, none, some "x.toml", false, 3⟩

theorem parse_of_spells_sample :
    parse ["-i", "a", "", "--max-line-length=080", "-vv", "--inputs=-c", "--verbose", "-c", "x.toml"] =
      .ok sample := by
  have hletter : ("-" ++ String.singleton 'i') = "-i" := by decide +kernel
  have hconfig : ("-" ++ String.singleton 'c') = "-c" := by decide +kernel
  have hlimit : ("--" ++ Opt.longName .maxLineLength ++ "=" ++ "080") = "--max-line-length=080" := by
    decide +kernel
  have hinputs : ("--" ++ Opt.longName .inputs ++ "=" ++ "-c") = "--inputs=-c" := by decide +kernel
  have hverbose : ("--" ++ Opt.longName .verbose) = "--verbose" := by decide +kernel
  have hcluster : ("-" ++ String.ofList (List.replicate 2 'v')) = "-vv" := by decide +kernel
  refine parse_of_spells ⟨[⟨.inputs, ["a", ""]⟩, ⟨.maxLineLength, ["080"]⟩, ⟨.verbose, []⟩, ⟨.verbose, []⟩,
    ⟨.inputs, ["-c"]⟩, ⟨.verbose, []⟩, ⟨.config, ["x.toml"]⟩], ?_, ?_⟩ (by decide) (by decide) (by decide)
  · exact
      { inputs := rfl
        excludes := rfl
        ignoreLinesMatching := rfl
        maxLineLength := .set ⟨by decide, List.all_eq_true.mp (by decide +kernel), by decide +kernel⟩
        maxLinesInFile := .unset
        config := rfl
        noConfig := rfl
        verbose := rfl
        help := rfl
        version := rfl }
  · have hlist : Piece [⟨.inputs, ["a", ""]⟩] ["-" ++ String.singleton 'i', "a", ""] :=
      .separate (by decide) (.short rfl) (by decide) (by decide) (by simp)
    have hfile : Piece [⟨.config, ["x.toml"]⟩] ["-" ++ String.singleton 'c', "x.toml"] :=
      .separate (by decide) (.short rfl) (by decide) (by decide) (by simp)
    have hwriting := Writing.append hlist <|
      .append (.attached "080" (by decide) (.long (o := .maxLineLength))) <|
      .append (.cluster 1) <|
      .append (.attached "-c" (by decide) (.long (o := .inputs))) <|
      .append (.flag (o := .verbose) rfl) <|
      .append hfile .nil
    rw [hletter, hconfig, hlimit, hinputs, hverbose, hcluster] at hwriting
    exact hwriting

end TextLimits.CommandLine
