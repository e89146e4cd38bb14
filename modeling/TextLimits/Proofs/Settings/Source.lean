import TextLimits.Proofs.CommandLine
import TextLimits.Settings.Source

/-! # The source of the settings

An accepted command line selects one source of settings, the default ones or one file
(`CommandLine.Selects`), and what is loaded is what this source holds (`Settings.Source.Yields`): a file
that cannot be read or decoded is an error, and nothing takes its place.  At most one path is looked at
(`CommandLine.place?`), so files elsewhere have no influence (`Settings.load_of_parse`). -/

namespace TextLimits

namespace Settings

/-- Where settings can be taken from. -/
inductive Source where
  | defaults
  | file (path : String)

/-- What is loaded from a source: the settings in a file, if it can be read and holds settings. -/
inductive Source.Yields (files : FileSource) : Source → Except Fault Settings → Prop
  | defaults : Yields files .defaults (.ok default)
  | decoded {path : String} {text : List Char} {settings : Settings}
      (hread : files.read path = some text) (htext : ofText text = .ok settings) :
      Yields files (.file path) (.ok settings)
  | undecoded {path : String} {text : List Char} {e : Toml.Error}
      (hread : files.read path = some text) (htext : ofText text = .error e) :
      Yields files (.file path) (.error (.configParse e))
  | unread {path : String} (hread : files.read path = none) :
      Yields files (.file path) (.error (.configRead path))

theorem Source.yields_file_iff {files : FileSource} {path : String} {result : Except Fault Settings} :
    Source.Yields files (.file path) result ↔ ofFile files path = result := by
  unfold ofFile
  constructor
  · intro h
    cases h with
    | decoded hread htext => simp only [hread, htext]
    | undecoded hread htext => simp only [hread, htext]
    | unread hread => simp only [hread]
  · rintro rfl
    cases hread : files.read path with
    | none => exact .unread hread
    | some text =>
        dsimp only
        cases htext : ofText text with
        | ok settings => exact .decoded hread htext
        | error e => exact .undecoded hread htext

theorem Source.yields_defaults_iff {files : FileSource} {result : Except Fault Settings} :
    Source.Yields files .defaults result ↔ .ok default = result := by
  constructor
  · rintro ⟨⟩
    rfl
  · rintro rfl
    exact .defaults

end Settings

namespace CommandLine

open Settings (Source)

variable {line : CommandLine} {files : FileSource}

/-- The settings file in a directory. -/
def localPath (dir : String) : String := Path.joinText dir Settings.fileName

/-- A command line selects a source of settings. -/
inductive Selects (line : CommandLine) (files : FileSource) : Source → Prop
  /-- No settings file is wanted. -/
  | skipped (h : line.noConfig = true) : Selects line files .defaults
  /-- A settings file is named. -/
  | named {path : String} (h : line.config = some path) : Selects line files (.file path)
  /-- The current directory has a settings file. -/
  | localFile {dir : String} (hwanted : line.noConfig = false) (hnamed : line.config = none)
      (hdir : files.currentDir = some dir) (hpresent : files.present (localPath dir) = true) :
      Selects line files (.file (localPath dir))
  /-- The current directory has no settings file. -/
  | noLocalFile {dir : String} (hwanted : line.noConfig = false) (hnamed : line.config = none)
      (hdir : files.currentDir = some dir) (hpresent : files.present (localPath dir) = false) :
      Selects line files .defaults
  /-- The current directory is not known. -/
  | noDirectory (hwanted : line.noConfig = false) (hnamed : line.config = none)
      (hdir : files.currentDir = none) : Selects line files .defaults

theorem localFile?_of_dir {dir : String} (h : files.currentDir = some dir) :
    Settings.localFile? files =
      if files.present (localPath dir) = true then some (localPath dir) else none := by
  unfold Settings.localFile?
  rw [h]
  rfl

theorem localFile?_of_no_dir (h : files.currentDir = none) : Settings.localFile? files = none := by
  unfold Settings.localFile?
  rw [h]
  rfl

/-- The source that a command line selects. -/
def source (line : CommandLine) (files : FileSource) : Source :=
  if line.noConfig then .defaults
  else
    match line.config.or (Settings.localFile? files) with
    | some path => .file path
    | none => .defaults

theorem yields_source_iff {result : Except Fault Settings} :
    (line.source files).Yields files result ↔
      Settings.load files line.config line.noConfig = result := by
  unfold source Settings.load
  by_cases hskipped : line.noConfig = true
  · rw [if_pos hskipped, if_pos hskipped, Settings.Source.yields_defaults_iff]
  · rw [if_neg hskipped, if_neg hskipped]
    cases line.config.or (Settings.localFile? files) with
    | none => exact Settings.Source.yields_defaults_iff
    | some path => exact Settings.Source.yields_file_iff

/-- **A command line selects exactly one source**, unless it names a file and wants none. -/
theorem selects_iff (hboth : ¬ (line.config.isSome = true ∧ line.noConfig = true)) {selected : Source} :
    line.Selects files selected ↔ selected = line.source files := by
  unfold source
  constructor
  · intro h
    cases h with
    | skipped hskipped => rw [if_pos hskipped]
    | @named path hnamed =>
        have hwanted : ¬ line.noConfig = true := fun hskipped => hboth ⟨by simp [hnamed], hskipped⟩
        rw [if_neg hwanted, hnamed, Option.some_or]
    | localFile hwanted hnamed hdir hpresent =>
        simp [hwanted, hnamed, localFile?_of_dir hdir, hpresent]
    | noLocalFile hwanted hnamed hdir hpresent =>
        simp [hwanted, hnamed, localFile?_of_dir hdir, hpresent]
    | noDirectory hwanted hnamed hdir => simp [hwanted, hnamed, localFile?_of_no_dir hdir]
  · rintro rfl
    cases hwanted : line.noConfig with
    | true => exact .skipped hwanted
    | false =>
        cases hnamed : line.config with
        | some path => exact .named hnamed
        | none =>
            cases hdir : files.currentDir with
            | none =>
                simp only [localFile?_of_no_dir hdir]
                exact .noDirectory hwanted hnamed hdir
            | some dir =>
                simp only [localFile?_of_dir hdir]
                cases hpresent : files.present (localPath dir) with
                | true => exact .localFile hwanted hnamed hdir hpresent
                | false => exact .noLocalFile hwanted hnamed hdir hpresent

/-! ### The path that is looked at -/

/-- The path that decides what is loaded, if any: the named one, or that of the settings file in the
current directory. -/
def place? (line : CommandLine) (currentDir : Option String) : Option String :=
  if line.noConfig then none else line.config.or (currentDir.map localPath)

theorem Selects.place? {path : String} (h : line.Selects files (.file path))
    (hboth : ¬ (line.config.isSome = true ∧ line.noConfig = true)) :
    line.place? files.currentDir = some path := by
  unfold CommandLine.place?
  cases h with
  | named hnamed =>
      have hwanted : ¬ line.noConfig = true := fun hskipped => hboth ⟨by simp [hnamed], hskipped⟩
      rw [if_neg hwanted, hnamed, Option.some_or]
  | localFile hwanted hnamed hdir hpresent => simp [hwanted, hnamed, hdir]

/-- Two file systems have the same under a path: it is there in both or in neither, and can be read in both,
with the same text, or in neither. -/
def AgreeAt (files files' : FileSource) (path : String) : Prop :=
  files.present path = files'.present path ∧ files.read path = files'.read path

/-- File systems that agree at the path that is looked at load the same. -/
theorem load_congr {files' : FileSource}
    (hplace : line.place? files'.currentDir = line.place? files.currentDir)
    (hagree : ∀ path, line.place? files.currentDir = some path → AgreeAt files files' path) :
    Settings.load files' line.config line.noConfig = Settings.load files line.config line.noConfig := by
  unfold CommandLine.place? at hplace hagree
  unfold Settings.load
  by_cases hskipped : line.noConfig = true
  · rw [if_pos hskipped, if_pos hskipped]
  rw [if_neg hskipped, if_neg hskipped]
  simp only [if_neg hskipped] at hplace hagree
  have hfile : ∀ path, AgreeAt files files' path →
      Settings.ofFile files' path = Settings.ofFile files path := by
    intro path h
    unfold Settings.ofFile
    rw [h.2]
  cases hnamed : line.config with
  | some path =>
      rw [hnamed] at hagree
      exact hfile path (hagree path rfl)
  | none =>
      rw [hnamed, Option.none_or, Option.none_or] at hplace
      rw [hnamed, Option.none_or] at hagree
      rw [Option.none_or, Option.none_or]
      cases hdir : files.currentDir with
      | none =>
          rw [hdir, Option.map_none, Option.map_eq_none_iff] at hplace
          rw [localFile?_of_no_dir hdir, localFile?_of_no_dir hplace]
      | some dir =>
          obtain ⟨dir', hdir', hlocal⟩ := Option.map_eq_some_iff.mp (hplace.trans (by rw [hdir]; rfl))
          have hat : AgreeAt files files' (localPath dir) := hagree _ (by rw [hdir]; rfl)
          rw [localFile?_of_dir hdir, localFile?_of_dir hdir', hlocal, ← hat.1]
          by_cases hpresent : files.present (localPath dir) = true
          · rw [if_pos hpresent]
            exact hfile _ hat
          · rw [if_neg hpresent]

end CommandLine

/-- **An accepted command line selects exactly one source of settings, and nothing else has an
influence.**  It does not name a settings file and ask for none.  Whatever the files are, it selects one
source, and loading has the one outcome that this source yields.  Two file systems in which the same path
is looked at, and which agree there, lead to the same. -/
theorem Settings.load_of_parse {arguments : List String} {line : CommandLine}
    (h : CommandLine.parse arguments = .ok line) :
    ¬ (line.config.isSome = true ∧ line.noConfig = true) ∧
      ∀ files, (∃ source, line.Selects files source ∧
          (∀ other, line.Selects files other → other = source) ∧
          ∀ result, source.Yields files result ↔ load files line.config line.noConfig = result) ∧
        (∀ path, line.Selects files (.file path) → line.place? files.currentDir = some path) ∧
        ∀ files', line.place? files'.currentDir = line.place? files.currentDir →
          (∀ path, line.place? files.currentDir = some path → CommandLine.AgreeAt files files' path) →
          load files' line.config line.noConfig = load files line.config line.noConfig := by
  have hboth := CommandLine.not_both_of_parse h
  refine ⟨hboth, fun files => ⟨⟨line.source files, ?_, ?_, ?_⟩, fun path hpath => hpath.place? hboth,
    fun files' => CommandLine.load_congr⟩⟩
  · exact (CommandLine.selects_iff hboth).mpr rfl
  · exact fun other hother => (CommandLine.selects_iff hboth).mp hother
  · exact fun result => CommandLine.yields_source_iff

/-- A current directory with a settings file that cannot be read. -/
def FileSource.sample : FileSource where
  read _ := none
  present path := path = "/home/.bite-sized.toml"
  currentDir := some "/home"

/-- No default settings take the place of the file that cannot be read, and it makes no difference what
else can be read. -/
theorem Settings.load_of_parse_sample :
    load .sample none false = .error (.configRead "/home/.bite-sized.toml") ∧
      ∀ read, read "/home/.bite-sized.toml" = none →
        load { FileSource.sample with read } none false = load .sample none false := by
  have hparse : CommandLine.parse ["-v", "-i", "src/*.rs"] =
      .ok ⟨["src/*.rs"], [], [], none, none, none, false, 1⟩ := by cbv
  have hlocal : CommandLine.localPath "/home" = "/home/.bite-sized.toml" := by decide +kernel
  obtain ⟨-, hload⟩ := load_of_parse hparse
  obtain ⟨⟨source, hselects, honly, hyields⟩, -, hagree⟩ := hload .sample
  have hsource : Source.file "/home/.bite-sized.toml" = source := by
    refine honly _ ?_
    rw [← hlocal]
    exact .localFile rfl rfl rfl (by rw [hlocal]; decide)
  refine ⟨(hyields _).mp (hsource ▸ .unread rfl), fun read hread => ?_⟩
  refine hagree { FileSource.sample with read } rfl fun path hpath => ⟨rfl, ?_⟩
  have hplace : some (CommandLine.localPath "/home") = some path := hpath
  rw [hlocal] at hplace
  rw [← Option.some.inj hplace]
  exact hread.symm

end TextLimits
