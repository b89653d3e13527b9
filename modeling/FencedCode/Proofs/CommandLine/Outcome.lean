import FencedCode.Proofs.CommandLine.Arguments
import FencedCode.Proofs.Language.Entries
import FencedCode.Proofs.Registry.Lookup
import FencedCode.Proofs.Settings.Fields

/-!
# How a call ends

A call that no argument decides goes through stages: the languages that the settings name are
installed, the block is read, and only then is anything written.  So a call either writes its output
and nothing else, or reports the one thing that failed.  A process installs languages before it uses
any, so it never comes too late with them.

None of this depends on what decodes the file of languages, on which patterns can be compiled or on
what runs a block.
-/

namespace FencedCode.CommandLine

variable {engine : Engine} {readers : LanguageFile.Readers} {host : Host Id}
variable {mode : Mode} {path : Option String}
variable {registry : Registry} {error : Error} {outcome : Report}

/-! ### Settings -/

/-- The settings of a host that are ignored. -/
def ignoredSettings (host : Host Id) : List Settings.Ignored := (Id.run (readSettings host)).2

/-- A setting is ignored if its value should be a number and is none that can be read. -/
theorem mem_ignoredSettings_iff {content : String} (reads : Settings.Reads host content)
    {ignored : Settings.Ignored} :
    ignored ∈ ignoredSettings host ↔ ignored.key ∈ Settings.numberKeys ∧
      Settings.value? (Settings.entriesOf content) ignored.key = some ignored.value ∧
      Settings.numeral? UInt64.size ignored.value = none := by
  rw [ignoredSettings, Settings.readSettings_of_reads reads, Settings.ignoredOf, List.mem_filterMap]
  constructor
  · rintro ⟨key, listed, found⟩
    obtain ⟨value, isValue, isIgnored⟩ := Option.bind_eq_some_iff.mp found
    split at isIgnored
    · cases isIgnored
    · next noNumber =>
      cases isIgnored
      exact ⟨listed, isValue, by simpa using noNumber⟩
  · rintro ⟨listed, isValue, noNumber⟩
    refine ⟨ignored.key, listed, Option.bind_eq_some_iff.mpr ⟨_, isValue, ?_⟩⟩
    rw [if_neg (by simp [noNumber])]

/-! ### Languages -/

/-- The text of the file with further languages, if the settings of a host name one. -/
def languagesText? (host : Host Id) : Option (Except FileError String) :=
  (Id.run (loadSettings host)).languagesFile.map fun file => Id.run (host.fileText file)

/-- What is wrong with the languages that the settings of a host name. -/
inductive LanguagesFail (readers : LanguageFile.Readers) (host : Host Id) : Error → Prop where
  | unreadable {cause : FileError} (text : languagesText? host = some (.error cause)) :
      LanguagesFail readers host (.file cause)
  | malformed {document cause : String} (text : languagesText? host = some (.ok document))
      (undecoded : readers.decode document = .error cause) :
      LanguagesFail readers host (@Error.languageFile cause)
  /-- A rule of an entry names an unknown kind, or its pattern is refused. -/
  | refused {document : String} {entries : List LanguageEntry} {error : Error}
      (text : languagesText? host = some (.ok document))
      (decoded : readers.decode document = .ok entries)
      (refused : LanguageFile.languagesOf readers.compile entries = .error error) :
      LanguagesFail readers host error
  /-- An alias repeats an earlier one, of a language that may be built in. -/
  | collision {document : String} {entries : List LanguageEntry} {extra : List Language}
      {error : Error} (text : languagesText? host = some (.ok document))
      (decoded : readers.decode document = .ok entries)
      (loaded : LanguageFile.languagesOf readers.compile entries = .ok extra)
      (repeated : Registry.FirstRepeat (builtinLanguages ++ extra) error) :
      LanguagesFail readers host error

/-- The registry in which a call finds languages. -/
inductive InUse (readers : LanguageFile.Readers) (host : Host Id) : Registry → Prop where
  | builtin (noText : languagesText? host = none) : InUse readers host .builtin
  | extended {document : String} {entries : List LanguageEntry} {extra : List Language}
      {registry : Registry} (text : languagesText? host = some (.ok document))
      (decoded : readers.decode document = .ok entries)
      (loaded : LanguageFile.languagesOf readers.compile entries = .ok extra)
      (built : Registry.builtinWith extra = .ok registry) : InUse readers host registry

/-- What is decided of the shared registry once the languages are installed. -/
def installed (readers : LanguageFile.Readers) (host : Host Id) : Except Error SharedRegistry :=
  Id.run (installLanguages readers host (Id.run (loadSettings host)) {})

theorem installed_eq (readers : LanguageFile.Readers) (host : Host Id) : installed readers host =
    match languagesText? host with
    | some content =>
      ((LanguageFile.load content readers).bind Registry.builtinWith).map fun registry =>
        { decided := some registry }
    | none => .ok {} := by
  rw [installed, installLanguages, languagesText?]
  cases (Id.run (loadSettings host)).languagesFile with
  | none => rfl
  | some file =>
      -- Nothing has been decided before, so nothing keeps the registry from being installed.
      show ((LanguageFile.load (Id.run (host.fileText file)) readers).bind Registry.builtinWith).bind
        (SharedRegistry.install {}) = _
      rw [Option.map_some]
      dsimp only
      cases (LanguageFile.load (Id.run (host.fileText file)) readers).bind Registry.builtinWith <;> rfl

theorem LanguagesFail.installed_eq (fails : LanguagesFail readers host error) :
    installed readers host = .error error := by
  rw [CommandLine.installed_eq]
  cases fails with
  | unreadable text => rw [text]; rfl
  | malformed text undecoded =>
      rw [text]
      simp only [LanguageFile.load, LanguageFile.parse, undecoded]
      rfl
  | refused text decoded refused =>
      rw [text]
      simp only [LanguageFile.load, LanguageFile.parse, decoded, refused]
      rfl
  | collision text decoded loaded repeated =>
      rw [text]
      simp only [LanguageFile.load, LanguageFile.parse, decoded, loaded, Except.bind,
        Registry.builtinWith, repeated.ofLanguages_eq_error]
      rfl

theorem InUse.exists_installed_eq (inUse : InUse readers host registry) :
    ∃ shared, installed readers host = .ok shared ∧ shared.use.1 = registry := by
  rw [CommandLine.installed_eq]
  cases inUse with
  | builtin noText =>
      rw [noText]
      exact ⟨_, rfl, rfl⟩
  | extended text decoded loaded built =>
      rw [text]
      simp only [LanguageFile.load, LanguageFile.parse, decoded, loaded, Except.bind, built]
      exact ⟨_, rfl, rfl⟩

theorem exists_languagesFail_or_inUse (readers : LanguageFile.Readers) (host : Host Id) :
    (∃ error, LanguagesFail readers host error) ∨ ∃ registry, InUse readers host registry := by
  cases text : languagesText? host with
  | none => exact .inr ⟨_, .builtin text⟩
  | some content =>
      cases content with
      | error cause => exact .inl ⟨_, .unreadable text⟩
      | ok document =>
          cases decoded : readers.decode document with
          | error cause => exact .inl ⟨_, .malformed text decoded⟩
          | ok entries =>
              cases loaded : LanguageFile.languagesOf readers.compile entries with
              | error error => exact .inl ⟨_, .refused text decoded loaded⟩
              | ok extra =>
                  cases built : Registry.builtinWith extra with
                  | error error =>
                      exact .inl ⟨_, .collision text decoded loaded
                        (Registry.ofLanguages_eq_error_iff.mp built)⟩
                  | ok registry => exact .inr ⟨_, .extended text decoded loaded built⟩

/-! ### Errors -/

theorem LanguagesFail.ne_registryInstalled (fails : LanguagesFail readers host error) :
    error ≠ .registryInstalled := by
  cases fails with
  | unreadable | malformed => nofun
  | refused text decoded refused =>
      obtain ⟨_, _, _, _, _, offends⟩ := LanguageFile.languagesOf_eq_error_iff.mp refused
      cases offends <;> nofun
  | collision text decoded loaded repeated =>
      cases repeated
      nofun

theorem head?_toList_append {front back : String} {char : Char}
    (first : front.toList.head? = some char) : (front ++ back).toList.head? = some char := by
  rw [String.toList_append, List.head?_append, first, Option.some_or]

/-- The messages of all other errors start with another letter. -/
theorem message_ne_registryInstalled (other : error ≠ .registryInstalled) :
    error.message ≠ Error.registryInstalled.message := by
  intro same
  have first : error.message.toList.head? = some 'L' := by
    rw [same]
    rfl
  cases error with
  | file cause =>
      have isFirst : (Error.file cause).message.toList.head? = some 'I' := head?_toList_append rfl
      cases isFirst.symm.trans first
  | pattern refused =>
      have isFirst : (Error.pattern refused).message.toList.head? = some 'I' :=
        head?_toList_append (head?_toList_append (head?_toList_append rfl))
      cases isFirst.symm.trans first
  | duplicateAlias name former latter =>
      have isFirst : (Error.duplicateAlias name former latter).message.toList.head? = some 'A' :=
        head?_toList_append (head?_toList_append (head?_toList_append (head?_toList_append
          (head?_toList_append rfl))))
      cases isFirst.symm.trans first
  | unknownTokenKind name =>
      have isFirst : (Error.unknownTokenKind name).message.toList.head? = some 'U' :=
        head?_toList_append rfl
      cases isFirst.symm.trans first
  | @languageFile cause =>
      have isFirst : (@Error.languageFile cause).message.toList.head? = some 'M' :=
        head?_toList_append rfl
      cases isFirst.symm.trans first
  | registryInstalled => exact other rfl

/-! ### Reports -/

/-- What is written for a block. -/
def shown (engine : Engine) (registry : Registry) (block : Fence) : Mode → String
  | .html => registry.highlight block.body block.name ++ "\n"
  | .ansi =>
    match registry.resolve? block.name with
    | some language => Token.paintedAll (language.tokens block.body) ++ "\n"
    | none => block.body ++ "\n"
  | .run =>
    String.join ((registry.executeWith engine block.body block.name).map fun entry =>
      entryLine entry ++ "\n")
  | .languages => ""

/-- How a call ends that runs in a mode and reads a path.  It warns about ignored settings first. -/
inductive Ends (engine : Engine) (readers : LanguageFile.Readers) (host : Host Id) (mode : Mode)
    (path : Option String) : Report → Prop where
  | languagesFail {error : Error} (fails : LanguagesFail readers host error) :
      Ends engine readers host mode path
        { warnings := ignoredSettings host, exitCode := 1, output := ""
          errors := "Error: " ++ error.message ++ "\n" }
  | inputFails {registry : Registry} {cause : FileError} (inUse : InUse readers host registry)
      (reads : mode ≠ .languages) (input : Id.run (readBlock host path) = .error cause) :
      Ends engine readers host mode path
        { warnings := ignoredSettings host, exitCode := 1, output := ""
          errors := "Error: " ++ (Error.file cause).message ++ "\n" }
  | listed {registry : Registry} (inUse : InUse readers host registry) (lists : mode = .languages) :
      Ends engine readers host mode path
        { warnings := ignoredSettings host, exitCode := 0, errors := ""
          output := String.join (registry.languages.map fun language =>
            languageLine language ++ "\n") }
  | shown {registry : Registry} {raw : String} (inUse : InUse readers host registry)
      (reads : mode ≠ .languages) (input : Id.run (readBlock host path) = .ok raw) :
      Ends engine readers host mode path
        { warnings := ignoredSettings host, exitCode := 0, errors := ""
          output := shown engine registry (Fence.parse raw) mode }

theorem unlines_singleton (line : String) : unlines [line] = line ++ "\n" := by simp [unlines]

theorem unlines_blockLines (engine : Engine) (registry : Registry) (block : Fence) (mode : Mode) :
    unlines (blockLines engine registry block mode) = shown engine registry block mode := by
  cases mode with
  | html => exact unlines_singleton _
  | ansi =>
      rw [blockLines, unlines_singleton, painted, shown]
      cases registry.resolve? block.name <;> rfl
  | run =>
      rw [blockLines, unlines, List.map_map, shown]
      rfl
  | languages => rfl

theorem ofError_eq (error : Error) : Report.ofError error =
    { exitCode := 1, output := "", errors := "Error: " ++ error.message ++ "\n" } := by
  rw [Report.ofError, unlines_singleton]

/-! ### Stages -/

theorem run_work (engine : Engine) (readers : LanguageFile.Readers) (host : Host Id) (mode : Mode)
    (path : Option String) :
    Id.run (work engine readers host mode path) =
      { Id.run (workUnder (Id.run (loadSettings host)) engine readers host mode path {}) with
        warnings := ignoredSettings host } := rfl

theorem Ends.run_work_eq (ends : Ends engine readers host mode path outcome) :
    Id.run (work engine readers host mode path) = outcome := by
  rw [run_work]
  cases ends with
  | languagesFail fails =>
      have installs := fails.installed_eq
      rw [installed] at installs
      simp only [workUnder, Id.run_bind, installs, Id.run_pure, ofError_eq]
  | inputFails inUse reads input =>
      obtain ⟨shared, installs, _⟩ := inUse.exists_installed_eq
      rw [installed] at installs
      simp only [workUnder, Id.run_bind, installs, if_neg reads, input, Id.run_pure, ofError_eq]
  | listed inUse lists =>
      obtain ⟨shared, installs, rfl⟩ := inUse.exists_installed_eq
      rw [installed] at installs
      simp only [workUnder, Id.run_bind, installs, if_pos lists, unlines, List.map_map]
      rfl
  | shown inUse reads input =>
      obtain ⟨shared, installs, rfl⟩ := inUse.exists_installed_eq
      rw [installed] at installs
      simp only [workUnder, Id.run_bind, installs, if_neg reads, input, unlines_blockLines]
      rfl

theorem exists_ends (engine : Engine) (readers : LanguageFile.Readers) (host : Host Id) (mode : Mode)
    (path : Option String) : ∃ outcome, Ends engine readers host mode path outcome := by
  rcases exists_languagesFail_or_inUse readers host with ⟨error, fails⟩ | ⟨registry, inUse⟩
  · exact ⟨_, .languagesFail fails⟩
  · by_cases lists : mode = .languages
    · exact ⟨_, .listed inUse lists⟩
    · cases input : Id.run (readBlock host path) with
      | error cause => exact ⟨_, .inputFails inUse lists input⟩
      | ok raw => exact ⟨_, .shown inUse lists input⟩

/-- The exit code says whether anything has failed. -/
theorem Ends.exitCode_eq_one_iff (ends : Ends engine readers host mode path outcome) :
    outcome.exitCode = 1 ↔ (∃ error, LanguagesFail readers host error) ∨
      mode ≠ .languages ∧ ∃ cause, Id.run (readBlock host path) = .error cause := by
  have noFailure : ∀ {registry}, InUse readers host registry →
      ∀ error, ¬LanguagesFail readers host error := by
    intro registry inUse error fails
    obtain ⟨shared, installs, _⟩ := inUse.exists_installed_eq
    cases fails.installed_eq.symm.trans installs
  cases ends with
  | languagesFail fails => exact iff_of_true rfl (.inl ⟨_, fails⟩)
  | inputFails inUse reads input => exact iff_of_true rfl (.inr ⟨reads, _, input⟩)
  | listed inUse lists =>
      refine iff_of_false nofun ?_
      rintro (⟨error, fails⟩ | ⟨reads, _⟩)
      · exact noFailure inUse error fails
      · exact reads lists
  | shown inUse reads input =>
      refine iff_of_false nofun ?_
      rintro (⟨error, fails⟩ | ⟨_, cause, unread⟩)
      · exact noFailure inUse error fails
      · cases input.symm.trans unread

/-- A call writes its output and nothing else, or reports one error that is not about a registry in
use. -/
theorem Ends.output_or_error (ends : Ends engine readers host mode path outcome) :
    (outcome.exitCode = 0 ∧ outcome.errors = "") ∨
      (outcome.exitCode = 1 ∧ outcome.output = "" ∧ ∃ error : Error, error ≠ .registryInstalled ∧
        outcome.errors = "Error: " ++ error.message ++ "\n") := by
  cases ends with
  | languagesFail fails => exact .inr ⟨rfl, rfl, _, fails.ne_registryInstalled, rfl⟩
  | inputFails inUse reads input => exact .inr ⟨rfl, rfl, .file _, nofun, rfl⟩
  | listed | shown => exact .inl ⟨rfl, rfl⟩

theorem Ends.errors_ne_registryInstalled (ends : Ends engine readers host mode path outcome) :
    outcome.errors ≠ "Error: " ++ Error.registryInstalled.message ++ "\n" := by
  rcases ends.output_or_error with ⟨_, nothing⟩ | ⟨_, _, error, other, isError⟩
  · rw [nothing]
    decide
  · rw [isError]
    intro same
    have sameText := congrArg String.toList same
    simp only [String.toList_append] at sameText
    have sameMessage := List.append_cancel_left (List.append_cancel_right sameText)
    exact message_ne_registryInstalled other (String.toList_inj.mp sameMessage)

/-- The first argument that decides does so alone, whatever comes behind it and whatever the host
holds.  Otherwise the last mode and the last path count, and a call ends as its stages ask for: it
fails exactly if the languages that the settings name cannot be installed or the input that its mode
reads cannot be read, and then it reports nothing but the error.  That the registry is already in use
is never among the errors. -/
theorem report_outcome (engine : Engine) (readers : LanguageFile.Readers) (arguments : List String) :
    (∀ front argument back outcome, arguments = front ++ argument :: back →
      (∀ other ∈ front, Undecided other) → Decides argument outcome →
        ∀ (m : Type → Type) [Monad m] (host : Host m),
          report engine host arguments readers = pure outcome) ∧
    ((∀ argument ∈ arguments, Undecided argument) → ∀ host : Host Id,
      ∃ outcome, Id.run (report engine host arguments readers) = outcome ∧
        Ends engine readers host (lastMode arguments) (lastPath arguments) outcome ∧
        (∀ other, Ends engine readers host (lastMode arguments) (lastPath arguments) other →
          other = outcome) ∧
        (outcome.exitCode = 1 ↔ (∃ error, LanguagesFail readers host error) ∨
          lastMode arguments ≠ .languages ∧
            ∃ cause, Id.run (readBlock host (lastPath arguments)) = .error cause) ∧
        ((outcome.exitCode = 0 ∧ outcome.errors = "") ∨
          (outcome.exitCode = 1 ∧ outcome.output = "" ∧ ∃ error : Error, error ≠ .registryInstalled ∧
            outcome.errors = "Error: " ++ error.message ++ "\n")) ∧
        outcome.errors ≠ "Error: " ++ Error.registryInstalled.message ++ "\n") := by
  constructor
  · rintro front argument back outcome rfl undecided decides m _ host
    exact report_of_decides engine readers host undecided decides
  · intro undecided host
    obtain ⟨outcome, ends⟩ :=
      exists_ends engine readers host (lastMode arguments) (lastPath arguments)
    have reported : Id.run (report engine host arguments readers) = outcome := by
      rw [report, request_of_undecided undecided]
      exact ends.run_work_eq
    refine ⟨outcome, reported, ends, ?_, ends.exitCode_eq_one_iff, ends.output_or_error,
      ends.errors_ne_registryInstalled⟩
    intro other otherEnds
    rw [← otherEnds.run_work_eq, ← ends.run_work_eq]

/-- An unknown option decides although help is asked for behind it, and a call fails before it reads
its input if the settings name a file that is missing.  It warns of a setting that is no number. -/
theorem report_outcome_of_missing_file :
    let engine : Engine := fun _ => { calls := [] }
    let readers : LanguageFile.Readers := {}
    let settings := "min-height = oops\nlanguages-file = lua.toml"
    let host : Host Id :=
      { home := some ""
        fileText := fun path => if path = ".codeblock.conf" then .ok settings else .error .notFound
        inputText := .ok "1" }
    let front := ["--run", "a.md"]
    let unknown : Report :=
      { exitCode := 2, output := usage, errors := "Unknown option: --ru\n" }
    let arguments := ["--run", "a.md", "--html", "-"]
    let failed : Report :=
      { warnings := [{ key := "min-height", value := "oops" }], exitCode := 1, output := ""
        errors := "Error: I/O error: No such file or directory (os error 2)\n" }
    (∀ other ∈ front, Undecided other) ∧ Decides "--ru" unknown ∧
      report engine host (front ++ "--ru" :: ["--help"]) readers = pure unknown ∧
      (∀ argument ∈ arguments, Undecided argument) ∧
      lastMode arguments = .html ∧ lastPath arguments = none ∧
      Id.run (report engine host arguments readers) = failed := by
  intro engine readers settings host front unknown arguments failed
  have frontUndecided : ∀ other ∈ front, Undecided other := by decide +kernel
  have decides : Decides "--ru" unknown :=
    .unknown (by decide +kernel) (by decide) (by decide)
  have undecided : ∀ argument ∈ arguments, Undecided argument := by decide +kernel
  have named : (Settings.ofText settings).languagesFile = some "lua.toml" := by decide +kernel
  have ignored : ignoredSettings host = failed.warnings := by decide +kernel
  have text : languagesText? host = some (.error .notFound) := by
    have loaded : Id.run (loadSettings host) = Settings.ofText settings := rfl
    rw [languagesText?, loaded, named]
    rfl
  obtain ⟨outcome, reported, _, unique, _⟩ :=
    (report_outcome engine readers arguments).2 undecided host
  have fails : Ends engine readers host (lastMode arguments) (lastPath arguments)
      { failed with warnings := ignoredSettings host } := .languagesFail (.unreadable text)
  refine ⟨frontUndecided, decides, ?_, undecided, ?_, ?_, ?_⟩
  · exact (report_outcome engine readers (front ++ "--ru" :: ["--help"])).1 front "--ru" ["--help"]
      unknown rfl frontUndecided decides Id host
  · decide +kernel
  · decide +kernel
  · rw [reported, ← unique _ fails, ignored]

end FencedCode.CommandLine
