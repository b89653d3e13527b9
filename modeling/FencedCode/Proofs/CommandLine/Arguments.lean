import FencedCode.CommandLine

/-!
# What arguments decide

The arguments of a call are read one after the other.  The first that asks for help or for the
version, or that is no known option, decides the report of the call, and nothing of the host is read.
All others set the mode or the path, and the last of each kind counts.
-/

namespace FencedCode.CommandLine

/-! ### Kinds of arguments -/

/-- The flags for modes. -/
def modeFlags : List (String × Mode) :=
  [("--html", .html), ("--ansi", .ansi), ("--run", .run), ("--languages", .languages)]

/-- The options that are known. -/
def knownOptions : List String :=
  ["--help", "-h", "--version", "-V"] ++ modeFlags.map Prod.fst

/-- `Decides argument report`: an argument decides alone what a call reports. -/
inductive Decides : String → Report → Prop where
  | help {argument : String} (isHelp : argument ∈ ["--help", "-h"]) :
      Decides argument { exitCode := 0, output := usage, errors := "" }
  | version {argument : String} (isVersion : argument ∈ ["--version", "-V"]) :
      Decides argument { exitCode := 0, output := "codeblock 0.1.0\n", errors := "" }
  | unknown {argument : String} (dashed : argument.startsWith "-") (notInput : argument ≠ "-")
      (notKnown : argument ∉ knownOptions) :
      Decides argument
        { exitCode := 2, output := usage, errors := "Unknown option: " ++ argument ++ "\n" }

/-- An argument leaves it to the others what is reported. -/
def Undecided (argument : String) : Prop := ∀ report, ¬Decides argument report

/-- An argument that is no option: a path, or a dash for the input. -/
def isPositional (argument : String) : Bool := argument == "-" || !argument.startsWith "-"

/-- The mode that arguments set, if they set one. -/
def modeOf? (arguments : List String) : Option Mode :=
  (arguments.filterMap fun argument => modeFlags.lookup argument).getLast?

/-- The last path among arguments, or a dash for the input. -/
def positional? (arguments : List String) : Option String :=
  (arguments.filter isPositional).getLast?

theorem not_isPositional_of_mem_knownOptions :
    ∀ argument ∈ knownOptions, isPositional argument = false := by decide +kernel

/-- The arguments that decide nothing are the flags for modes and what is no option. -/
theorem undecided_iff {argument : String} :
    Undecided argument ↔ argument ∈ modeFlags.map Prod.fst ∨ isPositional argument := by
  constructor
  · intro undecided
    by_cases positional : isPositional argument
    · exact .inr positional
    · rw [isPositional, Bool.or_eq_true, beq_iff_eq, not_or, Bool.not_eq_true', Bool.not_eq_false]
        at positional
      obtain ⟨notInput, dashed⟩ := positional
      by_cases known : argument ∈ knownOptions
      · refine .inl ((List.mem_append.mp known).resolve_left fun deciding => ?_)
        have helpOrVersion : argument ∈ ["--help", "-h"] ++ ["--version", "-V"] := deciding
        rcases List.mem_append.mp helpOrVersion with isHelp | isVersion
        · exact undecided _ (.help isHelp)
        · exact undecided _ (.version isVersion)
      · exact absurd (.unknown dashed notInput known) (undecided _)
  · intro either outcome decides
    have notBoth : ∀ argument ∈ ["--help", "-h"] ++ ["--version", "-V"],
        ¬(argument ∈ modeFlags.map Prod.fst ∨ isPositional argument) := by decide +kernel
    cases decides with
    | help isHelp => exact notBoth _ (List.mem_append_left _ isHelp) either
    | version isVersion => exact notBoth _ (List.mem_append_right _ isVersion) either
    | unknown dashed notInput notKnown =>
        rcases either with isMode | positional
        · exact notKnown (List.mem_append_right _ isMode)
        · simp [isPositional, notInput, dashed] at positional

instance (argument : String) : Decidable (Undecided argument) :=
  decidable_of_iff _ undecided_iff.symm

/-! ### One argument -/

theorem ofArguments_of_mode {argument : String} {mode : Mode} (flag : (argument, mode) ∈ modeFlags)
    (earlierMode : Mode) (path : Option String) (rest : List String) :
    Request.ofArguments earlierMode path (argument :: rest) =
      Request.ofArguments mode path rest := by
  simp only [modeFlags, List.mem_cons, Prod.mk.injEq, List.not_mem_nil, or_false] at flag
  rcases flag with ⟨rfl, rfl⟩ | ⟨rfl, rfl⟩ | ⟨rfl, rfl⟩ | ⟨rfl, rfl⟩ <;> rfl

theorem ofArguments_of_notKnown {argument : String} (notKnown : argument ∉ knownOptions)
    (notInput : argument ≠ "-") (mode : Mode) (path : Option String) (rest : List String) :
    Request.ofArguments mode path (argument :: rest) =
      if argument.startsWith "-" then .unknown argument
      else Request.ofArguments mode (some argument) rest := by
  simp only [knownOptions, modeFlags, List.map_cons, List.map_nil, List.cons_append, List.nil_append,
    List.mem_cons, List.not_mem_nil, or_false, not_or] at notKnown
  -- Each side goal is that the argument is not one of the options listed before.
  rw [Request.ofArguments] <;> simp [notKnown, notInput]

/-- The path that an argument sets which is no option. -/
def pathOf (argument : String) : Option String := if argument = "-" then none else some argument

theorem ofArguments_of_positional {argument : String} (positional : isPositional argument)
    (mode : Mode) (path : Option String) (rest : List String) :
    Request.ofArguments mode path (argument :: rest) =
      Request.ofArguments mode (pathOf argument) rest := by
  by_cases isInput : argument = "-"
  · subst isInput
    rfl
  · have plain : argument.startsWith "-" = false := by simpa [isPositional, isInput] using positional
    have notKnown : argument ∉ knownOptions := by
      intro known
      rw [not_isPositional_of_mem_knownOptions argument known] at positional
      cases positional
    rw [ofArguments_of_notKnown notKnown isInput, plain, pathOf, if_neg isInput]
    rfl

/-! ### All arguments -/

theorem lookup_modeFlags :
    ∀ flag ∈ modeFlags, modeFlags.lookup flag.1 = some flag.2 ∧ isPositional flag.1 = false := by
  decide +kernel

theorem lookup_modeFlags_of_positional {argument : String} (positional : isPositional argument) :
    modeFlags.lookup argument = none := by
  cases found : modeFlags.lookup argument with
  | none => rfl
  | some mode =>
      obtain ⟨front, back, split, _⟩ := List.lookup_eq_some_iff.mp found
      have member : (argument, mode) ∈ modeFlags := by simp [split]
      rw [(lookup_modeFlags _ member).2] at positional
      cases positional

section Cons

variable {argument : String} {arguments : List String}

theorem modeOf?_cons_of_mode {mode : Mode} (flag : (argument, mode) ∈ modeFlags) :
    modeOf? (argument :: arguments) = some ((modeOf? arguments).getD mode) := by
  rw [modeOf?, List.filterMap_cons, (lookup_modeFlags _ flag).1]
  exact List.getLast?_cons

theorem modeOf?_cons_of_positional (positional : isPositional argument) :
    modeOf? (argument :: arguments) = modeOf? arguments := by
  rw [modeOf?, List.filterMap_cons, lookup_modeFlags_of_positional positional, modeOf?]

theorem positional?_cons_of_mode {mode : Mode} (flag : (argument, mode) ∈ modeFlags) :
    positional? (argument :: arguments) = positional? arguments := by
  rw [positional?, List.filter_cons, (lookup_modeFlags _ flag).2, positional?]
  rfl

theorem positional?_cons_of_positional (positional : isPositional argument) :
    positional? (argument :: arguments) = some ((positional? arguments).getD argument) := by
  rw [positional?, List.filter_cons_of_pos positional]
  exact List.getLast?_cons

end Cons

/-- Arguments that decide nothing set the mode and the path for those behind them. -/
theorem ofArguments_append {front : List String}
    (undecided : ∀ argument ∈ front, Undecided argument) (mode : Mode) (path : Option String)
    (rest : List String) :
    Request.ofArguments mode path (front ++ rest) =
      Request.ofArguments ((modeOf? front).getD mode)
        (((positional? front).map pathOf).getD path) rest := by
  induction front generalizing mode path with
  | nil => rfl
  | cons argument front ih =>
      obtain ⟨here, others⟩ := List.forall_mem_cons.mp undecided
      rw [List.cons_append]
      rcases undecided_iff.mp here with isMode | positional
      · obtain ⟨⟨argument, flagged⟩, flag, rfl⟩ := List.mem_map.mp isMode
        rw [ofArguments_of_mode flag, ih others, modeOf?_cons_of_mode flag,
          positional?_cons_of_mode flag, Option.getD_some]
      · rw [ofArguments_of_positional positional, ih others, modeOf?_cons_of_positional positional,
          positional?_cons_of_positional positional, Option.map_some, Option.getD_some]
        cases positional? front <;> rfl

/-- The mode in which a call runs: the last that is set, and markup if none is. -/
def lastMode (arguments : List String) : Mode := (modeOf? arguments).getD .html

/-- The path of the file that a call reads: the last one given, unless a dash comes behind it. -/
def lastPath (arguments : List String) : Option String := (positional? arguments).bind pathOf

theorem request_of_undecided {arguments : List String}
    (undecided : ∀ argument ∈ arguments, Undecided argument) :
    request arguments = .work (lastMode arguments) (lastPath arguments) := by
  have requested := ofArguments_append undecided .html none []
  rw [List.append_nil] at requested
  rw [request, requested, Request.ofArguments, lastMode, lastPath]
  cases positional? arguments <;> rfl

/-- The first argument that decides does so for all calls, whatever comes behind it and without
reading anything of the host. -/
theorem report_of_decides {m : Type → Type} [Monad m] (engine : Engine)
    (readers : LanguageFile.Readers) (host : Host m) {front back : List String} {argument : String}
    {outcome : Report} (undecided : ∀ other ∈ front, Undecided other)
    (decides : Decides argument outcome) :
    report engine host (front ++ argument :: back) readers = pure outcome := by
  have requested := ofArguments_append undecided .html none (argument :: back)
  rw [report, request, requested]
  cases decides with
  | help isHelp =>
      simp only [List.mem_cons, List.not_mem_nil, or_false] at isHelp
      rcases isHelp with rfl | rfl <;> rfl
  | version isVersion =>
      simp only [List.mem_cons, List.not_mem_nil, or_false] at isVersion
      rcases isVersion with rfl | rfl <;> rfl
  | unknown dashed notInput notKnown =>
      rw [ofArguments_of_notKnown notKnown notInput, if_pos dashed]
      simp [unlines]

end FencedCode.CommandLine
