import CommandShell.Demo
import CommandShell.Proofs.Shell.Coherence
import CommandShell.Proofs.Shell.Naming

/-!
# What a line prints

`Shell.Shows` lists what a line may show before the prompt, one rule for each kind of
line, with `Shell.Helps` for the texts of the built-in `help`; `Shell.Prompts` lists the
prompts that may follow. Every line of a shell that can be reached shows the one text that
the first allows, and then the one prompt that the last allows for the shell after the
line; the prompt hook is asked once, after everything else
(`Shell.events_execute_of_reachable`).

Words that name no command are `Shell.Unresolved` in one of three ways. Each comes with
the report that is shown at once, and with the help that is shown when a fallback handler
fails on the words.
-/

namespace CommandShell

/-- What is said about a command: its usage, else its summary, else nothing. -/
def Command.description (command : Command) : String :=
  command.name ++ ":\n"
    ++ ((command.help.bind CommandHelp.usage).or command.summary).getD "" ++ "\n"

theorem Command.describe_eq_description (command : Command) :
    command.describe = command.description := by
  unfold describe description usageOrSummary summary
  cases command.help <;> rfl

/-- The commands of a module, after the built-in `help`. -/
def CommandModule.listing (owner : CommandModule) : String :=
  "help\n" ++ String.join (owner.commands.map Command.listing)

theorem Registry.listing_of_get? {registry : Registry} {owner : Nat} {found : CommandModule}
    (there : registry.get? owner = some found) : registry.listing owner = found.listing := by
  rw [Registry.listing, there]
  rfl

/-- What a handler prints, and the help that follows it when the handler failed. -/
def Reply.shown (reply : Reply) (help : String) : String :=
  reply.output ++ if reply.status < 0 then help else ""

namespace Shell

open Arguments (words pieces)

/-! ## The texts of a line -/

/-- The ways in which words name no command, with the report of each and the help of such words. -/
inductive Unresolved (shell : Shell) : List String → String → String → Prop
  | lone {first : String} :
    shell.selection.index? = none →
    Unresolved shell [first] "Missing parameter\n" ("Unrecognized command: " ++ first ++ "\n")
  | unknownModule {first name : String} {rest : List String} :
    shell.selection.index? = none →
    (∀ owner ∈ shell.registry.modules, ¬ shell.config.Agree first owner.name) →
    Unresolved shell (first :: name :: rest)
      ("Illegal module " ++ first ++ "\n") ("Illegal module " ++ first ++ "\n")
  | unknownCommand {first name : String} {rest behind : List String} {owner : Nat}
    {found : CommandModule} :
    Refers shell (first :: rest) owner found (name :: behind) →
    (∀ command ∈ found.commands, command.name ≠ name) →
    Unresolved shell (first :: rest) "" ("Unrecognized command: " ++ first ++ "\n")

/-- What `help` shows for the words that follow it. -/
inductive Helps (shell : Shell) : List String → String → Prop
  | overview : shell.selection.index? = none → Helps shell [] shell.registry.overview
  | selected {owner : Nat} {found : CommandModule} :
    shell.selection.index? = some owner → shell.registry.modules[owner]? = some found →
    Helps shell [] found.listing
  | named {name : String} {owner : Nat} {found : CommandModule} :
    shell.selection.index? = none →
    FirstAt (shell.config.Agree name ·.name) shell.registry.modules owner found →
    Helps shell [name] found.listing
  | unknownName {name : String} :
    shell.selection.index? = none →
    (∀ owner ∈ shell.registry.modules, ¬ shell.config.Agree name owner.name) →
    Helps shell [name] ("Illegal module " ++ name ++ "\n")
  | command {words arguments : List String} {owner index : Nat} {command : Command} :
    Names shell words owner index command arguments →
    Helps shell words command.description
  | unresolved {words : List String} {report help : String} :
    (shell.selection.index? = none → words.length ≠ 1) → Unresolved shell words report help →
    Helps shell words help

/-- What the words of a line show before the prompt. -/
inductive Shows (shell : Shell) : List String → String → Prop
  | tooMany {words : List String} :
    shell.config.maxArgs < words.length →
    Shows shell words ("Too many parameters (max " ++ toString shell.config.maxArgs ++ ")\n")
  | nothing : Shows shell [] ""
  | help {rest : List String} {text : String} :
    rest.length + 1 ≤ shell.config.maxArgs → Helps shell rest text →
    Shows shell ("help" :: rest) text
  | deselected :
    1 ≤ shell.config.maxArgs → Shows shell ["select"] ""
  | selected {name : String} {rest : List String} {owner : Nat} {found : CommandModule} :
    rest.length + 2 ≤ shell.config.maxArgs → name.length ≤ shell.config.maxNameLength →
    FirstAt (shell.config.Agree name ·.name) shell.registry.modules owner found →
    Shows shell ("select" :: name :: rest) ""
  | longName {name : String} {rest : List String} :
    rest.length + 2 ≤ shell.config.maxArgs → shell.config.maxNameLength < name.length →
    Shows shell ("select" :: name :: rest)
      ("Module name " ++ name ++ " is too long, default is not changed\n")
  | unknownName {name : String} {rest : List String} :
    rest.length + 2 ≤ shell.config.maxArgs → name.length ≤ shell.config.maxNameLength →
    (∀ owner ∈ shell.registry.modules, ¬ shell.config.Agree name owner.name) →
    Shows shell ("select" :: name :: rest)
      ("Illegal module " ++ name ++ ", default is not changed\n")
  | command {words arguments : List String} {owner index : Nat} {command : Command} :
    Ordinary shell words → Names shell words owner index command arguments →
    Shows shell words ((command.handler arguments).shown command.description)
  | fallback {words : List String} {handler : Handler} {report help : String} :
    Ordinary shell words → Unresolved shell words report help → shell.fallback = some handler →
    Shows shell words
      (report ++ (handler (if shell.selection.index? = none then words.tail else words)).shown help)
  | hint {first : String} {rest : List String} {report help : String} :
    Ordinary shell (first :: rest) → Unresolved shell (first :: rest) report help →
    shell.fallback = none →
    Shows shell (first :: rest) (report ++ ("Unrecognized command: " ++ first ++ "\n"
      ++ "Type 'help' for list of available commands\n"))

variable {shell : Shell} {line first name text report help : String}
  {typed rest arguments : List String}
  {owner index : Nat} {command : Command} {answer : Option String}

/-! ## What words resolve to -/

/-- Looking up finds the command that words name. -/
theorem command_of_names (proper : ∀ word ∈ typed, word ≠ "")
    (names : shell.Names typed owner index command arguments) :
    shell.scope.command typed = .ok command := by
  rcases names with @⟨found, name, _, refers, named⟩
  obtain ⟨located, there, _⟩ := locate_of_refers proper refers
  obtain ⟨position, is⟩ := firstAt_commands_iff.mp named
  have known : (shell.scope.registry.get? owner).bind (·.find? name) = some command := by
    rw [Registry.bind_find?_eq_bind_command?, scope, there, Option.bind_some, position,
      Option.bind_some, Registry.command?, there]
    exact is
  rw [Scope.command_of_locate_eq_ok located, known]

/-- The module that is selected is registered. -/
def SelectedThere (shell : Shell) : Prop :=
  ∀ {owner}, shell.selection.index? = some owner →
    ∃ found, shell.registry.get? owner = some found

theorem Coherent.selectedThere {config : Config} (coherent : Coherent config shell) :
    shell.SelectedThere := by
  intro owner selection
  obtain ⟨found, there, _⟩ := coherent.selected selection
  exact ⟨found, there⟩

/-- Words name a command or there is none that they name. -/
theorem exists_names_or_unresolved (there : shell.SelectedThere) (first : String)
    (rest : List String) :
    (∃ owner index command arguments,
        shell.Names (first :: rest) owner index command arguments) ∨
      ∃ report help, shell.Unresolved (first :: rest) report help := by
  -- Once the module is known, only the command can be missing.
  have inside {owner : Nat} {found : CommandModule} {name : String} {behind : List String}
      (refers : shell.Refers (first :: rest) owner found (name :: behind)) :
      (∃ owner index command arguments,
          shell.Names (first :: rest) owner index command arguments) ∨
        ∃ report help, shell.Unresolved (first :: rest) report help := by
    rcases exists_firstAt_or_forall_not (·.name = name) found.commands with
      ⟨index, command, named⟩ | missing
    · exact .inl ⟨owner, index, command, _, .intro refers named⟩
    · exact .inr ⟨_, _, .unknownCommand refers missing⟩
  cases selection : shell.selection.index? with
  | some owner =>
    obtain ⟨found, is⟩ := there selection
    exact inside (.selected selection is)
  | none =>
    cases rest with
    | nil => exact .inr ⟨_, _, .lone selection⟩
    | cons name behind =>
      rcases exists_firstAt_or_forall_not (shell.config.Agree first ·.name)
          shell.registry.modules with ⟨owner, found, stands⟩ | strange
      · exact inside (.typed selection stands)
      · exact .inr ⟨_, _, .unknownModule selection strange⟩

theorem find?_eq_none_of_forall_not_agree
    (strange : ∀ owner ∈ shell.registry.modules, ¬ shell.config.Agree name owner.name) :
    shell.registry.find? shell.config.extent name = none :=
  findIdx?_eq_none_of_forall_not (fun _ => Config.agrees_extent_iff) strange

/-- How words that name no command are located: they locate nothing, with a fault that their help
shows, or a module that lacks the command. -/
theorem Unresolved.locate (unresolved : shell.Unresolved (first :: rest) report help)
    (proper : ∀ word ∈ first :: rest, word ≠ "") :
    (∃ fault, shell.scope.locate (first :: rest) = .error fault ∧ fault.isDiagnostic = true ∧
        help = fault.message ++ "\n" ∧
        report = if rest = [] ∧ shell.scope.selected = none then "Missing parameter\n" else help) ∨
      ∃ owner name, shell.scope.locate (first :: rest) = .ok (owner, name) ∧
        (shell.scope.registry.get? owner).bind (·.indexOf? name) = none ∧
        help = "Unrecognized command: " ++ first ++ "\n" ∧ report = "" := by
  cases unresolved with
  | lone selection =>
    exact .inl ⟨_, Scope.locate_of_lone selection, rfl, rfl, (if_pos ⟨rfl, selection⟩).symm⟩
  | @unknownModule first name rest selection strange =>
    have located : shell.scope.locate (first :: name :: rest) = .error (.illegalModule first) :=
      Scope.locate_of_no_module selection (proper name (by simp))
        (find?_eq_none_of_forall_not_agree strange)
    refine .inl ⟨_, located, rfl, rfl, ?_⟩
    rw [if_neg fun lone => List.cons_ne_nil _ _ lone.1]
  | @unknownCommand first name rest behind owner found refers missing =>
    obtain ⟨located, there, _⟩ := locate_of_refers proper refers
    refine .inr ⟨owner, name, located, ?_, rfl, rfl⟩
    rw [scope, there]
    exact findIdx?_eq_none_of_forall_not (fun _ => beq_iff_eq) missing

/-- The help of words that name no command. -/
theorem Unresolved.describe (unresolved : shell.Unresolved (first :: rest) report help)
    (proper : ∀ word ∈ first :: rest, word ≠ "") :
    shell.scope.describe (first :: rest) = help := by
  rcases unresolved.locate proper with
    ⟨fault, located, diagnostic, text, _⟩ | ⟨owner, name, located, missing, text, _⟩
  · rw [Scope.describe_of_command_eq_error (Scope.command_of_locate_eq_error located) diagnostic,
      text]
  · have unknown : (shell.scope.registry.get? owner).bind (·.find? name) = none := by
      rw [Registry.bind_find?_eq_bind_command?, missing, Option.bind_none]
    rw [Scope.describe_of_locate_eq_ok located, unknown, text]
    rfl

/-- Words that name no command fail to resolve, with a fault that is reported as such words are. -/
theorem Unresolved.resolve (unresolved : shell.Unresolved (first :: rest) report help)
    (proper : ∀ word ∈ first :: rest, word ≠ "") (noHelp : first ≠ "help")
    (noSelect : first ≠ "select") :
    ∃ fault, shell.scope.resolve (first :: rest) = .error fault ∧
      Event.console [Shell.report fault] = report := by
  have nonempty : first ≠ "" := proper first (by simp)
  rcases unresolved.locate proper with
    ⟨fault, located, diagnostic, text, reported⟩ | ⟨owner, name, located, missing, _, silent⟩
  · refine ⟨_, Scope.resolve_of_locate_eq_error nonempty noHelp noSelect located, ?_⟩
    rw [reported, text]
    split
    · rfl
    · rw [Shell.report, if_pos diagnostic, Event.console_line]
  · refine ⟨shell.scope.missing owner name, ?_, ?_⟩
    · rw [Scope.resolve_of_locate_eq_ok nonempty noHelp noSelect located, missing]
    · rw [silent]
      rfl

/-! ## What is shown before the prompt -/

/-- Help is given on the words that name a command, unless a module is all that they can name. -/
theorem helpText_eq_describe {words : List String} (nonempty : words ≠ [])
    (several : shell.selection.index? = none → words.length ≠ 1) :
    shell.scope.helpText words = shell.scope.describe words := by
  unfold Scope.helpText
  split
  · exact (nonempty rfl).elim
  · exact (nonempty rfl).elim
  · next name unselected => exact (several unselected rfl).elim
  · rfl

/-- The help text is the one that the rules allow. -/
theorem Helps.helpText {words : List String} (helps : shell.Helps words text)
    (proper : ∀ word ∈ words, word ≠ "") : shell.scope.helpText words = text := by
  cases helps with
  | overview selection =>
    simp only [Scope.helpText, selected_scope, selection]
    rfl
  | @selected chosen found selection there =>
    simp only [Scope.helpText, selected_scope, selection]
    exact Registry.listing_of_get? there
  | @named name owner found selection stands =>
    obtain ⟨position, there⟩ := firstAt_modules_iff.mp stands
    have position : shell.scope.registry.find? shell.scope.extent name = some owner := position
    simp only [Scope.helpText, selected_scope, selection, position]
    exact Registry.listing_of_get? there
  | @unknownName name selection strange =>
    have missing : shell.scope.registry.find? shell.scope.extent name = none :=
      find?_eq_none_of_forall_not_agree strange
    simp only [Scope.helpText, selected_scope, selection, missing]
    rfl
  | command names =>
    rw [Scope.helpText_of_command_eq_ok (command_of_names proper names),
      Command.describe_eq_description]
  | unresolved several unresolved =>
    cases words with
    | nil => cases unresolved
    | cons first rest =>
      rw [helpText_eq_describe (by simp) several, unresolved.describe proper]

theorem console_call_eq_shown (callee : Callee) (handler : Handler) (words : List String) :
    Event.console (shell.call callee handler words) =
      (handler (shell.handed words)).shown (shell.scope.describe words) :=
  console_call callee handler words

/-- The command that words name runs, and is described when it failed. -/
theorem console_dispatch_of_names (proper : ∀ word ∈ first :: rest, word ≠ "")
    (ordinary : shell.Ordinary (first :: rest))
    (names : shell.Names (first :: rest) owner index command arguments) :
    Event.console (shell.dispatch (first :: rest)).events =
      (command.handler arguments).shown command.description := by
  obtain ⟨resolved, there, handed, _⟩ :=
    resolve_of_names proper ordinary.head_ne.1 ordinary.head_ne.2 names
  rw [dispatch_of_resolve_eq_command resolved there, Event.console_append, console_lookupRecords,
    String.empty_append, console_call_eq_shown, handed,
    Scope.describe_of_command_eq_ok (command_of_names proper names),
    Command.describe_eq_description]

/-- Words that name no command are reported, and then fall back. -/
theorem console_dispatch_of_unresolved (proper : ∀ word ∈ first :: rest, word ≠ "")
    (ordinary : shell.Ordinary (first :: rest))
    (unresolved : shell.Unresolved (first :: rest) report help) :
    Event.console (shell.dispatch (first :: rest)).events =
      report ++ Event.console (shell.fallBack (first :: rest)) := by
  obtain ⟨fault, resolved, reported⟩ :=
    unresolved.resolve proper ordinary.head_ne.1 ordinary.head_ne.2
  rw [dispatch_of_resolve_eq_error resolved, Event.console_append, console_lookupRecords,
    String.empty_append, ← List.singleton_append, Event.console_append, reported]

/-- A text with its line end put on. -/
theorem line_of_append {start tail whole : String} (closed : tail ++ "\n" = whole) :
    start ++ tail ++ "\n" = start ++ whole := by
  rw [String.append_assoc, closed]

/-- What a line shows is what its words show. -/
theorem console_body_of_shows (allowed : shell.Shows (words line) text) :
    Event.console (shell.body line).events = text := by
  have proper : ∀ word ∈ words line, word ≠ "" := fun _ => Arguments.ne_empty_of_mem_words
  generalize read : words line = tokens at allowed proper
  cases allowed with
  | tooMany many =>
    rw [body_of_many (by rwa [read]), Event.console_line]
    exact line_of_append (by decide)
  | nothing =>
    rw [body_of_no_words read]
    rfl
  | help few helps =>
    rw [body_of_words read few, dispatch_help, Event.console_cons_printed, Event.console_nil,
      String.append_empty]
    exact helps.helpText fun word member => proper word (List.mem_cons_of_mem _ member)
  | deselected few =>
    rw [body_of_words read few, dispatch_select]
    rfl
  | @selected name rest owner found few short stands =>
    have choice : shell.choose name = .ok owner :=
      Selection.choose_eq_ok_iff.mpr ⟨short, (firstAt_modules_iff.mp stands).1⟩
    rw [body_of_words read few, dispatch_select, selectBuiltin_of_choose_eq_ok choice]
    rfl
  | @longName name rest few long =>
    have refused : shell.choose name = .error (.nameTooLong name) := Selection.choose_of_long long
    rw [body_of_words read few, dispatch_select, selectBuiltin_of_choose_eq_error refused,
      Event.console_line]
    exact line_of_append (by decide)
  | @unknownName name rest few short strange =>
    have refused : shell.choose name = .error (.moduleNotFound name) :=
      Selection.choose_of_find?_eq_none short (find?_eq_none_of_forall_not_agree strange)
    rw [body_of_words read few, dispatch_select, selectBuiltin_of_choose_eq_error refused,
      Event.console_line]
    exact line_of_append (by decide)
  | @command _ arguments owner index command ordinary names =>
    cases tokens with
    | nil => exact (ordinary.nonempty rfl).elim
    | cons first rest =>
      rw [body_of_words read ordinary.few, console_dispatch_of_names proper ordinary names]
  | @fallback _ handler report help ordinary unresolved installed =>
    cases tokens with
    | nil => exact (ordinary.nonempty rfl).elim
    | cons first rest =>
      have called : Event.console (shell.fallBack (first :: rest)) =
          (handler (shell.handed (first :: rest))).shown help := by
        rw [← unresolved.describe proper, ← console_call_eq_shown .fallback]
        simp only [fallBack, installed]
      rw [body_of_words read ordinary.few,
        console_dispatch_of_unresolved proper ordinary unresolved, called, handed_eq_ite]
  | @hint first rest report help ordinary unresolved absent =>
    have hinted : Event.console (shell.fallBack (first :: rest)) =
        "Unrecognized command: " ++ first ++ "\n"
          ++ "Type 'help' for list of available commands\n" := by
      simp only [fallBack, absent]
      rw [Event.console_cons_line, Event.console_line]
      rfl
    rw [body_of_words read ordinary.few,
      console_dispatch_of_unresolved proper ordinary unresolved, hinted]

end Shell

end CommandShell
