import CommandShell.Demo
import CommandShell.Proofs.List.FirstAt
import CommandShell.Proofs.Shell.Lookup

/-!
# Which handler a line calls

`Shell.Names` says which command words name, without the searches of the shell: the
first command of its name in the module that the words refer to, and that module is the
selected one or else the first one that the first word stands for. The words from the
command's name on are its arguments.

Resolving finds exactly the commands that words name (`Shell.resolve_of_names`,
`Shell.names_of_resolve`), and a line calls the command that its words name, or the fallback
handler when they name none (`Shell.calls_execute_of_pieces`).
-/

namespace CommandShell

/-! ## Names that stand for a module -/

/-- When a typed name stands for the name of a module. -/
def Config.Agree (config : Config) (typed name : String) : Prop :=
  match config.nameMatch with
  | .exact => typed = name
  | .leading => typed.toList.take config.maxNameLength = name.toList.take config.maxNameLength

theorem Config.agrees_extent_iff {config : Config} {typed name : String} :
    config.extent.agrees typed name = true ↔ config.Agree typed name := by
  unfold Agree extent
  cases config.nameMatch with
  | exact => exact Extent.agrees_whole_iff
  | leading => exact Extent.agrees_iff

instance {config : Config} {typed name : String} : Decidable (config.Agree typed name) :=
  decidable_of_iff _ Config.agrees_extent_iff

namespace Shell

open Arguments (words pieces)

/-! ## What words name -/

/-- The module that words refer to and its position, with the words from the name of a command on:
all of them when a module is selected, and else those behind the name of a module. -/
inductive Refers (shell : Shell) : List String → Nat → CommandModule → List String → Prop
  | selected {words : List String} {owner : Nat} {found : CommandModule} :
    shell.selection.index? = some owner →
    shell.registry.modules[owner]? = some found →
    Refers shell words owner found words
  | typed {first name : String} {rest : List String} {owner : Nat} {found : CommandModule} :
    shell.selection.index? = none →
    FirstAt (shell.config.Agree first ·.name) shell.registry.modules owner found →
    Refers shell (first :: name :: rest) owner found (name :: rest)

/-- A command that words name, by the positions of its module and of itself, and its arguments. -/
inductive Names (shell : Shell) (words : List String) (owner index : Nat) (command : Command) :
    List String → Prop
  | intro {found : CommandModule} {name : String} {rest : List String} :
    Refers shell words owner found (name :: rest) →
    FirstAt (·.name = name) found.commands index command →
    Names shell words owner index command (name :: rest)

/-- Words that are for a handler: not too many of them, at least one, and no built-in. -/
structure Ordinary (shell : Shell) (words : List String) : Prop where
  nonempty : words ≠ []
  few : words.length ≤ shell.config.maxArgs
  help : words.head? ≠ some "help"
  select : words.head? ≠ some "select"

variable {shell : Shell} {line first name : String} {rest arguments : List String}
  {owner index : Nat} {found : CommandModule} {command : Command}

theorem firstAt_commands_iff :
    FirstAt (·.name = name) found.commands index command ↔
      found.indexOf? name = some index ∧ found.commands[index]? = some command :=
  firstAt_iff fun _ => beq_iff_eq

theorem firstAt_modules_iff :
    FirstAt (shell.config.Agree first ·.name) shell.registry.modules owner found ↔
      shell.registry.find? shell.config.extent first = some owner ∧
        shell.registry.get? owner = some found :=
  firstAt_iff fun _ => Config.agrees_extent_iff

/-! ## What words name is what they resolve to -/

/-- Locating finds the module that words refer to. -/
theorem locate_of_refers {words : List String} (proper : ∀ word ∈ words, word ≠ "")
    (refers : shell.Refers words owner found (name :: rest)) :
    shell.scope.locate words = .ok (owner, name) ∧ shell.registry.get? owner = some found ∧
      shell.handed words = name :: rest := by
  cases refers with
  | selected selected there =>
    exact ⟨Scope.locate_of_selected selected, there, handed_of_selected selected _⟩
  | typed unselected stands =>
    obtain ⟨position, there⟩ := firstAt_modules_iff.mp stands
    refine ⟨?_, there, handed_of_unselected unselected _⟩
    exact Scope.locate_of_unselected unselected (proper name (by simp)) position

/-- Words refer to the module that locating finds. -/
theorem refers_of_locate {words : List String}
    (located : shell.scope.locate words = .ok (owner, name))
    (there : shell.registry.get? owner = some found) :
    ∃ rest, shell.handed words = name :: rest ∧ shell.Refers words owner found (name :: rest) := by
  cases words with
  | nil => cases located
  | cons first more =>
    cases selection : shell.selection.index? with
    | some chosen =>
      rw [Scope.locate_of_selected (shell.selected_scope.trans selection)] at located
      cases located
      exact ⟨more, handed_of_selected selection _, .selected selection there⟩
    | none =>
      have unselected := shell.selected_scope.trans selection
      cases more with
      | nil =>
        rw [Scope.locate_of_lone unselected] at located
        cases located
      | cons second rest =>
        by_cases nonempty : second = ""
        · simp only [Scope.locate, unselected, if_pos nonempty] at located
          cases located
        · cases position : shell.scope.registry.find? shell.scope.extent first with
          | none =>
            rw [Scope.locate_of_no_module unselected nonempty position] at located
            cases located
          | some place =>
            rw [Scope.locate_of_unselected unselected nonempty position] at located
            cases located
            exact ⟨rest, handed_of_unselected selection _,
              .typed selection (firstAt_modules_iff.mpr ⟨position, there⟩)⟩

/-- Resolving finds the command that words name. -/
theorem resolve_of_names (proper : ∀ word ∈ first :: rest, word ≠ "") (help : first ≠ "help")
    (select : first ≠ "select")
    (names : shell.Names (first :: rest) owner index command arguments) :
    shell.scope.resolve (first :: rest) = .ok (.command owner index) ∧
      shell.registry.command? owner index = some command ∧
      shell.handed (first :: rest) = arguments ∧ arguments.head? = some command.name := by
  rcases names with @⟨found, name, _, refers, named⟩
  obtain ⟨located, there, handed⟩ := locate_of_refers proper refers
  obtain ⟨position, is⟩ := firstAt_commands_iff.mp named
  refine ⟨?_, ?_, handed, ?_⟩
  · have found : (shell.scope.registry.get? owner).bind (·.indexOf? name) = some index := by
      rw [scope, there]
      exact position
    rw [Scope.resolve_of_locate_eq_ok (proper first (by simp)) help select located, found]
  · rw [Registry.command?, there]
    exact is
  · rw [List.head?_cons, named.holds]

/-- Words name the command that they resolve to. -/
theorem names_of_resolve (nonempty : first ≠ "") (help : first ≠ "help") (select : first ≠ "select")
    (resolved : shell.scope.resolve (first :: rest) = .ok (.command owner index))
    (known : shell.registry.command? owner index = some command) :
    shell.Names (first :: rest) owner index command (shell.handed (first :: rest)) := by
  cases located : shell.scope.locate (first :: rest) with
  | error fault =>
    rw [Scope.resolve_of_locate_eq_error nonempty help select located] at resolved
    cases resolved
  | ok place =>
    rcases place with ⟨owner', name⟩
    rw [Scope.resolve_of_locate_eq_ok nonempty help select located] at resolved
    cases position : (shell.scope.registry.get? owner').bind (·.indexOf? name) with
    | none =>
      rw [position] at resolved
      cases resolved
    | some index' =>
      rw [position] at resolved
      cases resolved
      obtain ⟨found, there, position⟩ := Option.bind_eq_some_iff.mp position
      obtain ⟨rest', handed, refers⟩ := refers_of_locate located there
      have there : shell.registry.get? owner = some found := there
      rw [Registry.command?, there] at known
      rw [handed]
      exact .intro refers (firstAt_commands_iff.mpr ⟨position, known⟩)

/-- Words that are no built-in name a command, or resolving them fails. -/
theorem exists_names_or_error (nonempty : first ≠ "") (help : first ≠ "help")
    (select : first ≠ "select") :
    (∃ owner index command,
        shell.Names (first :: rest) owner index command (shell.handed (first :: rest))) ∨
      ∃ fault, shell.scope.resolve (first :: rest) = .error fault := by
  cases known : shell.scope.command (first :: rest) with
  | ok command =>
    obtain ⟨owner, index, resolved, there⟩ :=
      Scope.resolve_of_command_eq_ok nonempty help select known
    exact .inl ⟨owner, index, command, names_of_resolve nonempty help select resolved there⟩
  | error fault =>
    exact .inr ⟨_, Scope.resolve_of_command_eq_error nonempty help select known⟩

/-! ## The call of a line -/

theorem Ordinary.head_ne (ordinary : shell.Ordinary (first :: rest)) :
    first ≠ "help" ∧ first ≠ "select" :=
  ⟨by simpa using ordinary.help, by simpa using ordinary.select⟩

/-- Only words that are for a handler call one. -/
theorem calls_execute_of_not_ordinary (special : ¬ shell.Ordinary (words line)) :
    Event.calls (shell.execute line).events = [] := by
  rw [calls_execute_eq_ite]
  split
  · rfl
  · next usual =>
    obtain ⟨nonempty, few⟩ := not_or.mp usual
    cases read : words line with
    | nil => exact (nonempty read).elim
    | cons first rest =>
      rw [read] at special few
      by_cases help : first = "help"
      · subst help
        rw [dispatch_help]
        rfl
      · by_cases select : first = "select"
        · subst select
          rw [dispatch_select, calls_selectBuiltin]
        · have few : rest.length + 1 ≤ shell.config.maxArgs := Nat.le_of_not_lt few
          exact (special ⟨by simp, few, by simpa using help, by simpa using select⟩).elim

/-- The command that words name is called. -/
theorem calls_execute_of_names (ordinary : shell.Ordinary (words line))
    (names : shell.Names (words line) owner index command arguments) :
    Event.calls (shell.execute line).events = [(.command owner index, arguments)] ∧
      arguments.head? = some command.name := by
  have proper : ∀ word ∈ words line, word ≠ "" := fun _ => Arguments.ne_empty_of_mem_words
  rw [calls_execute]
  cases read : words line with
  | nil => exact (ordinary.nonempty read).elim
  | cons first rest =>
    rw [read] at ordinary names proper
    obtain ⟨resolved, there, handed, own⟩ :=
      resolve_of_names proper ordinary.head_ne.1 ordinary.head_ne.2 names
    refine ⟨?_, own⟩
    rw [body_of_words read ordinary.few, dispatch_of_resolve_eq_command resolved there,
      Event.calls_append, calls_lookupRecords, List.nil_append, calls_call, handed]

/-- Words that name no command call the fallback handler. -/
theorem calls_execute_of_not_names (ordinary : shell.Ordinary (words line))
    (nameless : ∀ owner index command arguments,
      ¬ shell.Names (words line) owner index command arguments) :
    Event.calls (shell.execute line).events =
      (shell.fallback.map fun _ => (Callee.fallback, shell.handed (words line))).toList := by
  rw [calls_execute]
  cases read : words line with
  | nil => exact (ordinary.nonempty read).elim
  | cons first rest =>
    have nonempty : first ≠ "" := Arguments.ne_empty_of_mem_words (by rw [read]; simp)
    rw [read] at ordinary nameless
    rcases exists_names_or_error nonempty ordinary.head_ne.1 ordinary.head_ne.2 with
      ⟨owner, index, command, names⟩ | ⟨fault, unresolved⟩
    · exact (nameless _ _ _ _ names).elim
    · rw [body_of_words read ordinary.few, calls_dispatch, unresolved]
      rfl

/-- A line makes at most one call, and none when it has too many words, none or a built-in. A
command that the words name is called with the words from its own name on. Otherwise the fallback
handler is called, if there is one, with all words when a module is selected and without the first
one when none is. -/
theorem calls_execute_of_pieces (shell : Shell) (line : String) :
    let words := pieces line
    let calls := Event.calls (shell.execute line).events
    calls.length ≤ 1 ∧
    (¬ shell.Ordinary words → calls = []) ∧
    (shell.Ordinary words →
      (∀ owner index command arguments, shell.Names words owner index command arguments →
        calls = [(.command owner index, arguments)] ∧ arguments.head? = some command.name) ∧
      ((∀ owner index command arguments, ¬ shell.Names words owner index command arguments) →
        calls =
          match shell.fallback with
          | some _ => [(.fallback, if shell.selection.index? = none then words.tail else words)]
          | none => [])) := by
  intro words calls
  have read : words = Arguments.words line := (Arguments.words_eq_pieces line).symm
  have silent (special : ¬ shell.Ordinary words) : calls = [] := by
    rw [read] at special
    exact calls_execute_of_not_ordinary special
  have named (ordinary : shell.Ordinary words) (owner index : Nat) (command : Command)
      (arguments : List String) (names : shell.Names words owner index command arguments) :
      calls = [(.command owner index, arguments)] ∧ arguments.head? = some command.name := by
    rw [read] at ordinary names
    exact calls_execute_of_names ordinary names
  have nameless (ordinary : shell.Ordinary words)
      (nameless : ∀ owner index command arguments,
        ¬ shell.Names words owner index command arguments) :
      calls =
        match shell.fallback with
        | some _ => [(.fallback, if shell.selection.index? = none then words.tail else words)]
        | none => [] := by
    rw [← handed_eq_ite]
    rw [read] at ordinary nameless ⊢
    refine (calls_execute_of_not_names ordinary nameless).trans ?_
    cases shell.fallback <;> rfl
  refine ⟨?_, silent, fun ordinary => ⟨named ordinary, nameless ordinary⟩⟩
  by_cases ordinary : shell.Ordinary words
  · by_cases names : ∃ owner index command arguments,
        shell.Names words owner index command arguments
    · obtain ⟨owner, index, command, arguments, names⟩ := names
      rw [(named ordinary owner index command arguments names).1]
      exact Nat.le_refl 1
    · rw [nameless ordinary fun owner index command arguments named =>
        names ⟨owner, index, command, arguments, named⟩]
      cases shell.fallback <;> simp
  · rw [silent ordinary]
    exact Nat.zero_le 1

end Shell

end CommandShell
