import CommandShell.Demo
import CommandShell.Proofs.Shell.Line

/-!
# Running a command and looking up its help

A line is resolved to the position of a command, and the help of a command is found by
its name. Both searches go through the same place, so they meet in the same command
(`Scope.resolve_of_command_eq_ok`) and fail with the same fault; only a lone word
without a selected module has a fault of its own when it is run
(`Scope.resolve_of_command_eq_error`).

So the help that follows a failed command is that of the command that ran, and `help`
before the words of a line describes the command that the line runs
(`Scope.resolve_meets_command`).
-/

namespace CommandShell

namespace Scope

variable {scope : Scope} {first : String} {rest words : List String} {command : Command}

/-! ## The two searches -/

/-- Words whose command can be looked up resolve to the position of that very command. -/
theorem resolve_of_command_eq_ok (nonempty : first ≠ "") (help : first ≠ "help")
    (select : first ≠ "select") (known : scope.command (first :: rest) = .ok command) :
    ∃ owner index, scope.resolve (first :: rest) = .ok (.command owner index) ∧
      scope.registry.command? owner index = some command := by
  cases located : scope.locate (first :: rest) with
  | error fault =>
    rw [command_of_locate_eq_error located] at known
    cases known
  | ok place =>
    rcases place with ⟨owner, name⟩
    rw [command_of_locate_eq_ok located, Registry.bind_find?_eq_bind_command?] at known
    rw [resolve_of_locate_eq_ok nonempty help select located]
    cases position : (scope.registry.get? owner).bind (·.indexOf? name) with
    | none =>
      rw [position] at known
      cases known
    | some index =>
      rw [position, Option.bind_some] at known
      cases there : scope.registry.command? owner index with
      | none =>
        rw [there] at known
        cases known
      | some found =>
        rw [there] at known
        cases known
        exact ⟨owner, index, rfl, there⟩

/-- Words whose command cannot be looked up do not resolve, for the same reason; a lone word
without a selected module has a fault of its own. -/
theorem resolve_of_command_eq_error {fault : Fault} (nonempty : first ≠ "")
    (help : first ≠ "help") (select : first ≠ "select")
    (unknown : scope.command (first :: rest) = .error fault) :
    scope.resolve (first :: rest) =
      .error (if rest = [] ∧ scope.selected = none then .missingParameter else fault) := by
  cases located : scope.locate (first :: rest) with
  | error reason =>
    rw [command_of_locate_eq_error located] at unknown
    cases unknown
    exact resolve_of_locate_eq_error nonempty help select located
  | ok place =>
    rcases place with ⟨owner, name⟩
    have pair : ¬ (rest = [] ∧ scope.selected = none) := by
      rintro ⟨rfl, unselected⟩
      simp [locate, unselected] at located
    rw [resolve_of_locate_eq_ok nonempty help select located, if_neg pair]
    rw [command_of_locate_eq_ok located, Registry.bind_find?_eq_bind_command?] at unknown
    cases position : (scope.registry.get? owner).bind (·.indexOf? name) with
    | none =>
      rw [position] at unknown
      cases unknown
      rfl
    | some index =>
      -- A command that has a position is there, so the lookup would not have failed.
      rw [position, Option.bind_some] at unknown
      obtain ⟨found, there, _⟩ := Registry.exists_command?_of_bind_indexOf? position
      rw [there] at unknown
      cases unknown

/-- The command at the position that words resolve to is the one that they look up. -/
theorem command_of_resolve_eq_command {owner index : Nat} (nonempty : first ≠ "")
    (help : first ≠ "help") (select : first ≠ "select")
    (resolved : scope.resolve (first :: rest) = .ok (.command owner index)) :
    ∃ command, scope.command (first :: rest) = .ok command ∧
      scope.registry.command? owner index = some command := by
  cases known : scope.command (first :: rest) with
  | error fault =>
    rw [resolve_of_command_eq_error nonempty help select known] at resolved
    cases resolved
  | ok command =>
    obtain ⟨_, _, resolved', there⟩ := resolve_of_command_eq_ok nonempty help select known
    rw [resolved'] at resolved
    cases resolved
    exact ⟨command, rfl, there⟩

/-! ## The help of a command -/

theorem describe_of_command_eq_ok (known : scope.command words = .ok command) :
    scope.describe words = command.describe := by
  simp only [describe, known]

/-- A fault that is shown at once is also what the help of such words says. -/
theorem describe_of_command_eq_error {fault : Fault} (unknown : scope.command words = .error fault)
    (diagnostic : fault.isDiagnostic = true) : scope.describe words = fault.message ++ "\n" := by
  simp only [describe, unknown, if_pos diagnostic]

/-- Words that name a command are enough for `help` to describe it. -/
theorem helpText_of_command_eq_ok (known : scope.command words = .ok command) :
    scope.helpText words = command.describe := by
  have named : scope.command [] = .error .emptyCommand := command_of_locate_eq_error rfl
  unfold helpText
  split
  · rw [named] at known
    cases known
  · rw [named] at known
    cases known
  · next name unselected =>
    -- A lone word names a module here, and no command.
    rw [command_of_locate_eq_error (locate_of_lone unselected)] at known
    cases known
  · exact describe_of_command_eq_ok known

end Scope

/-! ## A command that ran and its help -/

namespace Shell

open Arguments (words)

variable {shell : Shell} {line first : String} {rest : List String} {owner index : Nat}
  {arguments : List String}

/-- Only words that resolve to a command call it. -/
theorem resolve_of_mem_calls_dispatch
    (called : (.command owner index, arguments) ∈
      Event.calls (shell.dispatch (first :: rest)).events) :
    shell.scope.resolve (first :: rest) = .ok (.command owner index) ∧
      arguments = shell.handed (first :: rest) := by
  rw [calls_dispatch] at called
  cases resolved : shell.scope.resolve (first :: rest) with
  | error fault =>
    rw [resolved] at called
    cases installed : shell.fallback <;> simp [Except.toOption, installed] at called
  | ok target =>
    rw [resolved] at called
    cases target with
    | help => cases called
    | select => cases called
    | command owner' index' =>
      cases known : shell.registry.command? owner' index' with
      | none => simp [Except.toOption, known] at called
      | some command =>
        obtain ⟨⟨rfl, rfl⟩, rfl⟩ := by simpa [Except.toOption, known] using called
        exact ⟨rfl, rfl⟩

/-- A command that a line calls is the one that the line's words look up, and what is printed is
its output, with its help when it failed. -/
theorem command_of_mem_calls (read : words line = first :: rest) (help : first ≠ "help")
    (select : first ≠ "select")
    (called : (.command owner index, arguments) ∈ Event.calls (shell.execute line).events) :
    ∃ command, shell.registry.command? owner index = some command ∧
      shell.scope.command (first :: rest) = .ok command ∧
      Event.console (shell.body line).events = (command.handler arguments).output ++
        if (command.handler arguments).status < 0 then command.describe else "" := by
  have member : first ∈ words line := by simp [read]
  have nonempty := Arguments.ne_empty_of_mem_words member
  rw [calls_execute] at called
  rcases Nat.lt_or_ge shell.config.maxArgs (rest.length + 1) with many | few
  · rw [body_of_many (by rwa [read])] at called
    cases called
  · rw [body_of_words read few] at called ⊢
    obtain ⟨resolved, rfl⟩ := resolve_of_mem_calls_dispatch called
    obtain ⟨command, known, there⟩ :=
      Scope.command_of_resolve_eq_command nonempty help select resolved
    refine ⟨command, there, known, ?_⟩
    rw [dispatch_of_resolve_eq_command resolved there, Event.console_append,
      console_lookupRecords, String.empty_append, console_call,
      Scope.describe_of_command_eq_ok known]

end Shell

namespace Scope

open Arguments (words)

/-- Resolving the words of a line and looking their command up meet in one command or fail with one
fault; a lone word without a selected module has a fault of its own when it is resolved. So the help
of a failed command is that of the command that ran, and `help` before the words of a line describes
the command that the line runs. The position of a selected module may be any number here. -/
theorem resolve_meets_command (scope : Scope) {first : String} (rest : List String)
    (nonempty : first ≠ "") (help : first ≠ "help") (select : first ≠ "select") :
    (∀ owner index, scope.resolve (first :: rest) = .ok (.command owner index) →
      ∃ command, scope.command (first :: rest) = .ok command ∧
        scope.registry.command? owner index = some command) ∧
    (∀ command, scope.command (first :: rest) = .ok command →
      ∃ owner index, scope.resolve (first :: rest) = .ok (.command owner index) ∧
        scope.registry.command? owner index = some command) ∧
    (∀ fault, scope.command (first :: rest) = .error fault →
      if rest = [] ∧ scope.selected = none then
        fault = .unrecognizedCommand first ∧
          scope.resolve (first :: rest) = .error .missingParameter
      else scope.resolve (first :: rest) = .error fault) ∧
    ∀ (shell : Shell) (line : String) (owner index : Nat) (arguments : List String),
      shell.scope = scope → words line = first :: rest →
      (.command owner index, arguments) ∈ Event.calls (shell.execute line).events →
      ∃ command, scope.registry.command? owner index = some command ∧
        (Event.console (shell.body line).events = (command.handler arguments).output ++
          if (command.handler arguments).status < 0 then command.describe else "") ∧
        ∀ helpLine, words helpLine = "help" :: first :: rest →
          rest.length + 2 ≤ shell.config.maxArgs →
          Event.console (shell.body helpLine).events = command.describe := by
  refine ⟨?_, ?_, ?_, ?_⟩
  · intro owner index resolved
    exact command_of_resolve_eq_command nonempty help select resolved
  · intro command known
    exact resolve_of_command_eq_ok nonempty help select known
  · intro fault unknown
    have resolved := resolve_of_command_eq_error nonempty help select unknown
    split
    · next lone =>
      obtain ⟨rfl, unselected⟩ := lone
      rw [if_pos ⟨rfl, unselected⟩] at resolved
      rw [command_of_locate_eq_error (locate_of_lone unselected)] at unknown
      cases unknown
      exact ⟨rfl, resolved⟩
    · next several => rwa [if_neg several] at resolved
  · rintro shell line owner index arguments rfl read called
    obtain ⟨command, there, known, printed⟩ :=
      Shell.command_of_mem_calls read help select called
    refine ⟨command, there, printed, ?_⟩
    intro helpLine readHelp few
    rw [Shell.body_of_words readHelp few, Shell.dispatch_help, helpText_of_command_eq_ok known,
      Event.console_cons_printed, Event.console_nil, String.append_empty]

/-- Two modules of each name, and two letters of a name count. One operand is missing, so the usage
is shown. -/
theorem resolve_meets_command_twins :
    let shell : Shell :=
      { config := { maxNameLength := 2, nameMatch := .leading }
        registry := ⟨8, Demo.modules 0 ++ Demo.modules 5⟩ }
    shell.scope.resolve ["mad", "add", "1"] = .ok (.command 1 0) ∧
      Event.console (shell.body " mad add  1").events = "add:\nadd <a> <b>\n" ∧
      Event.console (shell.body "help mad add 1").events = "add:\nadd <a> <b>\n" := by
  intro shell
  have resolved : shell.scope.resolve ["mad", "add", "1"] = .ok (.command 1 0) := by rfl
  obtain ⟨-, -, -, ran⟩ := resolve_meets_command shell.scope ["add", "1"]
    (by decide : "mad" ≠ "") (by decide) (by decide)
  have read : words " mad add  1" = ["mad", "add", "1"] := by decide +kernel
  have called :
      (.command 1 0, ["add", "1"]) ∈ Event.calls (shell.execute " mad add  1").events := by
    decide +kernel
  obtain ⟨command, there, printed, helped⟩ :=
    ran shell " mad add  1" 1 0 ["add", "1"] rfl read called
  have first : shell.registry.command? 1 0 = Demo.mathCommands[0]? := by rfl
  obtain rfl := Option.some.inj (there.symm.trans first)
  refine ⟨resolved, printed.trans (by decide +kernel), ?_⟩
  rw [helped "help mad add 1" (by decide +kernel) (by decide)]
  decide +kernel

end Scope

end CommandShell
