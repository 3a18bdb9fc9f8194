import CommandShell.Proofs.Shell.Frame
import CommandShell.Proofs.Shell.Output
import CommandShell.Proofs.Shell.Shorthand

/-!
# Help under a selected module

The words behind `help` mean a module or a command, and which of the two depends on whether a
module is selected. With nothing selected the module is named, and with the module selected
its name is left out: the built-in `help` then shows the same (`Shell.help_of_select`). Either
way it calls nobody and leaves the selection as it is (`Shell.quiet_of_help`).
-/

namespace CommandShell

namespace Shell

open Arguments (words pieces)

/-- All that the line does is to show a text and then the prompt. -/
def Tells (shell : Shell) (line text : String) : Prop :=
  (shell.execute line).events = .printed text :: shell.showPrompt.events

/-- The line calls no handler and leaves the selection as it is. -/
def Quiet (shell : Shell) (line : String) : Prop :=
  Event.calls (shell.execute line).events = [] ∧
    (shell.execute line).shell.selection = shell.selection

variable {shell next : Shell} {line m c text : String} {rest : List String} {owner index : Nat}
  {found : CommandModule} {command : Command}

/-- The built-in shows the help that the rules allow for the words behind it. -/
theorem Helps.tells (helps : shell.Helps rest text) (read : pieces line = "help" :: rest)
    (few : rest.length + 1 ≤ shell.config.maxArgs) : shell.Tells line text := by
  have read : words line = "help" :: rest := (Arguments.words_eq_pieces line).trans read
  have proper : ∀ word ∈ rest, word ≠ "" := by
    intro word member
    have among : word ∈ words line := by
      rw [read]
      exact List.mem_cons_of_mem _ member
    exact Arguments.ne_empty_of_mem_words among
  rw [Tells, execute, Turn.events_andThen, body_of_words read few, dispatch_help,
    helps.helpText proper]
  rfl

/-- However many words are behind `help`, no handler is called and the selection stays. -/
theorem quiet_of_help (help : (pieces line).head? = some "help") : shell.Quiet line := by
  rw [← Arguments.words_eq_pieces] at help
  constructor
  · exact calls_execute_of_not_ordinary fun ordinary => ordinary.help help
  · have other : (words line).head? ≠ some "select" := by
      rw [help]
      decide
    rw [selection_execute, setting?_of_other other, Option.getD_none]

/-- A name that a search finds selects the module. -/
theorem chosen_select (short : m.length ≤ shell.config.maxNameLength)
    (position : shell.registry.find? shell.config.extent m = some owner) :
    Chosen owner shell (shell.select m).2.shell := by
  rw [select_of_find? short position]
  exact ⟨rfl, rfl, rfl, rfl⟩

namespace Chosen

variable (chosen : Chosen owner shell next) (there : shell.registry.modules[owner]? = some found)

include chosen there

theorem helps : next.Helps [] found.listing := by
  rw [← chosen.registry_eq] at there
  exact .selected chosen.index? there

theorem helps_command (named : FirstAt (·.name = c) found.commands index command) :
    next.Helps (c :: rest) command.description := by
  rw [← chosen.registry_eq] at there
  exact .command (.intro (.selected chosen.index? there) named)

end Chosen

/-- With nothing selected, take a name that stands for a module and can be typed. Once that module
is selected, `help` shows what `help` with the name showed before: `help` and then every command of
the module. Behind `help` a command of the module has the same help without the module's name as it
had with it before, whatever words follow. All this is shown before the prompt and nothing else
happens. No line that starts with `help` calls a handler or changes the selection. -/
theorem help_of_select (unselected : shell.selection.index? = none)
    (short : m.length ≤ shell.config.maxNameLength)
    (stands : FirstAt (shell.config.Agree m ·.name) shell.registry.modules owner found) :
    let next := (shell.select m).2.shell
    next.selection.index? = some owner ∧
    (∀ bare named, pieces bare = ["help"] → pieces named = ["help", m] →
      2 ≤ shell.config.maxArgs →
      next.Tells bare found.listing ∧ shell.Tells named found.listing) ∧
    (∀ c index command, FirstAt (·.name = c) found.commands index command →
      ∀ rest bare named, pieces bare = "help" :: c :: rest →
        pieces named = "help" :: m :: c :: rest → rest.length + 3 ≤ shell.config.maxArgs →
        next.Tells bare command.description ∧ shell.Tells named command.description) ∧
    ∀ line, (pieces line).head? = some "help" → shell.Quiet line ∧ next.Quiet line := by
  intro next
  have chosen : Chosen owner shell next := chosen_select short (firstAt_modules_iff.mp stands).1
  have limit : next.config.maxArgs = shell.config.maxArgs := congrArg _ chosen.config_eq
  refine ⟨chosen.index?, ?_, ?_, fun line help => ⟨quiet_of_help help, quiet_of_help help⟩⟩
  · intro bare named readBare readNamed few
    constructor
    · exact (chosen.helps stands.there).tells readBare (by rw [limit]; exact Nat.le_of_lt few)
    · exact (Helps.named unselected stands).tells readNamed few
  · intro c index command first rest bare named readBare readNamed few
    have typed : shell.Names (m :: c :: rest) owner index command (c :: rest) :=
      .intro (.typed unselected stands) first
    constructor
    · refine (chosen.helps_command stands.there first).tells readBare ?_
      rw [limit]
      exact Nat.le_of_lt few
    · exact (Helps.command typed).tells readNamed few

/-- The module and its command have the names of the built-ins. -/
theorem help_of_select_shadowing :
    let command : Command :=
      { name := "select", handler := fun _ => ⟨0, ""⟩,
        help := some { usage := some "select <one>" } }
    let shell : Shell := { config := {}, registry := ⟨8, [⟨"help", [command]⟩]⟩ }
    let next := (shell.select "help").2.shell
    (next.Tells "help" (CommandModule.listing ⟨"help", [command]⟩) ∧
        shell.Tells "help help" (CommandModule.listing ⟨"help", [command]⟩)) ∧
      (next.Tells "help select 1" "select:\nselect <one>\n" ∧
        shell.Tells "help help select 1" "select:\nselect <one>\n") ∧
      next.Quiet "help  help" := by
  intro command shell next
  have stands : FirstAt (shell.config.Agree "help" ·.name) shell.registry.modules 0
      ⟨"help", [command]⟩ := firstAt_modules_iff.mpr ⟨by decide +kernel, rfl⟩
  have first : FirstAt (·.name = "select") (CommandModule.mk "help" [command]).commands 0 command :=
    firstAt_commands_iff.mpr ⟨by decide +kernel, rfl⟩
  obtain ⟨-, listed, described, quiet⟩ := help_of_select rfl (by decide) stands
  refine ⟨?_, ?_, (quiet "help  help" (by decide +kernel)).2⟩
  · exact listed "help" "help help" (by decide +kernel) (by decide +kernel) (by decide)
  · exact described "select" 0 command first ["1"] "help select 1" "help help select 1"
      (by decide +kernel) (by decide +kernel) (by decide)

end Shell

end CommandShell
