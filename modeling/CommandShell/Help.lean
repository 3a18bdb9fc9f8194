import CommandShell.Scope
import CommandShell.Text.Cut

/-!
# Help texts

The list of modules, the list of a module's commands, and the help of one
command. `Scope.helpText` chooses among them by the words that follow `help`: with a
selected module its name is left out.
-/

namespace CommandShell

/-- A command's line in a listing: its name in a column of thirty characters, then its summary. -/
def Command.listing (command : Command) : String :=
  Text.padRight 30 command.name ++ command.summary.getD "" ++ "\n"

/-- The names of all modules, one a line, and how to select one. -/
def Registry.overview (registry : Registry) : String :=
  "Available modules:\n"
    ++ String.join (registry.modules.map (·.name ++ "\n"))
    ++ "To select a module, enter 'select <module name>'.\n"

/-- The commands of the module at a position, after the built-in `help`. -/
def Registry.listing (registry : Registry) (owner : Nat) : String :=
  "help\n"
    ++ String.join
      (((registry.get? owner).map CommandModule.commands).getD [] |>.map Command.listing)

/-- A command's name, and its usage, else its summary, else an empty line. -/
def Command.describe (command : Command) : String :=
  command.name ++ ":\n" ++ command.usageOrSummary.getD "" ++ "\n"

namespace Scope

/-- The help of the command that words name, or one line that says why there is none. -/
def describe (scope : Scope) (words : List String) : String :=
  match scope.command words with
  | .ok command => command.describe
  | .error fault =>
    if fault.isDiagnostic then fault.message ++ "\n"
    else (Fault.unrecognizedCommand (words.headD "")).message ++ "\n"

/-- What `help` shows for the words that follow it. -/
def helpText (scope : Scope) (words : List String) : String :=
  match scope.selected, words with
  | none, [] => scope.registry.overview
  | some owner, [] => scope.registry.listing owner
  | none, [name] =>
    match scope.registry.find? scope.extent name with
    | some owner => scope.registry.listing owner
    | none => (Fault.illegalModule name).message ++ "\n"
  | _, words => scope.describe words

end Scope

end CommandShell
