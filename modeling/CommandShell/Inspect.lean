import CommandShell.Registry
import CommandShell.Text.Quoted

/-!
# Inspecting a command

The text that shows a command's data, for a reader of logs: its name and help, with
two dots in place of its handler.
-/

namespace CommandShell

/-- An optional text: `None`, or the quoted text. -/
def Text.inspect : Option String → String
  | none => "None"
  | some text => "Some(" ++ quoted text ++ ")"

/-- The data of help texts. -/
def CommandHelp.inspect (help : CommandHelp) : String :=
  "CommandHelp \x7b summary: " ++ Text.inspect help.summary
    ++ ", usage: " ++ Text.inspect help.usage ++ " \x7d"

/-- The data of a command. -/
def Command.inspect (command : Command) : String :=
  "Command \x7b name: " ++ Text.quoted command.name ++ ", help: "
    ++ (match command.help with
      | none => "None"
      | some help => "Some(" ++ help.inspect ++ ")")
    ++ ", .. \x7d"

end CommandShell
