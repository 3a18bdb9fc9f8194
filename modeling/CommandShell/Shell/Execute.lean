import CommandShell.Arguments
import CommandShell.Shell.Basic

/-!
# Executing a line

`Shell.execute` is the whole life of one line: its arguments, what they ask for,
the handler call or built-in that follows, the help of a command that failed, and
at last the prompt. Everything before the prompt is `Shell.body`.
-/

namespace CommandShell

namespace Shell

/-- The words that a handler receives: without the module's name, unless a module is selected. -/
def handed (shell : Shell) (words : List String) : List String :=
  if shell.selection.isSelected then words else words.drop 1

/-- Call a handler with the words of a line, and show the help of those words if it fails. -/
def call (shell : Shell) (callee : Callee) (handler : Handler) (words : List String) :
    List Event :=
  let reply := handler (shell.handed words)
  [.called callee (shell.handed words), .printed reply.output] ++
  if reply.status < 0 then
    [.logged .debug (Fault.commandFailed reply.status).message,
     .printed (shell.scope.describe words)]
  else []

/-- Show a fault of resolution, or only record it when it is no diagnostic. -/
def report (fault : Fault) : Event :=
  if fault.isDiagnostic then .line fault.message else .logged .debug fault.message

/-- What happens to words that name no command: the fallback handler is called, or a hint shown. -/
def fallBack (shell : Shell) (words : List String) : List Event :=
  match shell.fallback with
  | some handler => shell.call .fallback handler words
  | none =>
    [.line (Fault.unrecognizedCommand (words.headD "")).message,
     .line "Type 'help' for list of available commands"]

/-- The built-in `select`, given the words that follow it: only the first one counts. -/
def selectBuiltin (shell : Shell) : List String → Turn
  | [] => ⟨shell.deselect, []⟩
  | name :: _ =>
    match shell.select name with
    | (.ok _, turn) => turn
    | (.error fault, turn) => turn.andThen fun shell => ⟨shell, [.line fault.message]⟩

/-- Do what the words of a line ask for. -/
def dispatch (shell : Shell) (words : List String) : Turn :=
  match shell.scope.resolve words with
  | .ok .help => ⟨shell, [.printed (shell.scope.helpText (words.drop 1))]⟩
  | .ok .select => shell.selectBuiltin (words.drop 1)
  | .ok (.command owner index) =>
    ⟨shell, shell.scope.lookupRecords words ++
      match shell.registry.command? owner index with
      | some command => shell.call (.command owner index) command.handler words
      | none => []⟩
  | .error fault =>
    ⟨shell, shell.scope.lookupRecords words ++ report fault :: shell.fallBack words⟩

/-- All that a line does before the prompt is shown. -/
def body (shell : Shell) (line : String) : Turn :=
  match Arguments.ofLine shell.config.maxArgs line with
  | .error fault => ⟨shell, [.line fault.message]⟩
  | .ok arguments =>
    match arguments.texts with
    | [] => ⟨shell, []⟩
    | words => shell.dispatch words

/-- Execute a line, and show the prompt. -/
def execute (shell : Shell) (line : String) : Turn :=
  (shell.body line).andThen showPrompt

/-- Execute lines one after the other. -/
def executeAll (shell : Shell) : List String → Turn
  | [] => ⟨shell, []⟩
  | line :: rest => (shell.execute line).andThen (executeAll · rest)

end Shell

end CommandShell
