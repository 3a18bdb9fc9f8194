import CommandShell.Config.Basic
import CommandShell.Help
import CommandShell.Memory
import CommandShell.Selection

/-!
# The shell

A shell is its configuration, its registry, its selection and two optional hooks:
a fallback handler for lines that name no command, and a prompt hook. An operation
answers with a `Turn`, the shell after it and the events of it, in order, and
where it can fail with a fault as well. A failed operation leaves the shell as it
was.
-/

namespace CommandShell

/-! ## The prompt hook -/

/-- A prompt hook: its answers by how often it was asked before, and that number. -/
structure PromptHook : Type where
  answers : Nat → Option String
  asked : Nat := 0

namespace PromptHook

/-- A hook that gives the texts of a list in turn and then repeats the last one. -/
def ofList (texts : List (Option String)) : PromptHook :=
  { answers := fun asked => (texts[min asked (texts.length - 1)]?).join }

/-- The answer to the next question. -/
def answer (hook : PromptHook) : Option String :=
  hook.answers hook.asked

/-- The hook after one more question. -/
def next (hook : PromptHook) : PromptHook :=
  { hook with asked := hook.asked + 1 }

end PromptHook

/-! ## Shells and turns -/

/-- A shell between two operations. -/
structure Shell : Type where
  config : Config
  registry : Registry
  selection : Selection := .cleared
  fallback : Option Handler := none
  promptHook : Option PromptHook := none

/-- A shell, and the events that led to it. -/
structure Turn : Type where
  shell : Shell
  events : List Event

namespace Turn

/-- Go on from a turn: the events of both, in order. -/
def andThen (turn : Turn) (next : Shell → Turn) : Turn :=
  let after := next turn.shell
  ⟨after.shell, turn.events ++ after.events⟩

@[simp] theorem shell_andThen (turn : Turn) (next : Shell → Turn) :
    (turn.andThen next).shell = (next turn.shell).shell := rfl

@[simp] theorem events_andThen (turn : Turn) (next : Shell → Turn) :
    (turn.andThen next).events = turn.events ++ (next turn.shell).events := rfl

end Turn

namespace Shell

/-- A shell without modules, if it can be run with the configuration. -/
def create (config : Config) : Except Fault Shell := do
  config.validate
  return { config, registry := .empty config.maxModules }

/-- A shell without modules for which memory has to be found. -/
def allocate (memory : Memory) (config : Config) : Option (Except Fault Shell) :=
  memory.provide (Registry.requests config.maxModules) (create config)

/-- What the words of a line are resolved in. -/
def scope (shell : Shell) : Scope :=
  ⟨shell.registry, shell.selection.index?, shell.config.extent⟩

/-! ## Set-up -/

/-- The records of registering a module: a warning when its name cannot be selected, and a note
when there was room for it. -/
def registerRecords (shell : Shell) (name : String) (commands : List Command) : List Event :=
  (if shell.config.maxNameLength < name.length then
    [.logged .warn ("module name " ++ name ++ " exceeds "
      ++ toString shell.config.maxNameLength ++ " characters and cannot be selected")]
  else []) ++
  (if shell.registry.size < shell.registry.capacity then
    [.logged .info ("Registered shell module " ++ name ++ " ("
      ++ toString commands.length ++ " commands)")]
  else [])

theorem outward_registerRecords (shell : Shell) (name : String) (commands : List Command) :
    Event.outward (shell.registerRecords name commands) = [] := by
  unfold registerRecords
  split <;> split <;> rfl

/-- Register a module and answer with its position. -/
def register (shell : Shell) (name : String) (commands : List Command) :
    Except Fault Nat × Turn :=
  let events := shell.registerRecords name commands
  match shell.registry.register name commands with
  | .ok (index, registry) => (.ok index, ⟨{ shell with registry }, events⟩)
  | .error fault => (.error fault, ⟨shell, events⟩)

/-- Install the handler of lines that name no command. -/
def setFallback (shell : Shell) (handler : Handler) : Except Fault Unit × Turn :=
  match shell.fallback with
  | some _ => (.error (.hookAlreadySet .command), ⟨shell, []⟩)
  | none => (.ok (), ⟨{ shell with fallback := some handler }, []⟩)

/-- Install the prompt hook. -/
def setPromptHook (shell : Shell) (hook : PromptHook) : Except Fault Unit × Turn :=
  match shell.promptHook with
  | some _ => (.error (.hookAlreadySet .prompt), ⟨shell, []⟩)
  | none => (.ok (), ⟨{ shell with promptHook := some hook }, []⟩)

/-! ## Selection -/

/-- Clear the selection. -/
def deselect (shell : Shell) : Shell :=
  { shell with selection := .cleared }

/-- Select a module by name and answer with its position. -/
def select (shell : Shell) (name : String) : Except Fault Nat × Turn :=
  match Selection.choose shell.registry shell.config.maxNameLength shell.config.extent name with
  | .ok index =>
    (.ok index,
      ⟨{ shell with selection := .ofName index name },
        [.logged .debug ("default module set to " ++ name ++ " ("
          ++ toString index ++ ")")]⟩)
  | .error fault => (.error fault, ⟨shell, []⟩)

/-! ## The prompt -/

/-- The prompt for an answer of the hook: that answer unless it is absent or empty, else the
prompt of the selected module, else that of the configuration. -/
def promptFor (shell : Shell) (answer : Option String) : String :=
  (answer.filter (· ≠ "")).getD (shell.selection.prompt?.getD shell.config.prompt)

/-- The prompt in effect; the hook is asked once if there is one. -/
def prompt (shell : Shell) : String × Turn :=
  match shell.promptHook with
  | none => (shell.promptFor none, ⟨shell, []⟩)
  | some hook =>
    (shell.promptFor hook.answer,
      ⟨{ shell with promptHook := some hook.next }, [.asked hook.answer]⟩)

/-- Print the prompt in effect. -/
def showPrompt (shell : Shell) : Turn :=
  let (text, turn) := shell.prompt
  turn.andThen fun shell => ⟨shell, [.printed text]⟩

/-- Select a module at the start and show its prompt on a new line; a fault is shown as one line. -/
def openWith (shell : Shell) (name : String) : Except Fault Nat × Turn :=
  match shell.select name with
  | (.ok index, turn) =>
    (.ok index, (turn.andThen fun shell => ⟨shell, [.printed "\n"]⟩).andThen showPrompt)
  | (.error fault, turn) =>
    (.error fault, turn.andThen fun shell => ⟨shell, [.line fault.message]⟩)

end Shell

end CommandShell
