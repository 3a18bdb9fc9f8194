/-!
# Faults

Everything that can go wrong in the shell is one value of `Fault`, named by its
cause. `Fault.message` is the only place that words a fault, and the line that
the console shows for it is that text. `Fault.isDiagnostic` marks the four faults
of name resolution that are shown at once, before any fallback is tried.
-/

namespace CommandShell

/-- The hooks that an embedding may install, each at most once. -/
inductive Hook : Type where
  | command
  | prompt
  deriving DecidableEq

/-- The word for a hook in a message. -/
def Hook.label : Hook → String
  | .command => "command"
  | .prompt => "prompt"

/-- A cause of failure, with what its message has to name. -/
inductive Fault : Type where
  /-- The line has more arguments than the limit. -/
  | tooManyArguments (limit : Nat)
  /-- There is no first word. -/
  | emptyCommand
  /-- The words name no command. -/
  | unrecognizedCommand (name : String)
  /-- No module has the name that the line starts with. -/
  | illegalModule (name : String)
  /-- A lone word, where a module and a command are needed. -/
  | missingParameter
  /-- The name is longer than a selectable name may be. -/
  | nameTooLong (name : String)
  /-- No module has the name that is to be selected. -/
  | moduleNotFound (name : String)
  /-- The module exists and has no such command. -/
  | commandNotFound (owner command : String)
  /-- A command returned this negative status. -/
  | commandFailed (status : Int)
  /-- The registry holds as many modules as it may. -/
  | registryFull (capacity : Nat)
  /-- The hook was installed before. -/
  | hookAlreadySet (hook : Hook)
  /-- The other party of the line pool is gone. -/
  | queueClosed
  /-- The configuration cannot be run with. -/
  | invalidConfig (reason : String)
  /-- Reading a file or the input failed. -/
  | unreadable (reason : String)
  /-- The configuration text is no TOML document of the expected shape. -/
  | malformedToml (reason : String)
  deriving DecidableEq

/-- The text of a fault, without a line end. -/
def Fault.message : Fault → String
  | .tooManyArguments limit => "Too many parameters (max " ++ toString limit ++ ")"
  | .emptyCommand => "Unrecognized command"
  | .unrecognizedCommand name => "Unrecognized command: " ++ name
  | .illegalModule name => "Illegal module " ++ name
  | .missingParameter => "Missing parameter"
  | .nameTooLong name => "Module name " ++ name ++ " is too long, default is not changed"
  | .moduleNotFound name => "Illegal module " ++ name ++ ", default is not changed"
  | .commandNotFound owner command => "command " ++ command ++ " not found in module " ++ owner
  | .commandFailed status => "command reported failure (" ++ toString status ++ ")"
  | .registryFull capacity => "module registry full (capacity " ++ toString capacity ++ ")"
  | .hookAlreadySet hook => hook.label ++ " handler already registered"
  | .queueClosed => "line queue closed"
  | .invalidConfig reason => "config error: " ++ reason
  | .unreadable reason => "I/O error: " ++ reason
  | .malformedToml reason => "TOML parse error: " ++ reason

/-- Whether the shell shows the fault at once when a line does not resolve. A command that is
missing from a known module is not shown: the line is reported as unrecognized instead. -/
def Fault.isDiagnostic : Fault → Bool
  | .emptyCommand | .unrecognizedCommand _ | .illegalModule _ | .missingParameter => true
  | _ => false

/-- What a fault was caused by, innermost last; only faults that wrap a foreign report have a
cause. -/
def Fault.causes : Fault → List String
  | .unreadable reason | .malformedToml reason => [reason]
  | _ => []

end CommandShell
