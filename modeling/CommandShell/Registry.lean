import CommandShell.Fault

/-!
# Commands, modules, and the registry

A command is a name, a handler and optional help. A module is a named list of
commands, and a registry is a list of modules up to a fixed number. A module is
identified by its position. Names may repeat: a search always answers with the
earliest match.

`Extent` says how much of a name a search by name looks at; `Registry.find?` finds the
first module that agrees with a name over that extent.
-/

namespace CommandShell

/-! ## Handlers and commands -/

/-- What a handler answers: a status, negative when it did not understand its arguments, and the
text that it printed. -/
structure Reply : Type where
  status : Int
  output : String
  deriving DecidableEq

/-- A handler answers from its arguments alone. -/
abbrev Handler : Type := List String → Reply

/-- Help texts of a command: one line for listings, and the full usage. -/
structure CommandHelp : Type where
  summary : Option String := none
  usage : Option String := none
  deriving DecidableEq

/-- A named handler, with help if any was attached. -/
structure Command : Type where
  name : String
  handler : Handler
  help : Option CommandHelp := none

namespace Command

/-- Attach a summary. -/
def withSummary (command : Command) (summary : String) : Command :=
  { command with help := some { command.help.getD {} with summary := some summary } }

/-- Attach a usage text. -/
def withUsage (command : Command) (usage : String) : Command :=
  { command with help := some { command.help.getD {} with usage := some usage } }

/-- The summary, if one was attached. -/
def summary (command : Command) : Option String :=
  command.help.bind CommandHelp.summary

/-- The usage, if one was attached, else the summary. -/
def usageOrSummary (command : Command) : Option String :=
  command.help.bind fun help => help.usage.or help.summary

end Command

/-! ## Modules -/

/-- A named, ordered group of commands. -/
structure CommandModule : Type where
  name : String
  commands : List Command

namespace CommandModule

/-- The first command of a name. -/
def find? (owner : CommandModule) (name : String) : Option Command :=
  owner.commands.find? (·.name == name)

/-- The position of the first command of a name. -/
def indexOf? (owner : CommandModule) (name : String) : Option Nat :=
  owner.commands.findIdx? (·.name == name)

end CommandModule

/-! ## Agreement of names -/

/-- How much of two names is compared: all of them, or their first characters only. -/
inductive Extent : Type where
  | whole
  | first (count : Nat)
  deriving DecidableEq

namespace Extent

/-- The part of a name that is compared. -/
def cut : Extent → List Char → List Char
  | .whole, name => name
  | .first count, name => name.take count

/-- Whether two names agree over the extent. -/
def agrees (extent : Extent) (a b : String) : Bool :=
  extent.cut a.toList == extent.cut b.toList

theorem agrees_iff {extent : Extent} {a b : String} :
    extent.agrees a b = true ↔ extent.cut a.toList = extent.cut b.toList := by
  simp [agrees]

theorem agrees_whole_iff {a b : String} : Extent.whole.agrees a b = true ↔ a = b := by
  simp [agrees, cut, String.toList_inj]

end Extent

/-! ## The registry -/

/-- Modules in the order of their registration, at most `capacity` of them. -/
structure Registry : Type where
  capacity : Nat
  modules : List CommandModule

namespace Registry

/-- A registry without modules. -/
def empty (capacity : Nat) : Registry :=
  ⟨capacity, []⟩

/-- The memory that a new registry asks for: a module is a name and a list, of three words each. -/
def requests (capacity : Nat) : List Nat :=
  [48 * capacity]

/-- The number of modules. -/
def size (registry : Registry) : Nat :=
  registry.modules.length

/-- Append a module and answer with its position, unless the registry is full. -/
def register (registry : Registry) (name : String) (commands : List Command) :
    Except Fault (Nat × Registry) :=
  if registry.size < registry.capacity then
    .ok (registry.size, { registry with modules := registry.modules ++ [⟨name, commands⟩] })
  else
    .error (.registryFull registry.capacity)

theorem register_eq_ok_iff {registry next : Registry} {name : String}
    {commands : List Command} {index : Nat} :
    registry.register name commands = .ok (index, next) ↔
      registry.size < registry.capacity ∧ index = registry.size ∧
      next = { registry with modules := registry.modules ++ [⟨name, commands⟩] } := by
  unfold register
  split
  · next room => simp [room, eq_comm]
  · next full => simp [full]

/-- The position of the first module whose name agrees with a name over an extent. -/
def find? (registry : Registry) (extent : Extent) (name : String) : Option Nat :=
  registry.modules.findIdx? fun owner => extent.agrees name owner.name

/-- The module at a position. -/
def get? (registry : Registry) (index : Nat) : Option CommandModule :=
  registry.modules[index]?

theorem lt_size_of_get? {registry : Registry} {index : Nat} {owner : CommandModule}
    (there : registry.get? index = some owner) : index < registry.size :=
  (List.getElem?_eq_some_iff.mp there).1

/-- A module that is found is there, and its name agrees with the name searched for. -/
theorem exists_of_find? {registry : Registry} {extent : Extent} {name : String} {index : Nat}
    (found : registry.find? extent name = some index) :
    ∃ owner, registry.get? index = some owner ∧ extent.agrees name owner.name = true := by
  obtain ⟨bound, agrees, _⟩ := List.findIdx?_eq_some_iff_getElem.mp found
  exact ⟨registry.modules[index], List.getElem?_eq_getElem bound, agrees⟩

/-- The command at a position within the module at a position. -/
def command? (registry : Registry) (owner index : Nat) : Option Command :=
  (registry.get? owner).bind fun found => found.commands[index]?

/-- The command of a name is the one at the position of that name. -/
theorem bind_find?_eq_bind_command? (registry : Registry) (owner : Nat) (name : String) :
    (registry.get? owner).bind (·.find? name) =
      ((registry.get? owner).bind (·.indexOf? name)).bind (registry.command? owner) := by
  unfold command?
  cases registry.get? owner with
  | none => rfl
  | some found => exact List.find?_eq_bind_findIdx?_getElem?

/-- The position of a command's name is the position of a command of that name. -/
theorem exists_command?_of_bind_indexOf? {registry : Registry} {owner index : Nat} {name : String}
    (position : (registry.get? owner).bind (·.indexOf? name) = some index) :
    ∃ command, registry.command? owner index = some command ∧ command.name = name := by
  obtain ⟨found, there, position⟩ := Option.bind_eq_some_iff.mp position
  obtain ⟨bound, named, _⟩ := List.findIdx?_eq_some_iff_getElem.mp position
  refine ⟨found.commands[index], ?_, eq_of_beq named⟩
  rw [command?, there, Option.bind_some, List.getElem?_eq_getElem bound]

end Registry

end CommandShell
