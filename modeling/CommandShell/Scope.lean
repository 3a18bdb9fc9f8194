import CommandShell.Event
import CommandShell.Registry

/-!
# Resolving words to commands

`Scope` is what the meaning of words depends on: the registry, the selected
module and the extent of name comparison. Without a selected module the first
word names a module and the second a command of it; with one, the first word
names a command of the selected module.

`Scope.resolve` says what a whole line asks for, as positions; `Scope.command`
finds the command that words name, for its help. Both go through `Scope.locate`.
-/

namespace CommandShell

/-- What a line asks for. -/
inductive Target : Type where
  | help
  | select
  | command (owner index : Nat)
  deriving DecidableEq

/-- What the meaning of words depends on. -/
structure Scope : Type where
  registry : Registry
  selected : Option Nat
  extent : Extent

namespace Scope

/-- The module that words refer to, and the command's name in it. -/
def locate (scope : Scope) : List String → Except Fault (Nat × String)
  | [] => .error .emptyCommand
  | first :: rest =>
    match scope.selected with
    | some owner => .ok (owner, first)
    | none =>
      match rest with
      | [] => .error (.unrecognizedCommand first)
      | name :: _ =>
        if name = "" then
          .error (.unrecognizedCommand first)
        else
          match scope.registry.find? scope.extent first with
          | some owner => .ok (owner, name)
          | none => .error (.illegalModule first)

/-- The fault of a name that the module at a position does not have. -/
def missing (scope : Scope) (owner : Nat) (name : String) : Fault :=
  .commandNotFound (((scope.registry.get? owner).map CommandModule.name).getD "") name

/-- What a line asks for. The names `help` and `select` are taken by the shell itself. -/
def resolve (scope : Scope) (words : List String) : Except Fault Target :=
  match words with
  | [] => .error .emptyCommand
  | first :: rest =>
    if first = "" then .error .emptyCommand
    else if first = "help" then .ok .help
    else if first = "select" then .ok .select
    else if rest = [] ∧ scope.selected = none then .error .missingParameter
    else do
      let (owner, name) ← scope.locate words
      match (scope.registry.get? owner).bind (·.indexOf? name) with
      | some index => .ok (.command owner index)
      | none => .error (scope.missing owner name)

/-- The command that words name. -/
def command (scope : Scope) (words : List String) : Except Fault Command := do
  let (owner, name) ← scope.locate words
  match (scope.registry.get? owner).bind (·.find? name) with
  | some found => .ok found
  | none => .error (scope.missing owner name)

/-- The record of looking words up as a command: written once the module is known. -/
def lookupRecords (scope : Scope) (words : List String) : List Event :=
  match scope.locate words with
  | .ok (owner, name) =>
    [.logged .debug ("module: " ++ toString owner ++ ", command: " ++ name)]
  | .error _ => []

end Scope

end CommandShell
