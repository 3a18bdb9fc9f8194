import CommandShell.Config.Basic
import CommandShell.Toml.Document

/-!
# Reading a configuration

A configuration is written as a TOML document. Each field has a key of its own; a
field whose key is missing has its default, and any other key is ignored.
`Config.ofText` reads a document, `Config.ofFile` the contents of a file; both refuse
a configuration that the shell cannot be run with.
-/

namespace CommandShell

namespace Config

open Toml (Node Entries)

/-- The fault of a value that is not of the kind that its key asks for. -/
def wrongKind {α : Type} (key expected : String) : Except Fault α :=
  .error (.malformedToml (key ++ " must be " ++ expected))

/-- The field of a key: its value as `read` takes it, or the default when the key is missing. -/
def field {α : Type} (entries : Entries) (key expected : String) (read : Node → Option α)
    (default : α) : Except Fault α :=
  match entries.find? key with
  | none => .ok default
  | some node =>
    match read node with
    | some value => .ok value
    | none => wrongKind key expected

/-- A text. -/
def text? : Node → Option String
  | .text value => some value
  | _ => none

/-- An integer that is not negative. -/
def size? : Node → Option Nat
  | .integer (.ofNat value) => some value
  | _ => none

/-- A way of comparison, by its name. -/
def nameMatch? : String → Option NameMatch
  | "exact" => some .exact
  | "prefix" => some .leading
  | _ => none

/-- Whether a node holds nothing. -/
def isHollow : Node → Bool
  | .array [] | .inline [] | .table _ [] => true
  | _ => false

/-- A way of comparison: its name, or a table with nothing but that name over an empty table. -/
def matching? : Node → Option NameMatch
  | .text name => nameMatch? name
  | .inline [(name, node)] | .table _ [(name, node)] =>
    if isHollow node then nameMatch? name else none
  | _ => none

/-- The configuration that the entries of a document write, not yet checked. -/
def ofEntries (entries : Entries) : Except Fault Config := do
  let size (key : String) (default : Nat) :=
    field entries key "an integer that is not negative" size? default
  let defaults : Config := {}
  return {
    prompt := ← field entries "prompt" "a string" text? defaults.prompt
    maxModules := ← size "max_modules" defaults.maxModules
    maxArgs := ← size "max_args" defaults.maxArgs
    maxQueued := ← size "max_queued" defaults.maxQueued
    maxLineBytes := ← size "max_line_len" defaults.maxLineBytes
    maxNameLength := ← size "module_name_max_len" defaults.maxNameLength
    nameMatch := ← field entries "module_match" "exact or prefix" matching? defaults.nameMatch
    defaultModule := ←
      field entries "default_module" "a string" (fun node => (text? node).map some) none }

/-- The configuration that a text writes. -/
def ofText (text : String) : Except Fault Config := do
  match Entries.ofText? text with
  | none => .error (.malformedToml "the text is no TOML document")
  | some entries =>
    let config ← ofEntries entries
    config.validate
    return config

end Config

/-! ## Files -/

/-- Why a file could not be read. -/
inductive FileProblem : Type where
  | notFound
  | isDirectory
  | other (reason : String)
  deriving DecidableEq

/-- How the operating system reports the problem. -/
def FileProblem.reason : FileProblem → String
  | .notFound => "No such file or directory (os error 2)"
  | .isDirectory => "Is a directory (os error 21)"
  | .other reason => reason

/-- The fault of bytes that are no UTF-8. -/
def Fault.notText : Fault :=
  .unreadable "stream did not contain valid UTF-8"

/-- The configuration in a file, given by its bytes or by the problem of reading it. -/
def Config.ofFile (content : Except FileProblem ByteArray) : Except Fault Config :=
  match content with
  | .error problem => .error (.unreadable problem.reason)
  | .ok bytes =>
    match String.fromUTF8? bytes with
    | none => .error .notText
    | some text => Config.ofText text

end CommandShell
