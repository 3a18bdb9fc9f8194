import CommandShell.Registry

/-!
# Configuration

What a shell is run with, its defaults, and `Config.validate`, which refuses a
configuration that the shell cannot be run with and names the first field at
fault.
-/

namespace CommandShell

/-- How a typed module name is compared with the registered ones. -/
inductive NameMatch : Type where
  /-- The names must be equal. -/
  | exact
  /-- Only as many characters as a selectable name may have are compared. -/
  | leading
  deriving DecidableEq

/-- The configuration of a shell. -/
structure Config : Type where
  /-- Shown when no module is selected and the prompt hook gives no text. -/
  prompt : String := "shell> "
  /-- How many modules may be registered. -/
  maxModules : Nat := 8
  /-- How many arguments a line may have. -/
  maxArgs : Nat := 20
  /-- How many line buffers go round between the reader and the shell. -/
  maxQueued : Nat := 2
  /-- How many bytes a line buffer holds. -/
  maxLineBytes : Nat := 256
  /-- How many characters a selectable module name may have. -/
  maxNameLength : Nat := 20
  /-- How module names are compared. -/
  nameMatch : NameMatch := .exact
  /-- The module that is selected at the start. -/
  defaultModule : Option String := none
  deriving DecidableEq

namespace Config

/-- The capacities, under their keys, in the order in which they are checked. -/
def capacities (config : Config) : List (String × Nat) :=
  [("max_modules", config.maxModules),
   ("max_args", config.maxArgs),
   ("max_queued", config.maxQueued),
   ("max_line_len", config.maxLineBytes),
   ("module_name_max_len", config.maxNameLength)]

/-- What is wrong with a configuration, named for the first field at fault. -/
def problem? (config : Config) : Option String :=
  if config.prompt = "" then
    some "prompt must not be empty"
  else
    (config.capacities.find? (·.2 = 0)).map (·.1 ++ " must be at least 1")

/-- Refuse a configuration that the shell cannot be run with. -/
def validate (config : Config) : Except Fault Unit :=
  match config.problem? with
  | some reason => .error (.invalidConfig reason)
  | none => .ok ()

/-- A configuration can be run with when it has a prompt and no capacity is zero. -/
theorem validate_eq_ok_iff {config : Config} :
    config.validate = .ok () ↔
      config.prompt ≠ "" ∧ ∀ capacity ∈ config.capacities, 0 < capacity.2 := by
  unfold validate problem?
  by_cases empty : config.prompt = ""
  · simp [empty]
  · rw [if_neg empty]
    cases found : config.capacities.find? (·.2 = 0) with
    | none =>
      have positive := List.find?_eq_none.mp found
      simp only [decide_eq_true_eq] at positive
      refine ⟨fun _ => ⟨empty, fun capacity member => ?_⟩, fun _ => rfl⟩
      exact Nat.pos_of_ne_zero (positive capacity member)
    | some capacity =>
      have zero := List.find?_some found
      simp only [decide_eq_true_eq] at zero
      refine ⟨nofun, fun ⟨_, positive⟩ => ?_⟩
      exact absurd zero (Nat.ne_of_gt (positive capacity (List.mem_of_find?_eq_some found)))

/-- How much of a module name a search looks at. -/
def extent (config : Config) : Extent :=
  match config.nameMatch with
  | .exact => .whole
  | .leading => .first config.maxNameLength

end Config

end CommandShell
