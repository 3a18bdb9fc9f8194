import CommandShell.Registry

/-!
# The selected module

A selected module gives the prompt and lets its commands be typed without its
name. The prompt is kept as it was made from the name that was typed, which under
a shortened comparison need not be the module's whole name. It is kept beside the
position, and clearing the selection has to clear both.
-/

namespace CommandShell

/-- The position of the selected module, if any, and the prompt that is kept for it. -/
structure Selection : Type where
  index? : Option Nat := none
  prompt : String := ""
  deriving DecidableEq

namespace Selection

/-- No module is selected, and no prompt is kept. -/
def cleared : Selection := {}

/-- Whether a module is selected. -/
def isSelected (selection : Selection) : Bool :=
  selection.index?.isSome

/-- The prompt of the selected module, if any. -/
def prompt? (selection : Selection) : Option String :=
  selection.index?.map fun _ => selection.prompt

/-- The prompt under which a module is shown that was selected by a name. -/
def promptOf (name : String) : String :=
  name ++ "> "

/-- The selection of the module at a position by a name. -/
def ofName (index : Nat) (name : String) : Selection :=
  ⟨some index, promptOf name⟩

@[simp] theorem index?_cleared : cleared.index? = none := rfl

@[simp] theorem prompt_cleared : cleared.prompt = "" := rfl

@[simp] theorem index?_ofName (index : Nat) (name : String) :
    (ofName index name).index? = some index := rfl

@[simp] theorem prompt_ofName (index : Nat) (name : String) :
    (ofName index name).prompt = promptOf name := rfl

/-- The first module that agrees with a name of at most `maxLength` characters. -/
def choose (registry : Registry) (maxLength : Nat) (extent : Extent) (name : String) :
    Except Fault Nat :=
  if maxLength < name.length then
    .error (.nameTooLong name)
  else
    match registry.find? extent name with
    | some index => .ok index
    | none => .error (.moduleNotFound name)

variable {registry : Registry} {maxLength index : Nat} {extent : Extent} {name : String}

theorem choose_of_long (long : maxLength < name.length) :
    choose registry maxLength extent name = .error (.nameTooLong name) :=
  if_pos long

theorem choose_of_find?_eq_none (short : name.length ≤ maxLength)
    (absent : registry.find? extent name = none) :
    choose registry maxLength extent name = .error (.moduleNotFound name) := by
  simp only [choose, if_neg (Nat.not_lt_of_le short), absent]

theorem choose_eq_ok_iff :
    choose registry maxLength extent name = .ok index ↔
      name.length ≤ maxLength ∧ registry.find? extent name = some index := by
  unfold choose
  split
  · next long => simp [Nat.not_le_of_lt long]
  · next short =>
    cases found : registry.find? extent name <;> simp [Nat.le_of_not_lt short]

end Selection

end CommandShell
