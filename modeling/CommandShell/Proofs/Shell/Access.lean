import CommandShell.Demo
import CommandShell.Proofs.Pool.Filling
import CommandShell.Proofs.Shell.Output

/-!
# Every access is in range

Executing a line looks at modules and commands by their positions, at words by their places
and at a text by byte positions. `Shell.execute?` and `WorkItem.fill?` do what
`Shell.execute` and `WorkItem.fill` do, access by access, and answer `none` as soon as one
of them is out of range or a position would go below zero.

They always answer. The positions of commands and of typed modules come from searches, the
places of words from their number, and the one position that is kept from an earlier line,
that of the selected module, is there in every shell that can be reached
(`Shell.execute?_eq_some`).
-/

namespace CommandShell

/-- The values from a place on, which may be the end of the list but not past it. -/
def suffix? {α : Type} (list : List α) (start : Nat) : Option (List α) :=
  if start ≤ list.length then some (list.drop start) else none

/-! ## Words -/

namespace Scope

/-- What a line asks for, when the module is taken from its position. -/
def resolve? (scope : Scope) (words : List String) : Option (Except Fault Target) :=
  match words with
  | [] => some (.error .emptyCommand)
  | first :: rest =>
    if first = "" then some (.error .emptyCommand)
    else if first = "help" then some (.ok .help)
    else if first = "select" then some (.ok .select)
    else if rest = [] ∧ scope.selected = none then some (.error .missingParameter)
    else
      match scope.locate words with
      | .error fault => some (.error fault)
      | .ok (owner, name) => do
        let found ← scope.registry.modules[owner]?
        match found.indexOf? name with
        | some index => return .ok (.command owner index)
        | none =>
          let found ← scope.registry.modules[owner]?
          return .error (.commandNotFound found.name name)

/-- The command that words name, when the module is taken from its position. -/
def command? (scope : Scope) (words : List String) : Option (Except Fault Command) :=
  match scope.locate words with
  | .error fault => some (.error fault)
  | .ok (owner, name) => do
    let found ← scope.registry.modules[owner]?
    match found.find? name with
    | some command => return .ok command
    | none => return .error (.commandNotFound found.name name)

/-- The help of the command that words name, or one line that says why there is none. -/
def describe? (scope : Scope) (words : List String) : Option String := do
  match ← scope.command? words with
  | .ok command => return command.describe
  | .error fault =>
    if fault.isDiagnostic then return fault.message ++ "\n"
    else return (Fault.unrecognizedCommand (words.headD "")).message ++ "\n"

/-- What `help` shows, given all words of the line: the word behind `help` is the second one, and
the words behind it are those from the second one on. -/
def helpText? (scope : Scope) (words : List String) : Option String :=
  if 2 < words.length ∨ scope.selected.isSome ∧ words.length = 2 then do
    scope.describe? (← suffix? words 1)
  else if words.length = 2 ∨ scope.selected.isSome then
    match scope.selected with
    | some owner => some (scope.registry.listing owner)
    | none => do
      let name ← words[1]?
      match scope.registry.find? scope.extent name with
      | some owner => return scope.registry.listing owner
      | none =>
        let name ← words[1]?
        return (Fault.illegalModule name).message ++ "\n"
  else some scope.registry.overview

/-- The selected module, if any, is registered. -/
def Anchored (scope : Scope) : Prop :=
  ∀ owner, scope.selected = some owner → ∃ found, scope.registry.get? owner = some found

variable {scope : Scope} {words : List String} {owner : Nat} {name : String}

/-- The module that words refer to is registered. -/
theorem Anchored.exists_get? (anchored : scope.Anchored)
    (located : scope.locate words = .ok (owner, name)) :
    ∃ found, scope.registry.get? owner = some found := by
  cases words with
  | nil => cases located
  | cons first rest =>
    cases selected : scope.selected with
    | some chosen =>
      rw [locate_of_selected selected] at located
      cases located
      exact anchored _ selected
    | none =>
      cases rest with
      | nil =>
        rw [locate_of_lone selected] at located
        cases located
      | cons second rest =>
        simp only [locate, selected] at located
        split at located
        · cases located
        · split at located
          · next position found =>
            cases located
            obtain ⟨there, is, _⟩ := Registry.exists_of_find? found
            exact ⟨there, is⟩
          · cases located

theorem resolve?_eq_some (anchored : scope.Anchored) (words : List String) :
    scope.resolve? words = some (scope.resolve words) := by
  cases words with
  | nil => rfl
  | cons first rest =>
    by_cases empty : first = ""
    · simp only [resolve?, resolve, if_pos empty]
    by_cases help : first = "help"
    · simp only [resolve?, resolve, if_neg empty, if_pos help]
    by_cases select : first = "select"
    · simp only [resolve?, resolve, if_neg empty, if_neg help, if_pos select]
    by_cases lone : rest = [] ∧ scope.selected = none
    · simp only [resolve?, resolve, if_neg empty, if_neg help, if_neg select, if_pos lone]
    simp only [resolve?, if_neg empty, if_neg help, if_neg select, if_neg lone]
    cases located : scope.locate (first :: rest) with
    | error fault =>
      rw [resolve_of_locate_eq_error empty help select located, if_neg lone]
    | ok place =>
      rcases place with ⟨owner, name⟩
      obtain ⟨found, there⟩ := anchored.exists_get? located
      have is : scope.registry.modules[owner]? = some found := there
      rw [resolve_of_locate_eq_ok empty help select located, there]
      simp only [is, bind, Option.bind_some]
      cases position : found.indexOf? name with
      | some index => rfl
      | none =>
        simp only [missing, there]
        rfl

theorem command?_eq_some (anchored : scope.Anchored) (words : List String) :
    scope.command? words = some (scope.command words) := by
  unfold command?
  cases located : scope.locate words with
  | error fault => rw [command_of_locate_eq_error located]
  | ok place =>
    rcases place with ⟨owner, name⟩
    obtain ⟨found, there⟩ := anchored.exists_get? located
    have is : scope.registry.modules[owner]? = some found := there
    rw [command_of_locate_eq_ok located, there]
    simp only [is, bind, Option.bind_some]
    cases known : found.find? name with
    | some command => rfl
    | none =>
      simp only [missing, there]
      rfl

theorem describe?_eq_some (anchored : scope.Anchored) (words : List String) :
    scope.describe? words = some (scope.describe words) := by
  simp only [describe?, command?_eq_some anchored, bind, Option.bind_some, describe]
  cases scope.command words with
  | ok command => rfl
  | error fault =>
    by_cases shown : fault.isDiagnostic
    · simp only [if_pos shown]
      rfl
    · simp only [if_neg shown]
      rfl

theorem helpText?_eq_some (anchored : scope.Anchored) (first : String) (rest : List String) :
    scope.helpText? (first :: rest) = some (scope.helpText rest) := by
  have behind : suffix? (first :: rest) 1 = some rest := by simp [suffix?]
  unfold helpText? helpText
  cases selected : scope.selected with
  | some owner =>
    cases rest with
    | nil => rfl
    | cons name others =>
      have several : 2 < (first :: name :: others).length ∨
          (some owner).isSome ∧ (first :: name :: others).length = 2 := by
        cases others <;> simp
      rw [if_pos several, behind]
      exact describe?_eq_some anchored _
  | none =>
    match rest with
    | [] => rfl
    | [name] =>
      simp only [List.length_cons, List.length_nil, Option.isSome_none]
      cases found : scope.registry.find? scope.extent name <;> simp [found]
    | name :: second :: others =>
      have several : 2 < (first :: name :: second :: others).length := by simp
      rw [if_pos (.inl several), behind]
      exact describe?_eq_some anchored _

end Scope

/-! ## Lines -/

namespace Shell

/-- The words that a handler receives: all of them, or those from the second one on. -/
def handed? (shell : Shell) (words : List String) : Option (List String) :=
  let start := if shell.selection.isSelected then 0 else 1
  suffix? words (min start words.length)

/-- Call a handler with the words of a line, and show the help of those words if it fails. -/
def call? (shell : Shell) (callee : Callee) (handler : Handler) (words : List String) :
    Option (List Event) := do
  let arguments ← shell.handed? words
  let reply := handler arguments
  let called : List Event := [.called callee arguments, .printed reply.output]
  if reply.status < 0 then
    let help ← shell.scope.describe? words
    return called ++ [.logged .debug (Fault.commandFailed reply.status).message, .printed help]
  else return called

/-- What happens to words that name no command. -/
def fallBack? (shell : Shell) (words : List String) : Option (List Event) :=
  match shell.fallback with
  | some handler => shell.call? .fallback handler words
  | none =>
    some [.line (Fault.unrecognizedCommand (words.headD "")).message,
      .line "Type 'help' for list of available commands"]

/-- Do what the words of a line ask for, when a command is taken from the positions of its module
and of itself. -/
def dispatch? (shell : Shell) (words : List String) : Option Turn := do
  match ← shell.scope.resolve? words with
  | .ok .help =>
    let text ← shell.scope.helpText? words
    return ⟨shell, [.printed text]⟩
  | .ok .select => return shell.selectBuiltin (words.drop 1)
  | .ok (.command owner index) =>
    let found ← shell.registry.modules[owner]?
    let command ← found.commands[index]?
    let called ← shell.call? (.command owner index) command.handler words
    return ⟨shell, shell.scope.lookupRecords words ++ called⟩
  | .error fault =>
    let fallen ← shell.fallBack? words
    return ⟨shell, shell.scope.lookupRecords words ++ report fault :: fallen⟩

/-- All that a line does before the prompt is shown. -/
def body? (shell : Shell) (line : String) : Option Turn :=
  match Arguments.ofLine shell.config.maxArgs line with
  | .error fault => some ⟨shell, [.line fault.message]⟩
  | .ok arguments =>
    match arguments.texts with
    | [] => some ⟨shell, []⟩
    | words => shell.dispatch? words

/-- Execute a line, and show the prompt. -/
def execute? (shell : Shell) (line : String) : Option Turn :=
  (shell.body? line).map (·.andThen showPrompt)

variable {shell : Shell} {line : String} {words : List String}

theorem SelectedThere.anchored (there : shell.SelectedThere) : shell.scope.Anchored := by
  intro owner selected
  exact there selected

theorem handed?_eq_some (shell : Shell) (words : List String) :
    shell.handed? words = some (shell.handed words) := by
  unfold handed? handed suffix?
  rw [if_pos (Nat.min_le_right _ _)]
  cases shell.selection.isSelected with
  | true => simp
  | false => cases words <;> simp

theorem call?_eq_some (anchored : shell.scope.Anchored) (callee : Callee) (handler : Handler)
    (words : List String) :
    shell.call? callee handler words = some (shell.call callee handler words) := by
  simp only [call?, call, handed?_eq_some, Scope.describe?_eq_some anchored, bind, Option.bind_some]
  by_cases failed : (handler (shell.handed words)).status < 0
  · simp only [if_pos failed]
    rfl
  · simp only [if_neg failed, List.append_nil]
    rfl

theorem fallBack?_eq_some (anchored : shell.scope.Anchored) (words : List String) :
    shell.fallBack? words = some (shell.fallBack words) := by
  unfold fallBack? fallBack
  cases shell.fallback with
  | some handler => exact call?_eq_some anchored .fallback handler words
  | none => rfl

/-- A command that words resolve to is there, at its position in the module at its position. -/
theorem exists_command_of_resolve {owner index : Nat}
    (resolved : shell.scope.resolve words = .ok (.command owner index)) :
    ∃ found command, shell.registry.modules[owner]? = some found ∧
      found.commands[index]? = some command := by
  cases words with
  | nil => cases resolved
  | cons first rest =>
    by_cases empty : first = ""
    · simp [Scope.resolve, empty] at resolved
    by_cases help : first = "help"
    · simp [Scope.resolve, help] at resolved
    by_cases select : first = "select"
    · simp [Scope.resolve, select] at resolved
    obtain ⟨command, _, known⟩ := Scope.command_of_resolve_eq_command empty help select resolved
    obtain ⟨found, there, is⟩ := Option.bind_eq_some_iff.mp known
    exact ⟨found, command, there, is⟩

theorem dispatch?_eq_some (anchored : shell.scope.Anchored) (first : String)
    (rest : List String) :
    shell.dispatch? (first :: rest) = some (shell.dispatch (first :: rest)) := by
  simp only [dispatch?, Scope.resolve?_eq_some anchored, bind, Option.bind_some]
  cases resolved : shell.scope.resolve (first :: rest) with
  | error fault =>
    simp only [fallBack?_eq_some anchored, Option.bind_some, dispatch_of_resolve_eq_error resolved]
    rfl
  | ok target =>
    cases target with
    | help =>
      simp only [Scope.helpText?_eq_some anchored, Option.bind_some, dispatch, resolved]
      rfl
    | select =>
      simp only [dispatch, resolved]
      rfl
    | command owner index =>
      obtain ⟨found, command, there, is⟩ := exists_command_of_resolve resolved
      have known : shell.registry.command? owner index = some command :=
        Option.bind_eq_some_iff.mpr ⟨found, there, is⟩
      simp only [there, is, call?_eq_some anchored, Option.bind_some,
        dispatch_of_resolve_eq_command resolved known]
      rfl

theorem body?_eq_some (anchored : shell.scope.Anchored) (line : String) :
    shell.body? line = some (shell.body line) := by
  unfold body? body
  cases Arguments.ofLine shell.config.maxArgs line with
  | error fault => rfl
  | ok arguments =>
    cases read : arguments.texts with
    | nil => simp only [read]
    | cons first rest =>
      simp only [read]
      exact dispatch?_eq_some anchored first rest

end Shell

/-! ## Texts for a buffer -/

namespace Text

/-- Go down from a position to the nearest boundary; there is nothing below zero. -/
def floorBoundary? (text : List Char) (position : Nat) : Option Nat :=
  if isBoundary text position then some position
  else
    match position with
    | 0 => none
    | below + 1 => floorBoundary? text below

theorem floorBoundary?_eq_some (text : List Char) (position : Nat) :
    floorBoundary? text position = some (floorBoundary text position) := by
  induction position with
  | zero =>
    rw [floorBoundary?, if_pos (by simp [isBoundary]), floorBoundary]
  | succ below ih =>
    rw [floorBoundary?, floorBoundary]
    split
    · rfl
    · exact ih

end Text

namespace WorkItem

/-- Take a text as the line, when it is cut by going down to a boundary and taking the bytes before
it. -/
def fill? (item : WorkItem) (text : String) : Option WorkItem := do
  let body := Text.dropLineEnds text.toList
  let stop ← Text.floorBoundary? body (min (Text.byteLength body) item.capacity)
  let line ← Text.takeBytes? body stop
  return { item with line := String.ofList line }

theorem fill?_eq_some (item : WorkItem) (text : String) :
    item.fill? text = some (item.fill text) := by
  obtain ⟨line, taken⟩ := Text.exists_takeBytes?_cutPosition item.capacity
    (Text.dropLineEnds text.toList)
  have cut : Text.cut item.capacity (Text.dropLineEnds text.toList) = line := by
    rw [Text.cut, taken, Option.getD_some]
  rw [Text.cutPosition] at taken
  simp only [fill?, Text.floorBoundary?_eq_some, taken, bind, Option.bind_some, fill, lineOf, cut]
  rfl

end WorkItem

namespace Shell

/-- In a shell that can be reached no line looks past the end of anything, and neither does filling
a text into a buffer, whatever the text and the buffer. -/
theorem execute?_eq_some {shell : Shell} (reachable : shell.Reachable) (line : String)
    (item : WorkItem) (text : String) :
    shell.execute? line = some (shell.execute line) ∧ item.fill? text = some (item.fill text) := by
  have anchored : shell.scope.Anchored := SelectedThere.anchored reachable.coherent.2.selectedThere
  refine ⟨?_, item.fill?_eq_some text⟩
  rw [execute?, body?_eq_some anchored]
  rfl

/-- The selected module is looked at by its position, twice: once to find the command, and once for
the usage when it fails. The buffer ends within a character of two bytes. -/
theorem execute?_eq_some_usage :
    let operations : List Operation :=
      [.register "sys" (Demo.sysCommands 0), .register "math" Demo.mathCommands,
       .execute "select math", .register "math" []]
    ∃ first, create {} = .ok first ∧
      let shell := (first.session operations).shell
      shell.Reachable ∧
      (shell.execute? " add  1").map (Event.console ·.events) =
        some "add:\nadd <a> <b>\nmath> " ∧
      ((WorkItem.empty 3 0).fill? "naïve\n").map WorkItem.line = some "na" := by
  intro operations
  obtain ⟨first, created⟩ : ∃ first, create {} = .ok first := ⟨_, rfl⟩
  refine ⟨first, created, ?_⟩
  obtain ⟨_, rfl⟩ := create_eq_ok_iff.mp created
  intro shell
  have reachable : shell.Reachable := ⟨_, _, operations, created, rfl⟩
  obtain ⟨executed, filled⟩ :=
    execute?_eq_some reachable " add  1" (WorkItem.empty 3 0) "naïve\n"
  refine ⟨reachable, ?_, ?_⟩
  · rw [executed]
    decide +kernel
  · rw [filled]
    decide +kernel

end Shell

end CommandShell
