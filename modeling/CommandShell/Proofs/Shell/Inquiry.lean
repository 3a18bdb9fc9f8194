import CommandShell.Proofs.Shell.Output

/-!
# What a line looks up

Words are looked up in three ways: for the place that they locate, for what a line of them asks
for, and for the command that they name. Each way has faults for words that are missing or
empty. `Shell.noteExecute` does what `Shell.execute` does and notes every look-up on the way, with
the fault that came of it.

No line ever looks up missing or empty words, so that fault never comes up
(`Inquiry.Proper`). What a line asks for is looked up once at most, and `Shell.Unresolvable` lists
the lines for which this fails, with the fault of each. A command that cannot be recognized
is looked up only after the fallback handler has failed on a lone word
(`Shell.inquiries_noteExecute`).
-/

namespace CommandShell

/-! ## Notes of look-ups -/

/-- What words are looked up for. -/
inductive Sought : Type where
  | place
  | target
  | command
  deriving DecidableEq

/-- A look-up of words, and the fault that came of it if any. -/
structure Inquiry : Type where
  sought : Sought
  words : List String
  fault : Option Fault
  deriving DecidableEq

/-- The fault of a look-up that failed. -/
def Inquiry.faultOf {α : Type} : Except Fault α → Option Fault
  | .ok _ => none
  | .error fault => some fault

/-- A look-up of words that are there, which does not fail for the lack of words. -/
structure Inquiry.Proper (inquiry : Inquiry) : Prop where
  nonempty : inquiry.words ≠ []
  proper : "" ∉ inquiry.words
  fault : inquiry.fault ≠ some .emptyCommand

/-- A value, and the look-ups that led to it. -/
structure Noted (α : Type) : Type where
  value : α
  inquiries : List Inquiry

namespace Noted

instance : Monad Noted where
  pure value := ⟨value, []⟩
  bind noted next := ⟨(next noted.value).value, noted.inquiries ++ (next noted.value).inquiries⟩

variable {α β : Type}

@[simp] theorem value_pure (value : α) : (pure value : Noted α).value = value := rfl

@[simp] theorem inquiries_pure (value : α) : (pure value : Noted α).inquiries = [] := rfl

@[simp] theorem value_bind (noted : Noted α) (next : α → Noted β) :
    (noted >>= next).value = (next noted.value).value := rfl

@[simp] theorem inquiries_bind (noted : Noted α) (next : α → Noted β) :
    (noted >>= next).inquiries = noted.inquiries ++ (next noted.value).inquiries := rfl

/-- Note a look-up when it is over. -/
def noting (sought : Sought) (words : List String) (search : Noted (Except Fault α)) :
    Noted (Except Fault α) :=
  ⟨search.value, search.inquiries ++ [⟨sought, words, Inquiry.faultOf search.value⟩]⟩

end Noted

open Noted (noting)

/-! ## Look-ups of words -/

namespace Scope

/-- The place that words locate. -/
def noteLocate (scope : Scope) (words : List String) : Noted (Except Fault (Nat × String)) :=
  noting .place words (pure (scope.locate words))

/-- What a line asks for. -/
def noteResolve (scope : Scope) (words : List String) : Noted (Except Fault Target) :=
  noting .target words <|
    match words with
    | [] => return .error .emptyCommand
    | first :: rest =>
      if first = "" then return .error .emptyCommand
      else if first = "help" then return .ok .help
      else if first = "select" then return .ok .select
      else if rest = [] ∧ scope.selected = none then return .error .missingParameter
      else do
        match ← scope.noteLocate words with
        | .error fault => return .error fault
        | .ok (owner, name) =>
          match (scope.registry.get? owner).bind (·.indexOf? name) with
          | some index => return .ok (.command owner index)
          | none => return .error (scope.missing owner name)

/-- The command that words name. -/
def noteCommand (scope : Scope) (words : List String) : Noted (Except Fault Command) :=
  noting .command words do
    match ← scope.noteLocate words with
    | .error fault => return .error fault
    | .ok (owner, name) =>
      match (scope.registry.get? owner).bind (·.find? name) with
      | some found => return .ok found
      | none => return .error (scope.missing owner name)

/-- The help of the command that words name, or one line that says why there is none. -/
def noteDescribe (scope : Scope) (words : List String) : Noted String := do
  match ← scope.noteCommand words with
  | .ok command => return command.describe
  | .error fault =>
    if fault.isDiagnostic then return fault.message ++ "\n"
    else return (Fault.unrecognizedCommand (words.headD "")).message ++ "\n"

/-- What `help` shows for the words that follow it. -/
def noteHelpText (scope : Scope) (words : List String) : Noted String :=
  match scope.selected, words with
  | none, [] => return scope.registry.overview
  | some owner, [] => return scope.registry.listing owner
  | none, [name] =>
    match scope.registry.find? scope.extent name with
    | some owner => return scope.registry.listing owner
    | none => return (Fault.illegalModule name).message ++ "\n"
  | _, words => scope.noteDescribe words

variable {scope : Scope} {first name : String} {rest words : List String}

/-- The note of looking words up in one of the three ways. -/
def inquire (scope : Scope) (words : List String) : Sought → Inquiry
  | .place => ⟨.place, words, Inquiry.faultOf (scope.locate words)⟩
  | .target => ⟨.target, words, Inquiry.faultOf (scope.resolve words)⟩
  | .command => ⟨.command, words, Inquiry.faultOf (scope.command words)⟩

/-- Looking a line up answers as without notes. The place is looked up before, or not at all. -/
theorem noteResolve_eq (scope : Scope) (words : List String) :
    ∃ before, before ⊆ [scope.inquire words .place] ∧
      scope.noteResolve words = ⟨scope.resolve words, before ++ [scope.inquire words .target]⟩ := by
  have early (answer : Except Fault Target)
      (noted : scope.noteResolve words = noting .target words (pure answer))
      (resolved : scope.resolve words = answer) :
      ∃ before, before ⊆ [scope.inquire words .place] ∧ scope.noteResolve words =
        ⟨scope.resolve words, before ++ [scope.inquire words .target]⟩ := by
    refine ⟨[], List.nil_subset _, ?_⟩
    rw [noted, inquire, resolved]
    rfl
  cases words with
  | nil => exact early (.error .emptyCommand) rfl rfl
  | cons first rest =>
    by_cases empty : first = ""
    · exact early (.error .emptyCommand) (by simp only [noteResolve, if_pos empty])
        (by simp only [resolve, if_pos empty])
    by_cases help : first = "help"
    · exact early (.ok .help) (by simp only [noteResolve, if_neg empty, if_pos help])
        (by simp only [resolve, if_neg empty, if_pos help])
    by_cases select : first = "select"
    · exact early (.ok .select)
        (by simp only [noteResolve, if_neg empty, if_neg help, if_pos select])
        (by simp only [resolve, if_neg empty, if_neg help, if_pos select])
    by_cases lone : rest = [] ∧ scope.selected = none
    · exact early (.error .missingParameter)
        (by simp only [noteResolve, if_neg empty, if_neg help, if_neg select, if_pos lone])
        (by simp only [resolve, if_neg empty, if_neg help, if_neg select, if_pos lone])
    refine ⟨[scope.inquire (first :: rest) .place], List.Subset.refl _, ?_⟩
    simp only [noteResolve, noteLocate, noting, inquire, if_neg empty, if_neg help, if_neg select,
      if_neg lone]
    cases located : scope.locate (first :: rest) with
    | error fault =>
      rw [resolve_of_locate_eq_error empty help select located, if_neg lone]
      rfl
    | ok place =>
      rw [resolve_of_locate_eq_ok empty help select located]
      cases position : (scope.registry.get? place.1).bind (·.indexOf? place.2) with
      | some index => simp [position]
      | none => simp [position]

theorem noteCommand_eq (scope : Scope) (words : List String) :
    scope.noteCommand words =
      ⟨scope.command words, [scope.inquire words .place, scope.inquire words .command]⟩ := by
  simp only [noteCommand, noteLocate, noting, inquire]
  cases located : scope.locate words with
  | error fault =>
    rw [command_of_locate_eq_error located]
    rfl
  | ok place =>
    rcases place with ⟨owner, name⟩
    rw [command_of_locate_eq_ok located]
    cases known : (scope.registry.get? owner).bind (·.find? name) with
    | some found => simp [known]
    | none => simp [known]

/-- The look-ups for the help of words, if any words are to be helped with. -/
def helpInquiries (scope : Scope) : Option (List String) → List Inquiry
  | none => []
  | some words => [scope.inquire words .place, scope.inquire words .command]

/-- The words that name a command for `help`, out of those that follow it: none when there are none,
and none when they are a lone word without a selected module, which names a module. -/
def helped? (scope : Scope) (words : List String) : Option (List String) :=
  if words = [] ∨ scope.selected = none ∧ words.length = 1 then none else some words

theorem noteDescribe_eq (scope : Scope) (words : List String) :
    scope.noteDescribe words = ⟨scope.describe words, scope.helpInquiries (some words)⟩ := by
  simp only [noteDescribe, noteCommand_eq, describe]
  cases scope.command words with
  | ok command => rfl
  | error fault => cases shown : fault.isDiagnostic <;> simp [bind, pure, shown, helpInquiries]

theorem noteHelpText_eq (scope : Scope) (words : List String) :
    scope.noteHelpText words =
      ⟨scope.helpText words, scope.helpInquiries (scope.helped? words)⟩ := by
  cases selected : scope.selected with
  | none =>
    match words with
    | [] =>
      simp only [noteHelpText, helpText, selected]
      rfl
    | [name] =>
      have lone : scope.helped? [name] = none := by simp [helped?, selected]
      rw [lone]
      simp only [noteHelpText, helpText, selected]
      cases scope.registry.find? scope.extent name <;> rfl
    | first :: second :: rest => simp [noteHelpText, helpText, helped?, selected, noteDescribe_eq]
  | some owner =>
    cases words with
    | nil =>
      simp only [noteHelpText, helpText, selected]
      rfl
    | cons first rest => simp [noteHelpText, helpText, helped?, selected, noteDescribe_eq]

/-! ## Faults of look-ups -/

theorem faultOf_eq_some_iff {α : Type} {answer : Except Fault α} {fault : Fault} :
    Inquiry.faultOf answer = some fault ↔ answer = .error fault := by
  cases answer <;> simp [Inquiry.faultOf]

/-- Words that are there locate something, or they are a lone word without a selected module, or
the first of them names no module. -/
theorem locate_cases (nonempty : "" ∉ first :: rest) :
    (∃ owner name, scope.locate (first :: rest) = .ok (owner, name) ∧
      ¬ (rest = [] ∧ scope.selected = none)) ∨
    (scope.locate (first :: rest) = .error (.unrecognizedCommand first) ∧
      rest = [] ∧ scope.selected = none) ∨
    (scope.locate (first :: rest) = .error (.illegalModule first) ∧
      ¬ (rest = [] ∧ scope.selected = none)) := by
  cases selected : scope.selected with
  | some owner => exact .inl ⟨owner, first, locate_of_selected selected, nofun⟩
  | none =>
    cases rest with
    | nil => exact .inr (.inl ⟨locate_of_lone selected, rfl, rfl⟩)
    | cons name others =>
      have solid : name ≠ "" := fun blank => nonempty (by simp [blank])
      cases found : scope.registry.find? scope.extent first with
      | some owner =>
        exact .inl ⟨owner, name, locate_of_unselected selected solid found, nofun⟩
      | none => exact .inr (.inr ⟨locate_of_no_module selected solid found, nofun⟩)

/-- The look-up of a command fails as that of the place does, or because the command is missing. -/
theorem locate_of_command_eq_error {fault : Fault} (unknown : scope.command words = .error fault) :
    scope.locate words = .error fault ∨ ∃ owner name, fault = .commandNotFound owner name := by
  cases located : scope.locate words with
  | error reason =>
    rw [command_of_locate_eq_error located] at unknown
    cases unknown
    exact .inl rfl
  | ok place =>
    rw [command_of_locate_eq_ok located] at unknown
    split at unknown
    · cases unknown
    · cases unknown
      exact .inr ⟨_, _, rfl⟩

/-- The look-up of a line fails as that of the command does, or for the lack of a parameter. -/
theorem command_of_resolve_eq_error {fault : Fault} (solid : first ≠ "")
    (unresolved : scope.resolve (first :: rest) = .error fault) :
    scope.command (first :: rest) = .error fault ∨ fault = .missingParameter := by
  by_cases help : first = "help"
  · simp [resolve, help] at unresolved
  by_cases select : first = "select"
  · simp [resolve, select] at unresolved
  cases known : scope.command (first :: rest) with
  | ok command =>
    obtain ⟨owner, index, resolved, -⟩ := resolve_of_command_eq_ok solid help select known
    rw [resolved] at unresolved
    cases unresolved
  | error reason =>
    rw [resolve_of_command_eq_error solid help select known] at unresolved
    split at unresolved <;> cases unresolved
    · exact .inr rfl
    · exact .inl rfl

/-- Looking up words that are there does not fail for the lack of words. -/
theorem proper_inquire (nonempty : words ≠ []) (proper : "" ∉ words) (sought : Sought) :
    (scope.inquire words sought).Proper := by
  cases words with
  | nil => exact (nonempty rfl).elim
  | cons first rest =>
    have located : scope.locate (first :: rest) ≠ .error .emptyCommand := by
      rcases locate_cases proper with
        ⟨owner, name, located, _⟩ | ⟨located, _⟩ | ⟨located, _⟩ <;> rw [located] <;> exact nofun
    have known : scope.command (first :: rest) ≠ .error .emptyCommand := by
      intro unknown
      rcases locate_of_command_eq_error unknown with same | ⟨owner, name, other⟩
      · exact located same
      · cases other
    have resolved : scope.resolve (first :: rest) ≠ .error .emptyCommand := by
      intro unresolved
      have solid : first ≠ "" := fun blank => proper (by simp [blank])
      rcases command_of_resolve_eq_error solid unresolved with same | other
      · exact known same
      · cases other
    cases sought with
    | place => exact ⟨nonempty, proper, fun empty => located (faultOf_eq_some_iff.mp empty)⟩
    | target => exact ⟨nonempty, proper, fun empty => resolved (faultOf_eq_some_iff.mp empty)⟩
    | command => exact ⟨nonempty, proper, fun empty => known (faultOf_eq_some_iff.mp empty)⟩

/-- The look-up of a command does not recognize a lone word without a selected module. Other words
that are there it recognizes, though it may not find them. -/
theorem command_eq_unrecognized_iff (nonempty : words ≠ []) (proper : "" ∉ words) :
    scope.command words = .error (.unrecognizedCommand name) ↔
      words = [name] ∧ scope.selected = none := by
  cases words with
  | nil => exact (nonempty rfl).elim
  | cons first rest =>
    constructor
    · intro unknown
      rcases locate_of_command_eq_error unknown with located | ⟨owner, name, other⟩
      · rcases locate_cases proper with
          ⟨owner, name, is, _⟩ | ⟨is, rfl, unselected⟩ | ⟨is, _⟩ <;> rw [is] at located <;>
          cases located
        exact ⟨rfl, unselected⟩
      · cases other
    · rintro ⟨lone, unselected⟩
      rw [lone]
      exact command_of_locate_eq_error (locate_of_lone unselected)

end Scope

/-! ## Look-ups of a line -/

namespace Shell

open Arguments (words pieces)

/-- Call a handler with the words of a line, and show the help of those words if it fails. -/
def noteCall (shell : Shell) (callee : Callee) (handler : Handler) (words : List String) :
    Noted (List Event) :=
  let reply := handler (shell.handed words)
  let called : List Event := [.called callee (shell.handed words), .printed reply.output]
  if reply.status < 0 then do
    let help ← shell.scope.noteDescribe words
    return called ++ [.logged .debug (Fault.commandFailed reply.status).message, .printed help]
  else return called

/-- What happens to words that name no command. -/
def noteFallBack (shell : Shell) (words : List String) : Noted (List Event) :=
  match shell.fallback with
  | some handler => shell.noteCall .fallback handler words
  | none =>
    return [.line (Fault.unrecognizedCommand (words.headD "")).message,
      .line "Type 'help' for list of available commands"]

/-- Do what the words of a line ask for. -/
def noteDispatch (shell : Shell) (words : List String) : Noted Turn := do
  match ← shell.scope.noteResolve words with
  | .ok .help =>
    let text ← shell.scope.noteHelpText (words.drop 1)
    return ⟨shell, [.printed text]⟩
  | .ok .select => return shell.selectBuiltin (words.drop 1)
  | .ok (.command owner index) =>
    match shell.registry.command? owner index with
    | some command =>
      let called ← shell.noteCall (.command owner index) command.handler words
      return ⟨shell, shell.scope.lookupRecords words ++ called⟩
    | none => return ⟨shell, shell.scope.lookupRecords words⟩
  | .error fault =>
    let fallen ← shell.noteFallBack words
    return ⟨shell, shell.scope.lookupRecords words ++ report fault :: fallen⟩

/-- All that a line does before the prompt is shown. -/
def noteBody (shell : Shell) (line : String) : Noted Turn :=
  match Arguments.ofLine shell.config.maxArgs line with
  | .error fault => return ⟨shell, [.line fault.message]⟩
  | .ok arguments =>
    match arguments.texts with
    | [] => return ⟨shell, []⟩
    | words => shell.noteDispatch words

/-- Execute a line, and show the prompt. -/
def noteExecute (shell : Shell) (line : String) : Noted Turn := do
  let turn ← shell.noteBody line
  return turn.andThen showPrompt

/-- The words to help with after a handler was called with words of a line: these, if it failed. -/
def failed? (shell : Shell) (handler : Handler) (words : List String) : Option (List String) :=
  if (handler (shell.handed words)).status < 0 then some words else none

/-- The words to help with when the words of a line are done. -/
def described? (shell : Shell) (words : List String) : Option (List String) :=
  match shell.scope.resolve words with
  | .ok .help => shell.scope.helped? (words.drop 1)
  | .ok .select => none
  | .ok (.command owner index) =>
    (shell.registry.command? owner index).bind fun command => shell.failed? command.handler words
  | .error _ => shell.fallback.bind fun handler => shell.failed? handler words

variable {shell : Shell} {line first name : String} {rest typed described : List String}
  {fault : Fault}

theorem noteCall_eq (shell : Shell) (callee : Callee) (handler : Handler) (words : List String) :
    shell.noteCall callee handler words =
      ⟨shell.call callee handler words,
        shell.scope.helpInquiries (shell.failed? handler words)⟩ := by
  simp only [noteCall, call, failed?, Scope.noteDescribe_eq]
  split
  · simp [bind, pure]
  · rw [List.append_nil]
    rfl

theorem noteFallBack_eq (shell : Shell) (words : List String) :
    shell.noteFallBack words =
      ⟨shell.fallBack words, shell.scope.helpInquiries
        (shell.fallback.bind fun handler => shell.failed? handler words)⟩ := by
  cases installed : shell.fallback with
  | none =>
    simp only [noteFallBack, fallBack, installed]
    rfl
  | some handler =>
    simp only [noteFallBack, fallBack, installed, noteCall_eq]
    rfl

/-- The words of a line do what they do without notes. They look up what they ask for, and then the
command whose help is shown. -/
theorem noteDispatch_eq (shell : Shell) (words : List String) :
    ∃ before, before ⊆ [shell.scope.inquire words .place] ∧
      shell.noteDispatch words = ⟨shell.dispatch words,
        before ++ shell.scope.inquire words .target ::
          shell.scope.helpInquiries (shell.described? words)⟩ := by
  obtain ⟨before, places, resolving⟩ := shell.scope.noteResolve_eq words
  refine ⟨before, places, ?_⟩
  cases resolved : shell.scope.resolve words with
  | error fault =>
    simp [noteDispatch, dispatch, described?, resolving, resolved, noteFallBack_eq, bind, pure]
  | ok target =>
    cases target with
    | help =>
      simp [noteDispatch, dispatch, described?, resolving, resolved, Scope.noteHelpText_eq, bind,
        pure]
    | select =>
      simp [noteDispatch, dispatch, described?, resolving, resolved, Scope.helpInquiries, bind,
        pure]
    | command owner index =>
      cases known : shell.registry.command? owner index with
      | none =>
        simp [noteDispatch, dispatch, described?, resolving, resolved, known, Scope.helpInquiries,
          bind, pure]
      | some command =>
        simp [noteDispatch, dispatch, described?, resolving, resolved, known, noteCall_eq, bind,
          pure]

/-- A line does what it does without notes. It looks up what its words do, unless there are none or
too many. -/
theorem noteExecute_eq (shell : Shell) (line : String) :
    shell.noteExecute line = ⟨shell.execute line,
      if words line = [] ∨ shell.config.maxArgs < (words line).length then []
      else (shell.noteDispatch (words line)).inquiries⟩ := by
  rcases Nat.lt_or_ge shell.config.maxArgs (words line).length with many | few
  · rw [if_pos (.inr many), execute, body_of_many many]
    simp only [noteExecute, noteBody, Arguments.ofLine_eq_error many]
    rfl
  · have texts : (Arguments.mk (Argument.scan 0 line.toList)).texts = words line := rfl
    cases read : words line with
    | nil =>
      rw [if_pos (.inl rfl), execute, body_of_no_words read]
      simp only [noteExecute, noteBody, Arguments.ofLine_eq_ok few, texts, read]
      rfl
    | cons first rest =>
      rw [read] at few
      obtain ⟨before, -, noted⟩ := shell.noteDispatch_eq (first :: rest)
      rw [if_neg (not_or.mpr ⟨List.cons_ne_nil _ _, Nat.not_lt.mpr few⟩), execute,
        body_of_words read few]
      simp only [noteExecute, noteBody, Arguments.ofLine_eq_ok (read ▸ few), texts, read, noted]
      simp [bind, pure]

/-! ## Lines whose words do not resolve -/

/-- The words of a line that do not resolve, with the fault of each. A lone word is never too many,
so only the others have to be few enough. -/
inductive Unresolvable (shell : Shell) : List String → Fault → Prop
  | lone {first : String} :
    shell.selection.index? = none → first ≠ "help" → first ≠ "select" →
    Unresolvable shell [first] .missingParameter
  | unknownModule {first name : String} {rest : List String} :
    Ordinary shell (first :: name :: rest) → shell.selection.index? = none →
    (∀ owner ∈ shell.registry.modules, ¬ shell.config.Agree first owner.name) →
    Unresolvable shell (first :: name :: rest) (.illegalModule first)
  | unknownCommand {words behind : List String} {owner : Nat} {found : CommandModule}
    {name : String} :
    Ordinary shell words → Refers shell words owner found (name :: behind) →
    (∀ command ∈ found.commands, command.name ≠ name) →
    Unresolvable shell words (.commandNotFound found.name name)

/-- Without a selected module a lone word is a built-in, or it lacks a parameter. -/
theorem resolve_of_lone (unselected : shell.selection.index? = none) (nonempty : first ≠ "") :
    shell.scope.resolve [first] =
      if first = "help" then .ok .help
      else if first = "select" then .ok .select
      else .error .missingParameter := by
  have scopeless := shell.selected_scope.trans unselected
  simp only [Scope.resolve, if_neg nonempty, scopeless, and_self, if_true]

theorem Unresolvable.resolve (unresolvable : shell.Unresolvable typed fault)
    (proper : "" ∉ typed) : shell.scope.resolve typed = .error fault := by
  have solid : ∀ word ∈ typed, word ≠ "" := List.forall_mem_ne'.mpr proper
  cases unresolvable with
  | @lone first selection help select =>
    rw [resolve_of_lone selection (solid first (by simp)), if_neg help, if_neg select]
  | @unknownModule first name rest ordinary selection strange =>
    obtain ⟨help, select⟩ := ordinary.head_ne
    have located : shell.scope.locate (first :: name :: rest) = .error (.illegalModule first) :=
      Scope.locate_of_no_module selection (solid name (by simp))
        (find?_eq_none_of_forall_not_agree strange)
    rw [Scope.resolve_of_locate_eq_error (solid first (by simp)) help select located,
      if_neg fun lone => List.cons_ne_nil _ _ lone.1]
  | @unknownCommand _ behind owner found name ordinary refers strange =>
    cases typed with
    | nil => exact (ordinary.nonempty rfl).elim
    | cons first rest =>
      obtain ⟨help, select⟩ := ordinary.head_ne
      obtain ⟨located, there, -⟩ := locate_of_refers solid refers
      have there : shell.scope.registry.get? owner = some found := there
      have absent : found.indexOf? name = none :=
        findIdx?_eq_none_of_forall_not (fun _ => beq_iff_eq) strange
      rw [Scope.resolve_of_locate_eq_ok (solid first (by simp)) help select located, there,
        Option.bind_some, absent, Scope.missing, there]
      rfl

/-- Such words are there, and not too many. -/
theorem Unresolvable.length (unresolvable : shell.Unresolvable typed fault)
    (positive : 1 ≤ shell.config.maxArgs) :
    typed ≠ [] ∧ typed.length ≤ shell.config.maxArgs := by
  cases unresolvable with
  | lone => exact ⟨List.cons_ne_nil _ _, positive⟩
  | unknownModule ordinary => exact ⟨ordinary.nonempty, ordinary.few⟩
  | unknownCommand ordinary => exact ⟨ordinary.nonempty, ordinary.few⟩

theorem Unresolved.exists_unresolvable {report help : String}
    (unresolved : shell.Unresolved typed report help) (ordinary : shell.Ordinary typed) :
    ∃ fault, shell.Unresolvable typed fault := by
  cases unresolved with
  | lone selection =>
    obtain ⟨help, select⟩ := ordinary.head_ne
    exact ⟨_, .lone selection help select⟩
  | unknownModule selection strange => exact ⟨_, .unknownModule ordinary selection strange⟩
  | unknownCommand refers missing => exact ⟨_, .unknownCommand ordinary refers missing⟩

/-- Words that are there and not too many fail to resolve just as the rules say. -/
theorem resolve_eq_error_iff (there : shell.SelectedThere) (nonempty : typed ≠ [])
    (few : typed.length ≤ shell.config.maxArgs) (proper : "" ∉ typed) :
    shell.scope.resolve typed = .error fault ↔ shell.Unresolvable typed fault := by
  refine ⟨fun failed => ?_, fun unresolvable => unresolvable.resolve proper⟩
  cases typed with
  | nil => exact (nonempty rfl).elim
  | cons first rest =>
    have help : first ≠ "help" := by
      rintro rfl
      simp [Scope.resolve] at failed
    have select : first ≠ "select" := by
      rintro rfl
      simp [Scope.resolve] at failed
    have ordinary : shell.Ordinary (first :: rest) :=
      ⟨nonempty, few, by simpa using help, by simpa using select⟩
    rcases exists_names_or_unresolved there first rest with
      ⟨owner, index, command, arguments, names⟩ | ⟨report, help, unresolved⟩
    · rw [(resolve_of_names (List.forall_mem_ne'.mpr proper) help select names).1] at failed
      cases failed
    · obtain ⟨reason, unresolvable⟩ := unresolved.exists_unresolvable ordinary
      rw [unresolvable.resolve proper] at failed
      cases failed
      exact unresolvable

/-! ## Words that are helped with -/

theorem failed?_eq_some {handler : Handler}
    (failed : shell.failed? handler typed = some described) :
    typed = described ∧ (handler (shell.handed typed)).status < 0 := by
  obtain ⟨status, same⟩ := Option.ite_none_right_eq_some.mp failed
  exact ⟨Option.some.inj same, status⟩

/-- The words to help with are all of the line or those behind `help`. -/
theorem described?_cases (helped : shell.described? typed = some described) :
    (shell.scope.resolve typed = .ok .help ∧ typed.drop 1 = described ∧ described ≠ [] ∧
        ¬ (shell.scope.selected = none ∧ described.length = 1)) ∨
    (typed = described ∧ ∃ owner index, shell.scope.resolve typed = .ok (.command owner index)) ∨
    (typed = described ∧ ∃ fault handler, shell.scope.resolve typed = .error fault ∧
      shell.fallback = some handler ∧ (handler (shell.handed typed)).status < 0) := by
  unfold described? at helped
  split at helped
  · next resolved =>
    obtain ⟨several, same⟩ := Option.ite_none_left_eq_some.mp helped
    obtain ⟨nonempty, lone⟩ := not_or.mp several
    cases Option.some.inj same
    exact .inl ⟨resolved, rfl, nonempty, lone⟩
  · cases helped
  · next owner index resolved =>
    obtain ⟨command, -, failed⟩ := Option.bind_eq_some_iff.mp helped
    exact .inr (.inl ⟨(failed?_eq_some failed).1, owner, index, resolved⟩)
  · next fault unresolved =>
    obtain ⟨handler, installed, failed⟩ := Option.bind_eq_some_iff.mp helped
    obtain ⟨same, status⟩ := failed?_eq_some failed
    exact .inr (.inr ⟨same, fault, handler, unresolved, installed, status⟩)

theorem subset_of_described? (nonempty : typed ≠ [])
    (helped : shell.described? typed = some described) :
    described ≠ [] ∧ described ⊆ typed := by
  rcases described?_cases helped with ⟨_, rfl, behind, _⟩ | ⟨rfl, _⟩ | ⟨rfl, _⟩
  · exact ⟨behind, List.drop_subset 1 typed⟩
  · exact ⟨nonempty, List.Subset.refl _⟩
  · exact ⟨nonempty, List.Subset.refl _⟩

/-- Without a selected module, a lone word is helped with as a command only where the fallback
handler has failed on it. -/
theorem described?_eq_lone_iff (unselected : shell.selection.index? = none) (proper : "" ∉ typed) :
    shell.described? typed = some [name] ↔
      typed = [name] ∧ name ≠ "help" ∧ name ≠ "select" ∧
        ∃ handler, shell.fallback = some handler ∧ (handler []).status < 0 := by
  have handed : shell.handed [name] = [] := handed_of_unselected unselected [name]
  constructor
  · intro helped
    rcases described?_cases helped with
      ⟨_, _, _, several⟩ | ⟨rfl, owner, index, resolved⟩ |
        ⟨rfl, fault, handler, unresolved, installed, status⟩
    · exact (several ⟨unselected, rfl⟩).elim
    · have nonempty : name ≠ "" := fun blank => proper (by simp [blank])
      rw [resolve_of_lone unselected nonempty] at resolved
      split at resolved
      · cases resolved
      · split at resolved <;> cases resolved
    · have nonempty : name ≠ "" := fun blank => proper (by simp [blank])
      rw [resolve_of_lone unselected nonempty] at unresolved
      split at unresolved
      · cases unresolved
      · next help =>
        split at unresolved
        · cases unresolved
        · next select =>
          rw [handed] at status
          exact ⟨rfl, help, select, handler, installed, status⟩
  · rintro ⟨rfl, help, select, handler, installed, status⟩
    have nonempty : name ≠ "" := fun blank => proper (by simp [blank])
    simp only [described?, resolve_of_lone unselected nonempty, if_neg help, if_neg select,
      installed, Option.bind_some, failed?, handed, if_pos status]

/-! ## The look-ups of a line -/

/-- A line looks up what its words ask for, and only these words. -/
theorem target_mem_inquiries_iff {words : List String} {fault : Option Fault} :
    ⟨.target, words, fault⟩ ∈ (shell.noteDispatch typed).inquiries ↔
      words = typed ∧ fault = Inquiry.faultOf (shell.scope.resolve typed) := by
  obtain ⟨before, places, noted⟩ := shell.noteDispatch_eq typed
  rw [noted, List.mem_append, List.mem_cons]
  constructor
  · rintro (early | same | late)
    · cases List.mem_singleton.mp (places early)
    · cases same
      exact ⟨rfl, rfl⟩
    · cases helped : shell.described? typed <;>
        simp [helped, Scope.helpInquiries, Scope.inquire] at late
  · rintro ⟨rfl, rfl⟩
    exact .inr (.inl rfl)

/-- A line looks a command up only for the words to help with. -/
theorem command_mem_inquiries_iff {words : List String} {fault : Option Fault} :
    ⟨.command, words, fault⟩ ∈ (shell.noteDispatch typed).inquiries ↔
      shell.described? typed = some words ∧
        fault = Inquiry.faultOf (shell.scope.command words) := by
  obtain ⟨before, places, noted⟩ := shell.noteDispatch_eq typed
  rw [noted, List.mem_append, List.mem_cons]
  constructor
  · rintro (early | same | late)
    · cases List.mem_singleton.mp (places early)
    · cases same
    · cases helped : shell.described? typed with
      | none => simp [helped, Scope.helpInquiries] at late
      | some described =>
        obtain ⟨rfl, rfl⟩ : words = described ∧ _ := by
          simpa [helped, Scope.helpInquiries, Scope.inquire] using late
        exact ⟨rfl, rfl⟩
  · rintro ⟨helped, rfl⟩
    rw [helped]
    exact .inr (.inr (by simp [Scope.helpInquiries, Scope.inquire]))

theorem proper_of_mem_inquiries {inquiry : Inquiry} (nonempty : typed ≠ []) (proper : "" ∉ typed)
    (noted : inquiry ∈ (shell.noteDispatch typed).inquiries) : inquiry.Proper := by
  obtain ⟨before, places, is⟩ := shell.noteDispatch_eq typed
  rw [is, List.mem_append, List.mem_cons] at noted
  rcases noted with early | rfl | late
  · rw [List.mem_singleton.mp (places early)]
    exact Scope.proper_inquire nonempty proper .place
  · exact Scope.proper_inquire nonempty proper .target
  · cases helped : shell.described? typed with
    | none =>
      rw [helped] at late
      cases late
    | some described =>
      obtain ⟨there, among⟩ := subset_of_described? nonempty helped
      have solid : "" ∉ described := fun blank => proper (among blank)
      obtain rfl | rfl : inquiry = shell.scope.inquire described .place ∨
          inquiry = shell.scope.inquire described .command := by
        simpa [helped, Scope.helpInquiries] using late
      · exact Scope.proper_inquire there solid .place
      · exact Scope.proper_inquire there solid .command

theorem calls_dispatch_of_lone {handler : Handler} (unselected : shell.selection.index? = none)
    (nonempty : name ≠ "") (help : name ≠ "help") (select : name ≠ "select")
    (installed : shell.fallback = some handler) :
    Event.calls (shell.dispatch [name]).events = [(.fallback, [])] := by
  rw [calls_dispatch, resolve_of_lone unselected nonempty, if_neg help, if_neg select, installed,
    handed_of_unselected unselected]
  rfl

/-- The look-up of a command does not recognize it exactly when the line is a lone word, no module
is selected, and the fallback handler was called and failed. -/
theorem unrecognized_mem_inquiries_iff {words : List String} (nonempty : typed ≠ [])
    (proper : "" ∉ typed) :
    ⟨.command, words, some (.unrecognizedCommand name)⟩ ∈
        (shell.noteDispatch typed).inquiries ↔
      words = [name] ∧ typed = [name] ∧ name ≠ "help" ∧ name ≠ "select" ∧
        shell.selection.index? = none ∧ ∃ handler, shell.fallback = some handler ∧
          Event.calls (shell.dispatch typed).events = [(.fallback, [])] ∧
          (handler []).status < 0 := by
  rw [command_mem_inquiries_iff, eq_comm (a := some _), Scope.faultOf_eq_some_iff]
  constructor
  · rintro ⟨helped, unknown⟩
    obtain ⟨there, among⟩ := subset_of_described? nonempty helped
    obtain ⟨rfl, scopeless⟩ := (Scope.command_eq_unrecognized_iff there
      fun blank => proper (among blank)).mp unknown
    have unselected : shell.selection.index? = none := scopeless
    obtain ⟨rfl, help, select, handler, installed, status⟩ :=
      (described?_eq_lone_iff unselected proper).mp helped
    have solid : name ≠ "" := fun blank => proper (by simp [blank])
    exact ⟨rfl, rfl, help, select, unselected, handler, installed,
      calls_dispatch_of_lone unselected solid help select installed, status⟩
  · rintro ⟨rfl, rfl, help, select, unselected, handler, installed, -, status⟩
    exact ⟨(described?_eq_lone_iff unselected proper).mpr
        ⟨rfl, help, select, handler, installed, status⟩,
      (Scope.command_eq_unrecognized_iff nonempty proper).mpr ⟨rfl, unselected⟩⟩

/-- Noting look-ups changes nothing that a line does. A line of a shell that can be reached never
looks up missing or empty words, and so no look-up has a fault for that. What the line asks for is
looked up for the line's own words only, and this fails exactly where, and as, the rules say. A
command that is looked up is not recognized exactly when the line is a lone word, no module is
selected, and the fallback handler was called and failed. -/
theorem inquiries_noteExecute (reachable : shell.Reachable) (line : String) :
    (shell.noteExecute line).value = shell.execute line ∧
    (∀ inquiry ∈ (shell.noteExecute line).inquiries, inquiry.Proper) ∧
    (∀ words fault, ⟨.target, words, some fault⟩ ∈ (shell.noteExecute line).inquiries ↔
      words = pieces line ∧ shell.Unresolvable (pieces line) fault) ∧
    ∀ words name, ⟨.command, words, some (.unrecognizedCommand name)⟩ ∈
        (shell.noteExecute line).inquiries ↔
      words = [name] ∧ pieces line = [name] ∧ name ≠ "help" ∧ name ≠ "select" ∧
        shell.selection.index? = none ∧ ∃ handler, shell.fallback = some handler ∧
          Event.calls (shell.execute line).events = [(.fallback, [])] ∧
          (handler []).status < 0 := by
  obtain ⟨valid, coherent⟩ := reachable.coherent
  have positive : 1 ≤ shell.config.maxArgs :=
    (Config.validate_eq_ok_iff.mp valid).2 ("max_args", shell.config.maxArgs)
      (by simp [Config.capacities])
  have proper : "" ∉ words line := fun blank => Arguments.ne_empty_of_mem_words blank rfl
  rw [← Arguments.words_eq_pieces, calls_execute_eq_ite, noteExecute_eq]
  refine ⟨rfl, ?_⟩
  by_cases silent : words line = [] ∨ shell.config.maxArgs < (words line).length
  · have vocal {typed : List String} (read : words line = typed) (nonempty : typed ≠ [])
        (few : typed.length ≤ shell.config.maxArgs) : False := by
      rw [read] at silent
      exact silent.elim nonempty (Nat.not_lt.mpr few)
    simp only [if_pos silent, List.not_mem_nil, false_imp_iff, implies_true, false_iff, true_and]
    constructor
    · rintro typed fault ⟨-, unresolvable⟩
      obtain ⟨nonempty, few⟩ := unresolvable.length positive
      exact vocal rfl nonempty few
    · rintro typed name ⟨-, read, -⟩
      exact vocal read (List.cons_ne_nil _ _) positive
  · obtain ⟨nonempty, few⟩ := not_or.mp silent
    have few := Nat.not_lt.mp few
    simp only [if_neg silent]
    refine ⟨fun inquiry => proper_of_mem_inquiries nonempty proper, fun typed fault => ?_,
      fun typed name => unrecognized_mem_inquiries_iff nonempty proper⟩
    rw [target_mem_inquiries_iff, eq_comm (a := some fault), Scope.faultOf_eq_some_iff,
      resolve_eq_error_iff coherent.selectedThere nonempty few proper]

/-- The fallback handler fails on a lone word, whose help is then looked up; and no module has the
name that the other line starts with. -/
theorem inquiries_noteExecute_refused :
    let operations : List Operation :=
      [.register "math" Demo.mathCommands, .setFallback fun _ => ⟨-1, "pardon\n"⟩]
    ∃ first, create {} = .ok first ∧
      let shell := (first.session operations).shell
      shell.Reachable ∧
      ⟨.target, ["sub"], some .missingParameter⟩ ∈ (shell.noteExecute " sub ").inquiries ∧
      ⟨.command, ["sub"], some (.unrecognizedCommand "sub")⟩ ∈
        (shell.noteExecute " sub ").inquiries ∧
      ⟨.target, ["net", "up", "1"], some (.illegalModule "net")⟩ ∈
        (shell.noteExecute "net  up 1").inquiries := by
  intro operations
  obtain ⟨first, created⟩ : ∃ first, create {} = .ok first := ⟨_, rfl⟩
  refine ⟨first, created, ?_⟩
  obtain ⟨_, rfl⟩ := create_eq_ok_iff.mp created
  intro shell
  have reachable : shell.Reachable := ⟨_, _, operations, created, rfl⟩
  have lone : pieces " sub " = ["sub"] := by decide +kernel
  have several : pieces "net  up 1" = ["net", "up", "1"] := by decide +kernel
  have strange : ∀ owner ∈ shell.registry.modules, ¬ shell.config.Agree "net" owner.name := by
    intro owner member
    obtain rfl : owner = ⟨"math", Demo.mathCommands⟩ := List.mem_singleton.mp member
    exact (by decide : "net" ≠ "math")
  obtain ⟨-, -, targets, commands⟩ := inquiries_noteExecute reachable " sub "
  obtain ⟨-, -, others, -⟩ := inquiries_noteExecute reachable "net  up 1"
  refine ⟨reachable, (targets _ _).mpr ⟨lone.symm, ?_⟩, (commands _ _).mpr ⟨rfl, lone, ?_⟩,
    (others _ _).mpr ⟨several.symm, ?_⟩⟩
  · rw [lone]
    exact .lone rfl (by decide) (by decide)
  · exact ⟨by decide, by decide, rfl, _, rfl, by decide +kernel, by decide⟩
  · rw [several]
    exact .unknownModule ⟨by decide, by decide, by decide, by decide⟩ rfl strange

end Shell

end CommandShell
