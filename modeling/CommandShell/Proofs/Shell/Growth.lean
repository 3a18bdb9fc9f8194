import CommandShell.Demo
import CommandShell.Proofs.Shell.Access

/-!
# Modules that are registered later

Modules are appended, and every search answers with the earliest match, so a module that is
registered later takes nothing over: words that named a command, a name that selected a
module and a position that held one do so still (`Shell.StillFound`).

A line can tell that there are more modules only when it asks for all of them, by `help`
alone, or for one that was not there. Every other line does the same with the later modules
as without them (`Shell.execute_extended`), event by event.
-/

namespace CommandShell

/-- The texts that the shell prints itself: all but the output of a handler, which comes right after
its call. -/
def Event.ownTexts : List Event → List String
  | [] => []
  | [.called ..] => []
  | .called .. :: _ :: rest => ownTexts rest
  | .printed text :: rest => text :: ownTexts rest
  | .asked _ :: rest => ownTexts rest
  | .logged .. :: rest => ownTexts rest

/-- Whether a text says that there is no module of a name, for the words of a line or for
`select`. -/
def IsModuleReport (text : String) : Prop :=
  "Illegal module ".toList <+: text.toList

theorem isModuleReport_append (rest : String) : IsModuleReport ("Illegal module " ++ rest) :=
  ⟨rest.toList, String.toList_append.symm⟩

theorem isModuleReport_illegalModule (name : String) :
    IsModuleReport ((Fault.illegalModule name).message ++ "\n") := by
  have same : (Fault.illegalModule name).message ++ "\n" = "Illegal module " ++ (name ++ "\n") :=
    String.append_assoc
  rw [same]
  exact isModuleReport_append _

theorem isModuleReport_moduleNotFound (name : String) :
    IsModuleReport ((Fault.moduleNotFound name).message ++ "\n") := by
  have same : (Fault.moduleNotFound name).message ++ "\n" =
      "Illegal module " ++ (name ++ ", default is not changed" ++ "\n") := by
    rw [← String.append_assoc, ← String.append_assoc]
    rfl
  rw [same]
  exact isModuleReport_append _

namespace Scope

/-- The same words in a registry with more modules. -/
def extended (scope : Scope) (later : List CommandModule) : Scope :=
  { scope with registry := { scope.registry with modules := scope.registry.modules ++ later } }

/-- Words that do not start with the name of a module that is not there. -/
def Known (scope : Scope) (words : List String) : Prop :=
  ∀ name, scope.locate words ≠ .error (.illegalModule name)

variable {scope : Scope} {first name : String} {rest words : List String} {owner : Nat}
  (later : List CommandModule)

/-! ## What words locate -/

theorem find?_extended (found : scope.registry.find? scope.extent name = some owner) :
    (scope.extended later).registry.find? scope.extent name = some owner :=
  Registry.find?_of_prefix (List.prefix_append _ _) found

theorem get?_extended {found : CommandModule} (there : scope.registry.get? owner = some found) :
    (scope.extended later).registry.get? owner = some found :=
  Registry.get?_of_prefix (List.prefix_append _ _) there

theorem locate_extended (known : scope.Known words) :
    (scope.extended later).locate words = scope.locate words := by
  cases words with
  | nil => rfl
  | cons first rest =>
    cases selected : scope.selected with
    | some owner =>
      have selected' : (scope.extended later).selected = some owner := selected
      rw [locate_of_selected selected, locate_of_selected selected']
    | none =>
      have selected' : (scope.extended later).selected = none := selected
      cases rest with
      | nil => rw [locate_of_lone selected, locate_of_lone selected']
      | cons name others =>
        by_cases empty : name = ""
        · simp only [locate, selected, selected', if_pos empty]
        cases found : scope.registry.find? scope.extent first with
        | none => exact (known first (locate_of_no_module selected empty found)).elim
        | some owner =>
          rw [locate_of_unselected selected empty found]
          exact locate_of_unselected selected' empty (find?_extended later found)

/-- A module that words refer to is the same one, as it was registered already. -/
theorem get?_extended_of_locate (anchored : scope.Anchored)
    (located : scope.locate words = .ok (owner, name)) :
    (scope.extended later).registry.get? owner = scope.registry.get? owner := by
  obtain ⟨found, there⟩ := anchored.exists_get? located
  rw [there, get?_extended later there]

theorem missing_extended
    (same : (scope.extended later).registry.get? owner = scope.registry.get? owner) :
    (scope.extended later).missing owner name = scope.missing owner name := by
  rw [missing, same, missing]

theorem lookupRecords_extended (known : scope.Known words) :
    (scope.extended later).lookupRecords words = scope.lookupRecords words := by
  rw [lookupRecords, locate_extended later known, lookupRecords]

theorem command_extended (anchored : scope.Anchored) (known : scope.Known words) :
    (scope.extended later).command words = scope.command words := by
  have located' := locate_extended later known
  cases located : scope.locate words with
  | error fault =>
    rw [located] at located'
    rw [command_of_locate_eq_error located, command_of_locate_eq_error located']
  | ok place =>
    rcases place with ⟨owner, name⟩
    rw [located] at located'
    have same := get?_extended_of_locate later anchored located
    rw [command_of_locate_eq_ok located, command_of_locate_eq_ok located', same,
      missing_extended later same]

theorem describe_extended (anchored : scope.Anchored) (known : scope.Known words) :
    (scope.extended later).describe words = scope.describe words := by
  rw [describe, command_extended later anchored known, describe]

/-- Words that are no built-in resolve alike. -/
theorem resolve_extended (anchored : scope.Anchored) (known : scope.Known (first :: rest))
    (nonempty : first ≠ "") (help : first ≠ "help") (select : first ≠ "select") :
    (scope.extended later).resolve (first :: rest) = scope.resolve (first :: rest) := by
  have located' := locate_extended later known
  cases located : scope.locate (first :: rest) with
  | error fault =>
    rw [located] at located'
    rw [resolve_of_locate_eq_error nonempty help select located,
      resolve_of_locate_eq_error nonempty help select located']
    rfl
  | ok place =>
    rcases place with ⟨owner, name⟩
    rw [located] at located'
    have same := get?_extended_of_locate later anchored located
    rw [resolve_of_locate_eq_ok nonempty help select located,
      resolve_of_locate_eq_ok nonempty help select located', same, missing_extended later same]

/-! ## Help -/

/-- Describing words whose module is unknown reports it. -/
theorem known_of_describe (quiet : ¬ IsModuleReport (scope.describe words)) :
    scope.Known words := by
  intro name located
  apply quiet
  rw [describe_of_command_eq_error (command_of_locate_eq_error located) rfl]
  exact isModuleReport_illegalModule name

/-- The help is the same, unless it lists all modules or reports one. -/
theorem helpText_extended (anchored : scope.Anchored)
    (specific : words = [] → scope.selected ≠ none)
    (quiet : ¬ IsModuleReport (scope.helpText words)) :
    (scope.extended later).helpText words = scope.helpText words := by
  have described (words : List String) (quiet : ¬ IsModuleReport (scope.describe words)) :
      (scope.extended later).describe words = scope.describe words :=
    describe_extended later anchored (known_of_describe quiet)
  have same : (scope.extended later).selected = scope.selected := rfl
  cases selected : scope.selected with
  | some owner =>
    cases words with
    | nil =>
      obtain ⟨found, there⟩ := anchored owner selected
      simp only [helpText, same, selected, Registry.listing, there, get?_extended later there]
    | cons first rest =>
      simp only [helpText, same, selected] at quiet ⊢
      exact described _ quiet
  | none =>
    rcases words with _ | ⟨name, _ | ⟨second, rest⟩⟩
    · exact (specific rfl selected).elim
    · cases position : scope.registry.find? scope.extent name with
      | none =>
        simp only [helpText, selected, position] at quiet
        exact (quiet (isModuleReport_illegalModule name)).elim
      | some owner =>
        obtain ⟨found, there, _⟩ := Registry.exists_of_find? position
        have position' : (scope.extended later).registry.find? (scope.extended later).extent name =
            some owner := find?_extended later position
        simp only [helpText, same, selected, position, position', Registry.listing, there,
          get?_extended later there]
    · simp only [helpText, same, selected] at quiet ⊢
      exact described _ quiet

end Scope

/-! ## What a line does -/

namespace Shell

open Arguments (words pieces)

/-- Whether a line is answered with a report of an unknown module. -/
def ReportsUnknownModule (shell : Shell) (line : String) : Prop :=
  ∃ text ∈ Event.ownTexts (shell.body line).events, IsModuleReport text

variable {shell : Shell} {line first name : String} {rest : List String}
  (later : List CommandModule)

theorem call_extended (anchored : shell.scope.Anchored) {typed : List String}
    (known : shell.scope.Known typed) (callee : Callee) (handler : Handler) :
    (shell.extended later).call callee handler typed = shell.call callee handler typed := by
  have described : (shell.extended later).scope.describe typed = shell.scope.describe typed :=
    Scope.describe_extended later anchored known
  have handed : (shell.extended later).handed typed = shell.handed typed := rfl
  simp only [call, described, handed]

theorem fallBack_extended (anchored : shell.scope.Anchored) {typed : List String}
    (known : shell.scope.Known typed) :
    (shell.extended later).fallBack typed = shell.fallBack typed := by
  have same : (shell.extended later).fallback = shell.fallback := rfl
  simp only [fallBack, same, call_extended later anchored known]

/-- Words that are no built-in do the same, when the module they start with is there. -/
theorem dispatch_extended (anchored : shell.scope.Anchored)
    (known : shell.scope.Known (first :: rest)) (nonempty : first ≠ "") (help : first ≠ "help")
    (select : first ≠ "select") :
    (shell.extended later).dispatch (first :: rest) =
      ⟨shell.extended later, (shell.dispatch (first :: rest)).events⟩ := by
  have fallen := fallBack_extended later anchored known
  have resolved' : (shell.extended later).scope.resolve (first :: rest) =
      shell.scope.resolve (first :: rest) :=
    Scope.resolve_extended later anchored known nonempty help select
  have records : (shell.extended later).scope.lookupRecords (first :: rest) =
      shell.scope.lookupRecords (first :: rest) := Scope.lookupRecords_extended later known
  cases named : shell.scope.command (first :: rest) with
  | error fault =>
    have resolved := Scope.resolve_of_command_eq_error nonempty help select named
    rw [dispatch_of_resolve_eq_error resolved,
      dispatch_of_resolve_eq_error (resolved'.trans resolved), records, fallen]
  | ok command =>
    obtain ⟨owner, index, resolved, there⟩ :=
      Scope.resolve_of_command_eq_ok nonempty help select named
    have there' : (shell.extended later).registry.command? owner index = some command := by
      obtain ⟨found, is, inside⟩ := Option.bind_eq_some_iff.mp there
      exact Option.bind_eq_some_iff.mpr ⟨found, Scope.get?_extended later is, inside⟩
    rw [dispatch_of_resolve_eq_command resolved there,
      dispatch_of_resolve_eq_command (resolved'.trans resolved) there', records,
      call_extended later anchored known]

/-- A name that selects something, or is too long to, does the same. -/
theorem choose_extended (quiet : shell.choose name ≠ .error (.moduleNotFound name)) :
    (shell.extended later).choose name = shell.choose name := by
  by_cases short : name.length ≤ shell.config.maxNameLength
  · cases found : shell.registry.find? shell.config.extent name with
    | none => exact (quiet (Selection.choose_of_find?_eq_none short found)).elim
    | some index =>
      have choice : shell.choose name = .ok index := Selection.choose_eq_ok_iff.mpr ⟨short, found⟩
      rw [choice]
      exact Selection.choose_eq_ok_iff.mpr
        ⟨short, Registry.find?_of_prefix (List.prefix_append _ _) found⟩
  · have long := Nat.lt_of_not_le short
    exact (Selection.choose_of_long long).trans (Selection.choose_of_long long).symm

theorem selectBuiltin_extended
    (quiet : ∀ name ∈ rest.head?, shell.choose name ≠ .error (.moduleNotFound name)) :
    (shell.extended later).selectBuiltin rest =
      ⟨(shell.selectBuiltin rest).shell.extended later, (shell.selectBuiltin rest).events⟩ := by
  cases rest with
  | nil => rfl
  | cons name others =>
    have same := choose_extended later (quiet name rfl)
    cases choice : shell.choose name with
    | ok selected =>
      rw [selectBuiltin_of_choose_eq_ok choice,
        selectBuiltin_of_choose_eq_ok (same.trans choice)]
      rfl
    | error fault =>
      rw [selectBuiltin_of_choose_eq_error choice,
        selectBuiltin_of_choose_eq_error (same.trans choice)]

/-- Words that start with the name of an unknown module are reported. -/
theorem known_of_quiet (read : words line = first :: rest)
    (few : rest.length + 1 ≤ shell.config.maxArgs) (help : first ≠ "help")
    (select : first ≠ "select") (quiet : ¬ shell.ReportsUnknownModule line) :
    shell.scope.Known (first :: rest) := by
  intro name located
  have nonempty : first ≠ "" := Arguments.ne_empty_of_mem_words (by rw [read]; simp)
  have several : ¬ (rest = [] ∧ shell.scope.selected = none) := by
    rintro ⟨rfl, unselected⟩
    rw [Scope.locate_of_lone unselected] at located
    cases located
  have resolved := Scope.resolve_of_locate_eq_error nonempty help select located
  rw [if_neg several] at resolved
  apply quiet
  refine ⟨(Fault.illegalModule name).message ++ "\n", ?_, isModuleReport_illegalModule name⟩
  have unrecorded : shell.scope.lookupRecords (first :: rest) = [] := by
    simp only [Scope.lookupRecords, located]
  rw [body_of_words read few, dispatch_of_resolve_eq_error resolved, unrecorded]
  exact List.mem_cons_self ..

/-- Before the prompt, a line that does not ask for all modules or for an unknown one does the same
when there are more modules. -/
theorem body_extended (anchored : shell.scope.Anchored)
    (specific : ¬ (words line = ["help"] ∧ shell.selection.index? = none))
    (quiet : ¬ shell.ReportsUnknownModule line) :
    (shell.extended later).body line =
      ⟨(shell.body line).shell.extended later, (shell.body line).events⟩ := by
  have limit : (shell.extended later).config.maxArgs = shell.config.maxArgs := rfl
  rcases Nat.lt_or_ge shell.config.maxArgs (words line).length with many | few
  · rw [body_of_many many, body_of_many (by rwa [limit]), limit]
  cases read : words line with
  | nil => rw [body_of_no_words read, body_of_no_words read]
  | cons first rest =>
    rw [read] at few
    have few' : rest.length + 1 ≤ (shell.extended later).config.maxArgs := few
    have body := body_of_words read few
    rw [body_of_words read few']
    by_cases help : first = "help"
    · subst help
      rw [dispatch_help] at body
      rw [body, dispatch_help]
      have same : (shell.extended later).scope.helpText rest = shell.scope.helpText rest := by
        refine Scope.helpText_extended later anchored ?_ ?_
        · rintro rfl unselected
          exact specific ⟨read, unselected⟩
        · intro report
          refine quiet ⟨_, ?_, report⟩
          rw [body]
          exact List.mem_cons_self ..
      rw [same]
    by_cases select : first = "select"
    · subst select
      rw [dispatch_select] at body
      rw [body, dispatch_select]
      refine selectBuiltin_extended later fun name typed missing => ?_
      obtain ⟨others, rfl⟩ := List.head?_eq_some_iff.mp typed
      refine quiet ⟨_, ?_, isModuleReport_moduleNotFound name⟩
      rw [body, selectBuiltin_of_choose_eq_error missing]
      exact List.mem_cons_self ..
    · have known := known_of_quiet read few help select quiet
      have nonempty : first ≠ "" := Arguments.ne_empty_of_mem_words (by rw [read]; simp)
      rw [body, dispatch_extended later anchored known nonempty help select, shell_dispatch select]

/-- A line that does not ask for all modules or for an unknown one does the same when there are more
modules. -/
theorem execute_extended (anchored : shell.scope.Anchored)
    (specific : ¬ (words line = ["help"] ∧ shell.selection.index? = none))
    (quiet : ¬ shell.ReportsUnknownModule line) :
    (shell.extended later).execute line =
      ⟨(shell.execute line).shell.extended later, (shell.execute line).events⟩ := by
  have prompted (shell : Shell) : (shell.extended later).showPrompt =
      ⟨shell.showPrompt.shell.extended later, shell.showPrompt.events⟩ := by
    rcases shell with ⟨config, registry, selection, fallback, _ | hook⟩ <;> rfl
  simp only [execute, Turn.andThen, body_extended later anchored specific quiet, prompted]

end Shell

/-! ## What is still found -/

/-- What words resolve to they resolve to still. -/
theorem Scope.resolve_extended_of_ok {scope : Scope} {words : List String} {target : Target}
    (later : List CommandModule) (anchored : scope.Anchored)
    (resolved : scope.resolve words = .ok target) :
    (scope.extended later).resolve words = .ok target := by
  cases words with
  | nil => cases resolved
  | cons first rest =>
    by_cases nonempty : first = ""
    · simp [resolve, nonempty] at resolved
    by_cases help : first = "help"
    · simp only [resolve, if_neg nonempty, if_pos help] at resolved ⊢
      exact resolved
    by_cases select : first = "select"
    · simp only [resolve, if_neg nonempty, if_neg help, if_pos select] at resolved ⊢
      exact resolved
    have known : scope.Known (first :: rest) := by
      intro name located
      rw [resolve_of_locate_eq_error nonempty help select located] at resolved
      cases resolved
    rw [resolve_extended later anchored known nonempty help select, resolved]

namespace Shell

open Arguments (words pieces)

/-- What one shell finds another finds too: the module at a position, the one that a name selects,
and what words resolve to when the same module is selected. -/
structure StillFound (before after : Shell) : Prop where
  modules : ∀ {owner found}, before.registry.get? owner = some found →
    after.registry.get? owner = some found
  selects : ∀ {name index}, (before.select name).1 = .ok index → (after.select name).1 = .ok index
  resolves : ∀ {words target}, before.scope.resolve words = .ok target →
    ({ after with selection := before.selection } : Shell).scope.resolve words = .ok target

variable {before after shell : Shell}

/-- Whatever is done with a shell, what it found is found still. -/
theorem Evolves.stillFound {config : Config} (evolves : Evolves before after)
    (coherent : Coherent config before) : StillFound before after := by
  have grown := evolves.modules_prefix
  have coherent' := evolves.coherent coherent
  have sameConfig : after.config = before.config :=
    coherent'.config_eq.trans coherent.config_eq.symm
  refine ⟨fun there => Registry.get?_of_prefix grown there, ?_, ?_⟩
  · intro name index selected
    cases choice : before.choose name with
    | error fault =>
      simp only [select, choice] at selected
      cases selected
    | ok chosen =>
      simp only [select, choice, Except.ok.injEq] at selected
      obtain ⟨short, found⟩ := Selection.choose_eq_ok_iff.mp choice
      rw [← sameConfig] at short found
      rw [select_of_find? short (Registry.find?_of_prefix grown found), selected]
  · intro words target resolved
    obtain ⟨later, appended⟩ := grown
    have capacity : after.registry.capacity = before.registry.capacity :=
      coherent'.capacity_eq.trans coherent.capacity_eq.symm
    have same : ({ after with selection := before.selection } : Shell).scope =
        before.scope.extended later := by
      rcases after with ⟨config', ⟨capacity', modules'⟩, selection', fallback', hook'⟩
      simp only at appended capacity sameConfig
      subst appended capacity sameConfig
      rfl
    rw [same]
    exact Scope.resolve_extended_of_ok later (SelectedThere.anchored coherent.selectedThere)
      resolved

theorem register_eq_ok_iff {name : String} {commands : List Command} {index : Nat} {turn : Turn} :
    shell.register name commands = (.ok index, turn) ↔
      shell.registry.size < shell.registry.capacity ∧ index = shell.registry.size ∧
      turn = ⟨shell.extended [⟨name, commands⟩], shell.registerRecords name commands⟩ := by
  rcases Nat.lt_or_ge shell.registry.size shell.registry.capacity with room | full
  · rw [register_of_room room]
    simp [room, eq_comm]
  · rw [register_of_full full]
    simp [Nat.not_lt_of_le full]

/-- A module that is registered in a shell that can be reached changes nothing for a line that does
not list all modules and is not answered with a report of an unknown one: the same events happen, so
that the same handlers are called and the same texts are printed, and the same module is selected
under the same prompt. What could be found before is found still, then and after any session. -/
theorem execute_of_register (reachable : shell.Reachable) {name : String} {commands : List Command}
    {index : Nat} {turn : Turn} (registered : shell.register name commands = (.ok index, turn))
    {line : String} (specific : ¬ (pieces line = ["help"] ∧ shell.selection.index? = none))
    (quiet : ¬ shell.ReportsUnknownModule line) :
    (turn.shell.execute line).events = (shell.execute line).events ∧
      (turn.shell.execute line).shell.selection = (shell.execute line).shell.selection ∧
      turn.shell.fallback = shell.fallback ∧
      ∀ operations, StillFound shell (turn.shell.session operations).shell := by
  obtain ⟨_, coherent⟩ := reachable.coherent
  obtain ⟨_, _, rfl⟩ := register_eq_ok_iff.mp registered
  have anchored : shell.scope.Anchored := SelectedThere.anchored coherent.selectedThere
  rw [← Arguments.words_eq_pieces] at specific
  have same := execute_extended [⟨name, commands⟩] anchored specific quiet
  have evolves := evolves_register shell name commands
  rw [registered] at evolves
  refine ⟨?_, ?_, rfl, fun operations => ?_⟩
  · rw [same]
  · rw [same]
    rfl
  · exact Evolves.stillFound (evolves.trans (evolves_session _ operations)) coherent

/-- Four letters of a name count, so that even the whole name of the later module means the earlier
one. -/
theorem execute_of_register_netwatch :
    ∃ first, create fourLetters = .ok first ∧
      let shell := (first.session [.register "network" Demo.mathCommands]).shell
      ∃ turn, shell.register "netwatch" (Demo.sysCommands 0) = (.ok 1, turn) ∧
        Event.calls (turn.shell.execute " netwatch  add 1").events =
          [(.command 0 0, ["add", "1"])] ∧
        Event.console (turn.shell.execute " netwatch  add 1").events =
          "add:\nadd <a> <b>\nshell> " ∧
        ∀ operations, StillFound shell (turn.shell.session operations).shell := by
  obtain ⟨first, created⟩ : ∃ first, create fourLetters = .ok first := ⟨_, rfl⟩
  refine ⟨first, created, ?_⟩
  obtain ⟨_, rfl⟩ := create_eq_ok_iff.mp created
  intro shell
  have reachable : shell.Reachable := ⟨_, _, _, created, rfl⟩
  have registered : shell.register "netwatch" (Demo.sysCommands 0) =
      (.ok 1, ⟨_, _⟩) := rfl
  have own : Event.ownTexts (shell.body " netwatch  add 1").events = ["add:\nadd <a> <b>\n"] := by
    decide +kernel
  have quiet : ¬ shell.ReportsUnknownModule " netwatch  add 1" := by
    rintro ⟨text, member, report⟩
    rw [own, List.mem_singleton] at member
    subst member
    revert report
    unfold IsModuleReport
    decide +kernel
  have specific : ¬ (pieces " netwatch  add 1" = ["help"] ∧ shell.selection.index? = none) := by
    decide +kernel
  obtain ⟨events, -, -, still⟩ := execute_of_register reachable registered specific quiet
  refine ⟨_, registered, ?_, ?_, still⟩
  · rw [events]
    decide +kernel
  · rw [events]
    decide +kernel

end Shell

end CommandShell
