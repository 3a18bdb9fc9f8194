import CommandShell.Demo
import CommandShell.Proofs.Shell.Line

/-!
# Leaving out the name of the selected module

With nothing selected the words `m c rest` name a command `c` of the module `m`; with
`m` selected the words `c rest` name the same command, and so the line `m c rest` and
the two lines `select m` and `c rest` call the same handler with the same arguments
(`Shell.calls_execute_of_select`). The handler never sees the module's name.
-/

namespace CommandShell

namespace Shell

open Arguments (words)

variable {shell next : Shell} {owner : Nat} {m c : String} {rest : List String}

/-- `next` is `shell` after a module was selected; the prompt hook may have been asked since. -/
structure Chosen (owner : Nat) (shell next : Shell) : Prop where
  config_eq : next.config = shell.config
  registry_eq : next.registry = shell.registry
  fallback_eq : next.fallback = shell.fallback
  index? : next.selection.index? = some owner

/-- The line `select m` selects the module that a search finds, and calls nothing. -/
theorem execute_select {line : String} (read : words line = ["select", m])
    (few : 2 ≤ shell.config.maxArgs) (short : m.length ≤ shell.config.maxNameLength)
    (found : shell.registry.find? shell.config.extent m = some owner) :
    Chosen owner shell (shell.execute line).shell ∧
      Event.calls (shell.execute line).events = [] := by
  have body : shell.body line =
      ⟨{ shell with selection := .ofName owner m },
        [.logged .debug ("default module set to " ++ m ++ " (" ++ toString owner ++ ")")]⟩ := by
    rw [body_of_words read few, dispatch_select]
    simp only [selectBuiltin, select_of_find? short found]
  constructor
  · simp only [execute, body, Turn.shell_andThen, shell_showPrompt]
    exact ⟨rfl, rfl, rfl, rfl⟩
  · rw [calls_execute, body]
    rfl

/-! ## Calls with and without the module's name -/

namespace Chosen

variable (chosen : Chosen owner shell next)

include chosen

theorem handed (words : List String) : next.handed words = words :=
  handed_of_selected chosen.index? words

theorem locate (c : String) (rest : List String) : next.scope.locate (c :: rest) = .ok (owner, c) :=
  Scope.locate_of_selected chosen.index?

/-- A command of the module is called alike, whether or not the module is named, and if it fails
the same help is shown. -/
theorem call_eq (callee : Callee) (handler : Handler) {command : Command} (rest : List String)
    (unselected : shell.selection.index? = none)
    (located : shell.scope.locate (m :: c :: rest) = .ok (owner, c))
    (known : (shell.registry.get? owner).bind (·.find? c) = some command) :
    next.call callee handler (c :: rest) = shell.call callee handler (m :: c :: rest) := by
  have named : shell.scope.describe (m :: c :: rest) = command.describe := by
    rw [Scope.describe_of_locate_eq_ok located]
    simp only [scope, known]
  have unnamed : next.scope.describe (c :: rest) = command.describe := by
    rw [Scope.describe_of_locate_eq_ok (chosen.locate c rest)]
    simp only [scope, chosen.registry_eq, known]
  simp only [call, named, unnamed, chosen.handed, handed_of_unselected unselected,
    List.drop_succ_cons, List.drop_zero]

/-- Words that fall back call the same, whether or not the module is named. -/
theorem calls_fallBack (unselected : shell.selection.index? = none) :
    Event.calls (next.fallBack (c :: rest)) = Event.calls (shell.fallBack (m :: c :: rest)) := by
  rw [Shell.calls_fallBack, Shell.calls_fallBack, chosen.fallback_eq, chosen.handed,
    handed_of_unselected unselected, List.drop_succ_cons, List.drop_zero]

end Chosen

/-- Words with the module's name and words without it, for a selected module. The commands are
told apart here because without one the name of the first word is shown. -/
theorem Chosen.dispatch (chosen : Chosen owner shell next) (rest : List String)
    (unselected : shell.selection.index? = none)
    (nonempty : m ≠ "" ∧ c ≠ "") (help : m ≠ "help" ∧ c ≠ "help")
    (select : m ≠ "select" ∧ c ≠ "select")
    (found : shell.registry.find? shell.config.extent m = some owner) :
    Event.calls (next.dispatch (c :: rest)).events =
        Event.calls (shell.dispatch (m :: c :: rest)).events ∧
      (((shell.registry.get? owner).bind (·.find? c)).isSome →
        (next.dispatch (c :: rest)).events = (shell.dispatch (m :: c :: rest)).events) := by
  have located : shell.scope.locate (m :: c :: rest) = .ok (owner, c) :=
    Scope.locate_of_unselected unselected nonempty.2 found
  have named := dispatch_of_locate nonempty.1 help.1 select.1 located
  have unnamed := dispatch_of_locate nonempty.2 help.2 select.2 (chosen.locate c rest)
  rw [chosen.registry_eq] at unnamed
  -- A line calls a command by position, and the help of a failed one is found by name.
  have same := Registry.bind_find?_eq_bind_command? shell.registry owner c
  cases there : (shell.registry.get? owner).bind (·.indexOf? c) with
  | none =>
    simp only [there] at named unnamed
    rw [there] at same
    constructor
    · rw [named, unnamed]
      exact chosen.calls_fallBack unselected
    · intro known
      rw [same] at known
      cases known
  | some index =>
    simp only [there] at named unnamed
    rw [there] at same
    cases known : shell.registry.command? owner index with
    | none =>
      simp only [known] at named unnamed
      rw [named, unnamed]
      exact ⟨rfl, fun _ => rfl⟩
    | some command =>
      simp only [known] at named unnamed
      have called := chosen.call_eq (.command owner index) command.handler rest unselected located
        (same.trans known)
      rw [named, unnamed, called]
      exact ⟨rfl, fun _ => rfl⟩

/-- With nothing selected, the line `m c rest` makes the calls of the lines `select m` and `c rest`,
also when `c` is no command of the module and the words fall back. When it is one, the line prints
what `c rest` prints before the prompt. The first of the two lines leaves the modules and the
fallback handler alone, so equal calls are calls of equal handlers. -/
theorem calls_execute_of_select {line selecting shorthand : String}
    (unselected : shell.selection.index? = none) (short : m.length ≤ shell.config.maxNameLength)
    (found : shell.registry.find? shell.config.extent m = some owner)
    (help : m ≠ "help" ∧ c ≠ "help") (select : m ≠ "select" ∧ c ≠ "select")
    (few : 2 + rest.length ≤ shell.config.maxArgs) (read : words line = m :: c :: rest)
    (readSelecting : words selecting = ["select", m])
    (readShorthand : words shorthand = c :: rest) :
    (shell.execute selecting).shell.registry = shell.registry ∧
      (shell.execute selecting).shell.fallback = shell.fallback ∧
      Event.calls (shell.execute line).events =
        Event.calls (shell.executeAll [selecting, shorthand]).events ∧
      (((shell.registry.get? owner).bind (·.find? c)).isSome →
        Event.console (shell.body line).events =
          Event.console ((shell.execute selecting).shell.body shorthand).events) := by
  have nonempty : m ≠ "" ∧ c ≠ "" := by
    have every := fun word (member : word ∈ words line) => Arguments.ne_empty_of_mem_words member
    rw [read] at every
    exact ⟨every m (by simp), every c (by simp)⟩
  obtain ⟨chosen, silent⟩ := execute_select readSelecting (by omega) short found
  obtain ⟨calls, events⟩ := chosen.dispatch rest unselected nonempty help select found
  have named : shell.body line = shell.dispatch (m :: c :: rest) :=
    body_of_words read (by simp only [List.length_cons]; omega)
  have unnamed : (shell.execute selecting).shell.body shorthand =
      (shell.execute selecting).shell.dispatch (c :: rest) :=
    body_of_words readShorthand (by rw [chosen.config_eq]; omega)
  refine ⟨chosen.registry_eq, chosen.fallback_eq, ?_, ?_⟩
  · have both : Event.calls (shell.executeAll [selecting, shorthand]).events =
        Event.calls ((shell.execute selecting).shell.execute shorthand).events := by
      simp only [executeAll, Turn.events_andThen, List.append_nil, Event.calls_append, silent,
        List.nil_append]
    rw [both, calls_execute, calls_execute, named, unnamed, calls]
  · intro known
    rw [named, unnamed, events known]

/-- Three letters of the name are enough here. One operand is missing, so the usage is shown. -/
theorem calls_execute_of_select_math :
    let shell : Shell :=
      { config := { maxNameLength := 3, nameMatch := .leading }, registry := ⟨8, Demo.modules 0⟩ }
    Event.calls (shell.executeAll ["select mat", " add  1"]).events =
        [(.command 1 0, ["add", "1"])] ∧
      Event.console ((shell.execute "select mat").shell.body " add  1").events =
        "add:\nadd <a> <b>\n" := by
  intro shell
  have read : words (" ".intercalate ["mat", "add", "1"]) = ["mat", "add", "1"] :=
    Arguments.words_intercalate (by decide)
  have readSelecting : words "select mat" = ["select", "mat"] := by decide +kernel
  have readShorthand : words " add  1" = ["add", "1"] := by decide +kernel
  have found : shell.registry.find? shell.config.extent "mat" = some 1 := by decide +kernel
  obtain ⟨-, -, calls, console⟩ := calls_execute_of_select rfl (by decide) found (by decide)
    (by decide) (by decide) read readSelecting readShorthand
  constructor
  · rw [← calls]
    decide +kernel
  · rw [← console (by decide +kernel)]
    decide +kernel

end Shell

end CommandShell
