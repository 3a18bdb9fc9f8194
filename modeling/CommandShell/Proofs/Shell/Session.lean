import CommandShell.Proofs.Relay.Schedule
import CommandShell.Proofs.Shell.Line
import Mathlib.Logic.Relation

/-!
# Sessions with a shell

A session is a list of operations on one shell, each of which may succeed or fail.
`Shell.Change` lists the changes that an operation is made of, and `Shell.Evolves` is
any number of them; every session is one (`Shell.evolves_session`). So whatever a
single change keeps holds after every session, and of every `Shell.Reachable` shell.
-/

namespace CommandShell

namespace Shell

/-- What can be done with a shell. A run goes on with any pool, any lines and any schedule. -/
inductive Operation : Type where
  | register (name : String) (commands : List Command)
  | setFallback (handler : Handler)
  | setPromptHook (hook : PromptHook)
  | select (name : Option String)
  | openWith (name : String)
  | showPrompt
  | execute (line : String)
  | handle (item : Option WorkItem)
  | drain (pool : Pool)
  | run (pool : Pool) (lines : List String) (schedule : List Relay.Party)

/-- The shell after an operation, and its events. A schedule that cannot be followed is no run. -/
def perform (shell : Shell) : Operation → Turn
  | .register name commands => (shell.register name commands).2
  | .setFallback handler => (shell.setFallback handler).2
  | .setPromptHook hook => (shell.setPromptHook hook).2
  | .select none => ⟨shell.deselect, []⟩
  | .select (some name) => (shell.select name).2
  | .openWith name => (shell.openWith name).2
  | .showPrompt => shell.showPrompt
  | .execute line => shell.execute line
  | .handle item => shell.handle item
  | .drain pool => (shell.drain pool).turn
  | .run pool lines schedule =>
    match (Relay.start shell pool lines).follow? schedule with
    | some relay => ⟨relay.shell, relay.events⟩
    | none => ⟨shell, []⟩

/-- Perform operations one after the other. -/
def session (shell : Shell) : List Operation → Turn
  | [] => ⟨shell, []⟩
  | operation :: rest => (shell.perform operation).andThen (session · rest)

/-- A shell that some session leads to from the start. -/
def Reachable (shell : Shell) : Prop :=
  ∃ config first operations, create config = .ok first ∧ (first.session operations).shell = shell

/-! ## Changes -/

/-- One change of a shell. -/
inductive Change (before : Shell) : Shell → Prop
  | registered {name : String} {commands : List Command} {index : Nat} {registry : Registry} :
    before.registry.register name commands = .ok (index, registry) →
    Change before { before with registry }
  | fallback {handler : Handler} :
    before.fallback = none → Change before { before with fallback := some handler }
  | promptHook {hook : PromptHook} :
    before.promptHook = none → Change before { before with promptHook := some hook }
  | asked {hook : PromptHook} :
    before.promptHook = some hook → Change before { before with promptHook := some hook.next }
  | deselected : Change before before.deselect
  | selected {name : String} {index : Nat} :
    Selection.choose before.registry before.config.maxNameLength before.config.extent name
      = .ok index →
    Change before { before with selection := .ofName index name }

/-- Any number of changes, one after the other. -/
abbrev Evolves : Shell → Shell → Prop :=
  Relation.ReflTransGen Change

theorem evolves_register (shell : Shell) (name : String) (commands : List Command) :
    Evolves shell (shell.register name commands).2.shell := by
  unfold register
  split
  · next index registry registered => exact .single (.registered registered)
  · exact .refl

theorem evolves_setFallback (shell : Shell) (handler : Handler) :
    Evolves shell (shell.setFallback handler).2.shell := by
  unfold setFallback
  split
  · exact .refl
  · next absent => exact .single (.fallback absent)

theorem evolves_setPromptHook (shell : Shell) (hook : PromptHook) :
    Evolves shell (shell.setPromptHook hook).2.shell := by
  unfold setPromptHook
  split
  · exact .refl
  · next absent => exact .single (.promptHook absent)

theorem evolves_select (shell : Shell) (name : String) :
    Evolves shell (shell.select name).2.shell := by
  unfold select
  split
  · next index chosen => exact .single (.selected chosen)
  · exact .refl

theorem evolves_showPrompt (shell : Shell) : Evolves shell shell.showPrompt.shell := by
  rw [shell_showPrompt]
  rcases shell with ⟨config, registry, selection, fallback, _ | hook⟩
  · exact .refl
  · exact .single (.asked rfl)

theorem evolves_openWith (shell : Shell) (name : String) :
    Evolves shell (shell.openWith name).2.shell := by
  have chosen := evolves_select shell name
  unfold openWith
  split
  · next index turn selected =>
    rw [selected] at chosen
    exact chosen.trans (evolves_showPrompt _)
  · next fault turn refused =>
    rw [refused] at chosen
    exact chosen

theorem evolves_selectBuiltin (shell : Shell) (rest : List String) :
    Evolves shell (shell.selectBuiltin rest).shell := by
  cases rest with
  | nil => exact .single .deselected
  | cons name others =>
    rw [shell_selectBuiltin_cons]
    exact evolves_select shell name

theorem evolves_execute (shell : Shell) (line : String) :
    Evolves shell (shell.execute line).shell := by
  have body : Evolves shell (shell.body line).shell := by
    rcases shell_body shell line with same | ⟨rest, _, selected⟩
    · rw [same]
    · rw [selected]
      exact evolves_selectBuiltin shell rest
  exact body.trans (evolves_showPrompt _)

theorem evolves_handle (shell : Shell) (item : Option WorkItem) :
    Evolves shell (shell.handle item).shell := by
  cases item with
  | none => exact evolves_showPrompt shell
  | some item => exact evolves_execute shell item.line

theorem evolves_drain (shell : Shell) (pool : Pool) :
    Evolves shell (shell.drain pool).turn.shell := by
  fun_induction drain shell pool with
  | case1 => exact .refl
  | case2 => exact .refl
  | case3 => exact evolves_handle _ _
  | case4 shell pool item next _ turn _ rest ih => exact (evolves_handle _ _).trans ih
  | case5 shell pool item next _ turn after _ rest ih => exact (evolves_handle _ _).trans ih

/-- Of the steps of a relay only the execution of a line touches the shell. -/
theorem evolves_step? {relay next : Relay} {party : Relay.Party}
    (stepped : relay.step? party = some next) : Evolves relay.shell next.shell := by
  rcases relay with ⟨producer, consumer, pool, shell, events, farewell⟩
  cases party with
  | producer =>
    simp only [Relay.step?, Relay.produce?] at stepped
    split at stepped
    · split at stepped <;> cases stepped <;> exact .refl
    · split at stepped <;> cases stepped <;> exact .refl
    · cases stepped
      exact .refl
    · split at stepped <;> cases stepped <;> exact .refl
    · cases stepped
  | consumer =>
    simp only [Relay.step?, Relay.consume?] at stepped
    split at stepped
    · split at stepped <;> cases stepped <;> exact .refl
    · next item =>
      cases stepped
      exact evolves_handle shell (some item)
    · split at stepped <;> cases stepped <;> exact .refl
    · cases stepped

theorem evolves_follow? {relay last : Relay} {schedule : List Relay.Party}
    (followed : relay.follow? schedule = some last) : Evolves relay.shell last.shell := by
  induction schedule generalizing relay with
  | nil =>
    cases followed
    exact .refl
  | cons party rest ih =>
    obtain ⟨next, stepped, later⟩ := Option.bind_eq_some_iff.mp followed
    exact (evolves_step? stepped).trans (ih later)

/-- An operation is made of changes. -/
theorem evolves_perform (shell : Shell) (operation : Operation) :
    Evolves shell (shell.perform operation).shell := by
  cases operation with
  | register name commands => exact evolves_register shell name commands
  | setFallback handler => exact evolves_setFallback shell handler
  | setPromptHook hook => exact evolves_setPromptHook shell hook
  | select name =>
    cases name with
    | none => exact .single .deselected
    | some name => exact evolves_select shell name
  | openWith name => exact evolves_openWith shell name
  | showPrompt => exact evolves_showPrompt shell
  | execute line => exact evolves_execute shell line
  | handle item => exact evolves_handle shell item
  | drain pool => exact evolves_drain shell pool
  | run pool lines schedule =>
    simp only [perform]
    split
    · next relay followed => exact evolves_follow? followed
    · exact .refl

/-- A session is made of changes. -/
theorem evolves_session (shell : Shell) (operations : List Operation) :
    Evolves shell (shell.session operations).shell := by
  induction operations generalizing shell with
  | nil => exact .refl
  | cons operation rest ih => exact (evolves_perform shell operation).trans (ih _)

end Shell

end CommandShell
