import CommandShell.Demo
import CommandShell.Proofs.Shell.Frame
import CommandShell.Proofs.Shell.Refusal

/-!
# Three ways to select a module

`Shell.select` selects a module for an embedding, `Shell.openWith` selects one at the start,
and the typed line `select` with a name selects one for the user. All three answer from one
search: they succeed together, or fail together with the same fault, and select the same
(`Shell.openWith_meets_select`). They differ in what they print around it.

Two of them show the prompt, so the prompt hook may have been asked once more. `Shell.Alike`
says that two shells differ in their prompt hooks only, and that both hooks always give the
same answer. No lines can tell such shells apart (`Shell.Alike.executeAll`).
-/

namespace CommandShell

namespace PromptHook

/-- However often it is asked from now on, the hook gives the same answer. -/
def Steady (hook : PromptHook) : Prop :=
  ∀ asked, hook.asked ≤ asked → hook.answers asked = hook.answer

variable {hook : PromptHook}

theorem Steady.answer_next (steady : hook.Steady) : hook.next.answer = hook.answer :=
  steady (hook.asked + 1) (Nat.le_succ _)

theorem Steady.next (steady : hook.Steady) : hook.next.Steady := by
  intro asked later
  rw [steady.answer_next]
  exact steady asked (Nat.le_of_succ_le later)

end PromptHook

namespace Shell

open Arguments (words)

/-- A shell with another prompt hook, or with none. -/
def rehooked (shell : Shell) (hook : Option PromptHook) : Shell :=
  { shell with promptHook := hook }

/-- There is no prompt hook, or it always gives the same answer. -/
def Steady (shell : Shell) : Prop :=
  ∀ hook, shell.promptHook = some hook → hook.Steady

/-- A shell and the same one with another prompt hook, where both hooks always give the same
answer. -/
inductive Alike (shell : Shell) : Shell → Prop
  | rehooked {hook : Option PromptHook} :
    shell.Steady → (shell.rehooked hook).Steady →
    hook.map PromptHook.answer = shell.promptHook.map PromptHook.answer →
    Alike shell (shell.rehooked hook)

variable {shell other : Shell} {name line : String} {hook : Option PromptHook}

/-! ## Shells that no line can tell apart -/

theorem selectBuiltin_rehooked (rest : List String) :
    (shell.rehooked hook).selectBuiltin rest =
      ⟨(shell.selectBuiltin rest).shell.rehooked hook, (shell.selectBuiltin rest).events⟩ := by
  cases rest with
  | nil => rfl
  | cons name others =>
    have same : (shell.rehooked hook).choose name = shell.choose name := rfl
    cases choice : shell.choose name with
    | ok selected =>
      rw [selectBuiltin_of_choose_eq_ok choice,
        selectBuiltin_of_choose_eq_ok (same.trans choice)]
      rfl
    | error fault =>
      rw [selectBuiltin_of_choose_eq_error choice,
        selectBuiltin_of_choose_eq_error (same.trans choice)]

theorem dispatch_rehooked (words : List String) :
    (shell.rehooked hook).dispatch words =
      ⟨(shell.dispatch words).shell.rehooked hook, (shell.dispatch words).events⟩ := by
  have same : (shell.rehooked hook).scope.resolve words = shell.scope.resolve words := rfl
  cases resolved : shell.scope.resolve words with
  | error fault => simp only [dispatch, same, resolved]; rfl
  | ok target =>
    cases target with
    | help => simp only [dispatch, same, resolved]; rfl
    | select => simp only [dispatch, same, resolved, selectBuiltin_rehooked]
    | command owner index => simp only [dispatch, same, resolved]; rfl

/-- What a line does before the prompt does not depend on the prompt hook. -/
theorem body_rehooked (shell : Shell) (hook : Option PromptHook) (line : String) :
    (shell.rehooked hook).body line =
      ⟨(shell.body line).shell.rehooked hook, (shell.body line).events⟩ := by
  have limit : (shell.rehooked hook).config.maxArgs = shell.config.maxArgs := rfl
  rcases Nat.lt_or_ge shell.config.maxArgs (words line).length with many | few
  · rw [body_of_many many, body_of_many (by rwa [limit]), limit]
  · cases read : words line with
    | nil => rw [body_of_no_words read, body_of_no_words read]
    | cons first rest =>
      rw [read] at few
      rw [body_of_words read few, body_of_words read (by rwa [limit]), dispatch_rehooked]

theorem Alike.symm (alike : Alike shell other) : Alike other shell := by
  cases alike with
  | @rehooked hook left right same =>
    exact @Alike.rehooked (shell.rehooked hook) shell.promptHook right left same.symm

theorem Alike.trans {last : Shell} (alike : Alike shell other) (next : Alike other last) :
    Alike shell last := by
  cases alike with
  | rehooked left _ same =>
    cases next with
    | rehooked _ right same' => exact .rehooked left right (same'.trans same)

/-- Asking a hook that always gives the same answer makes no difference. -/
theorem Steady.alike_showPrompt (steady : shell.Steady) : Alike shell shell.showPrompt.shell := by
  rw [shell_showPrompt]
  refine .rehooked steady ?_ ?_
  · intro hook asked
    obtain ⟨before, there, rfl⟩ := Option.map_eq_some_iff.mp asked
    exact (steady before there).next
  · cases there : shell.promptHook with
    | none => rfl
    | some hook => exact congrArg some (steady hook there).answer_next

theorem Alike.showPrompt (alike : Alike shell other) :
    Alike shell.showPrompt.shell other.showPrompt.shell ∧
      other.showPrompt.events = shell.showPrompt.events := by
  cases alike with
  | @rehooked hook left right same =>
    refine ⟨?_, ?_⟩
    · exact left.alike_showPrompt.symm.trans
        ((Alike.rehooked left right same).trans right.alike_showPrompt)
    · have shown (shell : Shell) (hook : Option PromptHook) :
          (shell.rehooked hook).showPrompt.events =
            ((hook.map PromptHook.answer).map .asked).toList ++
              [.printed (shell.promptFor (hook.map PromptHook.answer).join)] := by
        cases hook <;> rfl
      exact (shown shell hook).trans (same ▸ (shown shell shell.promptHook).symm)

theorem Alike.execute (alike : Alike shell other) (line : String) :
    Alike (shell.execute line).shell (other.execute line).shell ∧
      (other.execute line).events = (shell.execute line).events := by
  cases alike with
  | @rehooked hook left right same =>
    have kept := promptHook_body shell line
    have next : Alike (shell.body line).shell ((shell.body line).shell.rehooked hook) :=
      .rehooked (fun before there => left before (kept ▸ there)) right (by rw [kept, same])
    obtain ⟨last, prompt⟩ := next.showPrompt
    rw [Shell.execute, Shell.execute, body_rehooked]
    refine ⟨last, ?_⟩
    rw [Turn.events_andThen, Turn.events_andThen, prompt]

/-- Lines do the same in both shells, and leave shells that are alike again. -/
theorem Alike.executeAll (alike : Alike shell other) (lines : List String) :
    Alike (shell.executeAll lines).shell (other.executeAll lines).shell ∧
      (other.executeAll lines).events = (shell.executeAll lines).events := by
  induction lines generalizing shell other with
  | nil => exact ⟨alike, rfl⟩
  | cons line rest ih =>
    obtain ⟨next, first⟩ := alike.execute line
    obtain ⟨last, later⟩ := ih next
    refine ⟨last, ?_⟩
    rw [Shell.executeAll, Shell.executeAll, Turn.events_andThen, Turn.events_andThen, first, later]

/-! ## The three ways -/

/-- A shell in which the module at a position was selected by a name. -/
def chosenBy (shell : Shell) (index : Nat) (name : String) : Shell :=
  { shell with selection := ⟨some index, name ++ "> "⟩ }

/-- A name without a blank is read back behind `select`. -/
theorem words_select (nonempty : name ≠ "") (solid : ' ' ∉ name.toList) :
    words ("select " ++ name) = ["select", name] := by
  have joined : "select " ++ name = " ".intercalate ["select", name] := by
    rw [String.intercalate_cons_cons, String.intercalate_singleton]
    rfl
  rw [joined]
  refine Arguments.words_intercalate fun token member => ?_
  rcases List.mem_cons.mp member with rfl | member
  · decide
  · rw [List.mem_singleton.mp member]
    exact ⟨nonempty, solid⟩

/-- What a name that a search finds does for an embedding, at the start, and in a line before the
prompt. -/
theorem select_openWith_of_find? {index : Nat} (short : name.length ≤ shell.config.maxNameLength)
    (found : shell.registry.find? shell.config.extent name = some index) :
    ∃ note,
      shell.select name = (.ok index, ⟨shell.chosenBy index name, [.logged .debug note]⟩) ∧
      shell.openWith name = (.ok index,
        ⟨(shell.chosenBy index name).showPrompt.shell,
          .logged .debug note :: .printed "\n" ::
            (shell.chosenBy index name).showPrompt.events⟩) ∧
      shell.selectBuiltin [name] = ⟨shell.chosenBy index name, [.logged .debug note]⟩ := by
  have selected := select_of_find? short found
  refine ⟨_, selected, ?_, ?_⟩
  · simp only [openWith, selected]
    rfl
  · simp only [selectBuiltin, selected]
    rfl

/-- The prompt is seen as a whole. -/
theorem outward_showPrompt (shell : Shell) :
    Event.outward shell.showPrompt.events = shell.showPrompt.events := by
  rcases shell with ⟨config, registry, selection, fallback, _ | hook⟩ <;> rfl

/-- A name that can be typed is looked up alike by an embedding, at the start and in a line that is
typed, and the three succeed together: the module that is found is selected, and the one difference
is that the prompt is shown, at the start behind a line end, and not for an embedding. Or there is a
reason that nothing is selected, and the three fail together: the selection stays as it is, the
fault is shown at the start and in a line, in a line before the prompt, and not for an embedding. If
the prompt hook always gives the same answer, any lines do the same afterwards. -/
theorem openWith_meets_select {shell : Shell} {name : String} (two : 2 ≤ shell.config.maxArgs)
    (nonempty : name ≠ "") (solid : ' ' ∉ name.toList) :
    let chosen := shell.select name
    let opened := shell.openWith name
    let typed := shell.execute ("select " ++ name)
    let prompt := chosen.2.shell.showPrompt.events
    ((∃ index, chosen.1 = .ok index ∧ opened.1 = .ok index ∧
        chosen.2.shell = shell.chosenBy index name ∧
        Event.outward chosen.2.events = [] ∧
        Event.outward opened.2.events = .printed "\n" :: prompt ∧
        Event.outward typed.events = prompt) ∨
      ∃ fault, shell.Unselectable name fault ∧ chosen.1 = .error fault ∧ opened.1 = .error fault ∧
        chosen.2.shell = shell ∧
        Event.outward chosen.2.events = [] ∧
        Event.outward opened.2.events = [.line fault.message] ∧
        Event.outward typed.events = .line fault.message :: prompt) ∧
    opened.2.shell.selection = chosen.2.shell.selection ∧
    typed.shell.selection = chosen.2.shell.selection ∧
    (shell.Steady → ∀ lines,
      (opened.2.shell.executeAll lines).events = (chosen.2.shell.executeAll lines).events ∧
      (typed.shell.executeAll lines).events = (chosen.2.shell.executeAll lines).events) := by
  have read :
      shell.execute ("select " ++ name) = (shell.selectBuiltin [name]).andThen showPrompt := by
    rw [execute, body_of_words (words_select nonempty solid) two, dispatch_select]
  rcases exists_find?_or_unselectable shell name with
    ⟨short, index, found⟩ | ⟨fault, unselectable⟩
  · obtain ⟨note, choosing, opening, typing⟩ := select_openWith_of_find? short found
    rw [typing] at read
    simp only [choosing, opening, read, Turn.andThen]
    have seen := outward_showPrompt (shell.chosenBy index name)
    have kept : (shell.chosenBy index name).showPrompt.shell.selection =
        (shell.chosenBy index name).selection := by rw [shell_showPrompt]
    refine ⟨.inl ⟨index, rfl, rfl, rfl, rfl, ?_, seen⟩, kept, kept, fun steady lines => ?_⟩
    · exact congrArg (Event.printed "\n" :: ·) seen
    · have alike : Alike (shell.chosenBy index name) _ := Steady.alike_showPrompt steady
      exact ⟨(alike.executeAll lines).2, (alike.executeAll lines).2⟩
  · have refused := unselectable.choose
    rw [selectBuiltin_of_choose_eq_error refused] at read
    simp only [select_of_choose_eq_error refused, openWith_of_choose_eq_error refused, read,
      Turn.andThen]
    have seen := outward_showPrompt shell
    have kept : shell.showPrompt.shell.selection = shell.selection := by rw [shell_showPrompt]
    refine ⟨.inr ⟨fault, unselectable, rfl, rfl, trivial, rfl, rfl, ?_⟩, trivial, kept, ?_⟩
    · exact congrArg (Event.line fault.message :: ·) seen
    · exact fun steady lines => ⟨trivial, (steady.alike_showPrompt.executeAll lines).2⟩

/-- Three letters of the name are enough here, and four are too many. The prompt hook is asked each
time and never has a prompt to give. -/
theorem openWith_meets_select_math :
    let shell : Shell :=
      { config := { maxNameLength := 3, nameMatch := .leading }, registry := ⟨8, Demo.modules 0⟩
        promptHook := some { answers := fun _ => some "" } }
    Event.console (shell.openWith "mat").2.events = "\nmat> " ∧
      Event.console (shell.execute ("select " ++ "mat")).events = "mat> " ∧
      (∀ lines, ((shell.openWith "mat").2.shell.executeAll lines).events =
        ((shell.execute ("select " ++ "mat")).shell.executeAll lines).events) ∧
      ∃ fault, (shell.openWith "math").1 = .error fault ∧
        Event.outward (shell.openWith "math").2.events = [.line fault.message] ∧
        Event.outward (shell.execute ("select " ++ "math")).events =
          [.line fault.message, .asked (some ""), .printed "shell> "] := by
  intro shell
  have steady : shell.Steady := by
    rintro _ ⟨⟩ asked _
    rfl
  obtain ⟨-, -, -, later⟩ :=
    @openWith_meets_select shell "mat" (by decide) (by decide) (by decide)
  refine ⟨by decide +kernel, by decide +kernel, fun lines => ?_, ?_⟩
  · obtain ⟨opened, typed⟩ := later steady lines
    rw [opened, typed]
  · obtain ⟨done, -, -, -⟩ :=
      @openWith_meets_select shell "math" (by decide) (by decide) (by decide)
    rcases done with ⟨index, _, opened, _⟩ | ⟨fault, _, _, opened, same, _, shown, seen⟩
    · have refused : (shell.openWith "math").1.isOk = false := by decide +kernel
      rw [opened] at refused
      cases refused
    · rw [same] at seen
      exact ⟨fault, opened, shown, seen⟩

end Shell

end CommandShell
