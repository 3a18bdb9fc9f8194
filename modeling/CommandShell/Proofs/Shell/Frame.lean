import CommandShell.Proofs.Shell.Line

/-!
# What a line leaves alone

A line may change the selection and nothing else, the count of questions to the prompt
hook apart (`Shell.kept_execute`), and it changes the selection only by the built-in
`select`. `Shell.setting?` says what the words of a line set it to, from the
configuration and the registry alone. So after any lines the selection is what the last
line set that set it at all, and all lines but those of `select` may be left out
(`Shell.selection_after_lines`).
-/

namespace CommandShell

namespace Shell

open Arguments (words pieces)

/-! ## Settings -/

/-- What words set the selection to, if they select a module or clear the selection. -/
def setting? (config : Config) (registry : Registry) (words : List String) : Option Selection :=
  if words.head? = some "select" ∧ words.length ≤ config.maxArgs then
    match words.tail with
    | [] => some ⟨none, ""⟩
    | name :: _ =>
      if name.length ≤ config.maxNameLength then
        (registry.find? config.extent name).map fun index => ⟨some index, name ++ "> "⟩
      else none
  else none

variable {shell : Shell} {line name : String} {rest lines : List String} {config : Config}
  {registry : Registry}

theorem setting?_of_other {words : List String} (other : words.head? ≠ some "select") :
    setting? config registry words = none :=
  if_neg fun selects => other selects.1

theorem setting?_of_many {words : List String} (many : config.maxArgs < words.length) :
    setting? config registry words = none :=
  if_neg fun selects => Nat.not_le_of_lt many selects.2

theorem setting?_of_lone (few : 1 ≤ config.maxArgs) :
    setting? config registry ["select"] = some .cleared :=
  if_pos ⟨rfl, few⟩

/-- A name behind `select` sets what it selects, and nothing when it selects nothing. -/
theorem setting?_of_name (few : rest.length + 2 ≤ shell.config.maxArgs) :
    setting? shell.config shell.registry ("select" :: name :: rest) =
      (shell.choose name).toOption.map (Selection.ofName · name) := by
  have selects : ("select" :: name :: rest).head? = some "select" ∧
      ("select" :: name :: rest).length ≤ shell.config.maxArgs := ⟨rfl, few⟩
  rw [setting?, if_pos selects, choose, Selection.choose]
  by_cases short : name.length ≤ shell.config.maxNameLength
  · rw [if_neg (Nat.not_lt_of_le short)]
    simp only [List.tail_cons, if_pos short]
    cases shell.registry.find? shell.config.extent name <;> rfl
  · rw [if_pos (Nat.lt_of_not_le short)]
    simp only [List.tail_cons, if_neg short]
    rfl

/-! ## One line -/

/-- Before the prompt a line does nothing to the shell but what its words set. -/
theorem shell_body_eq (shell : Shell) (line : String) :
    (shell.body line).shell =
      { shell with selection :=
          (setting? shell.config shell.registry (words line)).getD shell.selection } := by
  rcases Nat.lt_or_ge shell.config.maxArgs (words line).length with many | few
  · rw [body_of_many many, setting?_of_many many]
    rfl
  · cases read : words line with
    | nil =>
      rw [body_of_no_words read, setting?_of_other (by simp)]
      rfl
    | cons first rest =>
      rw [read] at few
      rw [body_of_words read few]
      by_cases select : first = "select"
      · subst select
        rw [dispatch_select]
        cases rest with
        | nil =>
          rw [setting?_of_lone few]
          rfl
        | cons name others =>
          rw [setting?_of_name few]
          cases choice : shell.choose name with
          | ok index =>
            rw [selectBuiltin_of_choose_eq_ok choice]
            rfl
          | error fault =>
            rw [selectBuiltin_of_choose_eq_error choice]
            rfl
      · have other : (first :: rest).head? ≠ some "select" := by simpa using select
        rw [shell_dispatch select, setting?_of_other other]
        rfl

/-- A line sets the selection, if it does, and the prompt hook has been asked once more. -/
theorem shell_execute_eq (shell : Shell) (line : String) :
    (shell.execute line).shell =
      { shell with
        selection := (setting? shell.config shell.registry (words line)).getD shell.selection
        promptHook := shell.promptHook.map PromptHook.next } := by
  rw [execute, Turn.shell_andThen, shell_showPrompt, shell_body_eq]

/-- What no line changes: the configuration, the registry, and which hooks are installed. -/
structure Kept (before after : Shell) : Prop where
  config_eq : after.config = before.config
  registry_eq : after.registry = before.registry
  fallback_eq : after.fallback = before.fallback
  promptHook_eq :
    after.promptHook.map PromptHook.answers = before.promptHook.map PromptHook.answers

theorem Kept.refl (shell : Shell) : Kept shell shell :=
  ⟨rfl, rfl, rfl, rfl⟩

theorem Kept.trans {first middle last : Shell} (a : Kept first middle) (b : Kept middle last) :
    Kept first last :=
  ⟨b.config_eq.trans a.config_eq, b.registry_eq.trans a.registry_eq,
    b.fallback_eq.trans a.fallback_eq, b.promptHook_eq.trans a.promptHook_eq⟩

theorem kept_execute (shell : Shell) (line : String) : Kept shell (shell.execute line).shell := by
  rw [shell_execute_eq]
  refine ⟨rfl, rfl, rfl, ?_⟩
  cases shell.promptHook <;> rfl

theorem selection_execute (shell : Shell) (line : String) :
    (shell.execute line).shell.selection =
      (setting? shell.config shell.registry (words line)).getD shell.selection := by
  rw [shell_execute_eq]

/-! ## Many lines -/

theorem kept_executeAll (shell : Shell) (lines : List String) :
    Kept shell (shell.executeAll lines).shell := by
  induction lines generalizing shell with
  | nil => exact .refl shell
  | cons line rest ih => exact (kept_execute shell line).trans (ih _)

/-- The last setting is the one that counts. -/
theorem selection_executeAll (shell : Shell) (lines : List String) :
    (shell.executeAll lines).shell.selection =
      ((lines.filterMap fun line =>
        setting? shell.config shell.registry (words line)).getLast?).getD shell.selection := by
  induction lines generalizing shell with
  | nil => rfl
  | cons line rest ih =>
    have kept := kept_execute shell line
    have later := ih (shell.execute line).shell
    rw [kept.config_eq, kept.registry_eq, selection_execute] at later
    rw [executeAll, Turn.shell_andThen, later]
    cases set : setting? shell.config shell.registry (words line) with
    | none => simp only [List.filterMap_cons, set, Option.getD_none]
    | some selection =>
      simp only [List.filterMap_cons, set, List.getLast?_cons, Option.getD_some]

/-- Lines change nothing but the selection, and a line this only to what its words set. After any
lines the selection is what the last of them set that set it, whatever was selected before, and the
lines that are no `select` make no difference to it. -/
theorem selection_after_lines (shell : Shell) (line : String) (lines : List String) :
    let set? := fun line => setting? shell.config shell.registry (pieces line)
    Kept shell (shell.execute line).shell ∧
    (shell.execute line).shell.selection = (set? line).getD shell.selection ∧
    Kept shell (shell.executeAll lines).shell ∧
    (shell.executeAll lines).shell.selection =
      ((lines.filterMap set?).getLast?).getD shell.selection ∧
    (∀ other, (∃ line ∈ lines, (set? line).isSome) →
      (({ shell with selection := other } : Shell).executeAll lines).shell.selection =
        (shell.executeAll lines).shell.selection) ∧
    let selects := fun line => (pieces line).head? = some "select"
    (shell.executeAll (lines.filter selects)).shell.selection =
      (shell.executeAll lines).shell.selection := by
  intro set?
  have last (shell' : Shell)
      (same : shell'.config = shell.config ∧ shell'.registry = shell.registry)
      (lines : List String) :
      (shell'.executeAll lines).shell.selection =
        ((lines.filterMap set?).getLast?).getD shell'.selection := by
    rw [selection_executeAll, same.1, same.2]
    simp only [Arguments.words_eq_pieces]
    rfl
  refine ⟨kept_execute shell line, ?_, kept_executeAll shell lines, last shell ⟨rfl, rfl⟩ lines,
    ?_, ?_⟩
  · rw [selection_execute, Arguments.words_eq_pieces]
  · rintro other ⟨setter, member, sets⟩
    obtain ⟨selection, sets⟩ := Option.isSome_iff_exists.mp sets
    have there : selection ∈ lines.filterMap set? := List.mem_filterMap.mpr ⟨setter, member, sets⟩
    rw [last { shell with selection := other } ⟨rfl, rfl⟩, last shell ⟨rfl, rfl⟩,
      List.getLast?_eq_some_getLast (List.ne_nil_of_mem there), Option.getD_some, Option.getD_some]
  · intro selects
    have same : (fun line => if decide (selects line) then set? line else none) = set? := by
      funext line
      by_cases select : selects line
      · rw [if_pos (by simpa using select)]
      · rw [if_neg (by simpa using select)]
        exact (setting?_of_other select).symm
    rw [last shell ⟨rfl, rfl⟩, last shell ⟨rfl, rfl⟩, List.filterMap_filter, same]

end Shell

end CommandShell
