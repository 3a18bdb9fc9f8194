import CommandShell.Proofs.Program.Run
import CommandShell.Proofs.Shell.Frame

/-!
# Lines as they come

`Program.run` reads the whole input before it relays the lines through the pool. A program on
a terminal executes each line by itself as soon as it has come, with `Program.accept`. Lines
that come at once are executed as one after the other (`Program.acceptAll_append`), so both
leave the same behind (`Program.report_serve_eq_report_run`); only the pool and the reader
put something more into the log.
-/

namespace CommandShell

namespace Program

variable {memory : Memory} {elapsed : Nat} {file : Option ConfigFile} {config : Config}
  {shell : Shell} {input piece : List UInt8} {good : List String} {unread : List (List UInt8)}

theorem refresh_of_modules (modules : shell.registry.modules = Demo.modules elapsed) :
    Demo.refresh elapsed shell = shell := by
  rw [Demo.refresh, ← modules]

/-- A line that is text is executed as an item takes it. -/
theorem accept_bytes (modules : shell.registry.modules = Demo.modules elapsed) (text : String) :
    accept elapsed shell (Input.bytes text) =
      .ok (shell.execute (WorkItem.lineOf shell.config.maxLineBytes text)) := by
  rw [accept, Input.decode?_eq_some_iff.mpr rfl, refresh_of_modules modules]

theorem accept_of_not_isText (strange : ¬ Input.IsText piece) :
    accept elapsed shell piece = .error ⟨none, .notText⟩ := by
  rw [accept, Input.decode?_eq_none_iff.mpr strange]

/-- Lines are executed up to the first one that is no text. -/
theorem acceptAll_append (stops : ∀ piece, unread.head? = some piece → ¬ Input.IsText piece)
    (modules : shell.registry.modules = Demo.modules elapsed) :
    acceptAll elapsed shell (good.map Input.bytes ++ unread) =
      (shell.executeAll (good.map (WorkItem.lineOf shell.config.maxLineBytes)),
        if unread = [] then none else some ⟨none, .notText⟩) := by
  induction good generalizing shell with
  | nil =>
    cases unread with
    | nil => rfl
    | cons piece rest =>
      simp only [List.map_nil, List.nil_append, acceptAll, accept_of_not_isText (stops piece rfl)]
      rfl
  | cons text rest ih =>
    -- A line changes neither the modules nor the capacity of an item.
    have kept := Shell.kept_execute shell (WorkItem.lineOf shell.config.maxLineBytes text)
    have later := ih (by rwa [kept.registry_eq])
    rw [kept.config_eq] at later
    simp only [List.map_cons, List.cons_append, acceptAll, accept_bytes modules, later]
    rfl

/-- Executing the lines by themselves leaves behind what a whole run does, apart from the log. -/
theorem report_serve_eq_report_run (configured : configure file = .ok config)
    (can : CanStart config) (granted : memory.grants (requests config) = true) (elapsed : Nat)
    (input : List UInt8) :
    ∃ prepared ending, prepare memory elapsed file = some (.ok prepared) ∧
      run memory elapsed file input = some ending ∧
      (prepared.serve elapsed input).report .off = ending.report .off := by
  obtain ⟨unread, split, stops, whole⟩ := Input.exists_texts (Input.lines input)
  obtain ⟨events, pool, shown, -, prepared⟩ := prepare_of_canStart configured can granted elapsed
  obtain ⟨ending, ran, told⟩ := exists_run_of_canStart configured can granted elapsed whole
  generalize (Input.texts (Input.lines input)).1 = good at split told
  refine ⟨_, ending, prepared, ran, ?_⟩
  have modules : (opened elapsed config).registry.modules = Demo.modules elapsed := rfl
  have served : acceptAll elapsed (opened elapsed config) (Input.pieces input) =
      (executed elapsed config good, if unread = [] then none else some ⟨none, .notText⟩) := by
    rw [Input.pieces_eq_lines, split]
    exact acceptAll_append stops modules
  rw [told.report, Prepared.serve]
  simp only [served]
  by_cases all : unread = []
  · simp only [Ending.report, outcome, all, if_true, Event.console_append, shown, executed]
    rfl
  · simp only [Ending.report, outcome, if_neg all, Event.console_append, shown, executed,
      Option.map_some, Failure.report_notText]
    rfl

end Program

end CommandShell
