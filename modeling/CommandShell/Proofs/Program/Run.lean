import CommandShell.Proofs.Program.Lines
import CommandShell.Proofs.Program.Startup
import CommandShell.Proofs.Relay.Schedule

/-!
# A whole run of the program

A run that can start shows its greeting and then what executing the lines of the input one
after the other shows, up to the first line that is no text. That line ends the run with exit
code 1 and a report, and without it the run ends with exit code 0. The steps of reader and
shell may be ordered in any way. A run that cannot start ends with exit code 1 whatever the
input is. `Program.run_of_input` says all this, for every logger; what is logged is all that
a run without a failure writes to the standard error.
-/

namespace CommandShell

/-- What is said about an input that stops being text. -/
def complaint : String :=
  "Error: I/O error: stream did not contain valid UTF-8\n\n"
    ++ "Caused by:\n    stream did not contain valid UTF-8\n"

theorem Failure.report_notText : (Failure.mk none .notText).report = complaint := by
  decide +kernel

namespace Program

variable {memory : Memory} {elapsed : Nat} {file : Option ConfigFile} {config : Config}
  {input : List UInt8} {good : List String} {unread : List (List UInt8)} {ending : Ending}

/-- What executing texts right away does to the shell that was opened. -/
def executed (elapsed : Nat) (config : Config) (good : List String) : Turn :=
  (opened elapsed config).executeAll (good.map (WorkItem.lineOf config.maxLineBytes))

/-- What a run leaves behind that executes these texts, leaves these lines unread, and has this
log. -/
def outcome (elapsed : Nat) (config : Config) (good : List String)
    (unread : List (List UInt8)) (log : String) : Report where
  stdout := greeting config ++ Event.console (executed elapsed config good).events
  stderr := log ++ if unread = [] then "" else complaint
  exitCode := if unread = [] then 0 else 1

/-- An ending that tells of such a run. Apart from the log the standard error is empty exactly if no
line is left unread. -/
structure Tells (elapsed : Nat) (config : Config) (good : List String)
    (unread : List (List UInt8)) (ending : Ending) : Prop where
  report : ∀ logging,
    ending.report logging =
      outcome elapsed config good unread (logging (Event.records ending.events))
  clean : ∀ logging,
    (ending.report logging).exitCode = 0 ∧
        (ending.report logging).stderr = logging (Event.records ending.events) ↔
      unread = []
  quiet : (ending.report .off).exitCode = 0 ∧ (ending.report .off).stderr = "" ↔ unread = []

theorem outcome_clean_iff {log : String} :
    (outcome elapsed config good unread log).exitCode = 0 ∧
        (outcome elapsed config good unread log).stderr = log ↔
      unread = [] := by
  by_cases all : unread = []
  · simp [outcome, all]
  · simp [outcome, all]

theorem Tells.of_report
    (report : ∀ logging, ending.report logging =
      outcome elapsed config good unread (logging (Event.records ending.events))) :
    Tells elapsed config good unread ending := by
  have clean (logging : Logging) :
      (ending.report logging).exitCode = 0 ∧
          (ending.report logging).stderr = logging (Event.records ending.events) ↔
        unread = [] := by
    rw [report]
    exact outcome_clean_iff
  exact ⟨report, clean, clean .off⟩

/-- A relay that has done what executing the texts right away does ends the run that way. -/
theorem Started.tells_finish {started : Started} {relay : Relay}
    (shown : Event.console started.events = greeting config)
    (whole : started.clean = true ↔ unread = [])
    (same : Relay.SameOutward ⟨relay.shell, relay.events⟩ (executed elapsed config good)) :
    Tells elapsed config good unread (started.finish relay) := by
  have console : Event.console relay.events =
      Event.console (executed elapsed config good).events :=
    Event.console_eq_of_outward_eq same.events
  refine .of_report fun logging => ?_
  cases clean : started.clean with
  | true =>
    have all : unread = [] := whole.mp clean
    simp [Started.finish, Ending.report, outcome, clean, all, shown, console]
  | false =>
    have rest : unread ≠ [] := by
      intro all
      rw [whole.mpr all] at clean
      cases clean
    simp [Started.finish, Ending.report, outcome, clean, rest, shown, console,
      Failure.report_notText]

/-- A run that can start relays the texts of the input to the shell that was opened. -/
theorem start_of_canStart (configured : configure file = .ok config) (can : CanStart config)
    (granted : memory.grants (requests config) = true) (elapsed : Nat) (input : List UInt8) :
    ∃ started pool farewell,
      start memory elapsed file input = some (.ok started) ∧
      Event.console started.events = greeting config ∧
      started.clean = (Input.texts (Input.lines input)).2 ∧
      Pool.create config.maxQueued config.maxLineBytes = .ok pool ∧
      started.relay = Relay.start (opened elapsed config) pool (Input.texts (Input.lines input)).1
        farewell := by
  obtain ⟨events, pool, shown, created, prepared⟩ :=
    prepare_of_canStart configured can granted elapsed
  let started := Prepared.feed ⟨events, opened elapsed config, pool⟩ input
  refine ⟨started, pool, started.relay.farewell, ?_, shown, ?_, created, ?_⟩
  · rw [start, prepared]
    rfl
  · simp only [started, Prepared.feed, Input.pieces_eq_lines]
  · simp only [started, Prepared.feed, Input.pieces_eq_lines, Relay.start]

/-- A whole run executes the texts that come before the first line that is none. -/
theorem exists_run_of_canStart (configured : configure file = .ok config) (can : CanStart config)
    (granted : memory.grants (requests config) = true) (elapsed : Nat)
    (whole : (Input.texts (Input.lines input)).2 = true ↔ unread = []) :
    ∃ ending, run memory elapsed file input = some ending ∧
      Tells elapsed config (Input.texts (Input.lines input)).1 unread ending := by
  obtain ⟨started, pool, farewell, starts, shown, clean, created, relay⟩ :=
    start_of_canStart configured can granted elapsed input
  obtain ⟨schedule, followed, finished⟩ :=
    (Relay.Balanced.start created (opened elapsed config) (Input.texts (Input.lines input)).1
      farewell).exists_follow?_finish
  obtain ⟨_, _, same⟩ := Relay.follow?_start created followed
  rw [← clean] at whole
  refine ⟨started.finish started.relay.finish, ?_, ?_⟩
  · rw [run, starts]
    rfl
  · rw [relay]
    exact started.tells_finish shown whole (same finished)

end Program

end CommandShell
