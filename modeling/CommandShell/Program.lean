import CommandShell.Config.Reading
import CommandShell.Demo
import CommandShell.Input
import CommandShell.Logging
import CommandShell.Relay

/-!
# The program

The program takes its configuration from a file, if one is named, and else the
default one. It registers the demonstration modules, selects the default module if
the configuration has one, and then relays the lines of the input to the shell. It
ends with exit code 1 and a report when it cannot start, or when the input stops being
UTF-8; the lines before that point are executed all the same. Where memory is refused
it does not come to such an end.

`Program.run` reads the whole input and relays it through the pool. `Program.accept`
executes a line by itself, which can be done as soon as the line has come.
-/

namespace CommandShell

/-! ## Failures -/

/-- Why the program ends with a failure: what it was doing, if that is said, and the fault. -/
structure Failure : Type where
  doing : Option String := none
  fault : Fault

namespace Failure

/-- The failure and its causes, outermost first. -/
def chain (failure : Failure) : List String :=
  failure.doing.toList ++ failure.fault.message :: failure.fault.causes

/-- A cause in a report: its first line after a mark, the others below the text of the first. -/
def indented (mark : String) (cause : String) : String :=
  match (cause.toList.splitOn '\n').map String.ofList with
  | [] => mark
  | first :: rest =>
    mark ++ first
      ++ String.join (rest.map fun line => "\n" ++ Text.padRight mark.length "" ++ line)

/-- The causes in a report, a line each; they are numbered when there are several. -/
def causeLines : List String → List String
  | [] => []
  | [cause] => [indented "    " cause]
  | causes => causes.mapIdx fun index cause => indented ("    " ++ toString index ++ ": ") cause

/-- The report of a failure. -/
def report (failure : Failure) : String :=
  match failure.chain with
  | [] => ""
  | head :: causes =>
    "Error: " ++ head ++ "\n" ++
    match causeLines causes with
    | [] => ""
    | lines => "\nCaused by:\n" ++ String.join (lines.map (· ++ "\n"))

end Failure

/-- What a run of the program leaves behind. -/
structure Report : Type where
  stdout : String
  stderr : String
  exitCode : Nat
  deriving DecidableEq

/-- How a run ended: its events, and the failure if there was one. -/
structure Ending : Type where
  events : List Event
  failure : Option Failure

/-- What a run leaves behind under a logger. The log goes to the standard error, and the report of
a failure follows it. -/
def Ending.report (ending : Ending) (logging : Logging) : Report where
  stdout := Event.console ending.events
  stderr := logging (Event.records ending.events)
    ++ (ending.failure.map Failure.report).getD ""
  exitCode := if ending.failure.isSome then 1 else 0

/-! ## The program -/

namespace Program

/-- A file that the configuration is read from: its path, and what reading it gave. -/
structure ConfigFile : Type where
  path : String
  content : Except FileProblem ByteArray

/-- The configuration of a run. -/
def configure : Option ConfigFile → Except Failure Config
  | none => .ok {}
  | some file =>
    (Config.ofFile file.content).mapError fun fault => ⟨some ("loading " ++ file.path), fault⟩

/-- The record of loading a file, which is written once its text is there. -/
def loadRecords : Option ConfigFile → List Event
  | some ⟨path, .ok bytes⟩ =>
    if (String.fromUTF8? bytes).isSome then
      [.logged .info ("Loading shell config from " ++ path)]
    else []
  | _ => []

/-- The record of starting with a configuration. -/
def startRecord (config : Config) : Event :=
  .logged .info ("Starting modshell (" ++ toString config.maxModules ++ " modules max, "
    ++ toString config.maxQueued ++ " line buffers)")

/-- Show the first prompt: that of the default module if there is one. -/
def greet (shell : Shell) : Except Failure Unit × Turn :=
  match shell.config.defaultModule with
  | none => (.ok (), shell.showPrompt)
  | some name =>
    match shell.openWith name with
    | (.ok _, turn) => (.ok (), turn)
    | (.error fault, turn) => (.error ⟨some ("selecting default module " ++ name), fault⟩, turn)

/-- Make a new shell ready for lines, when this many seconds have passed since the start. -/
def install (elapsed : Nat) (shell : Shell) : Except Failure Shell × List Event :=
  match Demo.register elapsed shell with
  | (.error fault, turn) => (.error ⟨none, fault⟩, turn.events)
  | (.ok (), turn) =>
    let (result, greeted) := greet turn.shell
    (result.map fun _ => greeted.shell, turn.events ++ greeted.events)

/-- A shell that is ready for lines, or the failure of making one. -/
def boot (memory : Memory) (elapsed : Nat) (config : Config) :
    Option (Except Failure Shell × List Event) :=
  (Shell.allocate memory config).map fun
    | .error fault => (.error ⟨none, fault⟩, [])
    | .ok shell => install elapsed shell

/-- A program that is ready for its input: the events so far, the shell, and the pool. -/
structure Prepared : Type where
  events : List Event
  shell : Shell
  pool : Pool

/-- Make the pool for a shell that is ready, after these events. -/
def equip (memory : Memory) (config : Config) (events : List Event) (shell : Shell) :
    Option (Except Ending Prepared) :=
  (Pool.allocate (memory.after (Registry.requests config.maxModules)) config.maxQueued
      config.maxLineBytes).map fun
    | .error fault => .error ⟨events, some ⟨none, fault⟩⟩
    | .ok pool =>
      .ok ⟨events ++ Pool.createRecords config.maxQueued config.maxLineBytes, shell, pool⟩

/-- Prepare for the input; a program that cannot has ended. -/
def prepare (memory : Memory) (elapsed : Nat) (file : Option ConfigFile) :
    Option (Except Ending Prepared) :=
  match configure file with
  | .error failure => some (.error ⟨loadRecords file, some failure⟩)
  | .ok config =>
    let before := loadRecords file ++ [startRecord config]
    (boot memory elapsed config).bind fun
      | (.error failure, events) => some (.error ⟨before ++ events, some failure⟩)
      | (.ok shell, events) => equip memory config (before ++ events) shell

/-- A run that has started: the events of the start, the relay of the input's lines, and whether
those are the whole input. -/
structure Started : Type where
  events : List Event
  relay : Relay
  clean : Bool

/-- Relay the lines of the input; the end of an input that is all text is recorded. -/
def Prepared.feed (prepared : Prepared) (input : List UInt8) : Started :=
  let (lines, clean) := Input.texts (Input.pieces input)
  let farewell := if clean then some "end of input" else none
  ⟨prepared.events, Relay.start prepared.shell prepared.pool lines farewell, clean⟩

/-- The ending of a run whose relay has come to this end. -/
def Started.finish (started : Started) (relay : Relay) : Ending where
  events := started.events ++ relay.events
  failure := if started.clean then none else some ⟨none, .notText⟩

/-- Start a run on an input; a run that cannot start has ended. -/
def start (memory : Memory) (elapsed : Nat) (file : Option ConfigFile) (input : List UInt8) :
    Option (Except Ending Started) :=
  (prepare memory elapsed file).map fun result => result.map (·.feed input)

/-- A whole run of the program; there is no ending when memory is refused. -/
def run (memory : Memory) (elapsed : Nat) (file : Option ConfigFile) (input : List UInt8) :
    Option Ending :=
  (start memory elapsed file input).map fun
    | .error ending => ending
    | .ok started => started.finish started.relay.finish

/-! ## Lines as they come -/

/-- Execute one line of the input by itself, when this many seconds have passed since the start. -/
def accept (elapsed : Nat) (shell : Shell) (piece : List UInt8) : Except Failure Turn :=
  match Input.decode? piece with
  | none => .error ⟨none, .notText⟩
  | some line =>
    .ok ((Demo.refresh elapsed shell).execute (WorkItem.lineOf shell.config.maxLineBytes line))

/-- Execute lines of the input one after the other, up to the first failure. -/
def acceptAll (elapsed : Nat) (shell : Shell) : List (List UInt8) → Turn × Option Failure
  | [] => (⟨shell, []⟩, none)
  | piece :: rest =>
    match accept elapsed shell piece with
    | .error failure => (⟨shell, []⟩, some failure)
    | .ok turn =>
      let (later, failure) := acceptAll elapsed turn.shell rest
      (⟨later.shell, turn.events ++ later.events⟩, failure)

/-- The ending of a run without a pool, in which no time passes after the start. -/
def Prepared.serve (elapsed : Nat) (prepared : Prepared) (input : List UInt8) : Ending :=
  let (turn, failure) := acceptAll elapsed prepared.shell (Input.pieces input)
  ⟨prepared.events ++ turn.events, failure⟩

end Program

end CommandShell
