import CommandShell.Program

/-!
# The command line

Runs the program on the standard streams. The configuration file is named by the
first argument, else by the environment, and so is the filter of the log. A line is
executed as soon as it is complete.
-/

namespace CommandShell.Terminal

/-- Read a configuration file. -/
def readFile (path : String) : IO Program.ConfigFile := do
  try
    return ⟨path, .ok (← IO.FS.readBinFile path)⟩
  catch
    | .noFileOrDirectory .. => return ⟨path, .error .notFound⟩
    | .inappropriateType .. => return ⟨path, .error .isDirectory⟩
    | problem => return ⟨path, .error (.other (toString problem))⟩

/-- Write what events print, and their records. -/
def display (logging : Logging) (events : List Event) : IO Unit := do
  IO.eprint (logging (Event.records events))
  let output ← IO.getStdout
  output.putStr (Event.console events)
  output.flush

/-- End with a failure. -/
def fail (failure : Failure) : IO UInt32 := do
  IO.eprint failure.report
  return 1

/-- The bytes up to the next newline, and whether there was one. -/
partial def readPiece (input : IO.FS.Stream) (taken : List UInt8) : IO (List UInt8 × Bool) := do
  match (← input.read 1).data.toList with
  | byte :: _ =>
    if byte = Input.newlineByte then return (taken.reverse, true)
    else readPiece input (byte :: taken)
  | [] => return (taken.reverse, false)

/-- Execute the lines of the input as they come. -/
partial def serve (logging : Logging) (started : Nat) (input : IO.FS.Stream) (shell : Shell) :
    IO UInt32 := do
  let (piece, ended) ← readPiece input []
  if piece.isEmpty && !ended then return 0
  let elapsed := ((← IO.monoMsNow) - started) / 1000
  match Program.accept elapsed shell piece with
  | .error failure => fail failure
  | .ok turn =>
    display logging turn.events
    if ended then serve logging started input turn.shell else return 0

end CommandShell.Terminal

open CommandShell in
/-- Run the program. -/
def main (args : List String) : IO UInt32 := do
  let started ← IO.monoMsNow
  let logging := Logging.ofFilter (← IO.getEnv "RUST_LOG")
  let path ← match args.head? with
    | some path => pure (some path)
    | none => IO.getEnv "MODSHELL_CONFIG"
  let file ← path.mapM Terminal.readFile
  match Program.prepare .ample 0 file with
  | none => return 101
  | some (.error ending) =>
    Terminal.display logging ending.events
    match ending.failure with
    | some failure => Terminal.fail failure
    | none => return 0
  | some (.ok prepared) =>
    Terminal.display logging prepared.events
    Terminal.serve logging started (← IO.getStdin) prepared.shell
