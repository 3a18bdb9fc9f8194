import CommandShell.Event

/-!
# Logging

Log records are written by a logger that is not part of the shell: it decides which
records it writes, and how. A `Logging` is what it writes for the records of a run.
-/

namespace CommandShell

/-- The name of a level. -/
def Level.name : Level → String
  | .debug => "DEBUG"
  | .info => "INFO"
  | .warn => "WARN"

/-- The levels in order. -/
def Level.rank : Level → Nat
  | .debug => 0
  | .info => 1
  | .warn => 2

/-- What a logger writes for log records. -/
abbrev Logging : Type := List (Level × String) → String

namespace Logging

/-- Nothing is written. -/
def off : Logging := fun _ => ""

/-- The records from a level on are written, a line each. -/
def atLeast (least : Level) : Logging := fun records =>
  String.join ((records.filter fun record => least.rank ≤ record.1.rank).map fun record =>
    record.1.name ++ " " ++ record.2 ++ "\n")

/-- The logging of a filter, which names a level or turns logging off; without one the records from
`info` on are written. -/
def ofFilter : Option String → Logging
  | some "off" | some "error" => off
  | some "warn" => atLeast .warn
  | some "debug" | some "trace" => atLeast .debug
  | _ => atLeast .info

end Logging

end CommandShell
