import CommandShell.Shell.Execute

/-!
# Demonstration modules

Two modules to try a shell with. `sys` echoes its arguments, tells the time since
the start and names the program; `math` adds and multiplies integers of 64 bits
exactly, or says that the result does not fit.
-/

namespace CommandShell.Demo

/-! ## Integers of 64 bits -/

/-- Whether an integer fits into 64 bits with a sign. -/
def fits (value : Int) : Bool :=
  Int64.minValue.toInt ≤ value && value ≤ Int64.maxValue.toInt

/-- The number that decimal digits write; there must be at least one, and nothing else. -/
def natural? (digits : List Char) : Option Nat :=
  if digits ≠ [] ∧ digits.all Char.isDigit then
    some (digits.foldl (fun value digit => 10 * value + (digit.toNat - '0'.toNat)) 0)
  else none

/-- The integer that a text writes, without regard to its size: decimal digits after at most one
sign. -/
def integer? : List Char → Option Int
  | '+' :: digits => (natural? digits).map Int.ofNat
  | '-' :: digits => (natural? digits).map fun value => -Int.ofNat value
  | digits => (natural? digits).map Int.ofNat

/-- The integer that a text writes, if it fits. -/
def operand? (text : String) : Option Int :=
  (integer? text.toList).filter fits

/-- What is printed for a result. -/
def result (value : Int) : String :=
  if fits value then toString value ++ "\n" else "overflow\n"

/-- A command on two operands; it does not understand anything else. -/
def binary (op : Int → Int → Int) : Handler
  | [_, a, b] =>
    match operand? a, operand? b with
    | some x, some y => ⟨0, result (op x y)⟩
    | _, _ => ⟨-1, ""⟩
  | _ => ⟨-1, ""⟩

/-! ## The modules -/

/-- The commands of `sys`, when this many seconds have passed since the start. -/
def sysCommands (elapsed : Nat) : List Command :=
  [ (Command.mk "echo" (fun args => ⟨0, " ".intercalate (args.drop 1) ++ "\n"⟩) none)
      |>.withSummary "print arguments" |>.withUsage "echo [text...]",
    (Command.mk "uptime" (fun _ => ⟨0, "up " ++ toString elapsed ++ "s\n"⟩) none)
      |>.withSummary "seconds since start",
    Command.mk "version" (fun _ => ⟨0, "modshell 0.1.0\n"⟩) none ]

/-- The commands of `math`. -/
def mathCommands : List Command :=
  [ (Command.mk "add" (binary (· + ·)) none)
      |>.withSummary "add two integers" |>.withUsage "add <a> <b>",
    (Command.mk "mul" (binary (· * ·)) none)
      |>.withSummary "multiply two integers" |>.withUsage "mul <a> <b>" ]

/-- Both modules, when this many seconds have passed since the start. -/
def modules (elapsed : Nat) : List CommandModule :=
  [⟨"sys", sysCommands elapsed⟩, ⟨"math", mathCommands⟩]

/-- Register modules in order, up to the first that there is no room for. -/
def registerAll (shell : Shell) : List CommandModule → Except Fault Unit × Turn
  | [] => (.ok (), ⟨shell, []⟩)
  | owner :: rest =>
    match shell.register owner.name owner.commands with
    | (.ok _, turn) =>
      let (result, after) := registerAll turn.shell rest
      (result, ⟨after.shell, turn.events ++ after.events⟩)
    | (.error fault, turn) => (.error fault, turn)

/-- Register both modules. -/
def register (elapsed : Nat) (shell : Shell) : Except Fault Unit × Turn :=
  registerAll shell (modules elapsed)

/-- A shell of these two modules, when this many seconds have passed since the start. -/
def refresh (elapsed : Nat) (shell : Shell) : Shell :=
  { shell with registry := { shell.registry with modules := modules elapsed } }

end CommandShell.Demo
