/-!
# Events

What the shell does to the world outside, in order: it prints text, calls a
handler, asks the prompt hook, and writes log records. An operation answers with
the list of its events. `Event.console`, `Event.calls`, `Event.answers` and
`Event.records` each keep one kind, `Event.outward` keeps all but the records, and
each turns `++` into `++`.
-/

namespace CommandShell

/-- How much a log record matters. -/
inductive Level : Type where
  | debug
  | info
  | warn
  deriving DecidableEq

/-- Who is called: a command, by the positions of its module and of itself, or the fallback
handler. -/
inductive Callee : Type where
  | command (owner index : Nat)
  | fallback
  deriving DecidableEq

/-- One thing that the outside world sees. -/
inductive Event : Type where
  /-- Text on the console. -/
  | printed (text : String)
  /-- A handler starts with these arguments; what it prints follows. -/
  | called (callee : Callee) (arguments : List String)
  /-- The prompt hook was asked and gave this answer. -/
  | asked (answer : Option String)
  /-- A log record. -/
  | logged (level : Level) (text : String)
  deriving DecidableEq

namespace Event

/-- Print a text and a line end. -/
def line (text : String) : Event := .printed (text ++ "\n")

/-- The pieces of text that reach the console. -/
def texts (events : List Event) : List String :=
  events.filterMap fun
    | .printed text => some text
    | _ => none

/-- All text that reaches the console. -/
def console (events : List Event) : String :=
  String.join (texts events)

/-- The handler calls. -/
def calls (events : List Event) : List (Callee × List String) :=
  events.filterMap fun
    | .called callee arguments => some (callee, arguments)
    | _ => none

/-- The answers of the prompt hook, one for each time it is asked. -/
def answers (events : List Event) : List (Option String) :=
  events.filterMap fun
    | .asked answer => some answer
    | _ => none

/-- The log records. -/
def records (events : List Event) : List (Level × String) :=
  events.filterMap fun
    | .logged level text => some (level, text)
    | _ => none

/-- The events other than log records. -/
def outward (events : List Event) : List Event :=
  events.filter fun
    | .logged .. => false
    | _ => true

@[simp] theorem texts_append (a b : List Event) : texts (a ++ b) = texts a ++ texts b :=
  List.filterMap_append ..

@[simp] theorem calls_append (a b : List Event) : calls (a ++ b) = calls a ++ calls b :=
  List.filterMap_append ..

@[simp] theorem records_append (a b : List Event) : records (a ++ b) = records a ++ records b :=
  List.filterMap_append ..

@[simp] theorem console_append (a b : List Event) : console (a ++ b) = console a ++ console b := by
  simp [console, String.join_append]

@[simp] theorem outward_append (a b : List Event) : outward (a ++ b) = outward a ++ outward b :=
  List.filter_append ..

@[simp] theorem console_nil : console [] = "" := rfl

@[simp] theorem console_cons_printed (text : String) (rest : List Event) :
    console (.printed text :: rest) = text ++ console rest :=
  String.join_cons

@[simp] theorem console_cons_line (text : String) (rest : List Event) :
    console (.line text :: rest) = text ++ "\n" ++ console rest :=
  String.join_cons

@[simp] theorem console_cons_called (callee : Callee) (arguments : List String)
    (rest : List Event) : console (.called callee arguments :: rest) = console rest := rfl

@[simp] theorem console_cons_asked (answer : Option String) (rest : List Event) :
    console (.asked answer :: rest) = console rest := rfl

@[simp] theorem console_cons_logged (level : Level) (text : String) (rest : List Event) :
    console (.logged level text :: rest) = console rest := rfl

theorem console_line (text : String) : console [.line text] = text ++ "\n" := by
  rw [console_cons_line, console_nil, String.append_empty]

@[simp] theorem console_outward (events : List Event) :
    console (outward events) = console events := by
  unfold console texts outward
  rw [List.filterMap_filter]
  congr 2
  funext event
  cases event <;> rfl

@[simp] theorem calls_outward (events : List Event) : calls (outward events) = calls events := by
  unfold calls outward
  rw [List.filterMap_filter]
  congr 1
  funext event
  cases event <;> rfl

/-- Events that differ in log records at most print the same. -/
theorem console_eq_of_outward_eq {a b : List Event} (same : outward a = outward b) :
    console a = console b := by
  rw [← console_outward, same, console_outward]

/-- Events that differ in log records at most have the same calls. -/
theorem calls_eq_of_outward_eq {a b : List Event} (same : outward a = outward b) :
    calls a = calls b := by
  rw [← calls_outward, same, calls_outward]

end Event

end CommandShell
