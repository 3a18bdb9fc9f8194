/-!
# Readers

A reader takes a beginning off a text and gives a value, or refuses. Of two
readers joined by `<|>` the second one starts where the first one did.
-/

namespace CommandShell.Toml

/-- Takes a beginning off a text, or refuses. -/
abbrev Reader : Type → Type := StateT (List Char) Option

namespace Reader

variable {α β : Type}

/-- One character of a class. -/
def satisfy (accepts : Char → Bool) : Reader Char
  | c :: rest => if accepts c then some (c, rest) else none
  | [] => none

/-- A given character. -/
def char (c : Char) : Reader Char :=
  satisfy (· == c)

/-- Given characters, one after the other. -/
def word (text : String) : Reader Unit :=
  text.toList.forM fun c => discard (char c)

/-- All characters of a class that come next. -/
def spanning (accepts : Char → Bool) : Reader (List Char) := fun text =>
  some (text.takeWhile accepts, text.dropWhile accepts)

/-- The end of the text. -/
def endOfText : Reader Unit
  | [] => some ((), [])
  | _ :: _ => none

/-- Check a value that was read. -/
def ensure (condition : Bool) : Reader Unit :=
  if condition then pure () else failure

/-- Read on until the reader refuses, at most a number of times. -/
def repeated (reader : Reader α) : Nat → List α → Reader (List α)
  | 0, taken, text => some (taken.reverse, text)
  | steps + 1, taken, text =>
    match reader text with
    | some (value, rest) => repeated reader steps (value :: taken) rest
    | none => some (taken.reverse, text)

/-- Read on until the reader refuses. Each time takes a character, so the text's length bounds how
often it reads. -/
def many (reader : Reader α) : Reader (List α) := fun text =>
  repeated reader text.length [] text

/-- At least one item, and a separator between two; a separator that no item follows is left. -/
def separated (item : Reader α) (separator : Reader β) : Reader (List α) := do
  let first ← item
  let rest ← many (separator *> item)
  return first :: rest

end Reader

end CommandShell.Toml
