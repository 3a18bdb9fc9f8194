import CommandShell.Fault
import CommandShell.Text.Cut

/-!
# Arguments of a line

A line is cut into arguments at blanks, and only at the character U+0020: other
white space belongs to an argument. Each argument keeps the byte position at
which it starts, so that the line can be read back around it. A line with more
arguments than its limit is refused as a whole.
-/

namespace CommandShell

/-- A maximal run of characters other than the blank, with the byte position of its first one. -/
structure Argument : Type where
  start : Nat
  text : String
  deriving DecidableEq

/-- The arguments of a text whose first character stands at byte position `start`. -/
def Argument.scan (start : Nat) (text : List Char) : List Argument :=
  match text with
  | [] => []
  | c :: rest =>
    if c = ' ' then
      scan (start + c.utf8Size) rest
    else
      let word := c :: rest.takeWhile (· != ' ')
      ⟨start, String.ofList word⟩ ::
        scan (start + Text.byteLength word) (rest.dropWhile (· != ' '))
termination_by text.length
decreasing_by
  · simp
  · have := (List.dropWhile_sublist (l := rest) (· != ' ')).length_le
    simp only [List.length_cons]
    omega

/-- The arguments of one line, in order. -/
structure Arguments : Type where
  items : List Argument
  deriving DecidableEq

namespace Arguments

/-- The arguments of a line, if there are at most `limit`. -/
def ofLine (limit : Nat) (line : String) : Except Fault Arguments :=
  let items := Argument.scan 0 line.toList
  if items.length ≤ limit then .ok ⟨items⟩ else .error (.tooManyArguments limit)

/-- The texts of the arguments. -/
def texts (arguments : Arguments) : List String :=
  arguments.items.map Argument.text

/-- The byte positions at which the arguments start. -/
def starts (arguments : Arguments) : List Nat :=
  arguments.items.map Argument.start

/-- The number of arguments. -/
def size (arguments : Arguments) : Nat :=
  arguments.items.length

/-- The argument at an index. -/
def get? (arguments : Arguments) (index : Nat) : Option String :=
  arguments.texts[index]?

/-- The arguments from an index on; none when the index is past the end. -/
def drop (arguments : Arguments) (index : Nat) : List String :=
  arguments.texts.drop index

/-- The arguments followed by one end mark. -/
def terminated (arguments : Arguments) : List (Option String) :=
  arguments.texts.map some ++ [none]

end Arguments

end CommandShell
