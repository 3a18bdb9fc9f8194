/-!
# Lines of the input

The input is a sequence of bytes. A newline ends a line, and so does the end of the
input when bytes stand before it. Lines are read up to the first one that is not
UTF-8.
-/

namespace CommandShell.Input

/-- The byte of a newline. -/
def newlineByte : UInt8 := 10

/-- The lines of the input, without their newlines. -/
def pieces : List UInt8 → List (List UInt8)
  | [] => []
  | byte :: rest =>
    if byte = newlineByte then [] :: pieces rest
    else
      match pieces rest with
      | [] => [[byte]]
      | line :: more => (byte :: line) :: more

/-- The text that bytes write in UTF-8. -/
def decode? (bytes : List UInt8) : Option String :=
  String.fromUTF8? ⟨bytes.toArray⟩

/-- The lines before the first one that is not UTF-8, and whether that is all of them. -/
def texts : List (List UInt8) → List String × Bool
  | [] => ([], true)
  | piece :: rest =>
    match decode? piece with
    | none => ([], false)
    | some line => (line :: (texts rest).1, (texts rest).2)

end CommandShell.Input
