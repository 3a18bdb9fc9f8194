/-!
# Cutting text to a number of bytes

Text is measured in bytes of UTF-8 and cut between characters. `floorBoundary`
goes down from a byte position to the nearest one that lies between two
characters; `takeBytes?` takes the text before a position and answers `none` when
the position is inside a character or past the end. `cut` joins the two and is
total: the position that it asks for is always a boundary.
-/

namespace CommandShell.Text

/-- The number of bytes of a text in UTF-8. -/
def byteLength : List Char → Nat
  | [] => 0
  | c :: rest => c.utf8Size + byteLength rest

@[simp] theorem byteLength_nil : byteLength [] = 0 := rfl

@[simp] theorem byteLength_cons (c : Char) (rest : List Char) :
    byteLength (c :: rest) = c.utf8Size + byteLength rest := rfl

@[simp] theorem byteLength_append (a b : List Char) :
    byteLength (a ++ b) = byteLength a + byteLength b := by
  induction a with
  | nil => simp
  | cons c rest ih => simp [ih, Nat.add_assoc]

/-- Whether a byte position lies between two characters, or at an end. -/
def isBoundary : List Char → Nat → Bool
  | _, 0 => true
  | [], _ + 1 => false
  | c :: rest, position => c.utf8Size ≤ position && isBoundary rest (position - c.utf8Size)

/-- The nearest boundary at or below a position. -/
def floorBoundary (text : List Char) : Nat → Nat
  | 0 => 0
  | position + 1 =>
    if isBoundary text (position + 1) then position + 1 else floorBoundary text position

/-- The text before a byte position, if that position is a boundary. -/
def takeBytes? : List Char → Nat → Option (List Char)
  | _, 0 => some []
  | [], _ + 1 => none
  | c :: rest, position =>
    if c.utf8Size ≤ position then (takeBytes? rest (position - c.utf8Size)).map (c :: ·) else none

/-- Where a text has to end so that it has at most `limit` bytes. -/
def cutPosition (limit : Nat) (text : List Char) : Nat :=
  floorBoundary text (min (byteLength text) limit)

/-- The longest beginning of a text that ends between characters and has at most `limit` bytes. -/
def cut (limit : Nat) (text : List Char) : List Char :=
  (takeBytes? text (cutPosition limit text)).getD []

/-- Line ends are the newline and the carriage return. -/
def isLineEnd (c : Char) : Bool :=
  c == '\n' || c == '\r'

/-- A text without its trailing run of line ends. -/
def dropLineEnds (text : List Char) : List Char :=
  (text.reverse.dropWhile isLineEnd).reverse

/-- A text filled up with blanks on the right to a width in characters; a longer one stays as it
is. -/
def padRight (width : Nat) (text : String) : String :=
  text ++ String.ofList (List.replicate (width - text.length) ' ')

end CommandShell.Text
