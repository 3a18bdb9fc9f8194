import CommandShell.Toml.Reader

/-!
# Blanks, line ends, strings and keys

The parts of TOML below values. A line ends in a newline, with or without a
carriage return before it; a carriage return on its own stands nowhere.
-/

namespace CommandShell.Toml

open Reader

/-! ## Between the words -/

/-- The space and the tab. -/
def isBlank (c : Char) : Bool :=
  c == ' ' || c == '\t'

/-- The characters of comments and strings: all but the controls, of which only the tab is one. -/
def isPlain (c : Char) : Bool :=
  c == '\t' || (' ' ≤ c && c ≠ '\x7f')

/-- Any blanks. -/
def blanks : Reader Unit :=
  discard (spanning isBlank)

/-- A line end. -/
def newline : Reader Unit :=
  word "\n" <|> word "\r\n"

/-- A comment, up to the line end. -/
def comment : Reader Unit := do
  discard (char '#')
  discard (spanning isPlain)

/-- What may follow on the line of a header or a value. -/
def lineEnd : Reader Unit := do
  blanks
  discard (optional comment)
  newline <|> endOfText

/-- Blanks, line ends and comments, between the items of an array. -/
def gap : Reader Unit :=
  discard (many (discard (satisfy isBlank) <|> newline <|> (comment *> newline)))

/-! ## Strings -/

/-- The value of a hexadecimal digit. -/
def hexValue? (c : Char) : Option Nat :=
  if '0' ≤ c ∧ c ≤ '9' then some (c.toNat - '0'.toNat)
  else if 'a' ≤ c ∧ c ≤ 'f' then some (c.toNat - 'a'.toNat + 10)
  else if 'A' ≤ c ∧ c ≤ 'F' then some (c.toNat - 'A'.toNat + 10)
  else none

/-- A character given by this many hexadecimal digits; they must name a scalar value. -/
def codePoint (digits : Nat) : Reader Char := do
  let values ← (List.replicate digits ()).mapM fun _ => do
    let c ← satisfy fun c => (hexValue? c).isSome
    return (hexValue? c).getD 0
  let value := values.foldl (fun value digit => 16 * value + digit) 0
  ensure (decide value.isValidChar)
  return Char.ofNat value

/-- A character written with a backslash. -/
def escape : Reader Char := do
  discard (char '\\')
  match ← satisfy fun _ => true with
  | 'b' => return '\x08'
  | 'f' => return '\x0c'
  | 'n' => return '\n'
  | 'r' => return '\r'
  | 't' => return '\t'
  | '"' => return '"'
  | '\\' => return '\\'
  | 'u' => codePoint 4
  | 'U' => codePoint 8
  | _ => failure

/-- A string on one line, between double quotes. -/
def basicString : Reader String := do
  discard (char '"')
  let content ← many (satisfy (fun c => isPlain c && c ≠ '"' && c ≠ '\\') <|> escape)
  discard (char '"')
  return String.ofList content

/-- A string on one line, between single quotes, with no escapes. -/
def literalString : Reader String := do
  discard (char '\'')
  let content ← spanning fun c => isPlain c && c ≠ '\''
  discard (char '\'')
  return String.ofList content

/-- A line end that is part of a string is one newline. -/
def brokenLine : Reader (List Char) := do
  newline
  return ['\n']

/-- A backslash at a line's end joins it to the next character that is not blank. -/
def joinedLine : Reader (List Char) := do
  discard (char '\\')
  blanks
  newline
  discard (many (discard (satisfy isBlank) <|> newline))
  return []

/-- One or two quotes inside a string of several lines: another character has to follow. -/
def innerQuotes (quote : Char) : Reader (List Char) := fun text =>
  match text.takeWhile (· == quote), text.dropWhile (· == quote) with
  | [a], rest@(_ :: _) => some ([a], rest)
  | [a, b], rest@(_ :: _) => some ([a, b], rest)
  | _, _ => none

/-- Three closing quotes, with at most two more before them that belong to the string. -/
def closingQuotes (quote : Char) : Reader (List Char) := do
  let quotes ← spanning (· == quote)
  ensure (3 ≤ quotes.length && quotes.length ≤ 5)
  return quotes.drop 3

/-- A string of several lines, whose pieces are read by `piece`; a line end right after the opening
quotes is no part of it. -/
def multiline (quote : Char) (piece : Reader (List Char)) : Reader String := do
  word (String.ofList [quote, quote, quote])
  discard (optional newline)
  let content ← many (piece <|> brokenLine <|> innerQuotes quote)
  let last ← closingQuotes quote
  return String.ofList (content.flatten ++ last)

/-- A string of several lines between double quotes. -/
def multilineBasic : Reader String :=
  multiline '"' <|
    (do return [← satisfy fun c => isPlain c && c ≠ '"' && c ≠ '\\'])
      <|> joinedLine <|> (do return [← escape])

/-- A string of several lines between single quotes. -/
def multilineLiteral : Reader String :=
  multiline '\'' (do return [← satisfy fun c => isPlain c && c ≠ '\''])

/-- Any string. -/
def string : Reader String :=
  multilineBasic <|> basicString <|> multilineLiteral <|> literalString

/-! ## Keys -/

/-- The characters of a key without quotes. -/
def isBare (c : Char) : Bool :=
  c.isAlphanum || c == '_' || c == '-'

/-- A key without quotes. -/
def bareKey : Reader String := do
  let name ← spanning isBare
  ensure (name ≠ [])
  return String.ofList name

/-- One part of a key, with the blanks around it. -/
def keyPart : Reader String := do
  blanks
  let name ← basicString <|> literalString <|> bareKey
  blanks
  return name

/-- How deep a key or a value may go. -/
def depthLimit : Nat := 79

/-- A dotted key: the parts before the last one, and the last one. -/
def key : Reader (List String × String) := do
  let parts ← separated keyPart (char '.')
  ensure (parts.length ≤ depthLimit)
  match parts.getLast? with
  | some last => return (parts.dropLast, last)
  | none => failure

end CommandShell.Toml
