import CommandShell.Toml.Scalar

/-!
# Documents

A document is a list of statements: headers, and assignments to the table of the
last header. `Toml.Entries.ofText?` reads them all and then builds the tables from
them; it answers `none` when the text is no TOML 1.0 document.
-/

namespace CommandShell.Toml

open Reader

/-! ## Values -/

/-- An array; a comma may follow its last item. -/
def array (item : Reader Node) : Reader Node := do
  discard (char '[')
  let items ←
    (separated (gap *> item <* gap) (char ',') <* optional (char ',')) <|> pure []
  gap
  discard (char ']')
  return .array items

/-- A key and its value. -/
def assignment (value : Reader Node) : Reader ((List String × String) × Node) := do
  let path ← key
  discard (char '=')
  blanks
  return (path, ← value)

/-- A table between braces, on one line. -/
def inlineTable (value : Reader Node) : Reader Node := do
  discard (char '\x7b')
  let pairs ← separated (assignment value <* blanks) (char ',') <|> pure []
  blanks
  discard (char '\x7d')
  let entries := pairs.foldlM
    (fun entries ((path, last), value) => Entries.assign path last value .header entries) []
  return .inline (← entries)

/-- A value, with at most this many arrays and tables around a value inside it. -/
def value : Nat → Reader Node
  | 0 => scalar
  | depth + 1 => array (value depth) <|> inlineTable (value depth) <|> scalar

/-! ## Statements -/

/-- One statement of a document. -/
inductive Statement : Type where
  | table (parents : List String) (last : String)
  | tables (parents : List String) (last : String)
  | assign (path : List String) (last : String) (value : Node)

/-- One statement, with the rest of its line. -/
def statement : Reader Statement := do
  let found ←
    (do
      word "[["
      let (parents, last) ← key
      word "]]"
      return Statement.tables parents last)
    <|> (do
      discard (char '[')
      let (parents, last) ← key
      discard (char ']')
      return Statement.table parents last)
    <|> (do
      let ((path, last), found) ← assignment (value depthLimit)
      return Statement.assign path last found)
  lineEnd
  return found

/-- A line with nothing but a comment, if that. -/
def emptyLine : Reader Unit :=
  newline <|> (comment *> (newline <|> endOfText))

/-- All statements of a document. -/
def statements : Reader (List Statement) := do
  discard (optional (char '\ufeff'))
  blanks
  let found ← many ((emptyLine *> blanks *> pure none) <|> (some <$> statement <* blanks))
  endOfText
  return found.filterMap id

/-! ## Building the tables -/

/-- A document under construction: its entries, and the path of the table that is written to. -/
structure Draft : Type where
  entries : Entries := []
  current : List String := []

/-- Add one statement. -/
def Draft.add (draft : Draft) : Statement → Option Draft
  | .table parents last =>
    (Entries.openTable parents last draft.entries).map fun entries =>
      ⟨entries, parents ++ [last]⟩
  | .tables parents last =>
    (Entries.openTables parents last draft.entries).map fun entries =>
      ⟨entries, parents ++ [last]⟩
  | .assign path last value =>
    (Entries.within .implied (Entries.assign path last value) draft.current .header
      draft.entries).map fun entries => { draft with entries }

/-- The entries of the document that a text writes. -/
def Entries.ofText? (text : String) : Option Entries := do
  let (found, _) ← statements text.toList
  let draft ← found.foldlM Draft.add {}
  return draft.entries

end CommandShell.Toml
