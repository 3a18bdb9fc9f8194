import CommandShell.Event
import CommandShell.Text.Cut

/-!
# Work items

A work item is one reusable line buffer. It keeps its number and its capacity in
bytes for life; `fill` replaces its line, and `clear` empties it.
-/

namespace CommandShell

/-- A line buffer: its number in the pool, its line, and how many bytes a line may have. -/
structure WorkItem : Type where
  id : Nat
  line : String
  capacity : Nat
  deriving DecidableEq

namespace WorkItem

/-- A buffer with no line in it. -/
def empty (capacity id : Nat) : WorkItem :=
  ⟨id, "", capacity⟩

/-- The line that a buffer of a capacity makes of a text: without its trailing line ends, and cut
to the capacity. -/
def lineOf (capacity : Nat) (text : String) : String :=
  String.ofList (Text.cut capacity (Text.dropLineEnds text.toList))

/-- Take a text as the line, whatever the line was before. -/
def fill (item : WorkItem) (text : String) : WorkItem :=
  { item with line := lineOf item.capacity text }

/-- Whether a text loses characters, other than line ends, when it is filled in. -/
def cuts (item : WorkItem) (text : String) : Bool :=
  let body := Text.dropLineEnds text.toList
  Text.cutPosition item.capacity body < Text.byteLength body

/-- The records of filling a text in: a warning when it is cut. -/
def fillRecords (item : WorkItem) (text : String) : List Event :=
  if item.cuts text then
    [.logged .warn ("line truncated to " ++ toString item.capacity ++ " bytes")]
  else []

theorem outward_fillRecords (item : WorkItem) (text : String) :
    Event.outward (item.fillRecords text) = [] := by
  unfold fillRecords
  split <;> rfl

/-- Take the line out. -/
def clear (item : WorkItem) : WorkItem :=
  { item with line := "" }

/-! ## What the operations leave alone -/

-- `rfl` would compare the items first and open `lineOf`; `simp only` projects at once.

@[simp] theorem id_empty (capacity id : Nat) : (empty capacity id).id = id := rfl

@[simp] theorem capacity_empty (capacity id : Nat) : (empty capacity id).capacity = capacity := rfl

@[simp] theorem id_fill (item : WorkItem) (text : String) : (item.fill text).id = item.id := by
  simp only [fill]

@[simp] theorem capacity_fill (item : WorkItem) (text : String) :
    (item.fill text).capacity = item.capacity := by
  simp only [fill]

@[simp] theorem line_fill (item : WorkItem) (text : String) :
    (item.fill text).line = lineOf item.capacity text := by
  simp only [fill]

@[simp] theorem id_clear (item : WorkItem) : item.clear.id = item.id := rfl

@[simp] theorem capacity_clear (item : WorkItem) : item.clear.capacity = item.capacity := rfl

@[simp] theorem line_clear (item : WorkItem) : item.clear.line = "" := rfl

end WorkItem

end CommandShell
