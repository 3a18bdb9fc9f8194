import CommandShell.WorkItem

/-!
# Lines that fit their buffer

A text is cut at a boundary at or below the limit, so what is left has at most as many
bytes as the limit says (`Text.byteLength_cut_le`). `WorkItem.Fits` says that a work item
has the capacity of its pool and a line of at most that many bytes; filling and clearing
an item keep it.
-/

namespace CommandShell

namespace Text

theorem utf8ByteSize_ofList (text : List Char) :
    (String.ofList text).utf8ByteSize = byteLength text := by
  induction text with
  | nil => rfl
  | cons c rest ih =>
    rw [String.ofList_cons, String.utf8ByteSize_append, ih]
    simp

theorem floorBoundary_le (text : List Char) (position : Nat) :
    floorBoundary text position ≤ position := by
  induction position with
  | zero => exact Nat.le_refl 0
  | succ position ih =>
    rw [floorBoundary]
    split
    · exact Nat.le_refl _
    · exact Nat.le_succ_of_le ih

/-- The text before a byte position has as many bytes as the position says. -/
theorem byteLength_of_takeBytes? {text taken : List Char} {position : Nat}
    (took : takeBytes? text position = some taken) : byteLength taken = position := by
  fun_induction takeBytes? text position generalizing taken with
  | case1 =>
    cases took
    rfl
  | case2 => cases took
  | case3 c rest position _ fits ih =>
    obtain ⟨behind, inside, rfl⟩ := Option.map_eq_some_iff.mp took
    rw [byteLength_cons, ih inside]
    omega
  | case4 => cases took

theorem isBoundary_floorBoundary (text : List Char) (position : Nat) :
    isBoundary text (floorBoundary text position) = true := by
  induction position with
  | zero => simp [floorBoundary, isBoundary]
  | succ position ih =>
    rw [floorBoundary]
    split
    · next boundary => exact boundary
    · exact ih

/-- The text before a boundary can be taken. -/
theorem exists_takeBytes?_of_isBoundary {text : List Char} {position : Nat}
    (boundary : isBoundary text position = true) :
    ∃ taken, takeBytes? text position = some taken := by
  fun_induction takeBytes? text position with
  | case1 => exact ⟨[], rfl⟩
  | case2 => simp [isBoundary] at boundary
  | case3 c rest position _ fits ih =>
    have behind : isBoundary rest (position - c.utf8Size) = true := by
      rw [isBoundary] at boundary
      · simpa [fits] using boundary
      · assumption
    obtain ⟨taken, took⟩ := ih behind
    exact ⟨c :: taken, by rw [took]; rfl⟩
  | case4 c rest position _ short =>
    rw [isBoundary] at boundary
    · simp [short] at boundary
    · assumption

/-- A text can be taken up to where it has to end. -/
theorem exists_takeBytes?_cutPosition (limit : Nat) (text : List Char) :
    ∃ taken, takeBytes? text (cutPosition limit text) = some taken :=
  exists_takeBytes?_of_isBoundary (isBoundary_floorBoundary _ _)

theorem byteLength_cut_le (limit : Nat) (text : List Char) :
    byteLength (cut limit text) ≤ limit := by
  have below : cutPosition limit text ≤ limit :=
    Nat.le_trans (floorBoundary_le _ _) (Nat.min_le_right _ _)
  unfold cut
  cases took : takeBytes? text (cutPosition limit text) with
  | none => exact Nat.zero_le limit
  | some taken =>
    rw [Option.getD_some, byteLength_of_takeBytes? took]
    exact below

end Text

namespace WorkItem

theorem utf8ByteSize_lineOf_le (capacity : Nat) (text : String) :
    (lineOf capacity text).utf8ByteSize ≤ capacity := by
  rw [lineOf, Text.utf8ByteSize_ofList]
  exact Text.byteLength_cut_le _ _

/-- A buffer of a capacity whose line has at most so many bytes. -/
structure Fits (capacity : Nat) (item : WorkItem) : Prop where
  capacity_eq : item.capacity = capacity
  size_le : item.line.utf8ByteSize ≤ capacity

variable {capacity : Nat} {item : WorkItem}

theorem fits_empty (capacity id : Nat) : Fits capacity (empty capacity id) :=
  ⟨rfl, Nat.zero_le capacity⟩

/-- Whatever the line was before, the new one fits. -/
theorem Fits.fill (fits : Fits capacity item) (text : String) : Fits capacity (item.fill text) := by
  refine ⟨by rw [capacity_fill, fits.capacity_eq], ?_⟩
  rw [line_fill, fits.capacity_eq]
  exact utf8ByteSize_lineOf_le capacity text

theorem Fits.clear (fits : Fits capacity item) : Fits capacity item.clear :=
  ⟨fits.capacity_eq, Nat.zero_le capacity⟩

end WorkItem

end CommandShell
