import CommandShell.Input

/-!
# The lines of the input and their texts

`Input.lines` cuts the input at every newline, and drops what stands behind the last one
when that is nothing; `Input.pieces` reads the same lines byte by byte. A line is text when
it is what some string is in UTF-8, and `Input.texts` answers with the lines up to the first
that is none.
-/

namespace CommandShell.Input

/-- The input between its newlines, without an empty rest behind the last one. -/
def lines (input : List UInt8) : List (List UInt8) :=
  let parts := input.splitOn newlineByte
  if parts.getLast? = some [] then parts.dropLast else parts

/-- The bytes of a text in UTF-8. -/
def bytes (text : String) : List UInt8 :=
  text.toUTF8.data.toList

/-- Whether bytes are a text in UTF-8. -/
def IsText (piece : List UInt8) : Prop :=
  ∃ text, bytes text = piece

variable {input piece : List UInt8} {text : String}

/-! ## Lines -/

theorem lines_newline (rest : List UInt8) : lines (newlineByte :: rest) = [] :: lines rest := by
  obtain ⟨part, parts, split⟩ := List.exists_cons_of_ne_nil (List.splitOn_ne_nil newlineByte rest)
  have cut : (newlineByte :: rest).splitOn newlineByte = [] :: part :: parts := by
    rw [List.splitOn_cons_eq_if_modifyHead, if_pos (by simp), split]
  simp only [lines, cut, split, List.getLast?_cons_cons]
  split
  · rw [List.dropLast_cons_of_ne_nil (List.cons_ne_nil _ _)]
  · rfl

/-- A byte other than a newline belongs to the first line. -/
theorem lines_cons {byte : UInt8} (other : byte ≠ newlineByte) (rest : List UInt8) :
    lines (byte :: rest) =
      match lines rest with
      | [] => [[byte]]
      | line :: more => (byte :: line) :: more := by
  obtain ⟨part, parts, split⟩ := List.exists_cons_of_ne_nil (List.splitOn_ne_nil newlineByte rest)
  have cut : (byte :: rest).splitOn newlineByte = (byte :: part) :: parts := by
    rw [List.splitOn_cons_eq_if_modifyHead, if_neg (by simpa using other), split,
      List.modifyHead_cons]
  cases parts with
  | nil =>
    cases part with
    | nil => simp [lines, cut, split]
    | cons first others => simp [lines, cut, split]
  | cons next later =>
    simp only [lines, cut, split, List.getLast?_cons_cons]
    by_cases last : (next :: later).getLast? = some []
    · rw [if_pos last, if_pos last, List.dropLast_cons_of_ne_nil (List.cons_ne_nil _ _),
        List.dropLast_cons_of_ne_nil (List.cons_ne_nil _ _)]
    · rw [if_neg last, if_neg last]

/-- Reading the input byte by byte gives its lines. -/
theorem pieces_eq_lines (input : List UInt8) : pieces input = lines input := by
  induction input with
  | nil => rfl
  | cons byte rest ih =>
    by_cases newline : byte = newlineByte
    · subst newline
      rw [pieces, if_pos rfl, ih, lines_newline]
    · have first := lines_cons newline rest
      rw [pieces, if_neg newline, ih]
      cases later : lines rest with
      | nil => rw [first, later]
      | cons line more => rw [first, later]

/-! ## Texts -/

/-- Decoding answers with the text of which the bytes are. -/
theorem decode?_eq_some_iff : decode? piece = some text ↔ bytes text = piece := by
  unfold decode? String.fromUTF8? bytes
  constructor
  · intro decoded
    split at decoded
    · cases decoded
      rfl
    · cases decoded
  · rintro rfl
    have valid : (ByteArray.mk text.toUTF8.data.toList.toArray).IsValidUTF8 := text.isValidUTF8
    rw [dif_pos valid]
    rfl

theorem decode?_eq_none_iff : decode? piece = none ↔ ¬ IsText piece := by
  simp only [Option.eq_none_iff_forall_ne_some, ne_eq, decode?_eq_some_iff, IsText, not_exists]

/-- The texts are the first lines, up to one that is no text if there is any. -/
theorem exists_texts (pieces : List (List UInt8)) :
    ∃ unread, pieces = (texts pieces).1.map bytes ++ unread ∧
      (∀ piece, unread.head? = some piece → ¬ IsText piece) ∧
      ((texts pieces).2 = true ↔ unread = []) := by
  induction pieces with
  | nil => exact ⟨[], rfl, nofun, by simp [texts]⟩
  | cons piece rest ih =>
    cases decoded : decode? piece with
    | none =>
      refine ⟨piece :: rest, ?_, ?_, ?_⟩
      · simp [texts, decoded]
      · rintro _ ⟨⟩
        exact decode?_eq_none_iff.mp decoded
      · simp [texts, decoded]
    | some text =>
      obtain ⟨unread, split, stops, clean⟩ := ih
      refine ⟨unread, ?_, stops, ?_⟩
      · simp only [texts, decoded, List.map_cons, List.cons_append]
        rw [← split, decode?_eq_some_iff.mp decoded]
      · simpa only [texts, decoded] using clean

end CommandShell.Input
