import CommandShell.Proofs.Pool.Filling
import CommandShell.Proofs.Program.Lines

/-!
# The bytes of a text

The bytes of a text are those of its characters, one after the other. In UTF-8 it shows in a
byte whether a character starts with it, and so it shows in the bytes of a text which of its
byte positions lie between two characters (`Text.isBoundary_iff_between`).
-/

namespace CommandShell

namespace Input

@[simp] theorem bytes_append (a b : String) : bytes (a ++ b) = bytes a ++ bytes b := by
  simp [bytes]

@[simp] theorem length_bytes (text : String) : (bytes text).length = text.utf8ByteSize := by
  simp [bytes]

theorem bytes_ofList_cons (c : Char) (rest : List Char) :
    bytes (String.ofList (c :: rest)) =
      String.utf8EncodeChar c ++ bytes (String.ofList rest) := by
  simp [bytes, List.utf8Encode]

/-- Whether a byte position of a text lies between two characters, or at an end: there is a byte
there with which a character starts, or the end of the text. -/
def Between (bytes : List UInt8) (position : Nat) : Prop :=
  position = bytes.length ∨ ∃ byte, bytes[position]? = some byte ∧ byte.IsUTF8FirstByte

end Input

namespace Text

open Input (bytes Between)

theorem byteLength_toList (text : String) : byteLength text.toList = text.utf8ByteSize := by
  rw [← utf8ByteSize_ofList, String.ofList_toList]

/-- The first character of a text has no boundary inside, and the text goes on behind it. -/
theorem between_cons_iff (c : Char) (rest : List Char) (position : Nat) :
    Between (bytes (String.ofList (c :: rest))) position ↔
      position = 0 ∨
        c.utf8Size ≤ position ∧ Between (bytes (String.ofList rest)) (position - c.utf8Size) := by
  have size := String.length_utf8EncodeChar c
  have positive := Char.utf8Size_pos c
  rw [Input.bytes_ofList_cons, Between, Between, List.length_append, size]
  rcases Nat.lt_or_ge position c.utf8Size with inside | behind
  · have first := @UInt8.isUTF8FirstByte_getElem_utf8EncodeChar c position (by rwa [size])
    rw [List.getElem?_append_left (by rwa [size]), List.getElem?_eq_getElem (by rwa [size])]
    constructor
    · rintro (past | ⟨byte, there, starts⟩)
      · omega
      · cases there
        exact .inl (first.mp starts)
    · rintro (zero | ⟨past, _⟩)
      · exact .inr ⟨_, rfl, first.mpr zero⟩
      · omega
  · rw [List.getElem?_append_right (by rwa [size]), size]
    constructor
    · rintro (last | starts)
      · exact .inr ⟨behind, .inl (by omega)⟩
      · exact .inr ⟨behind, .inr starts⟩
    · rintro (zero | ⟨_, last | starts⟩)
      · omega
      · exact .inl (by omega)
      · exact .inr starts

/-- The boundaries of a text show in its bytes. -/
theorem isBoundary_iff_between (text : List Char) (position : Nat) :
    isBoundary text position = true ↔ Between (bytes (String.ofList text)) position := by
  induction text generalizing position with
  | nil =>
    cases position with
    | zero => exact ⟨fun _ => .inl rfl, fun _ => rfl⟩
    | succ position =>
      refine ⟨nofun, ?_⟩
      rintro (past | ⟨byte, there, _⟩)
      · cases past
      · cases there
  | cons c rest ih =>
    rw [between_cons_iff, ← ih]
    cases position with
    | zero => simp [isBoundary]
    | succ position => simp [isBoundary]

end Text

end CommandShell
