import CommandShell.Proofs.Text.Utf8
import Mathlib.Data.List.DropRight

/-!
# Cutting a text to a buffer

A buffer takes from a text as much as it holds. `Text.Longest` says what that is: the longest
beginning of the text, between two characters, that has at most so many bytes. The search for
its end goes down from the capacity byte by byte, and since a character has at most four bytes
it takes three steps at most (`Text.floorBoundary_within_three`).

`WorkItem.fill_longest` says all of it for a text that is filled in. Line ends are taken off
before the cut and not after it, so a cut may leave one at the end of the line;
`WorkItem.fill_again` says exactly when, and that filling the line in again takes it off.
-/

namespace CommandShell

namespace Text

variable {text taken other : List Char} {limit position : Nat}

/-! ## Beginnings and boundaries -/

theorem byteLength_eq_zero_iff : byteLength text = 0 ↔ text = [] := by
  cases text with
  | nil => simp
  | cons c rest =>
    have positive := Char.utf8Size_pos c
    simp only [byteLength_cons, reduceCtorEq, iff_false]
    omega

/-- The text before a byte position is the beginning that has so many bytes. -/
theorem takeBytes?_eq_some_iff :
    takeBytes? text position = some taken ↔ taken <+: text ∧ byteLength taken = position := by
  constructor
  · intro took
    refine ⟨?_, byteLength_of_takeBytes? took⟩
    fun_induction takeBytes? text position generalizing taken with
    | case1 =>
      cases took
      exact List.nil_prefix
    | case2 => cases took
    | case3 c rest position _ fits ih =>
      obtain ⟨behind, inside, rfl⟩ := Option.map_eq_some_iff.mp took
      exact (List.prefix_cons_inj c).mpr (ih inside)
    | case4 => cases took
  · rintro ⟨⟨rest, rfl⟩, rfl⟩
    induction taken with
    | nil => cases rest <;> rfl
    | cons c taken ih =>
      rw [List.cons_append, byteLength_cons, takeBytes?]
      · rw [if_pos (Nat.le_add_right ..), Nat.add_sub_cancel_left, ih]
        rfl
      · have positive := Char.utf8Size_pos c
        omega

/-- The boundaries of a text are where its beginnings end. -/
theorem isBoundary_iff :
    isBoundary text position = true ↔ ∃ taken, taken <+: text ∧ byteLength taken = position := by
  constructor
  · intro boundary
    obtain ⟨taken, took⟩ := exists_takeBytes?_of_isBoundary boundary
    exact ⟨taken, takeBytes?_eq_some_iff.mp took⟩
  · rintro ⟨taken, ⟨rest, rfl⟩, rfl⟩
    induction taken with
    | nil => simp [isBoundary]
    | cons c taken ih =>
      rw [List.cons_append, byteLength_cons, isBoundary]
      · simpa using ih
      · have positive := Char.utf8Size_pos c
        omega

/-- Among the beginnings of a text the one with more bytes goes on where the other ends. -/
theorem prefix_of_byteLength_le (a : taken <+: text) (b : other <+: text)
    (size : byteLength taken ≤ byteLength other) : taken <+: other := by
  rcases List.prefix_or_prefix_of_prefix a b with shorter | ⟨more, rfl⟩
  · exact shorter
  · rw [byteLength_append] at size
    have nothing : more = [] := byteLength_eq_zero_iff.mp (by omega)
    simp only [nothing, List.append_nil, List.prefix_rfl]

/-! ## Going down to a boundary -/

/-- No boundary at or below a position lies above the one that is searched for. -/
theorem le_floorBoundary {boundary : Nat} (is : isBoundary text boundary = true)
    (below : boundary ≤ position) : boundary ≤ floorBoundary text position := by
  induction position with
  | zero => rwa [floorBoundary]
  | succ position ih =>
    rw [floorBoundary]
    split
    · exact below
    · next inside =>
      have other : boundary ≠ position + 1 := fun same => inside (same ▸ is)
      exact ih (by omega)

/-- A character has at most four bytes, so a boundary is never far. -/
theorem exists_isBoundary_near (inside : position ≤ byteLength text) :
    ∃ boundary,
      isBoundary text boundary = true ∧ boundary ≤ position ∧ position ≤ boundary + 3 := by
  induction text generalizing position with
  | nil => exact ⟨0, by simp [isBoundary], Nat.zero_le _, by simp at inside; omega⟩
  | cons c rest ih =>
    have most := Char.utf8Size_le_four c
    rcases Nat.lt_or_ge position c.utf8Size with early | late
    · exact ⟨0, by simp [isBoundary], Nat.zero_le _, by omega⟩
    · rw [byteLength_cons] at inside
      have behind : position - c.utf8Size ≤ byteLength rest := by omega
      obtain ⟨boundary, is, below, near⟩ := ih behind
      refine ⟨c.utf8Size + boundary, ?_, by omega, by omega⟩
      obtain ⟨taken, starts, rfl⟩ := isBoundary_iff.mp is
      exact isBoundary_iff.mpr ⟨c :: taken, (List.prefix_cons_inj c).mpr starts, rfl⟩

theorem floorBoundary_within_three (inside : position ≤ byteLength text) :
    position ≤ floorBoundary text position + 3 := by
  obtain ⟨boundary, is, below, near⟩ := exists_isBoundary_near inside
  have reached := le_floorBoundary is below
  omega

/-- Going down one by one from a position to the first one that stops the search, in so many
steps. There is no step below zero. -/
inductive Descends (stops : Nat → Prop) : Nat → Nat → Nat → Prop
  | here {position : Nat} : stops position → Descends stops position 0 position
  | down {position steps last : Nat} : ¬ stops (position + 1) →
    Descends stops position steps last → Descends stops (position + 1) (steps + 1) last

theorem descends_floorBoundary (text : List Char) (position : Nat) :
    Descends (isBoundary text · = true) position (position - floorBoundary text position)
      (floorBoundary text position) := by
  induction position with
  | zero => exact .here (by simp [isBoundary])
  | succ position ih =>
    rw [floorBoundary]
    split
    · next boundary =>
      rw [Nat.sub_self]
      exact .here boundary
    · next inside =>
      rw [Nat.succ_sub (floorBoundary_le text position)]
      exact .down inside ih

/-! ## What is cut off -/

theorem takeBytes?_cutPosition (limit : Nat) (text : List Char) :
    takeBytes? text (cutPosition limit text) = some (cut limit text) := by
  obtain ⟨taken, took⟩ := exists_takeBytes?_cutPosition limit text
  rw [cut, took, Option.getD_some]

theorem byteLength_cut (limit : Nat) (text : List Char) :
    byteLength (cut limit text) = cutPosition limit text :=
  byteLength_of_takeBytes? (takeBytes?_cutPosition limit text)

theorem cut_prefix_self (limit : Nat) (text : List Char) : cut limit text <+: text :=
  (takeBytes?_eq_some_iff.mp (takeBytes?_cutPosition limit text)).1

/-- The end of a cut is reached from the capacity, or from the end of a shorter text, in three steps
at most. -/
theorem exists_descends_cut (limit : Nat) (text : List Char) :
    ∃ steps ≤ 3, Descends (Input.Between (Input.bytes (String.ofList text)))
      (min (byteLength text) limit) steps (byteLength (cut limit text)) := by
  have near := floorBoundary_within_three (Nat.min_le_left (byteLength text) limit)
  have same : (isBoundary text · = true) = Input.Between (Input.bytes (String.ofList text)) :=
    funext fun position => propext (isBoundary_iff_between text position)
  rw [← same, byteLength_cut]
  exact ⟨_, Nat.sub_le_iff_le_add'.mpr near, descends_floorBoundary text _⟩

/-- A beginning that is short enough is part of what is left. -/
theorem prefix_cut (starts : taken <+: text) (fits : byteLength taken ≤ limit) :
    taken <+: cut limit text := by
  refine prefix_of_byteLength_le starts (cut_prefix_self limit text) ?_
  have within : byteLength taken ≤ byteLength text := by
    obtain ⟨rest, rfl⟩ := starts
    rw [byteLength_append]
    exact Nat.le_add_right _ _
  rw [byteLength_cut]
  exact le_floorBoundary (isBoundary_iff.mpr ⟨taken, starts, rfl⟩) (Nat.le_min.mpr ⟨within, fits⟩)

theorem cut_eq_self_iff : cut limit text = text ↔ byteLength text ≤ limit := by
  constructor
  · intro whole
    rw [← whole]
    exact byteLength_cut_le limit text
  · intro fits
    exact (cut_prefix_self limit text).eq_of_length_le (prefix_cut List.prefix_rfl fits).length_le

/-- The next character would have been too much. -/
theorem lt_of_eq_cut_append {next : Char} {rest : List Char}
    (split : text = cut limit text ++ next :: rest) :
    limit < byteLength (cut limit text) + next.utf8Size := by
  refine Nat.lt_of_not_le fun fits => ?_
  have longer : cut limit text ++ [next] <+: text :=
    ⟨rest, by rw [List.append_assoc]; exact split.symm⟩
  have short := (prefix_cut longer (by simpa using fits)).length_le
  rw [List.length_append] at short
  exact Nat.not_succ_le_self _ short

/-- A text that does not fit goes on behind the cut, with a character that would have been too
much. -/
theorem exists_next_of_lt (more : limit < byteLength text) :
    ∃ next rest, text = cut limit text ++ next :: rest ∧
      limit < byteLength (cut limit text) + next.utf8Size := by
  obtain ⟨behind, joined⟩ := cut_prefix_self limit text
  cases behind with
  | nil =>
    rw [List.append_nil, cut_eq_self_iff] at joined
    exact (Nat.not_le_of_lt more joined).elim
  | cons next rest => exact ⟨next, rest, joined.symm, lt_of_eq_cut_append joined.symm⟩

/-- A beginning that fits, and behind which the next character would be too much, is what is
left. -/
theorem cut_eq_of_next {next : Char} {rest : List Char} (split : text = taken ++ next :: rest)
    (fits : byteLength taken ≤ limit) (tight : limit < byteLength taken + next.utf8Size) :
    cut limit text = taken := by
  obtain ⟨more, grown⟩ := prefix_cut ⟨next :: rest, split.symm⟩ fits
  cases more with
  | nil => rw [← grown, List.append_nil]
  | cons first more =>
    obtain ⟨behind, joined⟩ := cut_prefix_self limit text
    rw [← grown, split, List.append_assoc] at joined
    have same : first = next := (List.cons.inj (List.append_cancel_left joined)).1
    have within := byteLength_cut_le limit text
    rw [← grown, same, byteLength_append, byteLength_cons] at within
    omega

theorem cutPosition_lt_iff :
    cutPosition limit text < byteLength text ↔ limit < byteLength text := by
  constructor
  · intro below
    refine Nat.lt_of_not_le fun fits => ?_
    rw [← byteLength_cut, cut_eq_self_iff.mpr fits] at below
    exact Nat.lt_irrefl _ below
  · intro more
    rw [← byteLength_cut]
    exact Nat.lt_of_le_of_lt (byteLength_cut_le limit text) more

/-! ## Line ends -/

/-- Whether the last character of a line is a line end. -/
def EndsInLineEnd (line : String) : Prop :=
  line.toList.getLast? = some '\n' ∨ line.toList.getLast? = some '\r'

theorem isLineEnd_iff {c : Char} : isLineEnd c = true ↔ c = '\n' ∨ c = '\r' := by
  simp [isLineEnd]

theorem endsInLineEnd_iff {line : String} :
    EndsInLineEnd line ↔ ∃ c, line.toList.getLast? = some c ∧ isLineEnd c = true := by
  simp only [EndsInLineEnd, isLineEnd_iff]
  constructor
  · rintro (newline | return_)
    · exact ⟨_, newline, .inl rfl⟩
    · exact ⟨_, return_, .inr rfl⟩
  · rintro ⟨c, last, rfl | rfl⟩
    · exact .inl last
    · exact .inr last

/-- A text is what is left of it and its trailing line ends. -/
theorem dropLineEnds_append (text : List Char) :
    dropLineEnds text ++ text.rtakeWhile isLineEnd = text :=
  List.rdropWhile_append_rtakeWhile

theorem isLineEnd_getLast?_dropLineEnds {c : Char}
    (last : (dropLineEnds text).getLast? = some c) : isLineEnd c = false := by
  have nonempty : dropLineEnds text ≠ [] := by
    intro nothing
    rw [nothing] at last
    cases last
  have stays := List.rdropWhile_last_not isLineEnd text nonempty
  rw [List.getLast?_eq_some_getLast nonempty] at last
  cases last
  exact Bool.eq_false_iff.mpr stays

/-- A text that does not end in a line end is left as it is. -/
theorem dropLineEnds_eq_self_iff :
    dropLineEnds text = text ↔ ∀ c, text.getLast? = some c → isLineEnd c = false := by
  constructor
  · intro same c last
    rw [← same] at last
    exact isLineEnd_getLast?_dropLineEnds last
  · intro other
    refine List.rdropWhile_eq_self_iff.mpr fun nonempty => ?_
    exact Bool.eq_false_iff.mp (other _ (List.getLast?_eq_some_getLast nonempty))

theorem not_endsInLineEnd_dropLineEnds (text : List Char) :
    ¬ EndsInLineEnd (String.ofList (dropLineEnds text)) := by
  rw [endsInLineEnd_iff, String.toList_ofList]
  rintro ⟨c, last, isEnd⟩
  rw [isLineEnd_getLast?_dropLineEnds last] at isEnd
  cases isEnd

theorem byteLength_dropLineEnds_le (text : List Char) :
    byteLength (dropLineEnds text) ≤ byteLength text := by
  have whole := congrArg byteLength (dropLineEnds_append text)
  rw [byteLength_append] at whole
  omega

/-- Line ends are taken off the end only, so nothing is taken off before a character that is
none. -/
theorem dropLineEnds_append_of_mem {front back : List Char} {c : Char} (member : c ∈ back)
    (other : isLineEnd c = false) : dropLineEnds (front ++ back) = front ++ dropLineEnds back := by
  have kept : (back.reverse.dropWhile isLineEnd).isEmpty = false := by
    refine Bool.eq_false_iff.mpr fun empty => ?_
    have all := List.dropWhile_eq_nil_iff.mp (List.isEmpty_iff.mp empty)
    rw [all c (List.mem_reverse.mpr member)] at other
    cases other
  rw [dropLineEnds, dropLineEnds, List.reverse_append, List.dropWhile_append, kept]
  simp

/-- A text of more than line ends keeps its first character. -/
theorem exists_dropLineEnds_eq_cons {first c : Char} (member : c ∈ first :: text)
    (other : isLineEnd c = false) : ∃ more, dropLineEnds (first :: text) = first :: more := by
  obtain ⟨ends, joined⟩ : dropLineEnds (first :: text) <+: first :: text :=
    List.rdropWhile_prefix isLineEnd _
  cases left : dropLineEnds (first :: text) with
  | nil =>
    rw [List.rdropWhile_eq_nil_iff.mp left c member] at other
    cases other
  | cons front more =>
    rw [left] at joined
    exact ⟨more, by rw [(List.cons.inj joined).1]⟩

/-- When a cut leaves a line end at the end of a line: it is followed by a character that does not
fit, and the text goes on with more than line ends. -/
theorem exposed_iff :
    (∃ c, (cut limit (dropLineEnds text)).getLast? = some c ∧ isLineEnd c = true) ↔
      ∃ before mark next after, text = before ++ mark :: next :: after ∧
        isLineEnd mark = true ∧ (∃ c ∈ next :: after, isLineEnd c = false) ∧
        byteLength (before ++ [mark]) ≤ limit ∧
        limit < byteLength (before ++ [mark]) + next.utf8Size := by
  constructor
  · rintro ⟨mark, last, isEnd⟩
    obtain ⟨before, split⟩ := List.getLast?_eq_some_iff.mp last
    obtain ⟨rest, joined⟩ := cut_prefix_self limit (dropLineEnds text)
    cases rest with
    | nil =>
      rw [List.append_nil] at joined
      rw [joined] at last
      rw [isLineEnd_getLast?_dropLineEnds last] at isEnd
      cases isEnd
    | cons next rest =>
      have tight := lt_of_eq_cut_append joined.symm
      have fits := byteLength_cut_le limit (dropLineEnds text)
      rw [split] at joined tight fits
      refine ⟨before, mark, next, rest ++ text.rtakeWhile isLineEnd, ?_, isEnd, ?_, fits, tight⟩
      · calc text = dropLineEnds text ++ text.rtakeWhile isLineEnd :=
              (dropLineEnds_append text).symm
          _ = before ++ mark :: next :: (rest ++ text.rtakeWhile isLineEnd) := by
            rw [← joined]
            simp
      · have final : (dropLineEnds text).getLast? = some ((next :: rest).getLast (by simp)) := by
          rw [← joined, List.getLast?_append, List.getLast?_eq_some_getLast (by simp)]
          rfl
        refine ⟨_, ?_, isLineEnd_getLast?_dropLineEnds final⟩
        exact List.mem_append_left _ (List.getLast_mem (List.cons_ne_nil next rest))
  · rintro ⟨before, mark, next, after, rfl, isEnd, ⟨c, member, other⟩, fits, tight⟩
    have body : dropLineEnds (before ++ mark :: next :: after) =
        before ++ [mark] ++ dropLineEnds (next :: after) := by
      rw [← dropLineEnds_append_of_mem member other, List.append_assoc, List.singleton_append]
    obtain ⟨more, left⟩ := exists_dropLineEnds_eq_cons member other
    rw [left] at body
    rw [cut_eq_of_next body fits tight]
    exact ⟨mark, by simp, isEnd⟩

end Text

/-! ## Filling a text in -/

/-- A line is the longest beginning of a text that has at most so many bytes. -/
structure Text.Longest (limit : Nat) (text line : String) : Prop where
  starts : ∃ rest, text = line ++ rest
  fits : line.utf8ByteSize ≤ limit
  longest : ∀ other rest, text = other ++ rest → other.utf8ByteSize ≤ limit →
    ∃ more, line = other ++ more

theorem Text.longest_cut (limit : Nat) (text : List Char) :
    Longest limit (String.ofList text) (String.ofList (cut limit text)) where
  starts := by
    obtain ⟨rest, joined⟩ := cut_prefix_self limit text
    exact ⟨String.ofList rest, by rw [← String.ofList_append, joined]⟩
  fits := by
    rw [utf8ByteSize_ofList]
    exact byteLength_cut_le limit text
  longest := by
    intro other rest split fits
    have chars := congrArg String.toList split
    rw [String.toList_ofList, String.toList_append] at chars
    obtain ⟨more, grown⟩ : other.toList <+: cut limit text := by
      refine prefix_cut ⟨rest.toList, chars.symm⟩ ?_
      rwa [byteLength_toList]
    exact ⟨String.ofList more, by rw [← grown, String.ofList_append, String.ofList_toList]⟩

namespace WorkItem

open Text (EndsInLineEnd)

/-- Whatever was in the buffer, a text that is filled in leaves the longest beginning that the
buffer holds of the text without its trailing line ends. The end of it is searched for from the
capacity down, in three steps at most. If more was there, the next character would not have fitted,
and only then there is a warning. -/
theorem fill_longest (item : WorkItem) (text : String) :
    ∃ body ends, text = body ++ ends ∧
      (∀ c ∈ ends.toList, c = '\n' ∨ c = '\r') ∧ ¬ EndsInLineEnd body ∧
      let filled := item.fill text
      Text.Longest item.capacity body filled.line ∧
      filled.id = item.id ∧ filled.capacity = item.capacity ∧
      (∀ line, ({ item with line } : WorkItem).fill text = filled) ∧
      (∃ steps ≤ 3, Text.Descends (Input.Between (Input.bytes body))
        (min body.utf8ByteSize item.capacity) steps filled.line.utf8ByteSize) ∧
      (body.utf8ByteSize ≤ item.capacity ∧ filled.line = body ∧ item.fillRecords text = [] ∨
        item.capacity < body.utf8ByteSize ∧
        (∃ next rest, body = filled.line ++ (String.singleton next ++ rest) ∧
          item.capacity < filled.line.utf8ByteSize + next.utf8Size) ∧
        item.fillRecords text =
          [.logged .warn ("line truncated to " ++ toString item.capacity ++ " bytes")]) := by
  have size : (String.ofList (Text.dropLineEnds text.toList)).utf8ByteSize =
      Text.byteLength (Text.dropLineEnds text.toList) := Text.utf8ByteSize_ofList _
  refine ⟨String.ofList (Text.dropLineEnds text.toList),
    String.ofList (text.toList.rtakeWhile Text.isLineEnd), ?_, fun c member => ?_,
    Text.not_endsInLineEnd_dropLineEnds _, ?_⟩
  · rw [← String.ofList_append, Text.dropLineEnds_append, String.ofList_toList]
  · rw [String.toList_ofList] at member
    exact Text.isLineEnd_iff.mp (List.mem_rtakeWhile_imp member)
  · intro filled
    have line : filled.line =
        String.ofList (Text.cut item.capacity (Text.dropLineEnds text.toList)) :=
      line_fill item text
    rw [line, size, Text.utf8ByteSize_ofList]
    refine ⟨Text.longest_cut _ _, id_fill item text, capacity_fill item text,
      fun other => by simp only [filled, fill], Text.exists_descends_cut _ _, ?_⟩
    rcases Nat.lt_or_ge item.capacity (Text.byteLength (Text.dropLineEnds text.toList)) with
      more | fits
    · refine .inr ⟨more, ?_, ?_⟩
      · obtain ⟨next, rest, split, tight⟩ := Text.exists_next_of_lt more
        refine ⟨next, String.ofList rest, ?_, tight⟩
        rw [← String.ofList_cons, ← String.ofList_append, ← split]
      · have cuts : item.cuts text = true := decide_eq_true (Text.cutPosition_lt_iff.mpr more)
        rw [fillRecords, if_pos cuts]
    · refine .inl ⟨fits, congrArg String.ofList (Text.cut_eq_self_iff.mpr fits), ?_⟩
      have whole : ¬ item.cuts text = true := fun cuts =>
        Nat.not_le_of_lt (Text.cutPosition_lt_iff.mp (of_decide_eq_true cuts)) fits
      rw [fillRecords, if_neg whole]

/-! ## Filling a line in again -/

/-- A line that was filled in fits. -/
theorem utf8ByteSize_line_fill_le (item : WorkItem) (text : String) :
    (item.fill text).line.utf8ByteSize ≤ (item.fill text).capacity := by
  rw [line_fill, capacity_fill]
  exact utf8ByteSize_lineOf_le item.capacity text

/-- A line that fits loses its trailing line ends and nothing else. -/
theorem lineOf_of_fits {capacity : Nat} {line : String} (fits : line.utf8ByteSize ≤ capacity) :
    lineOf capacity line = String.ofList (Text.dropLineEnds line.toList) := by
  have within := Text.byteLength_dropLineEnds_le line.toList
  rw [Text.byteLength_toList] at within
  rw [lineOf, Text.cut_eq_self_iff.mpr (within.trans fits)]

/-- A line that fits is left as it is when it is filled in again, unless it ends in a line end. -/
theorem fill_line_eq_self_iff {item : WorkItem} (fits : item.line.utf8ByteSize ≤ item.capacity) :
    item.fill item.line = item ↔ ¬ EndsInLineEnd item.line := by
  have kept : item.fill item.line = item ↔
      Text.dropLineEnds item.line.toList = item.line.toList := by
    rw [fill, lineOf_of_fits fits]
    constructor
    · intro same
      have line := congrArg (String.toList ∘ WorkItem.line) same
      simpa only [Function.comp_apply, String.toList_ofList] using line
    · intro same
      rw [same, String.ofList_toList]
  rw [kept, Text.dropLineEnds_eq_self_iff, Text.endsInLineEnd_iff]
  simp

/-- A line ends in a line end exactly when the cut is right behind one within the text. Filling the
line in again leaves it as it is when it does not, and otherwise takes its trailing line ends off.
Filling it in once more changes nothing. -/
theorem fill_again (item : WorkItem) (text : String) :
    let filled := item.fill text
    let again := filled.fill filled.line
    (EndsInLineEnd filled.line ↔
      ∃ before mark next after, text.toList = before ++ mark :: next :: after ∧
        (mark = '\n' ∨ mark = '\r') ∧ (∃ c ∈ next :: after, ¬ (c = '\n' ∨ c = '\r')) ∧
        (String.ofList (before ++ [mark])).utf8ByteSize ≤ item.capacity ∧
        item.capacity < (String.ofList (before ++ [mark])).utf8ByteSize + next.utf8Size) ∧
    (again = filled ↔ ¬ EndsInLineEnd filled.line) ∧
    again.line = String.ofList (Text.dropLineEnds filled.line.toList) ∧
    again.fill again.line = again := by
  intro filled again
  have line : filled.line =
      String.ofList (Text.cut item.capacity (Text.dropLineEnds text.toList)) := line_fill item text
  have fits : filled.line.utf8ByteSize ≤ filled.capacity := utf8ByteSize_line_fill_le item text
  have stripped : again.line = String.ofList (Text.dropLineEnds filled.line.toList) := by
    rw [line_fill, lineOf_of_fits fits]
  refine ⟨?_, fill_line_eq_self_iff fits, stripped, ?_⟩
  · rw [Text.endsInLineEnd_iff, line, String.toList_ofList, Text.exposed_iff]
    simp only [Text.isLineEnd_iff, Text.utf8ByteSize_ofList, ← Bool.not_eq_true]
  · have fits' : again.line.utf8ByteSize ≤ again.capacity :=
      utf8ByteSize_line_fill_le filled filled.line
    rw [fill_line_eq_self_iff fits', stripped]
    exact Text.not_endsInLineEnd_dropLineEnds _

/-- A buffer of two bytes cuts behind the newline. -/
theorem fill_again_newline : ¬ ∀ (item : WorkItem) (text : String),
    ¬ EndsInLineEnd (item.fill text).line ∧
      (item.fill text).fill (item.fill text).line = item.fill text := by
  intro always
  obtain ⟨bare, -⟩ := always (empty 2 0) "a\nb"
  exact bare (.inl (by decide +kernel))

end WorkItem

end CommandShell
