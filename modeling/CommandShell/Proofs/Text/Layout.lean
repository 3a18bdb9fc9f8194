import CommandShell.Proofs.Shell.Line
import CommandShell.Proofs.Text.Utf8
import Mathlib.Logic.ExistsUnique

/-!
# How a line is written

A `Layout` is a way to write a line: words, the blanks before each of them, and the blanks at
the end. Every line is written in exactly one way, and its arguments are the words of that way,
each with the byte position at which it stands (`Arguments.ofLine_of_layout`). So words that are
written with any blanks around them are read back, and between the arguments of a line there are
only blanks.
-/

namespace CommandShell

open Input (bytes)

/-- Words with the blanks before each, and the blanks at the end. A word is not empty and has no
blank in it, and between two words there is a blank at least. When there are no words, all blanks
are those at the end. -/
@[ext]
structure Layout : Type where
  parts : List (Nat × String)
  trail : Nat
  solid : ∀ part ∈ parts, part.2 ≠ "" ∧ ' ' ∉ part.2.toList
  apart : ∀ part ∈ parts.tail, 0 < part.1

namespace Layout

/-- So many blanks. -/
def blanks (count : Nat) : String :=
  String.ofList (List.replicate count ' ')

/-- Words, each behind its blanks, and the blanks at the end. -/
def render : List (Nat × String) → Nat → String
  | [], trail => blanks trail
  | (gap, word) :: rest, trail => blanks gap ++ (word ++ render rest trail)

/-- Words, each with the byte position at which it stands. -/
def place (start : Nat) : List (Nat × String) → List Argument
  | [] => []
  | (gap, word) :: rest =>
    ⟨start + gap, word⟩ :: place (start + gap + word.utf8ByteSize) rest

/-- The line that is written. -/
def line (layout : Layout) : String :=
  render layout.parts layout.trail

/-- The words that are written. -/
def words (layout : Layout) : List String :=
  layout.parts.map Prod.snd

/-- The words that are written, with their byte positions in the line. -/
def arguments (layout : Layout) : List Argument :=
  place 0 layout.parts

variable {start trail gap : Nat} {word : String} {parts rest : List (Nat × String)}

theorem toList_blanks (count : Nat) : (blanks count).toList = List.replicate count ' ' :=
  String.toList_ofList

theorem utf8ByteSize_blanks (count : Nat) : (blanks count).utf8ByteSize = count := by
  rw [blanks, Text.utf8ByteSize_ofList]
  induction count with
  | zero => rfl
  | succ count ih =>
    rw [List.replicate_succ, Text.byteLength_cons, ih]
    exact Nat.add_comm 1 count

theorem bytes_blanks (count : Nat) : bytes (blanks count) = List.replicate count 32 := by
  rw [blanks]
  induction count with
  | zero => rfl
  | succ count ih =>
    rw [List.replicate_succ, Input.bytes_ofList_cons, ih]
    rfl

/-- Where no word is written without blanks before it, a blank is written first, if anything is. -/
theorem head?_render (apart : ∀ part ∈ parts, 0 < part.1) :
    (render parts trail).toList.head? = some ' ' ∨ (render parts trail).toList = [] := by
  cases parts with
  | nil =>
    rw [render, toList_blanks]
    cases trail with
    | zero => exact .inr rfl
    | succ trail => exact .inl rfl
  | cons part rest =>
    obtain ⟨gap, positive⟩ := Nat.exists_eq_add_of_lt (apart part (List.mem_cons_self ..))
    refine .inl ?_
    rw [render, String.toList_append, toList_blanks, positive]
    simp [List.replicate_succ]

/-! ## What is written is read -/

/-- Blanks in front only shift what is read. -/
theorem scan_replicate (start gap : Nat) (text : List Char) :
    Argument.scan start (List.replicate gap ' ' ++ text) = Argument.scan (start + gap) text := by
  induction gap generalizing start with
  | zero => rfl
  | succ gap ih =>
    rw [List.replicate_succ, List.cons_append, Argument.scan, if_pos rfl, ih]
    congr 1
    show start + 1 + gap = start + (gap + 1)
    omega

theorem scan_render (start trail : Nat) (solid : ∀ part ∈ parts, part.2 ≠ "" ∧ ' ' ∉ part.2.toList)
    (apart : ∀ part ∈ parts.tail, 0 < part.1) :
    Argument.scan start (render parts trail).toList = place start parts := by
  induction parts generalizing start with
  | nil =>
    rw [render, toList_blanks, ← List.append_nil (List.replicate trail ' '), scan_replicate,
      Argument.scan, place]
  | cons part rest ih =>
    obtain ⟨gap, word⟩ := part
    obtain ⟨nonempty, whole⟩ := solid (gap, word) (List.mem_cons_self ..)
    have spelled : word.toList ≠ [] := fun empty => nonempty (String.toList_eq_nil_iff.mp empty)
    have later := ih (start + gap + word.utf8ByteSize)
      (fun part member => solid part (List.mem_cons_of_mem _ member))
      (fun part member => apart part (List.mem_of_mem_tail member))
    have stop : (render rest trail).toList.head? = some ' ' ∨ (render rest trail).toList = [] :=
      head?_render apart
    rw [render, String.toList_append, String.toList_append, toList_blanks, scan_replicate,
      Arguments.scan_append _ spelled whole stop, Text.byteLength_toList, later,
      String.ofList_toList, place]

theorem scan_line (layout : Layout) : Argument.scan 0 layout.line.toList = layout.arguments :=
  scan_render 0 layout.trail layout.solid layout.apart

theorem map_text_place (start : Nat) (parts : List (Nat × String)) :
    (place start parts).map Argument.text = parts.map Prod.snd := by
  induction parts generalizing start with
  | nil => rfl
  | cons part rest ih => rw [place, List.map_cons, List.map_cons, ih]

/-! ## Every line is written in one way -/

/-- Words stand at other places when there are other blanks between them. -/
theorem place_injective {start : Nat} {others : List (Nat × String)}
    (same : place start parts = place start others) : parts = others := by
  induction parts generalizing start others with
  | nil =>
    cases others with
    | nil => rfl
    | cons part rest => cases same
  | cons part rest ih =>
    cases others with
    | nil => cases same
    | cons other others =>
      obtain ⟨gap, word⟩ := part
      obtain ⟨gap', word'⟩ := other
      simp only [place, List.cons.injEq, Argument.mk.injEq] at same
      obtain ⟨⟨position, rfl⟩, later⟩ := same
      have gaps : gap = gap' := Nat.add_left_cancel position
      subst gaps
      rw [ih later]

theorem trail_injective {trail other : Nat} (same : render parts trail = render parts other) :
    trail = other := by
  induction parts with
  | nil =>
    have size := congrArg String.utf8ByteSize same
    rwa [render, render, utf8ByteSize_blanks, utf8ByteSize_blanks] at size
  | cons part rest ih =>
    rw [render, render, String.append_right_inj, String.append_right_inj] at same
    exact ih same

theorem line_injective {layout other : Layout} (same : layout.line = other.line) :
    layout = other := by
  have placed : place 0 layout.parts = place 0 other.parts := by
    have read := scan_line layout
    rw [same, scan_line other] at read
    exact read.symm
  have parts := place_injective placed
  rw [line, line, parts] at same
  exact Layout.ext parts (trail_injective same)

/-- One more blank in front. -/
theorem exists_blank_before (layout : Layout) :
    ∃ more : Layout, more.line.toList = ' ' :: layout.line.toList := by
  obtain ⟨parts, trail, solid, apart⟩ := layout
  cases parts with
  | nil =>
    refine ⟨⟨[], trail + 1, solid, apart⟩, ?_⟩
    rw [line, line, render, render, toList_blanks, toList_blanks, List.replicate_succ]
  | cons part rest =>
    refine ⟨⟨(part.1 + 1, part.2) :: rest, trail, ?_, apart⟩, ?_⟩
    · exact List.forall_mem_cons.mpr (List.forall_mem_cons.mp solid)
    · simp [line, render, toList_blanks, List.replicate_succ]

/-- One more word in front, where a blank comes next or nothing. -/
theorem exists_word_before {word : List Char} (layout : Layout) (nonempty : word ≠ [])
    (solid : ' ' ∉ word)
    (stop : layout.line.toList.head? = some ' ' ∨ layout.line.toList = []) :
    ∃ more : Layout, more.line.toList = word ++ layout.line.toList := by
  obtain ⟨parts, trail, solids, apart⟩ := layout
  have gaps : ∀ part ∈ parts, 0 < part.1 := by
    cases parts with
    | nil => nofun
    | cons part rest =>
      refine List.forall_mem_cons.mpr ⟨Nat.pos_of_ne_zero fun zero => ?_, apart⟩
      obtain ⟨nonempty, solid⟩ := solids part (List.mem_cons_self ..)
      obtain ⟨c, cs, spelled⟩ :=
        List.exists_cons_of_ne_nil (mt String.toList_eq_nil_iff.mp nonempty)
      -- The word would be written without a blank before it.
      have blank : c = ' ' := by simpa [line, render, zero, toList_blanks, spelled] using stop
      rw [spelled, blank] at solid
      exact solid (List.mem_cons_self ..)
  refine ⟨⟨(0, String.ofList word) :: parts, trail, ?_, gaps⟩, ?_⟩
  · refine List.forall_mem_cons.mpr ⟨⟨?_, ?_⟩, solids⟩
    · exact mt String.ofList_eq_empty_iff.mp nonempty
    · rwa [String.toList_ofList]
  · simp [line, render, toList_blanks]

/-- Every text is written in some way. -/
theorem exists_line (start : Nat) (text : List Char) :
    ∃ layout : Layout, layout.line.toList = text := by
  induction start, text using Argument.scan.induct with
  | case1 start => exact ⟨⟨[], 0, by simp, by simp⟩, rfl⟩
  | case2 start rest ih =>
    obtain ⟨layout, rfl⟩ := ih
    exact exists_blank_before layout
  | case3 start c rest other word ih =>
    obtain ⟨layout, written⟩ := ih
    have solid : ' ' ∉ word :=
      List.not_mem_cons_of_ne_of_not_mem (Ne.symm other) (Arguments.blank_not_mem_takeWhile rest)
    obtain ⟨more, joined⟩ := exists_word_before layout (List.cons_ne_nil _ _) solid
      (written ▸ Arguments.head?_dropWhile_eq_blank rest)
    refine ⟨more, ?_⟩
    rw [joined, written, List.cons_append, List.takeWhile_append_dropWhile]

/-- A line without words has only blanks. -/
theorem words_eq_nil_iff (layout : Layout) :
    layout.words = [] ↔ ∀ c ∈ layout.line.toList, c = ' ' := by
  obtain ⟨parts, trail, solid, apart⟩ := layout
  cases parts with
  | nil =>
    refine ⟨fun _ c member => ?_, fun _ => rfl⟩
    rw [line, render, toList_blanks] at member
    exact List.eq_of_mem_replicate member
  | cons part rest =>
    refine ⟨nofun, fun blank => ?_⟩
    obtain ⟨nonempty, solid⟩ := solid part (List.mem_cons_self ..)
    obtain ⟨c, cs, spelled⟩ :=
      List.exists_cons_of_ne_nil (mt String.toList_eq_nil_iff.mp nonempty)
    have member : c ∈ part.2.toList := by simp [spelled]
    have inside : c ∈ (render (part :: rest) trail).toList := by
      rw [render, String.toList_append, String.toList_append]
      exact List.mem_append_right _ (List.mem_append_left _ member)
    exact (solid (blank c inside ▸ member)).elim

/-! ## Where the words stand -/

/-- The word of an argument stands where the argument says. -/
theorem exists_around_of_mem_place {argument : Argument} (trail : Nat)
    (member : argument ∈ place start parts) :
    ∃ before after, render parts trail = before ++ (argument.text ++ after) ∧
      argument.start = start + before.utf8ByteSize := by
  induction parts generalizing start with
  | nil => cases member
  | cons part rest ih =>
    obtain ⟨gap, word⟩ := part
    rcases List.mem_cons.mp member with rfl | later
    · refine ⟨blanks gap, render rest trail, rfl, ?_⟩
      rw [utf8ByteSize_blanks]
    · obtain ⟨before, after, written, position⟩ := ih later
      refine ⟨blanks gap ++ (word ++ before), after, ?_, ?_⟩
      · rw [render, written, String.append_assoc, String.append_assoc]
      · rw [position, String.utf8ByteSize_append, String.utf8ByteSize_append, utf8ByteSize_blanks]
        omega

/-- Behind blanks, every word stands later. -/
theorem lt_start_of_mem_place {argument : Argument} (apart : ∀ part ∈ parts, 0 < part.1)
    (member : argument ∈ place start parts) : start < argument.start := by
  induction parts generalizing start with
  | nil => cases member
  | cons part rest ih =>
    have positive := apart part (List.mem_cons_self ..)
    rcases List.mem_cons.mp member with rfl | later
    · exact Nat.lt_add_of_pos_right positive
    · have further := ih (fun part member => apart part (List.mem_cons_of_mem _ member)) later
      omega

/-- A word ends before the next one starts. -/
theorem pairwise_place (start : Nat) (apart : ∀ part ∈ parts.tail, 0 < part.1) :
    (place start parts).Pairwise fun a b => a.start + a.text.utf8ByteSize < b.start := by
  induction parts generalizing start with
  | nil => exact .nil
  | cons part rest ih =>
    refine .cons (fun argument later => lt_start_of_mem_place apart later) ?_
    exact ih _ fun part member => apart part (List.mem_of_mem_tail member)

/-- Where no word stands there is a blank. -/
theorem getElem?_bytes_render (start position : Nat)
    (inside : position < (render parts trail).utf8ByteSize)
    (outside : ∀ argument ∈ place start parts, ¬ (argument.start ≤ start + position ∧
      start + position < argument.start + argument.text.utf8ByteSize)) :
    (bytes (render parts trail))[position]? = some 32 := by
  induction parts generalizing start position with
  | nil =>
    rw [render, utf8ByteSize_blanks] at inside
    rw [render, bytes_blanks, List.getElem?_replicate, if_pos inside]
  | cons part rest ih =>
    obtain ⟨gap, word⟩ := part
    have written : bytes (render ((gap, word) :: rest) trail) =
        (List.replicate gap 32 ++ bytes word) ++ bytes (render rest trail) := by
      rw [render, Input.bytes_append, Input.bytes_append, bytes_blanks, List.append_assoc]
    have front : (List.replicate gap 32 ++ bytes word).length = gap + word.utf8ByteSize := by
      rw [List.length_append, List.length_replicate, Input.length_bytes]
    have whole : (render ((gap, word) :: rest) trail).utf8ByteSize =
        gap + word.utf8ByteSize + (render rest trail).utf8ByteSize := by
      rw [← Input.length_bytes, written, List.length_append, front, Input.length_bytes]
    have first := outside ⟨start + gap, word⟩ (List.mem_cons_self ..)
    rw [written]
    rcases Nat.lt_or_ge position gap with blank | behind
    · rw [List.append_assoc, List.getElem?_append_left (by simpa using blank),
        List.getElem?_replicate, if_pos blank]
    · have past : gap + word.utf8ByteSize ≤ position := by
        simp only at first
        omega
      rw [List.getElem?_append_right (by rwa [front]), front]
      refine ih (start + gap + word.utf8ByteSize) _ (by omega) ?_
      intro argument later inside'
      refine outside argument (List.mem_cons_of_mem _ later) ?_
      rwa [show start + gap + word.utf8ByteSize + (position - (gap + word.utf8ByteSize)) =
        start + position by omega] at inside'

end Layout

namespace Arguments

/-- There is exactly one way to write a line. Its words, if there are no more than the limit, are
the arguments of the line, and otherwise the line is refused. There are none when the line has only
blanks. Each argument stands in the line at its byte position and ends before the next one starts,
and every other byte of the line is a blank. -/
theorem ofLine_of_layout :
    (∀ line, ∃! layout : Layout, layout.line = line) ∧
    ∀ layout : Layout,
      (∀ limit, ofLine limit layout.line =
        if layout.words.length ≤ limit then .ok ⟨layout.arguments⟩
        else .error (.tooManyArguments limit)) ∧
      layout.arguments.map Argument.text = layout.words ∧
      (layout.words = [] ↔ ∀ c ∈ layout.line.toList, c = ' ') ∧
      layout.arguments.Pairwise (fun a b => a.start + a.text.utf8ByteSize < b.start) ∧
      (∀ argument ∈ layout.arguments,
        ((bytes layout.line).drop argument.start).take argument.text.utf8ByteSize =
          bytes argument.text) ∧
      ∀ position < layout.line.utf8ByteSize,
        (∀ argument ∈ layout.arguments, ¬ (argument.start ≤ position ∧
          position < argument.start + argument.text.utf8ByteSize)) →
        (bytes layout.line)[position]? = some 32 := by
  refine ⟨fun line => ?_, fun layout => ⟨fun limit => ?_, ?_, ?_, ?_, ?_, ?_⟩⟩
  · obtain ⟨layout, written⟩ := Layout.exists_line 0 line.toList
    have same : layout.line = line := String.toList_inj.mp written
    exact ⟨layout, same, fun other written' => Layout.line_injective (written'.trans same.symm)⟩
  · have count : layout.arguments.length = layout.words.length := by
      rw [Layout.words, ← Layout.map_text_place 0, List.length_map, Layout.arguments]
    simp only [ofLine, Layout.scan_line, count]
  · exact Layout.map_text_place 0 layout.parts
  · exact layout.words_eq_nil_iff
  · exact Layout.pairwise_place 0 layout.apart
  · intro argument member
    obtain ⟨before, after, written, position⟩ :=
      Layout.exists_around_of_mem_place layout.trail member
    have front : argument.start = (bytes before).length := by
      rw [position, Input.length_bytes, Nat.zero_add]
    rw [Layout.line, written, Input.bytes_append, Input.bytes_append, front,
      List.drop_left, ← Input.length_bytes, List.take_left]
  · intro position inside outside
    refine Layout.getElem?_bytes_render 0 position inside fun argument member => ?_
    rw [Nat.zero_add]
    exact outside argument member

/-- A tab belongs to its word, and the position counts the two bytes of `ï`. -/
example : (ofLine 2 "  naïve\tx   b ").toOption.map starts = some [2, 13] := by decide +kernel

end Arguments

end CommandShell
