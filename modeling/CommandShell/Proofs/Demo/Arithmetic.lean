import CommandShell.Proofs.Shell.Output
import CommandShell.Proofs.Shell.Shorthand
import Mathlib.Data.Nat.Digits.Defs

/-!
# Exact arithmetic

`Demo.Denotes` says which integer a text writes: decimal digits after at most one sign, with
the value that their places give them. `Demo.Answers` lists what a command on two operands
may answer, without reading or computing anything step by step: the decimal text of the exact
result, `overflow` when the result does not fit into 64 bits, and nothing but a failure when
the operands are not two integers that fit. The commands of `math` answer exactly so
(`Demo.answers_iff`), and the shell adds the usage to a failure
(`Shell.execute_of_computes`).

Results are printed as they are read: the text of an integer denotes that integer
(`Demo.denotes_toString`).
-/

namespace CommandShell

namespace Demo

/-! ## Integers in a text -/

/-- The integers of 64 bits with a sign. -/
def InRange (value : Int) : Prop :=
  -2 ^ 63 ≤ value ∧ value < 2 ^ 63

instance {value : Int} : Decidable (InRange value) :=
  inferInstanceAs (Decidable (_ ∧ _))

/-- One decimal digit or more, and nothing else. -/
structure Numeral (digits : List Char) : Prop where
  nonempty : digits ≠ []
  decimal : ∀ digit ∈ digits, '0' ≤ digit ∧ digit ≤ '9'

/-- The number that digits write: each counts ten times as much as the one behind it. -/
def positional (digits : List Char) : Nat :=
  Nat.ofDigits 10 (digits.reverse.map fun digit => digit.toNat - '0'.toNat)

/-- The integer that a text writes, whether it fits into 64 bits or not. -/
inductive Denotes : List Char → Int → Prop
  | unsigned {digits : List Char} : Numeral digits → Denotes digits (positional digits)
  | plus {digits : List Char} : Numeral digits → Denotes ('+' :: digits) (positional digits)
  | minus {digits : List Char} : Numeral digits → Denotes ('-' :: digits) (-positional digits)

variable {digits text : List Char} {value : Int}

theorem fits_iff : fits value = true ↔ InRange value := by
  have least : Int64.minValue.toInt = -2 ^ 63 := by decide
  have greatest : Int64.maxValue.toInt = 2 ^ 63 - 1 := by decide
  rw [fits, Bool.and_eq_true, decide_eq_true_iff, decide_eq_true_iff, least, greatest, InRange]
  omega

/-- Reading digits from the left gives each one the value of its place. -/
theorem foldl_eq_positional (digits : List Char) :
    digits.foldl (fun value digit => 10 * value + (digit.toNat - '0'.toNat)) 0 =
      positional digits := by
  rw [positional, Nat.ofDigits_eq_foldr, List.foldr_map, List.foldl_eq_foldr_reverse]
  simp only [Nat.cast_id, Nat.add_comm]

theorem isDigit_iff {c : Char} : c.isDigit = true ↔ '0' ≤ c ∧ c ≤ '9' := by
  rw [Char.isDigit, Bool.and_eq_true, decide_eq_true_iff, decide_eq_true_iff]
  exact Iff.rfl

theorem numeral_iff : Numeral digits ↔ digits ≠ [] ∧ digits.all Char.isDigit = true := by
  rw [List.all_eq_true]
  constructor
  · intro numeral
    exact ⟨numeral.nonempty, fun digit member => isDigit_iff.mpr (numeral.decimal digit member)⟩
  · rintro ⟨nonempty, decimal⟩
    exact ⟨nonempty, fun digit member => isDigit_iff.mp (decimal digit member)⟩

theorem natural?_eq_some_iff {n : Nat} :
    natural? digits = some n ↔ Numeral digits ∧ positional digits = n := by
  rw [natural?, foldl_eq_positional, numeral_iff]
  split
  · next numeral => rw [Option.some.injEq, and_iff_right numeral]
  · next other => simp only [reduceCtorEq, other, false_and]

/-- A sign is no digit. -/
theorem Numeral.head_ne {c : Char} (numeral : Numeral (c :: digits)) : c ≠ '+' ∧ c ≠ '-' := by
  have decimal : '0' ≤ c ∧ c ≤ '9' := numeral.decimal c List.mem_cons_self
  constructor
  · rintro rfl
    revert decimal
    decide
  · rintro rfl
    revert decimal
    decide

/-- Reading accepts the texts that denote an integer, with that integer. -/
theorem integer?_eq_some_iff : integer? text = some value ↔ Denotes text value := by
  constructor
  · intro read
    unfold integer? at read
    split at read <;> obtain ⟨n, natural, rfl⟩ := Option.map_eq_some_iff.mp read <;>
      obtain ⟨numeral, rfl⟩ := natural?_eq_some_iff.mp natural
    · exact .plus numeral
    · exact .minus numeral
    · exact .unsigned numeral
  · rintro (⟨numeral⟩ | ⟨numeral⟩ | ⟨numeral⟩)
    · cases text with
      | nil => exact (numeral.nonempty rfl).elim
      | cons c rest =>
        obtain ⟨plus, minus⟩ := numeral.head_ne
        unfold integer?
        split
        · next sign => cases sign; exact (plus rfl).elim
        · next sign => cases sign; exact (minus rfl).elim
        · rw [natural?_eq_some_iff.mpr ⟨numeral, rfl⟩]
          rfl
    · rw [integer?, natural?_eq_some_iff.mpr ⟨numeral, rfl⟩]
      rfl
    · rw [integer?, natural?_eq_some_iff.mpr ⟨numeral, rfl⟩]
      rfl

theorem operand?_eq_some_iff {word : String} :
    operand? word = some value ↔ Denotes word.toList value ∧ InRange value := by
  rw [operand?, Option.filter_eq_some_iff, integer?_eq_some_iff, fits_iff]

/-! ## Integers in print -/

theorem numeral_toDigits (n : Nat) : Numeral (Nat.toDigits 10 n) where
  nonempty := Nat.toDigits_ne_nil
  decimal := fun _ member =>
    isDigit_iff.mp (Nat.isDigit_of_mem_toDigits (by decide) (by decide) member)

theorem positional_toDigits (n : Nat) : positional (Nat.toDigits 10 n) = n := by
  rw [← foldl_eq_positional, ← Nat.ofDigitChars_eq_foldl]
  exact Nat.ofDigitChars_ten_toDigits

/-- The text of an integer denotes that integer. -/
theorem denotes_toString (value : Int) : Denotes (toString value).toList value := by
  rw [Int.toString_eq_repr]
  cases value with
  | ofNat n =>
    have text : (Int.ofNat n).repr.toList = Nat.toDigits 10 n := by
      rw [Int.repr, Nat.repr_eq_ofList_toDigits, String.toList_ofList]
    have denotes := Denotes.unsigned (numeral_toDigits n)
    rw [positional_toDigits] at denotes
    rw [text]
    exact denotes
  | negSucc n =>
    have text : (Int.negSucc n).repr.toList = '-' :: Nat.toDigits 10 (n + 1) := by
      rw [Int.repr, Nat.repr_eq_ofList_toDigits, String.toList_append, String.toList_ofList,
        String.toList_ofList]
      rfl
    have denotes := Denotes.minus (numeral_toDigits (n + 1))
    rw [positional_toDigits] at denotes
    rw [text]
    exact denotes

/-! ## Commands on two operands -/

/-- What a command answers to the words behind its name, when it computes an operation on two
integers. -/
inductive Answers (op : Int → Int → Int) : List String → Reply → Prop
  | result {a b : String} {x y : Int} :
    Denotes a.toList x → Denotes b.toList y → InRange x → InRange y → InRange (op x y) →
    Answers op [a, b] ⟨0, toString (op x y) ++ "\n"⟩
  | overflow {a b : String} {x y : Int} :
    Denotes a.toList x → Denotes b.toList y → InRange x → InRange y → ¬ InRange (op x y) →
    Answers op [a, b] ⟨0, "overflow\n"⟩
  | refused {operands : List String} :
    (∀ a b x y, operands = [a, b] → Denotes a.toList x → Denotes b.toList y →
      ¬ (InRange x ∧ InRange y)) →
    Answers op operands ⟨-1, ""⟩

/-- The commands of `math` by their names, and what they compute. -/
inductive Computes : String → (Int → Int → Int) → Prop
  | add : Computes "add" (· + ·)
  | mul : Computes "mul" (· * ·)

variable {op : Int → Int → Int} {name : String} {operands : List String} {reply : Reply}

theorem result_eq_ite (value : Int) :
    result value = if InRange value then toString value ++ "\n" else "overflow\n" := by
  simp only [result, fits_iff]

/-- The handler answers what the rules say, for every list of operands. -/
theorem answers_binary (op : Int → Int → Int) (name : String) (operands : List String) :
    Answers op operands (binary op (name :: operands)) := by
  unfold binary
  split
  · next _ a b same =>
    obtain ⟨-, rfl⟩ := List.cons.inj same
    cases first : operand? a with
    | none =>
      refine .refused fun a' b' x y same denotes _ inRange => ?_
      cases same
      rw [operand?_eq_some_iff.mpr ⟨denotes, inRange.1⟩] at first
      cases first
    | some x =>
      obtain ⟨denotesX, inRangeX⟩ := operand?_eq_some_iff.mp first
      cases second : operand? b with
      | none =>
        refine .refused fun a' b' x y same _ denotes inRange => ?_
        cases same
        rw [operand?_eq_some_iff.mpr ⟨denotes, inRange.2⟩] at second
        cases second
      | some y =>
        obtain ⟨denotesY, inRangeY⟩ := operand?_eq_some_iff.mp second
        simp only [result_eq_ite]
        split
        · next inRange => exact .result denotesX denotesY inRangeX inRangeY inRange
        · next outside => exact .overflow denotesX denotesY inRangeX inRangeY outside
  · next other =>
    refine .refused fun a b x y same _ _ _ => other name a b ?_
    rw [same]

/-- The rules allow no other answer. -/
theorem Answers.eq_binary (answers : Answers op operands reply) (name : String) :
    reply = binary op (name :: operands) := by
  cases answers with
  | result denotesX denotesY inRangeX inRangeY inRange =>
    simp only [binary, operand?_eq_some_iff.mpr ⟨denotesX, inRangeX⟩,
      operand?_eq_some_iff.mpr ⟨denotesY, inRangeY⟩, result_eq_ite, if_pos inRange]
  | overflow denotesX denotesY inRangeX inRangeY outside =>
    simp only [binary, operand?_eq_some_iff.mpr ⟨denotesX, inRangeX⟩,
      operand?_eq_some_iff.mpr ⟨denotesY, inRangeY⟩, result_eq_ite, if_neg outside]
  | refused none =>
    unfold binary
    split
    · next _ a b same =>
      obtain ⟨-, rfl⟩ := List.cons.inj same
      split
      · next x y first second =>
        obtain ⟨denotesX, inRangeX⟩ := operand?_eq_some_iff.mp first
        obtain ⟨denotesY, inRangeY⟩ := operand?_eq_some_iff.mp second
        exact (none a b x y rfl denotesX denotesY ⟨inRangeX, inRangeY⟩).elim
      · rfl
    · rfl

/-- The rules say what the handler answers, and no more. -/
theorem answers_iff (name : String) :
    Answers op operands reply ↔ reply = binary op (name :: operands) := by
  constructor
  · exact fun answers => answers.eq_binary name
  · rintro rfl
    exact answers_binary op name operands

/-- A name stands for one command of `math`, which computes what the name says and has a usage. -/
theorem Computes.exists_command (computes : Computes name op) :
    ∃ index command, FirstAt (·.name = name) mathCommands index command ∧
      command.handler = binary op ∧
      command.description = name ++ ":\n" ++ name ++ " <a> <b>\n" := by
  have first {index : Nat} {command : Command}
      (position : (CommandModule.mk "math" mathCommands).indexOf? name = some index)
      (there : mathCommands[index]? = some command) :
      FirstAt (·.name = name) mathCommands index command :=
    Shell.firstAt_commands_iff.mpr ⟨position, there⟩
  cases computes with
  | add => exact ⟨0, _, first (by decide +kernel) rfl, rfl, by decide +kernel⟩
  | mul => exact ⟨1, _, first (by decide +kernel) rfl, rfl, by decide +kernel⟩

end Demo

namespace Shell

open Arguments (words pieces)

/-! ## Lines that compute -/

variable {shell : Shell} {line name : String} {operands typed : List String} {owner : Nat}
  {op : Int → Int → Int}

/-- Words that refer to `math` and one of its commands name that command. -/
theorem exists_names_of_computes (computes : Demo.Computes name op)
    (refers : shell.Refers typed owner ⟨"math", Demo.mathCommands⟩ (name :: operands)) :
    ∃ index command, shell.Names typed owner index command (name :: operands) ∧
      command.handler = Demo.binary op ∧
      command.description = name ++ ":\n" ++ name ++ " <a> <b>\n" := by
  obtain ⟨index, command, first, handler, description⟩ := computes.exists_command
  exact ⟨index, command, .intro refers first, handler, description⟩

/-- The text of an integer is one word of a line. -/
theorem pieces_toString (value : Int) : pieces (toString value) = [toString value] := by
  have denotes := Demo.denotes_toString value
  have solid : ' ' ∉ (toString value).toList := by
    intro blank
    have no {digits : List Char} (numeral : Demo.Numeral digits) : ' ' ∉ digits := fun member =>
      absurd (numeral.decimal ' ' member) (by decide)
    generalize (toString value).toList = text at denotes blank
    cases denotes with
    | unsigned numeral => exact no numeral blank
    | plus numeral => exact no numeral (List.mem_of_ne_of_mem (by decide) blank)
    | minus numeral => exact no numeral (List.mem_of_ne_of_mem (by decide) blank)
  have nonempty : toString value ≠ "" := by
    intro empty
    rw [empty] at denotes
    cases denotes with
    | unsigned numeral => exact numeral.nonempty rfl
  have alone : words (" ".intercalate [toString value]) = [toString value] :=
    Arguments.words_intercalate (by simpa using ⟨nonempty, solid⟩)
  rw [String.intercalate_singleton] at alone
  rw [← Arguments.words_eq_pieces, alone]

/-- A line whose words refer to `math` and its command `add` or `mul`, with the module's name or
under the selected module, calls that command with the words behind its name as operands. The
command gives the one answer that the rules allow: the exact result where it fits into 64 bits,
`overflow` where it does not, and a failure with nothing printed for anything but two integers that
fit. The usage follows a failure and nothing else. Every integer is printed as one word that denotes
it, so a result can be typed back. -/
theorem execute_of_computes (computes : Demo.Computes name op)
    (ordinary : shell.Ordinary (pieces line))
    (refers : shell.Refers (pieces line) owner ⟨"math", Demo.mathCommands⟩ (name :: operands)) :
    ∃ index command reply,
      shell.registry.command? owner index = some command ∧
      command.handler (name :: operands) = reply ∧
      (∀ other, Demo.Answers op operands other ↔ other = reply) ∧
      Event.calls (shell.execute line).events = [(.command owner index, name :: operands)] ∧
      Event.console (shell.body line).events =
        reply.shown (name ++ ":\n" ++ name ++ " <a> <b>\n") ∧
      ∀ value : Int, pieces (toString value) = [toString value] ∧
        Demo.Denotes (toString value).toList value := by
  rw [← Arguments.words_eq_pieces] at ordinary refers
  obtain ⟨index, command, names, handler, description⟩ := exists_names_of_computes computes refers
  have there : shell.registry.command? owner index = some command := by
    cases names with
    | intro refers first =>
      obtain ⟨-, there, -⟩ :=
        locate_of_refers (fun _ => Arguments.ne_empty_of_mem_words) refers
      rw [Registry.command?, there]
      exact first.there
  refine ⟨index, command, Demo.binary op (name :: operands), there, by rw [handler],
    fun other => Demo.answers_iff name, (calls_execute_of_names ordinary names).1, ?_,
    fun value => ⟨pieces_toString value, Demo.denotes_toString value⟩⟩
  rw [console_body_of_shows (.command ordinary names), handler, description]

/-- A sum with the module's name; then, with the module selected, a product that does not fit and a
command without operands. -/
theorem execute_of_computes_three_lines :
    let shell : Shell := { config := {}, registry := ⟨8, Demo.modules 0⟩ }
    let next := (shell.execute "select math").shell
    Event.console (shell.body " math add  +007 -9").events = "-2\n" ∧
      Event.console (next.body "mul 3037000500 3037000500").events = "overflow\n" ∧
      Event.console (next.body "mul 1").events = "mul:\nmul <a> <b>\n" := by
  intro shell next
  have integer {text : List Char} {value : Int} (read : Demo.integer? text = some value) :
      Demo.Denotes text value := Demo.integer?_eq_some_iff.mp read
  have readSelecting : words "select math" = ["select", "math"] := by decide +kernel
  obtain ⟨chosen, -⟩ : Chosen 1 shell next ∧ _ :=
    execute_select readSelecting (by decide) (by decide) (by decide +kernel)
  have there : next.registry.modules[1]? = some ⟨"math", Demo.mathCommands⟩ := by
    rw [chosen.registry_eq]
    rfl
  have limit : next.config.maxArgs = 20 := by
    rw [chosen.config_eq]
  refine ⟨?_, ?_, ?_⟩
  · have read : pieces " math add  +007 -9" = ["math", "add", "+007", "-9"] := by decide +kernel
    have stands : FirstAt (shell.config.Agree "math" ·.name) shell.registry.modules 1
        ⟨"math", Demo.mathCommands⟩ := firstAt_modules_iff.mpr ⟨by decide +kernel, rfl⟩
    have ordinary : shell.Ordinary ["math", "add", "+007", "-9"] :=
      ⟨by decide, by decide, by decide, by decide⟩
    rw [← read] at ordinary
    obtain ⟨_, _, reply, -, -, answers, -, console, -⟩ :=
      execute_of_computes .add ordinary (by rw [read]; exact .typed rfl stands)
    have answer := (answers _).mp (.result (x := 7) (y := -9) (integer (by decide +kernel))
      (integer (by decide +kernel)) (by decide) (by decide) (by decide))
    rw [console, ← answer]
    decide +kernel
  · have read : pieces "mul 3037000500 3037000500" = ["mul", "3037000500", "3037000500"] := by
      decide +kernel
    have ordinary : next.Ordinary ["mul", "3037000500", "3037000500"] :=
      ⟨by decide, by rw [limit]; decide, by decide, by decide⟩
    rw [← read] at ordinary
    obtain ⟨_, _, reply, -, -, answers, -, console, -⟩ :=
      execute_of_computes .mul ordinary (by rw [read]; exact .selected chosen.index? there)
    have answer := (answers _).mp (.overflow (x := 3037000500) (y := 3037000500)
      (integer (by decide +kernel)) (integer (by decide +kernel)) (by decide) (by decide)
      (by decide))
    rw [console, ← answer]
    decide +kernel
  · have read : pieces "mul 1" = ["mul", "1"] := by decide +kernel
    have ordinary : next.Ordinary ["mul", "1"] :=
      ⟨by decide, by rw [limit]; decide, by decide, by decide⟩
    rw [← read] at ordinary
    obtain ⟨_, _, reply, -, -, answers, -, console, -⟩ :=
      execute_of_computes .mul ordinary (by rw [read]; exact .selected chosen.index? there)
    have answer := (answers _).mp (.refused fun _ _ _ _ same => by cases same)
    rw [console, ← answer]
    decide +kernel

end Shell

end CommandShell
