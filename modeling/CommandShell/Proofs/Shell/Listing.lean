import CommandShell.Proofs.Shell.Output
import Mathlib.Data.List.Forall2

/-!
# Reading a listing back

A listing has one line for each command: the name, filled up with blanks to a column of thirty
characters, and the summary right behind it. A name that is shorter than the column ends at
the first blank of its line, so name and summary can be told apart. A name of thirty characters
or more leaves no blank, and its summary continues it.

Two listings are the same exactly if the commands agree one by one, in name and summary or,
where both names fill the column, in name and summary run together
(`Shell.console_body_eq_iff_of_lists`). Thirty letters are enough to confuse two modules
(`Shell.listings_run_together`).
-/

namespace CommandShell

/-- A character that two beginnings do not have ends both at the same place. -/
theorem append_cons_eq_iff {α : Type} [DecidableEq α] {a b rest other : List α} {stop : α}
    (first : stop ∉ a) (second : stop ∉ b) :
    a ++ stop :: rest = b ++ stop :: other ↔ a = b ∧ rest = other := by
  constructor
  · intro same
    have split := congrArg (List.splitOn stop) same
    rw [List.splitOn_append_cons_self_of_not_mem first,
      List.splitOn_append_cons_self_of_not_mem second] at split
    obtain ⟨rfl, -⟩ := List.cons.inj split
    exact ⟨rfl, (List.cons.inj (List.append_cancel_left same)).2⟩
  · rintro ⟨rfl, rfl⟩
    rfl

namespace Command

/-- The name of a command and its summary, which is empty when there is none. -/
def entry (command : Command) : String × String :=
  (command.name, command.summary.getD "")

/-- A command whose name has no blank and which has one line in a listing. -/
structure Plain (command : Command) : Prop where
  solid : ' ' ∉ command.name.toList
  nameOneLine : '\n' ∉ command.name.toList
  summaryOneLine : '\n' ∉ (command.summary.getD "").toList

/-- Two commands whose names fill the column, so that the summaries continue them to one text. -/
structure RunsInto (one other : Command) : Prop where
  full : 30 ≤ one.name.length
  otherFull : 30 ≤ other.name.length
  same : one.name ++ one.summary.getD "" = other.name ++ other.summary.getD ""

/-- Two commands whose lines are the same. -/
def Alike (one other : Command) : Prop :=
  one.entry = other.entry ∨ one.RunsInto other

/-- The line of a command in a listing, without its end. -/
def shownLine (command : Command) : List Char :=
  command.name.toList ++ List.replicate (30 - command.name.length) ' '
    ++ (command.summary.getD "").toList

variable {one other : Command}

theorem toList_listing (command : Command) :
    command.listing.toList = command.shownLine ++ ['\n'] := by
  simp only [listing, Text.padRight, shownLine, String.toList_append, String.toList_ofList]
  rfl

theorem Plain.newline_not_mem_shownLine (plain : one.Plain) : '\n' ∉ one.shownLine := by
  simp only [shownLine, List.mem_append, List.mem_replicate, not_or]
  exact ⟨⟨plain.nameOneLine, fun newline => absurd newline.2 (by decide)⟩, plain.summaryOneLine⟩

/-- A name that leaves room in the column is followed by a blank. -/
theorem shownLine_of_short (short : one.name.length < 30) :
    one.shownLine = one.name.toList ++ ' ' ::
      (List.replicate (29 - one.name.length) ' ' ++ (one.summary.getD "").toList) := by
  have room : 30 - one.name.length = (29 - one.name.length) + 1 := by omega
  rw [shownLine, room, List.replicate_succ, List.append_assoc, List.cons_append]

/-- A name that fills the column is followed by the summary. -/
theorem shownLine_of_full (full : 30 ≤ one.name.length) :
    one.shownLine = (one.name ++ one.summary.getD "").toList := by
  rw [shownLine, Nat.sub_eq_zero_of_le full, List.replicate_zero, List.append_nil,
    String.toList_append]

/-- A name that leaves room in the column is not taken for one that fills it: the character behind
it is a blank in one line and belongs to the name in the other. -/
theorem shownLine_ne_of_short (short : one.name.length < 30) (full : 30 ≤ other.name.length)
    (plain : other.Plain) : one.shownLine ≠ other.shownLine := by
  intro same
  have bound : one.name.length < other.name.toList.length := by
    rw [String.length_toList]
    omega
  have blank : one.shownLine[one.name.length]? = some ' ' := by
    rw [shownLine_of_short short,
      List.getElem?_append_right (Nat.le_of_eq String.length_toList), String.length_toList,
      Nat.sub_self]
    rfl
  rw [same, shownLine, List.append_assoc, List.getElem?_append_left bound] at blank
  exact plain.solid (List.mem_of_getElem? blank)

/-- Two lines are the same exactly if name and summary are, or run together to the same text. -/
theorem shownLine_eq_iff (plain : one.Plain) (otherPlain : other.Plain) :
    one.shownLine = other.shownLine ↔ one.Alike other := by
  constructor
  · intro same
    rcases Nat.lt_or_ge one.name.length 30 with short | full
    · rcases Nat.lt_or_ge other.name.length 30 with otherShort | otherFull
      · rw [shownLine_of_short short, shownLine_of_short otherShort,
          append_cons_eq_iff plain.solid otherPlain.solid, String.toList_inj] at same
        obtain ⟨name, behind⟩ := same
        rw [name] at behind
        exact .inl (Prod.ext name (String.toList_inj.mp (List.append_cancel_left behind)))
      · exact (shownLine_ne_of_short short otherFull otherPlain same).elim
    · rcases Nat.lt_or_ge other.name.length 30 with otherShort | otherFull
      · exact (shownLine_ne_of_short otherShort full plain same.symm).elim
      · rw [shownLine_of_full full, shownLine_of_full otherFull, String.toList_inj] at same
        exact .inr ⟨full, otherFull, same⟩
  · rintro (entry | runs)
    · obtain ⟨name, summary⟩ := Prod.mk.inj entry
      rw [shownLine, shownLine, name, summary]
    · rw [shownLine_of_full runs.full, shownLine_of_full runs.otherFull, runs.same]

end Command

namespace CommandModule

/-- The listings of two modules are the same exactly if the lines of their commands are. -/
theorem listing_eq_iff {a b : CommandModule} (plain : ∀ command ∈ a.commands, command.Plain)
    (otherPlain : ∀ command ∈ b.commands, command.Plain) :
    a.listing = b.listing ↔ List.Forall₂ Command.Alike a.commands b.commands := by
  rw [listing, listing, ← String.toList_inj, String.toList_append, String.toList_append,
    List.append_cancel_left_eq]
  generalize a.commands = commands at plain
  generalize b.commands = others at otherPlain
  induction commands generalizing others with
  | nil =>
    cases others with
    | nil => simp
    | cons other rest => simp [String.join_cons, Command.toList_listing]
  | cons one rest ih =>
    cases others with
    | nil => simp [String.join_cons, Command.toList_listing]
    | cons other otherRest =>
      obtain ⟨onePlain, restPlain⟩ := List.forall_mem_cons.mp plain
      obtain ⟨alsoPlain, otherRestPlain⟩ := List.forall_mem_cons.mp otherPlain
      rw [List.map_cons, List.map_cons, String.join_cons, String.join_cons, String.toList_append,
        String.toList_append, Command.toList_listing, Command.toList_listing, List.append_assoc,
        List.append_assoc, List.singleton_append, List.singleton_append,
        append_cons_eq_iff onePlain.newline_not_mem_shownLine alsoPlain.newline_not_mem_shownLine,
        Command.shownLine_eq_iff onePlain alsoPlain, ih restPlain otherRest otherRestPlain,
        List.forall₂_cons]

/-- Where the first names leave room in the column, commands with the same lines are the same in
name and summary. -/
theorem map_entry_eq_of_short {commands others : List Command}
    (alike : List.Forall₂ Command.Alike commands others)
    (short : ∀ command ∈ commands, command.name.length < 30) :
    commands.map Command.entry = others.map Command.entry := by
  induction alike with
  | nil => rfl
  | cons same _ ih =>
    obtain ⟨room, rest⟩ := List.forall_mem_cons.mp short
    rw [List.map_cons, List.map_cons, ih rest]
    rcases same with entry | runs
    · rw [entry]
    · exact absurd runs.full (Nat.not_le_of_lt room)

end CommandModule

namespace Shell

open Arguments (pieces)

/-- The line shows the listing of a module: `help` with a name that stands for the module, or `help`
alone when the module is selected. -/
inductive Lists (shell : Shell) (line : String) : CommandModule → Prop
  | named {name : String} {owner : Nat} {found : CommandModule} :
    shell.selection.index? = none → pieces line = ["help", name] → 2 ≤ shell.config.maxArgs →
    FirstAt (shell.config.Agree name ·.name) shell.registry.modules owner found →
    Lists shell line found
  | selected {owner : Nat} {found : CommandModule} :
    shell.selection.index? = some owner → pieces line = ["help"] → 1 ≤ shell.config.maxArgs →
    shell.registry.modules[owner]? = some found →
    Lists shell line found

theorem Lists.console_body {shell : Shell} {line : String} {found : CommandModule}
    (lists : shell.Lists line found) : Event.console (shell.body line).events = found.listing := by
  cases lists with
  | named unselected read few stands =>
    refine console_body_of_shows ?_
    rw [Arguments.words_eq_pieces, read]
    exact .help few (.named unselected stands)
  | selected selection read few there =>
    refine console_body_of_shows ?_
    rw [Arguments.words_eq_pieces, read]
    exact .help few (.selected selection there)

/-- Two lines that show the listings of two modules show the same exactly if the modules have
equally many commands and these agree one by one: in name and summary, or else both names fill the
column and continued by their summaries they are the same text. So where the names of one module
are shorter than the column, the listing gives back every name and every summary. -/
theorem console_body_eq_iff_of_lists {shell next : Shell} {line other : String}
    {a b : CommandModule} (lists : shell.Lists line a) (otherLists : next.Lists other b)
    (plain : ∀ command ∈ a.commands, command.Plain)
    (otherPlain : ∀ command ∈ b.commands, command.Plain) :
    (Event.console (shell.body line).events = Event.console (next.body other).events ↔
      List.Forall₂ Command.Alike a.commands b.commands) ∧
    ((∀ command ∈ a.commands, command.name.length < 30) →
      Event.console (shell.body line).events = Event.console (next.body other).events →
      a.commands.map Command.entry = b.commands.map Command.entry) := by
  rw [lists.console_body, otherLists.console_body, CommandModule.listing_eq_iff plain otherPlain]
  exact ⟨Iff.rfl, fun short alike => CommandModule.map_entry_eq_of_short alike short⟩

/-! ## A letter of the name or a summary -/

/-- A name of this many letters. -/
def letters (count : Nat) : String :=
  String.ofList (List.replicate count 'n')

/-- A module with one command, which has one more letter in its name and no summary. -/
def lettered (count : Nat) : CommandModule :=
  ⟨"lettered", [{ name := letters count ++ "b", handler := fun _ => ⟨0, ""⟩ }]⟩

/-- A module with one command, which has that letter as its summary. -/
def summarized (count : Nat) : CommandModule :=
  ⟨"summarized", [(Command.mk (letters count) (fun _ => ⟨0, ""⟩) none).withSummary "b"]⟩

/-- A shell of both modules. -/
def comparing (count : Nat) : Shell where
  config := {}
  registry := ⟨8, [lettered count, summarized count]⟩

theorem lists_comparing (count : Nat) :
    (comparing count).Lists "help lettered" (lettered count) ∧
      (comparing count).Lists "help summarized" (summarized count) := by
  have read : pieces "help lettered" = ["help", "lettered"] ∧
      pieces "help summarized" = ["help", "summarized"] := by decide +kernel
  have few : 2 ≤ (comparing count).config.maxArgs := show 2 ≤ 20 by decide
  have first : FirstAt ((comparing count).config.Agree "lettered" ·.name)
      (comparing count).registry.modules 0 (lettered count) :=
    ⟨rfl, rfl, fun earlier before => absurd before (Nat.not_lt_zero earlier)⟩
  have second : FirstAt ((comparing count).config.Agree "summarized" ·.name)
      (comparing count).registry.modules 1 (summarized count) := by
    refine ⟨rfl, rfl, fun earlier before other there agree => ?_⟩
    obtain rfl := Nat.lt_one_iff.mp before
    obtain rfl := Option.some.inj there
    exact absurd agree (show "summarized" ≠ "lettered" by decide)
  exact ⟨.named rfl read.1 few first, .named rfl read.2 few second⟩

theorem plain_lettered (count : Nat) : ∀ command ∈ (lettered count).commands, command.Plain := by
  intro command member
  obtain rfl := List.mem_singleton.mp member
  constructor <;> simp [letters, Command.summary]

theorem plain_summarized (count : Nat) :
    ∀ command ∈ (summarized count).commands, command.Plain := by
  intro command member
  obtain rfl := List.mem_singleton.mp member
  constructor <;> simp [letters, Command.withSummary, Command.summary]

/-- In a column of thirty characters a name of twenty-nine letters and its summary are not taken for
a name of thirty letters. -/
theorem console_body_eq_iff_of_lists_room :
    (comparing 29).Lists "help lettered" (lettered 29) ∧
      (comparing 29).Lists "help summarized" (summarized 29) ∧
      Event.console ((comparing 29).body "help lettered").events ≠
        Event.console ((comparing 29).body "help summarized").events := by
  obtain ⟨lists, otherLists⟩ := lists_comparing 29
  obtain ⟨-, readable⟩ := console_body_eq_iff_of_lists otherLists lists (plain_summarized 29)
    (plain_lettered 29)
  refine ⟨lists, otherLists, fun same => ?_⟩
  have entries := readable (by decide +kernel) same.symm
  revert entries
  decide +kernel

/-- A name of thirty letters and its summary are taken for a name of thirty-one letters: `help`
shows the same for both modules, although all names can be typed and no text has a newline. -/
theorem listings_run_together :
    (comparing 30).Lists "help lettered" (lettered 30) ∧
      (comparing 30).Lists "help summarized" (summarized 30) ∧
      (∀ command ∈ (lettered 30).commands ++ (summarized 30).commands,
        command.name ≠ "" ∧ command.Plain) ∧
      Event.console ((comparing 30).body "help lettered").events =
        Event.console ((comparing 30).body "help summarized").events ∧
      (lettered 30).commands.map Command.entry ≠ (summarized 30).commands.map Command.entry := by
  obtain ⟨lists, otherLists⟩ := lists_comparing 30
  refine ⟨lists, otherLists, fun command member => ⟨?_, ?_⟩, ?_, by decide +kernel⟩
  · revert command
    decide +kernel
  · rcases List.mem_append.mp member with first | second
    · exact plain_lettered 30 command first
    · exact plain_summarized 30 command second
  · rw [lists.console_body, otherLists.console_body]
    decide +kernel

end Shell

end CommandShell
