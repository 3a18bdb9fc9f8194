import CommandShell.Demo
import CommandShell.Proofs.Shell.Coherence
import CommandShell.Proofs.Shell.Frame

/-!
# Comparing beginnings, and cutting names

A shell that compares only the first characters of module names behaves as one that
compares whole names, with every registered name cut to that many characters, and with
the name of a module cut wherever one is typed in front of a command. `Shell.Shortened`
relates two such shells; a line keeps it and makes the same calls in both
(`Shell.Shortened.execute`), and so do any lines (`Shell.executeAll_retypeAll`).

A line that is typed with nothing selected names a module by its first word, unless it is
a built-in; with a module selected its first word is a command's name and stays whole.
-/

namespace CommandShell

/-! ## Cut texts -/

namespace Text

/-- The first characters of a text. -/
def leading (count : Nat) (text : String) : String :=
  String.ofList (text.toList.take count)

/-- A text whose first word is cut to its first characters. -/
def cutWord (count : Nat) : List Char → List Char
  | [] => []
  | c :: rest =>
    if c = ' ' then
      c :: cutWord count rest
    else
      (c :: rest.takeWhile (· != ' ')).take count ++ rest.dropWhile (· != ' ')

/-- A line whose first word is cut to its first characters. -/
def shortenWord (count : Nat) (line : String) : String :=
  String.ofList (cutWord count line.toList)

theorem leading_of_length_le {count : Nat} {text : String} (short : text.length ≤ count) :
    leading count text = text := by
  rw [leading, List.take_of_length_le (by rwa [String.length_toList]), String.ofList_toList]

theorem leading_ne_empty {count : Nat} {text : String} (positive : 1 ≤ count)
    (nonempty : text ≠ "") :
    leading count text ≠ "" := by
  intro empty
  rw [leading, String.ofList_eq_empty_iff, List.take_eq_nil_iff] at empty
  rcases empty with zero | empty
  · omega
  · exact nonempty (String.toList_eq_nil_iff.mp empty)

end Text

namespace Arguments

/-- Cutting the first word of a text leaves the other words as they are. Where the text starts makes
no difference to its words. -/
theorem map_text_scan_cutWord {count : Nat} (positive : 1 ≤ count) (start start' : Nat)
    (text : List Char) :
    (Argument.scan start (Text.cutWord count text)).map Argument.text =
      ((Argument.scan start' text).map Argument.text).modifyHead (Text.leading count) := by
  induction text generalizing start start' with
  | nil => simp [Text.cutWord, Argument.scan]
  | cons c rest ih =>
    by_cases blank : c = ' '
    · rw [Text.cutWord, if_pos blank, Argument.scan, if_pos blank, ih, Argument.scan, if_pos blank]
    · have solid : ' ' ∉ c :: rest.takeWhile (· != ' ') :=
        List.not_mem_cons_of_ne_of_not_mem (Ne.symm blank) (blank_not_mem_takeWhile rest)
      have nonempty : (c :: rest.takeWhile (· != ' ')).take count ≠ [] := by
        rw [Ne, List.take_eq_nil_iff, not_or]
        exact ⟨Nat.ne_of_gt positive, List.cons_ne_nil _ _⟩
      rw [Text.cutWord, if_neg blank, scan_append start nonempty
        (fun member => solid (List.mem_of_mem_take member)) (head?_dropWhile_eq_blank rest),
        Argument.scan, if_neg blank, List.map_cons, List.map_cons, List.modifyHead_cons,
        Text.leading, String.toList_ofList, map_text_scan, map_text_scan]

theorem words_shortenWord {count : Nat} (positive : 1 ≤ count) (line : String) :
    words (Text.shortenWord count line) = (words line).modifyHead (Text.leading count) := by
  rw [words, Text.shortenWord, String.toList_ofList]
  exact map_text_scan_cutWord positive 0 0 line.toList

end Arguments

/-- A word that is not the name of a built-in. -/
def Arguments.Plain (word : String) : Prop :=
  word ≠ "help" ∧ word ≠ "select"

instance (word : String) : Decidable (Arguments.Plain word) :=
  inferInstanceAs (Decidable (_ ∧ _))

/-! ## Cut names in a registry -/

/-- A module whose name is cut to its first characters. -/
def CommandModule.shorten (count : Nat) (owner : CommandModule) : CommandModule :=
  { owner with name := Text.leading count owner.name }

namespace Registry

variable {registry : Registry} {count owner : Nat} {name : String}

/-- The registry with the name of every module cut. -/
def shorten (count : Nat) (registry : Registry) : Registry :=
  { registry with modules := registry.modules.map (.shorten count) }

/-- Names agree in their first characters when what is left of them by cutting is equal. -/
theorem find?_shorten (registry : Registry) (count : Nat) (name : String) :
    (registry.shorten count).find? .whole (Text.leading count name) =
      registry.find? (.first count) name := by
  rw [find?, shorten, List.findIdx?_map, find?]
  congr 1
  funext found
  simp [Extent.agrees, Extent.cut, CommandModule.shorten, Text.leading]

theorem get?_shorten :
    (registry.shorten count).get? owner = (registry.get? owner).map (.shorten count) :=
  List.getElem?_map ..

theorem bind_indexOf?_shorten :
    ((registry.shorten count).get? owner).bind (·.indexOf? name) =
      (registry.get? owner).bind (·.indexOf? name) := by
  rw [get?_shorten]
  cases registry.get? owner <;> rfl

theorem command?_shorten {index : Nat} :
    (registry.shorten count).command? owner index = registry.command? owner index := by
  rw [command?, get?_shorten, command?]
  cases registry.get? owner <;> rfl

end Registry

namespace Scope

open Arguments (Plain)

variable {scope : Scope} {count : Nat} {first : String}

/-- The scope in which whole names are compared, and the names are cut. -/
def shorten (count : Nat) (scope : Scope) : Scope :=
  ⟨scope.registry.shorten count, scope.selected, .whole⟩

/-- A word in front of a line as it is typed when names are cut: with a module selected it is no
name of a module. -/
def shortenFirst (count : Nat) (scope : Scope) (first : String) : String :=
  if scope.selected.isSome then first else Text.leading count first

theorem shortenFirst_of_selected {owner : Nat} (selected : scope.selected = some owner)
    (count : Nat) (first : String) : scope.shortenFirst count first = first := by
  simp [shortenFirst, selected]

theorem shortenFirst_of_unselected (unselected : scope.selected = none) (count : Nat)
    (first : String) : scope.shortenFirst count first = Text.leading count first := by
  simp [shortenFirst, unselected]

theorem shortenFirst_ne_empty (scope : Scope) (positive : 1 ≤ count) (nonempty : first ≠ "") :
    scope.shortenFirst count first ≠ "" := by
  unfold shortenFirst
  split
  · exact nonempty
  · exact Text.leading_ne_empty positive nonempty

theorem toOption_locate_shorten (extent : scope.extent = .first count) (first : String)
    (rest : List String) :
    ((scope.shorten count).locate (scope.shortenFirst count first :: rest)).toOption =
      (scope.locate (first :: rest)).toOption := by
  cases selected : scope.selected with
  | some owner =>
    have selected' : (scope.shorten count).selected = some owner := selected
    rw [shortenFirst_of_selected selected, locate_of_selected selected,
      locate_of_selected selected']
  | none =>
    have selected' : (scope.shorten count).selected = none := selected
    rw [shortenFirst_of_unselected selected]
    cases rest with
    | nil =>
      rw [locate_of_lone selected, locate_of_lone selected']
      rfl
    | cons name others =>
      have same : (scope.shorten count).registry.find? (scope.shorten count).extent
          (Text.leading count first) = scope.registry.find? scope.extent first := by
        rw [extent]
        exact Registry.find?_shorten ..
      simp only [locate, selected, selected', same]
      split
      · rfl
      · cases scope.registry.find? scope.extent first <;> rfl

/-- With names cut, words resolve to what they resolved to, if they are no built-in before and
after. The faults differ, as they show the names. -/
theorem toOption_resolve_shorten (extent : scope.extent = .first count) (positive : 1 ≤ count)
    (nonempty : first ≠ "") (plain : Plain first)
    (plain' : Plain (scope.shortenFirst count first)) (rest : List String) :
    ((scope.shorten count).resolve (scope.shortenFirst count first :: rest)).toOption =
      (scope.resolve (first :: rest)).toOption := by
  have nonempty' := scope.shortenFirst_ne_empty positive nonempty
  have same := toOption_locate_shorten extent first rest
  cases located : scope.locate (first :: rest) with
  | error fault =>
    cases located' : (scope.shorten count).locate (scope.shortenFirst count first :: rest) with
    | error fault' =>
      rw [resolve_of_locate_eq_error nonempty plain.1 plain.2 located,
        resolve_of_locate_eq_error nonempty' plain'.1 plain'.2 located']
      rfl
    | ok place => simp [located, located', Except.toOption] at same
  | ok place =>
    rcases place with ⟨owner, name⟩
    cases located' : (scope.shorten count).locate (scope.shortenFirst count first :: rest) with
    | error fault' => simp [located, located', Except.toOption] at same
    | ok place' =>
      obtain rfl : place' = (owner, name) := by
        simpa [located, located', Except.toOption] using same
      have position : ((scope.shorten count).registry.get? owner).bind (·.indexOf? name) =
          (scope.registry.get? owner).bind (·.indexOf? name) := Registry.bind_indexOf?_shorten
      rw [resolve_of_locate_eq_ok nonempty plain.1 plain.2 located,
        resolve_of_locate_eq_ok nonempty' plain'.1 plain'.2 located', position]
      cases (scope.registry.get? owner).bind (·.indexOf? name) <;> rfl

end Scope

namespace Shell

open Arguments (words pieces Plain)

/-! ## Lines typed with cut names -/

/-- Whether the first word of a line stands where the name of a module is typed. -/
def NamesModule (shell : Shell) (line : String) : Prop :=
  shell.selection.index? = none ∧ ∀ first ∈ (pieces line).head?, Plain first

instance (shell : Shell) (line : String) : Decidable (shell.NamesModule line) :=
  inferInstanceAs (Decidable (_ ∧ _))

/-- A line as it is typed when names are cut. -/
def retype (shell : Shell) (line : String) : String :=
  if shell.NamesModule line then Text.shortenWord shell.config.maxNameLength line else line

/-- Lines as they are typed one after the other when names are cut. -/
def retypeAll (shell : Shell) : List String → List String
  | [] => []
  | line :: rest => shell.retype line :: (shell.execute line).shell.retypeAll rest

/-- The name of a module in front of a line, if there is one, is not cut to that of a built-in. -/
def CutsPlainly (shell : Shell) (line : String) : Prop :=
  shell.NamesModule line → ∀ first ∈ (pieces (shell.retype line)).head?, Plain first

instance (shell : Shell) (line : String) : Decidable (shell.CutsPlainly line) :=
  inferInstanceAs (Decidable (_ → _))

/-- The same of lines typed one after the other. -/
def CutsAllPlainly (shell : Shell) : List String → Prop
  | [] => True
  | line :: rest => shell.CutsPlainly line ∧ (shell.execute line).shell.CutsAllPlainly rest

instance decidableCutsAllPlainly : (shell : Shell) → (lines : List String) →
    Decidable (shell.CutsAllPlainly lines)
  | _, [] => .isTrue trivial
  | shell, line :: rest =>
    have := decidableCutsAllPlainly (shell.execute line).shell rest
    inferInstanceAs (Decidable (_ ∧ _))

variable {shell full cut : Shell} {config : Config} {line first : String}
  {rest lines : List String}

theorem retypeAll_take (shell : Shell) (lines : List String) (count : Nat) :
    (shell.retypeAll lines).take count = shell.retypeAll (lines.take count) := by
  induction lines generalizing shell count with
  | nil => simp [retypeAll]
  | cons line rest ih =>
    cases count with
    | zero => rfl
    | succ count => rw [retypeAll, List.take_succ_cons, ih, List.take_succ_cons, retypeAll]

theorem CutsAllPlainly.take (plainly : shell.CutsAllPlainly lines) (count : Nat) :
    shell.CutsAllPlainly (lines.take count) := by
  induction lines generalizing shell count with
  | nil => simp [CutsAllPlainly]
  | cons line rest ih =>
    cases count with
    | zero => trivial
    | succ count => exact ⟨plainly.1, ih plainly.2 count⟩

theorem namesModule_cons (read : words line = first :: rest) :
    shell.NamesModule line ↔ shell.selection.index? = none ∧ Plain first := by
  rw [NamesModule, ← Arguments.words_eq_pieces, read]
  simp

/-! ## A shell and its shortened form -/

/-- Two shells in the same state, of which one compares the first characters of names, and the
other whole names that are cut to these. -/
structure Shortened (config : Config) (full cut : Shell) : Prop where
  full_eq : full.config = { config with nameMatch := .leading }
  cut_eq : cut.config = { config with nameMatch := .exact }
  registry_eq : cut.registry = full.registry.shorten config.maxNameLength
  fallback_eq : cut.fallback = full.fallback
  selection_eq : cut.selection = full.selection

namespace Shortened

variable (shortened : Shortened config full cut)

include shortened

theorem scope_eq : cut.scope = full.scope.shorten config.maxNameLength := by
  simp only [scope, Scope.shorten, shortened.registry_eq, shortened.selection_eq, shortened.cut_eq,
    Config.extent]

theorem extent_eq : full.scope.extent = .first config.maxNameLength := by
  simp only [scope, shortened.full_eq, Config.extent]

theorem handed_eq (first : String) (rest : List String) :
    cut.handed (full.scope.shortenFirst config.maxNameLength first :: rest) =
      full.handed (first :: rest) := by
  have same : cut.selection.index? = full.selection.index? :=
    congrArg Selection.index? shortened.selection_eq
  cases selection : full.selection.index? with
  | none =>
    rw [handed_of_unselected (same.trans selection), handed_of_unselected selection]
    rfl
  | some owner =>
    rw [handed_of_selected (same.trans selection), handed_of_selected selection,
      Scope.shortenFirst_of_selected (full.selected_scope.trans selection)]

/-- Words that are no built-in before and after their name is cut make the same call. -/
theorem calls_dispatch_eq (positive : 1 ≤ config.maxNameLength) (nonempty : first ≠ "")
    (plain : Plain first) (plain' : Plain (full.scope.shortenFirst config.maxNameLength first))
    (rest : List String) :
    Event.calls (cut.dispatch
        (full.scope.shortenFirst config.maxNameLength first :: rest)).events =
      Event.calls (full.dispatch (first :: rest)).events := by
  have resolved : (cut.scope.resolve
      (full.scope.shortenFirst config.maxNameLength first :: rest)).toOption =
      (full.scope.resolve (first :: rest)).toOption := by
    rw [shortened.scope_eq]
    exact Scope.toOption_resolve_shorten shortened.extent_eq positive nonempty plain plain' rest
  rw [calls_dispatch, calls_dispatch, resolved, shortened.handed_eq, shortened.fallback_eq,
    shortened.registry_eq]
  simp only [Registry.command?_shorten]

/-- A name behind `select` need not be cut: one that is longer than a cut name is refused. -/
theorem setting?_eq (words : List String) :
    setting? cut.config cut.registry words = setting? full.config full.registry words := by
  have found (name : String) (short : name.length ≤ config.maxNameLength) :
      cut.registry.find? cut.config.extent name = full.registry.find? full.config.extent name := by
    have same := Registry.find?_shorten full.registry config.maxNameLength name
    rw [Text.leading_of_length_le short] at same
    simpa only [shortened.registry_eq, shortened.full_eq, shortened.cut_eq, Config.extent]
      using same
  have maxArgs : cut.config.maxArgs = full.config.maxArgs := by
    rw [shortened.cut_eq, shortened.full_eq]
  have maxNameLength : cut.config.maxNameLength = full.config.maxNameLength := by
    rw [shortened.cut_eq, shortened.full_eq]
  rw [setting?, setting?, maxArgs, maxNameLength]
  split
  · cases words.tail with
    | nil => rfl
    | cons name others =>
      by_cases short : name.length ≤ full.config.maxNameLength
      · simp only [if_pos short, found name (by simpa only [shortened.full_eq] using short)]
      · simp only [if_neg short]
  · rfl

/-- A word in front of a line, as it stands there when names are cut, calls the same and sets the
same. -/
theorem exists_words_retype (positive : 1 ≤ config.maxNameLength)
    (plainly : full.CutsPlainly line) (read : words line = first :: rest) :
    ∃ first', words (full.retype line) = first' :: rest ∧
      Event.calls (cut.dispatch (first' :: rest)).events =
        Event.calls (full.dispatch (first :: rest)).events ∧
      setting? full.config full.registry (first' :: rest) =
        setting? full.config full.registry (first :: rest) := by
  have nonempty : first ≠ "" := Arguments.ne_empty_of_mem_words (by rw [read]; simp)
  by_cases names : full.NamesModule line
  · obtain ⟨unselected, plain⟩ := (namesModule_cons read).mp names
    have read' : words (full.retype line) = Text.leading config.maxNameLength first :: rest := by
      have length : full.config.maxNameLength = config.maxNameLength := by
        rw [shortened.full_eq]
      rw [retype, if_pos names, length, Arguments.words_shortenWord positive, read,
        List.modifyHead_cons]
    have plain' : Plain (Text.leading config.maxNameLength first) := by
      have stays := plainly names
      rw [← Arguments.words_eq_pieces, read'] at stays
      exact stays _ rfl
    have same := Scope.shortenFirst_of_unselected (full.selected_scope.trans unselected)
      config.maxNameLength first
    have calls := shortened.calls_dispatch_eq positive nonempty plain (by rwa [same]) rest
    rw [same] at calls
    refine ⟨_, read', calls, ?_⟩
    rw [setting?_of_other (by simpa using plain'.2), setting?_of_other (by simpa using plain.2)]
  · refine ⟨first, by rw [retype, if_neg names, read], ?_, rfl⟩
    by_cases plain : Plain first
    · obtain ⟨owner, selection⟩ : ∃ owner, full.selection.index? = some owner :=
        Option.ne_none_iff_exists'.mp fun unselected =>
          names ((namesModule_cons read).mpr ⟨unselected, plain⟩)
      have same := Scope.shortenFirst_of_selected (full.selected_scope.trans selection)
        config.maxNameLength first
      have calls := shortened.calls_dispatch_eq positive nonempty plain (by rwa [same]) rest
      rwa [same] at calls
    · rcases Classical.not_and_iff_not_or_not.mp plain with help | select
      · rw [Classical.not_not.mp help, dispatch_help, dispatch_help]
        rfl
      · rw [Classical.not_not.mp select, dispatch_select, dispatch_select, calls_selectBuiltin,
          calls_selectBuiltin]

/-- A line calls the same with the name cut in front of it, and leaves the two shells related. -/
theorem execute (positive : 1 ≤ config.maxNameLength) (plainly : full.CutsPlainly line) :
    Shortened config (full.execute line).shell (cut.execute (full.retype line)).shell ∧
      Event.calls (cut.execute (full.retype line)).events =
        Event.calls (full.execute line).events := by
  have outcome : Event.calls (cut.execute (full.retype line)).events =
        Event.calls (full.execute line).events ∧
      setting? full.config full.registry (words (full.retype line)) =
        setting? full.config full.registry (words line) := by
    cases read : words line with
    | nil =>
      have read' : words (full.retype line) = [] := by
        unfold retype
        split
        · rw [Arguments.words_shortenWord (by rwa [shortened.full_eq]), read, List.modifyHead_nil]
        · exact read
      rw [calls_execute, calls_execute, body_of_no_words read, body_of_no_words read', read']
      exact ⟨rfl, rfl⟩
    | cons first rest =>
      obtain ⟨first', read', calls, set⟩ :=
        shortened.exists_words_retype positive plainly read
      have maxArgs : cut.config.maxArgs = full.config.maxArgs := by
        rw [shortened.cut_eq, shortened.full_eq]
      rw [calls_execute_eq_ite, calls_execute_eq_ite, read, read', maxArgs, calls]
      exact ⟨by simp only [List.length_cons, reduceCtorEq, false_or], set⟩
  have kept := kept_execute full line
  have kept' := kept_execute cut (full.retype line)
  refine ⟨⟨kept.config_eq.trans shortened.full_eq, kept'.config_eq.trans shortened.cut_eq, ?_,
    kept'.fallback_eq.trans (shortened.fallback_eq.trans kept.fallback_eq.symm), ?_⟩, outcome.1⟩
  · rw [kept'.registry_eq, kept.registry_eq, shortened.registry_eq]
  · rw [selection_execute, selection_execute, shortened.setting?_eq, outcome.2,
      shortened.selection_eq]

end Shortened

/-- After any lines the two shells are related and have made the same calls. -/
theorem Shortened.executeAll (shortened : Shortened config full cut)
    (positive : 1 ≤ config.maxNameLength) (plainly : full.CutsAllPlainly lines) :
    Shortened config (full.executeAll lines).shell (cut.executeAll (full.retypeAll lines)).shell ∧
      Event.calls (cut.executeAll (full.retypeAll lines)).events =
        Event.calls (full.executeAll lines).events := by
  induction lines generalizing full cut with
  | nil => exact ⟨shortened, rfl⟩
  | cons line rest ih =>
    obtain ⟨next, calls⟩ := shortened.execute positive plainly.1
    obtain ⟨last, later⟩ := ih next plainly.2
    refine ⟨last, ?_⟩
    rw [retypeAll, Shell.executeAll, Shell.executeAll, Turn.events_andThen, Turn.events_andThen,
      Event.calls_append, Event.calls_append, calls, later]

/-! ## Shells set up alike -/

/-- The registration of modules, and a fallback handler if there is to be one. -/
def setUp (modules : List CommandModule) (fallback : Option Handler) : List Operation :=
  (modules.map fun owner => .register owner.name owner.commands) ++
    (fallback.map Operation.setFallback).toList

namespace Shortened

/-- There is room for a module in both shells or in neither. -/
theorem register (shortened : Shortened config full cut) (owner : CommandModule) :
    Shortened config (full.register owner.name owner.commands).2.shell
      (cut.register (Text.leading config.maxNameLength owner.name) owner.commands).2.shell := by
  have size : cut.registry.size = full.registry.size := by
    rw [shortened.registry_eq]
    exact List.length_map ..
  have capacity : cut.registry.capacity = full.registry.capacity := by
    rw [shortened.registry_eq]
    rfl
  by_cases room : full.registry.size < full.registry.capacity
  · have room' : cut.registry.size < cut.registry.capacity := by rwa [size, capacity]
    simp only [Shell.register, Registry.register, if_pos room, if_pos room']
    refine ⟨shortened.full_eq, shortened.cut_eq, ?_, shortened.fallback_eq, shortened.selection_eq⟩
    simp [shortened.registry_eq, Registry.shorten, CommandModule.shorten]
  · have crowded : ¬ cut.registry.size < cut.registry.capacity := by rwa [size, capacity]
    simp only [Shell.register, Registry.register, if_neg room, if_neg crowded]
    exact shortened

theorem setFallback (shortened : Shortened config full cut) (handler : Handler) :
    Shortened config (full.setFallback handler).2.shell (cut.setFallback handler).2.shell := by
  have same := shortened.fallback_eq
  cases installed : full.fallback with
  | some present =>
    rw [installed] at same
    simp only [Shell.setFallback, installed, same]
    exact shortened
  | none =>
    rw [installed] at same
    simp only [Shell.setFallback, installed, same]
    exact ⟨shortened.full_eq, shortened.cut_eq, shortened.registry_eq, rfl, shortened.selection_eq⟩

theorem setUp (shortened : Shortened config full cut) (modules : List CommandModule)
    (fallback : Option Handler) :
    Shortened config (full.session (Shell.setUp modules fallback)).shell
      (cut.session (Shell.setUp (modules.map (.shorten config.maxNameLength)) fallback)).shell := by
  induction modules generalizing full cut with
  | nil =>
    cases fallback with
    | none => exact shortened
    | some handler => exact shortened.setFallback handler
  | cons owner rest ih => exact ih (shortened.register owner)

end Shortened

theorem shortened_of_create (created : create { config with nameMatch := .leading } = .ok full)
    (created' : create { config with nameMatch := .exact } = .ok cut) :
    Shortened config full cut := by
  obtain ⟨_, rfl⟩ := create_eq_ok_iff.mp created
  obtain ⟨_, rfl⟩ := create_eq_ok_iff.mp created'
  exact ⟨rfl, rfl, rfl, rfl, rfl⟩

/-- Give two shells of one valid configuration the same commands and the same fallback handler,
let one compare the first characters of names and the other whole names, and cut the names of the
other's modules to that many characters. Then lines that are typed to the first, and to the other
with the name in front of a command cut, select the same module under the same prompt and make the
same calls, line for line, as long as no name is cut to the name of a built-in. -/
theorem executeAll_retypeAll (valid : config.validate = .ok ()) (modules : List CommandModule)
    (fallback : Option Handler) (lines : List String) :
    ∃ start start',
      create { config with nameMatch := .leading } = .ok start ∧
      create { config with nameMatch := .exact } = .ok start' ∧
      let full := (start.session (setUp modules fallback)).shell
      let cut :=
        (start'.session (setUp (modules.map (.shorten config.maxNameLength)) fallback)).shell
      cut.fallback = full.fallback ∧
      (∀ owner index, cut.registry.command? owner index = full.registry.command? owner index) ∧
      (full.CutsAllPlainly lines → ∀ count,
        let typed := full.executeAll (lines.take count)
        let retyped := cut.executeAll ((full.retypeAll lines).take count)
        retyped.shell.selection = typed.shell.selection ∧
        Event.calls retyped.events = Event.calls typed.events) := by
  obtain ⟨_, capacities⟩ := Config.validate_eq_ok_iff.mp valid
  have positive : 1 ≤ config.maxNameLength :=
    capacities ("module_name_max_len", config.maxNameLength) (by simp [Config.capacities])
  have created (nameMatch : NameMatch) : ∃ start, create { config with nameMatch } = .ok start :=
    ⟨_, create_eq_ok_iff.mpr ⟨valid, rfl⟩⟩
  obtain ⟨start, created₁⟩ := created .leading
  obtain ⟨start', created₂⟩ := created .exact
  refine ⟨start, start', created₁, created₂, ?_⟩
  have shortened := (shortened_of_create created₁ created₂).setUp modules fallback
  generalize (start.session (setUp modules fallback)).shell = full at shortened ⊢
  generalize (start'.session _).shell = cut at shortened ⊢
  refine ⟨shortened.fallback_eq, ?_, ?_⟩
  · intro owner index
    rw [shortened.registry_eq, Registry.command?_shorten]
  · intro plainly count
    obtain ⟨last, calls⟩ := shortened.executeAll positive (plainly.take count)
    rw [retypeAll_take]
    exact ⟨last.selection_eq, calls⟩

/-- Two names that are the same when they are cut, and a third for which there is no room. -/
def networks : List CommandModule :=
  [⟨"network", Demo.mathCommands⟩, ⟨"netwatch", Demo.sysCommands 5⟩, ⟨"disk", []⟩]

/-- The earlier of the two modules is meant however its name goes on; a name that cannot be typed
leaves the selection as it was. -/
def networkLines : List String :=
  [" network  add 1 2", "netwatch version", "select netw", "mul 3 4", "select network", "help",
   "select", "diskette mount now"]

theorem executeAll_retypeAll_networks :
    fourLetters.validate = .ok () ∧ ∃ start start',
      create fourLetters = .ok start ∧
      create { fourLetters with nameMatch := .exact } = .ok start' ∧
      let full := (start.session (setUp networks (some fun _ => ⟨0, ""⟩))).shell
      let cut :=
        (start'.session (setUp (networks.map (.shorten 4)) (some fun _ => ⟨0, ""⟩))).shell
      full.CutsAllPlainly networkLines ∧
      full.retypeAll networkLines =
        [" netw  add 1 2", "netw version", "select netw", "mul 3 4", "select network", "help",
         "select", "disk mount now"] ∧
      (cut.executeAll ((full.retypeAll networkLines).take 6)).shell.selection =
        .ofName 0 "netw" ∧
      Event.calls (cut.executeAll (full.retypeAll networkLines)).events =
        [(.command 0 0, ["add", "1", "2"]), (.fallback, ["version"]),
         (.command 0 1, ["mul", "3", "4"]), (.fallback, ["mount", "now"])] := by
  have valid : fourLetters.validate = .ok () := rfl
  obtain ⟨start, start', created, created', -, -, same⟩ :=
    executeAll_retypeAll valid networks (some fun _ => ⟨0, ""⟩) networkLines
  refine ⟨valid, start, start', created, created', ?_⟩
  obtain ⟨-, rfl⟩ := create_eq_ok_iff.mp created
  intro full cut
  have plainly : full.CutsAllPlainly networkLines := by decide +kernel
  have retyped : full.retypeAll networkLines =
      [" netw  add 1 2", "netw version", "select netw", "mul 3 4", "select network", "help",
       "select", "disk mount now"] := by decide +kernel
  have typed : (full.executeAll (networkLines.take 6)).shell.selection = .ofName 0 "netw" ∧
      Event.calls (full.executeAll networkLines).events =
        [(.command 0 0, ["add", "1", "2"]), (.fallback, ["version"]),
         (.command 0 1, ["mul", "3", "4"]), (.fallback, ["mount", "now"])] := by decide +kernel
  obtain ⟨selection, -⟩ := same plainly 6
  obtain ⟨-, calls⟩ := same plainly networkLines.length
  have all : (full.retypeAll networkLines).take networkLines.length =
      full.retypeAll networkLines := by rw [retyped]; rfl
  rw [List.take_length, all] at calls
  exact ⟨plainly, retyped, selection.trans typed.1, calls.trans typed.2⟩

end Shell

end CommandShell
