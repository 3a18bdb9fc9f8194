import CommandShell.Shell.Execute

/-!
# The words of one line

`Arguments.words` are the texts of a line's arguments, however many there are. What a
line does before the prompt depends on its words alone (`Shell.body_of_words` and its
neighbours), and among the words only `select` as the first one touches the shell
(`Shell.shell_dispatch`).
-/

namespace CommandShell

/-- The texts of the arguments of a line. -/
def Arguments.words (line : String) : List String :=
  (Argument.scan 0 line.toList).map Argument.text

namespace Arguments

variable {limit : Nat} {line : String}

theorem ofLine_eq_ok (few : (words line).length ≤ limit) :
    ofLine limit line = .ok ⟨Argument.scan 0 line.toList⟩ := by
  rw [words, List.length_map] at few
  simp only [ofLine, if_pos few]

theorem ofLine_eq_error (many : limit < (words line).length) :
    ofLine limit line = .error (.tooManyArguments limit) := by
  rw [words, List.length_map] at many
  simp only [ofLine, if_neg (Nat.not_le_of_lt many)]

theorem text_ne_empty_of_mem_scan {start : Nat} {text : List Char} {argument : Argument}
    (member : argument ∈ Argument.scan start text) : argument.text ≠ "" := by
  induction start, text using Argument.scan.induct with
  | case1 start => simp [Argument.scan] at member
  | case2 start rest ih =>
    rw [Argument.scan, if_pos rfl] at member
    exact ih member
  | case3 start c rest other word ih =>
    rw [Argument.scan, if_neg other] at member
    rcases List.mem_cons.mp member with rfl | later
    · simp [String.ofList_eq_empty_iff]
    · exact ih later

/-- No word is empty. -/
theorem ne_empty_of_mem_words {word : String} (member : word ∈ words line) : word ≠ "" := by
  obtain ⟨argument, scanned, rfl⟩ := List.mem_map.mp member
  exact text_ne_empty_of_mem_scan scanned

/-- The next word of a text and what stands behind it, which starts with a blank if there is any. -/
theorem scan_append (start : Nat) {word rest : List Char} (nonempty : word ≠ [])
    (solid : ' ' ∉ word) (stop : rest.head? = some ' ' ∨ rest = []) :
    Argument.scan start (word ++ rest) =
      ⟨start, String.ofList word⟩ :: Argument.scan (start + Text.byteLength word) rest := by
  cases word with
  | nil => exact (nonempty rfl).elim
  | cons c cs =>
    obtain ⟨other, inside⟩ : ' ' ≠ c ∧ ' ' ∉ cs := by simpa using solid
    have solid : ∀ a ∈ cs, (a != ' ') = true := fun a member =>
      bne_iff_ne.mpr fun blank => inside (blank ▸ member)
    have behind : rest.takeWhile (· != ' ') = [] ∧ rest.dropWhile (· != ' ') = rest := by
      rcases stop with blank | rfl
      · obtain ⟨later, rfl⟩ := List.head?_eq_some_iff.mp blank
        simp
      · simp
    have taken : (cs ++ rest).takeWhile (· != ' ') = cs := by
      rw [List.takeWhile_append_of_pos solid, behind.1, List.append_nil]
    have dropped : (cs ++ rest).dropWhile (· != ' ') = rest := by
      rw [List.dropWhile_append_of_pos solid, behind.2]
    rw [List.cons_append, Argument.scan, if_neg other.symm, taken, dropped]

/-- Words that are joined by blanks are read back. -/
theorem words_intercalate {tokens : List String}
    (proper : ∀ token ∈ tokens, token ≠ "" ∧ ' ' ∉ token.toList) :
    words (" ".intercalate tokens) = tokens := by
  suffices scanned : ∀ start,
      (Argument.scan start (" ".intercalate tokens).toList).map Argument.text = tokens from
    scanned 0
  induction tokens with
  | nil => simp [Argument.scan]
  | cons token rest ih =>
    intro start
    obtain ⟨nonempty, solid⟩ := proper token (by simp)
    have present : token.toList ≠ [] := fun empty => nonempty (String.toList_eq_nil_iff.mp empty)
    cases rest with
    | nil =>
      have alone := scan_append start present solid (.inr rfl)
      rw [List.append_nil] at alone
      rw [String.intercalate_singleton, alone, Argument.scan]
      simp
    | cons next later =>
      have blank : Argument.scan (start + Text.byteLength token.toList)
          (' ' :: (" ".intercalate (next :: later)).toList) =
          Argument.scan (start + Text.byteLength token.toList + ' '.utf8Size)
            (" ".intercalate (next :: later)).toList := by
        rw [Argument.scan, if_pos rfl]
      have joined : (" ".intercalate (token :: next :: later)).toList =
          token.toList ++ ' ' :: (" ".intercalate (next :: later)).toList := by
        simp [String.intercalate_cons_cons]
      rw [joined, scan_append start present solid (.inl rfl), blank, List.map_cons,
        ih (fun word member => proper word (List.mem_cons_of_mem _ member)), String.ofList_toList]

/-- The pieces of a line between its blanks, without the empty ones. -/
def pieces (line : String) : List String :=
  ((line.toList.splitOn ' ').filter (· ≠ [])).map String.ofList

/-- There is no blank within the next word of a text. -/
theorem blank_not_mem_takeWhile (text : List Char) : ' ' ∉ text.takeWhile (· != ' ') := by
  intro blank
  have all := List.all_takeWhile (p := (· != ' ')) (l := text)
  simpa using List.all_eq_true.mp all _ blank

/-- What stands behind the next word of a text starts with a blank, if there is anything. -/
theorem head?_dropWhile_eq_blank (text : List Char) :
    (text.dropWhile (· != ' ')).head? = some ' ' ∨ text.dropWhile (· != ' ') = [] := by
  cases behind : text.dropWhile (· != ' ') with
  | nil => exact .inr rfl
  | cons next later =>
    have stops := List.head_dropWhile_not (l := text) (· != ' ') (by simp [behind])
    have blank : next = ' ' := by simpa [behind] using stops
    exact .inl (congrArg some blank)

/-- A word ends at a blank or at the end of the text, so it is one piece. -/
theorem map_text_scan (start : Nat) (text : List Char) :
    (Argument.scan start text).map Argument.text =
      ((text.splitOn ' ').filter (· ≠ [])).map String.ofList := by
  induction start, text using Argument.scan.induct with
  | case1 start => simp [Argument.scan, List.splitOn_nil]
  | case2 start rest ih =>
    rw [Argument.scan, if_pos rfl, ih, ← List.nil_append (' ' :: rest),
      List.splitOn_append_cons_self]
    simp [List.splitOn_nil]
  | case3 start c rest other word ih =>
    have split : c :: rest = word ++ rest.dropWhile (· != ' ') := by
      rw [List.cons_append, List.takeWhile_append_dropWhile]
    have solid : ' ' ∉ word :=
      List.not_mem_cons_of_ne_of_not_mem (Ne.symm other) (blank_not_mem_takeWhile rest)
    rw [Argument.scan, if_neg other, List.map_cons, ih, split]
    rcases head?_dropWhile_eq_blank rest with blank | behind
    · obtain ⟨later, behind⟩ := List.head?_eq_some_iff.mp blank
      rw [behind, List.splitOn_append_cons_self_of_not_mem solid, ← List.nil_append (' ' :: later),
        List.splitOn_append_cons_self]
      simp [List.splitOn_nil, word]
    · rw [behind, List.append_nil, List.splitOn_eq_singleton solid]
      simp [List.splitOn_nil, word]

theorem words_eq_pieces (line : String) : words line = pieces line :=
  map_text_scan 0 line.toList

end Arguments

/-! ## What the words of a line resolve to -/

namespace Scope

variable {scope : Scope} {first : String} {rest : List String}

theorem locate_of_selected {owner : Nat} (selected : scope.selected = some owner) :
    scope.locate (first :: rest) = .ok (owner, first) := by
  simp only [locate, selected]

theorem locate_of_unselected {owner : Nat} {name : String} (unselected : scope.selected = none)
    (nonempty : name ≠ "") (found : scope.registry.find? scope.extent first = some owner) :
    scope.locate (first :: name :: rest) = .ok (owner, name) := by
  simp only [locate, unselected, if_neg nonempty, found]

/-- Without a selected module a lone word locates nothing. -/
theorem locate_of_lone (unselected : scope.selected = none) :
    scope.locate [first] = .error (.unrecognizedCommand first) := by
  simp only [locate, unselected]

theorem locate_of_no_module {name : String} (unselected : scope.selected = none)
    (nonempty : name ≠ "") (missing : scope.registry.find? scope.extent first = none) :
    scope.locate (first :: name :: rest) = .error (.illegalModule first) := by
  simp only [locate, unselected, if_neg nonempty, missing]

/-- Words that are no built-in resolve to the command that they locate. -/
theorem resolve_of_locate_eq_ok {owner : Nat} {name : String} (nonempty : first ≠ "")
    (help : first ≠ "help") (select : first ≠ "select")
    (located : scope.locate (first :: rest) = .ok (owner, name)) :
    scope.resolve (first :: rest) =
      match (scope.registry.get? owner).bind (·.indexOf? name) with
      | some index => .ok (.command owner index)
      | none => .error (scope.missing owner name) := by
  have parameter : ¬ (rest = [] ∧ scope.selected = none) := by
    rintro ⟨rfl, selected⟩
    simp [locate, selected] at located
  simp only [resolve, if_neg nonempty, if_neg help, if_neg select, if_neg parameter, located]
  rfl

/-- Words that are no built-in and locate nothing do not resolve; a lone word without a selected
module has a fault of its own. -/
theorem resolve_of_locate_eq_error {fault : Fault} (nonempty : first ≠ "")
    (help : first ≠ "help") (select : first ≠ "select")
    (located : scope.locate (first :: rest) = .error fault) :
    scope.resolve (first :: rest) =
      .error (if rest = [] ∧ scope.selected = none then .missingParameter else fault) := by
  simp only [resolve, if_neg nonempty, if_neg help, if_neg select, located]
  split
  · rfl
  · rfl

theorem command_of_locate_eq_error {words : List String} {fault : Fault}
    (located : scope.locate words = .error fault) : scope.command words = .error fault := by
  simp only [Scope.command, located]
  rfl

/-- The command that words name depends on the place that they locate only. -/
theorem command_of_locate_eq_ok {words : List String} {owner : Nat} {name : String}
    (located : scope.locate words = .ok (owner, name)) :
    scope.command words =
      match (scope.registry.get? owner).bind (·.find? name) with
      | some found => .ok found
      | none => .error (scope.missing owner name) := by
  simp only [Scope.command, located]
  rfl

/-- The help of words that locate a command depends on the place only. -/
theorem describe_of_locate_eq_ok {words : List String} {owner : Nat} {name : String}
    (located : scope.locate words = .ok (owner, name)) :
    scope.describe words =
      match (scope.registry.get? owner).bind (·.find? name) with
      | some command => command.describe
      | none => (Fault.unrecognizedCommand (words.headD "")).message ++ "\n" := by
  have named := command_of_locate_eq_ok located
  cases found : (scope.registry.get? owner).bind (·.find? name) with
  | some command =>
    rw [found] at named
    simp only [describe, named]
  | none =>
    rw [found] at named
    have hidden : (scope.missing owner name).isDiagnostic = false := by rfl
    simp only [describe, named, hidden]
    rfl

theorem resolve_ne_select (other : first ≠ "select") :
    scope.resolve (first :: rest) ≠ .ok .select := by
  intro resolved
  by_cases nonempty : first = ""
  · simp [resolve, nonempty] at resolved
  · by_cases help : first = "help"
    · simp [resolve, help] at resolved
    · cases located : scope.locate (first :: rest) with
      | error fault =>
        rw [resolve_of_locate_eq_error nonempty help other located] at resolved
        cases resolved
      | ok place =>
        rw [resolve_of_locate_eq_ok nonempty help other located] at resolved
        split at resolved <;> cases resolved

end Scope

/-! ## What a line does before the prompt -/

namespace Shell

open Arguments (words)

variable {shell : Shell} {line first : String} {rest : List String}

theorem body_of_many (many : shell.config.maxArgs < (words line).length) :
    shell.body line = ⟨shell, [.line (Fault.tooManyArguments shell.config.maxArgs).message]⟩ := by
  simp only [body, Arguments.ofLine_eq_error many]

theorem body_of_no_words (empty : words line = []) : shell.body line = ⟨shell, []⟩ := by
  have few : (words line).length ≤ shell.config.maxArgs := by simp [empty]
  have texts : (Arguments.mk (Argument.scan 0 line.toList)).texts = [] := empty
  simp only [body, Arguments.ofLine_eq_ok few, texts]

theorem body_of_words (read : words line = first :: rest)
    (few : rest.length + 1 ≤ shell.config.maxArgs) :
    shell.body line = shell.dispatch (first :: rest) := by
  have bound : (words line).length ≤ shell.config.maxArgs := by simpa [read] using few
  have texts : (Arguments.mk (Argument.scan 0 line.toList)).texts = first :: rest := read
  simp only [body, Arguments.ofLine_eq_ok bound, texts]

theorem dispatch_help :
    shell.dispatch ("help" :: rest) = ⟨shell, [.printed (shell.scope.helpText rest)]⟩ := by
  simp [dispatch, Scope.resolve]

theorem dispatch_select : shell.dispatch ("select" :: rest) = shell.selectBuiltin rest := by
  simp [dispatch, Scope.resolve]

/-- The outcome of words that are no built-in and locate a command: the first command of that name
is called, or else the lack of one is recorded and the words fall back. -/
theorem dispatch_of_locate {owner : Nat} {name : String} (nonempty : first ≠ "")
    (help : first ≠ "help") (select : first ≠ "select")
    (located : shell.scope.locate (first :: rest) = .ok (owner, name)) :
    shell.dispatch (first :: rest) = ⟨shell,
      .logged .debug ("module: " ++ toString owner ++ ", command: " ++ name) ::
        match (shell.registry.get? owner).bind (·.indexOf? name) with
        | some index =>
          match shell.registry.command? owner index with
          | some command => shell.call (.command owner index) command.handler (first :: rest)
          | none => []
        | none =>
          .logged .debug (shell.scope.missing owner name).message ::
            shell.fallBack (first :: rest)⟩ := by
  have resolved := Scope.resolve_of_locate_eq_ok nonempty help select located
  have records : shell.scope.lookupRecords (first :: rest) =
      [.logged .debug ("module: " ++ toString owner ++ ", command: " ++ name)] := by
    simp only [Scope.lookupRecords, located]
  have registry : shell.scope.registry = shell.registry := rfl
  rw [registry] at resolved
  cases there : (shell.registry.get? owner).bind (·.indexOf? name) with
  | some index =>
    rw [there] at resolved
    simp only [dispatch, resolved, records]
    rfl
  | none =>
    rw [there] at resolved
    simp only [dispatch, resolved, records]
    rfl

/-- The outcome of words that resolve to a command. -/
theorem dispatch_of_resolve_eq_command {words : List String} {owner index : Nat}
    {command : Command} (resolved : shell.scope.resolve words = .ok (.command owner index))
    (known : shell.registry.command? owner index = some command) :
    shell.dispatch words = ⟨shell, shell.scope.lookupRecords words ++
      shell.call (.command owner index) command.handler words⟩ := by
  simp only [dispatch, resolved, known]

/-- The outcome of words that do not resolve. -/
theorem dispatch_of_resolve_eq_error {words : List String} {fault : Fault}
    (unresolved : shell.scope.resolve words = .error fault) :
    shell.dispatch words = ⟨shell, shell.scope.lookupRecords words ++
      report fault :: shell.fallBack words⟩ := by
  simp only [dispatch, unresolved]

/-- A name that can be typed and that a search finds is selected, whatever is selected now. -/
theorem select_of_find? {name : String} {index : Nat}
    (short : name.length ≤ shell.config.maxNameLength)
    (found : shell.registry.find? shell.config.extent name = some index) :
    shell.select name = (.ok index,
      ⟨{ shell with selection := .ofName index name },
        [.logged .debug ("default module set to " ++ name ++ " ("
          ++ toString index ++ ")")]⟩) := by
  have choice : Selection.choose shell.registry shell.config.maxNameLength shell.config.extent name
      = .ok index := Selection.choose_eq_ok_iff.mpr ⟨short, found⟩
  simp only [select, choice]

/-- The built-in `select` leaves what selecting the first name leaves; the rest is ignored. -/
theorem shell_selectBuiltin_cons (name : String) (others : List String) :
    (shell.selectBuiltin (name :: others)).shell = (shell.select name).2.shell := by
  simp only [selectBuiltin]
  split
  · next index turn selected => rw [selected]
  · next fault turn refused =>
    rw [refused]
    rfl

/-- What a name typed after `select` selects. -/
abbrev choose (shell : Shell) (name : String) : Except Fault Nat :=
  Selection.choose shell.registry shell.config.maxNameLength shell.config.extent name

theorem selectBuiltin_of_choose_eq_ok {name : String} {others : List String} {index : Nat}
    (choice : shell.choose name = .ok index) :
    shell.selectBuiltin (name :: others) =
      ⟨{ shell with selection := .ofName index name },
        [.logged .debug ("default module set to " ++ name ++ " ("
          ++ toString index ++ ")")]⟩ := by
  simp only [selectBuiltin, select, choice]

theorem select_of_choose_eq_error {name : String} {fault : Fault}
    (refused : shell.choose name = .error fault) :
    shell.select name = (.error fault, ⟨shell, []⟩) := by
  simp only [select, refused]

/-- A name that selects nothing is reported at the start, where no prompt follows. -/
theorem openWith_of_choose_eq_error {name : String} {fault : Fault}
    (refused : shell.choose name = .error fault) :
    shell.openWith name = (.error fault, ⟨shell, [.line fault.message]⟩) := by
  simp only [openWith, select_of_choose_eq_error refused]
  rfl

/-- A name that selects nothing is reported, and the selection stays as it was. -/
theorem selectBuiltin_of_choose_eq_error {name : String} {others : List String} {fault : Fault}
    (refused : shell.choose name = .error fault) :
    shell.selectBuiltin (name :: others) = ⟨shell, [.line fault.message]⟩ := by
  simp only [selectBuiltin, select_of_choose_eq_error refused]
  rfl

/-- Among the words of a line only `select` as the first one touches the shell. -/
theorem shell_dispatch (other : first ≠ "select") :
    (shell.dispatch (first :: rest)).shell = shell := by
  unfold dispatch
  split
  · rfl
  · next resolved => exact (Scope.resolve_ne_select other resolved).elim
  · rfl
  · rfl

theorem shell_body (shell : Shell) (line : String) :
    (shell.body line).shell = shell ∨
      ∃ rest, words line = "select" :: rest ∧ shell.body line = shell.selectBuiltin rest := by
  by_cases many : shell.config.maxArgs < (words line).length
  · rw [body_of_many many]
    exact .inl rfl
  · cases read : words line with
    | nil =>
      rw [body_of_no_words read]
      exact .inl rfl
    | cons first rest =>
      rw [read, List.length_cons] at many
      have dispatched := body_of_words read (Nat.le_of_not_lt many)
      rw [dispatched]
      by_cases select : first = "select"
      · subst select
        exact .inr ⟨rest, rfl, dispatch_select⟩
      · exact .inl (shell_dispatch select)

/-! ## Calls and texts -/

theorem selected_scope (shell : Shell) : shell.scope.selected = shell.selection.index? := rfl

theorem handed_of_unselected (unselected : shell.selection.index? = none) (words : List String) :
    shell.handed words = words.drop 1 := by
  simp [handed, Selection.isSelected, unselected]

theorem handed_of_selected {owner : Nat} (chosen : shell.selection.index? = some owner)
    (words : List String) : shell.handed words = words := by
  simp [handed, Selection.isSelected, chosen]

/-- What a handler receives depends on whether a module is selected, and not on which. -/
theorem handed_eq_ite (words : List String) :
    shell.handed words = if shell.selection.index? = none then words.tail else words := by
  cases selection : shell.selection.index? with
  | none => rw [handed_of_unselected selection, List.drop_one, if_pos rfl]
  | some owner => rw [handed_of_selected selection, if_neg nofun]

theorem calls_call (callee : Callee) (handler : Handler) (words : List String) :
    Event.calls (shell.call callee handler words) = [(callee, shell.handed words)] := by
  simp only [call]
  split <;> rfl

theorem calls_lookupRecords (scope : Scope) (words : List String) :
    Event.calls (scope.lookupRecords words) = [] := by
  unfold Scope.lookupRecords
  split <;> rfl

theorem calls_report (fault : Fault) : Event.calls [report fault] = [] := by
  unfold report
  split <;> rfl

/-- Words that name no command call the fallback handler, if there is one. -/
theorem calls_fallBack (words : List String) :
    Event.calls (shell.fallBack words) =
      (shell.fallback.map fun _ => (Callee.fallback, shell.handed words)).toList := by
  unfold fallBack
  split
  · next handler installed => rw [installed, calls_call, Option.map_some, Option.toList_some]
  · next absent =>
    rw [absent]
    rfl

theorem calls_selectBuiltin (rest : List String) :
    Event.calls (shell.selectBuiltin rest).events = [] := by
  cases rest with
  | nil => rfl
  | cons name others =>
    cases choice : shell.choose name with
    | ok index =>
      rw [selectBuiltin_of_choose_eq_ok choice]
      rfl
    | error fault =>
      rw [selectBuiltin_of_choose_eq_error choice]
      rfl

/-- Words call the command that they resolve to, and the fallback handler when they do not
resolve; why they do not makes no difference. -/
theorem calls_dispatch (words : List String) :
    Event.calls (shell.dispatch words).events =
      match (shell.scope.resolve words).toOption with
      | some (.command owner index) =>
        ((shell.registry.command? owner index).map fun _ =>
          (Callee.command owner index, shell.handed words)).toList
      | some _ => []
      | none => (shell.fallback.map fun _ => (Callee.fallback, shell.handed words)).toList := by
  cases resolved : shell.scope.resolve words with
  | error fault =>
    rw [dispatch_of_resolve_eq_error resolved, Event.calls_append, calls_lookupRecords,
      List.nil_append, ← List.singleton_append, Event.calls_append, calls_report,
      List.nil_append, calls_fallBack]
    rfl
  | ok target =>
    cases target with
    | help =>
      simp only [dispatch, resolved]
      rfl
    | select =>
      simp only [dispatch, resolved, calls_selectBuiltin]
      rfl
    | command owner index =>
      cases known : shell.registry.command? owner index with
      | none =>
        simp only [dispatch, resolved, known, List.append_nil, calls_lookupRecords, Except.toOption]
        rfl
      | some command =>
        rw [dispatch_of_resolve_eq_command resolved known, Event.calls_append,
          calls_lookupRecords, List.nil_append, calls_call]
        simp only [Except.toOption, known]
        rfl

theorem console_lookupRecords (scope : Scope) (words : List String) :
    Event.console (scope.lookupRecords words) = "" := by
  unfold Scope.lookupRecords
  split <;> rfl

/-- A called handler prints its output, and a failed one the help of the words. -/
theorem console_call (callee : Callee) (handler : Handler) (words : List String) :
    Event.console (shell.call callee handler words) =
      (handler (shell.handed words)).output ++
        if (handler (shell.handed words)).status < 0 then shell.scope.describe words else "" := by
  simp only [call]
  split <;> simp

/-! ## The prompt after a line -/

/-- Showing the prompt asks the prompt hook once, if there is one, and changes nothing else. -/
theorem shell_showPrompt (shell : Shell) :
    shell.showPrompt.shell =
      { shell with promptHook := shell.promptHook.map PromptHook.next } := by
  rcases shell with ⟨config, registry, selection, fallback, _ | hook⟩ <;> rfl

/-- Without a prompt hook, showing the prompt leaves the shell as it is. -/
theorem showPrompt_of_no_hook (absent : shell.promptHook = none) :
    shell.showPrompt =
      ⟨shell, [.printed (shell.selection.prompt?.getD shell.config.prompt)]⟩ := by
  simp only [showPrompt, prompt, absent]
  rfl

theorem promptHook_body (shell : Shell) (line : String) :
    (shell.body line).shell.promptHook = shell.promptHook := by
  rcases shell_body shell line with same | ⟨rest, _, selects⟩
  · rw [same]
  · rw [selects]
    cases rest with
    | nil => rfl
    | cons name others =>
      cases choice : shell.choose name with
      | ok index => rw [selectBuiltin_of_choose_eq_ok choice]
      | error fault => rw [selectBuiltin_of_choose_eq_error choice]

theorem calls_showPrompt (shell : Shell) : Event.calls shell.showPrompt.events = [] := by
  rcases shell with ⟨config, registry, selection, fallback, _ | hook⟩ <;> rfl

theorem calls_execute (shell : Shell) (line : String) :
    Event.calls (shell.execute line).events = Event.calls (shell.body line).events := by
  simp only [execute, Turn.events_andThen, Event.calls_append, calls_showPrompt, List.append_nil]

/-- A line calls what its words do, unless there are none or too many. -/
theorem calls_execute_eq_ite (shell : Shell) (line : String) :
    Event.calls (shell.execute line).events =
      if words line = [] ∨ shell.config.maxArgs < (words line).length then []
      else Event.calls (shell.dispatch (words line)).events := by
  rw [calls_execute]
  rcases Nat.lt_or_ge shell.config.maxArgs (words line).length with many | few
  · rw [body_of_many many, if_pos (.inr many)]
    rfl
  · cases read : words line with
    | nil =>
      rw [body_of_no_words read, if_pos (.inl rfl)]
      rfl
    | cons first rest =>
      rw [read] at few
      rw [body_of_words read few, if_neg]
      simpa using few

end Shell

end CommandShell
