import CommandShell.Config.Reading
import CommandShell.Pool.Basic
import CommandShell.Proofs.List.FirstAt
import CommandShell.Proofs.Shell.Coherence

/-!
# Which configurations are accepted

A document is refused as malformed when a known key holds a value of the wrong kind
(`Config.Misfits`). Every other document writes one configuration (`Config.Written`): each field
is what its key holds, or its default. Of that configuration the first demand that it does not
meet is reported (`Config.demands`), and it is accepted when it meets them all. Nothing but the
eight known keys is looked at (`Config.ofText_of_entries`).

What is accepted can be run with: a shell and a line pool can be made of it, as far as the memory
for them is granted. What is refused is refused by the shell for the same fault, before it asks
for memory.
-/

namespace CommandShell

open Toml (Node Entries)

namespace Config

/-! ## What a document writes -/

/-- The node is the text. -/
inductive WritesText : Node → String → Prop
  | intro {value : String} : WritesText (.text value) value

/-- The node is the number. -/
inductive WritesSize : Node → Nat → Prop
  | intro {value : Nat} : WritesSize (.integer value) value

/-- The names of the two ways of comparison. -/
inductive Called : String → NameMatch → Prop
  | exact : Called "exact" .exact
  | leading : Called "prefix" .leading

/-- The node holds nothing. -/
inductive Hollow : Node → Prop
  | array : Hollow (.array [])
  | inline : Hollow (.inline [])
  | table {origin : Toml.Origin} : Hollow (.table origin [])

/-- The node is the name of the way of comparison, or a table with nothing but that name over
nothing. -/
inductive WritesMatch : Node → NameMatch → Prop
  | name {name : String} {value : NameMatch} : Called name value → WritesMatch (.text name) value
  | inline {name : String} {node : Node} {value : NameMatch} :
    Called name value → Hollow node → WritesMatch (.inline [(name, node)]) value
  | table {origin : Toml.Origin} {name : String} {node : Node} {value : NameMatch} :
    Called name value → Hollow node → WritesMatch (.table origin [(name, node)]) value

/-- The field of a key: what the node under the key writes, or the default when there is none. -/
inductive Says {α : Type} (entries : Entries) (key : String) (writes : Node → α → Prop)
    (default : α) : α → Prop
  | missing : entries.find? key = none → Says entries key writes default default
  | written {node : Node} {value : α} :
    entries.find? key = some node → writes node value → Says entries key writes default value

/-- The entries write the configuration. -/
structure Written (entries : Entries) (config : Config) : Prop where
  prompt : Says entries "prompt" WritesText "shell> " config.prompt
  maxModules : Says entries "max_modules" WritesSize 8 config.maxModules
  maxArgs : Says entries "max_args" WritesSize 20 config.maxArgs
  maxQueued : Says entries "max_queued" WritesSize 2 config.maxQueued
  maxLineBytes : Says entries "max_line_len" WritesSize 256 config.maxLineBytes
  maxNameLength : Says entries "module_name_max_len" WritesSize 20 config.maxNameLength
  nameMatch : Says entries "module_match" WritesMatch .exact config.nameMatch
  defaultModule : Says entries "default_module"
    (fun node value => ∃ name, WritesText node name ∧ value = some name) none config.defaultModule

/-- The keys of texts. -/
def textKeys : List String :=
  ["prompt", "default_module"]

/-- The keys of numbers. -/
def sizeKeys : List String :=
  ["max_modules", "max_args", "max_queued", "max_line_len", "module_name_max_len"]

/-- The keys that a configuration is read from. -/
def keys : List String :=
  textKeys ++ sizeKeys ++ ["module_match"]

/-- A value of the wrong kind stands under one of the keys. -/
inductive Misfits (entries : Entries) : Prop
  | text {key : String} {node : Node} :
    key ∈ textKeys → entries.find? key = some node → (∀ value, ¬ WritesText node value) →
    Misfits entries
  | size {key : String} {node : Node} :
    key ∈ sizeKeys → entries.find? key = some node → (∀ value, ¬ WritesSize node value) →
    Misfits entries
  | nameMatch {node : Node} :
    entries.find? "module_match" = some node → (∀ value, ¬ WritesMatch node value) →
    Misfits entries

/-- What a configuration must have to be run with, in the order in which it is checked, with what
is said when it has not. -/
def demands (config : Config) : List (String × Prop) :=
  [("prompt must not be empty", config.prompt ≠ ""),
   ("max_modules must be at least 1", 0 < config.maxModules),
   ("max_args must be at least 1", 0 < config.maxArgs),
   ("max_queued must be at least 1", 0 < config.maxQueued),
   ("max_line_len must be at least 1", 0 < config.maxLineBytes),
   ("module_name_max_len must be at least 1", 0 < config.maxNameLength)]

/-- What checking a configuration comes to: it is accepted when every demand is met, and else
refused for the first one that is not. -/
inductive Judged (config : Config) : Except Fault Config → Prop
  | accepted : (∀ demand ∈ config.demands, demand.2) → Judged config (.ok config)
  | refused {index : Nat} {demand : String × Prop} :
    FirstAt (¬ ·.2) config.demands index demand →
    Judged config (.error (.invalidConfig demand.1))

variable {entries other : Entries} {key expected name : String} {node : Node} {config : Config}
  {α β : Type}

/-! ## Reading one field -/

theorem text?_eq_some_iff {value : String} : text? node = some value ↔ WritesText node value := by
  constructor
  · intro read
    unfold text? at read
    split at read <;> cases read
    exact .intro
  · rintro ⟨⟩
    rfl

theorem size?_eq_some_iff {value : Nat} : size? node = some value ↔ WritesSize node value := by
  constructor
  · intro read
    unfold size? at read
    split at read <;> cases read
    exact .intro
  · rintro ⟨⟩
    rfl

theorem nameMatch?_eq_some_iff {value : NameMatch} :
    nameMatch? name = some value ↔ Called name value := by
  constructor
  · intro read
    unfold nameMatch? at read
    split at read <;> cases read
    · exact .exact
    · exact .leading
  · rintro ⟨⟩ <;> rfl

theorem isHollow_iff : isHollow node = true ↔ Hollow node := by
  constructor
  · intro hollow
    unfold isHollow at hollow
    split at hollow
    · exact .array
    · exact .inline
    · exact .table
    · cases hollow
  · rintro ⟨⟩ <;> rfl

theorem matching?_eq_some_iff {value : NameMatch} :
    matching? node = some value ↔ WritesMatch node value := by
  constructor
  · intro read
    unfold matching? at read
    split at read
    · exact .name (nameMatch?_eq_some_iff.mp read)
    · obtain ⟨hollow, read⟩ := Option.ite_none_right_eq_some.mp read
      exact .inline (nameMatch?_eq_some_iff.mp read) (isHollow_iff.mp hollow)
    · obtain ⟨hollow, read⟩ := Option.ite_none_right_eq_some.mp read
      exact .table (nameMatch?_eq_some_iff.mp read) (isHollow_iff.mp hollow)
    · cases read
  · intro writes
    cases writes with
    | name called => exact nameMatch?_eq_some_iff.mpr called
    | inline called hollow =>
      exact (if_pos (isHollow_iff.mpr hollow)).trans (nameMatch?_eq_some_iff.mpr called)
    | table called hollow =>
      exact (if_pos (isHollow_iff.mpr hollow)).trans (nameMatch?_eq_some_iff.mpr called)

/-- Reading a field gives what its key says. -/
theorem field_eq_ok_iff {read : Node → Option α} {writes : Node → α → Prop} {default value : α}
    (reads : ∀ {node value}, read node = some value ↔ writes node value) :
    field entries key expected read default = .ok value ↔
      Says entries key writes default value := by
  constructor
  · intro taken
    unfold field at taken
    split at taken
    · next missing =>
      cases taken
      exact .missing missing
    · next node there =>
      split at taken
      · next value' written =>
        cases taken
        exact .written there (reads.mp written)
      · cases taken
  · intro told
    cases told with
    | missing missing => simp only [field, missing]
    | written there writes => simp only [field, there, reads.mpr writes]

/-! ## Reading all fields -/

/-- What reading some of the fields comes to: a good value, or the fault of a value of the wrong
kind. -/
inductive Reading (entries : Entries) (good : α → Prop) : Except Fault α → Prop
  | ok {value : α} : good value → Reading entries good (.ok value)
  | misfit {reason : String} :
    Misfits entries → Reading entries good (.error (.malformedToml reason))

theorem Reading.bind {good : α → Prop} {next : β → Prop} {result : Except Fault α}
    {rest : α → Except Fault β} (reading : Reading entries good result)
    (later : ∀ value, good value → Reading entries next (rest value)) :
    Reading entries next (result >>= rest) := by
  cases reading with
  | ok holds => exact later _ holds
  | misfit misfits => exact .misfit misfits

/-- Reading a field, when a value that the field does not take is one of the wrong kind. -/
theorem reading_field {read : Node → Option α} {writes : Node → α → Prop} {default : α}
    (reads : ∀ {node value}, read node = some value ↔ writes node value)
    (misfit : ∀ {node}, entries.find? key = some node → (∀ value, ¬ writes node value) →
      Misfits entries) :
    Reading entries (Says entries key writes default)
      (field entries key expected read default) := by
  cases taken : field entries key expected read default with
  | ok value => exact .ok ((field_eq_ok_iff reads).mp taken)
  | error fault =>
    unfold field at taken
    split at taken
    · cases taken
    · next node there =>
      split at taken
      · cases taken
      · next refused =>
        cases taken
        refine .misfit (misfit there fun value writes => ?_)
        rw [reads.mpr writes] at refused
        cases refused

theorem reading_text {default : String} (known : key ∈ textKeys) :
    Reading entries (Says entries key WritesText default)
      (field entries key expected text? default) :=
  reading_field text?_eq_some_iff (.text known)

theorem reading_size {default : Nat} (known : key ∈ sizeKeys) :
    Reading entries (Says entries key WritesSize default)
      (field entries key expected size? default) :=
  reading_field size?_eq_some_iff (.size known)

theorem reading_nameMatch {default : NameMatch} :
    Reading entries (Says entries "module_match" WritesMatch default)
      (field entries "module_match" expected matching? default) :=
  reading_field matching?_eq_some_iff .nameMatch

theorem map_text?_eq_some_iff {value : Option String} :
    (text? node).map some = some value ↔ ∃ name, WritesText node name ∧ value = some name := by
  rw [Option.map_eq_some_iff]
  refine exists_congr fun name => ?_
  rw [text?_eq_some_iff, eq_comm (a := some name)]

theorem reading_optional (known : key ∈ textKeys) :
    Reading entries
      (Says entries key (fun node value => ∃ name, WritesText node name ∧ value = some name) none)
      (field entries key expected (fun node => (text? node).map some) none) := by
  refine reading_field map_text?_eq_some_iff fun there unwritten => .text known there ?_
  exact fun name writes => unwritten (some name) ⟨name, writes, rfl⟩

/-- The fields are read one after the other, until one has a value of the wrong kind. -/
theorem reading_ofEntries (entries : Entries) :
    Reading entries (Written entries) (ofEntries entries) := by
  unfold ofEntries
  refine (reading_text (by decide)).bind fun _ prompt => ?_
  refine (reading_size (by decide)).bind fun _ maxModules => ?_
  refine (reading_size (by decide)).bind fun _ maxArgs => ?_
  refine (reading_size (by decide)).bind fun _ maxQueued => ?_
  refine (reading_size (by decide)).bind fun _ maxLineBytes => ?_
  refine (reading_size (by decide)).bind fun _ maxNameLength => ?_
  refine reading_nameMatch.bind fun _ nameMatch => ?_
  refine (reading_optional (by decide)).bind fun _ defaultModule => ?_
  exact .ok ⟨prompt, maxModules, maxArgs, maxQueued, maxLineBytes, maxNameLength, nameMatch,
    defaultModule⟩

/-- A configuration that the entries write is the one that is read. -/
theorem Written.ofEntries_eq (written : Written entries config) :
    ofEntries entries = .ok config := by
  simp only [ofEntries, (field_eq_ok_iff text?_eq_some_iff).mpr written.prompt,
    (field_eq_ok_iff size?_eq_some_iff).mpr written.maxModules,
    (field_eq_ok_iff size?_eq_some_iff).mpr written.maxArgs,
    (field_eq_ok_iff size?_eq_some_iff).mpr written.maxQueued,
    (field_eq_ok_iff size?_eq_some_iff).mpr written.maxLineBytes,
    (field_eq_ok_iff size?_eq_some_iff).mpr written.maxNameLength,
    (field_eq_ok_iff matching?_eq_some_iff).mpr written.nameMatch,
    (field_eq_ok_iff map_text?_eq_some_iff).mpr written.defaultModule]
  rfl

/-- A key that says something holds no value of the wrong kind. -/
theorem Says.exists_writes {writes : Node → α → Prop} {default value : α}
    (told : Says entries key writes default value) (there : entries.find? key = some node) :
    ∃ value, writes node value := by
  cases told with
  | missing missing =>
    rw [missing] at there
    cases there
  | written is writes =>
    rw [is] at there
    cases there
    exact ⟨_, writes⟩

theorem Written.exists_text (written : Written entries config) :
    ∀ key ∈ textKeys, ∀ node, entries.find? key = some node → ∃ value, WritesText node value := by
  simp only [textKeys, List.forall_mem_cons]
  refine ⟨fun _ => written.prompt.exists_writes, fun _ there => ?_, nofun⟩
  obtain ⟨_, name, writes, _⟩ := written.defaultModule.exists_writes there
  exact ⟨name, writes⟩

theorem Written.exists_size (written : Written entries config) :
    ∀ key ∈ sizeKeys, ∀ node, entries.find? key = some node → ∃ value, WritesSize node value := by
  simp only [sizeKeys, List.forall_mem_cons]
  exact ⟨fun _ => written.maxModules.exists_writes, fun _ => written.maxArgs.exists_writes,
    fun _ => written.maxQueued.exists_writes, fun _ => written.maxLineBytes.exists_writes,
    fun _ => written.maxNameLength.exists_writes, nofun⟩

/-- The entries write a configuration only where no key holds a value of the wrong kind. -/
theorem Written.not_misfits (written : Written entries config) : ¬ Misfits entries := by
  intro misfits
  cases misfits with
  | text known there unwritten =>
    obtain ⟨value, writes⟩ := written.exists_text _ known _ there
    exact unwritten value writes
  | size known there unwritten =>
    obtain ⟨value, writes⟩ := written.exists_size _ known _ there
    exact unwritten value writes
  | nameMatch there unwritten =>
    obtain ⟨value, writes⟩ := written.nameMatch.exists_writes there
    exact unwritten value writes

theorem exists_written (fits : ¬ Misfits entries) : ∃ config, Written entries config := by
  have reading := reading_ofEntries entries
  generalize ofEntries entries = result at reading
  cases reading with
  | ok written => exact ⟨_, written⟩
  | misfit misfits => exact absurd misfits fits

/-- What is read is what the entries write. -/
theorem written_of_toOption_eq_some (read : (ofEntries entries).toOption = some config) :
    Written entries config := by
  have reading := reading_ofEntries entries
  generalize ofEntries entries = result at reading read
  cases reading with
  | ok written =>
    cases read
    exact written
  | misfit _ => cases read

theorem exists_malformed (misfits : Misfits entries) :
    ∃ reason, ofEntries entries = .error (.malformedToml reason) := by
  have reading := reading_ofEntries entries
  generalize ofEntries entries = result at reading ⊢
  cases reading with
  | ok written => exact absurd misfits written.not_misfits
  | misfit _ => exact ⟨_, rfl⟩

/-- The entries write one configuration at most. -/
theorem Written.unique {another : Config} (written : Written entries config)
    (again : Written entries another) : another = config :=
  Except.ok.inj (again.ofEntries_eq.symm.trans written.ofEntries_eq)

theorem field_congr {read : Node → Option α} {default : α}
    (same : entries.find? key = other.find? key) :
    field entries key expected read default = field other key expected read default := by
  simp only [field, same]

/-- Only the known keys are looked at. -/
theorem ofEntries_congr (same : ∀ key ∈ keys, entries.find? key = other.find? key) :
    ofEntries entries = ofEntries other := by
  simp only [ofEntries, field_congr (same "prompt" (by decide)),
    field_congr (same "max_modules" (by decide)), field_congr (same "max_args" (by decide)),
    field_congr (same "max_queued" (by decide)), field_congr (same "max_line_len" (by decide)),
    field_congr (same "module_name_max_len" (by decide)),
    field_congr (same "module_match" (by decide)), field_congr (same "default_module" (by decide))]

/-! ## Checking -/

/-- That a capacity is not zero, with what is said when it is. -/
def positive (capacity : String × Nat) : String × Prop :=
  (capacity.1 ++ " must be at least 1", 0 < capacity.2)

theorem demands_eq (config : Config) :
    config.demands =
      ("prompt must not be empty", config.prompt ≠ "") :: config.capacities.map positive := by
  rfl

/-- A configuration without a prompt is refused for that, and one with a prompt for its first
capacity that is zero. -/
theorem judged_validate (config : Config) :
    Judged config (config.validate.map fun _ => config) := by
  unfold validate problem?
  by_cases empty : config.prompt = ""
  · have first : FirstAt (¬ ·.2) config.demands 0
        ("prompt must not be empty", config.prompt ≠ "") :=
      ⟨rfl, fun met => met empty, nofun⟩
    rw [if_pos empty]
    exact .refused first
  · rw [if_neg empty]
    cases found : config.capacities.find? (·.2 = 0) with
    | none =>
      have nonzero := List.find?_eq_none.mp found
      simp only [decide_eq_true_eq] at nonzero
      refine .accepted ?_
      rw [demands_eq, List.forall_mem_cons, List.forall_mem_map]
      exact ⟨empty, fun capacity member => Nat.pos_of_ne_zero (nonzero capacity member)⟩
    | some capacity =>
      have zero (capacity : String × Nat) :
          decide (capacity.2 = 0) = true ↔ ¬ 0 < capacity.2 := by
        rw [decide_eq_true_eq, Nat.not_lt, Nat.le_zero]
      obtain ⟨index, first⟩ := exists_firstAt_of_find? zero found
      have first : FirstAt (¬ ·.2) config.demands (index + 1) (positive capacity) := by
        rw [demands_eq]
        exact .cons (not_not_intro empty) (.map first)
      exact .refused first

/-- Checking comes to one thing only. -/
theorem Judged.unique {result verdict : Except Fault Config} (judged : Judged config result)
    (again : Judged config verdict) : result = verdict := by
  cases judged with
  | accepted met =>
    cases again with
    | accepted _ => rfl
    | refused first => exact absurd (met _ (List.mem_of_getElem? first.there)) first.holds
  | refused first =>
    cases again with
    | accepted met => exact absurd (met _ (List.mem_of_getElem? first.there)) first.holds
    | refused second =>
      obtain ⟨-, rfl⟩ := first.unique second
      rfl

theorem judged_iff {result : Except Fault Config} :
    Judged config result ↔ result = config.validate.map fun _ => config := by
  constructor
  · exact fun judged => judged.unique (judged_validate config)
  · rintro rfl
    exact judged_validate config

theorem create_eq_error_iff {fault : Fault} :
    Shell.create config = .error fault ↔ config.validate = .error fault := by
  unfold Shell.create
  cases config.validate with
  | error reason => constructor <;> rintro ⟨⟩ <;> rfl
  | ok _ => exact ⟨nofun, nofun⟩

/-- A shell can be made of an accepted configuration when its memory is granted. -/
theorem exists_allocate_iff {memory : Memory} :
    (∃ shell, Shell.allocate memory config = some (.ok shell)) ↔
      config.validate = .ok () ∧ memory.grants (Registry.requests config.maxModules) = true := by
  simp only [Shell.allocate, Memory.provide_eq_ok_iff]
  constructor
  · rintro ⟨shell, created, granted⟩
    exact ⟨(Shell.create_eq_ok_iff.mp created).1, granted⟩
  · rintro ⟨accepted, granted⟩
    exact ⟨_, Shell.create_eq_ok_iff.mpr ⟨accepted, rfl⟩, granted⟩

/-- No memory is large enough for the modules of every accepted configuration. -/
theorem allocate_eq_none_of_limit_lt {memory : Memory} (accepted : config.validate = .ok ())
    (large : Memory.limit < 48 * config.maxModules) : Shell.allocate memory config = none := by
  have refused : memory.grants (Registry.requests config.maxModules) = false :=
    Memory.grants_eq_false_of_limit_lt (List.mem_singleton.mpr rfl) large
  rw [Shell.allocate, Shell.create_eq_ok_iff.mpr ⟨accepted, rfl⟩]
  exact Memory.provide_of_refuses refused

/-- A configuration with which a shell can be made is good for a line pool too. -/
theorem exists_pool (accepted : config.validate = .ok ()) :
    ∃ pool, Pool.create config.maxQueued config.maxLineBytes = .ok pool := by
  obtain ⟨_, positive⟩ := validate_eq_ok_iff.mp accepted
  refine Pool.exists_create config.maxLineBytes (positive ("max_queued", config.maxQueued) ?_)
  simp [capacities]

/-- Nothing but the memory for it can keep a line pool from being made. -/
theorem allocate_pool_of_accepted {memory : Memory} (accepted : config.validate = .ok ()) :
    (∀ fault, Pool.allocate memory config.maxQueued config.maxLineBytes ≠ some (.error fault)) ∧
      ((∃ pool, Pool.allocate memory config.maxQueued config.maxLineBytes = some (.ok pool)) ↔
        memory.grants (Pool.requests config.maxQueued config.maxLineBytes) = true) := by
  obtain ⟨pool, created⟩ := exists_pool accepted
  simp only [Pool.allocate, Memory.provide_eq_ok_iff, ne_eq, Memory.provide_eq_error_iff, created]
  exact ⟨nofun, fun ⟨_, _, granted⟩ => granted, fun granted => ⟨pool, rfl, granted⟩⟩

/-! ## Reading and checking -/

/-- What the text of a document comes to. -/
theorem ofText_eq {text : String} (parsed : Entries.ofText? text = some entries) :
    ofText text = ofEntries entries >>= fun config => config.validate.map fun _ => config := by
  simp only [ofText, parsed]
  rfl

/-- A document is malformed when a key holds a value of the wrong kind. Any other document writes
exactly one configuration, and what becomes of the document is what checking that configuration
comes to. Documents that have the same under the known keys come to the same.

A shell is refused for what the check finds, and made exactly if the configuration passes the check
and the memory for the modules is granted. A configuration that passes is good for a line pool too,
which is made as soon as its memory is granted. -/
theorem ofText_of_entries {text : String} {entries : Entries}
    (parsed : Entries.ofText? text = some entries) :
    (Misfits entries → ∃ reason, ofText text = .error (.malformedToml reason)) ∧
    (¬ Misfits entries → ∃ config, (∀ other, Written entries other ↔ other = config) ∧
      Judged config (ofText text)) ∧
    (∀ otherText other, Entries.ofText? otherText = some other →
      (∀ key ∈ keys, other.find? key = entries.find? key) → ofText otherText = ofText text) ∧
    (∀ config, Judged config (config.validate.map fun _ => config) ∧ ∀ memory : Memory,
      (∀ fault, Shell.allocate memory config = some (.error fault) ↔
        config.validate = .error fault) ∧
      ((∃ shell, Shell.allocate memory config = some (.ok shell)) ↔
        config.validate = .ok () ∧ memory.grants (Registry.requests config.maxModules) = true) ∧
      (config.validate = .ok () →
        (∀ fault,
          Pool.allocate memory config.maxQueued config.maxLineBytes ≠ some (.error fault)) ∧
        ((∃ pool, Pool.allocate memory config.maxQueued config.maxLineBytes = some (.ok pool)) ↔
          memory.grants (Pool.requests config.maxQueued config.maxLineBytes) = true))) := by
  refine ⟨fun misfits => ?_, fun fits => ?_, fun otherText other otherParsed same => ?_,
    fun config => ⟨judged_validate config, fun memory =>
      ⟨fun _ => Memory.provide_eq_error_iff.trans create_eq_error_iff, exists_allocate_iff,
        allocate_pool_of_accepted⟩⟩⟩
  · obtain ⟨reason, malformed⟩ := exists_malformed misfits
    rw [ofText_eq parsed, malformed]
    exact ⟨reason, rfl⟩
  · obtain ⟨config, written⟩ := exists_written fits
    rw [ofText_eq parsed, written.ofEntries_eq]
    exact ⟨config, fun other => ⟨written.unique, fun same => same ▸ written⟩,
      judged_validate config⟩
  · rw [ofText_eq parsed, ofText_eq otherParsed, ofEntries_congr same]

/-- Two capacities are zero, the one that is checked last stands first, and keys of other names
hold what a known key may not. -/
def outOfOrder : String :=
  "max_queued = 0\ntitle = 1\nmax_args = 0\n[extra]\nprompt = 5\n"

theorem ofText_of_entries_outOfOrder :
    (∃ entries, Entries.ofText? outOfOrder = some entries ∧ ¬ Misfits entries) ∧
      ofText outOfOrder = .error (.invalidConfig "max_args must be at least 1") := by
  obtain ⟨entries, parsed, read⟩ : ∃ entries, Entries.ofText? outOfOrder = some entries ∧
      (ofEntries entries).toOption = some { maxArgs := 0, maxQueued := 0 } :=
    Option.bind_eq_some_iff.mp (by decide +kernel)
  have written := written_of_toOption_eq_some read
  obtain ⟨-, fits, -⟩ := ofText_of_entries parsed
  obtain ⟨config, only, judged⟩ := fits written.not_misfits
  obtain rfl := (only _).mp written
  exact ⟨⟨entries, parsed, written.not_misfits⟩, judged_iff.mp judged⟩

/-- The way of comparison is written as a table with nothing but its name over an empty table. -/
def tableForm : String :=
  "module_match = \x7b exact = \x7b\x7d \x7d\n"

/-- A way of comparison that is no text is accepted. And a number of modules is accepted for which
no memory can be had. -/
theorem ofText_tableForm :
    ((Entries.ofText? tableForm).bind (·.find? "module_match")).map text? = some none ∧
      (ofText tableForm).toOption = some {} ∧
      validate { maxModules := Memory.limit } = .ok () ∧
      Shell.allocate .ample { maxModules := Memory.limit } = none :=
  ⟨by decide +kernel, by decide +kernel, rfl, allocate_eq_none_of_limit_lt rfl (by decide)⟩

end Config

end CommandShell
