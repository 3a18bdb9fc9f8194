import CommandShell.Proofs.Shell.Session

/-!
# The selected module and its prompt

`Shell.Coherent` says that a shell keeps its configuration and the bound on its modules,
and that the prompt of the selected module shows as much of that module's name as can be
typed, with which a search finds the very same module. The prompt is made from what was
typed, so this rests on the length check of a selection and on modules being appended
only. Every change keeps it (`Shell.Change.coherent`), and so does every session.
-/

namespace CommandShell

/-! ## Growing registries -/

namespace Registry

variable {before after : Registry}

/-- A module that a search finds stays the first one when modules are appended. -/
theorem find?_of_prefix {extent : Extent} {name : String} {index : Nat}
    (grown : before.modules <+: after.modules)
    (found : before.find? extent name = some index) :
    after.find? extent name = some index :=
  grown.findIdx?_eq_some found

theorem get?_of_prefix {index : Nat} {owner : CommandModule}
    (grown : before.modules <+: after.modules) (there : before.get? index = some owner) :
    after.get? index = some owner := by
  obtain ⟨later, appended⟩ := grown
  have bound : index < before.modules.length := lt_size_of_get? there
  rw [get?, ← appended, List.getElem?_append_left bound]
  exact there

end Registry

namespace Shell

/-- A shell with more modules. -/
def extended (shell : Shell) (owners : List CommandModule) : Shell :=
  { shell with registry := { shell.registry with modules := shell.registry.modules ++ owners } }

variable {shell : Shell}

theorem register_of_room (room : shell.registry.size < shell.registry.capacity) (name : String)
    (commands : List Command) :
    shell.register name commands = (.ok shell.registry.size,
      ⟨shell.extended [⟨name, commands⟩], shell.registerRecords name commands⟩) := by
  simp only [register, Registry.register, if_pos room, extended]

theorem register_of_full (full : shell.registry.capacity ≤ shell.registry.size) (name : String)
    (commands : List Command) :
    shell.register name commands = (.error (.registryFull shell.registry.capacity),
      ⟨shell, shell.registerRecords name commands⟩) := by
  simp only [register, Registry.register, if_neg (Nat.not_lt_of_le full)]

end Shell

/-! ## Names that can be typed -/

namespace Config

/-- As much of a module's name as a selectable name may have. -/
def shown (config : Config) (owner : CommandModule) : String :=
  String.ofList (owner.name.toList.take config.maxNameLength)

variable {config : Config} {owner : CommandModule} {name : String}

theorem length_shown_le : (config.shown owner).length ≤ config.maxNameLength := by
  rw [shown, String.length_ofList, List.length_take]
  exact Nat.min_le_left _ _

/-- A name that is short enough and agrees with a module's name is the name shown. Under either
comparison: an equal name is shown whole, and an equal beginning is all that is shown. -/
theorem shown_eq_of_agrees (short : name.length ≤ config.maxNameLength)
    (agrees : config.extent.agrees name owner.name = true) : config.shown owner = name := by
  have whole : name.toList.take config.maxNameLength = name.toList :=
    List.take_of_length_le (by rwa [String.length_toList])
  have same : owner.name.toList.take config.maxNameLength = name.toList := by
    rw [Extent.agrees_iff] at agrees
    cases nameMatch : config.nameMatch with
    | exact =>
      simp only [extent, nameMatch, Extent.cut] at agrees
      rw [← agrees, whole]
    | leading =>
      simp only [extent, nameMatch, Extent.cut] at agrees
      rw [← agrees, whole]
  rw [shown, same, String.ofList_toList]

end Config

/-! ## Coherent shells -/

namespace Shell

/-- What every session from the start keeps. -/
structure Coherent (config : Config) (shell : Shell) : Prop where
  config_eq : shell.config = config
  capacity_eq : shell.registry.capacity = config.maxModules
  size_le : shell.registry.size ≤ config.maxModules
  unselected : shell.selection.index? = none → shell.selection.prompt = ""
  selected : ∀ {index : Nat}, shell.selection.index? = some index →
    ∃ owner, shell.registry.get? index = some owner ∧
      shell.selection.prompt = Selection.promptOf (config.shown owner) ∧
      shell.registry.find? config.extent (config.shown owner) = some index

variable {config : Config} {before after shell : Shell}

theorem create_eq_ok_iff :
    create config = .ok shell ↔
      config.validate = .ok () ∧ shell = { config, registry := .empty config.maxModules } := by
  unfold create
  cases config.validate with
  | error fault => simp [bind, Except.bind]
  | ok _ => simp [bind, Except.bind, pure, Except.pure, eq_comm]

theorem coherent_of_create (created : create config = .ok shell) : Coherent config shell := by
  obtain ⟨_, rfl⟩ := create_eq_ok_iff.mp created
  exact {
    config_eq := rfl
    capacity_eq := rfl
    size_le := Nat.zero_le _
    unselected := fun _ => rfl
    selected := fun selection => nomatch selection
  }

namespace Change

/-- Modules are appended only. -/
theorem modules_prefix (change : Change before after) :
    before.registry.modules <+: after.registry.modules := by
  cases change with
  | registered registered =>
    obtain ⟨_, _, rfl⟩ := Registry.register_eq_ok_iff.mp registered
    exact List.prefix_append _ _
  | fallback absent => exact List.prefix_rfl
  | promptHook absent => exact List.prefix_rfl
  | asked hook => exact List.prefix_rfl
  | deselected => exact List.prefix_rfl
  | selected chosen => exact List.prefix_rfl

/-- Every change keeps a shell coherent. -/
theorem coherent (change : Change before after) (ready : Coherent config before) :
    Coherent config after := by
  cases change with
  | @registered name commands index registry registered =>
    obtain ⟨room, _, rfl⟩ := Registry.register_eq_ok_iff.mp registered
    have grown : before.registry.modules <+: before.registry.modules ++ [⟨name, commands⟩] :=
      List.prefix_append _ _
    have bound : before.registry.size + 1 ≤ config.maxModules := by
      rw [← ready.capacity_eq]
      exact room
    refine ⟨ready.config_eq, ready.capacity_eq, ?_, ready.unselected, fun selection => ?_⟩
    · simpa [Registry.size] using bound
    · obtain ⟨owner, there, prompt, found⟩ := ready.selected selection
      exact ⟨owner, Registry.get?_of_prefix grown there, prompt,
        Registry.find?_of_prefix grown found⟩
  | fallback absent =>
    exact { ready with }
  | promptHook absent =>
    exact { ready with }
  | asked hook =>
    exact { ready with }
  | deselected =>
    exact { ready with unselected := fun _ => rfl, selected := fun selection => nomatch selection }
  | @selected name index choice =>
    rw [ready.config_eq] at choice
    obtain ⟨short, found⟩ := Selection.choose_eq_ok_iff.mp choice
    obtain ⟨owner, there, agrees⟩ := Registry.exists_of_find? found
    -- What was typed is what the module's own name shows, so the search is the same.
    have shown : config.shown owner = name := Config.shown_eq_of_agrees short agrees
    refine { ready with unselected := fun selection => nomatch selection
                        selected := fun selection => ?_ }
    cases selection
    exact ⟨owner, there, by rw [shown, Selection.prompt_ofName], by rw [shown, found]⟩

end Change

namespace Evolves

theorem modules_prefix (evolves : Evolves before after) :
    before.registry.modules <+: after.registry.modules := by
  induction evolves with
  | refl => exact List.prefix_rfl
  | tail _ change ih => exact ih.trans change.modules_prefix

theorem coherent (evolves : Evolves before after) (ready : Coherent config before) :
    Coherent config after := by
  induction evolves with
  | refl => exact ready
  | tail _ change ih => exact change.coherent ih

end Evolves

/-- A shell that a session leads to is coherent, and its configuration is valid. -/
theorem Reachable.coherent (reachable : shell.Reachable) :
    shell.config.validate = .ok () ∧ Coherent shell.config shell := by
  obtain ⟨config, first, operations, created, rfl⟩ := reachable
  have ready := (evolves_session first operations).coherent (coherent_of_create created)
  have same := ready.config_eq
  obtain ⟨valid, _⟩ := create_eq_ok_iff.mp created
  rw [same]
  exact ⟨valid, ready⟩

/-- After any session from a valid configuration the configuration and the bound on the modules are
as at the start. When no module is selected the prompt that is kept is empty, and else it is the
name under which the selected module is found, then and after any later session, followed
by `> `. -/
theorem session_coherent (valid : config.validate = .ok ()) (operations : List Operation) :
    ∃ first, create config = .ok first ∧
      let shell := (first.session operations).shell
      shell.config = config ∧
      shell.registry.capacity = config.maxModules ∧
      shell.registry.size ≤ config.maxModules ∧
      (shell.selection.index? = none ∧ shell.selection.prompt = "" ∨
        ∃ index owner, shell.selection.index? = some index ∧
          index < shell.registry.size ∧
          shell.registry.get? index = some owner ∧
          shell.selection.prompt = config.shown owner ++ "> " ∧
          shell.registry.find? config.extent (config.shown owner) = some index ∧
          ∀ later, ((shell.session later).shell.select (config.shown owner)).1 = .ok index) := by
  obtain ⟨first, created⟩ : ∃ first, create config = .ok first :=
    ⟨_, create_eq_ok_iff.mpr ⟨valid, rfl⟩⟩
  refine ⟨first, created, ?_⟩
  have ready := (evolves_session first operations).coherent (coherent_of_create created)
  generalize (first.session operations).shell = shell at ready
  refine ⟨ready.config_eq, ready.capacity_eq, ready.size_le, ?_⟩
  cases selection : shell.selection.index? with
  | none => exact .inl ⟨rfl, ready.unselected selection⟩
  | some index =>
    obtain ⟨owner, there, prompt, found⟩ := ready.selected selection
    refine .inr ⟨index, owner, rfl, ?_, there, prompt, found, ?_⟩
    · exact Registry.lt_size_of_get? there
    · intro later
      have evolves := evolves_session shell later
      have same : (shell.session later).shell.config = config := (evolves.coherent ready).config_eq
      have short :
          (config.shown owner).length ≤ (shell.session later).shell.config.maxNameLength := by
        rw [same]
        exact Config.length_shown_le
      have still : (shell.session later).shell.registry.find?
          (shell.session later).shell.config.extent (config.shown owner) = some index := by
        rw [same]
        exact Registry.find?_of_prefix evolves.modules_prefix found
      rw [select_of_find? short still]

/-- Only the first four characters of a name count, and two modules may be registered. -/
def fourLetters : Config :=
  { maxModules := 2, maxNameLength := 4, nameMatch := .leading }

/-- The second module agrees with the selected one, the third finds no room, and the last two
selections fail. -/
def twins : List Operation :=
  [.register "network" [], .execute "select netw", .register "netwatch" [], .register "disk" [],
   .execute "select network", .select (some "disk")]

theorem session_coherent_twins :
    fourLetters.validate = .ok () ∧ ∃ first, create fourLetters = .ok first ∧
      (first.session twins).shell.registry.size = 2 ∧
      (first.session twins).shell.selection.prompt = "netw> " ∧
      ∀ later, (((first.session twins).shell.session later).shell.select "netw").1 = .ok 0 := by
  have valid : fourLetters.validate = .ok () := rfl
  obtain ⟨first, created, _, _, _, selected⟩ := session_coherent valid twins
  obtain ⟨_, rfl⟩ := create_eq_ok_iff.mp created
  have outcome :
      let start : Shell := { config := fourLetters, registry := .empty fourLetters.maxModules }
      let shell := (start.session twins).shell
      shell.registry.size = 2 ∧ shell.selection.index? = some 0 ∧
      shell.selection.prompt = "netw" ++ "> " := by decide +kernel
  obtain ⟨size, index, prompt⟩ := outcome
  refine ⟨valid, _, created, size, prompt, ?_⟩
  rcases selected with ⟨unselected, _⟩ | ⟨index', owner, selected, _, _, shows, _, again⟩
  · rw [index] at unselected
    cases unselected
  · have first : 0 = index' := Option.some.inj (index.symm.trans selected)
    have name : fourLetters.shown owner = "netw" :=
      (String.append_left_inj _).mp (shows.symm.trans prompt)
    rwa [name, ← first] at again

end Shell

end CommandShell
