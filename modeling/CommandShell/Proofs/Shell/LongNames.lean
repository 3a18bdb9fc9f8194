import CommandShell.Proofs.Registry.Search
import CommandShell.Proofs.Shell.Coherence

/-!
# Modules whose names are too long to be typed

When a module is registered whose name has more characters than a selectable name may have,
a warning says that it cannot be selected. That is so when whole names are compared. When
beginnings are compared, as much of the name as can be typed selects the module after all,
unless an earlier module begins alike (`Shell.exists_selected_iff_of_long`), and the warning
is given all the same (`Shell.warned_and_selected`).
-/

namespace CommandShell

namespace Config

/-- The warning about a module whose name is too long. -/
def warning (config : Config) (name : String) : Event :=
  .logged .warn ("module name " ++ name ++ " exceeds " ++ toString config.maxNameLength
    ++ " characters and cannot be selected")

/-- As much of a name as can be typed is the name, as far as its first characters go. -/
theorem same_shown (config : Config) (owner : CommandModule) :
    (Extent.first config.maxNameLength).Same owner.name (config.shown owner) := by
  intro position reaches
  have reaches : position < config.maxNameLength := reaches
  rw [shown, String.toList_ofList, List.getElem?_take, if_pos reaches]

end Config

namespace Shell

variable {config : Config} {shell : Shell} {name : String} {commands : List Command}
  {index : Nat} {owner : CommandModule}

/-- A warning is given exactly when the name is too long, whether or not there is room for the
module. -/
theorem warning_mem_register_iff :
    shell.config.warning name ∈ (shell.register name commands).2.events ↔
      shell.config.maxNameLength < name.length := by
  have events : (shell.register name commands).2.events = shell.registerRecords name commands := by
    unfold register
    split <;> rfl
  rw [events, registerRecords, Config.warning]
  by_cases long : shell.config.maxNameLength < name.length
  · simp [long]
  · simp only [long, if_false, List.nil_append]
    split <;> simp

/-- A module that was registered is there. -/
theorem get?_of_register (registered : (shell.register name commands).1 = .ok index) :
    (shell.register name commands).2.shell.registry.get? index = some ⟨name, commands⟩ := by
  rcases Nat.lt_or_ge shell.registry.size shell.registry.capacity with room | full
  · rw [register_of_room room] at registered ⊢
    cases registered
    exact List.getElem?_concat_length
  · rw [register_of_full full] at registered
    cases registered

/-- A selected module whose name is too long was selected by its beginning, and no module before it
begins alike. -/
theorem Coherent.leading_of_long (coherent : Coherent config shell)
    (there : shell.registry.get? index = some owner)
    (long : config.maxNameLength < owner.name.length)
    (chosen : shell.selection.index? = some index) :
    config.nameMatch = .leading ∧
      ∀ earlier < index, ∀ other, shell.registry.get? earlier = some other →
        ¬ (Extent.first config.maxNameLength).Same owner.name other.name := by
  obtain ⟨owner', there', _, found⟩ := coherent.selected chosen
  obtain rfl : owner = owner' := Option.some.inj (there.symm.trans there')
  cases nameMatch : config.nameMatch with
  | exact =>
    -- An equal name would be short enough to be typed.
    simp only [Config.extent, nameMatch] at found
    obtain ⟨named, is, whole⟩ := Registry.exists_of_find? found
    obtain rfl : owner = named := Option.some.inj (there.symm.trans is)
    have short : (config.shown owner).length ≤ config.maxNameLength := Config.length_shown_le
    rw [Extent.agrees_whole_iff.mp whole] at short
    omega
  | leading =>
    simp only [Config.extent, nameMatch] at found
    rw [← Registry.find?_eq_of_same (config.same_shown owner)] at found
    exact ⟨rfl, (Registry.find?_name_eq_some_iff there).mp found⟩

/-- Where beginnings are compared, a module is selected by the beginning of its name unless a module
before it begins alike. -/
theorem select_shown (leading : shell.config.nameMatch = .leading)
    (there : shell.registry.get? index = some owner)
    (least : ∀ earlier < index, ∀ other, shell.registry.get? earlier = some other →
      ¬ (Extent.first shell.config.maxNameLength).Same owner.name other.name) :
    (shell.select (shell.config.shown owner)).2.shell.selection.index? = some index := by
  have found :
      shell.registry.find? shell.config.extent (shell.config.shown owner) = some index := by
    simp only [Config.extent, leading]
    rw [← Registry.find?_eq_of_same (shell.config.same_shown owner)]
    exact (Registry.find?_name_eq_some_iff there).mpr least
  rw [select_of_find? Config.length_shown_le found]
  rfl

/-- A module whose name is too long can be selected exactly if names are compared by their
beginnings and no module before it begins alike. -/
theorem Coherent.exists_selected_iff (coherent : Coherent config shell)
    (there : shell.registry.get? index = some owner)
    (long : config.maxNameLength < owner.name.length) :
    (∃ later, (shell.session later).shell.selection.index? = some index) ↔
      config.nameMatch = .leading ∧
        ∀ earlier < index, ∀ other, shell.registry.get? earlier = some other →
          ¬ (Extent.first config.maxNameLength).Same owner.name other.name := by
  constructor
  · rintro ⟨later, chosen⟩
    have evolves := evolves_session shell later
    have grown := evolves.modules_prefix
    obtain ⟨leading, least⟩ := (evolves.coherent coherent).leading_of_long
      (Registry.get?_of_prefix grown there) long chosen
    refine ⟨leading, fun earlier before other is => ?_⟩
    exact least earlier before other (Registry.get?_of_prefix grown is)
  · rintro ⟨leading, least⟩
    rw [← coherent.config_eq] at leading least
    refine ⟨[.select (some (shell.config.shown owner))], ?_⟩
    rw [session, Turn.shell_andThen, session, perform]
    exact select_shown leading there least

/-- After any session, a module is registered with a warning exactly if its name is too long. Such a
module can be selected later exactly if names are compared by their beginnings and no module before
it begins alike: where whole names are compared it never is. -/
theorem exists_selected_iff_of_long (valid : config.validate = .ok ())
    (operations : List Operation) (name : String) (commands : List Command) :
    ∃ first, create config = .ok first ∧
      let before := (first.session operations).shell
      let after := (before.register name commands).2.shell
      (config.warning name ∈ (before.register name commands).2.events ↔
        config.maxNameLength < name.length) ∧
      ∀ index, (before.register name commands).1 = .ok index →
        config.maxNameLength < name.length →
        ((∃ later, (after.session later).shell.selection.index? = some index) ↔
          config.nameMatch = .leading ∧
            ∀ earlier < index, ∀ other, after.registry.modules[earlier]? = some other →
              ¬ (Extent.first config.maxNameLength).Same name other.name) := by
  obtain ⟨first, created⟩ : ∃ first, create config = .ok first :=
    ⟨_, create_eq_ok_iff.mpr ⟨valid, rfl⟩⟩
  refine ⟨first, created, ?_⟩
  intro before after
  have ready : Coherent config before :=
    (evolves_session first operations).coherent (coherent_of_create created)
  have next : Coherent config after := (evolves_register before name commands).coherent ready
  refine ⟨?_, fun index registered long => ?_⟩
  · rw [← ready.config_eq]
    exact warning_mem_register_iff
  · exact next.exists_selected_iff (get?_of_register registered) long

/-- The second name begins as the first one does, so the module is never selected. -/
theorem exists_selected_iff_of_long_twins :
    fourLetters.validate = .ok () ∧ ∃ first, create fourLetters = .ok first ∧
      let before := (first.session [.register "network" []]).shell
      fourLetters.warning "netwatch" ∈ (before.register "netwatch" []).2.events ∧
      ∀ later, ((before.register "netwatch" []).2.shell.session later).shell.selection.index?
        ≠ some 1 := by
  have valid : fourLetters.validate = .ok () := rfl
  obtain ⟨first, created, warned, selectable⟩ :=
    exists_selected_iff_of_long valid [.register "network" []] "netwatch" []
  obtain ⟨_, rfl⟩ := create_eq_ok_iff.mp created
  have long : fourLetters.maxNameLength < "netwatch".length := by decide
  refine ⟨valid, _, created, warned.mpr long, fun later chosen => ?_⟩
  obtain ⟨-, least⟩ := (selectable 1 rfl long).mp ⟨later, chosen⟩
  refine least 0 Nat.zero_lt_one ⟨"network", []⟩ rfl ?_
  exact Extent.agrees_iff_same.mp (by decide +kernel)

/-- The warning says that the module cannot be selected, and the first four letters of its name
select it. -/
theorem warned_and_selected :
    fourLetters.validate = .ok () ∧ ∃ first, create fourLetters = .ok first ∧
      (first.register "network" []).1 = .ok 0 ∧
      Event.logged .warn "module name network exceeds 4 characters and cannot be selected" ∈
        (first.register "network" []).2.events ∧
      (first.session [.register "network" [], .execute "select netw"]).shell.selection.index?
        = some 0 := by
  have valid : fourLetters.validate = .ok () := rfl
  have text : fourLetters.warning "network" =
      .logged .warn "module name network exceeds 4 characters and cannot be selected" := by
    decide +kernel
  refine ⟨valid, _, create_eq_ok_iff.mpr ⟨valid, rfl⟩, rfl, ?_, by decide +kernel⟩
  rw [← text]
  exact warning_mem_register_iff.mpr (by decide)

end Shell

end CommandShell
