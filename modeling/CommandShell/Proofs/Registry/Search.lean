import CommandShell.Config.Basic
import CommandShell.Proofs.List.FirstAt

/-!
# Searching by the beginning of a name

A search compares names as far as an extent goes. `Extent.Same` says what that means,
character by character, and a search finds the first module that has the same name in this
sense (`Registry.find?_eq_some_iff`). One extent is `Extent.Within` another when it looks
at no more of a name.

A shorter extent tells fewer names apart. So a name that finds a module still finds one
under a shorter extent, the same or an earlier one (`Registry.find?_of_within`), and a
module is found by its own name unless an earlier one is the same so far
(`Registry.find?_name_eq_some_iff`).
-/

namespace CommandShell

/-! ## The same name, as far as an extent goes -/

namespace Extent

/-- The positions of the characters that an extent looks at. -/
def Reaches : Extent → Nat → Prop
  | .whole, _ => True
  | .first count, position => position < count

/-- Names that have the same character, or both have none, wherever the extent looks. -/
def Same (extent : Extent) (a b : String) : Prop :=
  ∀ position, extent.Reaches position → a.toList[position]? = b.toList[position]?

/-- An extent that looks at no more of a name than another one. -/
inductive Within : Extent → Extent → Prop
  | first {short long : Nat} : short ≤ long → Within (.first short) (.first long)
  | whole {short : Extent} : Within short .whole

/-- An extent that takes in the whole of a name. -/
def Covers : Extent → String → Prop
  | .whole, _ => True
  | .first count, name => name.length ≤ count

variable {extent short long : Extent} {a b c : String}

theorem Within.reaches (within : short.Within long) {position : Nat}
    (reaches : short.Reaches position) : long.Reaches position := by
  cases within with
  | first le => exact Nat.lt_of_lt_of_le reaches le
  | whole => trivial

theorem Same.symm (same : extent.Same a b) : extent.Same b a :=
  fun position reaches => (same position reaches).symm

theorem Same.trans (left : extent.Same a b) (right : extent.Same b c) : extent.Same a c :=
  fun position reaches => (left position reaches).trans (right position reaches)

theorem Same.within (within : short.Within long) (same : long.Same a b) : short.Same a b :=
  fun position reaches => same position (within.reaches reaches)

theorem agrees_iff_same : extent.agrees a b = true ↔ extent.Same a b := by
  cases extent with
  | whole =>
    rw [agrees_whole_iff, ← String.toList_inj, List.ext_getElem?_iff]
    exact ⟨fun same position _ => same position, fun same position => same position trivial⟩
  | first count =>
    rw [agrees_iff, cut, cut, List.ext_getElem?_iff]
    refine forall_congr' fun position => ?_
    rw [List.getElem?_take, List.getElem?_take]
    by_cases reaches : position < count
    · simp [reaches, Reaches]
    · simp [reaches, Reaches]

/-- Names that an extent takes in are the same so far only when they are equal. -/
theorem same_iff_eq_of_covers (left : extent.Covers a) (right : extent.Covers b) :
    extent.Same a b ↔ a = b := by
  rw [← agrees_iff_same]
  cases extent with
  | whole => exact agrees_whole_iff
  | first count =>
    have whole {name : String} (covers : name.length ≤ count) :
        name.toList.take count = name.toList :=
      List.take_of_length_le (by rwa [String.length_toList])
    rw [agrees_iff, cut, cut, whole left, whole right, String.toList_inj]

end Extent

/-! ## Searching -/

namespace Registry

variable {registry : Registry} {extent short long : Extent} {typed other : String} {index : Nat}
  {owner : CommandModule}

/-- A search finds the first module of the same name. -/
theorem find?_eq_some_iff :
    registry.find? extent typed = some index ↔
      ∃ owner, FirstAt (extent.Same typed ·.name) registry.modules index owner := by
  have same (owner : CommandModule) :
      extent.agrees typed owner.name = true ↔ extent.Same typed owner.name :=
    Extent.agrees_iff_same
  constructor
  · intro found
    obtain ⟨owner, there, _⟩ := exists_of_find? found
    exact ⟨owner, (firstAt_iff same).mpr ⟨found, there⟩⟩
  · rintro ⟨owner, first⟩
    exact ((firstAt_iff same).mp first).1

theorem find?_eq_none_iff :
    registry.find? extent typed = none ↔
      ∀ owner ∈ registry.modules, ¬ extent.Same typed owner.name := by
  rw [find?, List.findIdx?_eq_none_iff]
  refine forall₂_congr fun owner _ => ?_
  rw [← Extent.agrees_iff_same, Bool.not_eq_true]

/-- Searches that take the same registered names to be the ones find the same. -/
theorem find?_congr
    (same : ∀ owner ∈ registry.modules, short.Same typed owner.name ↔ long.Same other owner.name) :
    registry.find? short typed = registry.find? long other := by
  refine Option.ext fun index => ?_
  rw [find?_eq_some_iff, find?_eq_some_iff]
  exact exists_congr fun owner => firstAt_congr same

/-- A search depends on what the extent looks at only. -/
theorem find?_eq_of_same (same : extent.Same typed other) :
    registry.find? extent typed = registry.find? extent other :=
  find?_congr fun _ _ => ⟨same.symm.trans, same.trans⟩

/-- What a longer extent finds, a shorter one finds or finds something before it. It is the same
module when the shorter extent still tells all names apart. -/
theorem find?_of_within (within : short.Within long)
    (found : registry.find? long typed = some index) :
    ∃ earlier ≤ index, registry.find? short typed = some earlier ∧
      (registry.modules.Pairwise (¬ short.Same ·.name ·.name) → earlier = index) := by
  obtain ⟨owner, first⟩ := find?_eq_some_iff.mp found
  have same : short.Same typed owner.name := first.holds.within within
  cases early : registry.find? short typed with
  | none =>
    have member : owner ∈ registry.modules := List.mem_of_getElem? first.there
    exact (find?_eq_none_iff.mp early owner member same).elim
  | some earlier =>
    obtain ⟨other, stands⟩ := find?_eq_some_iff.mp early
    have before : earlier ≤ index :=
      Nat.le_of_not_lt fun later => stands.least index later owner first.there same
    refine ⟨earlier, before, rfl, fun apart => ?_⟩
    rcases Nat.lt_or_eq_of_le before with less | equal
    · obtain ⟨bound, left⟩ := List.getElem?_eq_some_iff.mp stands.there
      obtain ⟨bound', right⟩ := List.getElem?_eq_some_iff.mp first.there
      have distinct := List.pairwise_iff_getElem.mp apart earlier index bound bound' less
      rw [left, right] at distinct
      exact (distinct (stands.holds.symm.trans same)).elim
    · exact equal

/-- An extent that takes in every name finds equal names only. -/
theorem find?_eq_some_iff_of_covers
    (covers : ∀ name ∈ typed :: registry.modules.map CommandModule.name, extent.Covers name) :
    registry.find? extent typed = some index ↔
      ∃ owner, FirstAt (typed = ·.name) registry.modules index owner := by
  rw [find?_eq_some_iff]
  refine exists_congr fun owner => firstAt_congr fun other member => ?_
  have registered : other.name ∈ registry.modules.map CommandModule.name :=
    List.mem_map_of_mem member
  exact Extent.same_iff_eq_of_covers (covers _ List.mem_cons_self)
    (covers _ (List.mem_cons_of_mem _ registered))

/-- A module is found by its own name unless one before it has the same name so far. -/
theorem find?_name_eq_some_iff (there : registry.get? index = some owner) :
    registry.find? extent owner.name = some index ↔
      ∀ earlier < index, ∀ other, registry.get? earlier = some other →
        ¬ extent.Same owner.name other.name := by
  rw [find?_eq_some_iff]
  constructor
  · rintro ⟨_, first⟩
    exact first.least
  · intro least
    exact ⟨owner, there, fun _ _ => rfl, least⟩

/-- A search looks for the first module whose name is the typed one as far as the extent goes, and
the rest of the typed name makes no difference. A shorter extent finds a module whenever a longer
one does, the same one or one before it, and the same one if it still tells all names apart; so a
typed name that finds a module by comparing whole names finds one by comparing beginnings. An extent
that takes in every name finds equal names only. A module is found by its own name exactly if no
module before it has the same name so far. -/
theorem find?_of_extent (registry : Registry) (typed : String) {short long : Extent}
    (within : short.Within long) :
    (∀ index, registry.find? short typed = some index ↔
      ∃ owner, FirstAt (short.Same typed ·.name) registry.modules index owner) ∧
    (registry.find? short typed = none ↔
      ∀ owner ∈ registry.modules, ¬ short.Same typed owner.name) ∧
    (∀ other, short.Same typed other →
      registry.find? short typed = registry.find? short other) ∧
    (∀ index, registry.find? long typed = some index →
      ∃ earlier ≤ index, registry.find? short typed = some earlier ∧
        (registry.modules.Pairwise (¬ short.Same ·.name ·.name) → earlier = index)) ∧
    ((∀ name ∈ typed :: registry.modules.map CommandModule.name, short.Covers name) →
      ∀ index, registry.find? short typed = some index ↔
        ∃ owner, FirstAt (typed = ·.name) registry.modules index owner) ∧
    (∀ index owner, registry.modules[index]? = some owner →
      (registry.find? short owner.name = some index ↔
        ∀ earlier < index, ∀ other, registry.modules[earlier]? = some other →
          ¬ short.Same owner.name other.name)) ∧
    ∀ (config : Config) (index : Nat),
      registry.find? ({ config with nameMatch := .exact } : Config).extent typed = some index →
      ∃ earlier ≤ index,
        registry.find? ({ config with nameMatch := .leading } : Config).extent typed =
          some earlier := by
  refine ⟨fun index => find?_eq_some_iff, find?_eq_none_iff, fun other => find?_eq_of_same,
    fun index => find?_of_within within, fun covers index => find?_eq_some_iff_of_covers covers,
    fun index owner => find?_name_eq_some_iff, fun config index found => ?_⟩
  have narrower : (Extent.first config.maxNameLength).Within .whole := .whole
  obtain ⟨earlier, before, early, _⟩ := find?_of_within narrower found
  exact ⟨earlier, before, early⟩

/-- The longer extent tells the two names apart, and the shorter one does not. -/
theorem find?_of_extent_twins :
    let registry : Registry := ⟨8, [⟨"größe", []⟩, ⟨"größten", []⟩]⟩
    (Extent.first 4).Within (.first 5) ∧
      registry.find? (.first 5) "größtes" = some 1 ∧
      ∃ earlier ≤ 1, registry.find? (.first 4) "größtes" = some earlier ∧
        registry.find? (.first 4) "größtes" = registry.find? (.first 4) "größ" := by
  intro registry
  have within : (Extent.first 4).Within (.first 5) := .first (by decide)
  have found : registry.find? (.first 5) "größtes" = some 1 := by decide +kernel
  obtain ⟨-, -, congr, early, -⟩ := find?_of_extent registry "größtes" within
  obtain ⟨earlier, before, first, _⟩ := early 1 found
  refine ⟨within, found, earlier, before, first, congr "größ" ?_⟩
  exact Extent.agrees_iff_same.mp (by decide +kernel)

end Registry

end CommandShell
