/-!
# First matches

`FirstAt` says where in a list the first value with a property stands. A search from the front
finds it (`firstAt_iff`), there is at most one (`FirstAt.unique`), and where there is none nothing
in the list has the property (`exists_firstAt_or_forall_not`).
-/

namespace CommandShell

/-- A value of a list that has a property, its position, and that no earlier value has the
property. -/
structure FirstAt {α : Type} (property : α → Prop) (list : List α) (index : Nat) (value : α) :
    Prop where
  there : list[index]? = some value
  holds : property value
  least : ∀ earlier < index, ∀ other, list[earlier]? = some other → ¬ property other

variable {α β : Type} {property : α → Prop} {test : α → Bool} {list : List α} {index : Nat}
  {value : α}

/-- A search from the front finds the first match. -/
theorem firstAt_iff (same : ∀ value, test value = true ↔ property value) :
    FirstAt property list index value ↔
      list.findIdx? test = some index ∧ list[index]? = some value := by
  constructor
  · rintro ⟨there, holds, least⟩
    obtain ⟨bound, rfl⟩ := List.getElem?_eq_some_iff.mp there
    refine ⟨List.findIdx?_eq_some_iff_getElem.mpr ⟨bound, (same _).mpr holds, ?_⟩, there⟩
    intro earlier before passed
    exact least earlier before _ (List.getElem?_eq_getElem _) ((same _).mp passed)
  · rintro ⟨found, there⟩
    obtain ⟨bound, passed, least⟩ := List.findIdx?_eq_some_iff_getElem.mp found
    obtain ⟨_, rfl⟩ := List.getElem?_eq_some_iff.mp there
    refine ⟨there, (same _).mp passed, ?_⟩
    intro earlier before other is holds
    obtain ⟨_, rfl⟩ := List.getElem?_eq_some_iff.mp is
    exact least earlier before ((same _).mpr holds)

/-- Properties that the values of a list have alike have the same first match. -/
theorem firstAt_congr {other : α → Prop}
    (same : ∀ value ∈ list, property value ↔ other value) :
    FirstAt property list index value ↔ FirstAt other list index value := by
  have member {index : Nat} {value : α} (there : list[index]? = some value) : value ∈ list :=
    List.mem_of_getElem? there
  constructor
  · rintro ⟨there, holds, least⟩
    refine ⟨there, (same _ (member there)).mp holds, fun earlier before value is holds => ?_⟩
    exact least earlier before value is ((same _ (member is)).mpr holds)
  · rintro ⟨there, holds, least⟩
    refine ⟨there, (same _ (member there)).mpr holds, fun earlier before value is holds => ?_⟩
    exact least earlier before value is ((same _ (member is)).mp holds)

/-- There is only one first match. -/
theorem FirstAt.unique {position : Nat} {other : α} (first : FirstAt property list index value)
    (second : FirstAt property list position other) : index = position ∧ value = other := by
  rcases Nat.lt_trichotomy index position with before | rfl | after
  · exact absurd first.holds (second.least index before value first.there)
  · exact ⟨rfl, Option.some.inj (first.there.symm.trans second.there)⟩
  · exact absurd second.holds (first.least position after other second.there)

/-- A match behind a value that does not have the property. -/
theorem FirstAt.cons {head : α} (fails : ¬ property head)
    (first : FirstAt property list index value) :
    FirstAt property (head :: list) (index + 1) value := by
  refine ⟨first.there, first.holds, fun earlier before other is => ?_⟩
  cases earlier with
  | zero =>
    cases is
    exact fails
  | succ earlier => exact first.least earlier (Nat.lt_of_succ_lt_succ before) other is

/-- A match among the images of a list. -/
theorem FirstAt.map {image : α → β} {property : β → Prop}
    (first : FirstAt (fun value => property (image value)) list index value) :
    FirstAt property (list.map image) index (image value) := by
  refine ⟨?_, first.holds, fun earlier before other is => ?_⟩
  · rw [List.getElem?_map, first.there, Option.map_some]
  · rw [List.getElem?_map] at is
    obtain ⟨source, there, rfl⟩ := Option.map_eq_some_iff.mp is
    exact first.least earlier before source there

/-- What a search finds is a first match. -/
theorem exists_firstAt_of_find? (same : ∀ value, test value = true ↔ property value)
    (found : list.find? test = some value) : ∃ index, FirstAt property list index value := by
  rw [List.find?_eq_bind_findIdx?_getElem?] at found
  obtain ⟨index, position, there⟩ := Option.bind_eq_some_iff.mp found
  exact ⟨index, (firstAt_iff same).mpr ⟨position, there⟩⟩

/-- A property has a first match in a list, or nothing in the list has it. -/
theorem exists_firstAt_or_forall_not (property : α → Prop) (list : List α) :
    (∃ index value, FirstAt property list index value) ∨ ∀ value ∈ list, ¬ property value := by
  classical
  have same (value : α) : decide (property value) = true ↔ property value := decide_eq_true_iff
  cases found : list.findIdx? fun value => decide (property value) with
  | none =>
    refine .inr fun value member holds => ?_
    have fails := List.findIdx?_eq_none_iff.mp found value member
    rw [(same value).mpr holds] at fails
    cases fails
  | some index =>
    obtain ⟨bound, _⟩ := List.findIdx?_eq_some_iff_getElem.mp found
    exact .inl ⟨index, list[index],
      (firstAt_iff same).mpr ⟨found, List.getElem?_eq_getElem bound⟩⟩

/-- Where nothing in a list has a property, a search finds nothing. -/
theorem findIdx?_eq_none_of_forall_not (same : ∀ value, test value = true ↔ property value)
    (fails : ∀ value ∈ list, ¬ property value) : list.findIdx? test = none := by
  rw [List.findIdx?_eq_none_iff]
  intro value member
  exact Bool.eq_false_iff.mpr fun passed => fails value member ((same value).mp passed)

end CommandShell
