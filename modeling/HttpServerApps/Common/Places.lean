import Mathlib.Data.List.Nodup
import Mathlib.Tactic.Common

namespace Common

/-! Lists whose places are changed one at a time. -/

variable {Value Image : Type}

theorem map_modify {image : Value → Image} (values : List Value) (place : Nat) {change : Value → Value}
    {write : Image → Image} (same : ∀ value, image (change value) = write (image value)) :
    (values.modify place change).map image = (values.map image).modify place write := by
  induction values generalizing place with
  | nil => cases place <;> rfl
  | cons value values ih =>
    cases place with
    | zero => simp [same]
    | succ place => simp [ih]

theorem getElem?_modify_self {values : List Value} {place : Nat} {value : Value} (there : values[place]? = some value)
    (change : Value → Value) : (values.modify place change)[place]? = some (change value) := by
  rw [List.getElem?_modify_eq, there]
  rfl

theorem modify_some {values : List Value} {place other : Nat} {change : Value → Value} {value : Value}
    (there : (values.modify place change)[other]? = some value) :
    ∃ old, values[other]? = some old ∧ value = if place = other then change old else old := by
  rw [List.getElem?_modify] at there
  rcases Option.map_eq_some_iff.mp there with ⟨old, before, same⟩
  refine ⟨old, before, ?_⟩
  split at same
  · rename_i here
    rw [if_pos here, same]
  · rename_i elsewhere
    rw [if_neg elsewhere]
    exact same.symm

/-- A change at one place, where the value there comes to be as the others are. -/
theorem forall_modify {Holds : Value → Prop} {values : List Value} {place : Nat} {value : Value}
    {change : Value → Value} (there : values[place]? = some value) (all : ∀ value ∈ values, Holds value)
    (changed : Holds value → Holds (change value)) : ∀ value ∈ values.modify place change, Holds value := by
  intro other member
  rcases List.getElem?_of_mem member with ⟨found, atFound⟩
  rcases modify_some atFound with ⟨old, before, same⟩
  have held := all old (List.mem_of_getElem? before)
  by_cases here : place = found
  · rw [here, before] at there
    cases there
    rw [same, if_pos here]
    exact changed held
  · rw [same, if_neg here]
    exact held

/-- Among values with different keys, the one with the wanted key is found. -/
theorem find?_of_key {Key : Type} [DecidableEq Key] {key : Value → Key} {values : List Value}
    (distinct : (values.map key).Nodup) {value : Value} (there : value ∈ values) {wanted : Key}
    (same : key value = wanted) : values.find? (fun other => key other = wanted) = some value := by
  have some_ : (values.find? fun other => key other = wanted).isSome = true :=
    List.find?_isSome.mpr ⟨value, there, by simpa using same⟩
  rcases Option.isSome_iff_exists.mp some_ with ⟨other, found⟩
  have member : other ∈ values := List.mem_of_find?_eq_some found
  have keyed : key other = wanted := by simpa using List.find?_some found
  rw [found, List.inj_on_of_nodup_map distinct member there (keyed.trans same.symm)]

/-- A value placed in two lists joined stands in the one or in the other. -/
theorem append_placed {left right first rest : List Value} {value : Value}
    (shape : left ++ right = first ++ value :: rest) :
    (∃ part, left = first ++ value :: part ∧ rest = part ++ right) ∨
      ∃ part, first = left ++ part ∧ right = part ++ value :: rest := by
  rcases List.append_eq_append_iff.mp shape with ⟨part, same, behind⟩ | ⟨part, same, behind⟩
  · exact Or.inr ⟨part, same, behind⟩
  · cases part with
    | nil =>
      rw [List.append_nil] at same
      exact Or.inr ⟨[], by rw [same, List.append_nil], behind.symm⟩
    | cons head part =>
      rw [List.cons_append, List.cons.injEq] at behind
      rcases behind with ⟨rfl, rfl⟩
      exact Or.inl ⟨part, same, rfl⟩

theorem append_some {values : List Value} {place : Nat} {new value : Value}
    (there : (values ++ [new])[place]? = some value) :
    values[place]? = some value ∨ place = values.length ∧ value = new := by
  rcases Nat.lt_or_ge place values.length with old | beyond
  · rw [List.getElem?_append_left old] at there
    exact Or.inl there
  · rw [List.getElem?_append_right beyond] at there
    rcases List.getElem?_eq_some_iff.mp there with ⟨inside, same⟩
    simp only [List.length_singleton] at inside
    simp only [List.getElem_singleton] at same
    exact Or.inr ⟨by omega, same.symm⟩

/-- A change that keeps what a place contributes keeps all that is contributed. -/
theorem filterMap_modify_same {part : Value → Option Image} {values : List Value} {place : Nat} {change : Value → Value}
    {value : Value} (there : values[place]? = some value) (same : part (change value) = part value) :
    (values.modify place change).filterMap part = values.filterMap part := by
  induction values generalizing place with
  | nil => cases place <;> rfl
  | cons head values ih =>
    cases place with
    | zero =>
      cases there
      simp [List.filterMap_cons, same]
    | succ place => simp [List.filterMap_cons, ih there]

/-- What a place no longer contributes is all that is missing. -/
theorem filterMap_modify_drop {part : Value → Option Image} {values : List Value} {place : Nat} {change : Value → Value}
    {value : Value} {image : Image} (there : values[place]? = some value) (had : part value = some image)
    (gone : part (change value) = none) :
    (values.filterMap part).Perm (image :: (values.modify place change).filterMap part) := by
  induction values generalizing place with
  | nil => cases there
  | cons head values ih =>
    cases place with
    | zero =>
      cases there
      simp [had, gone]
    | succ place =>
      have rest := ih there
      simp only [List.filterMap_cons, List.modify_succ_cons]
      cases part head with
      | none => exact rest
      | some first => exact (rest.cons first).trans (List.Perm.swap _ _ _)

/-- What a place newly contributes is all that is added. -/
theorem filterMap_modify_gain {part : Value → Option Image} {values : List Value} {place : Nat} {change : Value → Value}
    {value : Value} {image : Image} (there : values[place]? = some value) (had : part value = none)
    (gains : part (change value) = some image) :
    ((values.modify place change).filterMap part).Perm (image :: values.filterMap part) := by
  induction values generalizing place with
  | nil => cases there
  | cons head values ih =>
    cases place with
    | zero =>
      cases there
      simp [had, gains]
    | succ place =>
      have rest := ih there
      simp only [List.filterMap_cons, List.modify_succ_cons]
      cases part head with
      | none => exact rest
      | some first => exact (rest.cons first).trans (List.Perm.swap _ _ _)

/-! How many places have a property. -/

theorem countP_modify {property : Value → Bool} {values : List Value} {place : Nat} {value : Value}
    (there : values[place]? = some value) (change : Value → Value) :
    (values.modify place change).countP property + (if property value then 1 else 0) =
      values.countP property + (if property (change value) then 1 else 0) := by
  induction values generalizing place with
  | nil => cases there
  | cons head values ih =>
    cases place with
    | zero =>
      cases there
      simp only [List.modify_zero_cons, List.countP_cons]
      omega
    | succ place =>
      have rest := ih there
      simp only [List.modify_succ_cons, List.countP_cons]
      omega

/-- Where a property holds once, it holds in one place. -/
theorem place_of_countP_one {property : Value → Bool} {values : List Value} (one : values.countP property = 1) :
    ∃ (place : Nat) (value : Value), values[place]? = some value ∧ property value = true ∧
      ∀ (other : Nat) (next : Value), values[other]? = some next → other ≠ place → property next = false := by
  induction values with
  | nil => cases one
  | cons value values ih =>
    rw [List.countP_cons] at one
    by_cases here : property value = true
    · rw [if_pos here] at one
      have none_ : values.countP property = 0 := by omega
      refine ⟨0, value, rfl, here, ?_⟩
      intro other next there elsewhere
      cases other with
      | zero => exact absurd rfl elsewhere
      | succ other =>
        have behind := List.countP_eq_zero.mp none_ next (List.mem_of_getElem? there)
        exact Bool.eq_false_iff.mpr behind
    · rw [if_neg here] at one
      rcases ih one with ⟨place, found, there, holds, others⟩
      refine ⟨place + 1, found, there, holds, ?_⟩
      intro other next otherThere elsewhere
      cases other with
      | zero =>
        cases otherThere
        exact Bool.eq_false_iff.mpr here
      | succ other => exact others other next otherThere fun same => elsewhere (congrArg Nat.succ same)

theorem countP_eraseIdx {property : Value → Bool} {values : List Value} {place : Nat} {value : Value}
    (there : values[place]? = some value) :
    values.countP property = (values.eraseIdx place).countP property + if property value then 1 else 0 := by
  induction values generalizing place with
  | nil => cases there
  | cons head values ih =>
    cases place with
    | zero =>
      cases there
      simp only [List.eraseIdx_cons_zero, List.countP_cons]
    | succ place =>
      have rest := ih there
      simp only [List.eraseIdx_cons_succ, List.countP_cons]
      omega

theorem mem_filterMap_place {part : Value → Option Image} {values : List Value} {place : Nat} {value : Value}
    {image : Image} (there : values[place]? = some value) (had : part value = some image) :
    image ∈ values.filterMap part :=
  List.mem_filterMap.mpr ⟨value, List.mem_of_getElem? there, had⟩

/-- What is contributed once comes from one place. -/
theorem place_unique {part : Value → Option Image} {values : List Value} (once : (values.filterMap part).Nodup)
    {place other : Nat} {value same : Value} {image : Image} (there : values[place]? = some value)
    (had : part value = some image) (again : values[other]? = some same) (too : part same = some image) :
    place = other := by
  induction values generalizing place other with
  | nil => cases there
  | cons head values ih =>
    have rest : (values.filterMap part).Nodup := by
      rw [List.filterMap_cons] at once
      split at once
      · exact once
      · exact (List.nodup_cons.mp once).2
    have apart : ∀ {deep : Nat} {found : Value}, part head = some image → values[deep]? = some found →
        part found ≠ some image := by
      intro deep found first deeper twice
      rw [List.filterMap_cons, first] at once
      exact (List.nodup_cons.mp once).1 (mem_filterMap_place deeper twice)
    cases place with
    | zero =>
      cases other with
      | zero => rfl
      | succ other =>
        cases there
        exact absurd too (apart had again)
    | succ place =>
      cases other with
      | zero =>
        cases again
        exact absurd had (apart too there)
      | succ other => rw [ih rest there again]

end Common
