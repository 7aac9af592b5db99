import Mathlib.Data.List.Basic
import Mathlib.Tactic.Common

namespace Common

variable {Entry Key : Type}

/-- Of the entries with the greatest measure the first one of the list. -/
def EarliestMax (measure : Entry → Nat) (entries : List Entry) (found : Entry) : Prop :=
  ∃ before after, entries = before ++ found :: after ∧ (∀ other ∈ before, measure other < measure found) ∧
    ∀ other ∈ after, measure other ≤ measure found

theorem EarliestMax.mem {measure : Entry → Nat} {entries : List Entry} {found : Entry}
    (best : EarliestMax measure entries found) : found ∈ entries := by
  rcases best with ⟨before, after, rfl, _, _⟩
  exact List.mem_append_right _ (List.mem_cons_self ..)

theorem EarliestMax.greatest {measure : Entry → Nat} {entries : List Entry} {found other : Entry}
    (best : EarliestMax measure entries found) (member : other ∈ entries) : measure other ≤ measure found := by
  rcases best with ⟨before, after, rfl, smaller, atMost⟩
  have all : ∀ entry ∈ before ++ found :: after, measure entry ≤ measure found := by
    rw [List.forall_mem_append, List.forall_mem_cons]
    exact ⟨fun entry inside => Nat.le_of_lt (smaller entry inside), Nat.le_refl _, atMost⟩
  exact all other member

theorem EarliestMax.find {measure : Entry → Nat} {entries : List Entry} {found : Entry}
    (best : EarliestMax measure entries found) :
    entries.find? (fun entry => measure found ≤ measure entry) = some found := by
  rcases best with ⟨before, after, rfl, smaller, _⟩
  rw [List.find?_eq_some_iff_append]
  refine ⟨decide_eq_true (Nat.le_refl _), before, after, rfl, ?_⟩
  intro other member
  have less := smaller other member
  simpa using less

/-- There is at most one. -/
theorem EarliestMax.unique {measure : Entry → Nat} {entries : List Entry} {first second : Entry}
    (one : EarliestMax measure entries first) (other : EarliestMax measure entries second) : first = second := by
  have same : measure first = measure second := Nat.le_antisymm (other.greatest one.mem) (one.greatest other.mem)
  have found := one.find
  rw [same, other.find] at found
  exact (Option.some.inj found).symm

/-! A search through keys of falling size, in each of them for the first entry with this key. -/

section

variable [DecidableEq Key] {keyOf : Entry → Key} {size : Key → Nat} {keys : List Key} {entries : List Entry}

theorem search_earliestMax (decreasing : keys.Pairwise fun first second => size second < size first)
    (covered : ∀ entry ∈ entries, keyOf entry ∈ keys) {found : Entry}
    (search : keys.findSome? (fun key => entries.find? fun entry => keyOf entry = key) = some found) :
    EarliestMax (fun entry => size (keyOf entry)) entries found := by
  rcases List.findSome?_eq_some_iff.mp search with ⟨longer, key, shorter, rfl, here, missed⟩
  rcases List.find?_eq_some_iff_append.mp here with ⟨own, before, after, rfl, others⟩
  have own : keyOf found = key := of_decide_eq_true own
  have smaller : ∀ entry ∈ before ++ found :: after, keyOf entry ≠ key → size (keyOf entry) < size (keyOf found) := by
    intro entry member different
    rcases List.mem_append.mp (covered entry member) with early | late
    · have absent := List.find?_eq_none.mp (missed _ early) entry member
      simp at absent
    · rcases List.mem_cons.mp late with same | later
      · exact absurd same different
      · rw [own]
        exact (List.pairwise_cons.mp (List.pairwise_append.mp decreasing).2.1).1 _ later
  refine ⟨before, after, rfl, ?_, ?_⟩
  · intro other member
    have different := others other member
    apply smaller other (List.mem_append_left _ member)
    simpa using different
  · intro other member
    by_cases same : keyOf other = key
    · have equal : size (keyOf other) = size (keyOf found) := by rw [same, own]
      exact Nat.le_of_eq equal
    · exact Nat.le_of_lt (smaller other (List.mem_append_right _ (List.mem_cons_of_mem _ member)) same)

theorem search_none (covered : ∀ entry ∈ entries, keyOf entry ∈ keys)
    (search : keys.findSome? (fun key => entries.find? fun entry => keyOf entry = key) = none) : entries = [] := by
  apply List.eq_nil_iff_forall_not_mem.mpr
  intro entry member
  have missed := List.findSome?_eq_none_iff.mp search _ (covered entry member)
  have absent := List.find?_eq_none.mp missed entry member
  simp at absent

end

end Common
