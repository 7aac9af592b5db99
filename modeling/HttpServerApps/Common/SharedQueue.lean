import Mathlib.Data.List.Basic
import Mathlib.Tactic.Common

namespace Common

/-! A queue that several readers share: each takes the first item that is its own. -/

variable {Item : Type} {mine others wanted : Item → Bool} {items rest : List Item} {first : Item}

theorem find?_own (own : items.filter mine = first :: rest) : items.find? mine = some first := by
  rw [← List.head?_filter, own]
  rfl

theorem find?_none_own (own : items.filter mine = []) : items.find? mine = none := by
  rw [← List.head?_filter, own]
  rfl

/-- What a reader leaves of its own items. -/
theorem filter_eraseP_own (items : List Item) : (items.eraseP mine).filter mine = (items.filter mine).tail := by
  induction items with
  | nil => rfl
  | cons item items ih =>
    cases own : mine item with
    | true => simp [own]
    | false => simp [own, ih]

/-- A reader leaves the items of the others alone. -/
theorem filter_eraseP_others (apart : ∀ item, others item = true → mine item = false) (items : List Item) :
    (items.eraseP mine).filter others = items.filter others := by
  induction items with
  | nil => rfl
  | cons item items ih =>
    cases own : mine item with
    | true =>
      have foreign : others item = false := by
        cases other : others item with
        | true => exact absurd (apart item other) (by simp [own])
        | false => rfl
      simp [own, foreign]
    | false => simp [own, List.filter_cons, ih]

/-- A reader that wants some of its items only finds its first one, where it wants that. -/
theorem find?_wanted (own : items.filter mine = first :: rest) (narrow : ∀ item, wanted item = true → mine item = true)
    (wants : wanted first = true) : items.find? wanted = some first ∧ items.eraseP wanted = items.eraseP mine := by
  induction items with
  | nil => cases own
  | cons item items ih =>
    cases here : mine item with
    | true =>
      rw [List.filter_cons_of_pos here] at own
      cases own
      simp [wants, here]
    | false =>
      have skipped : wanted item = false := by
        cases want : wanted item with
        | true => exact absurd (narrow item want) (by simp [here])
        | false => rfl
      rw [List.filter_cons_of_neg (by simp [here])] at own
      rcases ih own with ⟨found, erased⟩
      simp [here, skipped, found, erased]

end Common
