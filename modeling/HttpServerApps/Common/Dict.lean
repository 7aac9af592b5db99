import Mathlib.Data.List.Basic
import Mathlib.Tactic.Common

namespace Common

/-- A map that is only looked into and written key by key, given by its lookup. -/
def Dict (Key Value : Type) := Key → Option Value

namespace Dict

variable {Key Value : Type}

def empty : Dict Key Value := fun _ => none

def find (dict : Dict Key Value) (key : Key) : Option Value := dict key

/-- The entries that satisfy a test, as a sweep over the whole map leaves them. -/
def filter (dict : Dict Key Value) (keep : Value → Bool) : Dict Key Value :=
  fun key => (dict key).filter keep

instance : Inhabited (Dict Key Value) := ⟨empty⟩

@[ext] theorem ext {left right : Dict Key Value} (same : ∀ key, left.find key = right.find key) :
    left = right := funext same

@[simp] theorem find_empty (key : Key) : (empty : Dict Key Value).find key = none := rfl

@[simp] theorem find_filter (dict : Dict Key Value) (keep : Value → Bool) (key : Key) :
    (dict.filter keep).find key = (dict.find key).filter keep := rfl

variable [DecidableEq Key]

def insert (dict : Dict Key Value) (key : Key) (value : Value) : Dict Key Value :=
  fun other => if other = key then some value else dict other

def erase (dict : Dict Key Value) (key : Key) : Dict Key Value :=
  fun other => if other = key then none else dict other

@[simp] theorem find_insert_self (dict : Dict Key Value) (key : Key) (value : Value) :
    (dict.insert key value).find key = some value := by simp [find, insert]

theorem find_insert_of_ne (dict : Dict Key Value) (key other : Key) (value : Value)
    (different : other ≠ key) : (dict.insert key value).find other = dict.find other := by
  simp [find, insert, different]

theorem find_insert (dict : Dict Key Value) (key other : Key) (value : Value) :
    (dict.insert key value).find other = if other = key then some value else dict.find other := rfl

theorem insert_found {dict : Dict Key Value} {key : Key} {value : Value} (found : dict.find key = some value) :
    dict.insert key value = dict := by
  ext other
  rw [find_insert]
  split
  · rename_i same
    rw [same, found]
  · rfl

@[simp] theorem find_erase_self (dict : Dict Key Value) (key : Key) :
    (dict.erase key).find key = none := by simp [find, erase]

theorem find_erase_of_ne (dict : Dict Key Value) (key other : Key) (different : other ≠ key) :
    (dict.erase key).find other = dict.find other := by simp [find, erase, different]

theorem find_erase (dict : Dict Key Value) (key other : Key) :
    (dict.erase key).find other = if other = key then none else dict.find other := rfl

end Dict

/-- A map that is also gone through in key order, as the list of its entries. -/
structure OrderedMap (Key Value : Type) where
  entries : List (Key × Value) := []

namespace OrderedMap

variable {Key Value : Type} [DecidableEq Key] (before : Key → Key → Bool)

def insertEntry (key : Key) (value : Value) : List (Key × Value) → List (Key × Value)
  | [] => [(key, value)]
  | (other, old) :: rest =>
    if other = key then (key, value) :: rest
    else if before key other then (key, value) :: (other, old) :: rest
    else (other, old) :: insertEntry key value rest

def insert (map : OrderedMap Key Value) (key : Key) (value : Value) : OrderedMap Key Value :=
  ⟨insertEntry before key value map.entries⟩

def find (map : OrderedMap Key Value) (key : Key) : Option Value :=
  (map.entries.find? fun entry => entry.1 = key).map Prod.snd

theorem find_insert (map : OrderedMap Key Value) (key other : Key) (value : Value) :
    (map.insert before key value).find other = if other = key then some value else map.find other := by
  obtain ⟨entries⟩ := map
  unfold insert find
  induction entries with
  | nil =>
    by_cases same : other = key
    · simp [insertEntry, same]
    · simp [insertEntry, same, Ne.symm same]
  | cons entry rest ih =>
    obtain ⟨first, old⟩ := entry
    by_cases found : first = key
    · subst first
      by_cases same : other = key
      · simp [insertEntry, same]
      · simp [insertEntry, same, Ne.symm same]
    · by_cases smaller : before key first = true
      · by_cases same : other = key
        · simp [insertEntry, found, smaller, same]
        · simp [insertEntry, found, smaller, same, Ne.symm same]
      · by_cases here : first = other
        · subst first
          simp [insertEntry, smaller, found]
        · simp only [insertEntry, found, smaller, here, List.find?_cons, decide_false,
            Bool.false_eq_true, ↓reduceIte]
          exact ih

/-- The entries are in key order, each key once. -/
def Ordered (map : OrderedMap Key Value) : Prop :=
  map.entries.Pairwise fun first second => before first.1 second.1 = true

instance (map : OrderedMap Key Value) : Decidable (map.Ordered before) :=
  inferInstanceAs (Decidable (List.Pairwise _ _))

theorem mem_insertEntry {key : Key} {value : Value} {entries : List (Key × Value)} {entry : Key × Value}
    (member : entry ∈ insertEntry before key value entries) : entry = (key, value) ∨ entry ∈ entries := by
  induction entries with
  | nil => exact Or.inl (List.mem_singleton.mp member)
  | cons head rest ih =>
    rcases head with ⟨other, old⟩
    simp only [insertEntry] at member
    split at member
    · rcases List.mem_cons.mp member with same | later
      · exact Or.inl same
      · exact Or.inr (List.mem_cons_of_mem _ later)
    · split at member
      · rcases List.mem_cons.mp member with same | later
        · exact Or.inl same
        · exact Or.inr later
      · rcases List.mem_cons.mp member with same | later
        · exact Or.inr (same ▸ List.mem_cons_self ..)
        · rcases ih later with same | inside
          · exact Or.inl same
          · exact Or.inr (List.mem_cons_of_mem _ inside)

/-- Setting an entry keeps the order of the keys, where `before` is a strict total order. -/
theorem Ordered.insert {map : OrderedMap Key Value} (ordered : map.Ordered before)
    (transitive : ∀ a b c, before a b = true → before b c = true → before a c = true)
    (total : ∀ a b, a ≠ b → before a b = false → before b a = true) (key : Key) (value : Value) :
    (map.insert before key value).Ordered before := by
  rcases map with ⟨entries⟩
  unfold Ordered OrderedMap.insert at *
  dsimp only at *
  induction entries with
  | nil => exact List.pairwise_singleton _ _
  | cons head rest ih =>
    rcases head with ⟨other, old⟩
    rcases List.pairwise_cons.mp ordered with ⟨first, later⟩
    simp only [insertEntry]
    split
    · rename_i same
      rw [← same]
      exact List.pairwise_cons.mpr ⟨first, later⟩
    · rename_i different
      split
      · rename_i smaller
        refine List.pairwise_cons.mpr ⟨?_, ordered⟩
        intro entry member
        rcases List.mem_cons.mp member with rfl | inside
        · exact smaller
        · exact transitive _ _ _ smaller (first entry inside)
      · rename_i larger
        refine List.pairwise_cons.mpr ⟨?_, ih later⟩
        intro entry member
        rcases mem_insertEntry before member with rfl | inside
        · exact total _ _ (Ne.symm different) (Bool.eq_false_iff.mpr larger)
        · exact first entry inside

end OrderedMap

end Common
