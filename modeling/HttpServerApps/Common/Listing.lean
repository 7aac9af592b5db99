import Mathlib.Data.List.Sort
import Mathlib.Order.Lattice
import Mathlib.Tactic.Common

namespace Common

open scoped List

/-- An order in which a query that sorts by the key can list the rows: rows of one key in any order. -/
structure Listing {Row Key : Type} [LinearOrder Key] (key : Row → Key) (rows order : List Row) : Prop where
  perm : order.Perm rows
  sorted : order.Pairwise fun a b => key a ≤ key b

namespace Listing

variable {Row Key : Type} [LinearOrder Key] {key : Row → Key} {rows order : List Row}

/-- The rows in the order given, where the key leaves it open. -/
def stable (key : Row → Key) (rows : List Row) : List Row := rows.mergeSort fun a b => key a ≤ key b

theorem key_trans (key : Row → Key) (a b c : Row) (first : decide (key a ≤ key b) = true)
    (second : decide (key b ≤ key c) = true) : decide (key a ≤ key c) = true := by
  simp only [decide_eq_true_eq] at first second ⊢
  exact first.trans second

theorem key_total (key : Row → Key) (a b : Row) :
    (decide (key a ≤ key b) || decide (key b ≤ key a)) = true := by
  simp only [Bool.or_eq_true, decide_eq_true_eq]
  exact le_total (key a) (key b)

theorem of_stable (key : Row → Key) (rows : List Row) : Listing key rows (stable key rows) := by
  refine ⟨List.mergeSort_perm rows _, ?_⟩
  have ordered := List.pairwise_mergeSort (key_trans key) (key_total key) rows
  exact ordered.imp fun holds => of_decide_eq_true holds

theorem of_perm {others : List Row} (same : rows.Perm others) (listing : Listing key rows order) :
    Listing key others order := ⟨listing.perm.trans same, listing.sorted⟩

theorem sorted_iff : (order.Pairwise fun a b => key a ≤ key b) ↔ (order.map key).Pairwise (· ≤ ·) :=
  List.pairwise_map.symm

/-- Two rows of one key can change places. -/
theorem swap {before between after : List Row} {a b : Row} (same : key a = key b)
    (listing : Listing key rows (before ++ a :: between ++ b :: after)) :
    Listing key rows (before ++ b :: between ++ a :: after) := by
  apply Listing.mk
  · refine List.Perm.trans ?_ listing.perm
    simp only [List.append_assoc, List.cons_append]
    refine List.Perm.append_left before ?_
    calc b :: (between ++ a :: after) ~ b :: a :: (between ++ after) := List.Perm.cons b List.perm_middle
      _ ~ a :: b :: (between ++ after) := List.Perm.swap a b _
      _ ~ a :: (between ++ b :: after) := List.Perm.cons a List.perm_middle.symm
  · have keys := sorted_iff.mp listing.sorted
    apply sorted_iff.mpr
    simp only [List.map_append, List.map_cons, same] at keys ⊢
    exact keys

theorem filter (listing : Listing key rows order) (part : Row → Bool) :
    Listing key (rows.filter part) (order.filter part) :=
  ⟨listing.perm.filter part, listing.sorted.filter part⟩

/-- Every listing of a part comes from a listing of the whole. -/
theorem of_part {part : Row → Bool} (listing : Listing key (rows.filter part) order) :
    ∃ whole, Listing key rows whole ∧ whole.filter part = order := by
  have others := of_stable key (order ++ rows.filter fun row => !part row)
  have split : (order ++ rows.filter fun row => !part row).Perm rows :=
    (listing.perm.append_right _).trans (List.filter_append_perm part rows)
  refine ⟨_, others.of_perm split, ?_⟩
  have within : order.Sublist (stable key (order ++ rows.filter fun row => !part row)) := by
    apply List.sublist_mergeSort (key_trans key) (key_total key)
    · exact listing.sorted.imp fun below => decide_eq_true below
    · exact List.sublist_append_left _ _
  have all : order.filter part = order := by
    apply List.filter_eq_self.mpr
    intro row member
    exact (List.mem_filter.mp (listing.perm.mem_iff.mp member)).2
  have kept := within.filter part
  rw [all] at kept
  exact (kept.eq_of_length (listing.perm.trans ((others.of_perm split).perm.filter part).symm).length_eq).symm

/-- Rows whose content depends on the key are listed with the same contents in every order. -/
theorem content_unique {Content : Type} {content : Row → Content} {first second : List Row}
    (one : Listing key rows first) (other : Listing key rows second)
    (determined : ∀ a ∈ rows, ∀ b ∈ rows, key a = key b → content a = content b) :
    first.map content = second.map content := by
  have pairs : first.map (fun row => (key row, content row)) = second.map fun row => (key row, content row) := by
    have sorted : ∀ order, Listing key rows order →
        (order.map fun row => (key row, content row)).Pairwise fun a b => a.1 ≤ b.1 :=
      fun order listing => List.pairwise_map.mpr listing.sorted
    refine List.Perm.eq_of_pairwise ?_ (sorted first one) (sorted second other)
      ((one.perm.trans other.perm.symm).map _)
    intro a b inFirst inSecond below above
    rcases List.mem_map.mp inFirst with ⟨row, member, rfl⟩
    rcases List.mem_map.mp inSecond with ⟨twin, twinMember, rfl⟩
    have same := le_antisymm below above
    exact Prod.ext same
      (determined row (one.perm.mem_iff.mp member) twin (other.perm.mem_iff.mp twinMember) same)
  have contents := congrArg (List.map Prod.snd) pairs
  rw [List.map_map, List.map_map] at contents
  exact contents

section

variable {Content : Type} {content : Row → Content} {part : Row → Bool} {contents : List Content}

theorem content_of_split {before between after : List Row} {a b : Row} (same : key a = key b)
    (aPart : part a = true) (bPart : part b = true)
    (listing : Listing key rows (before ++ a :: between ++ b :: after))
    (always : ∀ order, Listing key rows order → (order.filter part).map content = contents) :
    content a = content b := by
  have swapped := (always _ listing).trans (always _ (listing.swap same)).symm
  simp only [List.filter_append, List.filter_cons, aPart, bPart, ↓reduceIte, List.map_append, List.map_cons,
    List.append_assoc, List.cons_append] at swapped
  exact (List.cons.inj (List.append_cancel_left swapped)).1

/-- Where the rows of one key of a part differ in content, some order lists the part otherwise. -/
theorem content_determined
    (always : ∀ order, Listing key rows order → (order.filter part).map content = contents) :
    ∀ a ∈ rows.filter part, ∀ b ∈ rows.filter part, key a = key b → content a = content b := by
  intro a aMember b bMember same
  rcases List.mem_filter.mp aMember with ⟨aThere, aPart⟩
  rcases List.mem_filter.mp bMember with ⟨bThere, bPart⟩
  have listing := of_stable key rows
  generalize stable key rows = order at listing
  rcases List.append_of_mem (listing.perm.mem_iff.mpr aThere) with ⟨before, after, rfl⟩
  rcases List.mem_append.mp (listing.perm.mem_iff.mpr bThere) with earlier | here
  · rcases List.append_of_mem earlier with ⟨first, between, rfl⟩
    exact (content_of_split same.symm bPart aPart listing always).symm
  · rcases List.mem_cons.mp here with rfl | later
    · rfl
    · rcases List.append_of_mem later with ⟨between, last, rfl⟩
      exact content_of_split same aPart bPart (by simpa using listing) always

end

/-! Labels that alternate along the rows. -/

section

variable {label : Row → Bool} {expected : Nat → Bool}

/-- Every row has the label of its place. -/
def InPlace (label : Row → Bool) (expected : Nat → Bool) (rows : List Row) : Prop :=
  ∀ (i : Nat) (row : Row), rows[i]? = some row → label row = expected i

theorem inPlace_append {first second : List Row} :
    InPlace label expected (first ++ second) ↔
      InPlace label expected first ∧ InPlace label (fun i => expected (first.length + i)) second := by
  apply Iff.intro
  · intro placed
    apply And.intro
    · intro i row there
      exact placed i row (by rw [List.getElem?_append_left (List.getElem?_eq_some_iff.mp there).1]; exact there)
    · intro i row there
      have later : (first ++ second)[first.length + i]? = some row := by
        rw [List.getElem?_append_right (by omega), Nat.add_sub_cancel_left]
        exact there
      exact placed (first.length + i) row later
  · rintro ⟨before, after⟩ i row there
    by_cases early : i < first.length
    · rw [List.getElem?_append_left early] at there
      exact before i row there
    · rw [List.getElem?_append_right (by omega)] at there
      have placed : label row = expected (first.length + (i - first.length)) := after (i - first.length) row there
      rwa [show first.length + (i - first.length) = i by omega] at placed

theorem inPlace_map {Other : Type} {change : Other → Row} {others : List Other} :
    InPlace label expected (others.map change) ↔ InPlace (fun other => label (change other)) expected others := by
  unfold InPlace
  simp only [List.getElem?_map, Option.map_eq_some_iff]
  apply Iff.intro
  · exact fun placed i other there => placed i _ ⟨other, there, rfl⟩
  · rintro placed i row ⟨other, there, rfl⟩
    exact placed i other there

/-- How many rows come before by their key. -/
def rank (key : Row → Key) (rows : List Row) (row : Row) : Nat := rows.countP fun other => key other < key row

theorem rank_getElem? (strict : order.Pairwise fun a b => key a < key b) {i : Nat} {row : Row}
    (there : order[i]? = some row) : rank key order row = i := by
  induction order generalizing i with
  | nil => cases there
  | cons first order ih =>
    rcases List.pairwise_cons.mp strict with ⟨least, later⟩
    cases i with
    | zero =>
      cases there
      unfold rank
      rw [List.countP_cons_of_neg (by simp)]
      apply List.countP_eq_zero.mpr
      intro other member
      simpa using (least other member).le
    | succ i =>
      have there : order[i]? = some row := there
      have below := least row (List.mem_of_getElem? there)
      unfold rank at ih ⊢
      rw [List.countP_cons_of_pos (by simpa using below), ih later there]

theorem rank_eq (listing : Listing key rows order) (row : Row) : rank key order row = rank key rows row :=
  listing.perm.countP_eq _

/-- Two neighbours of one key would fit their places both ways round. -/
theorem strict_of_inPlace (alternates : ∀ i, expected i ≠ expected (i + 1))
    (always : ∀ order, Listing key rows order → InPlace label expected order) (listing : Listing key rows order) :
    order.Pairwise fun a b => key a < key b := by
  apply List.isChain_iff_pairwise.mp
  apply List.isChain_iff_getElem.mpr
  intro i bound
  have below : key order[i] ≤ key order[i + 1] :=
    List.pairwise_iff_getElem.mp listing.sorted i (i + 1) _ bound (by omega)
  apply lt_of_le_of_ne below
  intro same
  have shape : order = order.take i ++ order[i] :: [] ++ order[i + 1] :: order.drop (i + 2) := by
    rw [List.append_assoc, List.singleton_append, ← List.drop_eq_getElem_cons bound, ← List.drop_eq_getElem_cons,
      List.take_append_drop]
  have placed : label order[i + 1] = expected (i + 1) :=
    always order listing (i + 1) _ (List.getElem?_eq_getElem bound)
  have swapped : Listing key rows (order.take i ++ order[i + 1] :: [] ++ order[i] :: order.drop (i + 2)) :=
    swap same (shape ▸ listing)
  have moved : label order[i + 1] = expected i := by
    refine always _ swapped i _ ?_
    rw [List.append_assoc, List.getElem?_append_right (by simp)]
    simp [Nat.min_eq_left (by omega : i ≤ order.length)]
  exact alternates i (moved.symm.trans placed)

/-- Every listing has the labels in place exactly when no two rows share a key and every row has the label of
    its rank. -/
theorem inPlace_iff (alternates : ∀ i, expected i ≠ expected (i + 1)) :
    (∀ order, Listing key rows order → InPlace label expected order) ↔
      (rows.Pairwise fun a b => key a ≠ key b) ∧ ∀ row ∈ rows, label row = expected (rank key rows row) := by
  have symmetric : ∀ {a b : Row}, key a ≠ key b → key b ≠ key a := fun different => Ne.symm different
  apply Iff.intro
  · intro always
    have listing := of_stable key rows
    have strict := strict_of_inPlace alternates always listing
    refine ⟨(listing.perm.pairwise_iff symmetric).mp (strict.imp ne_of_lt), ?_⟩
    intro row member
    rcases List.mem_iff_getElem?.mp (listing.perm.mem_iff.mpr member) with ⟨i, there⟩
    rw [← rank_eq listing, rank_getElem? strict there]
    exact always _ listing i row there
  · rintro ⟨distinct, ranked⟩ order listing i row there
    have apart := (listing.perm.pairwise_iff symmetric).mpr distinct
    have strict : order.Pairwise fun a b => key a < key b :=
      (listing.sorted.and apart).imp fun both => lt_of_le_of_ne both.1 both.2
    rw [ranked row (listing.perm.mem_iff.mp (List.mem_of_getElem? there)), ← rank_eq listing,
      rank_getElem? strict there]

end

end Listing

end Common
