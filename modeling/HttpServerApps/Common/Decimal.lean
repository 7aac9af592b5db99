import Mathlib.Data.List.TakeWhile
import Mathlib.Data.Nat.Digits.Defs
import HttpServerApps.Common.Bytes

namespace Common

/-- The number a run of decimal digits denotes. -/
def decimalValue (digits : Bytes) : Nat := digits.foldl (fun n c => 10 * n + (c.toNat - 48)) 0

def digitByte (d : Nat) : UInt8 := UInt8.ofNat (48 + d)

/-- The decimal digits of a number, without leading zeros. -/
def natText (n : Nat) : Bytes :=
  if n = 0 then [48] else (Nat.digits 10 n).reverse.map digitByte

/-- `std::to_string` of an integer. -/
def intText : Int → Bytes
  | .ofNat n => natText n
  | .negSucc n => 45 :: natText (n + 1)

/-- `std::stoi`, with the text of its exception. -/
def stoi (text : Bytes) : Except Bytes Int32 :=
  let body := text.dropWhile isspace
  let negative := body.head? = some 45
  let digits := (if negative ∨ body.head? = some 43 then body.tail else body).takeWhile isdigit
  let value : Int := if negative then -decimalValue digits else decimalValue digits
  if digits = [] ∨ value < -2 ^ 31 ∨ 2 ^ 31 ≤ value then .error (bytes "stoi")
  else .ok (Int32.ofInt value)

theorem digitByte_toNat {d : Nat} (small : d < 10) : (digitByte d).toNat = 48 + d := by
  simp only [digitByte, UInt8.toNat_ofNat']
  omega

theorem digitByte_isdigit {d : Nat} (small : d < 10) : isdigit (digitByte d) = true := by
  have value := digitByte_toNat small
  simp only [isdigit, Bool.and_eq_true, decide_eq_true_eq, UInt8.le_iff_toNat_le, value]
  apply And.intro
  · show 48 ≤ 48 + d
    omega
  · show 48 + d ≤ 57
    omega

theorem natText_isdigit (n : Nat) : ∀ c ∈ natText n, isdigit c = true := by
  intro c member
  unfold natText at member
  split at member
  · obtain rfl := List.mem_singleton.mp member
    decide
  · obtain ⟨d, digit, rfl⟩ := List.mem_map.mp member
    exact digitByte_isdigit (Nat.digits_lt_base (by decide) (List.mem_reverse.mp digit))

theorem natText_ne_nil (n : Nat) : natText n ≠ [] := by
  unfold natText
  split
  · simp
  · rename_i positive
    simpa using Nat.digits_ne_nil_iff_ne_zero.mpr positive

theorem decimalValue_digits (digits : List Nat) (small : ∀ d ∈ digits, d < 10) :
    decimalValue (digits.reverse.map digitByte) = Nat.ofDigits 10 digits := by
  unfold decimalValue
  rw [List.map_reverse, List.foldl_reverse]
  induction digits with
  | nil => rfl
  | cons d digits ih =>
    have value := digitByte_toNat (small d (by simp))
    have rest := ih fun d member => small d (List.mem_cons_of_mem _ member)
    simp only [List.map_cons, List.foldr_cons, rest, value, Nat.ofDigits_cons]
    omega

theorem decimalValue_natText (n : Nat) : decimalValue (natText n) = n := by
  unfold natText
  split
  · rename_i zero
    rw [zero]
    rfl
  · rw [decimalValue_digits _ fun d digit => Nat.digits_lt_base (by decide) digit,
      Nat.ofDigits_digits]

theorem natText_injective : Function.Injective natText := by
  intro left right same
  rw [← decimalValue_natText left, same, decimalValue_natText]

theorem natText_head (n : Nat) : ∃ c rest, natText n = c :: rest ∧ isdigit c = true := by
  cases shape : natText n with
  | nil => exact absurd shape (natText_ne_nil n)
  | cons c rest => exact ⟨c, rest, rfl, natText_isdigit n c (by simp [shape])⟩

theorem intText_injective : Function.Injective intText := by
  intro left right same
  have notDigit : isdigit 45 = false := by decide
  cases left with
  | ofNat left =>
    cases right with
    | ofNat right => rw [natText_injective same]
    | negSucc right =>
      obtain ⟨c, rest, shape, digit⟩ := natText_head left
      simp only [intText, shape, List.cons.injEq] at same
      rw [same.1, notDigit] at digit
      cases digit
  | negSucc left =>
    cases right with
    | ofNat right =>
      obtain ⟨c, rest, shape, digit⟩ := natText_head right
      simp only [intText, shape, List.cons.injEq] at same
      rw [← same.1, notDigit] at digit
      cases digit
    | negSucc right =>
      simp only [intText, List.cons.injEq, true_and] at same
      have := natText_injective same
      congr 1
      omega

theorem isdigit_not_sign {c : UInt8} (digit : isdigit c = true) :
    c ≠ 45 ∧ c ≠ 43 ∧ isspace c = false := by
  simp only [isdigit, Bool.and_eq_true, decide_eq_true_eq] at digit
  refine ⟨?_, ?_, ?_⟩
  · intro same
    obtain rfl := same
    exact absurd digit.1 (by decide)
  · intro same
    obtain rfl := same
    exact absurd digit.1 (by decide)
  · have low : 48 ≤ c.toNat := digit.1
    simp only [isspace, Bool.or_eq_false_iff, Bool.and_eq_false_iff, decide_eq_false_iff_not]
    apply And.intro
    · intro same
      obtain rfl := same
      exact absurd low (by decide)
    · right
      intro high
      have bound : c.toNat ≤ 13 := high
      omega

theorem takeWhile_natText (n : Nat) : (natText n).takeWhile isdigit = natText n :=
  List.takeWhile_eq_self_iff.mpr (natText_isdigit n)

theorem stoi_intText (value : Int32) : stoi (intText value.toInt) = .ok value := by
  have low := value.le_toInt
  have high := value.toInt_lt
  unfold stoi
  cases shape : value.toInt with
  | ofNat n =>
    obtain ⟨c, rest, text, digit⟩ := natText_head n
    obtain ⟨notMinus, notPlus, notSpace⟩ := isdigit_not_sign digit
    have body : (intText (.ofNat n)).dropWhile isspace = natText n := by
      simp only [intText, text, List.dropWhile_cons, notSpace, Bool.false_eq_true, ↓reduceIte]
    have head : (natText n).head? = some c := by rw [text]; rfl
    simp only [body, head, Option.some.injEq, notMinus, notPlus, or_self, ↓reduceIte,
      takeWhile_natText, decimalValue_natText, natText_ne_nil, false_or]
    rw [if_neg (by rw [shape] at low high; simp only [Int.ofNat_eq_natCast] at low high; omega)]
    rw [← Int.ofNat_eq_natCast, ← shape, Int32.ofInt_toInt]
  | negSucc n =>
    have body : (intText (.negSucc n)).dropWhile isspace = 45 :: natText (n + 1) := rfl
    simp only [body, List.head?_cons, List.tail_cons, true_or, ↓reduceIte, takeWhile_natText,
      decimalValue_natText, natText_ne_nil, false_or]
    rw [if_neg (by rw [shape] at low high; omega)]
    rw [Int.neg_ofNat_succ, ← shape, Int32.ofInt_toInt]

theorem stoi_nil : stoi [] = .error (bytes "stoi") := rfl

/-- A positive number is read from blanks, a plus sign or none, and digits. -/
theorem stoi_positive {text : Bytes} {number : Int32} (read : stoi text = .ok number) (positive : 0 < number) :
    ∃ blanks sign digits rest, text = blanks ++ (sign ++ (digits ++ rest)) ∧ (∀ c ∈ blanks, isspace c = true) ∧
      (sign = [] ∨ sign = [43]) ∧ (∀ c ∈ digits, isdigit c = true) ∧ number.toInt = decimalValue digits := by
  have above : 0 < number.toInt := Int32.lt_iff_toInt_lt.mp positive
  have shape : text = text.takeWhile isspace ++ text.dropWhile isspace := List.takeWhile_append_dropWhile.symm
  have blank : ∀ c ∈ text.takeWhile isspace, isspace c = true := fun c member => List.mem_takeWhile_imp member
  unfold stoi at read
  generalize text.dropWhile isspace = body at read shape
  by_cases minus : body.head? = some 45
  · simp only [minus, true_or, if_true] at read
    generalize (body.tail.takeWhile isdigit) = digits at read
    split at read
    · cases read
    · rename_i fits
      cases read
      have value := @Int32.toInt_ofInt_of_le (-(decimalValue digits : Int)) (by omega) (by omega)
      omega
  · simp only [minus, false_or, if_false] at read
    have body_cut : ∃ sign, (sign = [] ∨ sign = [43]) ∧
        body = sign ++ (if body.head? = some 43 then body.tail else body) := by
      by_cases plus : body.head? = some 43
      · rw [if_pos plus]
        refine ⟨[43], Or.inr rfl, ?_⟩
        cases body with
        | nil => cases plus
        | cons c body =>
          cases plus
          rfl
      · exact ⟨[], Or.inl rfl, by rw [if_neg plus, List.nil_append]⟩
    rcases body_cut with ⟨sign, signs, cut⟩
    generalize (if body.head? = some 43 then body.tail else body) = number_text at read cut
    split at read
    · cases read
    · rename_i fits
      cases read
      have value := @Int32.toInt_ofInt_of_le (decimalValue (number_text.takeWhile isdigit) : Int) (by omega) (by omega)
      refine ⟨_, sign, number_text.takeWhile isdigit, number_text.dropWhile isdigit, ?_, blank, signs, ?_, value⟩
      · rw [List.takeWhile_append_dropWhile, ← cut]
        exact shape
      · exact fun c member => List.mem_takeWhile_imp member

end Common
