import Mathlib.Algebra.GroupWithZero.Nat
import HttpServerApps.Common.Bytes

namespace Sql

open Common

inductive Quote where
  | single
  | double
  deriving DecidableEq

def Quote.byte : Quote → UInt8
  | .single => 39
  | .double => 34

def backslash : UInt8 := 92
def minus : UInt8 := 45

inductive Token where
  | word (text : Bytes)
  | string (value : Bytes)
  | punct (c : UInt8)
  deriving DecidableEq

/-- Where MySQL's lexer stands between two bytes, under the default SQL mode. -/
inductive Mode where
  | blank
  | word (text : Bytes)
  | string (quote : Quote) (value : Bytes)
  | escape (quote : Quote) (value : Bytes)
  /-- After a quote, which ends the literal unless another doubles it. -/
  | closing (quote : Quote) (value : Bytes)
  | dash
  | dashes
  | slash
  | line
  | opened
  | block
  | star
  /-- In a comment whose text MySQL executes, which is not followed. -/
  | executable
  deriving DecidableEq

structure Lexing where
  mode : Mode := .blank
  tokens : List Token := []
  deriving DecidableEq

/-- The bytes of words and numbers, all bytes beyond ASCII among them. -/
def isWordByte (c : UInt8) : Bool :=
  isdigit c || (65 ≤ c && c ≤ 90) || (97 ≤ c && c ≤ 122) || c = 95 || c = 36 || 128 ≤ c

/-- The bytes that a backslash and `c` stand for in a string literal. -/
def unescape (c : UInt8) : Bytes :=
  if c = 48 then [0]
  else if c = 98 then [8]
  else if c = 110 then [10]
  else if c = 114 then [13]
  else if c = 116 then [9]
  else if c = 90 then [26]
  else if c = 37 ∨ c = 95 then [backslash, c]
  else [c]

def begin (tokens : List Token) (c : UInt8) : Lexing :=
  if isspace c then ⟨.blank, tokens⟩
  else if c = Quote.single.byte then ⟨.string .single [], tokens⟩
  else if c = Quote.double.byte then ⟨.string .double [], tokens⟩
  else if isWordByte c then ⟨.word [c], tokens⟩
  else if c = minus then ⟨.dash, tokens⟩
  else if c = 47 then ⟨.slash, tokens⟩
  else if c = 35 then ⟨.line, tokens⟩
  else ⟨.blank, tokens ++ [.punct c]⟩

def step (at_ : Lexing) (c : UInt8) : Lexing :=
  let tokens := at_.tokens
  match at_.mode with
  | .blank => begin tokens c
  | .word text => if isWordByte c then ⟨.word (text ++ [c]), tokens⟩ else begin (tokens ++ [.word text]) c
  | .string quote value =>
    if c = backslash then ⟨.escape quote value, tokens⟩
    else if c = quote.byte then ⟨.closing quote value, tokens⟩
    else ⟨.string quote (value ++ [c]), tokens⟩
  | .escape quote value => ⟨.string quote (value ++ unescape c), tokens⟩
  | .closing quote value =>
    if c = quote.byte then ⟨.string quote (value ++ [c]), tokens⟩
    else begin (tokens ++ [.string value]) c
  | .dash => if c = minus then ⟨.dashes, tokens⟩ else begin (tokens ++ [.punct minus]) c
  -- Two dashes open a comment only before a blank.
  | .dashes =>
    if c = LF then ⟨.blank, tokens⟩
    else if c ≤ 32 ∨ c = 127 then ⟨.line, tokens⟩
    else if c = minus then ⟨.dashes, tokens ++ [.punct minus]⟩
    else begin (tokens ++ [.punct minus, .punct minus]) c
  | .slash => if c = 42 then ⟨.opened, tokens⟩ else begin (tokens ++ [.punct 47]) c
  | .line => if c = LF then ⟨.blank, tokens⟩ else ⟨.line, tokens⟩
  | .opened =>
    if c = 33 then ⟨.executable, tokens⟩
    else if c = 42 then ⟨.star, tokens⟩
    else ⟨.block, tokens⟩
  | .block => if c = 42 then ⟨.star, tokens⟩ else ⟨.block, tokens⟩
  | .star =>
    if c = 47 then ⟨.blank, tokens⟩
    else if c = 42 then ⟨.star, tokens⟩
    else ⟨.block, tokens⟩
  | .executable => ⟨.executable, tokens⟩

def run (at_ : Lexing) (text : Bytes) : Lexing := text.foldl step at_

/-- The tokens of a text that ends here; none where a literal or a comment stays open. -/
def finish (at_ : Lexing) : Option (List Token) :=
  let tokens := at_.tokens
  match at_.mode with
  | .blank | .line | .dashes => some tokens
  | .word text => some (tokens ++ [.word text])
  | .closing _ value => some (tokens ++ [.string value])
  | .dash => some (tokens ++ [.punct minus])
  | .slash => some (tokens ++ [.punct 47])
  | _ => none

def lex (text : Bytes) : Option (List Token) := finish (run {} text)

theorem run_append (at_ : Lexing) (left right : Bytes) :
    run at_ (left ++ right) = run (run at_ left) right := List.foldl_append

theorem run_cons (at_ : Lexing) (c : UInt8) (text : Bytes) : run at_ (c :: text) = run (step at_ c) text := rfl

theorem run_word (tokens : List Token) (head text : Bytes) (wordBytes : ∀ c ∈ text, isWordByte c = true) :
    run ⟨.word head, tokens⟩ text = ⟨.word (head ++ text), tokens⟩ := by
  induction text generalizing head with
  | nil => rw [List.append_nil]; rfl
  | cons c text ih =>
    have wordByte : isWordByte c = true := wordBytes c (by simp)
    have next : step ⟨.word head, tokens⟩ c = ⟨.word (head ++ [c]), tokens⟩ := by
      simp only [step, wordByte, if_true]
    rw [run_cons, next, ih _ fun d member => wordBytes d (List.mem_cons_of_mem _ member)]
    rw [List.append_assoc, List.singleton_append]

theorem begin_word {c : UInt8} (wordByte : isWordByte c = true) (tokens : List Token) :
    begin tokens c = ⟨.word [c], tokens⟩ := by
  have blank : isspace c = false := by
    cases spaced : isspace c with
    | false => rfl
    | true =>
      exfalso
      simp only [isspace, Bool.or_eq_true, Bool.and_eq_true, decide_eq_true_eq, UInt8.le_iff_toNat_le,
        ← UInt8.toNat_inj] at spaced
      simp only [isWordByte, isdigit, Bool.or_eq_true, Bool.and_eq_true, decide_eq_true_eq,
        UInt8.le_iff_toNat_le, ← UInt8.toNat_inj] at wordByte
      simp at spaced wordByte
      omega
  have single : c ≠ Quote.single.byte := by
    intro same
    obtain rfl := same
    revert wordByte
    decide
  have double : c ≠ Quote.double.byte := by
    intro same
    obtain rfl := same
    revert wordByte
    decide
  simp only [begin, blank, Bool.false_eq_true, if_false, single, double, wordByte, if_true]

/-! Quotes: every string literal costs two more than it denotes. -/

def isQuote (c : UInt8) : Bool := c = Quote.single.byte || c = Quote.double.byte

def quotes (text : Bytes) : Nat := text.countP isQuote

@[simp] theorem quotes_nil : quotes [] = 0 := rfl

@[simp] theorem quotes_append (left right : Bytes) : quotes (left ++ right) = quotes left + quotes right :=
  List.countP_append

theorem quotes_cons (c : UInt8) (text : Bytes) : quotes (c :: text) = quotes [c] + quotes text := by
  rw [← List.singleton_append, quotes_append]

theorem quotes_quote (quote : Quote) : quotes [quote.byte] = 1 := by cases quote <;> rfl

def Token.quotes : Token → Nat
  | .string value => 2 + Sql.quotes value
  | _ => 0

def tokenQuotes (tokens : List Token) : Nat := (tokens.map Token.quotes).sum

@[simp] theorem tokenQuotes_append (left right : List Token) :
    tokenQuotes (left ++ right) = tokenQuotes left + tokenQuotes right := by
  unfold tokenQuotes
  rw [List.map_append, List.sum_append]

@[simp] theorem tokenQuotes_cons (token : Token) (tokens : List Token) :
    tokenQuotes (token :: tokens) = token.quotes + tokenQuotes tokens := rfl

@[simp] theorem tokenQuotes_nil : tokenQuotes [] = 0 := rfl

def Mode.quotes : Mode → Nat
  | .string _ value | .escape _ value => 1 + Sql.quotes value
  | .closing _ value => 2 + Sql.quotes value
  | _ => 0

def Lexing.quotes (at_ : Lexing) : Nat := tokenQuotes at_.tokens + at_.mode.quotes

theorem quotes_begin (tokens : List Token) (c : UInt8) :
    (begin tokens c).quotes ≤ tokenQuotes tokens + Sql.quotes [c] := by
  unfold begin Lexing.quotes
  split
  · exact Nat.add_le_add_left (Nat.zero_le _) _
  split
  · next single =>
    rw [single, quotes_quote]
    exact Nat.le_refl _
  split
  · next double =>
    rw [double, quotes_quote]
    exact Nat.le_refl _
  repeat' split
  all_goals simp [Mode.quotes, Token.quotes]

theorem quotes_unescape (c : UInt8) : quotes (unescape c) ≤ quotes [c] := by
  unfold unescape
  repeat' split
  all_goals first | exact Nat.zero_le _ | skip
  · rename_i special
    rcases special with rfl | rfl <;> decide
  · exact Nat.le_refl _

theorem quotes_step (at_ : Lexing) (c : UInt8) : (step at_ c).quotes ≤ at_.quotes + Sql.quotes [c] := by
  obtain ⟨mode, tokens⟩ := at_
  have ahead : ∀ token : Token, token.quotes = mode.quotes →
      (begin (tokens ++ [token]) c).quotes ≤ tokenQuotes tokens + mode.quotes + Sql.quotes [c] := by
    intro token same
    have first := quotes_begin (tokens ++ [token]) c
    rw [tokenQuotes_append, tokenQuotes_cons, tokenQuotes_nil, same] at first
    exact first
  cases mode with
  | blank => exact quotes_begin tokens c
  | word text =>
    simp only [step]
    split
    · exact Nat.le_add_right _ _
    · exact ahead (.word text) rfl
  | string quote value =>
    simp only [step]
    split
    · exact Nat.le_add_right _ _
    split
    · next closes =>
      rw [closes, quotes_quote]
      simp only [Lexing.quotes, Mode.quotes]
      omega
    · simp only [Lexing.quotes, Mode.quotes, quotes_append]
      omega
  | escape quote value =>
    have := quotes_unescape c
    simp only [step, Lexing.quotes, Mode.quotes, quotes_append]
    omega
  | closing quote value =>
    simp only [step]
    split
    · simp only [Lexing.quotes, Mode.quotes, quotes_append]
      omega
    · exact ahead (.string value) rfl
  | dash =>
    simp only [step]
    split
    · exact Nat.le_add_right _ _
    · exact ahead (.punct minus) rfl
  | dashes =>
    have two := quotes_begin (tokens ++ [.punct minus, .punct minus]) c
    simp only [step]
    repeat' split
    all_goals simp_all [Lexing.quotes, Mode.quotes, Token.quotes]
  | slash =>
    simp only [step]
    split
    · exact Nat.le_add_right _ _
    · exact ahead (.punct 47) rfl
  | line | opened | block | star =>
    simp only [step]
    repeat' split
    all_goals exact Nat.le_add_right _ _
  | executable => exact Nat.le_add_right _ _

theorem quotes_run (at_ : Lexing) (text : Bytes) : (run at_ text).quotes ≤ at_.quotes + Sql.quotes text := by
  induction text generalizing at_ with
  | nil => exact Nat.le_refl _
  | cons c text ih =>
    have first := quotes_step at_ c
    have rest := ih (step at_ c)
    rw [quotes_cons, run_cons]
    omega

theorem quotes_finish {at_ : Lexing} {tokens : List Token} (done : finish at_ = some tokens) :
    tokenQuotes tokens ≤ at_.quotes := by
  obtain ⟨mode, before⟩ := at_
  cases mode <;> cases done <;> simp [Lexing.quotes, Mode.quotes, Token.quotes]

/-- The quotes of a text pay for the string literals it is read as. -/
theorem quotes_lex {text : Bytes} {tokens : List Token} (read : lex text = some tokens) :
    tokenQuotes tokens ≤ quotes text := by
  have start : Lexing.quotes {} = 0 := rfl
  have whole := quotes_run {} text
  have last := quotes_finish read
  omega

end Sql
