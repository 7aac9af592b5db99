import HttpServerApps.Common.Decimal
import HttpServerApps.Sql.Lexer

namespace Sql

open Common

def isNumeral (text : Bytes) : Bool := text ≠ [] && text.all isdigit

/-- An exact number or a string. Other literals, such as floating-point ones, are not read. -/
inductive Literal where
  | integer (value : Int)
  | decimal (negative : Bool) (whole : Nat) (fraction : Bytes) (numeral : isNumeral fraction = true)
  | text (value : Bytes)
  deriving DecidableEq

def zeroDecimal (whole : Nat) (fraction : Bytes) : Bool := whole = 0 && fraction.all (· = 48)

/-- The characters of a literal in a character column; a zero has no sign. -/
def Literal.characters : Literal → Bytes
  | .integer value => intText value
  | .decimal negative whole fraction _ =>
    (if negative && !zeroDecimal whole fraction then [minus] else []) ++ natText whole ++ 46 :: fraction
  | .text value => value

def comma : UInt8 := 44
def openParen : UInt8 := 40
def closeParen : UInt8 := 41
def point : UInt8 := 46

def readNumber (negative : Bool) : List Token → Option (Literal × List Token)
  | .word whole :: rest =>
    if isNumeral whole then
      match rest with
      | .punct 46 :: .word fraction :: rest =>
        if numeral : isNumeral fraction then
          some (.decimal negative (decimalValue whole) fraction numeral, rest)
        else none
      | rest => some (.integer (if negative then -decimalValue whole else decimalValue whole), rest)
    else none
  | _ => none

/-- String literals that follow one another are one. -/
def readStrings : List Token → Bytes × List Token
  | .string value :: rest => (value ++ (readStrings rest).1, (readStrings rest).2)
  | rest => ([], rest)

def readLiteral : List Token → Option (Literal × List Token)
  | .string value :: rest => some (.text (value ++ (readStrings rest).1), (readStrings rest).2)
  | .punct 45 :: rest => readNumber true rest
  | .punct 43 :: rest => readNumber false rest
  | rest => readNumber false rest

/-- The literals of a row of that many values, closed by its parenthesis at the end of the statement. -/
def readRow : Nat → List Token → Option (List Literal)
  | 0, _ => none
  | 1, tokens =>
    match readLiteral tokens with
    | some (value, [.punct 41]) => some [value]
    | _ => none
  | n + 2, tokens =>
    match readLiteral tokens with
    | some (value, .punct 44 :: rest) => (readRow (n + 1) rest).map (value :: ·)
    | _ => none

/-- The literals of the only row of a statement that begins with the tokens `head`. -/
def readInsert (head : List Token) (columns : Nat) (statement : Bytes) : Option (List Literal) :=
  match lex statement with
  | some tokens => if head <+: tokens then readRow columns (tokens.drop head.length) else none
  | none => none

def Literal.quotes : Literal → Nat
  | .text value => 2 + Sql.quotes value
  | _ => 0

def literalQuotes (literals : List Literal) : Nat := (literals.map Literal.quotes).sum

theorem quotes_readNumber {negative : Bool} {tokens rest : List Token} {value : Literal}
    (read : readNumber negative tokens = some (value, rest)) :
    value.quotes + tokenQuotes rest ≤ tokenQuotes tokens := by
  unfold readNumber at read
  repeat' split at read
  all_goals cases read <;> simp [Literal.quotes, Token.quotes]

theorem quotes_readStrings (tokens : List Token) :
    Sql.quotes (readStrings tokens).1 + tokenQuotes (readStrings tokens).2 ≤ tokenQuotes tokens := by
  fun_induction readStrings tokens with
  | case1 value rest ih =>
    simp only [quotes_append, tokenQuotes_cons, Token.quotes]
    omega
  | case2 rest _ => simp

theorem quotes_readLiteral {tokens rest : List Token} {value : Literal}
    (read : readLiteral tokens = some (value, rest)) :
    value.quotes + tokenQuotes rest ≤ tokenQuotes tokens := by
  unfold readLiteral at read
  split at read
  · next first after =>
    cases read
    have more := quotes_readStrings after
    simp only [Literal.quotes, quotes_append, tokenQuotes_cons, Token.quotes]
    omega
  · have := quotes_readNumber read
    simp only [tokenQuotes_cons, Token.quotes]
    omega
  · have := quotes_readNumber read
    simp only [tokenQuotes_cons, Token.quotes]
    omega
  · exact quotes_readNumber read

theorem quotes_readRow {columns : Nat} {tokens : List Token} {literals : List Literal}
    (read : readRow columns tokens = some literals) : literalQuotes literals ≤ tokenQuotes tokens := by
  fun_induction readRow columns tokens generalizing literals with
  | case1 => cases read
  | case2 tokens value first =>
    cases read
    have := quotes_readLiteral first
    simp only [literalQuotes, List.map_cons, List.map_nil, List.sum_cons, List.sum_nil]
    omega
  | case3 => cases read
  | case4 n tokens value rest first ih =>
    obtain ⟨others, readOthers, rfl⟩ := Option.map_eq_some_iff.mp read
    have head := quotes_readLiteral first
    have tail := ih readOthers
    rw [tokenQuotes_cons] at head
    simp only [literalQuotes, List.map_cons, List.sum_cons]
    unfold literalQuotes at tail
    omega
  | case5 => cases read

theorem quotes_readInsert {head : List Token} {columns : Nat} {statement : Bytes} {literals : List Literal}
    (read : readInsert head columns statement = some literals) : literalQuotes literals ≤ quotes statement := by
  unfold readInsert at read
  split at read
  · next tokens lexed =>
    split at read
    · next starts =>
      obtain ⟨after, rfl⟩ := starts
      rw [List.drop_left] at read
      have row := quotes_readRow read
      have whole := quotes_lex lexed
      rw [tokenQuotes_append] at whole
      omega
    · cases read
  · cases read

/-! What a writer of statements needs: texts that are read as one literal, and rows of them. -/

/-- Between tokens, `text` is read as `tokens` before any byte that neither extends a word nor doubles
    a quote. -/
def Spells (text : Bytes) (tokens : List Token) : Prop :=
  ∀ before c, isWordByte c = false → isQuote c = false →
    step (run ⟨.blank, before⟩ text) c = begin (before ++ tokens) c

theorem isNumeral_iff {text : Bytes} : isNumeral text = true ↔ text ≠ [] ∧ ∀ c ∈ text, isdigit c = true := by
  simp [isNumeral]

theorem isNumeral_natText (n : Nat) : isNumeral (natText n) = true :=
  isNumeral_iff.mpr ⟨natText_ne_nil n, natText_isdigit n⟩

theorem isdigit_wordByte {c : UInt8} (digit : isdigit c = true) : isWordByte c = true := by
  simp only [isWordByte, digit, Bool.true_or]

theorem spells_word {text : Bytes} (nonempty : text ≠ []) (wordBytes : ∀ c ∈ text, isWordByte c = true) :
    Spells text [.word text] := by
  intro before c notWord _
  cases text with
  | nil => exact absurd rfl nonempty
  | cons first text =>
    have opens : step ⟨.blank, before⟩ first = ⟨.word [first], before⟩ :=
      begin_word (wordBytes first (by simp)) before
    rw [run_cons, opens, run_word _ _ _ fun d member => wordBytes d (List.mem_cons_of_mem _ member)]
    simp only [step, notWord, Bool.false_eq_true, if_false, List.singleton_append]

theorem spells_numeral {text : Bytes} (numeral : isNumeral text = true) : Spells text [.word text] := by
  obtain ⟨nonempty, digits⟩ := isNumeral_iff.mp numeral
  exact spells_word nonempty fun c member => isdigit_wordByte (digits c member)

theorem Spells.punct {left right : Bytes} {leftTokens rightTokens : List Token} {c : UInt8}
    (hl : Spells left leftTokens) (hr : Spells right rightTokens) (notWord : isWordByte c = false)
    (notQuote : isQuote c = false) (separates : ∀ tokens, begin tokens c = ⟨.blank, tokens ++ [.punct c]⟩) :
    Spells (left ++ c :: right) (leftTokens ++ .punct c :: rightTokens) := by
  intro before d notWordD notQuoteD
  rw [run_append, run_cons, hl before c notWord notQuote, separates]
  rw [hr _ d notWordD notQuoteD]
  simp only [List.append_assoc, List.singleton_append]

theorem Spells.negative {first : UInt8} {text : Bytes} {tokens : List Token}
    (spells : Spells (first :: text) tokens) (wordByte : isWordByte first = true) :
    Spells (minus :: first :: text) (.punct minus :: tokens) := by
  intro before c notWord notQuote
  have notMinus : first ≠ minus := by
    intro same
    obtain rfl := same
    cases wordByte
  have dash : step ⟨.blank, before⟩ minus = ⟨.dash, before⟩ := rfl
  have after : step ⟨.dash, before⟩ first = step ⟨.blank, before ++ [.punct minus]⟩ first := by
    simp only [step, notMinus, if_false]
  rw [run_cons, dash, run_cons, after, ← run_cons, spells _ c notWord notQuote]
  rw [List.append_assoc, List.singleton_append]

/-- `text` is read as that literal, in a row. -/
def Writes (text : Bytes) (literal : Literal) : Prop :=
  ∃ tokens, Spells text tokens ∧ ∀ c rest, c = comma ∨ c = closeParen →
    readLiteral (tokens ++ .punct c :: rest) = some (literal, .punct c :: rest)

theorem readNumber_integer (negative : Bool) (n : Nat) {c : UInt8} (ends : c = comma ∨ c = closeParen)
    (rest : List Token) :
    readNumber negative (.word (natText n) :: .punct c :: rest) =
      some (.integer (if negative then -n else n), .punct c :: rest) := by
  rcases ends with rfl | rfl <;>
    simp [readNumber, isNumeral_natText, decimalValue_natText, comma, closeParen]

theorem writes_int (n : Int) : Writes (intText n) (.integer n) := by
  have word : ∀ n, Spells (natText n) [.word (natText n)] := fun n => spells_numeral (isNumeral_natText n)
  cases n with
  | ofNat n =>
    refine ⟨_, word n, ?_⟩
    intro c rest ends
    exact readNumber_integer false n ends rest
  | negSucc n =>
    obtain ⟨first, text, shape, digit⟩ := natText_head (n + 1)
    have positive := word (n + 1)
    rw [shape] at positive
    have signed := positive.negative (isdigit_wordByte digit)
    rw [← shape] at signed
    refine ⟨_, signed, ?_⟩
    intro c rest ends
    exact readNumber_integer true (n + 1) ends rest

theorem writes_decimal (negative : Bool) (whole : Nat) {fraction : Bytes} (numeral : isNumeral fraction = true) :
    Writes (Literal.decimal negative whole fraction numeral).characters
      (.decimal (negative && !zeroDecimal whole fraction) whole fraction numeral) := by
  have left := spells_numeral (isNumeral_natText whole)
  have right := spells_numeral numeral
  have unsigned : Spells (natText whole ++ point :: fraction)
      [.word (natText whole), .punct point, .word fraction] := left.punct right rfl rfl fun _ => rfl
  have number : ∀ (sign : Bool) (rest : List Token),
      readNumber sign (.word (natText whole) :: .punct point :: .word fraction :: rest) =
        some (.decimal sign whole fraction numeral, rest) := by
    intro sign rest
    simp [readNumber, point, isNumeral_natText, numeral, decimalValue_natText]
  simp only [Literal.characters]
  cases (negative && !zeroDecimal whole fraction) with
  | false =>
    refine ⟨_, unsigned, ?_⟩
    intro c rest _
    exact number false (.punct c :: rest)
  | true =>
    obtain ⟨first, text, shape, digit⟩ := natText_head whole
    have signed : Spells (minus :: (natText whole ++ point :: fraction))
        (.punct minus :: [.word (natText whole), .punct point, .word fraction]) := by
      rw [shape, List.cons_append] at unsigned ⊢
      exact unsigned.negative (isdigit_wordByte digit)
    refine ⟨_, signed, ?_⟩
    intro c rest _
    exact number true (.punct c :: rest)

def rowText : List Bytes → Bytes
  | [] => [closeParen]
  | [text] => text ++ [closeParen]
  | text :: rest => text ++ comma :: space :: rowText rest

theorem readRow_writes {texts : List Bytes} {literals : List Literal} (written : List.Forall₂ Writes texts literals)
    (nonempty : literals ≠ []) (before : List Token) :
    ∃ tokens, run ⟨.blank, before⟩ (rowText texts) = ⟨.blank, before ++ tokens⟩ ∧
      readRow literals.length tokens = some literals := by
  induction written generalizing before with
  | nil => exact absurd rfl nonempty
  | @cons text literal texts literals writes others ih =>
    obtain ⟨tokens, spells, reads⟩ := writes
    cases others with
    | nil =>
      refine ⟨tokens ++ [.punct closeParen], ?_, ?_⟩
      · rw [rowText, run_append, run_cons, spells before closeParen rfl rfl, ← List.append_assoc]
        rfl
      · have last := reads closeParen [] (Or.inr rfl)
        show (match readLiteral (tokens ++ [.punct closeParen]) with
          | some (value, [.punct 41]) => some [value]
          | _ => none) = some [literal]
        rw [last]
        rfl
    | @cons second secondLiteral texts literals next others =>
      obtain ⟨rest, ran, read⟩ := ih (List.cons_ne_nil _ _) (before ++ tokens ++ [.punct comma])
      refine ⟨tokens ++ .punct comma :: rest, ?_, ?_⟩
      · have separated : step (begin (before ++ tokens) comma) space =
            ⟨.blank, before ++ tokens ++ [.punct comma]⟩ := rfl
        rw [rowText, run_append, run_cons, spells before comma rfl rfl, run_cons, separated, ran]
        · simp only [List.append_assoc, List.singleton_append]
        · nofun
      · have first := reads comma rest (Or.inl rfl)
        show (match readLiteral (tokens ++ .punct comma :: rest) with
          | some (value, .punct 44 :: rest) => (readRow (literals.length + 1) rest).map (value :: ·)
          | _ => none) = _
        rw [first]
        exact congrArg (Option.map (literal :: ·)) read

theorem readInsert_row {opening : Bytes} {head : List Token} (opens : run {} opening = ⟨.blank, head⟩)
    {texts : List Bytes} {literals : List Literal} (written : List.Forall₂ Writes texts literals)
    (nonempty : literals ≠ []) :
    readInsert head literals.length (opening ++ rowText texts) = some literals := by
  obtain ⟨tokens, ran, read⟩ := readRow_writes written nonempty head
  have lexed : lex (opening ++ rowText texts) = some (head ++ tokens) := by
    unfold lex
    rw [run_append, opens, ran]
    rfl
  unfold readInsert
  rw [lexed]
  simp only [List.prefix_append, if_true, List.drop_left, read]

end Sql
