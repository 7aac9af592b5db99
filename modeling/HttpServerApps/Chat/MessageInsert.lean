import HttpServerApps.Sql.Insert

namespace Chat.AIHelper

open Common Sql

def escapeChar (c : UInt8) : Bytes :=
  if c = 92 then [92, 92]
  else if c = 39 then [92, 39]
  else if c = 34 then [92, 34]
  else if c = 10 then [92, 110]
  else if c = 13 then [92, 114]
  else if c = 9 then [92, 116]
  else [c]

def escapeString (input : Bytes) : Bytes := input.flatMap escapeChar

/-- The queue and the text that it publishes. -/
def pushMessageToMysql (userId : Int32) (userName : Bytes) (is_user : Bool) (userInput : Bytes) (ms : Int64)
    (sessionId : Bytes) : Bytes × Bytes :=
  let safeUserName := escapeString userName
  let safeUserInput := escapeString userInput
  let sql :=
    bytes "INSERT INTO chat_message (id, username, session_id, is_user, content, ts) VALUES (" ++
      intText userId.toInt ++ bytes ", " ++
      bytes "'" ++ safeUserName ++ bytes "', " ++
      sessionId ++ bytes ", " ++
      intText (if is_user then 1 else 0) ++ bytes ", " ++
      bytes "'" ++ safeUserInput ++ bytes "', " ++
      intText ms.toInt ++ bytes ")"
  (bytes "sql_queue", sql)

theorem run_escapeChar (quote : Quote) (value : Bytes) (tokens : List Token) (c : UInt8) :
    run ⟨.string quote value, tokens⟩ (escapeChar c) = ⟨.string quote (value ++ [c]), tokens⟩ := by
  have special : ∀ d, unescape d = [c] →
      run ⟨.string quote value, tokens⟩ [backslash, d] = ⟨.string quote (value ++ [c]), tokens⟩ := by
    intro d stands
    rw [← stands]
    rfl
  unfold escapeChar
  split
  · next same => exact special 92 (by rw [same]; rfl)
  split
  · next same => exact special 39 (by rw [same]; rfl)
  split
  · next same => exact special 34 (by rw [same]; rfl)
  split
  · next same => exact special 110 (by rw [same]; rfl)
  split
  · next same => exact special 114 (by rw [same]; rfl)
  split
  · next same => exact special 116 (by rw [same]; rfl)
  · next notBackslash notSingle notDouble _ _ _ =>
    have plain : c ≠ backslash := notBackslash
    have notQuote : c ≠ quote.byte := by
      cases quote
      · exact notSingle
      · exact notDouble
    show step ⟨.string quote value, tokens⟩ c = _
    simp only [step]
    rw [if_neg plain, if_neg notQuote]

theorem run_escapeString (quote : Quote) (value : Bytes) (tokens : List Token) (input : Bytes) :
    run ⟨.string quote value, tokens⟩ (escapeString input) = ⟨.string quote (value ++ input), tokens⟩ := by
  unfold escapeString
  induction input generalizing value with
  | nil => rw [List.append_nil]; rfl
  | cons c input ih =>
    rw [List.flatMap_cons, run_append, run_escapeChar, ih]
    rw [List.append_assoc, List.singleton_append]

def quoted (quote : Quote) (input : Bytes) : Bytes := quote.byte :: (escapeString input ++ [quote.byte])

theorem spells_quoted (quote : Quote) (input : Bytes) : Spells (quoted quote input) [.string input] := by
  intro before c notWord notQuote
  have opens : step ⟨.blank, before⟩ quote.byte = ⟨.string quote [], before⟩ := by cases quote <;> rfl
  have closes : step ⟨.string quote input, before⟩ quote.byte = ⟨.closing quote input, before⟩ := by
    cases quote <;> rfl
  have ends : c ≠ quote.byte := by
    intro same
    obtain rfl := same
    cases quote <;> cases notQuote
  unfold quoted
  rw [run_cons, opens, run_append, run_escapeString, List.nil_append, run_cons, closes]
  show step ⟨.closing quote input, before⟩ c = _
  simp only [step]
  rw [if_neg ends]

theorem writes_quoted (quote : Quote) (input : Bytes) : Writes (quoted quote input) (.text input) := by
  refine ⟨_, spells_quoted quote input, ?_⟩
  intro c rest _
  simp [readLiteral, readStrings]

theorem quotes_escapeString (input : Bytes) : quotes (escapeString input) = quotes input := by
  unfold escapeString
  induction input with
  | nil => rfl
  | cons c input ih =>
    have first : quotes (escapeChar c) = quotes [c] := by
      unfold escapeChar
      repeat' split
      all_goals first | (next same => subst same; rfl) | rfl
    rw [List.flatMap_cons, quotes_append, first, ih, quotes_cons c input]

theorem quotes_quoted (quote : Quote) (input : Bytes) : quotes (quoted quote input) = quotes input + 2 := by
  unfold quoted
  rw [quotes_cons, quotes_append, quotes_escapeString, quotes_quote]
  omega

theorem quotes_intText (n : Int) : quotes (intText n) = 0 := by
  have digits : ∀ n, quotes (natText n) = 0 := by
    intro n
    refine List.countP_eq_zero.mpr ?_
    intro c member
    have digit := natText_isdigit n c member
    intro quote
    simp only [isQuote, Bool.or_eq_true, decide_eq_true_eq] at quote
    rcases quote with rfl | rfl <;> cases digit
  cases n with
  | ofNat n => exact digits n
  | negSucc n =>
    show quotes (minus :: natText (n + 1)) = 0
    rw [quotes_cons, digits]
    rfl

def chatMessageOpening : Bytes :=
  bytes "INSERT INTO chat_message (id, username, session_id, is_user, content, ts) VALUES ("

/-- `INSERT INTO chat_message (id, username, session_id, is_user, content, ts) VALUES (`. -/
def chatMessageHead : List Token :=
  [.word (bytes "INSERT"), .word (bytes "INTO"), .word (bytes "chat_message"), .punct openParen,
    .word (bytes "id"), .punct comma, .word (bytes "username"), .punct comma,
    .word (bytes "session_id"), .punct comma, .word (bytes "is_user"), .punct comma,
    .word (bytes "content"), .punct comma, .word (bytes "ts"), .punct closeParen,
    .word (bytes "VALUES"), .punct openParen]

theorem run_chatMessageOpening : run {} chatMessageOpening = ⟨.blank, chatMessageHead⟩ := by decide +kernel

def chatMessageTexts (userId : Int32) (userName : Bytes) (is_user : Bool) (userInput : Bytes) (ms : Int64)
    (sessionId : Bytes) : List Bytes :=
  [intText userId.toInt, quoted .single userName, sessionId, intText (if is_user then 1 else 0),
    quoted .single userInput, intText ms.toInt]

theorem pushMessageToMysql_row (userId : Int32) (userName : Bytes) (is_user : Bool) (userInput : Bytes) (ms : Int64)
    (sessionId : Bytes) :
    (pushMessageToMysql userId userName is_user userInput ms sessionId).2 =
      chatMessageOpening ++ rowText (chatMessageTexts userId userName is_user userInput ms sessionId) := by
  have separator : bytes ", " = [comma, space] := by decide
  have opens : bytes "'" = [Quote.single.byte] := by decide
  have closes : bytes "', " = [Quote.single.byte, comma, space] := by decide
  have ends : bytes ")" = [closeParen] := by decide
  simp only [pushMessageToMysql, chatMessageTexts, rowText, quoted, separator, opens, closes, ends,
    chatMessageOpening, List.append_assoc, List.cons_append, List.nil_append]

/-- The published text is one `INSERT` of six literals that denote the message. -/
def Persists (userId : Int32) (userName : Bytes) (is_user : Bool) (userInput : Bytes) (ms : Int64)
    (sessionId : Bytes) : Prop :=
  ∃ session : Literal, session.characters = sessionId ∧
    readInsert chatMessageHead 6 (pushMessageToMysql userId userName is_user userInput ms sessionId).2 =
      some [.integer userId.toInt, .text userName, session, .integer (if is_user then 1 else 0),
        .text userInput, .integer ms.toInt]

/-- The text of an integer or of a decimal fraction, as the server prints it. -/
def IsNumberText (text : Bytes) : Prop :=
  (∃ n, text = intText n) ∨
    ∃ negative whole fraction numeral, text = (Literal.decimal negative whole fraction numeral).characters

theorem IsNumberText.written {text : Bytes} (number : IsNumberText text) :
    ∃ session : Literal, session.characters = text ∧ Writes text session := by
  rcases number with ⟨n, rfl⟩ | ⟨negative, whole, fraction, numeral, rfl⟩
  · exact ⟨.integer n, rfl, writes_int n⟩
  · refine ⟨.decimal (negative && !zeroDecimal whole fraction) whole fraction numeral, ?_,
      writes_decimal negative whole numeral⟩
    simp only [Literal.characters]
    cases negative <;> cases zeroDecimal whole fraction <;> rfl

theorem persists_number (userId : Int32) (userName : Bytes) (is_user : Bool) (userInput : Bytes) (ms : Int64)
    {sessionId : Bytes} (number : IsNumberText sessionId) :
    Persists userId userName is_user userInput ms sessionId := by
  rcases number.written with ⟨session, same, writes⟩
  have row : List.Forall₂ Writes (chatMessageTexts userId userName is_user userInput ms sessionId)
      [.integer userId.toInt, .text userName, session, .integer (if is_user then 1 else 0), .text userInput,
        .integer ms.toInt] :=
    .cons (writes_int _) (.cons (writes_quoted .single userName) (.cons writes (.cons (writes_int _)
      (.cons (writes_quoted .single userInput) (.cons (writes_int _) .nil)))))
  refine ⟨session, same, ?_⟩
  rw [pushMessageToMysql_row]
  exact readInsert_row run_chatMessageOpening row (List.cons_ne_nil _ _)

/-- The session id is the only field that is neither quoted nor a number of the program's. -/
theorem persists_iff (userId : Int32) (userName : Bytes) (is_user : Bool) (userInput : Bytes) (ms : Int64)
    (sessionId : Bytes) :
    Persists userId userName is_user userInput ms sessionId ↔ IsNumberText sessionId := by
  apply Iff.intro
  · intro given
    obtain ⟨session, same, read⟩ := given
    cases session with
    | integer n => exact Or.inl ⟨n, same.symm⟩
    | decimal negative whole fraction numeral => exact Or.inr ⟨negative, whole, fraction, numeral, same.symm⟩
    | text value =>
      -- The statement has four quotes of its own, and three strings need six.
      exfalso
      change value = sessionId at same
      subst same
      have paid := quotes_readInsert read
      have opening : quotes chatMessageOpening = 0 := by decide
      rw [pushMessageToMysql_row, quotes_append, opening] at paid
      have row : quotes (rowText (chatMessageTexts userId userName is_user userInput ms value)) =
          quotes userName + quotes value + quotes userInput + 4 := by
        have single : ∀ c text, isQuote c = false → quotes (c :: text) = quotes text := by
          intro c text notQuote
          unfold quotes
          rw [List.countP_cons_of_neg (by rw [notQuote]; nofun)]
        simp only [chatMessageTexts, rowText, quotes_append, quotes_quoted, quotes_intText,
          single comma _ rfl, single space _ rfl, single closeParen _ rfl, quotes_nil]
        omega
      rw [row] at paid
      simp only [literalQuotes, List.map_cons, List.map_nil, List.sum_cons, List.sum_nil, Literal.quotes] at paid
      omega
  · intro number
    have written : ∃ session : Literal, session.characters = sessionId ∧ Writes sessionId session := by
      rcases number with ⟨n, rfl⟩ | ⟨negative, whole, fraction, numeral, rfl⟩
      · exact ⟨.integer n, rfl, writes_int n⟩
      · refine ⟨.decimal (negative && !zeroDecimal whole fraction) whole fraction numeral, ?_,
          writes_decimal negative whole numeral⟩
        simp only [Literal.characters]
        cases negative <;> cases zeroDecimal whole fraction <;> rfl
    obtain ⟨session, same, writes⟩ := written
    refine ⟨session, same, ?_⟩
    have row : List.Forall₂ Writes (chatMessageTexts userId userName is_user userInput ms sessionId)
        [.integer userId.toInt, .text userName, session, .integer (if is_user then 1 else 0),
          .text userInput, .integer ms.toInt] :=
      .cons (writes_int _) (.cons (writes_quoted .single userName) (.cons writes (.cons (writes_int _)
        (.cons (writes_quoted .single userInput) (.cons (writes_int _) .nil)))))
    rw [pushMessageToMysql_row]
    exact readInsert_row run_chatMessageOpening row (List.cons_ne_nil _ _)

def forgedSession : Bytes := bytes "7, 0, 'forged', 0) -- "

theorem forged_session_rewrites :
    ¬ ∀ userId userName is_user userInput ms sessionId,
      Persists userId userName is_user userInput ms sessionId := by
  intro claimed
  obtain ⟨session, _, read⟩ := claimed 1 (bytes "ada") true (bytes "hi") 5 forgedSession
  have forged : readInsert chatMessageHead 6
      (pushMessageToMysql 1 (bytes "ada") true (bytes "hi") 5 forgedSession).2 =
        some [.integer 1, .text (bytes "ada"), .integer 7, .integer 0, .text (bytes "forged"), .integer 0] := by
    decide +kernel
  rw [forged] at read
  simp at read

end Chat.AIHelper
