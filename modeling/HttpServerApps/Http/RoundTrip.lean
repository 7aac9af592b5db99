import Mathlib.Data.Nat.Digits.Lemmas
import HttpServerApps.Common.Lines
import HttpServerApps.Http.Response

namespace Http

open Common

/-- A response that `appendToBuffer` has room for and whose texts cannot be taken for the framing. -/
structure Framed (response : HttpResponse) : Prop where
  version_length : response.httpVersion.length ≤ 20
  version_plain : Plain response.httpVersion
  version_text : 0 ∉ response.httpVersion
  message_plain : Plain response.statusMessage
  names_plain : ∀ header ∈ response.headers.entries, Plain header.1
  names_text : ∀ header ∈ response.headers.entries, (58 : UInt8) ∉ header.1
  values_plain : ∀ header ∈ response.headers.entries, Plain header.2
  body_length : response.body.length < 10 ^ 13
  /-- `headers_` is a `std::map`. -/
  ordered : response.headers.Ordered stringLess

/-! A reader of responses, given only the bytes. -/

structure Message where
  statusLine : Bytes
  fields : List (Bytes × Bytes)
  body : Bytes

def isContentLength (field : Bytes × Bytes) : Bool := headerKeyEqualsIgnoreCase field.1 (bytes "content-length")

/-- A header line: the name, up to the first colon, and what follows the colon and one space. -/
def readField (line : Bytes) : Option (Bytes × Bytes) :=
  match splitFirst 58 line with
  | some (name, c :: value) => if c = space then some (name, value) else none
  | _ => none

def isConnection (field : Bytes × Bytes) : Bool := headerKeyEqualsIgnoreCase field.1 (bytes "connection")

def readDecimal (text : Bytes) : Option Nat :=
  if text ≠ [] ∧ text.all isdigit = true then some (decimalValue text) else none

namespace Message

/-- The value of the one Content-Length header. -/
def contentLength (fields : List (Bytes × Bytes)) : Option Nat :=
  match fields.filter isContentLength with
  | [(_, value)] => readDecimal value
  | _ => none

/-- The second word of the status line. -/
def code (message : Message) : Option Nat := do
  let (_, afterVersion) ← splitFirst space message.statusLine
  let (digits, _) ← splitFirst space afterVersion
  readDecimal digits

/-- The first response of a stream of bytes, and the bytes after it. -/
def read (text : Bytes) : Option (Message × Bytes) := do
  let (head, rest) ← splitBlankLine text
  match splitLines head with
  | [] => none
  | statusLine :: lines => do
    let fields ← lines.mapM readField
    let length ← contentLength fields
    if rest.length < length then none else some (⟨statusLine, fields, rest.take length⟩, rest.drop length)

end Message

/-! The lines that `appendToBuffer` writes. -/

def fieldLine (field : Bytes × Bytes) : Bytes := field.1 ++ bytes ": " ++ field.2

namespace HttpResponse

variable (response : HttpResponse)

def statusLine : Bytes :=
  response.httpVersion ++ bytes " " ++ natText response.statusCode.toNat ++ bytes " " ++ response.statusMessage

def connectionField : Bytes × Bytes :=
  (bytes "Connection", if response.closeConnection then bytes "close" else bytes "Keep-Alive")

def lengthField : Bytes × Bytes := (bytes "Content-Length", natText response.body.length)

/-- The entries of `headers_` that the loop does not skip. -/
def otherFields : List (Bytes × Bytes) := response.headers.entries.filter fun header => !isContentLength header

def fields : List (Bytes × Bytes) := response.connectionField :: response.lengthField :: response.otherFields

def head : Bytes := joinLines (response.statusLine :: response.fields.map fieldLine)

end HttpResponse

/-! Both calls of `snprintf` have room for their whole text. -/

theorem natText_length {n size : Nat} (small : n < 10 ^ size) (positive : 0 < size) : (natText n).length ≤ size := by
  unfold natText
  split
  · exact positive
  · rw [List.length_map, List.length_reverse]
    exact (Nat.digits_length_le_iff (by decide) n).mpr small

theorem snprintf_whole {text : Bytes} (room : text.length ≤ 31) : snprintf 32 text = text :=
  List.take_of_length_le room

theorem cStr_whole {text : Bytes} (noNul : 0 ∉ text) : cStr text = text := by
  apply List.takeWhile_eq_self_iff.mpr
  intro c member
  have other : c ≠ 0 := fun same => noNul (same ▸ member)
  simp [other]

theorem statusCode_bound (code : HttpStatusCode) : code.toNat < 10 ^ 3 := by cases code <;> decide

/-! The texts are plain, and the lines can be told apart. -/

theorem natText_plain (n : Nat) : Plain (natText n) := by
  intro c member
  have digit := natText_isdigit n c member
  apply And.intro
  · intro same
    rw [same] at digit
    cases digit
  · intro same
    rw [same] at digit
    cases digit

theorem fieldLine_plain {field : Bytes × Bytes} (name : Plain field.1) (value : Plain field.2) :
    Plain (fieldLine field) := by
  have colon : Plain (bytes ": ") := by decide +kernel
  exact (name.append colon).append value

theorem fieldLine_filled (field : Bytes × Bytes) : fieldLine field ≠ [] := by
  have colon : bytes ": " = [58, space] := by decide
  unfold fieldLine
  rw [colon]
  simp

theorem readField_fieldLine {field : Bytes × Bytes} (name : (58 : UInt8) ∉ field.1) :
    readField (fieldLine field) = some field := by
  have colon : bytes ": " = [58, space] := by decide
  have shape : fieldLine field = field.1 ++ 58 :: (space :: field.2) := by
    unfold fieldLine
    rw [colon]
    simp
  unfold readField
  rw [shape, splitFirst_append name]
  simp

theorem readDecimal_natText (n : Nat) : readDecimal (natText n) = some n := by
  unfold readDecimal
  rw [if_pos ⟨natText_ne_nil n, List.all_eq_true.mpr (natText_isdigit n)⟩, decimalValue_natText]

theorem mapM_readField {fields : List (Bytes × Bytes)} (names : ∀ field ∈ fields, (58 : UInt8) ∉ field.1) :
    (fields.map fieldLine).mapM readField = some fields := by
  induction fields with
  | nil => rfl
  | cons field fields ih =>
    have first := readField_fieldLine (names field (List.mem_cons_self ..))
    have later := ih fun field member => names field (List.mem_cons_of_mem _ member)
    simp only [List.map_cons, List.mapM_cons, first, later]
    rfl

section

variable {response : HttpResponse}

theorem statusLine_plain (framed : Framed response) : Plain response.statusLine := by
  have blank : Plain (bytes " ") := by decide +kernel
  unfold HttpResponse.statusLine
  exact (((framed.version_plain.append blank).append (natText_plain _)).append blank).append framed.message_plain

theorem mem_fields {field : Bytes × Bytes} (member : field ∈ response.fields) :
    field = response.connectionField ∨ field = response.lengthField ∨
      field ∈ response.headers.entries ∧ isContentLength field = false := by
  rcases List.mem_cons.mp member with first | member
  · exact Or.inl first
  · rcases List.mem_cons.mp member with second | member
    · exact Or.inr (Or.inl second)
    · have kept := List.mem_filter.mp member
      exact Or.inr (Or.inr ⟨kept.1, by simpa using kept.2⟩)

theorem fields_names (framed : Framed response) : ∀ field ∈ response.fields, (58 : UInt8) ∉ field.1 := by
  intro field member
  rcases mem_fields member with rfl | rfl | ⟨entry, _⟩
  · show (58 : UInt8) ∉ bytes "Connection"
    decide
  · show (58 : UInt8) ∉ bytes "Content-Length"
    decide
  · exact framed.names_text field entry

theorem connectionLine_plain (response : HttpResponse) : Plain (fieldLine response.connectionField) := by
  have name : Plain (bytes "Connection") := by decide +kernel
  have value : Plain response.connectionField.2 := by
    unfold HttpResponse.connectionField
    cases response.closeConnection <;> decide +kernel
  exact fieldLine_plain name value

theorem lengthLine_plain (response : HttpResponse) : Plain (fieldLine response.lengthField) := by
  have name : Plain (bytes "Content-Length") := by decide +kernel
  exact fieldLine_plain name (natText_plain _)

theorem fields_plain (framed : Framed response) : ∀ field ∈ response.fields, Plain (fieldLine field) := by
  intro field member
  rcases mem_fields member with rfl | rfl | ⟨entry, _⟩
  · exact connectionLine_plain response
  · exact lengthLine_plain response
  · exact fieldLine_plain (framed.names_plain field entry) (framed.values_plain field entry)

theorem lines_plain (framed : Framed response) :
    ∀ line ∈ response.statusLine :: response.fields.map fieldLine, Plain line := by
  intro line member
  rcases List.mem_cons.mp member with rfl | member
  · exact statusLine_plain framed
  · rcases List.mem_map.mp member with ⟨field, inside, rfl⟩
    exact fields_plain framed field inside

theorem lines_filled : ∀ line ∈ response.fields.map fieldLine, line ≠ [] := by
  intro line member
  rcases List.mem_map.mp member with ⟨field, _, rfl⟩
  exact fieldLine_filled field

/-- One header is called Content-Length in any letter case. -/
theorem one_contentLength : response.fields.filter isContentLength = [response.lengthField] := by
  have first : isContentLength response.connectionField = false := by
    show headerKeyEqualsIgnoreCase (bytes "Connection") (bytes "content-length") = false
    decide
  have second : isContentLength response.lengthField = true := by
    show headerKeyEqualsIgnoreCase (bytes "Content-Length") (bytes "content-length") = true
    decide
  have rest : response.otherFields.filter isContentLength = [] := by
    apply List.filter_eq_nil_iff.mpr
    intro field member
    have kept := (List.mem_filter.mp member).2
    simpa using kept
  unfold HttpResponse.fields
  rw [List.filter_cons, first, List.filter_cons, second, rest]
  rfl

/-- One Connection header is generated; any other is an entry of `headers_`. -/
theorem one_connection : response.fields.filter isConnection =
    response.connectionField :: response.headers.entries.filter isConnection := by
  have first : isConnection response.connectionField = true := by
    show headerKeyEqualsIgnoreCase (bytes "Connection") (bytes "connection") = true
    decide
  have second : isConnection response.lengthField = false := by
    show headerKeyEqualsIgnoreCase (bytes "Content-Length") (bytes "connection") = false
    decide
  have rest : response.otherFields.filter isConnection = response.headers.entries.filter isConnection := by
    unfold HttpResponse.otherFields
    rw [List.filter_filter]
    apply List.filter_congr
    intro field _
    by_cases named : isConnection field = true
    · have lower : field.1.map tolower = bytes "connection" := by
        simpa [isConnection, headerKeyEqualsIgnoreCase] using named
      have other : isContentLength field = false := by
        have different : bytes "connection" ≠ bytes "content-length" := by decide
        simp [isContentLength, headerKeyEqualsIgnoreCase, lower, different]
      simp [named, other]
    · simp [named]
  unfold HttpResponse.fields
  rw [List.filter_cons, first, List.filter_cons, second, rest]
  rfl

theorem otherLines (entries : List (Bytes × Bytes)) :
    (entries.flatMap fun header =>
      if headerKeyEqualsIgnoreCase header.1 (bytes "content-length") then []
      else header.1 ++ bytes ": " ++ header.2 ++ bytes "\r\n") =
    ((entries.filter fun header => !isContentLength header).map fieldLine).flatMap (· ++ [CR, LF]) := by
  have crlf : bytes "\r\n" = [CR, LF] := by decide
  induction entries with
  | nil => rfl
  | cons header entries ih =>
    rw [List.flatMap_cons, ih, List.filter_cons]
    cases skipped : isContentLength header with
    | true =>
      have named : headerKeyEqualsIgnoreCase header.1 (bytes "content-length") = true := skipped
      rw [if_pos named]
      rfl
    | false =>
      have named : headerKeyEqualsIgnoreCase header.1 (bytes "content-length") = false := skipped
      rw [if_neg (by rw [named]; nofun), Bool.not_false, if_pos rfl, List.map_cons, List.flatMap_cons, crlf]
      rfl

/-- The lines are whole where the two buffers of `snprintf` are long enough. -/
theorem appendToBuffer_whole (room : response.httpVersion.length ≤ 20) (text : 0 ∉ response.httpVersion)
    (body : response.body.length < 10 ^ 13) :
    response.appendToBuffer = response.head ++ blankLine ++ response.body := by
  have crlf : bytes "\r\n" = [CR, LF] := by decide
  have blank : (bytes " ").length = 1 := by decide
  have code := natText_length (statusCode_bound response.statusCode) (by decide)
  have size := natText_length body (by decide)
  have status : snprintf 32 (cStr response.httpVersion ++ bytes " " ++ natText response.statusCode.toNat ++
      bytes " ") ++ response.statusMessage = response.statusLine := by
    rw [cStr_whole text, snprintf_whole (by simp only [List.length_append, blank]; omega)]
    rfl
  have connection : (if response.closeConnection then bytes "Connection: close\r\n"
      else bytes "Connection: Keep-Alive\r\n") = fieldLine response.connectionField ++ [CR, LF] := by
    unfold HttpResponse.connectionField
    cases response.closeConnection <;> decide
  have length : snprintf 32 (bytes "Content-Length: " ++ natText response.body.length ++ bytes "\r\n") =
      fieldLine response.lengthField ++ [CR, LF] := by
    have name : bytes "Content-Length: " = bytes "Content-Length" ++ bytes ": " := by decide
    have sixteen : (bytes "Content-Length: ").length = 16 := by decide
    have fits : (bytes "Content-Length: " ++ natText response.body.length ++ [CR, LF]).length ≤ 31 := by
      simp only [List.length_append, sixteen, List.length_cons, List.length_nil]
      omega
    rw [crlf, snprintf_whole fits, name]
    rfl
  have head : response.head ++ blankLine = response.statusLine ++ [CR, LF] ++
      (response.fields.map fieldLine).flatMap (· ++ [CR, LF]) ++ [CR, LF] := by
    have twice : blankLine = [CR, LF] ++ [CR, LF] := rfl
    rw [twice, ← List.append_assoc]
    unfold HttpResponse.head
    rw [joinLines_ended]
  unfold HttpResponse.appendToBuffer
  rw [head, status, connection, length, otherLines, crlf]
  unfold HttpResponse.fields HttpResponse.otherFields
  simp only [List.map_cons, List.flatMap_cons, List.append_assoc]

theorem appendToBuffer_lines (framed : Framed response) :
    response.appendToBuffer = response.head ++ blankLine ++ response.body :=
  appendToBuffer_whole framed.version_length framed.version_text framed.body_length

/-- The headers as a reader finds them: the generated ones, then the entries of `headers_` that are no
    Content-Length. -/
structure Carries (response : HttpResponse) (message : Message) : Prop where
  body : message.body = response.body
  one_connection : message.fields.filter isConnection =
    (bytes "Connection", if response.closeConnection then bytes "close" else bytes "Keep-Alive") ::
      response.headers.entries.filter isConnection
  one_length : message.fields.filter isContentLength = [(bytes "Content-Length", natText response.body.length)]
  others : message.fields.drop 2 = response.headers.entries.filter fun header => !isContentLength header
  key_order : (message.fields.drop 2).Pairwise fun first second => stringLess first.1 second.1 = true
  code : space ∉ response.httpVersion → message.code = some response.statusCode.toNat

/-- The bytes split at the first blank line into a head and just the body, and a reader of the bytes finds
    the headers, the body and what comes after it; it finds the code where the version is one word. -/
theorem response_round_trip (response : HttpResponse) (framed : Framed response) (more : Bytes) :
    ∃ message : Message,
      splitBlankLine response.appendToBuffer =
          some (joinLines (message.statusLine :: message.fields.map fieldLine), response.body) ∧
        Message.read (response.appendToBuffer ++ more) = some (message, more) ∧ Carries response message := by
  have split_ : ∀ after, splitBlankLine (response.head ++ blankLine ++ after) = some (response.head, after) :=
    splitBlankLine_joinLines (lines_plain framed) lines_filled
  have lines : splitLines response.head = response.statusLine :: response.fields.map fieldLine :=
    splitLines_joinLines (List.cons_ne_nil _ _) (lines_plain framed)
  have length : Message.contentLength response.fields = some response.body.length := by
    unfold Message.contentLength
    rw [one_contentLength]
    exact readDecimal_natText _
  have enough : ¬ (response.body ++ more).length < response.body.length := by
    rw [List.length_append]
    omega
  refine ⟨⟨response.statusLine, response.fields, response.body⟩, ?_, ?_, ?_⟩
  · rw [appendToBuffer_lines framed]
    exact split_ response.body
  · unfold Message.read
    rw [appendToBuffer_lines framed, List.append_assoc, split_]
    simp only [Option.bind_eq_bind, Option.bind_some, lines, mapM_readField (fields_names framed), length, enough,
      if_false, List.take_left, List.drop_left]
  · have blank : bytes " " = [space] := by decide
    refine ⟨rfl, one_connection, one_contentLength, rfl, framed.ordered.sublist List.filter_sublist, ?_⟩
    intro word
    have version : response.statusLine = response.httpVersion ++
        space :: (natText response.statusCode.toNat ++ space :: response.statusMessage) := by
      unfold HttpResponse.statusLine
      rw [blank]
      simp only [List.append_assoc, List.cons_append, List.nil_append]
    have digits : space ∉ natText response.statusCode.toNat := by
      intro member
      have digit := natText_isdigit _ _ member
      cases digit
    unfold Message.code
    simp only [version, splitFirst_append word, splitFirst_append digits, Option.bind_eq_bind, Option.bind_some,
      readDecimal_natText]

/-- A page whose body has a blank line in it, with a Content-Length of its own among the headers. -/
def helloResponse : HttpResponse :=
  (((({} : HttpResponse).setStatusLine (bytes "HTTP/1.1") .k200Ok (bytes "OK")).addHeader
    (bytes "content-LENGTH") (bytes "7")).setContentType (bytes "text/html")).setBody (bytes "a\r\n\r\nb")

theorem hello_recovered : ∃ message : Message,
    Message.read helloResponse.appendToBuffer = some (message, []) ∧ message.code = some 200 ∧
      message.body = bytes "a\r\n\r\nb" ∧
      message.fields.drop 2 = [(bytes "Content-Type", bytes "text/html")] := by
  have framed : Framed helloResponse := by constructor <;> decide +kernel
  rcases response_round_trip helloResponse framed [] with ⟨message, _, read, carries⟩
  rw [List.append_nil] at read
  have word : space ∉ helloResponse.httpVersion := by decide
  have others : (helloResponse.headers.entries.filter fun header => !isContentLength header) =
      [(bytes "Content-Type", bytes "text/html")] := by decide
  exact ⟨message, read, carries.code word, carries.body, carries.others.trans others⟩

def wordyVersion : HttpResponse := ({} : HttpResponse).setStatusLine (bytes "A 200") .k404NotFound (bytes "x")

def wordyMessage : HttpResponse := ({} : HttpResponse).setStatusLine (bytes "A") .k200Ok (bytes "404 x")

/-- Two responses of different codes with the same bytes. -/
theorem code_not_recovered :
    ¬ ∃ code : Bytes → Option Nat,
      ∀ response, Framed response → code response.appendToBuffer = some response.statusCode.toNat := by
  rintro ⟨code, recovers⟩
  have same : wordyVersion.appendToBuffer = wordyMessage.appendToBuffer := by decide
  have first := recovers wordyVersion (by constructor <;> decide +kernel)
  have second := recovers wordyMessage (by constructor <;> decide +kernel)
  rw [same, second] at first
  cases first

end

/-! Setting headers keeps the map in key order. -/

theorem stringLess_trans (a b c : Bytes) (first : stringLess a b = true) (second : stringLess b c = true) :
    stringLess a c = true := by
  simp only [stringLess, decide_eq_true_eq] at *
  exact List.lt_trans first second

theorem stringLess_total (a b : Bytes) (different : a ≠ b) (above : stringLess a b = false) :
    stringLess b a = true := by
  simp only [stringLess, decide_eq_true_eq, decide_eq_false_iff_not] at *
  rcases List.le_iff_lt_or_eq.mp (List.not_lt.mp above) with less | same
  · exact less
  · exact absurd same.symm different

theorem ordered_addHeader {response : HttpResponse} (ordered : response.headers.Ordered stringLess)
    (key value : Bytes) : (response.addHeader key value).headers.Ordered stringLess :=
  ordered.insert stringLess stringLess_trans stringLess_total key value

end Http
