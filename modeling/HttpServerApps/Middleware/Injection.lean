import HttpServerApps.Http.Grammar
import HttpServerApps.Http.RoundTrip
import HttpServerApps.Http.StatusLine
import HttpServerApps.Middleware.CorsPolicy

namespace Http

open Common HttpContext

/-! What the parser cuts off as one line has no CRLF inside. -/

theorem isLine_iff_inside (line : Bytes) : IsLine line ↔ ¬ [CR, LF] <:+: line := by
  induction line with
  | nil => exact ⟨fun _ inside => List.cons_ne_nil _ _ (List.infix_nil.mp inside), fun _ => rfl⟩
  | cons a line ih =>
    have start : [CR, LF] <+: a :: line ↔ a = CR ∧ (line ++ [CR, LF]).head? = some LF := by
      cases line with
      | nil =>
        have other : CR ≠ LF := by decide
        simp [other]
      | cons b rest => simp [eq_comm]
    rw [List.infix_cons_iff, start, not_or, ← ih]
    unfold IsLine
    cases shape : line ++ [CR, LF] with
    | nil => simp at shape
    | cons b rest =>
      rw [List.cons_append, shape, List.length_cons, List.head?_cons, Option.some.injEq]
      by_cases here : a = CR ∧ b = LF
      · simp only [crlfOffset, here, and_self, ↓reduceIte, not_true_eq_false, false_and, Option.some.injEq, iff_false]
        omega
      · simp only [crlfOffset, here, ↓reduceIte, not_false_eq_true, true_and]
        cases crlfOffset (b :: rest) with
        | none => simp
        | some offset => simp

theorem IsLine.inside {part line : Bytes} (cut : IsLine line) (inside : part <:+: line) : IsLine part := by
  rw [isLine_iff_inside] at cut ⊢
  exact fun found => cut (found.trans inside)

theorem isLine_of_plain {line : Bytes} (plain : Plain line) : IsLine line := by
  rw [isLine_iff_inside]
  intro found
  exact (plain CR (found.subset (List.mem_cons_self ..))).1 rfl

theorem isLine_fieldLine {field : Bytes × Bytes} (name : Plain field.1) (value : IsLine field.2) :
    IsLine (fieldLine field) := by
  apply IsLine.prepend _ value
  intro c member
  rcases List.mem_append.mp member with inside | inside
  · exact (name c inside).1
  · have colon : Plain (bytes ": ") := by decide
    exact (colon c inside).1

theorem trim_inside (text : Bytes) : ((text.dropWhile isspace).reverse.dropWhile isspace).reverse <:+: text := by
  have front : text.dropWhile isspace <:+ text := List.dropWhile_suffix _
  have back : (text.dropWhile isspace).reverse.dropWhile isspace <:+ (text.dropWhile isspace).reverse :=
    List.dropWhile_suffix _
  have kept := List.reverse_prefix.mpr back
  rw [List.reverse_reverse] at kept
  exact kept.isInfix.trans front.isInfix

theorem infix_of_headerField {line name value : Bytes} (field : headerField line = some (name, value)) :
    value <:+: line := by
  rcases Option.map_eq_some_iff.mp field with ⟨⟨key, rest⟩, split, same⟩
  cases same
  have suffix_ : rest <:+ line := ⟨key ++ [58], by rw [(splitFirst_some split).1]; simp⟩
  exact (trim_inside rest).trans suffix_.isInfix

theorem isLine_value (opening : Opening) (name : Bytes) : IsLine ((opening.value name).getD []) := by
  cases found : opening.value name with
  | none => rfl
  | some value =>
    have member := List.mem_of_getLast? found
    rcases List.mem_filterMap.mp member with ⟨⟨key, kept⟩, field, same⟩
    rcases List.mem_filterMap.mp field with ⟨line, inside, read⟩
    dsimp only at same
    by_cases named : key = name
    · rw [if_pos named] at same
      cases same
      exact (opening.headers_cut line inside).inside (infix_of_headerField read)
    · rw [if_neg named] at same
      cases same

def Accepts (maxBodyBytes : UInt64) (text : Bytes) (request : HttpRequest) : Prop :=
  ∃ receiveTime ok context left, parseRequest { maxBodyBytes := maxBodyBytes } text receiveTime =
    .ok (ok, context, left) ∧ context.gotAll = true ∧ context.request = request

theorem Accepts.isLine {maxBodyBytes : UInt64} {text : Bytes} {request : HttpRequest}
    (accepted : Accepts maxBodyBytes text request) (field : Bytes) : IsLine (request.getHeader field) := by
  rcases accepted with ⟨receiveTime, ok, context, left, call, gotAll, rfl⟩
  rcases parseRequest_total { maxBodyBytes := maxBodyBytes } text receiveTime (fresh_clean maxBodyBytes) with
    ⟨ok', context', left', again, run, _⟩
  have same : (ok, context, left) = (ok', context', left') := Except.ok.inj (call.symm.trans again)
  cases same
  rcases text_cases maxBodyBytes text with ⟨opening, length, behind, isRequest⟩ | isBroken | isUnfinished
  · rcases runs_request isRequest with ⟨done, whole, _, extracted⟩
    rw [← callVerdict_seen (run.deterministic whole).1] at extracted
    have read : context.request.getHeader field = (opening.value (toLowerAsciiInPlace field)).getD [] :=
      extracted.getHeader field
    rw [read]
    exact isLine_value opening _
  · rcases runs_broken isBroken with ⟨done, rest, whole, state, _⟩
    have seen := (callVerdict_failed (run.deterministic whole).1).2
    rw [← seen, untimed_state] at state
    exact absurd (of_decide_eq_true gotAll) state
  · rcases runs_unfinished isUnfinished with ⟨next, rest, whole⟩
    rw [(callVerdict_waiting (run.deterministic whole).1).2.1] at gotAll
    cases gotAll

/-! The lines of a response. -/

/-- The bytes before the body are the status line and one line for each header, for a reader that ends lines at CRLF. -/
def OneLinePerHeader (response : HttpResponse) : Prop :=
  ∃ head, response.appendToBuffer = head ++ blankLine ++ response.body ∧
    splitLines head = response.statusLine :: response.fields.map fieldLine

theorem splitLines_line {line : Bytes} (cut : IsLine line) : splitLines line = [line] := by
  induction line with
  | nil => rfl
  | cons a line ih =>
    have later := ih (cut.inside (List.suffix_cons a line).isInfix)
    cases line with
    | nil => rfl
    | cons b rest =>
      have here : ¬ (a = CR ∧ b = LF) := by
        intro both
        rcases both with ⟨rfl, rfl⟩
        exact (isLine_iff_inside _).mp cut ⟨[], rest, rfl⟩
      simp only [splitLines, here, if_false, later]

theorem splitLines_cut_line {line : Bytes} (cut : IsLine line) (rest : Bytes) :
    splitLines (line ++ [CR, LF] ++ rest) = line :: splitLines rest := by
  induction line with
  | nil => simp [splitLines]
  | cons a line ih =>
    have later := ih (cut.inside (List.suffix_cons a line).isInfix)
    cases shape : line ++ [CR, LF] ++ rest with
    | nil => simp at shape
    | cons b tail =>
      have here : ¬ (a = CR ∧ b = LF) := by
        intro both
        rcases both with ⟨rfl, rfl⟩
        cases line with
        | nil =>
          have first : CR = LF := (List.cons.inj shape).1
          exact absurd first (by decide)
        | cons c line =>
          have first : c = LF := (List.cons.inj shape).1
          subst first
          exact (isLine_iff_inside _).mp cut ⟨[], line, rfl⟩
      rw [shape] at later
      rw [List.cons_append, List.cons_append, shape]
      simp only [splitLines, here, if_false, later]

theorem splitLines_joinLines_cut {first : Bytes} {lines : List Bytes} (cut : ∀ line ∈ first :: lines, IsLine line) :
    splitLines (joinLines (first :: lines)) = first :: lines := by
  induction lines generalizing first with
  | nil => exact splitLines_line (cut first (List.mem_cons_self ..))
  | cons next lines ih =>
    have later := @ih next fun line member => cut line (List.mem_cons_of_mem _ member)
    rw [joinLines, splitLines_cut_line (cut first (List.mem_cons_self ..)), later]
    exact List.cons_ne_nil _ _

/-- A response that fits its buffers, where only the values of headers may have a lone CR or LF. -/
theorem oneLinePerHeader {response : HttpResponse} (room : response.httpVersion.length ≤ 20)
    (text : 0 ∉ response.httpVersion) (body : response.body.length < 10 ^ 13) (status : Plain response.statusLine)
    (names : ∀ header ∈ response.headers.entries, Plain header.1)
    (values : ∀ header ∈ response.headers.entries, IsLine header.2) : OneLinePerHeader response := by
  refine ⟨response.head, appendToBuffer_whole room text body, splitLines_joinLines_cut ?_⟩
  intro line member
  rcases List.mem_cons.mp member with rfl | member
  · exact isLine_of_plain status
  · rcases List.mem_map.mp member with ⟨field, inside, rfl⟩
    rcases mem_fields inside with rfl | rfl | ⟨entry, _⟩
    · exact isLine_of_plain (connectionLine_plain response)
    · exact isLine_of_plain (lengthLine_plain response)
    · exact isLine_fieldLine (names field entry) (values field entry)

/-! What the middleware writes. -/

namespace Middlewares

def writeAll (fields : List (Bytes × Bytes)) (response : HttpResponse) : HttpResponse :=
  fields.foldl (fun response field => response.addHeader field.1 field.2) response

theorem mem_writeAll {fields : List (Bytes × Bytes)} {response : HttpResponse} {header : Bytes × Bytes}
    (member : header ∈ (writeAll fields response).headers.entries) :
    header ∈ fields ∨ header ∈ response.headers.entries := by
  induction fields generalizing response with
  | nil => exact Or.inr member
  | cons field fields ih =>
    rcases ih member with later | before
    · exact Or.inl (List.mem_cons_of_mem _ later)
    · rcases OrderedMap.mem_insertEntry stringLess before with same | old
      · exact Or.inl (List.mem_cons.mpr (Or.inl same))
      · exact Or.inr old

theorem header_writeAll_of_absent {fields : List (Bytes × Bytes)} {name : Bytes} (absent : name ∉ fields.map Prod.fst)
    (response : HttpResponse) : (writeAll fields response).header name = response.header name := by
  induction fields generalizing response with
  | nil => rfl
  | cons field fields ih =>
    rw [List.map_cons, List.mem_cons, not_or] at absent
    exact (ih absent.2 _).trans (HttpResponse.header_addHeader_of_ne _ _ _ _ absent.1)

theorem header_writeAll {fields : List (Bytes × Bytes)} (once : (fields.map Prod.fst).Nodup)
    {field : Bytes × Bytes} (member : field ∈ fields) (response : HttpResponse) :
    (writeAll fields response).header field.1 = some field.2 := by
  induction fields generalizing response with
  | nil => cases member
  | cons first rest ih =>
    rcases List.nodup_cons.mp once with ⟨absent, later⟩
    rcases List.mem_cons.mp member with rfl | inside
    · refine (header_writeAll_of_absent absent _).trans ?_
      rw [HttpResponse.header_addHeader, if_pos rfl]
    · exact ih later inside _

theorem mem_entries_of_header {response : HttpResponse} {name value : Bytes}
    (found : response.header name = some value) : (name, value) ∈ response.headers.entries := by
  rcases Option.map_eq_some_iff.mp found with ⟨⟨key, kept⟩, inside, same⟩
  have test := List.find?_some inside
  have named : key = name := of_decide_eq_true test
  cases same
  cases named
  exact List.mem_of_find?_eq_some inside

namespace CorsConfig

variable (config : CorsConfig)

/-- The headers of an answer to an origin, in the order they are added. -/
def fields (allowOrigin : Bytes) : List (Bytes × Bytes) :=
  (allowOriginHeader, allowOrigin) ::
    ((if config.allowCredentials then [(allowCredentialsHeader, bytes "true")] else []) ++
    (if config.allowedMethods ≠ [] then
      [(bytes "Access-Control-Allow-Methods", join config.allowedMethods (bytes ", "))] else []) ++
    (if config.allowedHeaders ≠ [] then
      [(bytes "Access-Control-Allow-Headers", join config.allowedHeaders (bytes ", "))] else []) ++
    [(bytes "Access-Control-Max-Age", intText config.maxAge)] ++
    (if allowOrigin ≠ bytes "*" then [(bytes "Vary", bytes "Origin")] else []))

def texts : List Bytes := [join config.allowedMethods (bytes ", "), join config.allowedHeaders (bytes ", ")]

theorem decorate_fields {origin : Bytes} (answers : config.Answers origin) (response : HttpResponse) :
    config.decorate origin response = writeAll (config.fields (config.resolveAllowOrigin origin)) response := by
  have resolved := (resolveAllowOrigin_ne_nil config origin).mpr answers
  unfold CorsConfig.decorate CorsConfig.addCorsHeaders CorsConfig.fields
  dsimp only
  rw [if_neg resolved]
  split <;> split <;> split <;> split <;> rfl

theorem decorate_unanswered {origin : Bytes} (unanswered : ¬ config.Answers origin) (response : HttpResponse) :
    config.decorate origin response = response := by
  have unresolved : config.resolveAllowOrigin origin = [] := by
    by_contra resolved
    exact unanswered ((resolveAllowOrigin_ne_nil config origin).mp resolved)
  unfold CorsConfig.decorate
  dsimp only
  rw [if_pos unresolved]

theorem mem_fields {allowOrigin : Bytes} {field : Bytes × Bytes} (member : field ∈ config.fields allowOrigin) :
    field = (allowOriginHeader, allowOrigin) ∨ field = (allowCredentialsHeader, bytes "true") ∨
      field = (bytes "Access-Control-Allow-Methods", join config.allowedMethods (bytes ", ")) ∨
      field = (bytes "Access-Control-Allow-Headers", join config.allowedHeaders (bytes ", ")) ∨
      field = (bytes "Access-Control-Max-Age", intText config.maxAge) ∨ field = (bytes "Vary", bytes "Origin") := by
  simp only [fields, List.mem_cons, List.mem_append, List.mem_ite_nil_right, List.not_mem_nil, or_false] at member
  tauto

theorem fields_once (allowOrigin : Bytes) : ((config.fields allowOrigin).map Prod.fst).Nodup := by
  have all : [allowOriginHeader, allowCredentialsHeader, bytes "Access-Control-Allow-Methods",
    bytes "Access-Control-Allow-Headers", bytes "Access-Control-Max-Age", bytes "Vary"].Nodup := by decide
  refine List.Nodup.sublist ?_ all
  unfold fields
  split <;> split <;> split <;> split <;> exact of_decide_eq_true rfl

end CorsConfig

variable (config : CorsConfig) (request : HttpRequest)

/-- The answer to a preflight, and what `after` makes of a response without headers. -/
def written : List (Bytes × Bytes) :=
  (config.handlePreflightRequest request {}).headers.entries ++
    (config.decorate (request.getHeader (bytes "Origin")) {}).headers.entries

/-- No value that the middleware writes breaks its line. -/
structure NothingInjected : Prop where
  values : ∀ header ∈ written config request, Plain header.2
  preflight : OneLinePerHeader (config.handlePreflightRequest request {})
  ordinary : ∀ resp, Framed resp → OneLinePerHeader (config.decorate (request.getHeader (bytes "Origin")) resp)

variable {config request}

theorem mem_written (header : Bytes × Bytes) : header ∈ written config request ↔
    header ∈ (config.decorate (request.getHeader (bytes "Origin")) {}).headers.entries := by
  unfold written
  rw [handlePreflightRequest_eq, List.mem_append]
  exact or_self_iff

theorem mem_written_fields (header : Bytes × Bytes) : header ∈ written config request ↔
    config.Answers (request.getHeader (bytes "Origin")) ∧
      header ∈ config.fields (config.resolveAllowOrigin (request.getHeader (bytes "Origin"))) := by
  rw [mem_written]
  by_cases answers : config.Answers (request.getHeader (bytes "Origin"))
  · rw [config.decorate_fields answers]
    apply Iff.intro
    · intro member
      rcases mem_writeAll member with field | before
      · exact ⟨answers, field⟩
      · cases before
    · intro field
      exact mem_entries_of_header (header_writeAll (config.fields_once _) field.2 {})
  · rw [config.decorate_unanswered answers]
    exact ⟨fun member => absurd member List.not_mem_nil, fun both => absurd both.1 answers⟩

theorem intText_plain (n : Int) : Plain (intText n) := by
  cases n with
  | ofNat n => exact natText_plain n
  | negSucc n =>
    have minus : Plain [45] := by decide
    exact minus.append (natText_plain (n + 1))

theorem join_nil_plain (delimiter : Bytes) : Plain (join [] delimiter) := by
  intro c member
  cases member

/-- The values are free of CR and LF where nothing is answered, or the config's own texts are and the origin,
    where it is echoed, is. -/
theorem written_plain_iff : (∀ header ∈ written config request, Plain header.2) ↔
    ¬ config.Answers (request.getHeader (bytes "Origin")) ∨
      (∀ text ∈ config.texts, Plain text) ∧ (config.Wildcard ∨ Plain (request.getHeader (bytes "Origin"))) := by
  have star : Plain (bytes "*") := by decide
  have true_ : Plain (bytes "true") := by decide
  have origin : Plain (bytes "Origin") := by decide
  by_cases answers : config.Answers (request.getHeader (bytes "Origin"))
  · simp only [mem_written_fields, answers, true_and, not_true_eq_false, false_or]
    have value := resolveAllowOrigin_value answers
    apply Iff.intro
    · intro plain
      refine ⟨?_, ?_⟩
      · intro text member
        simp only [CorsConfig.texts, List.mem_cons, List.not_mem_nil, or_false] at member
        rcases member with rfl | rfl
        · by_cases empty : config.allowedMethods = []
          · rw [empty]
            exact join_nil_plain _
          · exact plain (bytes "Access-Control-Allow-Methods", join config.allowedMethods (bytes ", "))
              (by simp [CorsConfig.fields, empty])
        · by_cases empty : config.allowedHeaders = []
          · rw [empty]
            exact join_nil_plain _
          · exact plain (bytes "Access-Control-Allow-Headers", join config.allowedHeaders (bytes ", "))
              (by simp [CorsConfig.fields, empty])
      · by_cases wildcard : config.Wildcard
        · exact Or.inl wildcard
        · rw [if_neg wildcard] at value
          rw [← value]
          exact Or.inr (plain _ (List.mem_cons_self ..))
    · intro clean header field
      rcases clean with ⟨texts, echoed⟩
      rcases config.mem_fields field with rfl | rfl | rfl | rfl | rfl | rfl
      · show Plain (config.resolveAllowOrigin _)
        rw [value]
        by_cases wildcard : config.Wildcard
        · rw [if_pos wildcard]
          exact star
        · rw [if_neg wildcard]
          exact echoed.resolve_left wildcard
      · exact true_
      · exact texts _ (by simp [CorsConfig.texts])
      · exact texts _ (by simp [CorsConfig.texts])
      · exact intText_plain _
      · exact origin
  · simp only [mem_written_fields, answers, false_and, not_false_eq_true, true_or, iff_true]
    exact fun header impossible => absurd impossible id

/-! The lines of the answers. -/

theorem fields_isLine {allowOrigin : Bytes} (texts : ∀ text ∈ config.texts, IsLine text) (origin : IsLine allowOrigin) :
    ∀ field ∈ config.fields allowOrigin, Plain field.1 ∧ IsLine field.2 := by
  have names : ∀ name ∈ [allowOriginHeader, allowCredentialsHeader, bytes "Access-Control-Allow-Methods",
    bytes "Access-Control-Allow-Headers", bytes "Access-Control-Max-Age", bytes "Vary"], Plain name := by decide
  intro field member
  rcases config.mem_fields member with rfl | rfl | rfl | rfl | rfl | rfl
  · exact ⟨names _ (by simp), origin⟩
  · exact ⟨names _ (by simp), isLine_of_plain (by decide)⟩
  · exact ⟨names _ (by simp), texts _ (by simp [CorsConfig.texts])⟩
  · exact ⟨names _ (by simp), texts _ (by simp [CorsConfig.texts])⟩
  · exact ⟨names _ (by simp), isLine_of_plain (intText_plain _)⟩
  · exact ⟨names _ (by simp), isLine_of_plain (by decide)⟩

theorem writeAll_frame (fields : List (Bytes × Bytes)) (response : HttpResponse) :
    writeAll fields response = { response with headers := (writeAll fields response).headers } := by
  induction fields generalizing response with
  | nil => rfl
  | cons field fields ih => exact ih _

theorem oneLine_writeAll {response : HttpResponse} (framed : Framed response) {fields : List (Bytes × Bytes)}
    (lines : ∀ field ∈ fields, Plain field.1 ∧ IsLine field.2) : OneLinePerHeader (writeAll fields response) := by
  have frame := writeAll_frame fields response
  apply oneLinePerHeader
  · rw [frame]
    exact framed.version_length
  · rw [frame]
    exact framed.version_text
  · rw [frame]
    exact framed.body_length
  · rw [frame]
    show Plain response.statusLine
    exact statusLine_plain framed
  · intro header member
    rcases mem_writeAll member with field | before
    · exact (lines header field).1
    · exact framed.names_plain header before
  · intro header member
    rcases mem_writeAll member with field | before
    · exact (lines header field).2
    · exact isLine_of_plain (framed.values_plain header before)

theorem oneLine_decorate {origin : Bytes} (texts : ∀ text ∈ config.texts, IsLine text) (cut : IsLine origin)
    {response : HttpResponse} (framed : Framed response) : OneLinePerHeader (config.decorate origin response) := by
  by_cases answers : config.Answers origin
  · rw [config.decorate_fields answers]
    apply oneLine_writeAll framed
    apply fields_isLine texts
    rw [resolveAllowOrigin_value answers]
    split
    · exact isLine_of_plain (by decide)
    · exact cut
  · rw [config.decorate_unanswered answers]
    exact @oneLine_writeAll _ framed [] fun field member => absurd member List.not_mem_nil

theorem framed_fresh (code : HttpStatusCode) : Framed (({} : HttpResponse).setStatusCode code) where
  version_length := Nat.zero_le _
  version_plain c member := absurd member List.not_mem_nil
  version_text := List.not_mem_nil
  message_plain c member := absurd member List.not_mem_nil
  names_plain header member := absurd member List.not_mem_nil
  names_text header member := absurd member List.not_mem_nil
  values_plain header member := absurd member List.not_mem_nil
  body_length := Nat.pow_pos (by decide)
  ordered := List.Pairwise.nil

theorem setStatusCode_decorate (origin : Bytes) (response : HttpResponse) (code : HttpStatusCode) :
    (config.decorate origin response).setStatusCode code = config.decorate origin (response.setStatusCode code) := by
  unfold CorsConfig.decorate CorsConfig.addCorsHeaders
  dsimp only
  split
  · rfl
  · split <;> split <;> split <;> split <;> rfl

/-- A reader that ends lines at CRLF finds one line for each header; a lone CR or LF comes into a value only from
    the config or from an Origin that is echoed. -/
theorem header_lines_of_accepted (config : CorsConfig) {maxBodyBytes : UInt64} {text : Bytes} {request : HttpRequest}
    (accepted : Accepts maxBodyBytes text request) :
    ((∀ text ∈ config.texts, IsLine text) →
      OneLinePerHeader (config.handlePreflightRequest request {}) ∧
      ∀ resp, Framed resp → OneLinePerHeader (config.decorate (request.getHeader (bytes "Origin")) resp)) ∧
    ((∀ header ∈ written config request, Plain header.2) ↔
      ¬ config.Answers (request.getHeader (bytes "Origin")) ∨
        (∀ text ∈ config.texts, Plain text) ∧ (config.Wildcard ∨ Plain (request.getHeader (bytes "Origin")))) := by
  refine ⟨?_, written_plain_iff⟩
  intro texts
  have cut := accepted.isLine (bytes "Origin")
  apply And.intro
  · rw [handlePreflightRequest_eq, setStatusCode_decorate]
    exact oneLine_decorate texts cut (framed_fresh _)
  · intro resp framed
    exact oneLine_decorate texts cut framed

/-! A request whose Origin has a lone LF. -/

def brokenOrigin : Bytes := bytes "OPTIONS / HTTP/1.1\r\nOrigin: a\nX: b\r\n\r\n"

theorem brokenOrigin_accepted : ∃ request, Accepts 1024 brokenOrigin request ∧
    request.getHeader (bytes "Origin") = bytes "a\nX: b" :=
  ⟨_, ⟨0, true, _, _, rfl, rfl, rfl⟩, rfl⟩

theorem brokenOrigin_lines : ∃ request, Accepts 1024 brokenOrigin request ∧
    OneLinePerHeader (CorsConfig.handlePreflightRequest {} request {}) := by
  rcases brokenOrigin_accepted with ⟨request, accepted, _⟩
  have texts : ∀ text ∈ CorsConfig.texts {}, IsLine text := by decide
  exact ⟨request, accepted, ((header_lines_of_accepted {} accepted).1 texts).1⟩

/-- Every origin is echoed, this one with its LF. -/
theorem origin_injected :
    ¬ ∀ (config : CorsConfig) (maxBodyBytes : UInt64) (text : Bytes) (request : HttpRequest),
      Accepts maxBodyBytes text request → NothingInjected config request := by
  intro claimed
  rcases brokenOrigin_accepted with ⟨request, accepted, origin⟩
  rcases written_plain_iff.mp (claimed {} 1024 brokenOrigin request accepted).values with unanswered | ⟨_, clean⟩
  · rw [origin] at unanswered
    exact unanswered ⟨by decide, Or.inl rfl⟩
  · rw [origin] at clean
    rcases clean with wildcard | plain
    · exact absurd wildcard.1 List.not_mem_nil
    · exact absurd plain (by decide)

end Middlewares

end Http
