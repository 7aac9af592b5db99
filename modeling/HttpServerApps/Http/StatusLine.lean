import HttpServerApps.Http.Framing
import HttpServerApps.Http.HandleRequest
import HttpServerApps.Middleware.Cors
import HttpServerApps.Router.Router

namespace Http

open Common Middlewares Routing

/-- A version, a status code of three digits and a reason text, up to the first CRLF. -/
def StartsWithStatusLine (text : Bytes) : Prop :=
  ∃ version code reason rest : Bytes, (version = bytes "HTTP/1.0" ∨ version = bytes "HTTP/1.1") ∧
    code.length = 3 ∧ code.all isdigit = true ∧ IsLine (version ++ bytes " " ++ code ++ bytes " " ++ reason) ∧
    text = version ++ bytes " " ++ code ++ bytes " " ++ reason ++ [CR, LF] ++ rest

/-- What a route table holds: a handler's `handle` or a callback. -/
abbrev RouteTarget (World : Type) := HttpRequest → Throwing (World × HttpResponse) Thrown Unit

/-- The status line, where it is set, is set from `req.getVersion()` and to a code of its own; a handler
    that returns has set it, one that throws may have. -/
structure SetsStatusLine {World : Type} (target : RouteTarget World) : Prop where
  returns : ∀ req world resp after, (target req).run (world, resp) = (after, .ok ()) →
    after.2.httpVersion = req.version ∧ after.2.statusCode ≠ .kUnknown
  throws : ∀ req world resp after thrown, (target req).run (world, resp) = (after, .error thrown) →
    (∃ what, thrown = .exception what) ∧
      (after.2.httpVersion = req.version ∨ after.2.httpVersion = resp.httpVersion)

/-- A handler of the route tables in question. -/
structure LineHandler (World : Type) where
  handle : RouteTarget World
  sets : SetsStatusLine handle

/-- The hooks rewrite neither the version of the request nor the version and the status code of the response,
    `after` throws no response, and a response that `before` throws has a status line or no version. -/
structure Decorates {World : Type} (middleware : Middleware World) : Prop where
  before_returns : ∀ req world after req', (middleware.before req).run world = (after, .ok req') →
    req'.version = req.version
  before_throws : ∀ req world after res, (middleware.before req).run world = (after, .error (.response res)) →
    res.httpVersion = [] ∨
      (res.httpVersion = bytes "HTTP/1.0" ∨ res.httpVersion = bytes "HTTP/1.1") ∧ res.statusCode ≠ .kUnknown
  after_keeps : ∀ world resp after outcome, middleware.after.run (world, resp) = (after, outcome) →
    after.2.httpVersion = resp.httpVersion ∧ after.2.statusCode = resp.statusCode ∧
      ∀ res, outcome ≠ .error (.response res)

structure Decorator (World : Type) where
  hooks : Middleware World
  decorates : Decorates hooks

variable {World : Type}

/-- `Router::route`, with the call of what it finds. -/
def routeThrough (router : Router (LineHandler World) (LineHandler World)) (req : HttpRequest) :
    Throwing (World × HttpResponse) Thrown Bool :=
  match router.route req with
  | some (.handler target, req) => do
    target.handle req
    return true
  | some (.callback target, req) => do
    target.handle req
    return true
  | none => pure false

/-- The response that `onRequest` serialises. -/
def responseOf (middlewares : List (Decorator World)) (router : Router (LineHandler World) (LineHandler World))
    (req : HttpRequest) (world : World) : HttpResponse :=
  ((handleRequest (middlewares.map Decorator.hooks) (routeThrough router) req).run
    (world, { closeConnection := wantsClose req })).1.2

def targetOf : Target (LineHandler World) (LineHandler World) → LineHandler World
  | .handler target => target
  | .callback target => target

/-- No `before` hook throws, unless a response with a status line; a route is found, and its handler has set
    the status line when it returns or throws. -/
def SetBeforeEnd (middlewares : List (Decorator World))
    (router : Router (LineHandler World) (LineHandler World)) (req : HttpRequest) (world : World) : Prop :=
  match (processBefore (middlewares.map Decorator.hooks) req).run world with
  | (_, .error (.response res)) => res.httpVersion ≠ []
  | (_, .error (.exception _)) => False
  | (world, .ok mutableReq) =>
    match router.route mutableReq with
    | none => False
    | some (target, routed) =>
      (((targetOf target).handle routed).run (world, { closeConnection := wantsClose req })).1.2.httpVersion ≠ []

/-- A request that the parser has completed, however it arrived. -/
def Parsed (request : HttpRequest) : Prop :=
  ∃ maxBodyBytes chunks left, HttpContext.parseChunks { maxBodyBytes := maxBodyBytes } ([] : Bytes) chunks =
    .ok ⟨.complete, request.untimed, left⟩

/-! The version of a parsed request. -/

theorem parseChunks_versioned {context : HttpContext} {buf left : Bytes} {chunks : List (Bytes × Timestamp)}
    {request : HttpRequest} (versioned : HttpContext.Versioned context)
    (parsed : HttpContext.parseChunks context buf chunks = .ok ⟨.complete, request, left⟩) :
    request.version = bytes "HTTP/1.1" ∨ request.version = bytes "HTTP/1.0" := by
  induction chunks generalizing context buf with
  | nil => cases parsed
  | cons chunk chunks ih =>
    rcases chunk with ⟨data, receiveTime⟩
    cases call : context.parseRequest (MuduoBuffer.append buf data) receiveTime with
    | error fault =>
      simp only [HttpContext.parseChunks, call, Bind.bind, Except.bind] at parsed
      cases parsed
    | ok result =>
      rcases result with ⟨ok, next, rest⟩
      have nextVersioned := HttpContext.parseRequest_versioned call versioned
      simp only [HttpContext.parseChunks, call, Bind.bind, Except.bind] at parsed
      cases ok with
      | false => cases parsed
      | true =>
        rw [if_neg Bool.false_ne_true.symm] at parsed
        cases gotAll : next.gotAll with
        | false =>
          rw [gotAll, if_neg Bool.false_ne_true] at parsed
          exact ih nextVersioned parsed
        | true =>
          rw [gotAll, if_pos rfl] at parsed
          cases parsed
          refine nextVersioned ?_
          intro start
          simp [HttpContext.gotAll, start] at gotAll

theorem Parsed.version {request : HttpRequest} (parsed : Parsed request) :
    request.version = bytes "HTTP/1.0" ∨ request.version = bytes "HTTP/1.1" := by
  rcases parsed with ⟨maxBodyBytes, chunks, left, run⟩
  have fresh : HttpContext.Versioned { maxBodyBytes := maxBodyBytes } := fun past => absurd rfl past
  exact (parseChunks_versioned fresh run).symm

/-! The hooks. -/

theorem processBefore_version {middlewares : List (Decorator World)} {req req' : HttpRequest} {world after : World}
    (run : (processBefore (middlewares.map Decorator.hooks) req).run world = (after, .ok req')) :
    req'.version = req.version := by
  induction middlewares generalizing req world with
  | nil =>
    cases run
    rfl
  | cons middleware middlewares ih =>
    simp only [List.map_cons, processBefore, Bind.bind, Throwing.andThen] at run
    cases first : (middleware.hooks.before req).run world with
    | mk middle outcome =>
      rw [first] at run
      cases outcome with
      | error thrown => cases run
      | ok next => exact (ih run).trans (middleware.decorates.before_returns _ _ _ _ first)

theorem processBefore_thrown {middlewares : List (Decorator World)} {req : HttpRequest} {res : HttpResponse}
    {world after : World}
    (run : (processBefore (middlewares.map Decorator.hooks) req).run world = (after, .error (.response res))) :
    res.httpVersion = [] ∨
      (res.httpVersion = bytes "HTTP/1.0" ∨ res.httpVersion = bytes "HTTP/1.1") ∧ res.statusCode ≠ .kUnknown := by
  induction middlewares generalizing req world with
  | nil => cases run
  | cons middleware middlewares ih =>
    simp only [List.map_cons, processBefore, Bind.bind, Throwing.andThen] at run
    cases first : (middleware.hooks.before req).run world with
    | mk middle outcome =>
      rw [first] at run
      cases outcome with
      | error thrown =>
        cases run
        exact middleware.decorates.before_throws _ _ _ _ first
      | ok next => exact ih run

theorem afterHooks_keeps {middlewares : List (Decorator World)} {world : World} {resp : HttpResponse}
    {after : World × HttpResponse} {outcome : Except Thrown Unit}
    (run : (afterHooks (middlewares.map Decorator.hooks)).run (world, resp) = (after, outcome)) :
    after.2.httpVersion = resp.httpVersion ∧ after.2.statusCode = resp.statusCode ∧
      ∀ res, outcome ≠ .error (.response res) := by
  induction middlewares generalizing world resp with
  | nil =>
    cases run
    exact ⟨rfl, rfl, nofun⟩
  | cons middleware middlewares ih =>
    simp only [List.map_cons, afterHooks, Bind.bind, Throwing.andThen] at run
    cases first : middleware.hooks.after.run (world, resp) with
    | mk middle ended =>
      have kept := middleware.decorates.after_keeps _ _ _ _ first
      rw [first] at run
      cases ended with
      | error thrown =>
        cases run
        exact kept
      | ok _ =>
        rcases ih run with ⟨version, code, thrown⟩
        exact ⟨version.trans kept.1, code.trans kept.2.1, thrown⟩

theorem processAfter_keeps (middlewares : List (Decorator World)) (world : World) (resp : HttpResponse) :
    ∃ after, (processAfter (middlewares.map Decorator.hooks)).run (world, resp) = (after, .ok ()) ∧
      after.2.httpVersion = resp.httpVersion ∧ after.2.statusCode = resp.statusCode := by
  unfold processAfter
  rw [← List.map_reverse]
  cases run : (afterHooks (middlewares.reverse.map Decorator.hooks)).run (world, resp) with
  | mk after outcome =>
    rcases afterHooks_keeps run with ⟨version, code, thrown⟩
    cases outcome with
    | ok _ => exact ⟨after, Throwing.run_attempt_ok run _, version, code⟩
    | error what =>
      cases what with
      | response res => exact absurd rfl (thrown res)
      | exception what => exact ⟨after, Throwing.run_attempt_error run _, version, code⟩

/-! The status line of a response. -/

theorem crlfOffset_split {text : Bytes} {offset : Nat} (found : crlfOffset text = some offset) :
    text = text.take offset ++ [CR, LF] ++ text.drop (offset + 2) ∧ IsLine (text.take offset) := by
  induction text generalizing offset with
  | nil => cases found
  | cons a tail ih =>
    cases tail with
    | nil => cases found
    | cons b rest =>
      simp only [crlfOffset] at found
      split at found
      · rename_i here
        cases found
        rw [here.1, here.2]
        have empty : IsLine [] := by decide
        exact ⟨rfl, empty⟩
      · rename_i elsewhere
        rcases Option.map_eq_some_iff.mp found with ⟨inner, innerFound, rfl⟩
        rcases ih innerFound with ⟨shape, line⟩
        refine ⟨congrArg (a :: ·) shape, ?_⟩
        unfold IsLine at line ⊢
        cases inner with
        | zero =>
          have notBoth : ¬ (a = CR ∧ CR = LF) := fun both => absurd both.2 (by decide)
          simp [crlfOffset, notBoth]
        | succ inner =>
          rw [List.take_succ_cons] at line
          simp only [List.take_succ_cons, List.cons_append, List.length_cons, crlfOffset, elsewhere, ↓reduceIte]
            at line ⊢
          rw [line]
          rfl

theorem exists_line (text more : Bytes) :
    ∃ line rest, IsLine line ∧ text ++ [CR, LF] ++ more = line ++ [CR, LF] ++ rest := by
  cases found : crlfOffset text with
  | none => exact ⟨text, more, HttpContext.crlfOffset_closed found, rfl⟩
  | some offset =>
    rcases crlfOffset_split found with ⟨shape, line⟩
    refine ⟨text.take offset, text.drop (offset + 2) ++ [CR, LF] ++ more, line, ?_⟩
    conv => lhs; rw [shape]
    simp only [List.append_assoc]

theorem IsLine.prepend {text line : Bytes} (noReturn : ∀ c ∈ text, c ≠ CR) (cut : IsLine line) :
    IsLine (text ++ line) := by
  induction text with
  | nil => exact cut
  | cons a text ih =>
    have later := ih fun c member => noReturn c (List.mem_cons_of_mem _ member)
    have notReturn : a ≠ CR := noReturn a (List.mem_cons_self ..)
    unfold IsLine at later ⊢
    cases shape : text ++ line ++ [CR, LF] with
    | nil => simp at shape
    | cons b rest =>
      rw [List.append_assoc] at shape later ⊢
      rw [List.cons_append, shape]
      rw [shape] at later
      have elsewhere : ¬ (a = CR ∧ b = LF) := fun both => notReturn both.1
      simp only [crlfOffset, elsewhere, ↓reduceIte, later]
      rfl

/-- The part of the status line that `snprintf` writes. -/
def statusPrefix (response : HttpResponse) : Bytes :=
  snprintf 32 (cStr response.httpVersion ++ bytes " " ++ natText response.statusCode.toNat ++ bytes " ")

theorem appendToBuffer_prefix (response : HttpResponse) :
    ∃ more, response.appendToBuffer =
      statusPrefix response ++ (response.statusMessage ++ [CR, LF] ++ more) := by
  have crlf : bytes "\r\n" = [CR, LF] := by decide
  unfold HttpResponse.appendToBuffer statusPrefix
  rw [crlf]
  simp only [List.append_assoc]
  exact ⟨_, rfl⟩

theorem statusPrefix_unversioned {response : HttpResponse} (version : response.httpVersion = []) :
    (statusPrefix response).head? = some space := by
  unfold statusPrefix
  rw [version]
  cases response.statusCode <;> decide

theorem statusPrefix_unknown {response : HttpResponse}
    (version : response.httpVersion = bytes "HTTP/1.0" ∨ response.httpVersion = bytes "HTTP/1.1")
    (unknown : response.statusCode = .kUnknown) : (statusPrefix response)[10]? = some space := by
  unfold statusPrefix
  rw [unknown]
  rcases version with version | version <;> rw [version] <;> decide

theorem statusPrefix_known {response : HttpResponse}
    (version : response.httpVersion = bytes "HTTP/1.0" ∨ response.httpVersion = bytes "HTTP/1.1")
    (known : response.statusCode ≠ .kUnknown) :
    ∃ code : Bytes, code.length = 3 ∧ code.all isdigit = true ∧
      statusPrefix response = response.httpVersion ++ bytes " " ++ code ++ bytes " " ∧
      ∀ c ∈ statusPrefix response, c ≠ CR := by
  refine ⟨natText response.statusCode.toNat, ?_⟩
  unfold statusPrefix
  cases code : response.statusCode with
  | kUnknown => exact absurd code known
  | _ => rcases version with version | version <;> rw [version] <;> decide +kernel

theorem StartsWithStatusLine.bytes {text : Bytes} (starts : StartsWithStatusLine text) :
    text.head? = some 72 ∧ ∃ c, text[10]? = some c ∧ isdigit c = true := by
  rcases starts with ⟨version, code, reason, rest, versions, three, digits, _, rfl⟩
  rcases List.length_eq_three.mp three with ⟨first, second, third, rfl⟩
  have digit : isdigit second = true := by
    simp only [List.all_cons, Bool.and_eq_true] at digits
    exact digits.2.1
  have early : Common.bytes "HTTP/1.0" = [72, 84, 84, 80, 47, 49, 46, 48] := by decide
  have late : Common.bytes "HTTP/1.1" = [72, 84, 84, 80, 47, 49, 46, 49] := by decide
  have blank : Common.bytes " " = [32] := by decide
  rcases versions with rfl | rfl
  · rw [early, blank]
    exact ⟨rfl, second, rfl, digit⟩
  · rw [late, blank]
    exact ⟨rfl, second, rfl, digit⟩

theorem startsWithStatusLine_iff {response : HttpResponse}
    (version : response.httpVersion = [] ∨
      (response.httpVersion = bytes "HTTP/1.0" ∨ response.httpVersion = bytes "HTTP/1.1")) :
    StartsWithStatusLine response.appendToBuffer ↔
      response.httpVersion ≠ [] ∧ response.statusCode ≠ .kUnknown := by
  rcases appendToBuffer_prefix response with ⟨more, shape⟩
  apply Iff.intro
  · intro starts
    rcases starts.bytes with ⟨first, tenth, there, digit⟩
    rw [shape] at first there
    have set_ : response.httpVersion ≠ [] := by
      intro empty
      rw [List.head?_append, statusPrefix_unversioned empty] at first
      cases first
    refine ⟨set_, ?_⟩
    intro unknown
    have blank := statusPrefix_unknown (version.resolve_left set_) unknown
    rw [List.getElem?_append_left (List.getElem?_eq_some_iff.mp blank).1, blank] at there
    cases there
    cases digit
  · intro both
    rcases both with ⟨set_, known⟩
    have valid := version.resolve_left set_
    rcases statusPrefix_known valid known with ⟨code, three, digits, written, noReturn⟩
    rcases exists_line response.statusMessage more with ⟨reason, rest, line, cut⟩
    refine ⟨response.httpVersion, code, reason, rest, valid, three, digits, ?_, ?_⟩
    · rw [← written]
      exact line.prepend noReturn
    · rw [shape, cut, ← List.append_assoc, ← List.append_assoc, written]

/-! The response of a request, on each of its paths. -/

variable {middlewares : List (Decorator World)} {router : Router (LineHandler World) (LineHandler World)}
  {req mutableReq : HttpRequest} {world entered : World}

theorem responseOf_thrown {thrown : Thrown}
    (before : (processBefore (middlewares.map Decorator.hooks) req).run world = (entered, .error thrown)) :
    responseOf middlewares router req world =
      match thrown with
      | .response res => res
      | .exception _ =>
        ((({ closeConnection := wantsClose req } : HttpResponse).setStatusCode
          .k500InternalServerError).setStatusMessage
          (bytes "Internal Server Error")).setBody (bytes "Internal Server Error") := by
  unfold responseOf
  rw [handleRequest_thrown before]
  cases thrown <;> rfl

theorem responseOf_unrouted
    (before : (processBefore (middlewares.map Decorator.hooks) req).run world = (entered, .ok mutableReq))
    (unrouted : router.route mutableReq = none) :
    (responseOf middlewares router req world).httpVersion = [] := by
  have nowhere : routeThrough router mutableReq = pure false := by
    unfold routeThrough
    rw [unrouted]
  rcases processAfter_keeps middlewares entered (found404 false { closeConnection := wantsClose req })
    with ⟨after, decorated, version, _⟩
  unfold responseOf
  rw [handleRequest_routed before (by rw [nowhere]; rfl) decorated]
  exact version

theorem routeThrough_found {target : Target (LineHandler World) (LineHandler World)} {routed : HttpRequest}
    (found : router.route mutableReq = some (target, routed)) :
    routeThrough router mutableReq = (do (targetOf target).handle routed; return true) := by
  unfold routeThrough
  rw [found]
  cases target <;> rfl

/-- A routed request: its handler has the version of the status line at its end, and the response has it. -/
theorem responseOf_routed {target : Target (LineHandler World) (LineHandler World)} {routed : HttpRequest}
    {ended : World × HttpResponse} {outcome : Except Thrown Unit}
    (before : (processBefore (middlewares.map Decorator.hooks) req).run world = (entered, .ok mutableReq))
    (found : router.route mutableReq = some (target, routed))
    (handled : ((targetOf target).handle routed).run (entered, { closeConnection := wantsClose req }) =
      (ended, outcome)) :
    (responseOf middlewares router req world).httpVersion = ended.2.httpVersion ∧
      (responseOf middlewares router req world).statusCode ≠ .kUnknown := by
  unfold responseOf
  cases outcome with
  | ok _ =>
    rcases processAfter_keeps middlewares ended.1 ended.2 with ⟨after, decorated, version, code⟩
    have ran : (routeThrough router mutableReq).run (entered, { closeConnection := wantsClose req }) =
        (ended, .ok true) := by
      rw [routeThrough_found found, Throwing.run_bind_ok handled]
      rfl
    rw [handleRequest_routed before ran decorated]
    refine ⟨version, ?_⟩
    show after.2.statusCode ≠ .kUnknown
    rw [code]
    exact ((targetOf target).sets.returns _ _ _ _ handled).2
  | error thrown =>
    rcases ((targetOf target).sets.throws _ _ _ _ _ handled).1 with ⟨what, rfl⟩
    have ran : (routeThrough router mutableReq).run (entered, { closeConnection := wantsClose req }) =
        (ended, .error (.exception what)) := by
      rw [routeThrough_found found]
      exact Throwing.run_bind_error handled _
    rw [handleRequest_threw before ran]
    apply And.intro rfl
    intro returned
    cases returned

theorem extractPathParameters_version (captures : List Bytes) (req : HttpRequest) :
    (extractPathParameters captures req).version = req.version := by
  unfold extractPathParameters
  generalize captures.zipIdx 1 = numbered
  induction numbered generalizing req with
  | nil => rfl
  | cons capture numbered ih => exact ih _

theorem searchBuckets_version {Target : Type} {buckets : Buckets Target} {target : Target} {routed : HttpRequest}
    (found : searchBuckets buckets mutableReq = some (target, routed)) : routed.version = mutableReq.version := by
  unfold searchBuckets at found
  rcases List.exists_of_findSome?_eq_some found with ⟨key, -, inBucket⟩
  rcases List.exists_of_findSome?_eq_some inBucket with ⟨obj, -, matched⟩
  split at matched
  · rcases Option.map_eq_some_iff.mp matched with ⟨captures, -, given⟩
    cases given
    exact extractPathParameters_version captures mutableReq
  · cases matched

/-- Path parameters are all that routing adds to a request. -/
theorem route_version {Handler Callback : Type} {router : Router Handler Callback}
    {target : Target Handler Callback} {routed : HttpRequest}
    (found : router.route mutableReq = some (target, routed)) : routed.version = mutableReq.version := by
  unfold Router.route at found
  split at found
  · cases found
    rfl
  · split at found
    · cases found
      rfl
    · split at found
      · rename_i searched
        cases found
        exact searchBuckets_version searched
      · rcases Option.map_eq_some_iff.mp found with ⟨⟨callback, newReq⟩, searched, given⟩
        cases given
        exact searchBuckets_version searched

theorem handled_version {target : LineHandler World} {routed : HttpRequest} {resp : HttpResponse}
    {ended : World × HttpResponse} {outcome : Except Thrown Unit}
    (handled : (target.handle routed).run (entered, resp) = (ended, outcome)) :
    ended.2.httpVersion = routed.version ∨ ended.2.httpVersion = resp.httpVersion := by
  cases outcome with
  | ok _ => exact Or.inl (target.sets.returns _ _ _ _ handled).1
  | error thrown => exact (target.sets.throws _ _ _ _ _ handled).2

/-- The bytes sent begin with a status line exactly when it is set before the handling ends. -/
theorem status_line_iff (middlewares : List (Decorator World))
    (router : Router (LineHandler World) (LineHandler World)) (req : HttpRequest) (parsed : Parsed req)
    (world : World) :
    StartsWithStatusLine (responseOf middlewares router req world).appendToBuffer ↔
      SetBeforeEnd middlewares router req world := by
  unfold SetBeforeEnd
  cases before : (processBefore (middlewares.map Decorator.hooks) req).run world with
  | mk entered outcome =>
    cases outcome with
    | error thrown =>
      cases thrown with
      | response res =>
        dsimp only
        rw [responseOf_thrown before]
        rcases processBefore_thrown before with empty | ⟨version, known⟩
        · rw [startsWithStatusLine_iff (Or.inl empty)]
          simp [empty]
        · rw [startsWithStatusLine_iff (Or.inr version)]
          simp [known]
      | exception what =>
        dsimp only
        rw [responseOf_thrown before, startsWithStatusLine_iff (Or.inl rfl)]
        exact iff_of_false (fun both => both.1 rfl) id
    | ok mutableReq =>
      dsimp only
      cases found : router.route mutableReq with
      | none =>
        have version := responseOf_unrouted before found
        rw [startsWithStatusLine_iff (Or.inl version)]
        exact iff_of_false (fun both => both.1 version) id
      | some pair =>
        rcases pair with ⟨target, routed⟩
        dsimp only
        cases handled : ((targetOf target).handle routed).run (entered, { closeConnection := wantsClose req }) with
        | mk ended outcome =>
          rcases responseOf_routed before found handled with ⟨version, known⟩
          have valid : ended.2.httpVersion = [] ∨
              (ended.2.httpVersion = bytes "HTTP/1.0" ∨ ended.2.httpVersion = bytes "HTTP/1.1") := by
            have given : routed.version = req.version :=
              (route_version found).trans (processBefore_version before)
            rcases handled_version handled with set_ | untouched
            · rw [set_, given]
              exact Or.inr parsed.version
            · exact Or.inl untouched
          rw [startsWithStatusLine_iff (by rw [version]; exact valid), version]
          exact and_iff_left known

/-! `CorsMiddleware` in the chain, and the paths on which no version is set. -/

theorem addCorsHeaders_line (config : CorsConfig) (response : HttpResponse) (origin : Bytes) :
    (config.addCorsHeaders response origin).httpVersion = response.httpVersion ∧
      (config.addCorsHeaders response origin).statusCode = response.statusCode := by
  unfold CorsConfig.addCorsHeaders
  split <;> split <;> split <;> exact ⟨rfl, rfl⟩

theorem decorate_line (config : CorsConfig) (origin : Bytes) (response : HttpResponse) :
    (config.decorate origin response).httpVersion = response.httpVersion ∧
      (config.decorate origin response).statusCode = response.statusCode := by
  unfold CorsConfig.decorate
  dsimp only
  split
  · exact ⟨rfl, rfl⟩
  · split
    · exact addCorsHeaders_line ..
    · exact addCorsHeaders_line ..

/-- Allowed or refused, a preflight is answered with a code and no version. -/
theorem handlePreflightRequest_version (config : CorsConfig) (req : HttpRequest) (response : HttpResponse) :
    (config.handlePreflightRequest req response).httpVersion = response.httpVersion := by
  unfold CorsConfig.handlePreflightRequest
  dsimp only
  split
  · rfl
  · split
    · exact (addCorsHeaders_line ..).1
    · exact (addCorsHeaders_line ..).1

theorem corsHooks_decorates : Decorates corsHooks where
  before_returns := by
    intro req cors after req' run
    simp only [corsHooks, CorsMiddleware.before, Throwing.run_modify_bind] at run
    split at run
    · cases run
    · cases run
      rfl
  before_throws := by
    intro req cors after res run
    simp only [corsHooks, CorsMiddleware.before, Throwing.run_modify_bind] at run
    split at run
    · cases run
      exact Or.inl (handlePreflightRequest_version ..)
    · cases run
  after_keeps := by
    intro cors resp after outcome run
    cases run
    exact ⟨(decorate_line ..).1, (decorate_line ..).2, nofun⟩

/-- A handler that answers 200. -/
def okHandler : LineHandler CorsMiddleware where
  handle req := setResponse fun resp => resp.setStatusLine req.version .k200Ok (bytes "OK")
  sets := {
    returns := by
      intro req cors resp after run
      cases run
      exact ⟨rfl, nofun⟩
    throws := by
      intro req cors resp after thrown run
      cases run }

def helloRouter : Router (LineHandler CorsMiddleware) (LineHandler CorsMiddleware) :=
  Router.registerHandler {} .kGet (bytes "/hello") okHandler

def cors : CorsMiddleware := ⟨.defaultConfig, []⟩

theorem parsed_of {text path : Bytes}
    (complete : (HttpContext.parseChunks { maxBodyBytes := 1024 } ([] : Bytes) [(text, 0)]).toOption.map
      (fun result => (result.verdict, result.unconsumed, result.request.method, result.request.path)) =
        some (.complete, [], .kGet, path)) : ∃ req, Parsed req ∧ req.method = .kGet ∧ req.path = path := by
  have untimed : HttpContext.parseChunks { maxBodyBytes := 1024 } ([] : Bytes) [(text, 0)] =
      (HttpContext.parseChunks { maxBodyBytes := 1024 } ([] : Bytes) [(text, 0)]).map
        fun result => { result with request := result.request.untimed } := by
    simp only [HttpContext.parseChunks, Bind.bind, Except.bind]
    cases @HttpContext.parseRequest Bytes _ { maxBodyBytes := 1024 } (MuduoBuffer.append [] text) 0 with
    | error fault => rfl
    | ok result =>
      dsimp only
      split
      · rfl
      · split <;> rfl
  cases parsed : HttpContext.parseChunks { maxBodyBytes := 1024 } ([] : Bytes) [(text, 0)] with
  | error fault =>
    rw [parsed] at complete
    cases complete
  | ok result =>
    rcases result with ⟨verdict, request, unconsumed⟩
    rw [parsed] at complete untimed
    simp only [Except.toOption, Option.map_some, Option.some.injEq, Prod.mk.injEq] at complete
    rcases complete with ⟨rfl, rfl, method, path⟩
    have same : request = request.untimed := congrArg ParseResult.request (Except.ok.inj untimed)
    exact ⟨request, ⟨1024, _, [], by rw [parsed, ← same]⟩, method, path⟩

theorem hello_status_line : ∃ req, Parsed req ∧ req.path = bytes "/hello" ∧
    StartsWithStatusLine (responseOf [⟨corsHooks, corsHooks_decorates⟩] helloRouter req cors).appendToBuffer := by
  obtain ⟨req, parsed, method, path⟩ := @parsed_of (bytes "GET /hello HTTP/1.1\r\n\r\n") (bytes "/hello")
    (by decide)
  refine ⟨req, parsed, path, (status_line_iff _ _ req parsed _).mpr ?_⟩
  have ordinary : req.method ≠ .kOptions := by
    rw [method]
    nofun
  have found : helloRouter.route req = some (.handler okHandler, req) := by
    unfold Router.route
    rw [method, path]
    rfl
  unfold SetBeforeEnd
  simp only [List.map_cons, List.map_nil, before_ordinary cors req ordinary, found]
  rcases parsed.version with version | version
  · show req.version ≠ []
    rw [version]
    decide
  · show req.version ≠ []
    rw [version]
    decide

/-- A GET that no route answers. -/
theorem nowhere_no_status_line :
    ¬ ∀ (middlewares : List (Decorator CorsMiddleware))
        (router : Router (LineHandler CorsMiddleware) (LineHandler CorsMiddleware)) (req : HttpRequest),
      Parsed req → ∀ cors, StartsWithStatusLine (responseOf middlewares router req cors).appendToBuffer := by
  intro every
  obtain ⟨req, parsed, method, path⟩ := @parsed_of (bytes "GET /nowhere HTTP/1.1\r\n\r\n") (bytes "/nowhere")
    (by decide)
  have starts := every [⟨corsHooks, corsHooks_decorates⟩] helloRouter req parsed cors
  have ordinary : req.method ≠ .kOptions := by
    rw [method]
    nofun
  have unrouted : helloRouter.route req = none := by
    unfold Router.route searchBuckets
    rw [method, path]
    rfl
  have version := @responseOf_unrouted CorsMiddleware [⟨corsHooks, corsHooks_decorates⟩] helloRouter req req cors _
    (before_ordinary cors req ordinary) unrouted
  exact ((startsWithStatusLine_iff (Or.inl version)).mp starts).1 version

end Http
