import HttpServerApps.Http.ContextRuns
import HttpServerApps.Http.Server
import HttpServerApps.Ssl.Growth

namespace Http

open Common MuduoBuffer Middlewares Ssl

namespace HttpContext

/-- A context as a call of `parseRequest` starts with it. -/
def entry (context : HttpContext) : HttpContext := { context.untimed with parseErrorStatus := 400 }

def acceptsRequestLine (line : Bytes) : Bool :=
  match processRequestLine {} line with
  | .ok (ok, _) => ok
  | .error _ => false

theorem processVersion_verdict (request other : HttpRequest) (version : Bytes) :
    (processVersion request version).1 = (processVersion other version).1 := by
  unfold processVersion
  repeat' split
  all_goals rfl

/-- The verdict on a request line does not depend on the request it is read into. -/
theorem processRequestLine_verdict {request next : HttpRequest} {line : Bytes} {ok : Bool}
    (processed : processRequestLine request line = .ok (ok, next)) : acceptsRequestLine line = ok := by
  unfold acceptsRequestLine
  unfold processRequestLine at processed ⊢
  cases first : splitFirst space line with
  | none =>
    simp only [first] at processed ⊢
    cases processed
    rfl
  | some parts =>
    obtain ⟨m, afterMethod⟩ := parts
    by_cases free : request.method = .kInvalid
    · simp only [first, HttpRequest.setMethod, free, if_true, Bind.bind, Except.bind] at processed ⊢
      cases known : (HttpRequest.methodOf m != .kInvalid) with
      | false =>
        simp only [known, Bool.false_eq_true, if_false] at processed ⊢
        cases processed
        rfl
      | true =>
        simp only [known, if_true] at processed ⊢
        cases second : splitFirst space afterMethod with
        | none =>
          simp only [second] at processed ⊢
          cases processed
          rfl
        | some parts =>
          obtain ⟨target, version⟩ := parts
          obtain ⟨used, run⟩ := setTarget_ok { request with method := HttpRequest.methodOf m } target
          obtain ⟨fresh, freshRun⟩ :=
            setTarget_ok { ({} : HttpRequest) with method := HttpRequest.methodOf m } target
          simp only [second, run, Pure.pure, Except.pure, Except.ok.injEq] at processed
          simp only [freshRun, Pure.pure, Except.pure]
          rw [processVersion_verdict fresh used, processed]
    · simp [first, HttpRequest.setMethod, free, Bind.bind, Except.bind] at processed

/-- The first line of the buffer is a whole line that is no request line. -/
def RejectedLine (context : HttpContext) (input : Bytes) : Prop :=
  context.state = .kExpectRequestLine ∧
    ∃ offset, crlfOffset input = some offset ∧ acceptsRequestLine (input.take offset) = false

theorem RejectedLine.append {context : HttpContext} {input : Bytes} (rejected : RejectedLine context input)
    (more : Bytes) : RejectedLine context (input ++ more) := by
  obtain ⟨state, offset, found, refused⟩ := rejected
  refine ⟨state, offset, crlfOffset_append found more, ?_⟩
  rw [take_append_of_crlf found]
  exact refused

/-! The steps of the parser in each of its states. -/

theorem step_requestLine {context : HttpContext} {input : Bytes} {offset : Nat}
    (state : context.state = .kExpectRequestLine) (found : crlfOffset input = some offset) :
    (∃ fault, parser.step context input = .halt (.error fault) 0) ∨
      (∃ request, parser.step context input = .halt (.ok (false, { context with request := request })) 0 ∧
        acceptsRequestLine (input.take offset) = false) ∨
      ∃ next used, parser.step context input = .advance next used ∧ next.state = .kExpectHeaders ∧
        acceptsRequestLine (input.take offset) = true := by
  have crlf : findCRLF input = some offset := found
  simp only [parser, parserStep, waits, state, found, iteration, crlf, Bind.bind, Except.bind]
  cases line : processRequestLine context.request ((readable input).take offset) with
  | error fault => exact Or.inl ⟨fault, rfl⟩
  | ok result =>
    obtain ⟨ok, request⟩ := result
    have verdict := processRequestLine_verdict line
    change acceptsRequestLine (input.take offset) = ok at verdict
    right
    cases ok with
    | false =>
      left
      refine ⟨request, ?_, verdict⟩
      simp [Pure.pure, Except.pure]
    | true =>
      right
      exact ⟨_, _, rfl, rfl, verdict⟩

theorem endOfHeaders_failed {loop : ParseLoop Bytes} (ok : loop.ok = true)
    (failed : (endOfHeaders loop).ok = false) : (endOfHeaders loop).context.state = loop.context.state := by
  unfold endOfHeaders at failed ⊢
  dsimp only at failed ⊢
  repeat' split at failed
  all_goals first
    | (rw [ok] at failed; cases failed)
    | simp_all

theorem headerLine_failed {loop : ParseLoop Bytes} {line : Bytes} (ok : loop.ok = true)
    (failed : (headerLine loop line).ok = false) : (headerLine loop line).context.state = loop.context.state := by
  unfold headerLine at failed ⊢
  split
  · rfl
  · next none_ =>
    rw [none_] at failed
    split
    · next empty =>
      simp only [empty, if_true] at failed
      exact endOfHeaders_failed ok failed
    · rfl

theorem step_header {context : HttpContext} {input : Bytes} {offset : Nat}
    (state : context.state = .kExpectHeaders) (found : crlfOffset input = some offset)
    {after : ParseLoop Bytes} (line : headerLine { context := context, buf := input } (input.take offset) = after) :
    parser.step context input =
      if after.hasMore then .advance after.context (offset + 2)
      else .halt (.ok (after.ok, after.context)) (offset + 2) := by
  have bound := crlfOffset_bound found
  have used : input.length - (input.drop (offset + 2)).length = offset + 2 := by
    rw [List.length_drop]
    omega
  have crlf : findCRLF input = some offset := found
  simp only [parser, parserStep, waits, state, found, iteration, crlf]
  subst after
  show (if (headerLine { context := context, buf := input } (input.take offset)).hasMore = true then
      (Step.advance (headerLine { context := context, buf := input } (input.take offset)).context
        (input.length - (input.drop (offset + 2)).length) : Step HttpContext Answer)
    else .halt (.ok ((headerLine { context := context, buf := input } (input.take offset)).ok,
      (headerLine { context := context, buf := input } (input.take offset)).context))
        (input.length - (input.drop (offset + 2)).length)) = _
  rw [used]

theorem step_headers {context : HttpContext} {input : Bytes} {offset : Nat}
    (state : context.state = .kExpectHeaders) (found : crlfOffset input = some offset) :
    (∃ next, parser.step context input = .advance next (offset + 2) ∧
      (next.state = .kExpectHeaders ∨ next.state = .kExpectBody)) ∨
    ∃ ok next, parser.step context input = .halt (.ok (ok, next)) (offset + 2) ∧
      (ok = false ∧ next.state = .kExpectHeaders ∨ ok = true ∧ next.state = .kGotAll) := by
  have step := step_header state found rfl
  rw [step]
  rcases headerLine_cases { context := context, buf := input } (input.take offset) rfl rfl state with
    ⟨more, _, next, _⟩ | ⟨stop, verdict⟩
  · left
    exact ⟨_, by rw [if_pos more], next⟩
  · right
    refine ⟨_, _, by rw [if_neg (by rw [stop]; nofun)], ?_⟩
    rcases verdict with failed | done
    · exact Or.inl ⟨failed, (headerLine_failed rfl failed).trans state⟩
    · exact Or.inr done

theorem step_body {context : HttpContext} {input : Bytes} (state : context.state = .kExpectBody)
    (full : context.request.contentLength.toNat ≤ input.length) :
    ∃ next used, parser.step context input = .halt (.ok (true, next)) used ∧ next.state = .kGotAll := by
  have enough : ¬ input.length < context.request.contentLength.toNat := Nat.not_lt.mpr full
  have readable_ : ¬ readableBytes input < context.request.contentLength.toNat := enough
  simp only [parser, parserStep, waits, state, enough, iteration, readable_]
  exact ⟨_, _, rfl, rfl⟩

theorem step_waits {context : HttpContext} {input : Bytes} (waiting : waits context input = true) :
    parser.step context input = .wait := by
  simp only [parser, parserStep, waiting, if_true]

theorem step_rejected {context : HttpContext} {input : Bytes} (rejected : RejectedLine context input) :
    (∃ fault, parser.step context input = .halt (.error fault) 0) ∨
      ∃ request, parser.step context input = .halt (.ok (false, { context with request := request })) 0 := by
  obtain ⟨state, offset, found, refused⟩ := rejected
  rcases step_requestLine state found with faulty | ⟨request, halts, _⟩ | ⟨_, _, _, _, accepted⟩
  · exact Or.inl faulty
  · exact Or.inr ⟨request, halts⟩
  · rw [refused] at accepted
    cases accepted

theorem advance_state {context next : HttpContext} {input : Bytes} {used : Nat}
    (moves : parser.step context input = .advance next used) : next.state ≠ .kExpectRequestLine := by
  cases state : context.state with
  | kExpectRequestLine =>
    cases found : crlfOffset input with
    | none =>
      rw [step_waits (by simp [waits, state, found])] at moves
      cases moves
    | some offset =>
      rcases step_requestLine state found with ⟨_, halts⟩ | ⟨_, halts, _⟩ | ⟨_, _, moved, headers, _⟩
      · rw [halts] at moves
        cases moves
      · rw [halts] at moves
        cases moves
      · rw [moved] at moves
        cases moves
        rw [headers]
        decide
  | kExpectHeaders =>
    cases found : crlfOffset input with
    | none =>
      rw [step_waits (by simp [waits, state, found])] at moves
      cases moves
    | some offset =>
      rcases step_headers state found with ⟨_, moved, headers | body⟩ | ⟨_, _, halts, _⟩
      · rw [moved] at moves
        cases moves
        rw [headers]
        decide
      · rw [moved] at moves
        cases moves
        rw [body]
        decide
      · rw [halts] at moves
        cases moves
  | kExpectBody =>
    by_cases full : context.request.contentLength.toNat ≤ input.length
    · obtain ⟨_, _, halts, _⟩ := step_body state full
      rw [halts] at moves
      cases moves
    · rw [step_waits (by simp [waits, state]; omega)] at moves
      cases moves
  | kGotAll =>
    simp only [parser, parserStep, waits, state, iteration] at moves
    cases moves
    rw [state]
    decide

theorem halt_failed {context next : HttpContext} {input : Bytes} {used : Nat}
    (halts : parser.step context input = .halt (.ok (false, next)) used) :
    next.state = .kExpectHeaders ∨ RejectedLine context input := by
  cases state : context.state with
  | kExpectRequestLine =>
    cases found : crlfOffset input with
    | none =>
      rw [step_waits (by simp [waits, state, found])] at halts
      cases halts
    | some offset =>
      rcases step_requestLine state found with ⟨_, faulty⟩ | ⟨_, _, refused⟩ | ⟨_, _, moves, _⟩
      · rw [faulty] at halts
        cases halts
      · exact Or.inr ⟨state, offset, found, refused⟩
      · rw [moves] at halts
        cases halts
  | kExpectHeaders =>
    cases found : crlfOffset input with
    | none =>
      rw [step_waits (by simp [waits, state, found])] at halts
      cases halts
    | some offset =>
      rcases step_headers state found with ⟨_, moves, _⟩ | ⟨_, _, same, ⟨_, headers⟩ | ⟨rfl, _⟩⟩
      · rw [moves] at halts
        cases halts
      · rw [same] at halts
        cases halts
        exact Or.inl headers
      · rw [same] at halts
        cases halts
  | kExpectBody =>
    by_cases full : context.request.contentLength.toNat ≤ input.length
    · obtain ⟨_, _, same, _⟩ := step_body state full
      rw [same] at halts
      cases halts
    · rw [step_waits (by simp [waits, state]; omega)] at halts
      cases halts
  | kGotAll =>
    simp only [parser, parserStep, waits, state, iteration] at halts
    cases halts

/-- A rejected request line, or the header section: where `parseRequest` can fail. -/
theorem runs_failed {context next : HttpContext} {input left : Bytes} {verdict : Verdict HttpContext Answer}
    (run : parser.Runs context input verdict left) (failed : verdict = .halted (.ok (false, next))) :
    next.state = .kExpectHeaders ∨ RejectedLine context input := by
  induction run with
  | wait => cases failed
  | halt halts =>
    cases failed
    exact halt_failed halts
  | advance moves _ ih =>
    rcases ih failed with headers | ⟨state, _⟩
    · exact Or.inl headers
    · exact absurd state (advance_state moves)

/-! Calls of `parseRequest`. -/

theorem parse_failed {context next : HttpContext} {buf left : Bytes} {receiveTime : Timestamp}
    (call : parseRequest context buf receiveTime = .ok (false, next, left)) :
    next.state = .kExpectHeaders ∨ RejectedLine context buf := by
  have open_ : context.state ≠ .kGotAll := by
    intro gotAll
    rw [parseRequest_gotAll gotAll] at call
    cases call
  have run := parseRequest_runs call open_
  rcases runs_failed run rfl with headers | rejected
  · exact Or.inl headers
  · exact Or.inr rejected

theorem parse_rejected {context next : HttpContext} {buf left : Bytes} {receiveTime : Timestamp} {ok : Bool}
    (rejected : RejectedLine context buf) (call : parseRequest context buf receiveTime = .ok (ok, next, left)) :
    ok = false ∧ left = buf ∧ next.state = .kExpectRequestLine := by
  have open_ : context.state ≠ .kGotAll := by
    rw [rejected.1]
    nofun
  have run := parseRequest_runs call open_
  have again : RejectedLine (entry context) buf := rejected
  rcases step_rejected again with ⟨fault, halts⟩ | ⟨request, halts⟩
  · obtain ⟨verdict, _⟩ := run.deterministic (.halt halts)
    unfold callVerdict at verdict
    split at verdict <;> cases verdict
  · obtain ⟨verdict, same⟩ := run.deterministic (.halt halts)
    unfold callVerdict at verdict
    split at verdict
    · cases verdict
    · simp only [Verdict.halted.injEq, Except.ok.injEq, Prod.mk.injEq] at verdict
      obtain ⟨failed, kept⟩ := verdict
      refine ⟨failed, same, ?_⟩
      rw [← untimed_state, kept]
      exact rejected.1

theorem call_of_run {context : HttpContext} (clean : Clean context) {input rest : Bytes}
    {verdict : Verdict HttpContext Answer} (run : parser.Runs (entry context) input verdict rest)
    (receiveTime : Timestamp) :
    ∃ ok next, parseRequest context input receiveTime = .ok (ok, next, rest) ∧ callVerdict ok next = verdict := by
  obtain ⟨ok, next, left, call, runs, _⟩ := parseRequest_total context input receiveTime clean
  obtain ⟨same, rfl⟩ := runs.deterministic run
  exact ⟨ok, next, call, same⟩

theorem callVerdict_complete {ok : Bool} {next seen : HttpContext}
    (verdict : callVerdict ok next = .halted (.ok (true, seen))) : ok = true ∧ next.gotAll = true := by
  unfold callVerdict at verdict
  split at verdict
  · cases verdict
  · next halted =>
    cases verdict
    exact ⟨rfl, by simpa [gotAll] using halted⟩

theorem callVerdict_failed {ok : Bool} {next seen : HttpContext}
    (verdict : callVerdict ok next = .halted (.ok (false, seen))) : ok = false ∧ next.untimed = seen := by
  unfold callVerdict at verdict
  split at verdict
  · cases verdict
  · cases verdict
    exact ⟨rfl, rfl⟩

theorem callVerdict_waiting {ok : Bool} {next seen : HttpContext}
    (verdict : callVerdict ok next = .suspended seen) :
    ok = true ∧ next.gotAll = false ∧ next.untimed = seen := by
  unfold callVerdict at verdict
  split at verdict
  · next suspended =>
    cases verdict
    exact ⟨suspended.1, by simpa [gotAll] using suspended.2, rfl⟩
  · cases verdict

/-! After a header line that failed, the connection can still be made to complete a request. -/

/-- Nonempty deliveries lead from here to a complete request, over parse errors or not. -/
inductive Revives : HttpContext → Bytes → Prop
  | complete {context next pending left} (data : Bytes) (arrives : data ≠ [])
      (reading : context.state = .kExpectHeaders ∨ context.state = .kExpectBody)
      (run : parser.Runs context (pending ++ data) (.halted (.ok (true, next))) left) : Revives context pending
  | failed {context next pending left} (data : Bytes) (arrives : data ≠ [])
      (reading : context.state = .kExpectHeaders ∨ context.state = .kExpectBody)
      (run : parser.Runs context (pending ++ data) (.halted (.ok (false, next))) left)
      (later : Revives { next with parseErrorStatus := 400 } left) : Revives context pending
  | waiting {context next pending left} (data : Bytes) (arrives : data ≠ [])
      (reading : context.state = .kExpectHeaders ∨ context.state = .kExpectBody)
      (run : parser.Runs context (pending ++ data) (.suspended next) left)
      (later : Revives { next with parseErrorStatus := 400 } left) : Revives context pending

theorem Revives.advance {context next : HttpContext} {pending first left : Bytes} {used : Nat}
    (reading : context.state = .kExpectHeaders ∨ context.state = .kExpectBody)
    (moves : parser.step context (pending ++ first) = .advance next used)
    (rest : (pending ++ first).drop used = left) (revives : Revives next left) : Revives context pending := by
  have kept := parser.advance_used _ _ _ _ moves
  have extend : ∀ {data verdict remaining}, parser.Runs next (left ++ data) verdict remaining →
      parser.Runs context (pending ++ (first ++ data)) verdict remaining := by
    intro data verdict remaining run
    rw [← List.append_assoc]
    refine .advance (Resumable.advance_extend moves data) ?_
    rw [List.drop_append_of_le_length kept, rest]
    exact run
  cases revives with
  | complete data arrives _ run =>
    exact .complete (first ++ data) (by simp [arrives]) reading (extend run)
  | failed data arrives _ run later =>
    exact .failed (first ++ data) (by simp [arrives]) reading (extend run) later
  | waiting data arrives _ run later =>
    exact .waiting (first ++ data) (by simp [arrives]) reading (extend run) later

theorem revives_body {context : HttpContext} (state : context.state = .kExpectBody) (pending : Bytes) :
    Revives context pending := by
  let data : Bytes := List.replicate (context.request.contentLength.toNat + 1) 97
  have full : context.request.contentLength.toNat ≤ (pending ++ data).length := by
    simp only [data, List.length_append, List.length_replicate]
    omega
  obtain ⟨next, used, halts, _⟩ := step_body state full
  exact .complete data (List.cons_ne_nil _ _) (Or.inr state) (.halt halts)

theorem revives_empty {context : HttpContext} (state : context.state = .kExpectHeaders) : Revives context [] := by
  let data : Bytes := bytes "content-length:0\r\n"
  let announced : HttpContext :=
    { context with request := context.request.addHeader (bytes "content-length") (bytes "0") }
  have found : crlfOffset data = some 16 := by decide
  have split : splitFirst 58 (data.take 16) = some (bytes "content-length", bytes "0") := by decide
  have line : headerLine { context := context, buf := data } (data.take 16) =
      { context := announced, buf := data } := by
    simp only [headerLine, split]
    rfl
  have moves : parser.step context data = .advance announced 18 := step_header state found line
  have stateNext : announced.state = .kExpectHeaders := state
  have value : announced.request.getHeader (bytes "Content-Length") = bytes "0" := by
    have lower : toLowerAsciiInPlace (bytes "Content-Length") = toLowerAsciiInPlace (bytes "content-length") := by
      decide
    have trimmed : (((bytes "0").dropWhile isspace).reverse.dropWhile isspace).reverse = bytes "0" := by
      decide
    simp only [HttpRequest.getHeader, announced, HttpRequest.addHeader, lower, trimmed, Dict.find_insert_self,
      Option.getD_some]
  have zero : fromChars (bytes "0") = (.ok, 0, []) := by decide
  have bound : ¬ (0 : UInt64) > announced.maxBodyBytes := by
    rw [gt_iff_lt, UInt64.lt_iff_toNat_lt]
    exact Nat.not_lt_zero _
  have ends : ∃ next, parser.step announced [CR, LF] = .halt (.ok (true, next)) 2 := by
    have step := @step_header announced [CR, LF] 0 stateNext rfl _ rfl
    simp only [headerLine, endOfHeaders, List.take_zero, splitFirst, value, zero] at step
    by_cases withBody : announced.request.method = .kPost ∨ announced.request.method = .kPut
    · simp only [withBody, bound] at step
      exact ⟨_, step⟩
    · simp only [withBody] at step
      exact ⟨_, step⟩
  obtain ⟨next, halts⟩ := ends
  have rest : (data ++ [CR, LF]).drop 18 = [CR, LF] := by decide
  have finish : parser.Runs announced ((data ++ [CR, LF]).drop 18) (.halted (.ok (true, next))) [] := by
    rw [rest]
    exact .halt halts
  exact .complete (data ++ [CR, LF]) (by simp) (Or.inl state)
    (.advance (Resumable.advance_extend moves [CR, LF]) finish)

theorem crlfOffset_closed {text : Bytes} (open_ : crlfOffset text = none) :
    crlfOffset (text ++ [CR, LF]) = some text.length := by
  induction text with
  | nil => rfl
  | cons a tail ih =>
    cases tail with
    | nil =>
      have plain : ¬ (a = CR ∧ CR = LF) := by
        intro given
        obtain ⟨_, same⟩ := given
        cases same
      simp only [List.cons_append, List.nil_append, crlfOffset, plain]
      rfl
    | cons b rest =>
      simp only [crlfOffset] at open_
      split at open_
      · cases open_
      · next plain =>
        have later := ih (Option.map_eq_none_iff.mp open_)
        simp only [List.cons_append] at later ⊢
        simp only [crlfOffset, plain, if_false, later, Option.map_some, List.length_cons]

/-- The step over a line that some bytes complete: what is left is no longer than what was pending. -/
theorem Revives.line {context : HttpContext} {pending first : Bytes} {offset : Nat}
    (state : context.state = .kExpectHeaders) (arrives : first ≠ [])
    (found : crlfOffset (pending ++ first) = some offset)
    (later : ∀ next : HttpContext, next.state = .kExpectHeaders ∨ next.state = .kExpectBody →
      Revives next ((pending ++ first).drop (offset + 2))) : Revives context pending := by
  rcases step_headers state found with ⟨next, moves, reading⟩ | ⟨ok, next, halts, ⟨rfl, headers⟩ | ⟨rfl, _⟩⟩
  · exact .advance (Or.inl state) moves rfl (later next reading)
  · exact .failed first arrives (Or.inl state) (.halt halts) (later _ (Or.inl headers))
  · exact .complete first arrives (Or.inl state) (.halt halts)

/-- By induction on the pending bytes: one byte more is enough where a whole line is pending, and its
    end where none is. -/
theorem revives {context : HttpContext} (reading : context.state = .kExpectHeaders ∨ context.state = .kExpectBody)
    (pending : Bytes) : Revives context pending := by
  induction size : pending.length using Nat.strong_induction_on generalizing context pending with
  | _ n ih =>
    rcases reading with state | state
    · cases found : crlfOffset pending with
      | some offset =>
        have whole := crlfOffset_append found [97]
        have bound := crlfOffset_bound whole
        apply Revives.line state (List.cons_ne_nil 97 []) whole
        intro next reading
        refine ih _ ?_ reading _ rfl
        rw [List.length_drop]
        simp only [List.length_append, List.length_cons, List.length_nil] at bound ⊢
        omega
      | none =>
        by_cases empty : pending = []
        · subst empty
          exact revives_empty state
        · have positive := List.length_pos_iff.mpr empty
          apply Revives.line state (List.cons_ne_nil CR [LF]) (crlfOffset_closed found)
          intro next reading
          refine ih _ ?_ reading _ rfl
          rw [List.length_drop]
          simp only [List.length_append, List.length_cons, List.length_nil]
          omega
    · exact revives_body state pending

end HttpContext

end Http
