import HttpServerApps.Common.Resumable
import HttpServerApps.Http.Context
import HttpServerApps.Http.QueryString

namespace Http

open Common MuduoBuffer

def HttpRequest.untimed (request : HttpRequest) : HttpRequest := request.setReceiveTime 0

namespace HttpContext

def untimed (context : HttpContext) : HttpContext :=
  { context with request := context.request.untimed }

@[simp] theorem untimed_state (context : HttpContext) : context.untimed.state = context.state := rfl

/-! The receive time is stored and never looked at. -/

theorem setTarget_untimed (request : HttpRequest) (target : Bytes) :
    setTarget request.untimed target = (setTarget request target).map HttpRequest.untimed := by
  unfold setTarget
  cases splitFirst 63 target with
  | none => rfl
  | some parts =>
    obtain ⟨path, query⟩ := parts
    simp only [setQueryParameters_eq]
    rfl

theorem setTarget_ok (request : HttpRequest) (target : Bytes) :
    ∃ result, setTarget request target = .ok result := by
  unfold setTarget
  cases splitFirst 63 target with
  | none => exact ⟨_, rfl⟩
  | some parts =>
    exact ⟨_, setQueryParameters_eq (request.setPath parts.1) parts.2⟩

theorem processVersion_untimed (request : HttpRequest) (version : Bytes) :
    processVersion request.untimed version =
      ((processVersion request version).1, (processVersion request version).2.untimed) := by
  unfold processVersion
  split
  · split
    · rfl
    · split <;> rfl
  · rfl

theorem processRequestLine_untimed (request : HttpRequest) (line : Bytes) :
    processRequestLine request.untimed line =
      (processRequestLine request line).map fun result => (result.1, result.2.untimed) := by
  unfold processRequestLine
  cases splitFirst space line with
  | none => rfl
  | some parts =>
    obtain ⟨m, afterMethod⟩ := parts
    by_cases free : request.method = .kInvalid
    · have freeUntimed : request.untimed.method = .kInvalid := free
      simp only [HttpRequest.setMethod, free, freeUntimed, ↓reduceIte, Bind.bind, Except.bind]
      by_cases known : (HttpRequest.methodOf m != .kInvalid) = true
      · simp only [known, ↓reduceIte]
        cases splitFirst space afterMethod with
        | none => rfl
        | some parts =>
          obtain ⟨target, version⟩ := parts
          have retarget := setTarget_untimed { request with method := HttpRequest.methodOf m } target
          obtain ⟨result, run⟩ := setTarget_ok { request with method := HttpRequest.methodOf m } target
          rw [run] at retarget
          change setTarget { request.untimed with method := HttpRequest.methodOf m } target =
            .ok result.untimed at retarget
          simp only [run, retarget, Pure.pure, Except.pure, Except.map, processVersion_untimed]
      · simp only [known]
        rfl
    · have busyUntimed : ¬ request.untimed.method = .kInvalid := free
      simp only [HttpRequest.setMethod, free, busyUntimed, ↓reduceIte]
      rfl

/-! The loop over any buffer is the loop over its readable bytes. -/

def ParseLoop.view {Buffer : Type} [MuduoBuffer Buffer] (loop : ParseLoop Buffer) : ParseLoop Bytes :=
  { context := loop.context.untimed, buf := readable loop.buf, ok := loop.ok, hasMore := loop.hasMore }

theorem endOfHeaders_view {Buffer : Type} [MuduoBuffer Buffer] (loop : ParseLoop Buffer) :
    endOfHeaders loop.view = (endOfHeaders loop).view := by
  have sameMethod : loop.view.context.request.method = loop.context.request.method := rfl
  have sameHeader : loop.view.context.request.getHeader (bytes "Content-Length") =
      loop.context.request.getHeader (bytes "Content-Length") := rfl
  have sameMax : loop.view.context.maxBodyBytes = loop.context.maxBodyBytes := rfl
  unfold endOfHeaders
  simp only [sameMethod, sameHeader, sameMax]
  split
  · split
    · split
      · rfl
      · split
        · rfl
        · simp only [HttpRequest.setContentLength]
          by_cases positive : (fromChars (loop.context.request.getHeader
            (bytes "Content-Length"))).2.1 > 0 <;> simp only [positive, ↓reduceIte] <;> rfl
    · rfl
  · rfl

theorem headerLine_view {Buffer : Type} [MuduoBuffer Buffer] (loop : ParseLoop Buffer)
    (line : Bytes) : headerLine loop.view line = (headerLine loop line).view := by
  unfold headerLine
  cases splitFirst 58 line with
  | some parts => rfl
  | none =>
    by_cases blank : line = []
    · simp only [blank, ↓reduceIte]
      exact endOfHeaders_view loop
    · simp only [blank, ↓reduceIte]
      rfl

theorem iteration_view {Buffer : Type} [MuduoBuffer Buffer] (receiveTime : Timestamp)
    (loop : ParseLoop Buffer) :
    iteration 0 loop.view = (iteration receiveTime loop).map ParseLoop.view := by
  have sameState : loop.view.context.state = loop.context.state := rfl
  have sameCRLF : findCRLF loop.view.buf = findCRLF loop.buf := (findCRLF_offset loop.buf).symm
  have sameText : readable loop.view.buf = readable loop.buf := rfl
  unfold iteration
  rw [sameState]
  cases loop.context.state with
  | kExpectRequestLine =>
    simp only [sameCRLF, sameText]
    cases found : findCRLF loop.buf with
    | none => rfl
    | some crlf =>
      rw [findCRLF_offset] at found
      have line := processRequestLine_untimed loop.context.request ((readable loop.buf).take crlf)
      have retrieved := readable_retrieve loop.buf _ (crlfOffset_bound found)
      have same : loop.view.context.request = loop.context.request.untimed := rfl
      simp only [same, line]
      cases processRequestLine loop.context.request ((readable loop.buf).take crlf) with
      | error fault => rfl
      | ok result =>
        obtain ⟨accepted, request⟩ := result
        cases accepted with
        | false => rfl
        | true =>
          simp only [Except.map, Bind.bind, Except.bind, ↓reduceIte, Pure.pure, Except.pure,
            ParseLoop.view, retrieveUntil, retrieved]
          rfl
  | kExpectHeaders =>
    simp only [sameCRLF, sameText]
    cases found : findCRLF loop.buf with
    | none => rfl
    | some crlf =>
      rw [findCRLF_offset] at found
      have retrieved := readable_retrieve loop.buf _ (crlfOffset_bound found)
      have lines := headerLine_view loop ((readable loop.buf).take crlf)
      simp only [lines, Except.map]
      simp only [ParseLoop.view, retrieveUntil, retrieved]
      rfl
  | kExpectBody =>
    have sameLength : loop.view.context.request.contentLength =
      loop.context.request.contentLength := rfl
    have sameBytes : readableBytes loop.view.buf = readableBytes loop.buf := rfl
    simp only [sameLength, sameBytes, sameText]
    by_cases short : readableBytes loop.buf < loop.context.request.contentLength.toNat
    · simp only [short, ↓reduceIte]
      rfl
    · have retrieved := readable_retrieve loop.buf _ (Nat.le_of_not_lt short)
      simp only [short, ↓reduceIte, Except.map, ParseLoop.view, retrieved]
      rfl
  | kGotAll => rfl

theorem whileLoop_view {Buffer : Type} [MuduoBuffer Buffer] (receiveTime : Timestamp) (fuel : Nat)
    (loop : ParseLoop Buffer) :
    whileLoop 0 fuel loop.view = (whileLoop receiveTime fuel loop).map ParseLoop.view := by
  have sameMore : loop.view.hasMore = loop.hasMore := rfl
  induction fuel generalizing loop with
  | zero =>
    simp only [whileLoop, sameMore]
    by_cases more : loop.hasMore = true <;> simp only [more] <;> rfl
  | succ fuel ih =>
    simp only [whileLoop, sameMore]
    by_cases more : loop.hasMore = true
    · simp only [more, ↓reduceIte, iteration_view receiveTime loop]
      cases iteration receiveTime loop with
      | error fault => rfl
      | ok next => exact ih next rfl
    · simp only [more]
      rfl

/-! What one iteration can do. -/

def waits (context : HttpContext) (input : Bytes) : Bool :=
  match context.state with
  | .kExpectRequestLine => crlfOffset input = none
  | .kExpectHeaders => crlfOffset input = none
  | .kExpectBody => input.length < context.request.contentLength.toNat
  | .kGotAll => false

/-- The loop goes on, past a CRLF at least; the status for a parse error is untouched. -/
structure Advances (loop next : ParseLoop Bytes) : Prop where
  more : next.hasMore = true
  ok : next.ok = true
  used : ∃ used, 2 ≤ used ∧ used ≤ loop.buf.length ∧ next.buf = loop.buf.drop used
  state : next.context.state = .kExpectHeaders ∨ next.context.state = .kExpectBody
  status : next.context.parseErrorStatus = loop.context.parseErrorStatus

structure Halts (loop next : ParseLoop Bytes) : Prop where
  stop : next.hasMore = false
  used : ∃ used, used ≤ loop.buf.length ∧ next.buf = loop.buf.drop used
  verdict : next.ok = false ∨ next.ok = true ∧ next.context.state = .kGotAll

theorem endOfHeaders_cases (loop : ParseLoop Bytes) (ok : loop.ok = true)
    (more : loop.hasMore = true) :
    ((endOfHeaders loop).hasMore = true ∧ (endOfHeaders loop).ok = true ∧
      (endOfHeaders loop).context.state = .kExpectBody ∧
      (endOfHeaders loop).context.parseErrorStatus = loop.context.parseErrorStatus) ∨
    ((endOfHeaders loop).hasMore = false ∧ ((endOfHeaders loop).ok = false ∨
      (endOfHeaders loop).ok = true ∧ (endOfHeaders loop).context.state = .kGotAll)) := by
  unfold endOfHeaders
  dsimp only
  split
  · split
    · split
      · exact Or.inr ⟨rfl, Or.inl rfl⟩
      · split
        · exact Or.inr ⟨rfl, Or.inl rfl⟩
        · split
          · exact Or.inl ⟨more, ok, rfl, rfl⟩
          · exact Or.inr ⟨rfl, Or.inr ⟨ok, rfl⟩⟩
    · exact Or.inr ⟨rfl, Or.inl rfl⟩
  · exact Or.inr ⟨rfl, Or.inr ⟨ok, rfl⟩⟩

theorem headerLine_cases (loop : ParseLoop Bytes) (line : Bytes) (ok : loop.ok = true)
    (more : loop.hasMore = true) (state : loop.context.state = .kExpectHeaders) :
    ((headerLine loop line).hasMore = true ∧ (headerLine loop line).ok = true ∧
      ((headerLine loop line).context.state = .kExpectHeaders ∨
        (headerLine loop line).context.state = .kExpectBody) ∧
      (headerLine loop line).context.parseErrorStatus = loop.context.parseErrorStatus) ∨
    ((headerLine loop line).hasMore = false ∧ ((headerLine loop line).ok = false ∨
      (headerLine loop line).ok = true ∧ (headerLine loop line).context.state = .kGotAll)) := by
  unfold headerLine
  split
  · exact Or.inl ⟨more, ok, Or.inl state, rfl⟩
  · split
    · rcases endOfHeaders_cases loop ok more with ⟨more, ok, state, status⟩ | halts
      · exact Or.inl ⟨more, ok, Or.inr state, status⟩
      · exact Or.inr halts
    · exact Or.inr ⟨rfl, Or.inl rfl⟩

theorem iteration_cases {loop next : ParseLoop Bytes} (run : iteration 0 loop = .ok next)
    (ok : loop.ok = true) (more : loop.hasMore = true) (state : loop.context.state ≠ .kGotAll) :
    (waits loop.context loop.buf = true ∧ next = { loop with hasMore := false }) ∨
    (waits loop.context loop.buf = false ∧ (Advances loop next ∨ Halts loop next)) := by
  cases shape : loop.context.state with
  | kExpectRequestLine =>
    simp only [iteration, shape, findCRLF] at run
    simp only [waits, shape]
    cases found : crlfOffset loop.buf with
    | none =>
      simp only [found, Except.ok.injEq] at run
      exact Or.inl ⟨rfl, run.symm⟩
    | some crlf =>
      have bound := crlfOffset_bound found
      refine Or.inr ⟨rfl, ?_⟩
      simp only [found, Bind.bind, Except.bind] at run
      cases line : processRequestLine loop.context.request ((readable loop.buf).take crlf) with
      | error fault => simp [line] at run
      | ok result =>
        obtain ⟨accepted, request⟩ := result
        cases accepted <;>
          simp only [line, Bool.false_eq_true, ↓reduceIte, Pure.pure, Except.pure,
            Except.ok.injEq] at run <;> subst next
        · exact Or.inr ⟨rfl, ⟨0, Nat.zero_le _, rfl⟩, Or.inl rfl⟩
        · exact Or.inl ⟨more, ok, ⟨crlf + 2, by omega, bound, rfl⟩, Or.inl rfl, rfl⟩
  | kExpectHeaders =>
    simp only [iteration, shape, findCRLF] at run
    simp only [waits, shape]
    cases found : crlfOffset loop.buf with
    | none =>
      simp only [found, Except.ok.injEq] at run
      exact Or.inl ⟨rfl, run.symm⟩
    | some crlf =>
      have bound := crlfOffset_bound found
      refine Or.inr ⟨rfl, ?_⟩
      simp only [found, Except.ok.injEq] at run
      subst next
      rcases headerLine_cases loop ((readable loop.buf).take crlf) ok more shape with
        ⟨more, ok, state, status⟩ | ⟨stop, verdict⟩
      · exact Or.inl ⟨more, ok, ⟨crlf + 2, by omega, bound, rfl⟩, state, status⟩
      · exact Or.inr ⟨stop, ⟨crlf + 2, bound, rfl⟩, verdict⟩
  | kExpectBody =>
    simp only [iteration, shape] at run
    simp only [waits, shape]
    by_cases short : loop.buf.length < loop.context.request.contentLength.toNat
    · have shortBuffer : readableBytes loop.buf < loop.context.request.contentLength.toNat := short
      simp only [shortBuffer, ↓reduceIte, Except.ok.injEq] at run
      refine Or.inl ⟨by simp [short], ?_⟩
      rw [← run, ← ok]
    · have fullBuffer : ¬ readableBytes loop.buf < loop.context.request.contentLength.toNat := short
      simp only [fullBuffer, ↓reduceIte, Except.ok.injEq] at run
      subst next
      exact Or.inr ⟨by simp [short],
        Or.inr ⟨rfl, ⟨_, Nat.le_of_not_lt short, rfl⟩, Or.inr ⟨ok, rfl⟩⟩⟩
  | kGotAll => exact absurd shape state

/-! Later input does not change an iteration that has enough of it. -/

def ParseLoop.extend (loop : ParseLoop Bytes) (more : Bytes) : ParseLoop Bytes :=
  { loop with buf := loop.buf ++ more }

theorem endOfHeaders_extend (loop : ParseLoop Bytes) (more : Bytes) :
    endOfHeaders (loop.extend more) = (endOfHeaders loop).extend more := by
  unfold endOfHeaders ParseLoop.extend
  dsimp only
  split
  · split
    · split
      · rfl
      · split
        · rfl
        · split <;> rfl
    · rfl
  · rfl

theorem headerLine_extend (loop : ParseLoop Bytes) (line more : Bytes) :
    headerLine (loop.extend more) line = (headerLine loop line).extend more := by
  unfold headerLine
  split
  · rfl
  · split
    · exact endOfHeaders_extend loop more
    · rfl

theorem iteration_extend (loop : ParseLoop Bytes) (more : Bytes)
    (enough : waits loop.context loop.buf = false) :
    iteration 0 (loop.extend more) = (iteration 0 loop).map (·.extend more) := by
  have sameContext : (loop.extend more).context = loop.context := rfl
  have sameBuf : (loop.extend more).buf = loop.buf ++ more := rfl
  cases state : loop.context.state with
  | kExpectRequestLine =>
    simp only [waits, state, decide_eq_false_iff_not] at enough
    obtain ⟨crlf, found⟩ := Option.ne_none_iff_exists'.mp enough
    simp only [iteration, sameContext, sameBuf, state, findCRLF, readable, id, found,
      crlfOffset_append found more, take_append_of_crlf found more, retrieveUntil, retrieve,
      drop_append_of_crlf found more, Bind.bind, Except.bind]
    cases processRequestLine loop.context.request (loop.buf.take crlf) with
    | error fault => rfl
    | ok result =>
      obtain ⟨accepted, request⟩ := result
      cases accepted <;> rfl
  | kExpectHeaders =>
    simp only [waits, state, decide_eq_false_iff_not] at enough
    obtain ⟨crlf, found⟩ := Option.ne_none_iff_exists'.mp enough
    simp only [iteration, sameContext, sameBuf, state, findCRLF, readable, id, found,
      crlfOffset_append found more, take_append_of_crlf found more, retrieveUntil, retrieve,
      drop_append_of_crlf found more, headerLine_extend, Except.map]
    rfl
  | kExpectBody =>
    simp only [waits, state, decide_eq_false_iff_not, Nat.not_lt] at enough
    have full : ¬ loop.buf.length < loop.context.request.contentLength.toNat := by omega
    have fullMore : ¬ (loop.buf ++ more).length < loop.context.request.contentLength.toNat := by
      rw [List.length_append]
      omega
    simp only [iteration, sameContext, sameBuf, state, readableBytes, readable, id, full, fullMore,
      ↓reduceIte, retrieve, List.take_append_of_le_length enough,
      List.drop_append_of_le_length enough]
    rfl
  | kGotAll =>
    simp only [iteration, sameContext, state]
    rfl

theorem waits_extend (context : HttpContext) (input more : Bytes)
    (enough : waits context input = false) : waits context (input ++ more) = false := by
  unfold waits at enough ⊢
  split at enough
  all_goals simp only [decide_eq_false_iff_not] at enough ⊢
  · obtain ⟨crlf, found⟩ := Option.ne_none_iff_exists'.mp enough
    simp [crlfOffset_append found more]
  · obtain ⟨crlf, found⟩ := Option.ne_none_iff_exists'.mp enough
    simp [crlfOffset_append found more]
  · rw [List.length_append]
    omega

/-! The loop is a resumable parser. -/

/-- What `parseRequest` answers when it does not ask for more: the value it returns and the
    context it leaves. -/
abbrev Answer := Except Fault (Bool × HttpContext)

def parserStep (context : HttpContext) (input : Bytes) : Step HttpContext Answer :=
  if waits context input then .wait
  else
    match iteration 0 { context := context, buf := input : ParseLoop Bytes } with
    | .error fault => .halt (.error fault) 0
    | .ok next =>
      if next.hasMore then .advance next.context (input.length - next.buf.length)
      else .halt (.ok (next.ok, next.context)) (input.length - next.buf.length)

theorem parserStep_used {context : HttpContext} {input : Bytes} {used : Nat} :
    (∀ next, parserStep context input = .advance next used → used ≤ input.length) ∧
      (∀ answer, parserStep context input = .halt answer used → used ≤ input.length) := by
  unfold parserStep
  split
  · simp
  · split
    · apply And.intro
      · intro next moves
        cases moves
      · intro answer halts
        cases halts
        exact Nat.zero_le _
    · split
      · apply And.intro
        · intro next moves
          cases moves
          exact Nat.sub_le _ _
        · intro answer halts
          cases halts
      · apply And.intro
        · intro next moves
          cases moves
        · intro answer halts
          cases halts
          exact Nat.sub_le _ _

theorem parserStep_stable (context : HttpContext) (input more : Bytes)
    (moves : parserStep context input ≠ .wait) :
    parserStep context (input ++ more) = parserStep context input := by
  have enough : waits context input = false := by
    cases waiting : waits context input with
    | true => exact absurd (by simp [parserStep, waiting]) moves
    | false => rfl
  have extended := iteration_extend { context := context, buf := input } more enough
  simp only [ParseLoop.extend] at extended
  simp only [parserStep, enough, waits_extend context input more enough, Bool.false_eq_true,
    ↓reduceIte, extended]
  cases iteration 0 { context := context, buf := input : ParseLoop Bytes } with
  | error fault => rfl
  | ok next => simp only [Except.map, List.length_append, Nat.add_sub_add_right]

def parser : Resumable HttpContext Answer UInt8 where
  step := parserStep
  advance_used _ _ next _ moves := parserStep_used.1 next moves
  halt_used _ _ answer _ halts := parserStep_used.2 answer halts
  stable := parserStep_stable

def verdictOf (loop : ParseLoop Bytes) : Verdict HttpContext Answer :=
  if loop.ok = true ∧ loop.context.state ≠ .kGotAll then .suspended loop.context
  else .halted (.ok (loop.ok, loop.context))

theorem whileLoop_stopped {fuel : Nat} {loop final : ParseLoop Bytes}
    (run : whileLoop 0 fuel loop = .ok final) (stop : loop.hasMore = false) : final = loop := by
  cases fuel <;> simp only [whileLoop, stop, Bool.false_eq_true, ↓reduceIte, Except.ok.injEq] at run <;>
    exact run.symm

theorem started_eq {loop : ParseLoop Bytes} (ok : loop.ok = true) (more : loop.hasMore = true) :
    ({ context := loop.context, buf := loop.buf } : ParseLoop Bytes) = loop := by
  cases loop
  simp only at ok more
  subst ok more
  rfl

theorem parserStep_advances {loop next : ParseLoop Bytes} (run : iteration 0 loop = .ok next)
    (ok : loop.ok = true) (more : loop.hasMore = true) (enough : waits loop.context loop.buf = false)
    (advances : Advances loop next) :
    ∃ used, parser.step loop.context loop.buf = .advance next.context used ∧
      loop.buf.drop used = next.buf := by
  obtain ⟨used, _, bound, shape⟩ := advances.used
  have length : next.buf.length = loop.buf.length - used := by rw [shape, List.length_drop]
  have same := started_eq ok more
  refine ⟨loop.buf.length - next.buf.length, ?_, ?_⟩
  · simp only [parser, parserStep, enough, Bool.false_eq_true, ↓reduceIte, same, run, advances.more]
  · rw [shape, List.length_drop]
    congr 1
    omega

theorem parserStep_halts {loop next : ParseLoop Bytes} (run : iteration 0 loop = .ok next)
    (ok : loop.ok = true) (more : loop.hasMore = true) (enough : waits loop.context loop.buf = false)
    (halts : Halts loop next) :
    ∃ used, parser.step loop.context loop.buf = .halt (.ok (next.ok, next.context)) used ∧
      loop.buf.drop used = next.buf := by
  obtain ⟨used, bound, shape⟩ := halts.used
  have length : next.buf.length = loop.buf.length - used := by rw [shape, List.length_drop]
  have same := started_eq ok more
  refine ⟨loop.buf.length - next.buf.length, ?_, ?_⟩
  · simp only [parser, parserStep, enough, Bool.false_eq_true, ↓reduceIte, same, run, halts.stop]
  · rw [shape, List.length_drop]
    congr 1
    omega

theorem whileLoop_runs {fuel : Nat} {loop final : ParseLoop Bytes}
    (run : whileLoop 0 fuel loop = .ok final) (ok : loop.ok = true) (more : loop.hasMore = true)
    (state : loop.context.state ≠ .kGotAll) :
    parser.Runs loop.context loop.buf (verdictOf final) final.buf := by
  induction fuel generalizing loop with
  | zero => simp [whileLoop, more] at run
  | succ fuel ih =>
    simp only [whileLoop, more, ↓reduceIte, Bind.bind, Except.bind] at run
    cases first : iteration 0 loop with
    | error fault => simp [first] at run
    | ok next =>
      simp only [first] at run
      rcases iteration_cases first ok more state with
        ⟨waiting, rfl⟩ | ⟨enough, advances | halts⟩
      · obtain rfl := whileLoop_stopped run rfl
        have verdict : verdictOf { loop with hasMore := false } = .suspended loop.context := by
          simp [verdictOf, ok, state]
        rw [verdict]
        exact .wait (by simp [parser, parserStep, waiting])
      · obtain ⟨used, moves, left⟩ := parserStep_advances first ok more enough advances
        refine .advance moves ?_
        rw [left]
        exact ih run advances.ok advances.more (by rcases advances.state with h | h <;> simp [h])
      · obtain rfl := whileLoop_stopped run halts.stop
        obtain ⟨used, stops, left⟩ := parserStep_halts first ok more enough halts
        have verdict : verdictOf final = .halted (.ok (final.ok, final.context)) := by
          rcases halts.verdict with failed | ⟨_, gotAll⟩
          · simp [verdictOf, failed]
          · simp [verdictOf, gotAll]
        rw [verdict, ← left]
        exact .halt stops

/-! A context on which `parseRequest` returns: not left in `kGotAll`, and with no method yet while
    the request line is awaited. -/

structure Clean (context : HttpContext) : Prop where
  open_ : context.state ≠ .kGotAll
  noMethod : context.state = .kExpectRequestLine → context.request.method = .kInvalid

theorem processRequestLine_total (request : HttpRequest) (line : Bytes)
    (free : request.method = .kInvalid) :
    ∃ result, processRequestLine request line = .ok result := by
  unfold processRequestLine
  cases splitFirst space line with
  | none => exact ⟨_, rfl⟩
  | some parts =>
    obtain ⟨m, afterMethod⟩ := parts
    simp only [HttpRequest.setMethod, free, ↓reduceIte, Bind.bind, Except.bind]
    split
    · cases splitFirst space afterMethod with
      | none => exact ⟨_, rfl⟩
      | some parts =>
        obtain ⟨target, version⟩ := parts
        obtain ⟨result, run⟩ := setTarget_ok { request with method := HttpRequest.methodOf m } target
        simp only [run]
        exact ⟨_, rfl⟩
    · exact ⟨_, rfl⟩

theorem iteration_total (loop : ParseLoop Bytes) (clean : Clean loop.context) :
    ∃ next, iteration 0 loop = .ok next := by
  unfold iteration
  cases state : loop.context.state with
  | kExpectRequestLine =>
    dsimp only
    cases findCRLF loop.buf with
    | none => exact ⟨_, rfl⟩
    | some crlf =>
      obtain ⟨⟨accepted, request⟩, line⟩ := processRequestLine_total loop.context.request
        ((readable loop.buf).take crlf) (clean.noMethod state)
      simp only [line, Bind.bind, Except.bind]
      cases accepted <;> exact ⟨_, rfl⟩
  | kExpectHeaders =>
    dsimp only
    cases findCRLF loop.buf <;> exact ⟨_, rfl⟩
  | kExpectBody =>
    dsimp only
    split <;> exact ⟨_, rfl⟩
  | kGotAll => exact absurd state clean.open_

theorem Advances.clean {loop next : ParseLoop Bytes} (advances : Advances loop next) :
    Clean next.context := by
  rcases advances.state with state | state <;>
    exact ⟨by simp [state], by simp [state]⟩

theorem whileLoop_total {fuel : Nat} {loop : ParseLoop Bytes} (enough : loop.buf.length < fuel)
    (ok : loop.ok = true) (more : loop.hasMore = true) (clean : Clean loop.context) :
    ∃ final, whileLoop 0 fuel loop = .ok final ∧
      (final.ok = true → final.context.state ≠ .kGotAll →
        Clean final.context ∧ final.context.parseErrorStatus = loop.context.parseErrorStatus) := by
  induction fuel generalizing loop with
  | zero => omega
  | succ fuel ih =>
    obtain ⟨next, first⟩ := iteration_total loop clean
    simp only [whileLoop, more, ↓reduceIte, first, Bind.bind, Except.bind]
    rcases iteration_cases first ok more clean.open_ with
      ⟨_, rfl⟩ | ⟨_, advances | halts⟩
    · refine ⟨{ loop with hasMore := false }, by cases fuel <;> rfl, ?_⟩
      intro _ _
      exact ⟨clean, rfl⟩
    · obtain ⟨used, two, bound, shape⟩ := advances.used
      have shorter : next.buf.length < fuel := by
        rw [shape, List.length_drop]
        omega
      obtain ⟨final, run, settled⟩ := ih shorter advances.ok advances.more advances.clean
      refine ⟨final, run, ?_⟩
      rw [← advances.status]
      exact settled
    · refine ⟨next, by cases fuel <;> simp [whileLoop, halts.stop], ?_⟩
      intro ok gotAll
      rcases halts.verdict with failed | ⟨_, done⟩
      · rw [failed] at ok
        cases ok
      · exact absurd done gotAll

/-! What a call of `parseRequest` does. -/

variable {Buffer : Type} [MuduoBuffer Buffer]

/-- What a call of `parseRequest` returns, with the buffer as its readable bytes. -/
def callVerdict (ok : Bool) (context : HttpContext) : Verdict HttpContext Answer :=
  if ok = true ∧ context.state ≠ .kGotAll then .suspended context.untimed
  else .halted (.ok (ok, context.untimed))

theorem parseRequest_total (context : HttpContext) (buf : Buffer) (receiveTime : Timestamp)
    (clean : Clean context) :
    ∃ ok next left, parseRequest context buf receiveTime = .ok (ok, next, left) ∧
      parser.Runs { context.untimed with parseErrorStatus := 400 } (readable buf)
        (callVerdict ok next) (readable left) ∧
      (ok = true → next.state ≠ .kGotAll → Clean next ∧ next.parseErrorStatus = 400) := by
  let loop : ParseLoop Buffer := { context := { context with parseErrorStatus := 400 }, buf := buf }
  have startClean : Clean loop.view.context := ⟨clean.open_, clean.noMethod⟩
  have enough : loop.view.buf.length < readableBytes buf + 2 := by
    show (readable buf).length < (readable buf).length + 2
    omega
  obtain ⟨final, run, settled⟩ := whileLoop_total enough rfl rfl startClean
  have seen := whileLoop_view receiveTime (readableBytes buf + 2) loop
  rw [run] at seen
  cases whole : whileLoop receiveTime (readableBytes buf + 2) loop with
  | error fault => simp [whole, Except.map] at seen
  | ok last =>
    simp only [whole, Except.map, Except.ok.injEq] at seen
    subst final
    refine ⟨last.ok, last.context, last.buf, ?_, ?_, ?_⟩
    · simp only [parseRequest, loop] at whole ⊢
      simp only [whole]
      rfl
    · exact whileLoop_runs run rfl rfl startClean.open_
    · intro ok open_
      obtain ⟨clean, status⟩ := settled ok open_
      exact ⟨⟨clean.open_, clean.noMethod⟩, status⟩

theorem parseRequest_runs {context next : HttpContext} {buf left : Buffer} {receiveTime : Timestamp}
    {ok : Bool} (call : parseRequest context buf receiveTime = .ok (ok, next, left))
    (open_ : context.state ≠ .kGotAll) :
    parser.Runs { context.untimed with parseErrorStatus := 400 } (readable buf)
      (callVerdict ok next) (readable left) := by
  let loop : ParseLoop Buffer := { context := { context with parseErrorStatus := 400 }, buf := buf }
  have seen := whileLoop_view receiveTime (readableBytes buf + 2) loop
  cases whole : whileLoop receiveTime (readableBytes buf + 2) loop with
  | error fault =>
    simp only [parseRequest, loop] at whole call
    simp [whole, Bind.bind, Except.bind] at call
  | ok last =>
    simp only [parseRequest, loop] at whole call
    simp only [whole, Bind.bind, Except.bind, Pure.pure, Except.pure, Except.ok.injEq, Prod.mk.injEq] at call
    obtain ⟨rfl, rfl, rfl⟩ := call
    simp only [loop, whole, Except.map] at seen
    exact whileLoop_runs seen rfl rfl open_

theorem whileLoop_gotAll {loop : ParseLoop Buffer} (more : loop.hasMore = true)
    (gotAll : loop.context.state = .kGotAll) (receiveTime : Timestamp) (fuel : Nat) :
    whileLoop receiveTime fuel loop = .error .spin := by
  induction fuel with
  | zero => simp only [whileLoop, more, if_true]
  | succ fuel ih =>
    simp only [whileLoop, more, if_true, iteration, gotAll, Bind.bind, Except.bind]
    exact ih

theorem parseRequest_gotAll {context : HttpContext} (gotAll : context.state = .kGotAll) (buf : Buffer)
    (receiveTime : Timestamp) : parseRequest context buf receiveTime = .error .spin := by
  have spins := @whileLoop_gotAll Buffer _ { context := { context with parseErrorStatus := 400 }, buf := buf }
    rfl gotAll receiveTime (readableBytes buf + 2)
  unfold parseRequest
  rw [spins]
  rfl

end HttpContext

end Http
