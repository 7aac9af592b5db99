import HttpServerApps.Http.ContextRuns

namespace Http

open Common MuduoBuffer

inductive ParseVerdict where
  | error (status : Nat)
  | complete
  | needsMore
  deriving DecidableEq

/-- What is seen of a parse: the verdict, the request without its receive time, and the bytes not
    consumed, those of chunks not yet appended included. -/
structure ParseResult where
  verdict : ParseVerdict
  request : HttpRequest
  unconsumed : Bytes

namespace HttpContext

variable {Buffer : Type} [MuduoBuffer Buffer]

/-- Append the chunks one at a time and call `parseRequest` after each, up to the first call that
    returns false or leaves `gotAll()` true. -/
def parseChunks (context : HttpContext) (buf : Buffer) :
    List (Bytes × Timestamp) → Except Fault ParseResult
  | [] => .ok ⟨.needsMore, context.request.untimed, readable buf⟩
  | (chunk, receiveTime) :: chunks => do
    let (ok, context, buf) ← parseRequest context (append buf chunk) receiveTime
    let unconsumed := readable buf ++ (chunks.map Prod.fst).flatten
    if ok = false then
      return ⟨.error context.parseErrorStatus, context.request.untimed, unconsumed⟩
    else if context.gotAll then return ⟨.complete, context.request.untimed, unconsumed⟩
    else parseChunks context buf chunks

def resultOf : Verdict HttpContext Answer → Bytes → Except Fault ParseResult
  | .suspended context, left => .ok ⟨.needsMore, context.request, left⟩
  | .halted (.ok (true, context)), left => .ok ⟨.complete, context.request, left⟩
  | .halted (.ok (false, context)), left =>
    .ok ⟨.error context.parseErrorStatus, context.request, left⟩
  | .halted (.error fault), _ => .error fault

theorem parseChunks_feeds (context : HttpContext) (buf : Buffer) (chunks : List (Bytes × Timestamp))
    (clean : Clean context) (status : context.parseErrorStatus = 400) :
    ∃ verdict left result,
      parser.Feeds context.untimed (readable buf) (chunks.map Prod.fst) verdict left ∧
      parseChunks context buf chunks = .ok result ∧ resultOf verdict left = .ok result := by
  induction chunks generalizing context buf with
  | nil => exact ⟨_, _, _, .nil, rfl, rfl⟩
  | cons chunk chunks ih =>
    obtain ⟨bytes, receiveTime⟩ := chunk
    obtain ⟨ok, next, left, call, runs, settled⟩ :=
      parseRequest_total context (append buf bytes) receiveTime clean
    have entry : { context.untimed with parseErrorStatus := 400 } = context.untimed := by
      rw [← status]
      rfl
    rw [entry, readable_append] at runs
    simp only [parseChunks, call, Bind.bind, Except.bind]
    cases ok with
    | false => exact ⟨_, _, _, .halt runs, rfl, rfl⟩
    | true =>
      by_cases gotAll : next.state = .kGotAll
      · have verdict : callVerdict true next = .halted (.ok (true, next.untimed)) := by
          simp [callVerdict, gotAll]
        rw [verdict] at runs
        refine ⟨_, _, _, .halt runs, ?_, rfl⟩
        simp only [HttpContext.gotAll, gotAll]
        rfl
      · have verdict : callVerdict true next = .suspended next.untimed := by
          simp [callVerdict, gotAll]
        rw [verdict] at runs
        obtain ⟨nextClean, nextStatus⟩ := settled rfl gotAll
        obtain ⟨_, _, result, feeds, later, same⟩ := ih next left nextClean nextStatus
        refine ⟨_, _, result, .more runs feeds, ?_, same⟩
        simp only [HttpContext.gotAll, gotAll]
        exact later

theorem fresh_clean (maxBodyBytes : UInt64) : Clean { maxBodyBytes := maxBodyBytes } :=
  ⟨by simp, fun _ => rfl⟩

/-- Cutting the input into chunks changes neither the verdict nor the request nor what is left. -/
theorem parse_chunk_independent (maxBodyBytes : UInt64) (chunks : List (Bytes × Timestamp))
    (receiveTime : Timestamp) :
    ∃ result,
      parseChunks { maxBodyBytes := maxBodyBytes } (empty : Buffer) chunks = .ok result ∧
      parseChunks { maxBodyBytes := maxBodyBytes } (empty : Buffer)
        [((chunks.map Prod.fst).flatten, receiveTime)] = .ok result := by
  have quiet : parser.step { maxBodyBytes := maxBodyBytes } [] = .wait := rfl
  obtain ⟨verdict, left, result, feeds, run, seen⟩ :=
    parseChunks_feeds { maxBodyBytes := maxBodyBytes } (empty : Buffer) chunks
      (fresh_clean maxBodyBytes) rfl
  obtain ⟨whole, rest, once, feedsOnce, runOnce, seenOnce⟩ :=
    parseChunks_feeds { maxBodyBytes := maxBodyBytes } (empty : Buffer)
      [((chunks.map Prod.fst).flatten, receiveTime)] (fresh_clean maxBodyBytes) rfl
  rw [readable_empty] at feeds feedsOnce
  have cut := feeds.runs quiet
  have uncut := feedsOnce.runs quiet
  simp only [List.map_cons, List.map_nil, List.flatten_cons, List.flatten_nil,
    List.append_nil] at uncut
  obtain ⟨rfl, rfl⟩ := cut.deterministic uncut
  rw [seen] at seenOnce
  cases seenOnce
  exact ⟨result, run, runOnce⟩

/-- A request cut inside its CRLFs and its body, from the first byte to the last. -/
example :
    (parseChunks { maxBodyBytes := 8 } (empty : Bytes)
      [(bytes "POST /a HTT", 1), (bytes "P/1.1\r", 2), (bytes "\nContent-Length: 3\r\n\r", 3),
        (bytes "\nab", 4), (bytes "cGET", 5)]).map (fun r => (r.verdict, r.request.content, r.unconsumed)) =
      .ok (.complete, bytes "abc", bytes "GET") := by decide

end HttpContext

end Http
