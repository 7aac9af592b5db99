import HttpServerApps.Http.ContextChunks
import HttpServerApps.Http.Grammar

namespace Http

open Common MuduoBuffer

/-! A header names one length at most. -/

theorem Opening.Exceeds.unique {opening : Opening} {maxBodyBytes : UInt64} {length other : Nat}
    (first : opening.Exceeds maxBodyBytes length) (second : opening.Exceeds maxBodyBytes other) : length = other := by
  rcases first with ⟨_, value, found, _, _, rfl, _⟩
  rcases second with ⟨_, again, foundAgain, _, _, rfl, _⟩
  rw [Option.some.inj (found.symm.trans foundAgain)]

theorem Opening.Exceeds.not_allows {opening : Opening} {maxBodyBytes : UInt64} {length : Nat}
    (exceeds : opening.Exceeds maxBodyBytes length) (other : Nat) : ¬ opening.Allows maxBodyBytes other := by
  rcases exceeds with ⟨body, value, found, _, _, rfl, large⟩
  unfold Opening.Allows
  rw [body]
  rintro ⟨again, foundAgain, _, _, rfl, fits, _⟩
  rw [← Option.some.inj (found.symm.trans foundAgain)] at fits
  omega

namespace HttpContext

theorem runs_oversized {maxBodyBytes : UInt64} {text : Bytes} {length : Nat}
    (oversized : IsOversized maxBodyBytes text length) :
    ∃ (done : HttpContext) (left : Bytes),
      parser.Runs { maxBodyBytes := maxBodyBytes } text (.halted (.ok (false, done))) left ∧
      done.parseErrorStatus = if length < 2 ^ 64 then 413 else 400 := by
  rcases oversized with ⟨opening, behind, rfl, exceeds⟩
  rcases runs_opening maxBodyBytes opening with ⟨stored, isStored, runs⟩
  rcases runs_refused isStored exceeds.not_allows behind with ⟨done, run, _, status⟩
  rw [List.append_assoc]
  refine ⟨done, behind, runs _ _ _ run, ?_⟩
  rcases status with ⟨large, other, exceedsToo, bound⟩ | ⟨plain, beyond⟩
  · rw [exceeds.unique exceedsToo, if_pos bound]
    exact large
  · rw [if_neg (Nat.not_lt.mpr (beyond _ exceeds))]
    exact plain

theorem resultOf_failed {done : HttpContext} {left : Bytes} {result : ParseResult}
    (seen : resultOf (.halted (.ok (false, done))) left = .ok result) :
    result.verdict = .error done.parseErrorStatus := by
  cases seen
  rfl

variable {Buffer : Type} [MuduoBuffer Buffer]

theorem parseChunks_runs (maxBodyBytes : UInt64) (chunks : List (Bytes × Timestamp)) :
    ∃ verdict left result,
      parser.Runs { maxBodyBytes := maxBodyBytes } (chunks.map Prod.fst).flatten verdict left ∧
      parseChunks { maxBodyBytes := maxBodyBytes } (empty : Buffer) chunks = .ok result ∧
      resultOf verdict left = .ok result := by
  rcases parseChunks_feeds { maxBodyBytes := maxBodyBytes } (empty : Buffer) chunks (fresh_clean maxBodyBytes) rfl with
    ⟨verdict, left, result, feeds, run, seen⟩
  rw [readable_empty] at feeds
  exact ⟨verdict, left, result, feeds.runs rfl, run, seen⟩

/-- However a text is delivered, an error other than a length beyond the limit has the status 400. -/
theorem error_status {maxBodyBytes : UInt64} {text left : Bytes} {verdict : Verdict HttpContext Answer}
    {result : ParseResult} (run : parser.Runs { maxBodyBytes := maxBodyBytes } text verdict left)
    (seen : resultOf verdict left = .ok result) {status : Nat} (failed : result.verdict = .error status)
    (other : ∀ length, ¬ IsOversized maxBodyBytes text length) : status = 400 := by
  rcases text_cases maxBodyBytes text with ⟨opening, length, behind, request⟩ | broken | unfinished
  · rcases runs_request request with ⟨done, whole, _, _⟩
    rcases run.deterministic whole with ⟨rfl, _⟩
    cases seen
    cases failed
  · rcases runs_broken broken with ⟨done, rest, whole, _, plain | ⟨_, length, oversized, _⟩⟩
    · rcases run.deterministic whole with ⟨rfl, _⟩
      rw [resultOf_failed seen] at failed
      cases failed
      exact plain
    · exact absurd oversized (other length)
  · rcases runs_unfinished unfinished with ⟨next, rest, whole⟩
    rcases run.deterministic whole with ⟨rfl, _⟩
    cases seen
    cases failed

/-- A length beyond the limit is answered 413, and nothing else is, exactly where the length is one of 64 bits. -/
theorem oversized_status_iff (maxBodyBytes : UInt64) (chunks : List (Bytes × Timestamp)) :
    ∃ result, parseChunks { maxBodyBytes := maxBodyBytes } (empty : Buffer) chunks = .ok result ∧
      (((∀ length, IsOversized maxBodyBytes (chunks.map Prod.fst).flatten length → result.verdict = .error 413) ∧
          ∀ status, result.verdict = .error status →
            (∀ length, ¬ IsOversized maxBodyBytes (chunks.map Prod.fst).flatten length) → status = 400) ↔
        ∀ length, IsOversized maxBodyBytes (chunks.map Prod.fst).flatten length → length < 2 ^ 64) := by
  rcases @parseChunks_runs Buffer _ maxBodyBytes chunks with ⟨verdict, left, result, run, call, seen⟩
  have status : ∀ length, IsOversized maxBodyBytes (chunks.map Prod.fst).flatten length →
      result.verdict = .error (if length < 2 ^ 64 then 413 else 400) := by
    intro length oversized
    rcases runs_oversized oversized with ⟨done, rest, whole, same⟩
    rcases run.deterministic whole with ⟨rfl, _⟩
    rw [resultOf_failed seen, same]
  refine ⟨result, call, ?_⟩
  apply Iff.intro
  · rintro ⟨large, _⟩ length oversized
    have answer := large length oversized
    rw [status length oversized] at answer
    by_cases bound : length < 2 ^ 64
    · exact bound
    · rw [if_neg bound] at answer
      cases answer
  · intro bound
    apply And.intro
    · intro length oversized
      rw [status length oversized, if_pos (bound length oversized)]
    · exact fun other failed small => error_status run seen failed small

/-- One more than the largest number of 64 bits, as a Content-Length. -/
def beyondLength : Opening where
  line := ⟨bytes "POST", bytes "/", bytes "HTTP/1.1", by decide, by decide, by decide⟩
  headers := [bytes "Content-Length: 18446744073709551616"]
  line_cut := by decide
  headers_cut := by decide
  headers_colon := by decide

theorem beyondLength_plain :
    ¬ ∀ (maxBodyBytes : UInt64) (text : Bytes) (length : Nat), IsOversized maxBodyBytes text length →
      ∃ result, parseChunks { maxBodyBytes := maxBodyBytes } ([] : Bytes) [(text, 0)] = .ok result ∧
        result.verdict = .error 413 := by
  intro claimed
  have value : beyondLength.value (bytes "content-length") = some (bytes "18446744073709551616") := by decide
  have exceeds : beyondLength.Exceeds 8388608 (decimalValue (bytes "18446744073709551616")) :=
    ⟨by decide, _, value, by decide, by decide, rfl, by decide⟩
  rcases claimed 8388608 (beyondLength.text ++ [CR, LF] ++ []) _ ⟨beyondLength, [], rfl, exceeds⟩ with
    ⟨result, call, large⟩
  have answer : (parseChunks { maxBodyBytes := 8388608 } ([] : Bytes)
      [(beyondLength.text ++ [CR, LF] ++ [], 0)]).map (·.verdict) = .ok (.error 400) := by decide
  rw [call] at answer
  have plain : result.verdict = .error 400 := Except.ok.inj answer
  rw [large] at plain
  cases plain

end HttpContext

end Http
