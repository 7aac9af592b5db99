import HttpServerApps.Middleware.Chain

namespace Http

open Common Middlewares

/-- The `close` that `onRequest` gives the response it makes. -/
def wantsClose (req : HttpRequest) : Bool :=
  let connection := req.getHeader (bytes "Connection")
  connection = bytes "close" ||
    (req.version = bytes "HTTP/1.0" && connection != bytes "Keep-Alive")

variable {World : Type}

/-- A hook call that does not touch the response. -/
def onWorld {Value : Type} (call : Throwing World Thrown Value) :
    Throwing (World × HttpResponse) Thrown Value := ⟨fun (world, resp) =>
  let (world, outcome) := call.run world
  ((world, resp), outcome)⟩

def setResponse (change : HttpResponse → HttpResponse) : Throwing (World × HttpResponse) Thrown Unit :=
  Throwing.modify fun (world, resp) => (world, change resp)

/-- `route` runs the handler it finds and returns false when it finds none. -/
def handleRequest (middlewares : List (Middleware World))
    (route : HttpRequest → Throwing (World × HttpResponse) Thrown Bool) (req : HttpRequest) :
    Throwing (World × HttpResponse) Thrown Unit :=
  Throwing.attempt
    (do
      let mutableReq ← onWorld (processBefore middlewares req)
      let found ← route mutableReq
      if !found then
        setResponse fun resp =>
          ((resp.setStatusCode .k404NotFound).setStatusMessage (bytes "Not Found")).setCloseConnection true
      processAfter middlewares)
    fun
    | .response res => setResponse fun _ => res
    | .exception _ =>
      setResponse fun resp =>
        ((resp.setStatusCode .k500InternalServerError).setStatusMessage
          (bytes "Internal Server Error")).setBody (bytes "Internal Server Error")

/-- The response that `processAfter` gets: what the handler left, or the 404 made of it. -/
def found404 (found : Bool) (resp : HttpResponse) : HttpResponse :=
  if found then resp
  else ((resp.setStatusCode .k404NotFound).setStatusMessage (bytes "Not Found")).setCloseConnection true

def failed500 (resp : HttpResponse) : HttpResponse :=
  ((resp.setStatusCode .k500InternalServerError).setStatusMessage (bytes "Internal Server Error")).setBody
    (bytes "Internal Server Error")

/-- What `catch` makes of the response. -/
def answerTo (thrown : Thrown) (resp : HttpResponse) : HttpResponse :=
  match thrown with
  | .response sent => sent
  | .exception _ => failed500 resp

section

variable {middlewares : List (Middleware World)}
  {route : HttpRequest → Throwing (World × HttpResponse) Thrown Bool} {req mutableReq : HttpRequest}
  {world entered left final : World} {resp given sent : HttpResponse}

theorem handleRequest_thrown {thrown : Thrown}
    (before : (processBefore middlewares req).run world = (entered, .error thrown)) :
    (handleRequest middlewares route req).run (world, resp) =
      ((entered, answerTo thrown resp), .ok ()) := by
  unfold handleRequest
  rw [Throwing.run_attempt_error (by
    simp only [onWorld, Bind.bind, Throwing.andThen, before]
    rfl)]
  cases thrown <;> rfl

theorem handleRequest_threw {thrown : Thrown}
    (before : (processBefore middlewares req).run world = (entered, .ok mutableReq))
    (handled : (route mutableReq).run (entered, resp) = ((left, given), .error thrown)) :
    (handleRequest middlewares route req).run (world, resp) = ((left, answerTo thrown given), .ok ()) := by
  unfold handleRequest
  rw [Throwing.run_attempt_error (by
    simp only [onWorld, Bind.bind, Throwing.andThen, before, handled]
    rfl)]
  cases thrown <;> rfl

theorem handleRequest_routed {found : Bool}
    (before : (processBefore middlewares req).run world = (entered, .ok mutableReq))
    (handled : (route mutableReq).run (entered, resp) = ((left, given), .ok found))
    (after : (processAfter middlewares).run (left, found404 found given) = ((final, sent), .ok ())) :
    (handleRequest middlewares route req).run (world, resp) = ((final, sent), .ok ()) := by
  unfold handleRequest
  cases found with
  | true =>
    rw [Throwing.run_attempt_ok (by
      simp only [onWorld, Bind.bind, Throwing.andThen, before, handled]
      exact after)]
  | false =>
    rw [Throwing.run_attempt_ok (by
      simp only [onWorld, Bind.bind, Throwing.andThen, before, handled]
      exact after)]

end

theorem handleRequest_returns (middlewares : List (Middleware World))
    (route : HttpRequest → Throwing (World × HttpResponse) Thrown Bool) (req : HttpRequest)
    (state : World × HttpResponse) : ((handleRequest middlewares route req).run state).2 = .ok () := by
  unfold handleRequest Throwing.attempt
  dsimp only
  split
  · rfl
  · rename_i thrown _
    cases thrown <;> rfl

end Http
