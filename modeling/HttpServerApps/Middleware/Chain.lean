import HttpServerApps.Common.Throwing
import HttpServerApps.Http.Request
import HttpServerApps.Http.Response

namespace Http.Middlewares

open Common

/-- What leaves a hook or a handler by `throw`. -/
inductive Thrown where
  | response (response : HttpResponse)
  | exception (what : Bytes)

/-- The hooks of a middleware object; `World` is what the objects of the server share. -/
structure Middleware (World : Type) where
  before : HttpRequest → Throwing World Thrown HttpRequest
  after : Throwing (World × HttpResponse) Thrown Unit

variable {World : Type}

def processBefore : List (Middleware World) → HttpRequest → Throwing World Thrown HttpRequest
  | [], request => pure request
  | middleware :: middlewares, request => do
    let request ← middleware.before request
    processBefore middlewares request

def afterHooks : List (Middleware World) → Throwing (World × HttpResponse) Thrown Unit
  | [] => pure ()
  | middleware :: middlewares => do
    middleware.after
    afterHooks middlewares

/-- A `std::exception` of a hook is logged; a thrown response goes on. -/
def processAfter (middlewares : List (Middleware World)) : Throwing (World × HttpResponse) Thrown Unit :=
  (afterHooks middlewares.reverse).attempt fun
    | .exception _ => pure ()
    | .response response => Throwing.throw (.response response)

end Http.Middlewares
