import HttpServerApps.Middleware.Chain

namespace Http.Middlewares

open Common

structure CorsConfig where
  allowedOrigins : List Bytes := []
  allowedMethods : List Bytes := []
  allowedHeaders : List Bytes := []
  allowCredentials : Bool := false
  maxAge : Int := 3600

def CorsConfig.defaultConfig : CorsConfig where
  allowedOrigins := [bytes "*"]
  allowedMethods := [bytes "GET", bytes "POST", bytes "PUT", bytes "DELETE", bytes "OPTIONS"]
  allowedHeaders := [bytes "Content-Type", bytes "Authorization"]

structure CorsMiddleware where
  config : CorsConfig
  requestOrigin : Bytes := []

def join (strings : List Bytes) (delimiter : Bytes) : Bytes := delimiter.intercalate strings

def CorsConfig.isOriginAllowed (config : CorsConfig) (origin : Bytes) : Bool :=
  config.allowedOrigins = [] || config.allowedOrigins.contains (bytes "*") ||
    config.allowedOrigins.contains origin

def CorsConfig.resolveAllowOrigin (config : CorsConfig) (requestOrigin : Bytes) : Bytes :=
  if requestOrigin = [] ∨ config.isOriginAllowed requestOrigin = false then []
  else if config.allowedOrigins.contains (bytes "*") ∧ config.allowCredentials = false then bytes "*"
  else requestOrigin

def allowOriginHeader : Bytes := bytes "Access-Control-Allow-Origin"

def CorsConfig.addCorsHeaders (config : CorsConfig) (response : HttpResponse) (origin : Bytes) :
    HttpResponse :=
  let response := response.addHeader allowOriginHeader origin
  let response := if config.allowCredentials then
    response.addHeader (bytes "Access-Control-Allow-Credentials") (bytes "true") else response
  let response := if config.allowedMethods ≠ [] then
    response.addHeader (bytes "Access-Control-Allow-Methods") (join config.allowedMethods (bytes ", "))
    else response
  let response := if config.allowedHeaders ≠ [] then
    response.addHeader (bytes "Access-Control-Allow-Headers") (join config.allowedHeaders (bytes ", "))
    else response
  response.addHeader (bytes "Access-Control-Max-Age") (intText config.maxAge)

def CorsConfig.handlePreflightRequest (config : CorsConfig) (request : HttpRequest)
    (response : HttpResponse) : HttpResponse :=
  let allowOrigin := config.resolveAllowOrigin (request.getHeader (bytes "Origin"))
  if allowOrigin = [] then response.setStatusCode .k403Forbidden
  else
    let response := config.addCorsHeaders response allowOrigin
    let response :=
      if allowOrigin ≠ bytes "*" then response.addHeader (bytes "Vary") (bytes "Origin") else response
    response.setStatusCode .k204NoContent

/-- What `after` does to a response, given the origin that `before` left in the object. -/
def CorsConfig.decorate (config : CorsConfig) (requestOrigin : Bytes) (response : HttpResponse) :
    HttpResponse :=
  let allowOrigin := config.resolveAllowOrigin requestOrigin
  if allowOrigin = [] then response
  else
    let response := config.addCorsHeaders response allowOrigin
    if allowOrigin ≠ bytes "*" then response.addHeader (bytes "Vary") (bytes "Origin") else response

def CorsMiddleware.before (request : HttpRequest) : Throwing CorsMiddleware Thrown HttpRequest := do
  Throwing.modify fun cors => { cors with requestOrigin := request.getHeader (bytes "Origin") }
  if request.method = .kOptions then
    let config ← Throwing.read CorsMiddleware.config
    Throwing.throw (.response (config.handlePreflightRequest request {}))
  else return request

def CorsMiddleware.after : Throwing (CorsMiddleware × HttpResponse) Thrown Unit :=
  Throwing.modify fun (cors, response) => (cors, cors.config.decorate cors.requestOrigin response)

def corsHooks : Middleware CorsMiddleware := ⟨CorsMiddleware.before, CorsMiddleware.after⟩

/-! The header a response leaves `after` with. -/

theorem addCorsHeaders_allowOrigin (config : CorsConfig) (response : HttpResponse) (origin : Bytes) :
    (config.addCorsHeaders response origin).header allowOriginHeader = some origin := by
  have methods : allowOriginHeader ≠ bytes "Access-Control-Allow-Methods" := by decide
  have headers : allowOriginHeader ≠ bytes "Access-Control-Allow-Headers" := by decide
  have credentials : allowOriginHeader ≠ bytes "Access-Control-Allow-Credentials" := by decide
  have maxAge : allowOriginHeader ≠ bytes "Access-Control-Max-Age" := by decide
  unfold CorsConfig.addCorsHeaders
  simp only [HttpResponse.header_addHeader_of_ne _ _ _ _ maxAge]
  split <;> split <;> split <;>
    simp only [HttpResponse.header_addHeader, methods, headers, credentials, ↓reduceIte]

theorem decorate_allowOrigin (config : CorsConfig) (requestOrigin : Bytes) (response : HttpResponse) :
    (config.decorate requestOrigin response).header allowOriginHeader =
      if config.resolveAllowOrigin requestOrigin = [] then response.header allowOriginHeader
      else some (config.resolveAllowOrigin requestOrigin) := by
  have vary : allowOriginHeader ≠ bytes "Vary" := by decide
  unfold CorsConfig.decorate
  dsimp only
  split
  · rfl
  · split
    · rw [HttpResponse.header_addHeader_of_ne _ _ _ _ vary, addCorsHeaders_allowOrigin]
    · rw [addCorsHeaders_allowOrigin]

theorem before_ordinary (cors : CorsMiddleware) (request : HttpRequest)
    (ordinary : request.method ≠ .kOptions) :
    (processBefore [corsHooks] request).run cors =
      ({ cors with requestOrigin := request.getHeader (bytes "Origin") }, .ok request) := by
  unfold processBefore corsHooks CorsMiddleware.before
  simp only [ordinary, ↓reduceIte]
  rfl

theorem after_decorates (cors : CorsMiddleware) (response : HttpResponse) :
    (processAfter [corsHooks]).run (cors, response) =
      ((cors, cors.config.decorate cors.requestOrigin response), .ok ()) := rfl

end Http.Middlewares
