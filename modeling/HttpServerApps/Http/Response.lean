import HttpServerApps.Common.Decimal
import HttpServerApps.Common.Dict

namespace Http

open Common

inductive HttpStatusCode where
  | kUnknown
  | k200Ok
  | k204NoContent
  | k301MovedPermanently
  | k400BadRequest
  | k401Unauthorized
  | k403Forbidden
  | k404NotFound
  | k409Conflict
  | k500InternalServerError
  deriving DecidableEq

def HttpStatusCode.toNat : HttpStatusCode → Nat
  | kUnknown => 0
  | k200Ok => 200
  | k204NoContent => 204
  | k301MovedPermanently => 301
  | k400BadRequest => 400
  | k401Unauthorized => 401
  | k403Forbidden => 403
  | k404NotFound => 404
  | k409Conflict => 409
  | k500InternalServerError => 500

structure HttpResponse where
  httpVersion : Bytes := []
  statusCode : HttpStatusCode := .kUnknown
  statusMessage : Bytes := []
  closeConnection : Bool := true
  headers : OrderedMap Bytes Bytes := {}
  body : Bytes := []

/-- `operator<` of `std::string`. -/
def stringLess (a b : Bytes) : Bool := a < b

/-- What `snprintf` leaves in a buffer of `size` bytes, without its NUL. -/
def snprintf (size : Nat) (text : Bytes) : Bytes := text.take (size - 1)

/-- `c_str()`: the text up to its first NUL. -/
def cStr (text : Bytes) : Bytes := text.takeWhile (· != 0)

def headerKeyEqualsIgnoreCase (key asciiLower : Bytes) : Bool := key.map tolower = asciiLower

namespace HttpResponse

def setVersion (response : HttpResponse) (version : Bytes) : HttpResponse :=
  { response with httpVersion := version }

def setStatusCode (response : HttpResponse) (code : HttpStatusCode) : HttpResponse :=
  { response with statusCode := code }

def setStatusMessage (response : HttpResponse) (message : Bytes) : HttpResponse :=
  { response with statusMessage := message }

def setCloseConnection (response : HttpResponse) (on : Bool) : HttpResponse :=
  { response with closeConnection := on }

def addHeader (response : HttpResponse) (key value : Bytes) : HttpResponse :=
  { response with headers := response.headers.insert stringLess key value }

def setContentType (response : HttpResponse) (contentType : Bytes) : HttpResponse :=
  response.addHeader (bytes "Content-Type") contentType

def setContentLength (response : HttpResponse) (length : Nat) : HttpResponse :=
  response.addHeader (bytes "Content-Length") (natText length)

def setBody (response : HttpResponse) (body : Bytes) : HttpResponse := { response with body := body }

def setStatusLine (response : HttpResponse) (version : Bytes) (statusCode : HttpStatusCode)
    (statusMessage : Bytes) : HttpResponse :=
  { response with httpVersion := version, statusCode := statusCode, statusMessage := statusMessage }

/-- The bytes `appendToBuffer` appends. -/
def appendToBuffer (response : HttpResponse) : Bytes :=
  snprintf 32 (cStr response.httpVersion ++ bytes " " ++ natText response.statusCode.toNat ++ bytes " ") ++
  response.statusMessage ++ bytes "\r\n" ++
  (if response.closeConnection then bytes "Connection: close\r\n" else bytes "Connection: Keep-Alive\r\n") ++
  snprintf 32 (bytes "Content-Length: " ++ natText response.body.length ++ bytes "\r\n") ++
  (response.headers.entries.flatMap fun header =>
    if headerKeyEqualsIgnoreCase header.1 (bytes "content-length") then []
    else header.1 ++ bytes ": " ++ header.2 ++ bytes "\r\n") ++
  bytes "\r\n" ++ response.body

def header (response : HttpResponse) (key : Bytes) : Option Bytes := response.headers.find key

theorem header_addHeader (response : HttpResponse) (key value other : Bytes) :
    (response.addHeader key value).header other =
      if other = key then some value else response.header other :=
  OrderedMap.find_insert _ _ _ _ _

theorem header_addHeader_of_ne (response : HttpResponse) (key value other : Bytes)
    (different : other ≠ key) :
    (response.addHeader key value).header other = response.header other := by
  simp [header_addHeader, different]

end HttpResponse

end Http
