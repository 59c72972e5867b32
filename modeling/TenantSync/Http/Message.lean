import TenantSync.Json.Value
import TenantSync.Web.Url

/-! # Requests and responses

The messages that a client exchanges with an authorization service. -/

namespace TenantSync.Http

/-- The methods in use: lists are read, entities are posted and deleted. -/
inductive Method where
  | get
  | post
  | delete
  deriving DecidableEq, Repr

/-- The method as it is sent. -/
def Method.text : Method → String
  | get => "GET"
  | post => "POST"
  | delete => "DELETE"

instance : ToString Method := ⟨Method.text⟩

/-- What a request carries: nothing, a JSON document or the fields of a form. -/
inductive Body where
  | none
  | json (value : Json)
  | form (fields : List (String × String))

/-- A request as it leaves the client. -/
structure Request where
  method : Method
  url : Url
  /-- The bearer token, when the request is authorized. -/
  bearer? : Option String
  body : Body

namespace Request

/-- The header that carries the bearer token. -/
def authorization? (r : Request) : Option String := r.bearer?.map fun token => s!"Bearer {token}"

/-- The header that names the form of the body. -/
def contentType? (r : Request) : Option String :=
  match r.body with
  | .none => none
  | .json _ => some "application/json"
  | .form _ => some "application/x-www-form-urlencoded"

/-- The name and version under which the client introduces itself. -/
def userAgent : String := "authz-sync/0.1.0"

end Request

/-- A status code. -/
structure Status where
  code : Nat
  deriving DecidableEq, Repr, Inhabited

namespace Status

/-- The codes from 200 to 299. -/
def isSuccess (s : Status) : Bool := 200 ≤ s.code && s.code < 300

/-- The customary phrase of a registered code. -/
def phrase? : Nat → Option String
  | 100 => "Continue"
  | 101 => "Switching Protocols"
  | 102 => "Processing"
  | 200 => "OK"
  | 201 => "Created"
  | 202 => "Accepted"
  | 203 => "Non Authoritative Information"
  | 204 => "No Content"
  | 205 => "Reset Content"
  | 206 => "Partial Content"
  | 207 => "Multi-Status"
  | 208 => "Already Reported"
  | 226 => "IM Used"
  | 300 => "Multiple Choices"
  | 301 => "Moved Permanently"
  | 302 => "Found"
  | 303 => "See Other"
  | 304 => "Not Modified"
  | 305 => "Use Proxy"
  | 307 => "Temporary Redirect"
  | 308 => "Permanent Redirect"
  | 400 => "Bad Request"
  | 401 => "Unauthorized"
  | 402 => "Payment Required"
  | 403 => "Forbidden"
  | 404 => "Not Found"
  | 405 => "Method Not Allowed"
  | 406 => "Not Acceptable"
  | 407 => "Proxy Authentication Required"
  | 408 => "Request Timeout"
  | 409 => "Conflict"
  | 410 => "Gone"
  | 411 => "Length Required"
  | 412 => "Precondition Failed"
  | 413 => "Payload Too Large"
  | 414 => "URI Too Long"
  | 415 => "Unsupported Media Type"
  | 416 => "Range Not Satisfiable"
  | 417 => "Expectation Failed"
  | 418 => "I'm a teapot"
  | 421 => "Misdirected Request"
  | 422 => "Unprocessable Entity"
  | 423 => "Locked"
  | 424 => "Failed Dependency"
  | 425 => "Too Early"
  | 426 => "Upgrade Required"
  | 428 => "Precondition Required"
  | 429 => "Too Many Requests"
  | 431 => "Request Header Fields Too Large"
  | 451 => "Unavailable For Legal Reasons"
  | 500 => "Internal Server Error"
  | 501 => "Not Implemented"
  | 502 => "Bad Gateway"
  | 503 => "Service Unavailable"
  | 504 => "Gateway Timeout"
  | 505 => "HTTP Version Not Supported"
  | 506 => "Variant Also Negotiates"
  | 507 => "Insufficient Storage"
  | 508 => "Loop Detected"
  | 510 => "Not Extended"
  | 511 => "Network Authentication Required"
  | _ => none

/-- A status as messages show it. -/
def text (s : Status) : String := s!"{s.code} {(phrase? s.code).getD unknownPhrase}"
where
  unknownPhrase := "<unknown status code>"

instance : ToString Status := ⟨text⟩

end Status

/-- What a service answers. -/
structure Response where
  status : Status
  headers : List (String × String)
  /-- The text of the body, or nothing when the body ends before its announced length. -/
  body? : Option String
  deriving DecidableEq, Inhabited

namespace Response

/-- The value of a header; names are compared without regard to case. -/
def header? (r : Response) (name : String) : Option String :=
  (r.headers.find? fun h => h.1.toLower == name).map (·.2)

/-- The body without the blanks around it, empty when it cannot be read. -/
def bodyText (r : Response) : String := r.body?.getD ""

end Response

end TenantSync.Http
