import PrivateLink.Text.Basic
import PrivateLink.Time

/-!
# Requests and replies

The messages that are exchanged with the resource manager. A header counts only when its value can
be read, which is when it holds nothing but visible ASCII characters, spaces and tabs.
-/

namespace PrivateLink.Manager

/-- What a request does. -/
inductive Method where
  | get
  | put
  | delete
deriving DecidableEq, Repr

/-- The name of the method. -/
def Method.name : Method → String
  | .get => "GET"
  | .put => "PUT"
  | .delete => "DELETE"

/-- A request as the server sees it. -/
structure Request where
  method : Method
  /-- The path with the query. -/
  target : String
  authorization : String
  body : Option String
deriving DecidableEq, Repr

/-- A reply. -/
structure Reply where
  status : Nat
  headers : List (String × String) := []
  body : String := ""
deriving DecidableEq, Repr

namespace Reply

/-- The reply tells of success. -/
def isSuccess (reply : Reply) : Bool :=
  200 ≤ reply.status && reply.status < 300

/-- The text that comes with the reply; replies without content have none. -/
def content (reply : Reply) : String :=
  if reply.status = 204 ∨ reply.status = 304 then "" else reply.body

/-- The blanks that are taken off both ends of the value of a header. -/
def isHeaderBlank (c : Char) : Bool :=
  c == ' ' || c == '\t'

/-- The value of a header without the blanks around it. -/
def trimHeader (value : String) : String :=
  String.ofList ((value.toList.dropWhile isHeaderBlank).reverse.dropWhile isHeaderBlank).reverse

/-- The character can be read in the value of a header. -/
def isReadable (c : Char) : Bool :=
  (0x20 ≤ c.toNat && c.toNat < 0x7F) || c == '\t'

/-- The first header with the given name, which is written in small letters, if its value can be
read and is not empty. -/
def header? (reply : Reply) (name : String) : Option String := do
  let (_, value) ← reply.headers.find? fun header => header.1.toList.map Char.toLower == name.toList
  let value := trimHeader value
  if value.toList.all isReadable && !value.isEmpty then some value else none

/-- The seconds that the service asks to wait before the next request. -/
def retryAfter? (reply : Reply) : Option Nat := do
  let value ← reply.header? "retry-after"
  Text.natural64? (Text.trim value)

end Reply

/-- The standard phrase for a status. -/
def reasonPhrase? : Nat → Option String
  | 100 => some "Continue"
  | 101 => some "Switching Protocols"
  | 102 => some "Processing"
  | 103 => some "Early Hints"
  | 200 => some "OK"
  | 201 => some "Created"
  | 202 => some "Accepted"
  | 203 => some "Non Authoritative Information"
  | 204 => some "No Content"
  | 205 => some "Reset Content"
  | 206 => some "Partial Content"
  | 207 => some "Multi-Status"
  | 208 => some "Already Reported"
  | 226 => some "IM Used"
  | 300 => some "Multiple Choices"
  | 301 => some "Moved Permanently"
  | 302 => some "Found"
  | 303 => some "See Other"
  | 304 => some "Not Modified"
  | 305 => some "Use Proxy"
  | 307 => some "Temporary Redirect"
  | 308 => some "Permanent Redirect"
  | 400 => some "Bad Request"
  | 401 => some "Unauthorized"
  | 402 => some "Payment Required"
  | 403 => some "Forbidden"
  | 404 => some "Not Found"
  | 405 => some "Method Not Allowed"
  | 406 => some "Not Acceptable"
  | 407 => some "Proxy Authentication Required"
  | 408 => some "Request Timeout"
  | 409 => some "Conflict"
  | 410 => some "Gone"
  | 411 => some "Length Required"
  | 412 => some "Precondition Failed"
  | 413 => some "Payload Too Large"
  | 414 => some "URI Too Long"
  | 415 => some "Unsupported Media Type"
  | 416 => some "Range Not Satisfiable"
  | 417 => some "Expectation Failed"
  | 418 => some "I'm a teapot"
  | 421 => some "Misdirected Request"
  | 422 => some "Unprocessable Entity"
  | 423 => some "Locked"
  | 424 => some "Failed Dependency"
  | 425 => some "Too Early"
  | 426 => some "Upgrade Required"
  | 428 => some "Precondition Required"
  | 429 => some "Too Many Requests"
  | 431 => some "Request Header Fields Too Large"
  | 451 => some "Unavailable For Legal Reasons"
  | 500 => some "Internal Server Error"
  | 501 => some "Not Implemented"
  | 502 => some "Bad Gateway"
  | 503 => some "Service Unavailable"
  | 504 => some "Gateway Timeout"
  | 505 => some "HTTP Version Not Supported"
  | 506 => some "Variant Also Negotiates"
  | 507 => some "Insufficient Storage"
  | 508 => some "Loop Detected"
  | 510 => some "Not Extended"
  | 511 => some "Network Authentication Required"
  | _ => none

end PrivateLink.Manager
