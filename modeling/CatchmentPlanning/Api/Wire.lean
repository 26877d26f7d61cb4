import CatchmentPlanning.Api.Message
import CatchmentPlanning.Json.Printer
import CatchmentPlanning.Text.Numeral

/-!
# Requests and responses as text

Requests arrive and responses leave as HTTP/1.1 messages. The head of a message
is a first line and one line for each header; an empty line ends it, and the
body follows. Of the headers of a request only three are looked at: the media
type and the size of the body, and the host, whose port says which listener the
request is for.
-/

namespace CatchmentPlanning

namespace Api

/-! ## Requests -/

/-- The head of a request. -/
structure Head where
  method : String
  target : String
  /-- The headers, with their names in lower case. -/
  headers : Named String
deriving DecidableEq

namespace Head

/-- Reads the first line: a method, a target and a version. -/
def firstLine? (line : String) : Option (String × String) :=
  match (Text.pieces ' ' line.toList).map String.ofList with
  | [method, target, _] => some (method, target)
  | _ => none

/-- Reads the line of a header. -/
def header? (line : String) : Option (String × String) :=
  match Text.pieces ':' line.toList with
  | name :: v :: vs =>
    some ((String.ofList name).toLower, Text.trim (String.ofList (Text.joined ':' (v :: vs))))
  | _ => none

/-- Reads the lines of a head. -/
def ofLines? : List String → Option Head
  | [] => none
  | first :: rest => do
    let (method, target) ← firstLine? first
    return ⟨method, target, ← rest.mapM header?⟩

/-- The size of the body that follows. -/
def bodySize (h : Head) : Nat :=
  ((Named.valueOf? "content-length" h.headers).bind (Text.unsigned? (2 ^ 64))).getD 0

/-- The port that the request is for, if the host is given with one. -/
def port? (h : Head) : Option Nat := do
  let host ← Named.valueOf? "host" h.headers
  match (Text.pieces ':' host.toList).reverse with
  | port :: _ :: _ => Text.unsigned? (2 ^ 16) (String.ofList port)
  | _ => none

/-- The request, once its body has arrived. -/
def request (h : Head) (body : ByteArray) : Request where
  method := h.method
  target := h.target
  contentType := Named.valueOf? "content-type" h.headers
  body := body

end Head

/-! ## Responses -/

/-- What a status stands for. -/
def statusText : Nat → String
  | 200 => "OK"
  | 201 => "Created"
  | 400 => "Bad Request"
  | 404 => "Not Found"
  | 405 => "Method Not Allowed"
  | 413 => "Payload Too Large"
  | 415 => "Unsupported Media Type"
  | 500 => "Internal Server Error"
  | 503 => "Service Unavailable"
  | _ => "Unknown"

/-- The text of a body. -/
def Body.written : Body → String
  | empty => ""
  | text s => s
  | json v => v.compact

/-- A header of a response, if there is a value for it. -/
def headerLine (name : String) : Option String → String
  | some value => name ++ ": " ++ value ++ "\r\n"
  | none => ""

/-- The text of a response. -/
def Response.written (r : Response) : String :=
  let body := r.body.written
  "HTTP/1.1 " ++ toString r.status ++ " " ++ statusText r.status ++ "\r\n"
    ++ headerLine "content-type" (r.media.map Media.name)
    ++ headerLine "cache-control" (r.caching.map Caching.text)
    ++ headerLine "content-length" (some (toString body.utf8ByteSize))
    ++ "\r\n" ++ body

/-- No request has no lines. -/
@[simp] theorem Head.ofLines?_nil : Head.ofLines? [] = none := rfl

end Api

end CatchmentPlanning
