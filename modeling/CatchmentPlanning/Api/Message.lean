import CatchmentPlanning.Attributes
import CatchmentPlanning.Text.Pieces
import CatchmentPlanning.Text.Blank

/-!
# Requests and responses

What passes between a client and the service, reduced to what the service looks
at: of a request the method, the path, the media type and the body, and of a
response the status, the media type, how long it may be cached, and the body.
-/

namespace CatchmentPlanning

namespace Api

/-! ## Media types -/

/-- The media types that are read and written. -/
inductive Media where
  | json
  | toml
  | csv
  | plain
deriving Repr, DecidableEq

/-- The name of a media type. -/
def Media.name : Media → String
  | json => "application/json"
  | toml => "application/toml"
  | csv => "text/csv"
  | plain => "text/plain; charset=utf-8"

/-! ## Requests -/

/-- A request. -/
structure Request where
  method : String
  /-- The path, still percent-encoded, with its query. -/
  target : String
  /-- The media type of the body, as the client gives it. -/
  contentType : Option String
  body : ByteArray

namespace Request

/-- Whether a header with these characters can be read as text. -/
def isReadable (value : String) : Bool :=
  value.toList.all fun c => c = '\t' || (0x20 ≤ c.toNat && c.toNat < 0x7f)

/-- The media type of the body; a missing or unreadable one is empty. -/
def mediaText (r : Request) : String :=
  match r.contentType with
  | some value => if isReadable value then value else ""
  | none => ""

/-- The media type without its parameters. -/
def essence (r : Request) : String :=
  match Text.pieces ';' r.mediaText.toList with
  | first :: _ => String.ofList (Text.trimmed first)
  | [] => ""

/-- Whether the body is said to be of a media type; letter case does not count. -/
def isOf (r : Request) (media : Media) : Bool :=
  r.essence.toLower == media.name

/-- The path without its query. -/
def path (r : Request) : String :=
  String.ofList (r.target.toList.takeWhile fun c => c ≠ '?' && c ≠ '#')

end Request

/-! ## Responses -/

/-- How long a response may be cached. -/
inductive Caching where
  | maxAge (seconds : Nat)
  | noCache
  | anyone
deriving Repr, DecidableEq

/-- The text of a caching rule. -/
def Caching.text : Caching → String
  | maxAge seconds => "max-age=" ++ toString seconds
  | noCache => "no-cache"
  | anyone => "public"

/-- The body of a response. -/
inductive Body where
  | empty
  | text (s : String)
  | json (v : Json)

/-- A response. -/
structure Response where
  status : Nat
  media : Option Media
  caching : Option Caching
  body : Body

namespace Response

/-- A response with a JSON body that may be cached. -/
def view (v : Json) (caching : Caching) (status : Nat := 200) : Response :=
  ⟨status, some .json, some caching, .json v⟩

/-- A response with a text that was posted before. -/
def posted (media : Media) (text : String) (caching : Caching) : Response :=
  ⟨200, some media, some caching, .text text⟩

/-- A response with a text in no particular format. -/
def plain (status : Nat) (text : String) : Response := ⟨status, some .plain, none, .text text⟩

/-- The report of a success. -/
def success (now message : String) : Response where
  status := 200
  media := some .json
  caching := none
  body := .json (.obj [("Type", .str "SUCCESS"), ("Message", .str message), ("Time", .str now)])

/-- The response without its body. -/
def withoutBody (r : Response) : Response := { r with body := .empty }

/-- Whether the request was carried out. -/
def isSuccess (r : Response) : Bool := 200 ≤ r.status && r.status < 300

end Response

end Api

end CatchmentPlanning
