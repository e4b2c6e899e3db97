import SearchStore.Engine.Answer
import SearchStore.Json.Parser
import SearchStore.Json.Printer
import SearchStore.Text.Percent

/-! # Requests and responses

What is sent to the engine and what comes back, without the connection.
-/

namespace SearchStore

inductive Method where
  | get
  | head
  | post
  | put
  | delete
deriving DecidableEq, Repr

namespace Method

def all : List Method := [.get, .head, .post, .put, .delete]

def name : Method → String
  | .get => "GET"
  | .head => "HEAD"
  | .post => "POST"
  | .put => "PUT"
  | .delete => "DELETE"

end Method

/-! ## Paths -/

/-- Whether a character stands in a segment of a path as it is. Controls,
blanks, characters beyond ASCII and those that have a meaning in URLs do not.
Stars and commas do: patterns of indices need them. -/
def plainInSegment (c : Char) : Bool :=
  0x20 < c.toNat && c.toNat < 0x7F &&
    !(['"', '#', '%', '/', '<', '>', '?', '`', '\x7b', '\x7d', '|', '\\', '^'].contains c)

/-- A segment of a path, encoded. -/
def segment (s : String) : String := Text.Percent.encode plainInSegment s

/-- The path of some segments. -/
def pathOf (segments : List String) : String :=
  String.join (segments.map fun s => "/" ++ segment s)

/-! ## Requests -/

/-- The body of a request: one JSON value, or lines of JSON values. -/
inductive RequestBody where
  | json (j : Json)
  | lines (text : String)

namespace RequestBody

def contentType : RequestBody → String
  | .json _ => "application/json"
  | .lines _ => "application/x-ndjson"

def text : RequestBody → String
  | .json j => j.render
  | .lines text => text

end RequestBody

/-- A request. The operation is a label for metrics. -/
structure Request where
  method : Method
  path : String
  operation : String
  parameters : List (String × String) := []
  body : Option RequestBody := none

namespace Request

def withParameter (r : Request) (name value : String) : Request :=
  { r with parameters := r.parameters ++ [(name, value)] }

def withJson (r : Request) (j : Json) : Request := { r with body := some (.json j) }

def withLines (r : Request) (text : String) : Request := { r with body := some (.lines text) }

/-- The value of the first parameter with a name. -/
def parameter? (r : Request) (name : String) : Option String := Json.lookup name r.parameters

/-- The body, if it is one JSON value. -/
def jsonBody? (r : Request) : Option Json :=
  match r.body with
  | some (.json j) => some j
  | _ => none

/-- The path, followed by the parameters if there are any. -/
def pathAndQuery (r : Request) : String :=
  if r.parameters.isEmpty then r.path
  else r.path ++ "?" ++ String.ofList (Text.Percent.query r.parameters)

end Request

/-! ## Responses -/

/-- A response: its status and the bytes of its body. -/
structure Response where
  status : Nat
  body : List UInt8

/-- A body as the draft of a JSON value. -/
def bodyDraft? (body : List UInt8) : Option Json.Draft :=
  Json.Draft.ofSymbols? (Text.Utf8.symbols body)

/-- The error for a response that is no success: the reason that the engine
gives, or else the body as text, or else the status. -/
def Error.ofEngine (status : Nat) (body : List UInt8) : Error :=
  let given := ((bodyDraft? body).bind ErrorAnswer.decode?).bind ErrorAnswer.reason?
  let raw := Text.trim (Text.Utf8.lenient body)
  let reason := given.getD (if raw.isEmpty then "HTTP status " ++ toString status else raw)
  .engine status reason

namespace Response

def isSuccess (r : Response) : Bool := 200 ≤ r.status && r.status < 300

/-- The response itself if it is a success. -/
def checked (r : Response) : Except Error Response :=
  if r.isSuccess then .ok r else .error (.ofEngine r.status r.body)

/-- The body read as a record. -/
def read {α : Type} (decode : Json.Draft → Option α) (r : Response) : Except Error α :=
  match (bodyDraft? r.body).bind decode with
  | some x => .ok x
  | none => .error .json

/-- The body as a canonical value. -/
def json (r : Response) : Except Error Json := r.read fun d => d.toJson?.map Json.canonical

end Response

end SearchStore
