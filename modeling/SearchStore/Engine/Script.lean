import SearchStore.Bulk.Item
import SearchStore.Engine.Session

/-! # Scripted engines

A server whose replies are laid down beforehand. Each reply is given once,
unless it is lasting, and may be kept for one path. Bulk requests can be
acknowledged: every item gets the same result, apart from members that are set
for its id.
-/

namespace SearchStore

/-- What the items of an acknowledged bulk request get. -/
structure Acknowledgement where
  status : Nat := 200
  result : Option Json := none
  /-- Members of the result of an item, by its id. -/
  special : List (String × Json) := []

/-- What a scripted engine does with a request. -/
inductive Reply where
  /-- No answer comes back. -/
  | failure (reason : String)
  | response (r : Response)
  | acknowledge (a : Acknowledgement)

/-- A reply, and when it is given. -/
structure ScriptedReply where
  /-- The path for which the reply is kept. -/
  path : Option String := none
  lasting : Bool := false
  reply : Reply

namespace Acknowledgement

/-- The members that are set for an id. -/
def specialMembers (a : Acknowledgement) (id : Json) : List (String × Json) :=
  match id with
  | .str id => ((Json.lookup id a.special).bind Json.asMembers?).getD []
  | _ => []

/-- The result of an item that a line of a bulk request names. -/
def item (a : Acknowledgement) (action : String) (target : Json) : Json :=
  let id := (target.get? "_id").getD .null
  let shared := [("_index", (target.get? "_index").getD .null), ("_id", id),
    ("status", Json.ofNat a.status)] ++ Json.optionalMember "result" a.result
  .obj [(action, Json.ofMembers (shared ++ a.specialMembers id))]

/-- The results for the lines of a bulk request. An item has two lines, but a
deletion has one. -/
def items (a : Acknowledgement) : List Json → List Json
  | [] => []
  | .obj [("delete", target)] :: rest => a.item "delete" target :: a.items rest
  | .obj [(action, target)] :: _ :: rest => a.item action target :: a.items rest
  | .obj [(action, target)] :: [] => [a.item action target]
  | _ :: rest => a.items rest

/-- The answer to a bulk request. -/
def response (a : Acknowledgement) (r : Request) : Response :=
  let text := (r.body.map RequestBody.text).getD ""
  let lines := (Text.splitOn '\n' text.toList).filterMap (Json.parse? ∘ String.ofList)
  let answer := Json.obj
    [("took", .int 1), ("errors", .bool false), ("items", .arr (a.items lines))]
  ⟨200, Text.Utf8.encode answer.render⟩

end Acknowledgement

namespace Reply

def toAnswer (r : Request) : Reply → Except Error Response
  | .failure reason => .error (.transport reason)
  | .response answer => .ok answer
  | .acknowledge a => .ok (a.response r)

end Reply

/-- The replies that are left. -/
abbrev Script := List ScriptedReply

namespace Script

/-- Whether a reply is given to requests for a path. -/
def suits (path : String) (s : ScriptedReply) : Bool := s.path.all (· = path)

/-- Takes the first reply that suits out of the script, or leaves it there if
it is lasting. -/
def take (path : String) : Script → Option Reply × Script
  | [] => (none, [])
  | s :: rest =>
    if suits path s then (some s.reply, if s.lasting then s :: rest else rest)
    else
      let (reply, rest) := take path rest
      (reply, s :: rest)

/-- The engine that follows the script. -/
def serve : Session.Server Script := fun r script =>
  match take r.path script with
  | (some reply, script) => (reply.toAnswer r, script)
  | (none, script) => (.error (.transport ("no response for " ++ r.path)), script)

end Script

end SearchStore
