import SearchStore.Json.Draft
import SearchStore.Json.Token

/-! # Reading JSON

Tokens become a draft on a stack of the arrays and objects that are still
open. Those that are nested deeper than `depthLimit` are read through but have
no value.
-/

namespace SearchStore.Json

/-- The deepest nesting of arrays and objects that has a value. -/
def depthLimit : Nat := 127

namespace Parser

/-- An array or object that is still open, with its parts in reverse. -/
inductive Frame where
  | array (done : List Draft)
  /-- `name` is the name of the member that is being read. -/
  | object (done : List (Option String × Draft)) (name : Option String)

/-- What the text may go on with. -/
inductive Expects where
  /-- A value. -/
  | value
  /-- The first item of an array, or its end. -/
  | firstItem
  /-- The first name of an object, or its end. -/
  | firstName
  /-- Another name of an object. -/
  | name (done : List (Option String × Draft))
  /-- The colon after a name. -/
  | colon (done : List (Option String × Draft)) (name : Option String)
  /-- What follows a finished value. -/
  | after (d : Draft)

/-- The open arrays and objects, innermost first, and what comes next. -/
structure State where
  frames : List Frame
  expects : Expects

/-- Nothing is read yet. -/
def start : State := ⟨[], .value⟩

/-- The state after a string or a scalar, which may have no value. -/
def afterLeaf (frames : List Frame) (value : Option Json) : State :=
  ⟨frames, .after ((value.map .leaf).getD .unreadable)⟩

/-- The state after an array or object inside the open ones. -/
def afterBracket (frames : List Frame) (d : Draft) : State :=
  ⟨frames, .after (if frames.length < depthLimit then d else .unreadable)⟩

/-- The start of a value. -/
def beginValue (frames : List Frame) : Token → Option State
  | .scalar value => some (afterLeaf frames value)
  | .str content => some (afterLeaf frames (content.map .str))
  | .openArray => some ⟨.array [] :: frames, .firstItem⟩
  | .openObject => some ⟨frames, .firstName⟩
  | _ => none

/-- What a finished value adds to the innermost open array or object. -/
def endValue (frames : List Frame) (d : Draft) : Token → Option State
  | .comma =>
    match frames with
    | .array done :: rest => some ⟨.array (d :: done) :: rest, .value⟩
    | .object done name :: rest => some ⟨rest, .name ((name, d) :: done)⟩
    | [] => none
  | .closeArray =>
    match frames with
    | .array done :: rest => some (afterBracket rest (.arr (d :: done).reverse))
    | _ => none
  | .closeObject =>
    match frames with
    | .object done name :: rest => some (afterBracket rest (.obj ((name, d) :: done).reverse))
    | _ => none
  | _ => none

/-- One token. An object whose next name is still to come is not on the stack:
its members wait in what is expected. -/
def step (s : State) (t : Token) : Option State :=
  match s.expects with
  | .value => beginValue s.frames t
  | .firstItem =>
    match t, s.frames with
    | .closeArray, .array _ :: rest => some (afterBracket rest (.arr []))
    | t, frames => beginValue frames t
  | .firstName =>
    match t with
    | .closeObject => some (afterBracket s.frames (.obj []))
    | .str name => some ⟨s.frames, .colon [] name⟩
    | _ => none
  | .name done =>
    match t with
    | .str name => some ⟨s.frames, .colon done name⟩
    | _ => none
  | .colon done name =>
    match t with
    | .colon => some ⟨.object done name :: s.frames, .value⟩
    | _ => none
  | .after d => endValue s.frames d t

/-- The draft of a finished text. -/
def finish? : State → Option Draft
  | ⟨[], .after d⟩ => some d
  | _ => none

/-- All tokens from a state on. -/
def run (s : State) : List Token → Option State
  | [] => some s
  | t :: rest => (step s t).bind fun s => run s rest

end Parser

/-- The draft of a list of tokens. -/
def Draft.ofTokens? (ts : List Token) : Option Draft :=
  (Parser.run Parser.start ts).bind Parser.finish?

/-- The draft of a text. -/
def Draft.ofSymbols? (symbols : List Symbol) : Option Draft :=
  (Token.ofSymbols? symbols).bind Draft.ofTokens?

/-- The value of a text, with members as they are written. -/
def parseText? (s : String) : Option Json :=
  (Draft.ofSymbols? (symbolsOf s)).bind Draft.toJson?

/-- The canonical value of a text. -/
def parse? (s : String) : Option Json := (parseText? s).map canonical

end SearchStore.Json
