import SearchStore.Url.Encoding

/-! # Paths

A path is a row of segments between slashes. Segments of dots stand for the
place where they are or for the one above, and are resolved while the path is
read.
-/

namespace SearchStore.Url

/-- Whether a character ends the part with the host. -/
def endsAuthority (k : Kind) (c : Char) : Bool :=
  c = '/' || c = '?' || c = '#' || (k.isSpecial && c = '\\')

/-- A segment that stands for the place where it is. -/
def isDot (s : String) : Bool := [".", "%2e", "%2E"].contains s

/-- A segment that stands for the place above. -/
def isDoubleDot (s : String) : Bool :=
  ["..", ".%2e", ".%2E", "%2e.", "%2E.", "%2e%2e", "%2e%2E", "%2E%2e", "%2E%2E"].contains s

/-- The segments between slashes. -/
def splitPath (k : Kind) (cs : List Char) : List (List Char) :=
  Text.splitOn '/' (if k.isSpecial then cs.map fun c => if c = '\\' then '/' else c else cs)

/-- A letter and a colon or a bar, which name a drive. -/
def isDrive (s : String) : Bool :=
  match s.toList with
  | [c, mark] => c.isAlpha && (mark = ':' || mark = '|')
  | _ => false

/-- The place above some segments, which are given in reverse. Nothing is above a drive. -/
def above : List String → List String
  | [] => []
  | s :: before => if isDrive s then s :: before else before

/-- Puts a segment behind others, which are given in reverse. -/
def addSegment (before : List String) (s : String) : List String :=
  if isDoubleDot s then above before
  else if isDot s then before
  else s :: before

/-- Whether a segment stands for a place. -/
def isDots (s : String) : Bool := isDot s || isDoubleDot s

/-- The segments after all dots are resolved, in reverse. A dot at the end
leaves an empty segment. -/
def resolve (before : List String) : List String → List String
  | [] => before
  | [last] =>
    if isDots last then "" :: addSegment before last
    else last :: before
  | s :: rest => resolve (addSegment before s) rest

/-- The segments of the characters after the first slash of a path. -/
def segmentsOf (k : Kind) (cs : List Char) : List String :=
  (resolve [] ((splitPath k cs).map (encoded plainInPath))).reverse

/-- The path that begins after a host. -/
def pathAfterHost (k : Kind) (cs : List Char) : Path :=
  match cs with
  | [] => .segments (if k.isSpecial then [""] else [])
  | c :: rest =>
    if c = '/' || (k.isSpecial && c = '\\') then .segments (segmentsOf k rest)
    else .segments (segmentsOf k cs)

end SearchStore.Url
