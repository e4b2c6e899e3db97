import SearchStore.Url.Path

/-! # Paths of files

The path of a file may begin with a drive, which takes the place of a host. A
drive is a segment of its own, also where the text breaks after it and goes on
without a slash.
-/

namespace SearchStore.Url

/-! ## Segments -/

/-- A drive, written with a colon. -/
def driveName (s : String) : String := String.ofList (s.toList.take 1 ++ [':'])

/-- A drive and what follows it in the same segment after a break. -/
def cutDrive? (cs : List Char) : Option (String × List Char) :=
  match cs.dropWhile isBreak with
  | [] => none
  | c :: more =>
    match more.dropWhile isBreak with
    | ':' :: b :: rest =>
      if c.isAlpha && isBreak b && !(unbroken rest).isEmpty then
        some (String.ofList [c, ':'], unbroken rest)
      else none
    | _ => none

/-- What is read of the path of a file. -/
structure FilePath where
  /-- The segments, in reverse. -/
  before : List String := []
  /-- Whether a drive takes the place of the host. -/
  replacesHost : Bool := false

namespace FilePath

/-- Puts a segment behind the others. -/
def add (p : FilePath) (cs : List Char) : FilePath :=
  let s := encoded plainInPath (unbroken cs)
  if p.before.isEmpty then
    if isDrive s then { before := [driveName s], replacesHost := true }
    else
      match cutDrive? cs with
      | some (drive, rest) => { p with before := [encoded plainInPath rest, drive] }
      | none => { p with before := addSegment [] s }
  else { p with before := addSegment p.before s }

/-- Puts segments behind the others. Dots at the end leave an empty segment. -/
def addAll (p : FilePath) : List (List Char) → FilePath
  | [] => p
  | [last] =>
    let q := p.add last
    if isDots (encoded plainInPath (unbroken last)) then { q with before := "" :: q.before } else q
  | cs :: rest => (p.add cs).addAll rest

/-- The path. No empty segments stand at its beginning. -/
def path (p : FilePath) : Path :=
  match p.before.reverse.dropWhile String.isEmpty with
  | [] => .segments [""]
  | segments => .segments segments

end FilePath

/-- The path of a file, from its characters after the first slash. -/
def readFilePath (cs : List Char) : FilePath := FilePath.addAll {} (splitPath .file cs)

/-! ## Hosts -/

/-- What follows a slash. -/
def cutSlash? (cs : List Char) : Option (List Char) :=
  match cs.dropWhile isBreak with
  | [] => none
  | c :: rest => if c = '/' || c = '\\' then some rest else none

/-- The host of a file, and the characters of its path after the first slash. Where no host
stands after two slashes, the slash that follows them is not the first one of the path. -/
def readFileHost (cs : List Char) : Except Error (Host × List Char) :=
  match cutSlash? cs with
  | none => .ok (.name "", cs)
  | some one =>
    match cutSlash? one with
    | none => .ok (.name "", one)
    | some two => do
      let (host, after) := cutBefore (endsAuthority .file) two
      let host := unbroken host
      if host.isEmpty then return (.name "", after)
      else if isDrive (String.ofList host) then return (.name "", two)
      else
        let h ← webHost host
        return if h = .name "localhost" then (.name "", after)
          else (h, (cutSlash? after).getD after)

/-- The host and the path of a file, from what follows the scheme up to `?` or `#`. -/
def readFileParts (cs : List Char) : Except Error (Host × Path) := do
  let (host, after) ← readFileHost cs
  let p := readFilePath after
  return (if p.replacesHost then .name "" else host, p.path)

end SearchStore.Url
