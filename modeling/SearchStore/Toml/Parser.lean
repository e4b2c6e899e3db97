import SearchStore.Toml.Quoted
import SearchStore.Toml.Scalar
import SearchStore.Toml.Table

/-! # Reading TOML

A document is a sequence of lines, each of which names a table or gives a
value to a key. Arrays may stretch over several lines, other values may not.
-/

namespace SearchStore.Toml

/-! ## Between the parts -/

def dropBlanks (cs : List Char) : List Char := cs.dropWhile isBlank

/-- Skips blanks, line breaks and comments. In a comment `inside` is set. -/
def skipGap? (inside : Bool) : List Char → Option (List Char)
  | [] => some []
  | '\r' :: '\n' :: rest => skipGap? false rest
  | c :: rest =>
    if c = '\n' then skipGap? false rest
    else if inside then (if isControl c then none else skipGap? true rest)
    else if isBlank c then skipGap? false rest
    else if c = '#' then skipGap? true rest
    else some (c :: rest)

/-- What follows the end of a line. -/
def endLine? (cs : List Char) : Option (List Char) :=
  match dropBlanks cs with
  | [] => some []
  | '\n' :: rest => some rest
  | '\r' :: '\n' :: rest => some rest
  | '#' :: rest => skipGap? true rest
  | _ => none

/-! ## Keys -/

/-- Whether a character stands in a key without quotes. -/
def isKeyChar (c : Char) : Bool := c.isAlphanum || c = '_' || c = '-'

/-- A name at the front of a text, and what follows it. -/
def name? (cs : List Char) : Option (String × List Char) :=
  match cs.span isKeyChar with
  | ([], _) => (lineString? cs).map fun (name, rest) => (String.ofList name, rest)
  | (name, rest) => some (String.ofList name, rest)

/-- The most names of a key, and the most values within each other. -/
def depthLimit : Nat := 79

/-- The names of a key: those before the last one, and the last one. -/
def key? : Nat → List Char → Option ((List String × String) × List Char)
  | 0, _ => none
  | n + 1, cs => do
    let (name, rest) ← name? (dropBlanks cs)
    match dropBlanks rest with
    | '.' :: rest =>
      let ((way, last), rest) ← key? n rest
      return ((name :: way, last), rest)
    | rest => return (([], name), rest)

/-- A key and the sign after it. -/
def keyBefore? (sign : Char) (cs : List Char) : Option ((List String × String) × List Char) := do
  let (key, rest) ← key? depthLimit cs
  match rest with
  | c :: rest => if c = sign then return (key, rest) else none
  | [] => none

/-! ## Values -/

mutual

/-- A value at the front of a text, and what follows it. `room` is how many
values may still be within each other, and `fuel` at least twice the number of
characters. -/
def value? (room : Nat) : Nat → List Char → Option (Json × List Char)
  | 0, _ => none
  | fuel + 1, cs =>
    match cs with
    | '[' :: rest =>
      if room = 0 then none
      else do
        let (items, rest) ← items? (room - 1) fuel (← skipGap? false rest)
        return (.arr items, rest)
    | '{' :: rest =>
      if room = 0 then none
      else
        match dropBlanks rest with
        | '}' :: rest => some (.obj [], rest)
        | rest => do
          let (ms, rest) ← entries? (room - 1) fuel [] rest
          return (.obj (membersJson ms), rest)
    | '"' :: _ | '\'' :: _ => (string? cs).map fun (s, rest) => (.str (String.ofList s), rest)
    | _ =>
      let (word, rest) := cutWord cs
      (ofWord? word).map fun j => (j, rest)

/-- The rest of an array, from a place without gap. A comma may follow the
last item. -/
def items? (room : Nat) : Nat → List Char → Option (List Json × List Char)
  | 0, _ => none
  | fuel + 1, cs =>
    match cs with
    | ']' :: rest => some ([], rest)
    | _ => do
      let (item, rest) ← value? room fuel cs
      match ← skipGap? false rest with
      | ',' :: rest =>
        let (items, rest) ← items? room fuel (← skipGap? false rest)
        return (item :: items, rest)
      | ']' :: rest => return ([item], rest)
      | _ => none

/-- The rest of a table on one line, after the members `ms`. -/
def entries? (room : Nat) : Nat → Members → List Char → Option (Members × List Char)
  | 0, _, _ => none
  | fuel + 1, ms, cs => do
    let ((way, name), rest) ← keyBefore? '=' cs
    let (j, rest) ← value? room fuel (dropBlanks rest)
    let ms ← Members.assign name j way ms
    match dropBlanks rest with
    | ',' :: rest => entries? room fuel ms rest
    | '}' :: rest => return (ms, rest)
    | _ => none

end

/-! ## Documents -/

/-- A statement at the front of a text, and what follows it on its line. -/
def statement? : List Char → Option (Statement × List Char)
  | '[' :: '[' :: rest => do
    let ((way, name), rest) ← keyBefore? ']' rest
    match rest with
    | ']' :: rest => return (.repeated way name, rest)
    | _ => none
  | '[' :: rest => do
    let ((way, name), rest) ← keyBefore? ']' rest
    return (.header way name, rest)
  | cs => do
    let ((way, name), rest) ← keyBefore? '=' cs
    let value := dropBlanks rest
    let (j, rest) ← value? depthLimit (2 * value.length + 2) value
    return (.assign way name j, rest)

/-- The statements of a text; `fuel` is at least the number of characters. -/
def statements? : Nat → List Char → Option (List Statement)
  | fuel, cs => do
    match ← skipGap? false cs with
    | [] => return []
    | cs =>
      match fuel with
      | 0 => none
      | fuel + 1 =>
        let (s, rest) ← statement? cs
        return s :: (← statements? fuel (← endLine? rest))

/-- The characters of a document. A mark of the order of bytes at the
beginning is not part of it. -/
def contents (s : String) : List Char :=
  match s.toList with
  | '\uFEFF' :: rest => rest
  | cs => cs

/-- The value of a document. -/
def parse? (s : String) : Option Json := do
  let cs := contents s
  let statements ← statements? cs.length cs
  return .obj (membersJson (← build [] [] statements))

end SearchStore.Toml
