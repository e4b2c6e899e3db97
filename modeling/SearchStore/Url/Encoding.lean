import SearchStore.Url.Host

/-! # The characters of a URL

Which characters of a text belong to a URL, and which of them stand as they
are in each of its parts. The others are encoded.
-/

namespace SearchStore.Url

/-- Controls and spaces around a URL do not belong to it. -/
def isPadding (c : Char) : Bool := c.toNat ≤ 0x20

/-- The characters of a text without those around a URL. -/
def unpadded (s : String) : List Char :=
  ((s.toList.dropWhile isPadding).reverse.dropWhile isPadding).reverse

def isBreak (c : Char) : Bool := c = '\t' || c = '\n' || c = '\r'

/-- The characters without tabs and line breaks, which are not there for a URL. -/
def unbroken (cs : List Char) : List Char := cs.filter fun c => !isBreak c

/-- Whether a character is written as it is in a fragment. -/
def plainInFragment (c : Char) : Bool :=
  plainAscii c && !([' ', '"', '<', '>', '`'].contains c)

/-- Whether a character is written as it is in a path. -/
def plainInPath (c : Char) : Bool :=
  plainInFragment c && !(['#', '?', '\x7b', '\x7d'].contains c)

/-- Whether a character is written as it is in credentials. -/
def plainInCredentials (c : Char) : Bool :=
  plainInPath c && !(['/', ':', ';', '=', '@', '[', '\\', ']', '^', '|'].contains c)

/-- Whether a character is written as it is in a query. -/
def plainInQuery (k : Kind) (c : Char) : Bool :=
  plainAscii c && !([' ', '"', '#', '<', '>'].contains c) && !(k.isSpecial && c = '\'')

/-- Characters with those encoded that fail `plain`. -/
def encoded (plain : Char → Bool) (cs : List Char) : String :=
  Text.Percent.encode plain (String.ofList cs)

/-- The characters up to the first one that satisfies `stop`, and the rest. -/
def cutBefore (stop : Char → Bool) (cs : List Char) : List Char × List Char :=
  cs.span fun c => !stop c

end SearchStore.Url
