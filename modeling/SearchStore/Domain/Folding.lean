import SearchStore.Domain.Folding.Table
import SearchStore.Text.Blank
import SearchStore.Text.Visible

/-! # What the characters of a name stand for

Names are compared without regard to case and to the forms of characters: each
character stands for one, for several or for none. Others stand for
themselves, unless no name can hold them.
-/

namespace SearchStore.Domain

/-- The character that the one with number `n` stands for by a run. -/
def FoldRun.target? (r : FoldRun) (n : Nat) : Option Char :=
  if r.first ≤ n && n ≤ r.last && (n - r.first) % r.stride = 0 then
    some (Char.ofNat (r.target + (n - r.first) / r.stride * r.advance))
  else none

/-- What the characters of a list stand for, one after the other. -/
def FoldList.words (l : FoldList) : Array (List Char) :=
  (Text.splitOn ' ' l.targets.toList).toArray

/-- The lists in a form that can be searched. -/
def foldWords : List (Nat × Array (List Char)) := foldLists.map fun l => (l.first, l.words)

/-- What a character that is in no run stands for. -/
def listed? (n : Nat) : Option (List Char) :=
  foldWords.findSome? fun (first, words) => if first ≤ n then words[n - first]? else none

/-- Whether a name can hold a character beyond ASCII that stands for itself. Of the hidden ones
it can hold those that join letters or keep them apart. -/
def canHold (c : Char) : Bool :=
  if Text.isHidden c then c = '\u200C' || c = '\u200D'
  else !Text.inRanges c.toNat excludedRanges

/-- What a character stands for, if a name can hold that. -/
def fold? (c : Char) : Option (List Char) :=
  let n := c.toNat
  if n < 0x80 then some [c.toLower]
  else if Text.inRanges n ignoredRanges then some []
  else
    match foldRuns.findSome? fun r => r.target? n with
    | some d => some [d]
    | none =>
      match listed? n with
      | some cs => some cs
      | none => if canHold c then some [c] else none

/-- What the characters of a name stand for. -/
def foldAll? (cs : List Char) : Option (List Char) := (cs.mapM fold?).map List.flatten

end SearchStore.Domain
