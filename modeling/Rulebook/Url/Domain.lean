import Rulebook.Text.Search
import Rulebook.Url.Composition
import Rulebook.Url.Direction
import Rulebook.Url.Joining
import Rulebook.Url.Mapping
import Rulebook.Url.Punycode

namespace Rulebook.Url

open Text

def isForbidden (c : Char) : Bool :=
  c ≤ ' ' || c == '\x7f' || "#/:<>?@[\\]^|%".toList.contains c

def codedLabel? : List Char → Option (List Char)
  | 'x' :: 'n' :: '-' :: '-' :: r => some r
  | _ => none

def isAscii (cs : List Char) : Bool := cs.all (·.toNat < 0x80)

def isPlainForm (label : List Char) : Bool :=
  label.all isStable && composed label == label && (codedLabel? label).isNone

def decodedLabel? (label : List Char) : Option (List Char) :=
  match codedLabel? label with
  | none => some label
  | some code =>
    if isAscii label then
      (decodePunycode? code).filter fun decoded ↦ !isAscii decoded && isPlainForm decoded
    else none

def isValidLabel (label : List Char) : Bool :=
  !label.any isForbidden && !beginsWithMark label && joinersFit [] label

/-- The labels of a domain name in plain form, or none if the name is not allowed. Empty labels
are. -/
def labels? (name : List Char) : Option (List (List Char)) := do
  let mapped ← name.mapM mapped?
  let labels ← (splitAt '.' (composed mapped.flatten)).mapM decodedLabel?
  let directed := !labels.any hasRightToLeft || labels.all keepsDirection
  if labels.all isValidLabel && directed then some labels else none

end Rulebook.Url
