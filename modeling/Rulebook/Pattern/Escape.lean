import Rulebook.Decimal.Reading
import Rulebook.Pattern.Basic
import Rulebook.Text.Hex
import Rulebook.Text.Search

namespace Rulebook.Pattern

open Text

structure Flags where
  ignoreCase : Bool := false
  lines : Bool := false
  dotAll : Bool := false
  unicode : Bool := true
  verbose : Bool := false
  returns : Bool := false

def Flags.caseRule (f : Flags) : CaseRule :=
  if !f.ignoreCase then .exact else if f.unicode then .unicode else .ascii

def Flags.isLetter (f : Flags) : Char → Bool := if f.unicode then isWord else isAsciiWord

def dropComments (inComment : Bool) : List Char → List Char
  | [] => []
  | c :: r =>
    if inComment then dropComments (c ≠ '\n') r
    else if isBlank c then dropComments false r
    else if c = '#' then dropComments true r
    else c :: r

def Flags.skip (f : Flags) (r : List Char) : List Char :=
  if f.verbose then dropComments false r else r

inductive Escape
  | literal (c : Char)
  | property (holds : Char → Bool)
  | look (l : Look)

def charOf? (n : Nat) : Option Char := if n.isValidChar then some (Char.ofNat n) else none

def fixedHex? (f : Flags) : (count : Nat) → List Char → Option (List Char × List Char)
  | 0, r => some ([], r)
  | count + 1, c :: r =>
    if isHexDigit c then
      (fixedHex? f count (f.skip r)).map fun (ds, r) ↦ (c :: ds, r)
    else none
  | _ + 1, [] => none

def bracedHex? (f : Flags) : (fuel : Nat) → List Char → Option (List Char × List Char)
  | fuel + 1, c :: r =>
    if c = '\x7d' then some ([], f.skip r)
    else if isHexDigit c then
      (bracedHex? f fuel (f.skip r)).map fun (ds, r) ↦ (c :: ds, r)
    else none
  | _, _ => none

def hexEscape? (f : Flags) (count : Nat) (r : List Char) : Option (Escape × List Char) :=
  match f.skip r with
  | '\x7b' :: s => do
    let (ds, s) ← bracedHex? f (s.length + 1) (f.skip s)
    if ds.isEmpty then none
    else some (.literal (← charOf? (hexNumber ds)), s)
  | s => do
    let (ds, s) ← fixedHex? f count s
    let c ← charOf? (hexNumber ds)
    if count = 2 && !f.unicode && 0x80 ≤ c.toNat then none else some (.literal c, s)

def bracedName? (f : Flags) : (fuel : Nat) → List Char → Option (List Char × List Char)
  | fuel + 1, c :: r =>
    if c = '\x7d' then some ([], r)
    else (bracedName? f fuel (f.skip r)).map fun (cs, r) ↦ (c :: cs, r)
  | _, _ => none

def cutName? (cs : List Char) : List String → Option (String × List Char × List Char)
  | [] => none
  | w :: ws =>
    match cutAtWord w.toList cs with
    | some (before, after) => some (w, before, after)
    | none => cutName? cs ws

def negateIf (negated : Bool) (holds : Char → Bool) : Char → Bool := fun c ↦ negated != holds c

def namedProperty? (name : List Char) : Option (Bool × (Char → Bool)) :=
  match cutName? name ["!=", ":", "="] with
  | some (w, before, after) =>
    (valuedProperty? (String.ofList before) (String.ofList after)).map ((w == "!=", ·))
  | none => (property? (String.ofList name)).map ((false, ·))

def Flags.widen (f : Flags) (holds : Char → Bool) : Char → Bool :=
  if f.ignoreCase then fun c ↦ (caseVariants c).any holds else holds

def propertyEscape? (f : Flags) (negated : Bool) (r : List Char) : Option (Escape × List Char) :=
  if !f.unicode then none
  else
    let build := fun (found : Bool × (Char → Bool)) ↦
      Escape.property (negateIf (negated != found.1) (f.widen found.2))
    match f.skip r with
    | [] => none
    | '\x7b' :: s => do
      let (name, s) ← bracedName? f (s.length + 1) (f.skip s)
      some (build (← namedProperty? name), s)
    | '\\' :: _ => none
    | c :: s => do some (build (← namedProperty? [c]), f.skip s)

def shortClass? (f : Flags) (c : Char) : Option (Char → Bool) :=
  match c with
  | 'd' => some (if f.unicode then isDecimalDigit else Char.isDigit)
  | 's' => some (if f.unicode then isBlank else isAsciiSpace)
  | 'w' => some f.isLetter
  | _ => none

def isMeta (c : Char) : Bool := "\\.+*?()|[]\x7b\x7d^$#&-~".toList.contains c

def isEscapable (c : Char) : Bool :=
  c.toNat < 0x80 && !c.isAlphanum && c != '<' && c != '>'

def boundaryEscape? (f : Flags) (r : List Char) : Option (Escape × List Char) :=
  let isNameChar := fun (c : Char) ↦ c.isAlpha || c == '-'
  match r with
  | '\x7b' :: s =>
    match f.skip s with
    | [] => none
    | c :: t =>
      if isNameChar c then
        let letters := if f.verbose then (c :: t).filter (!isBlank ·) else c :: t
        match letters.span isNameChar with
        | (name, '\x7d' :: _) =>
          let rest := ((c :: t).dropWhile (· ≠ '\x7d')).drop 1
          match String.ofList name with
          | "start" => some (.look (.wordStart f.isLetter), rest)
          | "end" => some (.look (.wordEnd f.isLetter), rest)
          | "start-half" => some (.look (.wordStartHalf f.isLetter), rest)
          | "end-half" => some (.look (.wordEndHalf f.isLetter), rest)
          | _ => none
        | _ => none
      else some (.look (.boundary f.isLetter), r)
  | _ => some (.look (.boundary f.isLetter), r)

def escape? (f : Flags) : List Char → Option (Escape × List Char)
  | [] => none
  | c :: r =>
    match c with
    | 'x' => hexEscape? f 2 r
    | 'u' => hexEscape? f 4 r
    | 'U' => hexEscape? f 8 r
    | 'p' => propertyEscape? f false r
    | 'P' => propertyEscape? f true r
    | 'a' => some (.literal '\x07', r)
    | 'f' => some (.literal '\x0c', r)
    | 't' => some (.literal '\t', r)
    | 'n' => some (.literal '\n', r)
    | 'r' => some (.literal '\r', r)
    | 'v' => some (.literal '\x0b', r)
    | 'A' => some (.look .textStart, r)
    | 'z' => some (.look .textEnd, r)
    | 'b' => boundaryEscape? f r
    | 'B' => some (.look (.noBoundary f.isLetter), r)
    | '<' => some (.look (.wordStart f.isLetter), r)
    | '>' => some (.look (.wordEnd f.isLetter), r)
    | _ =>
      match shortClass? f c, shortClass? f c.toLower with
      | some holds, _ => some (.property holds, r)
      | none, some holds => some (.property (negateIf true holds), r)
      | none, none => if isMeta c || isEscapable c then some (.literal c, r) else none

end Rulebook.Pattern
