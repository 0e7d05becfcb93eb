import Rulebook.Fault
import Rulebook.Rule.Balance
import Rulebook.Text.Blank
import Rulebook.Text.Lowercase

namespace Rulebook

open Text

structure Call where
  name : String
  arguments : List String
deriving DecidableEq, Repr

structure Check where
  typeName : String
  calls : List Call
deriving DecidableEq, Repr

def cutAt (c : Char) : List Glyph → Option (List Glyph × List Glyph)
  | [] => none
  | g :: r =>
    if g = .plain c then some ([], r)
    else (cutAt c r).map fun (before, after) ↦ (g :: before, after)

def extendFirst (gs : List Glyph) : List Glyph × List (List Glyph) → List Glyph × List (List Glyph)
  | (first, rest) => (gs ++ first, rest)

/-- The first part and the others. A doubled `&` never separates. -/
def partsFrom (separates : Char → Bool) (depth : Nat) : List Glyph → List Glyph × List (List Glyph)
  | [] => ([], [])
  | .plain '&' :: .plain '&' :: r =>
    extendFirst [.plain '&', .plain '&'] (partsFrom separates depth r)
  | .plain c :: r =>
    if depth = 0 && separates c then
      let (first, rest) := partsFrom separates depth r
      ([], first :: rest)
    else extendFirst [.plain c] (partsFrom separates (depthAfter depth (.plain c)) r)
  | g :: r => extendFirst [g] (partsFrom separates depth r)

def parts (separates : Char → Bool) (cs : List Char) : List (List Char) :=
  let (first, rest) := partsFrom separates 0 (glyphs cs)
  (first :: rest).map chars

/-- Drops backslashes outside brackets. Those inside belong to a nested rule. -/
def resolveFrom (depth : Nat) : List Glyph → List Char
  | [] => []
  | g :: r =>
    let kept := match g with
      | .escaped c => if depth = 0 then [c] else ['\\', c]
      | .dangling => if depth = 0 then [] else ['\\']
      | .plain c => [c]
    kept ++ resolveFrom (depthAfter depth g) r

def resolveEscapes (cs : List Char) : List Char := resolveFrom 0 (glyphs cs)

def dropLast? (c : Char) (cs : List Char) : Option (List Char) :=
  if cs.getLast? = some c then some cs.dropLast else none

def argumentsOf (body : List Char) : List String :=
  if (trim body).isEmpty then []
  else (parts (fun c ↦ c = ',' || c = '&') body).map fun a ↦
    String.ofList (resolveEscapes (trim a))

def Call.read (text : List Char) : Except Mistake Call :=
  let text := trim text
  if text.isEmpty then .error .emptyCall
  else match cutAt '(' (glyphs text) with
    | none => .ok ⟨lower (String.ofList text), []⟩
    | some (before, after) =>
      let name := lower (String.ofList (trim (chars before)))
      match dropLast? ')' (chars after) with
      | none => .error (.openCall name)
      | some body => .ok ⟨name, argumentsOf body⟩

def readTypeName (text : List Char) : Except Mistake String :=
  let name := trim text
  if name.isEmpty then .error .noType else .ok (lower (String.ofList name))

/-- Mistakes in the calls are found before a missing type. -/
def Check.read (text : String) : Except Mistake Check :=
  let text := trim text.toList
  match cutAt '[' (glyphs text) with
  | none => do
    let type ← readTypeName text
    .ok ⟨type, []⟩
  | some (before, after) =>
    match dropLast? ']' (chars after) with
    | none => .error .openBracket
    | some inner => do
      let calls ← (parts (· = '&') inner).mapM Call.read
      let type ← readTypeName (chars before)
      .ok ⟨type, calls⟩

end Rulebook
