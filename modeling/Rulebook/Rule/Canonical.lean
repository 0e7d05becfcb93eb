import Rulebook.Rule.Tree

namespace Rulebook

def leafChars (texts : List (List Char)) (capture : Option Nat) (i : Nat) : List Char :=
  (if capture = some i then ['@'] else []) ++ (texts[i]?).getD []

/-- Leaf 0, then the second leaf of each combining group after its connective. -/
def chainChars (texts : List (List Char)) (groups : List Group) (capture : Option Nat) :
    List Char :=
  leafChars texts capture 0 ++ groups.flatMap fun
    | .solo _ => []
    | .combine c _ j => ' ' :: c.token.toList ++ ' ' :: leafChars texts capture j

mutual

def Leaf.chars : Leaf → List Char
  | .check t => t.toList
  | .nested r => '(' :: r.chars ++ [')']

def Rule.chars : Rule → List Char
  | ⟨leaves, groups, capture⟩ => chainChars (charsOf leaves) groups capture

def charsOf : List Leaf → List (List Char)
  | [] => []
  | l :: ls => l.chars :: charsOf ls

end

def Rule.text (r : Rule) : String := String.ofList r.chars

end Rulebook
