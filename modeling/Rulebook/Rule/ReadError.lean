namespace Rulebook

inductive Bracket
  | round
  | square
deriving DecidableEq, Repr

inductive ReadError
  | empty
  | tooLarge (limit size : Nat)
  | tooDeep (limit depth : Nat)
  | unbalanced (bracket : Bracket) (position : Nat)
  | emptyCheck (position : Nat)
  | secondCapture (position : Nat)
  | mixedConnectives
deriving DecidableEq, Repr

def Bracket.word : Bracket → String
  | .round => "parenthesis"
  | .square => "bracket"

def ReadError.message : ReadError → String
  | .empty => "rule is empty"
  | .tooLarge limit size =>
    "rule exceeds size limit: " ++ toString size ++ " bytes (max " ++ toString limit ++ ")"
  | .tooDeep limit depth =>
    "rule nesting exceeds limit: depth " ++ toString depth ++ " (max " ++ toString limit ++ ")"
  | .unbalanced b p => "unbalanced " ++ b.word ++ " at " ++ toString p
  | .emptyCheck p => "empty check at " ++ toString p
  | .secondCapture p => "more than one captured check at " ++ toString p
  | .mixedConnectives => "rule mixes `&&` and `||` without parentheses"

end Rulebook
