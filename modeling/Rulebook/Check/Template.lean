import Rulebook.Text.Search

namespace Rulebook

open Text

/-- Fills in the arguments numbered below `n`, the highest number first, so that `%1` leaves `%10`
alone. -/
def fillNumbered (arguments : List String) (template : List Char) : Nat → List Char
  | 0 => template
  | n + 1 =>
    let filled := replace ('%' :: (toString n).toList) ((arguments[n]?).getD "").toList template
    fillNumbered arguments filled n

def fillTemplate (template : String) (arguments : List String) : String :=
  let filled := fillNumbered arguments template.toList arguments.length
  String.ofList (replace "%all".toList (", ".intercalate arguments).toList filled)

end Rulebook
