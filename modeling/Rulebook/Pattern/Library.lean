namespace Rulebook

/-- Regular expressions as another library knows them. The text of a pattern is compiled, unless the
library says in its own words why it cannot be, and a text is then searched for it. -/
class PatternLibrary where
  compile : String → Except String (String → Bool)

/-- A pattern in a group after a caret. A pattern that closes the group itself is searched for
anywhere in a text. -/
def PatternLibrary.anchored [PatternLibrary] (pattern : String) : Except String (String → Bool) :=
  compile ("^(?:" ++ pattern ++ ")")

end Rulebook
