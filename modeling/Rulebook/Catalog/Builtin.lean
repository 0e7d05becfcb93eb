import Rulebook.Catalog.Dict
import Rulebook.Catalog.Scalar

namespace Rulebook

def Catalog.builtin [PatternLibrary] : Catalog :=
  [Str.type, Integer.type, Truth.type, Url.type, Dict.type].foldl Catalog.register []

end Rulebook
