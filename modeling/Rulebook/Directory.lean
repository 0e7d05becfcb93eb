namespace Rulebook

abbrev Directory (α : Type) := List (String × α)

namespace Directory

variable {α : Type}

def get? (d : Directory α) (key : String) : Option α := d.lookup key

def insert (key : String) (a : α) : Directory α → Directory α
  | [] => [(key, a)]
  | (k, b) :: d =>
    if key = k then (key, a) :: d
    else if key < k then (key, a) :: (k, b) :: d
    else (k, b) :: insert key a d

def ofList (entries : List (String × α)) : Directory α :=
  entries.foldl (fun d (k, a) ↦ insert k a d) []

def keys (d : Directory α) : List String := d.map Prod.fst

def values (d : Directory α) : List α := d.map Prod.snd

end Directory

end Rulebook
