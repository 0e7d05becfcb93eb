import Rulebook.Value

namespace Rulebook.Toml

/-- How a table came about: by a header of its own, as a parent in another header, as a parent in a
dotted key, or in braces. -/
inductive TableKind
  | header
  | implied
  | dotted
  | inlined
deriving DecidableEq, Repr

/-- Integers are kept whatever their size. The tables of an array are kept with the last first. -/
inductive Node
  | string (s : String)
  | integer (n : Int)
  | float (x : Float)
  | bool (b : Bool)
  | moment (text : String)
  | array (items : List Node)
  | table (kind : TableKind) (entries : List (String × Node))
  | tables (items : List Node)

abbrev Entries := List (String × Node)

/-- A table under construction. -/
structure Table where
  kind : TableKind
  entries : Entries

def Table.empty : Table := ⟨.header, []⟩

namespace Entries

def replace (key : String) (n : Node) : Entries → Entries
  | [] => []
  | (k, m) :: es => if k = key then (k, n) :: es else (k, m) :: replace key n es

def remove (key : String) (es : Entries) : Entries := es.filter (·.1 != key)

end Entries

/-- Changes the table at a path. Parents that are missing are made, as `kind` says. Tables in braces
are closed, and dotted keys cannot reach into tables that have a header. -/
def Table.update (kind : TableKind) (change : Table → Option Table) (t : Table) :
    List String → Option Table
  | [] => change t
  | key :: path =>
    match t.entries.lookup key with
    | none => do
      let child ← Table.update kind change ⟨kind, []⟩ path
      some { t with entries := t.entries ++ [(key, .table child.kind child.entries)] }
    | some (.table k es) =>
      if k = .inlined || (kind = .dotted && k = .header) then none
      else do
        let child ← Table.update kind change ⟨k, es⟩ path
        some { t with entries := Entries.replace key (.table child.kind child.entries) t.entries }
    | some (.tables (.table k es :: others)) => do
      let child ← Table.update kind change ⟨k, es⟩ path
      let items := .table child.kind child.entries :: others
      some { t with entries := Entries.replace key (.tables items) t.entries }
    | some _ => none

def Table.add? (t : Table) (key : String) (n : Node) : Option Table :=
  if (t.entries.lookup key).isSome then none
  else some { t with entries := t.entries ++ [(key, n)] }

def Table.addDotted? (t : Table) (path : List String) (key : String) (n : Node) : Option Table :=
  t.update .dotted (fun parent ↦
    if path.isEmpty || parent.kind = .dotted then parent.add? key n else none) path

/-- Opens a table by its header. A table that is there already must have come about as a parent in
other headers; it moves to the end. -/
def Table.openHeader? (t : Table) (path : List String) (key : String) : Option Table :=
  t.update .implied (fun parent ↦
    match parent.entries.lookup key with
    | none => parent.add? key (.table .header [])
    | some (.table .implied es) =>
      let others := Entries.remove key parent.entries
      some { parent with entries := others ++ [(key, .table .header es)] }
    | some _ => none) path

def Table.openElement? (t : Table) (path : List String) (key : String) : Option Table :=
  t.update .implied (fun parent ↦
    match parent.entries.lookup key with
    | none => parent.add? key (.tables [.table .header []])
    | some (.tables items) =>
      let entries := Entries.replace key (.tables (.table .header [] :: items)) parent.entries
      some { parent with entries }
    | some _ => none) path

mutual

def Node.fits : Node → Bool
  | .integer n => Value.minSigned ≤ n && n ≤ Value.maxSigned
  | .array items => allFit items
  | .tables items => allFit items
  | .table _ entries => entriesFit entries
  | _ => true

def allFit : List Node → Bool
  | [] => true
  | n :: ns => n.fits && allFit ns

def entriesFit : List (String × Node) → Bool
  | [] => true
  | (_, n) :: es => n.fits && entriesFit es

end

def momentKey : String := "$__toml_private_datetime"

mutual

/-- Numbers that are not finite have no value. -/
def Node.toValue : Node → Value
  | .string s => .string s
  | .integer n => .integer n
  | .float x => if x.isFinite then .float x else .null
  | .bool b => .bool b
  | .moment t => .object [(momentKey, .string t)]
  | .array items => .array (valuesOf items)
  | .tables items => .array (valuesOf items).reverse
  | .table _ entries => .object (fieldsOf entries)

def valuesOf : List Node → List Value
  | [] => []
  | n :: ns => n.toValue :: valuesOf ns

def fieldsOf : List (String × Node) → List (String × Value)
  | [] => []
  | (k, n) :: es => (k, n.toValue) :: fieldsOf es

end

end Rulebook.Toml
