import Rulebook.Toml.Quoted
import Rulebook.Toml.Scalar

namespace Rulebook.Toml

def dropComment? : List Char → Option (List Char)
  | [] => some []
  | c :: r =>
    if c = '\n' then some (c :: r)
    else if c = '\r' then
      match r with
      | '\n' :: _ => some (c :: r)
      | _ => none
    else if isControl c then none
    else dropComment? r

def dropIgnored? : (fuel : Nat) → List Char → Option (List Char)
  | 0, _ => none
  | fuel + 1, r =>
    match r.dropWhile isSpace with
    | '#' :: s => do dropIgnored? fuel (← dropComment? s)
    | '\n' :: s => dropIgnored? fuel s
    | '\r' :: '\n' :: s => dropIgnored? fuel s
    | s => some s

def dropAllIgnored? (r : List Char) : Option (List Char) := dropIgnored? (r.length + 1) r

def endLine? (r : List Char) : Option (List Char) := do
  let r ← match r.dropWhile isSpace with
    | '#' :: s => dropComment? s
    | s => some s
  if r.isEmpty then some [] else dropBreak? r

def isBareKeyChar (c : Char) : Bool := c.isAlphanum || c == '_' || c == '-'

def simpleKey? (r : List Char) : Option (String × List Char) :=
  match lineString? r with
  | some found => some found
  | none =>
    match r.span isBareKeyChar with
    | ([], _) => none
    | (cs, rest) => some (String.ofList cs, rest)

def keyPath? : (fuel : Nat) → List Char → Option (List String × List Char)
  | 0, _ => none
  | fuel + 1, r => do
    let (key, rest) ← simpleKey? (r.dropWhile isSpace)
    match rest.dropWhile isSpace with
    | '.' :: s => do
      let (path, rest) ← keyPath? fuel s
      some (key :: path, rest)
    | s => some ([key], s)

def key? (r : List Char) : Option ((List String × String) × List Char) := do
  let (path, rest) ← keyPath? (r.length + 1) r
  match path.reverse with
  | key :: parents => some ((parents.reverse, key), rest)
  | [] => none

def isScalarChar (c : Char) : Bool :=
  !isSpace c && c != '\n' && c != '\r' && c != ',' && c != ']' && c != '\x7d' && c != '#'

def bare? (r : List Char) : Option (Node × List Char) :=
  let (token, rest) := r.span isScalarChar
  match date? token, rest with
  | some (_, []), ' ' :: d :: s =>
    if Decimal.isDigit d then
      let (time, rest) := (d :: s).span isScalarChar
      (moment? (token ++ ' ' :: time)).map fun t ↦ (.moment t, rest)
    else (scalar? token).map ((·, rest))
  | _, _ => (scalar? token).map ((·, rest))

def maxNesting : Nat := 80

mutual

def value? : (fuel depth : Nat) → List Char → Option (Node × List Char)
  | 0, _, _ => none
  | fuel + 1, depth, r =>
    match r with
    | '[' :: s =>
      if depth = 0 then none
      else (arrayRest? fuel (depth - 1) [] s).map fun (items, rest) ↦ (.array items, rest)
    | '\x7b' :: s =>
      if depth = 0 then none
      else (inlineRest? fuel (depth - 1) ⟨.inlined, []⟩ s).map fun (t, rest) ↦
        (.table .inlined t.entries, rest)
    | '"' :: _ | '\'' :: _ => (string? r).map fun (t, rest) ↦ (.string t, rest)
    | _ => bare? r

def arrayRest? : (fuel depth : Nat) → List Node → List Char → Option (List Node × List Char)
  | 0, _, _, _ => none
  | fuel + 1, depth, items, r => do
    let r ← dropAllIgnored? r
    match r with
    | ']' :: s => some (items.reverse, s)
    | _ => do
      let (item, s) ← value? fuel depth r
      let s ← dropAllIgnored? s
      match s with
      | ',' :: t => arrayRest? fuel depth (item :: items) t
      | ']' :: t => some ((item :: items).reverse, t)
      | _ => none

def inlineRest? : (fuel depth : Nat) → Table → List Char → Option (Table × List Char)
  | 0, _, _, _ => none
  | fuel + 1, depth, t, r => do
    let r ← dropAllIgnored? r
    match r with
    | '\x7d' :: s => some (t, s)
    | _ => do
      let ((parents, key), s) ← key? r
      let '=' :: s := s | none
      let (v, s) ← value? fuel depth (s.dropWhile isSpace)
      let t ← t.addDotted? parents key v
      let s ← dropAllIgnored? s
      match s with
      | ',' :: u => inlineRest? fuel depth t u
      | '\x7d' :: u => some (t, u)
      | _ => none

end

structure Progress where
  root : Table
  path : List String

def Progress.header? (p : Progress) (isElement : Bool) (r : List Char) :
    Option (Progress × List Char) := do
  let ((parents, key), r) ← key? r
  let r ← if isElement then match r with
      | ']' :: ']' :: s => some s
      | _ => none
    else match r with
      | ']' :: s => some s
      | _ => none
  let root ←
    if isElement then p.root.openElement? parents key else p.root.openHeader? parents key
  some (⟨root, parents ++ [key]⟩, r)

def Progress.entry? (p : Progress) (r : List Char) : Option (Progress × List Char) := do
  let ((parents, key), s) ← key? r
  let '=' :: s := s | none
  let (v, s) ← value? (s.length + 1) maxNesting (s.dropWhile isSpace)
  let root ← p.root.update .implied (fun t ↦ t.addDotted? parents key v) p.path
  some ({ p with root }, s)

def linesFrom? : (fuel : Nat) → Progress → List Char → Option Table
  | 0, _, _ => none
  | fuel + 1, p, r =>
    match dropAllIgnored? r with
    | none => none
    | some [] => some p.root
    | some (c :: s) =>
      let read := match c, s with
        | '[', '[' :: t => p.header? true t
        | '[', _ => p.header? false s
        | _, _ => p.entry? (c :: s)
      match read with
      | none => none
      | some (q, rest) =>
        match endLine? rest with
        | none => none
        | some rest => linesFrom? fuel q rest

/-- The entries of a document. A byte order mark at its start does not count. -/
def read? (cs : List Char) : Option Entries :=
  let cs := match cs with
    | '\ufeff' :: r => r
    | r => r
  (linesFrom? (cs.length + 1) ⟨.empty, []⟩ cs).map Table.entries

end Rulebook.Toml
