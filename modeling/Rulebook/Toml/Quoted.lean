import Rulebook.Text.Hex

namespace Rulebook.Toml

open Text

def isControl (c : Char) : Bool := (c < ' ' && c != '\t') || c == '\x7f'

def isSpace (c : Char) : Bool := c == ' ' || c == '\t'

def codePoint? (count : Nat) (r : List Char) : Option (Char × List Char) :=
  let ds := r.take count
  let n := hexNumber ds
  if ds.length = count && ds.all isHexDigit && n.isValidChar then
    some (Char.ofNat n, r.drop count)
  else none

def escape? : List Char → Option (Char × List Char)
  | [] => none
  | c :: r =>
    match c with
    | 'b' => some ('\x08', r)
    | 't' => some ('\t', r)
    | 'n' => some ('\n', r)
    | 'f' => some ('\x0c', r)
    | 'r' => some ('\r', r)
    | 'e' => some ('\x1b', r)
    | '"' => some ('"', r)
    | '\\' => some ('\\', r)
    | 'x' => codePoint? 2 r
    | 'u' => codePoint? 4 r
    | 'U' => codePoint? 8 r
    | _ => none

def basicRest? (acc : List Char) : (fuel : Nat) → List Char → Option (String × List Char)
  | 0, _ => none
  | _, [] => none
  | fuel + 1, c :: r =>
    if c = '"' then some (String.ofList acc.reverse, r)
    else if c = '\\' then
      match escape? r with
      | some (d, s) => basicRest? (d :: acc) fuel s
      | none => none
    else if isControl c then none
    else basicRest? (c :: acc) fuel r

def literalRest? (acc : List Char) : List Char → Option (String × List Char)
  | [] => none
  | c :: r =>
    if c = '\'' then some (String.ofList acc.reverse, r)
    else if isControl c then none
    else literalRest? (c :: acc) r

def dropBreak? : List Char → Option (List Char)
  | '\n' :: r => some r
  | '\r' :: '\n' :: r => some r
  | _ => none

def dropBreaks : List Char → List Char
  | [] => []
  | '\r' :: '\n' :: r => dropBreaks r
  | c :: r => if isSpace c || c == '\n' then dropBreaks r else c :: r

/-- Three quotes end a text on several lines; up to two more before them belong to it. -/
def closing? (quote : Char) (r : List Char) : Option (List Char × List Char) :=
  let quotes := (r.take 5).takeWhile (· == quote)
  if 3 ≤ quotes.length then some (quotes.drop 3, r.drop quotes.length) else none

def blockRest? (quote : Char) (acc : List Char) : (fuel : Nat) → List Char →
    Option (String × List Char)
  | 0, _ => none
  | _, [] => none
  | fuel + 1, c :: r =>
    if c = quote then
      match closing? quote (c :: r) with
      | some (extra, rest) => some (String.ofList (extra ++ acc).reverse, rest)
      | none => blockRest? quote (c :: acc) fuel r
    else if c = '\\' && quote = '"' then
      match dropBreak? (r.dropWhile isSpace) with
      | some rest => blockRest? quote acc fuel (dropBreaks rest)
      | none =>
        match escape? r with
        | some (d, s) => blockRest? quote (d :: acc) fuel s
        | none => none
    else if c = '\n' then blockRest? quote (c :: acc) fuel r
    else if c = '\r' then
      match r with
      | '\n' :: s => blockRest? quote ('\n' :: c :: acc) fuel s
      | _ => none
    else if isControl c then none
    else blockRest? quote (c :: acc) fuel r

def block? (quote : Char) (r : List Char) : Option (String × List Char) :=
  blockRest? quote [] (r.length + 1) ((dropBreak? r).getD r)

def lineString? : List Char → Option (String × List Char)
  | '"' :: r => basicRest? [] (r.length + 1) r
  | '\'' :: r => literalRest? [] r
  | _ => none

def string? : List Char → Option (String × List Char)
  | '"' :: '"' :: '"' :: r => block? '"' r
  | '\'' :: '\'' :: '\'' :: r => block? '\'' r
  | r => lineString? r

end Rulebook.Toml
