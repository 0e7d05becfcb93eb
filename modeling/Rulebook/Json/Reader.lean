import Rulebook.Decimal.Reading
import Rulebook.Text.Hex
import Rulebook.Value

namespace Rulebook.Json

open Text

inductive Token
  | openArray
  | closeArray
  | openObject
  | closeObject
  | comma
  | colon
  | scalar (v : Value)

def isJsonBlank (c : Char) : Bool := c == ' ' || c == '\n' || c == '\t' || c == '\r'

def hex4? : List Char → Option (Nat × List Char)
  | a :: b :: c :: d :: r => do
    let a ← hexValue? a
    let b ← hexValue? b
    let c ← hexValue? c
    let d ← hexValue? d
    some (((a * 16 + b) * 16 + c) * 16 + d, r)
  | _ => none

def isHighSurrogate (n : Nat) : Bool := 0xD800 ≤ n && n ≤ 0xDBFF

def isLowSurrogate (n : Nat) : Bool := 0xDC00 ≤ n && n ≤ 0xDFFF

def unicodeEscape? (r : List Char) : Option (Char × List Char) := do
  let (n, r) ← hex4? r
  if isHighSurrogate n then
    match r with
    | '\\' :: 'u' :: s =>
      let (m, s) ← hex4? s
      if isLowSurrogate m then
        some (Char.ofNat (0x10000 + (n - 0xD800) * 0x400 + (m - 0xDC00)), s)
      else none
    | _ => none
  else if isLowSurrogate n then none
  else some (Char.ofNat n, r)

def escape? : List Char → Option (Char × List Char)
  | [] => none
  | c :: r =>
    match c with
    | '"' => some ('"', r)
    | '\\' => some ('\\', r)
    | '/' => some ('/', r)
    | 'b' => some ('\x08', r)
    | 'f' => some ('\x0c', r)
    | 'n' => some ('\n', r)
    | 'r' => some ('\r', r)
    | 't' => some ('\t', r)
    | 'u' => unicodeEscape? r
    | _ => none

/-- The rest of a string after its opening quote; `fuel` bounds the characters left. -/
def stringRest? (acc : List Char) : (fuel : Nat) → List Char → Option (String × List Char)
  | 0, _ => none
  | _, [] => none
  | fuel + 1, c :: r =>
    if c = '"' then some (String.ofList acc.reverse, r)
    else if c = '\\' then
      match escape? r with
      | some (d, s) => stringRest? (d :: acc) fuel s
      | none => none
    else if c < ' ' then none
    else stringRest? (c :: acc) fuel r

def plainDigits? (cs : List Char) : Option (List Char × List Char) :=
  match cs.span Decimal.isDigit with
  | ([], _) => none
  | ('0' :: _ :: _, _) => none
  | (ds, r) => some (ds, r)

def fraction? : List Char → Option (List Char × List Char)
  | '.' :: r =>
    match r.span Decimal.isDigit with
    | ([], _) => none
    | (ds, r) => some (ds, r)
  | r => some ([], r)

def exponentRest? (r : List Char) : Option (Option Int × List Char) :=
  match r with
  | c :: s =>
    if c = 'e' ∨ c = 'E' then
      let (negative, s) := Decimal.splitSign s
      match s.span Decimal.isDigit with
      | ([], _) => none
      | (ds, s) =>
        let n := Decimal.natOf ds
        some (some (if negative then -(n : Int) else n), s)
    else some (none, r)
  | [] => some (none, r)

/-- Minus zero is a float, since integers have no such value. -/
def integer? (negative : Bool) (n : Nat) : Option Value :=
  if negative then
    if n = 0 then none
    else if n ≤ 9223372036854775808 then some (.integer (-(n : Int))) else none
  else if n ≤ Value.maxUnsigned then some (.integer n) else none

def finiteValue? (x : Float) : Option Value := if x.isFinite then some (.float x) else none

def number? (cs : List Char) : Option (Value × List Char) := do
  let (negative, r) := match cs with
    | '-' :: r => (true, r)
    | r => (false, r)
  let (whole, r) ← plainDigits? r
  let (fraction, r) ← fraction? r
  let (e, r) ← exponentRest? r
  let real := Decimal.nearest negative (Decimal.natOf (whole ++ fraction))
    (e.getD 0 - fraction.length)
  let v ←
    if fraction.isEmpty && e.isNone then
      (integer? negative (Decimal.natOf whole)).or (finiteValue? real)
    else finiteValue? real
  some (v, r)

def dropWord? (word : List Char) (cs : List Char) : Option (List Char) :=
  if word.isPrefixOf cs then some (cs.drop word.length) else none

def scalar? (cs : List Char) : Option (Value × List Char) :=
  match cs with
  | '"' :: r => (stringRest? [] (r.length + 1) r).map fun (s, r) ↦ (.string s, r)
  | 'n' :: _ => (dropWord? "null".toList cs).map ((.null, ·))
  | 't' :: _ => (dropWord? "true".toList cs).map ((.bool true, ·))
  | 'f' :: _ => (dropWord? "false".toList cs).map ((.bool false, ·))
  | _ => number? cs

def token? (cs : List Char) : Option (Token × List Char) :=
  match cs with
  | '[' :: r => some (.openArray, r)
  | ']' :: r => some (.closeArray, r)
  | '\x7b' :: r => some (.openObject, r)
  | '\x7d' :: r => some (.closeObject, r)
  | ',' :: r => some (.comma, r)
  | ':' :: r => some (.colon, r)
  | _ => (scalar? cs).map fun (v, r) ↦ (.scalar v, r)

def tokens? (acc : List Token) : (fuel : Nat) → List Char → Option (List Token)
  | 0, _ => none
  | fuel + 1, cs =>
    match cs.dropWhile isJsonBlank with
    | [] => some acc.reverse
    | c :: r =>
      match token? (c :: r) with
      | some (t, rest) => tokens? (t :: acc) fuel rest
      | none => none

/-- An array or object that is still open, its content in reverse. -/
inductive Frame
  | array (items : List Value)
  | object (fields : List (String × Value)) (key : String)

inductive Expect
  | value
  | valueOrClose
  | key
  | keyOrClose
  | colon (key : String)
  | commaOrClose
  | finished (v : Value)

structure Progress where
  frames : List Frame
  expect : Expect

def maxNesting : Nat := 127

def Progress.supply (frames : List Frame) (v : Value) : Progress :=
  match frames with
  | [] => ⟨[], .finished v⟩
  | .array items :: rest => ⟨.array (v :: items) :: rest, .commaOrClose⟩
  | .object fields key :: rest => ⟨.object ((key, v) :: fields) key :: rest, .commaOrClose⟩

def Progress.enter? (p : Progress) (f : Frame) (e : Expect) : Option Progress :=
  if p.frames.length < maxNesting then some ⟨f :: p.frames, e⟩ else none

def Progress.closeArray? (p : Progress) : Option Progress :=
  match p.frames with
  | .array items :: rest => some (.supply rest (.array items.reverse))
  | _ => none

def Progress.closeObject? (p : Progress) : Option Progress :=
  match p.frames with
  | .object fields _ :: rest => some (.supply rest (.object (Fields.ofList fields.reverse)))
  | _ => none

def Progress.step? (p : Progress) (t : Token) : Option Progress :=
  match p.expect, t with
  | .value, .scalar v | .valueOrClose, .scalar v => some (.supply p.frames v)
  | .value, .openArray | .valueOrClose, .openArray => p.enter? (.array []) .valueOrClose
  | .value, .openObject | .valueOrClose, .openObject => p.enter? (.object [] "") .keyOrClose
  | .valueOrClose, .closeArray => p.closeArray?
  | .key, .scalar (.string k) | .keyOrClose, .scalar (.string k) => some ⟨p.frames, .colon k⟩
  | .keyOrClose, .closeObject => p.closeObject?
  | .colon k, .colon =>
    match p.frames with
    | .object fields _ :: rest => some ⟨.object fields k :: rest, .value⟩
    | _ => none
  | .commaOrClose, .comma =>
    match p.frames with
    | .array _ :: _ => some ⟨p.frames, .value⟩
    | .object _ _ :: _ => some ⟨p.frames, .key⟩
    | [] => none
  | .commaOrClose, .closeArray => p.closeArray?
  | .commaOrClose, .closeObject => p.closeObject?
  | _, _ => none

def ofTokens? (ts : List Token) : Option Value :=
  match ts.foldlM Progress.step? ⟨[], .value⟩ with
  | some ⟨_, .finished v⟩ => some v
  | _ => none

/-- The value that a JSON text denotes. A key that occurs twice keeps its first place and its last
value. -/
def read? (cs : List Char) : Option Value := (tokens? [] (cs.length + 1) cs).bind ofTokens?

end Rulebook.Json
