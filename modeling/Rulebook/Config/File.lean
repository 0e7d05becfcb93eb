import Rulebook.Config.Fault
import Rulebook.Text.Lossy
import Rulebook.Text.Search

namespace Rulebook

open Text

/-- What is seen at a path: nothing, where looking fails, something that cannot be read, or a
file. -/
inductive Entry
  | absent (why : String)
  | closed (why : String)
  | file (content : ByteArray)

def Entry.exists : Entry → Bool
  | .absent _ => false
  | _ => true

/-- A variable of the environment. It may be set to bytes that are no text. -/
inductive Variable
  | unset
  | set (value : ByteArray)

def Variable.text? : Variable → Option String
  | .unset => none
  | .set value => String.fromUTF8? value

instance : Coe (Option String) Variable where
  coe
    | none => .unset
    | some text => .set text.toUTF8

/-- A path in bytes, which may be no text. -/
structure Path where
  bytes : ByteArray

namespace Path

def ofText (text : String) : Path := ⟨text.toUTF8⟩

def text? (p : Path) : Option String := String.fromUTF8? p.bytes

def shown (p : Path) : String := .ofList (lossy p.bytes.data.toList)

instance : Coe String Path := ⟨ofText⟩

instance : Coe (Option String) (Option Path) := ⟨Option.map ofText⟩

def maxBytes : Nat := 4096

def maxComponentBytes : Nat := 255

def components (path : String) : List String := (splitAt '/' path.toList).map String.ofList

def isLong (path : String) : Bool := maxBytes < path.utf8ByteSize

def hasLongComponent (path : String) : Bool :=
  (components path).any fun c ↦ maxComponentBytes < c.utf8ByteSize

end Path

def maxFileBytes : Nat := 1048576

/-- The text of a file. The path is checked before the file is read. -/
def Entry.read (e : Entry) (path : Path) : Except ConfigFault String := do
  if Path.isLong path.shown then .error (.refused .longPath)
  if Path.hasLongComponent path.shown then .error (.refused .longComponent)
  match e with
  | .absent why | .closed why => .error (@ConfigFault.inaccessible why)
  | .file content =>
    if maxFileBytes < content.size then .error (.refused .largeFile)
    match String.fromUTF8? content with
    | some text => .ok text
    | none => .error (.refused .badEncoding)

end Rulebook
