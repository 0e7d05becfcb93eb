import Rulebook.Config.File

namespace Rulebook

/-- Files in memory by the components of their names, with a slash in front of absolute ones.
Directories are those that the names imply, the root, and the one that relative names are in. -/
abbrev Files := List (List String × ByteArray)

namespace Files

def isSelf (component : String) : Bool := component = "" || component = "."

def start (path : String) : List String := if path.toList.head? = some '/' then ["/"] else []

def insert (fs : Files) (name : String) (content : ByteArray) : Files :=
  let components := start name ++ (Path.components name).filter (!isSelf ·)
  (components, content) :: fs.filter (·.1 != components)

def isDirectory (fs : Files) (dir : List String) : Bool :=
  dir.isEmpty || dir == ["/"] || fs.any fun (name, _) ↦ dir.isPrefixOf name && dir.length < name.length

/-- Where a path leads from a directory. Every component but the last has to stay in a directory.
There is nothing above the root, and nothing is known above the directory of relative names. -/
def walk (fs : Files) (dir : List String) : List String → Option (List String)
  | [] => some dir
  | c :: rest =>
    if !fs.isDirectory dir then none
    else if isSelf c then fs.walk dir rest
    else if c = ".." then
      if dir.isEmpty then none
      else if dir = ["/"] then fs.walk dir rest
      else fs.walk dir.dropLast rest
    else fs.walk (dir ++ [c]) rest

/-- Paths that are no text, have a null character or are of the greatest length lead nowhere. -/
def resolve (fs : Files) (path : Path) : Option (List String) := do
  let text ← path.text?
  if text.toList.contains '\x00' || Path.maxBytes ≤ text.utf8ByteSize then none
  else fs.walk (start text) (Path.components text)

def look (fs : Files) (path : Path) : Entry :=
  match fs.resolve path with
  | none => .absent "No such file or directory"
  | some name =>
    match fs.lookup name with
    | some content => .file content
    | none =>
      if fs.isDirectory name then .closed "Is a directory" else .absent "No such file or directory"

def append? (fs : Files) (path : String) (content : ByteArray) : Option Files :=
  match fs.resolve path with
  | none => none
  | some name =>
    if fs.isDirectory name then none
    else
      let before := (fs.lookup name).getD .empty
      some ((name, before ++ content) :: fs.filter (·.1 != name))

end Files

end Rulebook
