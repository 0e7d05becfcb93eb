import Rulebook.Config.Settings
import Rulebook.Evaluation.Audit
import Rulebook.Files

namespace Rulebook

/-- What commands act on, in any monad: files, standard output, standard error and the time.
`append` makes a file that is missing. Where a file cannot be opened or a text cannot be printed,
the system says why. -/
structure Host (m : Type → Type) where
  look : Path → m Entry
  append : String → String → m (Except String Unit)
  print : String → m (Except String Unit)
  complain : String → m Unit
  now : m Nat

section

variable {m : Type → Type} [Monad m] {ε α : Type}

def Sink.emit (s : Sink) (host : Host m) (e : Event) : m Unit := do
  match s with
  | .off => return
  | .stderr => host.complain (e.line (← host.now))
  | .file path => discard (host.append path (e.line (← host.now)))

def Sink.settle (s : Sink) (host : Host m) (r : Traced ε α) : ExceptT ε m α :=
  ExceptT.mk do
    r.trail.forM (s.emit host)
    return r.result

def Settings.start [PatternLibrary] (s : Settings) (host : Host m) :
    ExceptT ConfigFault m Engine := do
  if let .file path := s.sink then
    ExceptT.mk do return (← host.append path "").mapError (@ConfigFault.inaccessible ·)
  return s.engine

end

/-- Surroundings with a state of any kind: what is seen at a path, what comes of adding a text to a
file or of printing it, and what time it is. -/
structure Surroundings (σ : Type) where
  look : σ → Path → Entry
  append : σ → String → String → Except String Unit × σ
  print : σ → String → Except String Unit × σ
  now : σ → Nat

/-- Surroundings at work. Outputs are the texts that were printed in full. -/
structure Scene (σ : Type) where
  files : σ
  output : String := ""
  complaints : String := ""

def Surroundings.host {σ : Type} (w : Surroundings σ) : Host (StateM (Scene σ)) where
  look path d := (w.look d.files path, d)
  append path text d :=
    let (result, files) := w.append d.files path text
    (result, { d with files })
  print text d :=
    let (result, files) := w.print d.files text
    (result, ⟨files, if result.isOk then d.output ++ text else d.output, d.complaints⟩)
  complain text d := ((), { d with complaints := d.complaints ++ text })
  now d := (w.now d.files, d)

/-- Files in memory, where every text can be printed and time stands still. -/
def Files.surroundings : Surroundings Files where
  look := look
  append fs path text :=
    match fs.append? path text.toUTF8 with
    | some files => (.ok (), files)
    | none => (.error "No such file or directory", fs)
  print fs _ := (.ok (), fs)
  now _ := 0

abbrev Desk := Scene Files

def Desk.host : Host (StateM Desk) := Files.surroundings.host

end Rulebook
