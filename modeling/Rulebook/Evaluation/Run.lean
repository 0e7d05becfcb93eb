import Rulebook.Fault
import Rulebook.Value

namespace Rulebook

inductive Mode
  | raw
  | typed
deriving DecidableEq, Repr

def Mode.word : Mode → String
  | .raw => "raw"
  | .typed => "typed"

/-- Each event counts the checks of the rule that it is about. -/
inductive Event
  | warned (checks : Nat)
  | compiled (checks : Nat)
  | validated (mode : Mode) (checks : Nat) (valid : Bool) (reasons : Nat)
deriving DecidableEq, Repr

/-- A result or a failure, and the events on the way to it. -/
structure Traced (ε α : Type) where
  trail : List Event
  result : Except ε α

namespace Traced

variable {ε ε' α β : Type}

def pure (a : α) : Traced ε α := ⟨[], .ok a⟩

def fail (e : ε) : Traced ε α := ⟨[], .error e⟩

def bind (r : Traced ε α) (f : α → Traced ε β) : Traced ε β :=
  match r.result with
  | .ok a => ⟨r.trail ++ (f a).trail, (f a).result⟩
  | .error e => ⟨r.trail, .error e⟩

instance : Monad (Traced ε) where
  pure := pure
  bind := bind

def record (e : Event) : Traced ε Unit := ⟨[e], .ok ()⟩

def ofExcept (r : Except ε α) : Traced ε α := ⟨[], r⟩

def mapError (f : ε → ε') (r : Traced ε α) : Traced ε' α := ⟨r.trail, r.result.mapError f⟩

end Traced

abbrev Run := Traced Fault

namespace Run

variable {α : Type}

def ofMistake (r : Except Mistake α) : Run α := .ofExcept (r.mapError .mistake)

def reject (r : Reason) : Run α := .fail (.invalid r)

end Run

end Rulebook
