import Rulebook.Catalog.Types
import Rulebook.Check.Reading

namespace Rulebook

def checkContextKey (context : Context) (key : String) (kinds : List Kind) : Except Fault Unit :=
  match context.get? key with
  | none => .error (.absence (.contextKey key))
  | some v =>
    if kinds.isEmpty || kinds.contains v.kind then .ok () else .error (.absence (.contextKind key))

def checkContext (context : Context) (requires : Directory (List Kind)) : Except Fault Unit :=
  requires.forM fun (key, kinds) ↦ checkContextKey context key kinds

/-- Text is converted; a value must be of a kind that the type accepts. -/
def RuleType.receive (t : RuleType) (scope : Scope) : Input → Run Value
  | .raw text => t.convert scope text
  | .typed v => if t.accepts.contains v.kind then .pure v else .reject (.wrongKind t.name)

def RuleType.applyCall (t : RuleType) (scope : Scope) (v : Value) (call : Call) : Run Value := do
  let f ← Run.ofMistake (t.resolve call.name)
  let arguments ← Traced.ofExcept (f.signature.readAll f.name call.arguments)
  let next ← f.apply scope v arguments
  return next.getD v

def RuleType.applyCalls (t : RuleType) (scope : Scope) (v : Value) : List Call → Run Value
  | [] => .pure v
  | call :: calls => do t.applyCalls scope (← t.applyCall scope v call) calls

/-- Finds the type, checks the context, obtains a value, and hands it from function to function. -/
def Catalog.evaluate (catalog : Catalog) (scope : Scope) (input : Input) (text : String) :
    Run Value := do
  let check ← Run.ofMistake (Check.read text)
  let type ← Run.ofMistake (catalog.resolve check.typeName)
  Traced.ofExcept (checkContext scope.context type.requires)
  let v ← type.receive scope input
  type.applyCalls scope v check.calls

def RuleType.checkCall (t : RuleType) (call : Call) : Except Mistake Unit := do
  let f ← t.resolve call.name
  f.signature.checkCount f.name call.arguments.length

def Catalog.check (catalog : Catalog) (text : String) : Except Mistake Unit := do
  let check ← Check.read text
  let type ← catalog.resolve check.typeName
  check.calls.forM type.checkCall

end Rulebook
