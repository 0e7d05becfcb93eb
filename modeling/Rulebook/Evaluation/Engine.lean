import Rulebook.Evaluation.Leaf
import Rulebook.Evaluation.Tree
import Rulebook.Rule.Reading

namespace Rulebook

inductive Policy
  | allow
  | warn
  | deny
deriving DecidableEq, Repr

def Policy.word : Policy → String
  | .allow => "allow"
  | .warn => "warn"
  | .deny => "deny"

def Policy.ofWord? (w : String) : Option Policy := [.allow, .warn, .deny].find? (·.word == w)

structure Engine where
  catalog : Catalog := []
  limits : Limits := {}
  policy : Policy := .warn

namespace Engine

def register (e : Engine) (t : RuleType) : Engine := { e with catalog := e.catalog.register t }

def admitMixed (e : Engine) (r : Rule) : Run Unit :=
  if r.anyMixed then
    match e.policy with
    | .allow => .pure ()
    | .warn => .record (.warned r.checkCount)
    | .deny => .fail (.mistake (.unreadable .mixedConnectives))
  else .pure ()

def compile (e : Engine) (text : String) : Run Rule := do
  let rule ← Run.ofMistake ((Rule.read e.limits text).mapError .unreadable)
  e.admitMixed rule
  Run.ofMistake (rule.checks.forM e.catalog.check)
  Traced.record (.compiled rule.checkCount)
  return rule

/-- A text is compiled; a tree must be structurally sound. -/
def obtain (e : Engine) : Source → Run Rule
  | .text t => e.compile t
  | .tree r =>
    match r.defect? with
    | some d => .fail (.mistake (.defect d))
    | none => .pure r

/-- Applies a rule without checking its structure first. -/
def applyIn (e : Engine) (scope : Scope) (rule : Rule) (input : Input) : Run Outcome :=
  rule.apply (e.catalog.evaluate scope input)

/-- What is returned where rules that apply further rules are nested beyond any measure. -/
def exhausted : Fault := .absence (.other "rules are nested too deeply")

/-- Applies a rule given as text or as a tree and records the outcome. `scopes` says what converters
and functions can reach while a rule is applied. -/
def applyWith (e : Engine) (scopes : Rule → Scope) (source : Source) (input : Input) :
    Run Outcome := do
  let rule ← e.obtain source
  let outcome ← e.applyIn (scopes rule) rule input
  Traced.record (.validated input.mode rule.checkCount outcome.isValid outcome.reasons.length)
  return outcome

/-- Applies a rule in a context. Converters and functions may apply further rules, up to `depth`
levels below this one. -/
def applyWithin (e : Engine) : (depth : Nat) → Context → Source → Input → Run Outcome
  | 0, _, _, _ => .fail exhausted
  | depth + 1, context, source, input =>
    e.applyWith (fun _ ↦ ⟨context, e.applyWithin depth context⟩) source input

def longest (texts : List String) : Nat := (texts.map String.utf8ByteSize).foldl max 0

/-- Levels beyond those that the arguments of a check can spell out, for types that apply rules of
their own. -/
def spareDepth : Nat := 1000

/-- What converters and functions of the checks in `texts` can reach. -/
def scopeFor (e : Engine) (context : Context) (texts : List String) : Scope :=
  ⟨context, e.applyWithin (longest texts + spareDepth) context⟩

def apply (e : Engine) (context : Context) (source : Source) (input : Input) : Run Outcome :=
  e.applyWith (fun rule ↦ e.scopeFor context rule.checks) source input

/-- Applies a tree as it is, with no audit event of its own. -/
def applyTree (e : Engine) (context : Context) (rule : Rule) (input : Input) : Run Outcome :=
  e.applyIn (e.scopeFor context rule.checks) rule input

def applyCheck (e : Engine) (context : Context) (text : String) (input : Input) : Run Value :=
  e.catalog.evaluate (e.scopeFor context [text]) input text

def format (e : Engine) (typeName : String) (v : Value) : Except Fault String :=
  match e.catalog.resolve typeName with
  | .ok t => .ok (t.format v)
  | .error m => .error (.mistake m)

end Engine

end Rulebook
