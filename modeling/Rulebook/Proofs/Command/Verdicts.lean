import Mathlib.Data.List.Basic
import Rulebook.Proofs.Command.Scene

namespace Rulebook

variable {σ : Type}

namespace Session

open Scene

variable {ε α : Type} (d : Scene σ) (w : Surroundings σ) (e : Engine) (sink : Sink)

abbrev within (w : Surroundings σ) (e : Engine) (sink : Sink) : Session (StateM (Scene σ)) :=
  ⟨w.host, e, sink⟩

theorem perform_settle (message : ε → String) (r : Traced ε α) :
    d.perform ((within w e sink).settle message r) =
      (r.result.mapError message, d.hear w sink r.trail) :=
  d.perform_settle w sink ⟨r.trail, r.result.mapError message⟩

theorem perform_readFile (message : ConfigFault → String) (path : Path) :
    d.perform ((within w e sink).readFile message path) =
      (((w.look d.files path).read path).mapError message, d) := by
  rw [readFile, perform_bind]
  exact d.perform_liftExcept _

def conclude (s : Session (StateM (Scene σ))) (lines : List String) (code : Nat) :
    Attempt (StateM (Scene σ)) Nat := do
  lines.forM s.host.printLine
  return code

theorem conclude_singleton (s : Session (StateM (Scene σ))) (line : String) (code : Nat) :
    s.conclude [line] code = do
      s.host.printLine line
      return code := by
  show ((s.host.printLine line >>= fun _ ↦ pure PUnit.unit) >>= fun _ ↦ pure code) = _
  rw [bind_assoc]
  simp only [pure_bind]

end Session

def Settings.opened (s : Settings) (w : Surroundings σ) (st : σ) : Except String Unit × σ :=
  match s.sink with
  | .file path => w.append st path ""
  | _ => (.ok (), st)

theorem Settings.perform_start [PatternLibrary] (s : Settings) (w : Surroundings σ) (d : Scene σ) :
    d.perform (s.start w.host) = match s.opened w d.files with
      | (.ok (), st) => (.ok s.engine, { d with files := st })
      | (.error why, st) => (.error (@ConfigFault.inaccessible why), { d with files := st }) := by
  rw [start, opened]
  cases s.sink with
  | off => rfl
  | stderr => rfl
  | file path =>
    have happend : d.perform (ExceptT.mk do
        return (← w.host.append path "").mapError (@ConfigFault.inaccessible ·)) =
          ((w.append d.files path "").1.mapError (@ConfigFault.inaccessible ·),
            { d with files := (w.append d.files path "").2 }) := rfl
    simp only [Scene.perform_bind, happend]
    cases w.append d.files path "" with
    | mk result st => cases result <;> rfl

section Wordings

variable [Wording]

def givenInput (isTyped : Bool) (input : String) : Except String Input :=
  if isTyped then .typed <$> jsonArgument "input" input else .ok (.raw input)

def checkArguments (input : String) (isTyped : Bool) (entries : List String) :
    Except String (Context × Input) := do
  return (← contextOf entries, ← givenInput isTyped input)

/-- A schema is loaded from a file. Compiling its rules leaves events, which reach the log before
another file is read. -/
inductive Schema.Loads (w : Surroundings σ) (e : Engine) (sink : Sink) (st : σ) (path : Path) :
    Schema → σ → Prop
  | intro {s : Schema} (text : String) (htext : (w.look st path).read path = .ok text)
    (hschema : (read e text).result = .ok s) :
    Loads w e sink st path s (sink.log w st (read e text).trail)

namespace Command

section

variable (w : Surroundings σ) (e : Engine) (sink : Sink) (st : σ)

/-- A command fails with a message: an argument cannot be decoded, a rule cannot be compiled or
evaluated, or a schema or its document cannot be used. -/
inductive Fails : Command → String → Prop
  | compile {rule : String} {f : Fault} (h : (e.compile rule).result = .error f) :
    Fails (.compile rule) f.message
  | describe {rule : String} {f : Fault} (h : (e.describe (.text rule)).result = .error f) :
    Fails (.describe rule) f.message
  | arguments {rule input message : String} {isTyped : Bool} {entries : List String}
    (h : checkArguments input isTyped entries = .error message) :
    Fails (.check rule input isTyped entries) message
  | check {rule input : String} {isTyped : Bool} {entries : List String} {context : Context}
    {i : Input} {f : Fault} (harguments : checkArguments input isTyped entries = .ok (context, i))
    (h : (e.apply context (.text rule) i).result = .error f) :
    Fails (.check rule input isTyped entries) f.message
  | value {typeName value message : String} (h : jsonArgument "value" value = .error message) :
    Fails (.format typeName value) message
  | format {typeName value : String} {v : Value} {f : Fault}
    (hvalue : jsonArgument "value" value = .ok v) (h : e.format typeName v = .error f) :
    Fails (.format typeName value) f.message
  | schemaFile {schema document : Path} {f : ConfigFault}
    (h : (w.look st schema).read schema = .error f) :
    Fails (.checkSchema schema document) ("failed to load schema: " ++ f.message)
  | schema {schema document : Path} {text : String} {f : ConfigFault}
    (htext : (w.look st schema).read schema = .ok text)
    (h : (Schema.read e text).result = .error f) :
    Fails (.checkSchema schema document) ("failed to load schema: " ++ f.message)
  | documentFile {schema document : Path} {s : Schema} {st' : σ} {f : ConfigFault}
    (hschema : Schema.Loads w e sink st schema s st')
    (h : (w.look st' document).read document = .error f) :
    Fails (.checkSchema schema document) ("failed to validate document: " ++ f.message)
  | document {schema document : Path} {text : String} {s : Schema} {st' : σ} {f : ConfigFault}
    (hschema : Schema.Loads w e sink st schema s st')
    (htext : (w.look st' document).read document = .ok text)
    (h : readDocument text = .error f) :
    Fails (.checkSchema schema document) ("failed to validate document: " ++ f.message)
  | validation {schema document : Path} {text : String} {s : Schema} {st' : σ} {fields : Fields}
    {f : ConfigFault} (hschema : Schema.Loads w e sink st schema s st')
    (htext : (w.look st' document).read document = .ok text)
    (hfields : readDocument text = .ok fields) (h : (s.validate e fields).result = .error f) :
    Fails (.checkSchema schema document) ("failed to validate document: " ++ f.message)

/-- A command judges an input: what is said of it, whether it is valid, and the state that the
surroundings are in by then. -/
inductive Judges : Command → Value → Bool → σ → Prop
  | check {rule input : String} {isTyped : Bool} {entries : List String} {context : Context}
    {i : Input} {o : Outcome} (harguments : checkArguments input isTyped entries = .ok (context, i))
    (h : (e.apply context (.text rule) i).result = .ok o) :
    Judges (.check rule input isTyped entries) o.toValue o.isValid
      (sink.log w st (e.apply context (.text rule) i).trail)
  | checkSchema {schema document : Path} {text : String} {s : Schema} {st' : σ} {fields : Fields}
    {report : Report} (hschema : Schema.Loads w e sink st schema s st')
    (htext : (w.look st' document).read document = .ok text)
    (hfields : readDocument text = .ok fields) (h : (s.validate e fields).result = .ok report) :
    Judges (.checkSchema schema document) report.toValue report.issues.isEmpty
      (sink.log w st' (s.validate e fields).trail)

inductive Answers : Command → List String → σ → Prop
  | compile {rule : String} {r : Rule} (h : (e.compile rule).result = .ok r) :
    Answers (.compile rule) [Json.pretty r.toValue] (sink.log w st (e.compile rule).trail)
  | describe {rule text : String} (h : (e.describe (.text rule)).result = .ok text) :
    Answers (.describe rule) [text] (sink.log w st (e.describe (.text rule)).trail)
  | format {typeName value text : String} {v : Value} (hvalue : jsonArgument "value" value = .ok v)
    (h : e.format typeName v = .ok text) : Answers (.format typeName value) [text] st
  | types : Answers .types e.catalog.listing st
  | validateConfig : Answers .validateConfig [Json.pretty e.summary] st

inductive Prints : Command → List String → Nat → σ → Prop
  | judgement {c : Command} {v : Value} {isValid : Bool} {st' : σ}
    (h : Judges w e sink st c v isValid st') :
    Prints c [Json.pretty v] (if isValid then 0 else 1) st'
  | answer {c : Command} {lines : List String} {st' : σ} (h : Answers w e sink st c lines st') :
    Prints c lines 0 st'

end

variable (w : Surroundings σ) (e : Engine) (sink : Sink) (st : σ)

end Command

namespace Session

open Scene

variable (d : Scene σ) (w : Surroundings σ) (e : Engine) (sink : Sink)

theorem perform_check (rule input : String) (isTyped : Bool) (entries : List String) :
    d.perform ((within w e sink).check rule input isTyped entries) =
      match checkArguments input isTyped entries with
      | .error message => (.error message, d)
      | .ok (context, i) => d.perform do
        let outcome ← (within w e sink).settle Fault.message (e.apply context (.text rule) i)
        (within w e sink).printValue outcome.toValue
        return if outcome.isValid then exitValid else exitInvalid := by
  rw [check, perform_bind, perform_liftExcept, checkArguments]
  cases contextOf entries with
  | error message => rfl
  | ok context =>
    cases isTyped with
    | false => rfl
    | true =>
      have hmap : Input.typed <$> liftExcept (jsonArgument "input" input) =
          (liftExcept (givenInput true input) : Attempt (StateM (Scene σ)) Input) := by
        rw [givenInput, if_pos rfl]
        cases jsonArgument "input" input <;> rfl
      simp only [hmap, if_true, perform_bind, perform_liftExcept]
      cases givenInput true input <;> rfl

theorem perform_checkSchema {schema : Path} {s : Schema} {st : σ}
    (h : Schema.Loads w e sink d.files schema s st) (document : Path) :
    ∃ d' : Scene σ, d'.files = st ∧ d'.output = d.output ∧
      d.perform ((within w e sink).checkSchema schema document) = d'.perform do
        let inDocument := fun (f : ConfigFault) ↦ "failed to validate document: " ++ f.message
        let text ← (within w e sink).readFile inDocument document
        let fields ← liftExcept ((readDocument text).mapError inDocument)
        let report ← (within w e sink).settle inDocument (s.validate e fields)
        (within w e sink).printValue report.toValue
        return if report.issues.isEmpty then exitValid else exitInvalid := by
  obtain ⟨text, htext, hread⟩ := h
  refine ⟨d.hear w sink (Schema.read e text).trail, rfl, rfl, ?_⟩
  rw [checkSchema, perform_bind, perform_readFile, htext]
  simp only [Except.mapError]
  rw [perform_bind, perform_settle, hread]
  rfl

end Session

namespace Command

open Scene Session

variable {w : Surroundings σ} (d : Scene σ) {e : Engine} {sink : Sink} {c : Command}

/-- A failing command prints nothing, whatever it hands to the sink before it fails. -/
theorem Fails.perform {message : String} (h : c.Fails w e sink d.files message) :
    ∃ d', d.perform ((within w e sink).run c) = (.error message, d') ∧ d'.output = d.output := by
  cases h with
  | @compile rule f h =>
    refine ⟨d.hear w sink (e.compile rule).trail, ?_, rfl⟩
    simp only [Session.run, Session.compile, perform_bind, Session.perform_settle, h]
    rfl
  | @describe rule f h =>
    refine ⟨d.hear w sink (e.describe (.text rule)).trail, ?_, rfl⟩
    simp only [Session.run, Session.describe, perform_bind, Session.perform_settle, h]
    rfl
  | arguments h =>
    refine ⟨d, ?_, rfl⟩
    simp only [Session.run, perform_check, h]
  | @check rule input isTyped entries context i f harguments h =>
    refine ⟨d.hear w sink (e.apply context (.text rule) i).trail, ?_, rfl⟩
    simp only [Session.run, perform_check, harguments, perform_bind, Session.perform_settle, h]
    rfl
  | value h =>
    refine ⟨d, ?_, rfl⟩
    simp only [Session.run, Session.format, perform_bind, perform_liftExcept, h]
  | format hvalue h =>
    refine ⟨d, ?_, rfl⟩
    simp only [Session.run, Session.format, perform_bind, perform_liftExcept, hvalue, h]
    rfl
  | schemaFile h =>
    refine ⟨d, ?_, rfl⟩
    simp only [Session.run, Session.checkSchema, perform_bind, perform_readFile, h]
    rfl
  | @schema schema document text f htext h =>
    refine ⟨d.hear w sink (Schema.read e text).trail, ?_, rfl⟩
    simp only [Session.run, Session.checkSchema, perform_bind, perform_readFile, htext,
      Except.mapError, Session.perform_settle, h]
  | @documentFile _ document _ _ _ hschema h =>
    obtain ⟨d', rfl, houtput, hrun⟩ := perform_checkSchema d w e sink hschema document
    refine ⟨d', hrun.trans ?_, houtput⟩
    rw [perform_bind, perform_readFile, h]
    rfl
  | @document _ document _ _ _ _ hschema htext h =>
    obtain ⟨d', rfl, houtput, hrun⟩ := perform_checkSchema d w e sink hschema document
    refine ⟨d', hrun.trans ?_, houtput⟩
    simp only [perform_bind, perform_readFile, htext, Except.mapError, perform_liftExcept, h]
  | @validation _ document _ s _ fields _ hschema htext hfields h =>
    obtain ⟨d', rfl, houtput, hrun⟩ := perform_checkSchema d w e sink hschema document
    refine ⟨d'.hear w sink (s.validate e fields).trail, hrun.trans ?_, houtput⟩
    simp only [perform_bind, perform_readFile, htext, Except.mapError, perform_liftExcept, hfields,
      Session.perform_settle, h]

theorem Judges.perform {v : Value} {isValid : Bool} {st : σ}
    (h : c.Judges w e sink d.files v isValid st) :
    ∃ d' : Scene σ, d'.files = st ∧ d'.output = d.output ∧
      d.perform ((within w e sink).run c) =
        d'.perform ((within w e sink).conclude [Json.pretty v] (if isValid then 0 else 1)) := by
  cases h with
  | @check rule input isTyped entries context i o harguments h =>
    refine ⟨d.hear w sink (e.apply context (.text rule) i).trail, rfl, rfl, ?_⟩
    simp only [Session.run, perform_check, harguments, perform_bind, Session.perform_settle, h]
    rw [conclude_singleton, perform_bind]
    rfl
  | @checkSchema _ document _ s _ fields report hschema htext hfields h =>
    obtain ⟨d', rfl, houtput, hrun⟩ := perform_checkSchema d w e sink hschema document
    refine ⟨d'.hear w sink (s.validate e fields).trail, rfl, houtput, hrun.trans ?_⟩
    simp only [perform_bind, perform_readFile, htext, Except.mapError, perform_liftExcept, hfields,
      Session.perform_settle, h]
    rw [conclude_singleton, perform_bind]
    rfl

theorem Answers.perform {lines : List String} {st : σ}
    (h : c.Answers w e sink d.files lines st) :
    ∃ d' : Scene σ, d'.files = st ∧ d'.output = d.output ∧
      d.perform ((within w e sink).run c) = d'.perform ((within w e sink).conclude lines 0) := by
  cases h with
  | @compile rule r h =>
    refine ⟨d.hear w sink (e.compile rule).trail, rfl, rfl, ?_⟩
    simp only [Session.run, Session.compile, perform_bind, Session.perform_settle, h]
    rw [conclude_singleton, perform_bind]
    rfl
  | @describe rule text h =>
    refine ⟨d.hear w sink (e.describe (.text rule)).trail, rfl, rfl, ?_⟩
    simp only [Session.run, Session.describe, perform_bind, Session.perform_settle, h]
    rw [conclude_singleton, perform_bind]
    rfl
  | format hvalue h =>
    refine ⟨d, rfl, rfl, ?_⟩
    simp only [Session.run, Session.format, perform_bind, perform_liftExcept, hvalue, h]
    rw [conclude_singleton, perform_bind]
    rfl
  | types => exact ⟨d, rfl, rfl, rfl⟩
  | validateConfig =>
    exact ⟨d, rfl, rfl, congrArg d.perform (conclude_singleton (within w e sink) _ 0).symm⟩

theorem Prints.perform {lines : List String} {code : Nat} {st : σ}
    (h : c.Prints w e sink d.files lines code st) :
    ∃ d' : Scene σ, d'.files = st ∧ d'.output = d.output ∧
      d.perform ((within w e sink).run c) = d'.perform ((within w e sink).conclude lines code) := by
  cases h with
  | judgement h => exact h.perform
  | answer h => exact h.perform

end Command

namespace Line

theorem perform_loadSettings (d : Scene σ) (w : Surroundings σ) (line : Line)
    (environment : Variable) : d.perform (line.loadSettings w.host environment) =
      (Settings.load (w.look d.files) environment line.config?, d) := by
  rw [loadSettings, Settings.load, Scene.perform_bind, Scene.perform_liftExcept]
  cases Settings.locate environment line.config? with
  | error f => rfl
  | ok located => exact d.perform_liftExcept _

variable [PatternLibrary]

section

variable (w : Surroundings σ) (line : Line) (environment : Variable) (st : σ)

/-- A command line gets to its command: it names one, the settings load, and the log opens. -/
structure Starts (c : Command) (s : Settings) (st' : σ) : Prop where
  command : line.command? = some c
  settings : Settings.load (w.look st) environment line.config? = .ok s
  log : s.opened w st = (.ok (), st')

inductive Fails : String → Prop
  | noCommand (h : line.command? = none) : Fails "no command given; run `argrule --help`"
  | settings {c : Command} {f : ConfigFault} (hcommand : line.command? = some c)
    (h : Settings.load (w.look st) environment line.config? = .error f) :
    Fails ("failed to load config: " ++ f.message)
  | log {c : Command} {s : Settings} {st' : σ} {why : String} (hcommand : line.command? = some c)
    (hsettings : Settings.load (w.look st) environment line.config? = .ok s)
    (h : s.opened w st = (.error why, st')) :
    Fails ("failed to build engine: " ++ (@ConfigFault.inaccessible why).message)
  | command {c : Command} {s : Settings} {st' : σ} {message : String}
    (hstarts : line.Starts w environment st c s st')
    (h : c.Fails w s.engine s.sink st' message) : Fails message

inductive Judges : Value → Bool → σ → Prop
  | intro {c : Command} {s : Settings} {st' st'' : σ} {v : Value} {isValid : Bool}
    (hstarts : line.Starts w environment st c s st')
    (h : c.Judges w s.engine s.sink st' v isValid st'') : Judges v isValid st''

inductive Prints : List String → Nat → σ → Prop
  | intro {c : Command} {s : Settings} {st' st'' : σ} {lines : List String} {code : Nat}
    (hstarts : line.Starts w environment st c s st')
    (h : c.Prints w s.engine s.sink st' lines code st'') : Prints lines code st''

inductive Unprinted : String → Prop
  | intro {lines : List String} {code : Nat} {st' : σ} {why : String}
    (hprints : line.Prints w environment st lines code st')
    (h : (w.write st' lines).1 = .error why) : Unprinted why

/-- The exit code of a command line in some surroundings, and the scene that it leaves. -/
def carryOut : Nat × Scene σ := (line.run w.host environment).run { files := st }

end

variable {w : Surroundings σ} {line : Line} {environment : Variable} {st st' : σ} {s : Settings}

theorem Judges.prints {v : Value} {isValid : Bool} (h : line.Judges w environment st v isValid st') :
    line.Prints w environment st [Json.pretty v] (if isValid then 0 else 1) st' := by
  obtain ⟨hstarts, h⟩ := h
  exact ⟨hstarts, .judgement h⟩

theorem carryOut_eq : line.carryOut w environment st =
    match ({ files := st } : Scene σ).perform (line.attempt w.host environment) with
    | (.ok code, d) => (code, d)
    | (.error message, d) =>
      (2, { d with complaints := d.complaints ++ ("error: " ++ message ++ "\n") }) := by
  rw [carryOut, run, Scene.perform]
  simp only [StateT.run_bind]
  cases h : StateT.run (line.attempt w.host environment).run { files := st } with
  | mk result d => cases result <;> rfl

section

variable {c : Command} (hversion : line.showsVersion = false)

include hversion

theorem perform_attempt (hcommand : line.command? = some c) :
    ({ files := st } : Scene σ).perform (line.attempt w.host environment) =
      match Settings.load (w.look st) environment line.config? with
      | .error f => (.error ("failed to load config: " ++ f.message), { files := st })
      | .ok s => match s.opened w st with
        | (.error why, st) => (.error ("failed to build engine: " ++
          (@ConfigFault.inaccessible why).message), { files := st })
        | (.ok (), st) =>
          ({ files := st } : Scene σ).perform ((Session.within w s.engine s.sink).run c) := by
  simp only [attempt, hversion, hcommand, Bool.false_eq_true, if_false, Scene.perform_bind,
    Scene.perform_adapt, perform_loadSettings]
  cases Settings.load (w.look st) environment line.config? with
  | error f => rfl
  | ok s =>
    simp only [Except.mapError, Settings.perform_start]
    cases s.opened w st with
    | mk result st => cases result <;> rfl

theorem Starts.perform (h : line.Starts w environment st c s st') :
    ({ files := st } : Scene σ).perform (line.attempt w.host environment) =
      ({ files := st' } : Scene σ).perform ((Session.within w s.engine s.sink).run c) := by
  simp only [perform_attempt hversion h.command, h.settings, h.log]

theorem Fails.perform {message : String} (h : line.Fails w environment st message) :
    ∃ d, ({ files := st } : Scene σ).perform (line.attempt w.host environment) =
      (.error message, d) ∧ d.output = "" := by
  cases h with
  | noCommand h =>
    refine ⟨{ files := st }, ?_, rfl⟩
    simp only [attempt, hversion, h, Bool.false_eq_true, if_false]
    rfl
  | settings hcommand h =>
    refine ⟨{ files := st }, ?_, rfl⟩
    simp only [perform_attempt hversion hcommand, h]
  | @log c s st' why hcommand hsettings h =>
    refine ⟨{ files := st' }, ?_, rfl⟩
    simp only [perform_attempt hversion hcommand, hsettings, h]
  | command hstarts h =>
    rw [hstarts.perform hversion]
    exact h.perform ⟨_, "", ""⟩

theorem Fails.carryOut {message : String} (h : line.Fails w environment st message) :
    (line.carryOut w environment st).1 = 2 ∧ (line.carryOut w environment st).2.output = "" ∧
      ∃ before, (line.carryOut w environment st).2.complaints =
        before ++ ("error: " ++ message ++ "\n") := by
  obtain ⟨d, hd, houtput⟩ := h.perform hversion
  rw [carryOut_eq, hd]
  exact ⟨rfl, houtput, d.complaints, rfl⟩

theorem Prints.carryOut {lines : List String} {code : Nat}
    (h : line.Prints w environment st lines code st') :
    (line.carryOut w environment st).2.output = (w.write st' lines).2.1 ∧
      match (w.write st' lines).1 with
      | .ok () => (line.carryOut w environment st).1 = code
      | .error why => (line.carryOut w environment st).1 = 2 ∧
        ∃ before, (line.carryOut w environment st).2.complaints =
          before ++ ("error: " ++ ("failed to write to stdout: " ++ why) ++ "\n") := by
  obtain ⟨hstarts, h⟩ := h
  obtain ⟨d, rfl, houtput, hrun⟩ := h.perform ⟨_, "", ""⟩
  rw [carryOut_eq, hstarts.perform hversion, hrun, Session.conclude, Scene.perform_bind,
    Scene.perform_printLines, houtput]
  cases (w.write d.files lines).1 with
  | ok _ => exact ⟨String.empty_append, rfl⟩
  | error why => exact ⟨String.empty_append, rfl, d.complaints, rfl⟩

theorem Unprinted.carryOut {why : String} (h : line.Unprinted w environment st why) :
    (line.carryOut w environment st).1 = 2 ∧
      ∃ before, (line.carryOut w environment st).2.complaints =
        before ++ ("error: " ++ ("failed to write to stdout: " ++ why) ++ "\n") := by
  obtain ⟨hprints, hwrite⟩ := h
  have hrun := (hprints.carryOut hversion).2
  rwa [hwrite] at hrun

theorem Prints.code_of_printed {lines : List String} {code : Nat}
    (h : line.Prints w environment st lines code st')
    (hprinted : ¬ ∃ why, line.Unprinted w environment st why) :
    (w.write st' lines).1 = .ok () ∧ (line.carryOut w environment st).1 = code := by
  have hrun := (h.carryOut hversion).2
  cases hwrite : (w.write st' lines).1 with
  | ok _ =>
    rw [hwrite] at hrun
    exact ⟨rfl, hrun⟩
  | error why => exact absurd ⟨why, .intro h hwrite⟩ hprinted

theorem Judges.carryOut {v : Value} {isValid : Bool}
    (h : line.Judges w environment st v isValid st')
    (hprinted : ¬ ∃ why, line.Unprinted w environment st why) :
    (line.carryOut w environment st).1 = (if isValid then 0 else 1) ∧
      (line.carryOut w environment st).2.output = Json.pretty v ++ "\n" := by
  obtain ⟨hwrite, hcode⟩ := h.prints.code_of_printed hversion hprinted
  exact ⟨hcode, (h.prints.carryOut hversion).1.trans (w.text_write_singleton hwrite)⟩

end

end Line

end Wordings

end Rulebook
