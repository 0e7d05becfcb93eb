import Rulebook.Command.Run

namespace Rulebook

variable {σ ε ε' α β : Type}

def Sink.log (s : Sink) (w : Surroundings σ) (st : σ) (events : List Event) : σ :=
  match s with
  | .file path => events.foldl (fun st e ↦ (w.append st path (e.line (w.now st))).2) st
  | _ => st

def Sink.mutter (s : Sink) (w : Surroundings σ) (st : σ) (complaints : String)
    (events : List Event) : String :=
  match s with
  | .stderr => events.foldl (fun t e ↦ t ++ e.line (w.now st)) complaints
  | _ => complaints

/-- Prints lines one after the other, up to the first that cannot be printed. The text is that of the
lines before it. -/
def Surroundings.write (w : Surroundings σ) : σ → List String → Except String Unit × String × σ
  | st, [] => (.ok (), "", st)
  | st, line :: lines =>
    match w.print st (line ++ "\n") with
    | (.ok (), st) => ((w.write st lines).1, line ++ "\n" ++ (w.write st lines).2.1,
      (w.write st lines).2.2)
    | (.error why, st) => (.error why, "", st)

theorem Surroundings.text_write_singleton (w : Surroundings σ) {st : σ} {line : String}
    (h : (w.write st [line]).1 = .ok ()) : (w.write st [line]).2.1 = line ++ "\n" := by
  rw [write] at h ⊢
  cases hprint : w.print st (line ++ "\n") with
  | mk result st =>
    rw [hprint] at h
    cases result with
    | ok _ => exact String.append_empty
    | error why => cases h

namespace Scene

/-- What a computation that may fail comes to on a scene, and the scene that it leaves. -/
def perform (d : Scene σ) (x : ExceptT ε (StateM (Scene σ)) α) : Except ε α × Scene σ := x.run.run d

def hear (d : Scene σ) (w : Surroundings σ) (s : Sink) (events : List Event) : Scene σ :=
  ⟨s.log w d.files events, d.output, s.mutter w d.files d.complaints events⟩

variable (d : Scene σ) (w : Surroundings σ)

theorem perform_bind (x : ExceptT ε (StateM (Scene σ)) α) (f : α → ExceptT ε (StateM (Scene σ)) β) :
    d.perform (x >>= f) = match d.perform x with
      | (.ok a, d') => d'.perform (f a)
      | (.error e, d') => (.error e, d') := by
  unfold perform ExceptT.run StateT.run
  simp only [bind, ExceptT.bind, ExceptT.mk, StateT.bind, ExceptT.bindCont]
  cases x d with
  | mk result d' => cases result <;> rfl

theorem perform_liftExcept (r : Except ε α) :
    d.perform (liftExcept r : ExceptT ε (StateM (Scene σ)) α) = (r, d) := by
  cases r <;> rfl

theorem perform_adapt (x : ExceptT ε (StateM (Scene σ)) α) (f : ε → ε') :
    d.perform (x.adapt f) = ((d.perform x).1.mapError f, (d.perform x).2) := rfl

theorem emit_run (s : Sink) (e : Event) : (s.emit w.host e).run d = ((), d.hear w s [e]) := by
  cases s <;> rfl

theorem hear_cons (s : Sink) (e : Event) (events : List Event) :
    d.hear w s (e :: events) = (d.hear w s [e]).hear w s events := by
  cases s <;> rfl

theorem forM_emit_run (s : Sink) (events : List Event) :
    (events.forM (s.emit w.host)).run d = ((), d.hear w s events) := by
  induction events generalizing d with
  | nil => cases s <;> rfl
  | cons e events ih =>
    have hrun : ((e :: events).forM (s.emit w.host)).run d =
        (events.forM (s.emit w.host)).run ((s.emit w.host e).run d).2 := rfl
    rw [hrun, emit_run, ih]
    exact congrArg (Prod.mk ()) (d.hear_cons w s e events).symm

theorem perform_settle (s : Sink) (r : Traced ε α) :
    d.perform (s.settle w.host r) = (r.result, d.hear w s r.trail) := by
  have hrun : d.perform (s.settle w.host r) =
      (r.result, ((r.trail.forM (s.emit w.host)).run d).2) := rfl
  rw [hrun, forM_emit_run]

theorem perform_printLine (text : String) :
    d.perform (w.host.printLine text) = match w.print d.files (text ++ "\n") with
      | (.ok (), st) => (.ok (), ⟨st, d.output ++ (text ++ "\n"), d.complaints⟩)
      | (.error why, st) =>
        (.error ("failed to write to stdout: " ++ why), ⟨st, d.output, d.complaints⟩) := by
  have hrun : d.perform (w.host.printLine text) =
      ((w.print d.files (text ++ "\n")).1.mapError ("failed to write to stdout: " ++ ·),
        ((w.host.print (text ++ "\n")).run d).2) := rfl
  have hscene : ((w.host.print (text ++ "\n")).run d).2 =
      ⟨(w.print d.files (text ++ "\n")).2,
        if (w.print d.files (text ++ "\n")).1.isOk then d.output ++ (text ++ "\n") else d.output,
        d.complaints⟩ := rfl
  rw [hrun, hscene]
  cases w.print d.files (text ++ "\n") with
  | mk result st => cases result <;> rfl

theorem perform_printLines (lines : List String) :
    d.perform (lines.forM w.host.printLine) =
      ((w.write d.files lines).1.mapError ("failed to write to stdout: " ++ ·),
        ⟨(w.write d.files lines).2.2, d.output ++ (w.write d.files lines).2.1, d.complaints⟩) := by
  induction lines generalizing d with
  | nil =>
    rw [Surroundings.write, String.append_empty]
    rfl
  | cons line lines ih =>
    have hrun : d.perform ((line :: lines).forM w.host.printLine) =
        d.perform (w.host.printLine line >>= fun _ ↦ lines.forM w.host.printLine) := rfl
    rw [hrun, perform_bind, perform_printLine, Surroundings.write]
    cases w.print d.files (line ++ "\n") with
    | mk result st =>
      cases result with
      | error why =>
        dsimp only
        rw [String.append_empty]
        rfl
      | ok _ =>
        dsimp only
        rw [ih, String.append_assoc]

end Scene

end Rulebook
