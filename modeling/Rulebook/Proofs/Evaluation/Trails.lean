import Rulebook.Evaluation.Audit
import Rulebook.Pattern.Matching
import Rulebook.Proofs.Evaluation.Calls
import Rulebook.Proofs.Evaluation.Faults
import Rulebook.Proofs.Equality

namespace Rulebook

/-- An event has no more reasons than checks, and none for a valid input. -/
def Event.Sound (event : Event) : Prop :=
  event.reasonCount ≤ event.checks ∧ (event.valid? = some true → event.reasonCount = 0)

namespace Engine

def warning (e : Engine) (r : Rule) : List Event :=
  if e.policy = .warn ∧ ∃ s ∈ r.levels, s.mixes = true then [.warned r.checkCount] else []

def opening (e : Engine) (source : Source) (r : Rule) : List Event :=
  match source with
  | .text _ => e.warning r ++ [.compiled r.checkCount]
  | .tree _ => []

/-- The rules that are applied from within a rule, check by check in the order of evaluation, up to
the check that fails. -/
def calls (e : Engine) (context : Context) (r : Rule) (input : Input) : List Application :=
  (Traced.reached (fun t ↦ (e.catalog.evaluate (e.scope context) input t).settle)
    r.evaluated).flatMap (applications (e.scope context) input)

def inside (e : Engine) (context : Context) (r : Rule) (input : Input) : List Event :=
  (e.calls context r input).flatMap fun a ↦ (e.apply context (.text a.rule) a.input).trail

/-- The events that are left by applying a rule. -/
structure TrailLaw (e : Engine) (context : Context) (source : Source) (input : Input) : Prop where
  unreadable : ∀ text err, source = .text text → Rule.read e.limits text = .error err →
    (e.apply context source input).trail = []
  refused : ∀ text r f, source = .text text → Rule.read e.limits text = .ok r →
    (e.compile text).result = .error f → (e.apply context source input).trail = e.warning r
  defective : ∀ r d, source = .tree r → r.defect? = some d →
    (e.apply context source input).trail = []
  fault : ∀ r f, (e.obtain source).result = .ok r →
    (e.apply context source input).result = .error f →
    (e.apply context source input).trail = e.opening source r ++ e.inside context r input
  outcome : ∀ r o, (e.obtain source).result = .ok r →
    (e.apply context source input).result = .ok o →
    (e.apply context source input).trail = e.opening source r ++ e.inside context r input ++
      [.validated input.mode r.checkCount o.isValid o.reasons.length]
  sound : ∀ event ∈ (e.apply context source input).trail, event.Sound

variable {e : Engine} {context : Context} {source : Source} {input : Input} {text : String}
  {r : Rule}

theorem trail_admitMixed (e : Engine) (r : Rule) : (e.admitMixed r).trail = e.warning r := by
  rw [admitMixed, warning]
  cases hr : r.anyMixed with
  | false =>
    have hnone : ¬ ∃ s ∈ r.levels, s.mixes = true := fun h ↦ by
      rw [Rule.anyMixed_iff.2 h] at hr
      cases hr
    rw [if_neg Bool.false_ne_true, if_neg fun h ↦ hnone h.2]
    rfl
  | true =>
    have hsome := Rule.anyMixed_iff.1 hr
    rw [if_pos rfl]
    cases e.policy with
    | warn => rw [if_pos ⟨rfl, hsome⟩]; rfl
    | allow => rw [if_neg fun h ↦ by cases h.1]; rfl
    | deny => rw [if_neg fun h ↦ by cases h.1]; rfl

theorem compile_of_read (h : Rule.read e.limits text = .ok r) : e.compile text = (do
    e.admitMixed r
    Run.ofMistake (r.checks.forM e.catalog.check)
    Traced.record (.compiled r.checkCount)
    return r) :=
  bind_ofMistake_ok (mapError_eq_ok_iff.2 h) _

theorem trail_compile_of_error {err : ReadError} (h : Rule.read e.limits text = .error err) :
    (e.compile text).trail = [] := by
  rw [compile, h]
  rfl

theorem trail_compile_of_fault {f : Fault} (hread : Rule.read e.limits text = .ok r)
    (h : (e.compile text).result = .error f) : (e.compile text).trail = e.warning r := by
  rw [compile_of_read hread] at h ⊢
  cases hmixed : (e.admitMixed r).result with
  | error f' => rw [Traced.bind_of_error hmixed, trail_admitMixed]
  | ok u =>
    rw [Traced.bind_of_ok hmixed] at h ⊢
    obtain hchecks | ⟨_, -, h⟩ := Traced.bind_eq_error_iff.1 h
    · rw [trail_admitMixed, Traced.bind_of_error hchecks]
      exact List.append_nil _
    · cases h

theorem trail_compile_of_ok (h : (e.compile text).result = .ok r) :
    (e.compile text).trail = e.warning r ++ [.compiled r.checkCount] := by
  obtain ⟨hread, hadmitted, hchecks⟩ := compile_eq_ok_iff.1 h
  have hmixed := admitMixed_eq_ok_iff.2 hadmitted
  have hforM : (Run.ofMistake (r.checks.forM e.catalog.check)).result = .ok () :=
    ofMistake_eq_ok_iff.2 (forM_eq_ok_iff.2 hchecks)
  rw [compile_of_read hread, Traced.bind_of_ok hmixed, trail_admitMixed, Traced.bind_of_ok hforM]
  rfl

theorem trail_obtain_of_ok (h : (e.obtain source).result = .ok r) :
    (e.obtain source).trail = e.opening source r := by
  cases source with
  | text text => exact trail_compile_of_ok h
  | tree r' =>
    rw [obtain]
    split <;> rfl

theorem trail_applyIn (hc : e.catalog.Closed) (context : Context) (h : r.defect? = none)
    (input : Input) :
    (e.applyIn (e.scope context) r input).trail = e.inside context r input := by
  -- but for its outcome, the rule runs its checks one after another
  have hforget := congrArg Traced.trail
    (Rule.forget_apply (e.catalog.evaluate (e.scope context) input) h)
  refine Eq.trans hforget ((Traced.trail_mapM _ _).trans ?_)
  rw [inside, calls, List.flatMap_assoc]
  refine List.flatMap_congr fun t _ ↦ ?_
  rw [trail_settle]
  exact hc.trail_evaluate _ input t

theorem trail_apply_of_refused {f : Fault} (h : (e.obtain source).result = .error f) :
    (e.apply context source input).trail = (e.obtain source).trail := by
  rw [apply, applyWith, Traced.bind_of_error h]

theorem trail_apply_of_obtain (hc : e.catalog.Closed) (h : (e.obtain source).result = .ok r) :
    (e.apply context source input).trail = e.opening source r ++ e.inside context r input ++
      match (e.apply context source input).result with
      | .ok o => [.validated input.mode r.checkCount o.isValid o.reasons.length]
      | .error _ => [] := by
  have htrail := trail_applyIn hc context (defect?_of_obtain h) input
  rw [apply_eq_applyWith hc.contained, applyWith_result_of_obtain h, applyWith,
    Traced.bind_of_ok h, ← trail_obtain_of_ok h, List.append_assoc, ← htrail]
  cases ho : (e.applyIn (e.scope context) r input).result with
  | ok o => rw [Traced.bind_of_ok ho]; rfl
  | error f => rw [Traced.bind_of_error ho, List.append_nil]

theorem mem_calls {a : Application} (hr : (e.obtain source).result = .ok r)
    (h : a ∈ e.calls context r input) : e.Calls (e.scope context) source input a := by
  obtain ⟨t, ht, ha⟩ := List.mem_flatMap.1 h
  exact ⟨r, t, hr, Rule.mem_checks_of_evaluated (Traced.mem_of_mem_reached ht), ha⟩

theorem sound_of_mem_warning {event : Event} (h : event ∈ e.warning r) : event.Sound := by
  rw [warning] at h
  split at h
  · obtain rfl := List.mem_singleton.1 h
    exact ⟨Nat.zero_le _, nofun⟩
  · cases h

theorem sound_of_mem_obtain {event : Event} (h : event ∈ (e.obtain source).trail) :
    event.Sound := by
  cases source with
  | tree r =>
    rw [obtain] at h
    split at h <;> cases h
  | text text =>
    change event ∈ (e.compile text).trail at h
    cases hread : Rule.read e.limits text with
    | error err =>
      rw [trail_compile_of_error hread] at h
      cases h
    | ok r =>
      cases hr : (e.compile text).result with
      | error f =>
        rw [trail_compile_of_fault hread hr] at h
        exact sound_of_mem_warning h
      | ok r' =>
        rw [trail_compile_of_ok hr] at h
        obtain h | h := List.mem_append.1 h
        · exact sound_of_mem_warning h
        · obtain rfl := List.mem_singleton.1 h
          exact ⟨Nat.zero_le _, fun h ↦ by cases h⟩

theorem sound_of_mem_trail (hc : e.catalog.Closed) (context : Context) (source : Source)
    (input : Input) : ∀ event ∈ (e.apply context source input).trail, event.Sound := by
  induction source, input using call_induction (e := e) (s := e.scope context) with
  | step source input ih =>
    intro event hevent
    -- it stems from obtaining the rule, from a rule within or from the outcome
    cases hr : (e.obtain source).result with
    | error f =>
      rw [trail_apply_of_refused hr] at hevent
      exact sound_of_mem_obtain hevent
    | ok r =>
      rw [trail_apply_of_obtain hc hr, ← trail_obtain_of_ok hr] at hevent
      obtain hevent | hevent := List.mem_append.1 hevent
      · obtain hevent | hevent := List.mem_append.1 hevent
        · exact sound_of_mem_obtain hevent
        · obtain ⟨a, ha, hevent⟩ := List.mem_flatMap.1 hevent
          exact ih a (mem_calls hr ha) event hevent
      · split at hevent
        · next o ho =>
          obtain rfl := List.mem_singleton.1 hevent
          rw [apply, applyWith_result_of_obtain hr] at ho
          refine ⟨(Rule.length_reasons (defect?_of_obtain hr) ho).1, fun hvalid ↦ ?_⟩
          cases o with
          | valid v => rfl
          | invalid reasons => cases hvalid
        · cases hevent

/-- A text is compiled first: it leaves nothing if it cannot be read, and at most a warning if it
does not compile. A tree leaves nothing of its own. Then come the events of the rules applied from
within, to which the same law applies, and last the outcome, unless there is none. -/
theorem trailLaw (hc : e.catalog.Closed) (context : Context) (source : Source) (input : Input) :
    e.TrailLaw context source input where
  unreadable text err hsource herr := by
    subst hsource
    have hf : (e.obtain (.text text)).result = .error (.mistake (.unreadable err)) := by
      rw [obtain, compile, herr]
      rfl
    exact (trail_apply_of_refused hf).trans (trail_compile_of_error herr)
  refused text r f hsource hread hf := by
    subst hsource
    have hobtain : (e.obtain (.text text)).result = .error f := hf
    exact (trail_apply_of_refused hobtain).trans (trail_compile_of_fault hread hf)
  defective r d hsource hd := by
    subst hsource
    have hobtain : e.obtain (.tree r) = .fail (.mistake (.defect d)) := by
      rw [obtain, hd]
    have hf : (e.obtain (.tree r)).result = .error (.mistake (.defect d)) := by
      rw [hobtain]
      rfl
    rw [trail_apply_of_refused hf, hobtain]
    rfl
  fault r f hr hf := by
    rw [trail_apply_of_obtain hc hr, hf]
    exact List.append_nil _
  outcome r o hr ho := by
    rw [trail_apply_of_obtain hc hr, ho]
  sound := sound_of_mem_trail hc context source input

theorem trailLaw_nested :
    let e : Engine := { catalog := .builtin }
    (e.apply [] (.text "dict[value(int || str && str)]") (.raw "a==b")).trail =
      [.compiled 1, .warned 3, .compiled 3, .validated .raw 3 true 0, .validated .raw 1 true 0] := by
  intro e
  have hcompile : (e.compile "dict[value(int || str && str)]").result =
      .ok ⟨[.check "dict[value(int || str && str)]"], [.solo 0], none⟩ := by
    decide +kernel
  have happly : (e.apply [] (.text "dict[value(int || str && str)]") (.raw "a==b")).result =
      .ok (.valid (.object [("a", .string "b")])) := by
    rw [apply_result_of_compile hcompile]
    decide +kernel
  have htrail := (trailLaw (e := e) Catalog.closed_builtin []
    (.text "dict[value(int || str && str)]") (.raw "a==b")).outcome _ _ hcompile happly
  rw [htrail]
  decide +kernel

end Engine

end Rulebook
