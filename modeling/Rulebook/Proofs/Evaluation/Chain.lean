import Mathlib
import Rulebook.Catalog.Builtin
import Rulebook.Evaluation.Engine
import Rulebook.Pattern.Matching
import Rulebook.Proofs.Evaluation.Walk
import Rulebook.Proofs.Rule.Reading
import Rulebook.Proofs.Equality

namespace Rulebook

/-- The first connective joins the first two leaves; every further leaf must pass by itself. -/
def chainHolds : List Connective → List Bool → Bool
  | c :: _, p :: q :: ps => c.holds [p, q] && ps.all id
  | _, ps => ps.all id

theorem chainHolds_congr {cs cs' : List Connective} (h : cs.head? = cs'.head?) (ps : List Bool) :
    chainHolds cs ps = chainHolds cs' ps := by
  cases cs <;> cases cs' <;> cases h
  · rfl
  · obtain _ | ⟨p, _ | ⟨q, ps⟩⟩ := ps <;> rfl

def Engine.applyLeaf (e : Engine) (scope : Scope) (input : Input) : Leaf → Run Outcome
  | .check t => (e.catalog.evaluate scope input t).settle
  | .nested r => e.applyIn scope r input

def groupsFrom (k : Nat) (cs : List Connective) : List Group :=
  (cs.zipIdx k).map fun (c, i) ↦ .combine c i (i + 1)

theorem groupsFrom_cons (k : Nat) (c : Connective) (cs : List Connective) :
    groupsFrom k (c :: cs) = .combine c k (k + 1) :: groupsFrom (k + 1) cs := rfl

theorem firstVisits_next {visited : List Nat} {k : Nat} (h : ∀ i, i ∈ visited ↔ i ≤ k) :
    firstVisits visited [k, k + 1] = [k + 1] := by
  have hk : k ∈ visited := (h k).2 (Nat.le_refl k)
  have hk' : k + 1 ∉ visited := fun hmem ↦ absurd ((h _).1 hmem) (by omega)
  simp [firstVisits, hk, hk']

theorem visitedAfter_next {visited : List Nat} {k : Nat} (h : ∀ i, i ∈ visited ↔ i ≤ k) :
    ∀ i, i ∈ visitedAfter visited [k + 1] ↔ i ≤ k + 1 := by
  intro i
  simp only [visitedAfter, List.reverse_singleton, List.singleton_append, List.mem_cons, h]
  omega

theorem visitOrder_groupsFrom {visited : List Nat} {k : Nat} (h : ∀ i, i ∈ visited ↔ i ≤ k)
    (cs : List Connective) :
    visitOrder visited (groupsFrom k cs) = List.range' (k + 1) cs.length := by
  induction cs generalizing visited k with
  | nil => rfl
  | cons c cs ih =>
    rw [groupsFrom_cons, visitOrder, Group.leaves, firstVisits_next h, ih (visitedAfter_next h),
      List.length_cons, List.range'_succ]
    rfl

theorem groupsHold_groupsFrom {visited : List Nat} {k : Nat} (h : ∀ i, i ∈ visited ↔ i ≤ k)
    (passes : Nat → Bool) (cs : List Connective) :
    groupsHold passes visited (groupsFrom k cs) =
      ((List.range' (k + 1) cs.length).map passes).all id := by
  induction cs generalizing visited k with
  | nil => rfl
  | cons c cs ih =>
    rw [groupsFrom_cons, groupsHold, Group.leaves, firstVisits_next h, ih (visitedAfter_next h),
      List.length_cons, List.range'_succ, List.map_cons, List.all_cons]
    cases c <;> simp [Group.holds, Group.connective?, Connective.holds]

theorem groupsOf_cons (c : Connective) (cs : List Connective) :
    groupsOf (c :: cs) = .combine c 0 1 :: groupsFrom 1 cs := rfl

theorem mem_visitedAfter_first (i : Nat) : i ∈ visitedAfter [] [0, 1] ↔ i ≤ 1 := by
  simp only [visitedAfter, List.append_nil, List.mem_reverse, List.mem_cons, List.not_mem_nil,
    or_false]
  omega

theorem visitOrder_groupsOf (cs : List Connective) :
    visitOrder [] (groupsOf cs) = List.range (cs.length + 1) := by
  cases cs with
  | nil => rfl
  | cons c cs =>
    rw [groupsOf_cons, visitOrder, List.range_eq_range', List.length_cons, List.range'_succ,
      List.range'_succ]
    exact congrArg (0 :: 1 :: ·) (visitOrder_groupsFrom mem_visitedAfter_first cs)

theorem groupsHold_groupsOf (passes : Nat → Bool) (cs : List Connective) :
    groupsHold passes [] (groupsOf cs) =
      chainHolds cs ((List.range (cs.length + 1)).map passes) := by
  cases cs with
  | nil => simp [groupsOf, groupsHold, firstVisits, Group.holds, Group.leaves, Group.connective?,
      Connective.holds, chainHolds]
  | cons c cs =>
    rw [groupsOf_cons, groupsHold, List.range_eq_range', List.length_cons, List.range'_succ,
      List.range'_succ]
    exact congrArg (_ && ·) (groupsHold_groupsFrom mem_visitedAfter_first passes cs)

/-- What a chain makes of the outcomes of its leaves. -/
def chainOutcome (cs : List Connective) (capture : Option Nat) (os : List Outcome) : Outcome :=
  ((Walk.start.recordAll capture ((List.range os.length).zip os)).judge
    (chainHolds cs (os.map Outcome.isValid))).outcome

theorem isValid_chainOutcome (cs : List Connective) (capture : Option Nat) (os : List Outcome) :
    (chainOutcome cs capture os).isValid = chainHolds cs (os.map Outcome.isValid) := by
  rw [chainOutcome, Walk.isValid_outcome, Walk.judge, Walk.recordAll_satisfied]
  rfl

theorem reasons_chainOutcome {cs : List Connective} {capture : Option Nat} {os : List Outcome}
    (h : (chainOutcome cs capture os).isValid = false) :
    (chainOutcome cs capture os).reasons = os.flatMap Outcome.reasons := by
  rw [chainOutcome, Walk.isValid_outcome] at h
  rw [chainOutcome, Walk.reasons_outcome h]
  exact Walk.recordAll_zip_reasons _ _ List.length_range

theorem chainOutcome_congr {cs cs' : List Connective} (h : cs.head? = cs'.head?)
    (capture : Option Nat) (os : List Outcome) :
    chainOutcome cs capture os = chainOutcome cs' capture os := by
  rw [chainOutcome, chainOutcome, chainHolds_congr h]

/-- A chain applies all of its leaves in order, whatever their outcomes. -/
theorem apply_groupsOf (check : String → Run Value) {ls : List Leaf} {cs : List Connective}
    (hlen : ls.length = cs.length + 1) (capture : Option Nat) :
    Rule.apply check ⟨ls, groupsOf cs, capture⟩ = do
      return chainOutcome cs capture (← ls.mapM (Leaf.apply check)) := by
  rw [Rule.apply_eq, ← mapM_runLeaf check (map_range_getElem? ls).symm]
  simp only [Rule.groups, Rule.leaves, Rule.capture, visitOrder_groupsOf, ← hlen]
  refine Traced.bind_congr fun os hos ↦ ?_
  have hos' : os.length = ls.length := by
    rw [← length_of_mapM _ hos, List.length_range]
  rw [groupsHold_groupsOf, ← hlen, ← map_isValid_of_mapM _ hos, chainOutcome, hos']

theorem connectives_groupsFrom (k : Nat) (cs : List Connective) :
    (groupsFrom k cs).filterMap Group.connective? = cs := by
  induction cs generalizing k with
  | nil => rfl
  | cons c cs ih => exact congrArg (c :: ·) (ih (k + 1))

theorem connectives_groupsOf (cs : List Connective) :
    (groupsOf cs).filterMap Group.connective? = cs := by
  cases cs with
  | nil => rfl
  | cons c cs => exact congrArg (c :: ·) (connectives_groupsFrom 1 cs)

namespace Engine

variable (e : Engine) (scope : Scope) (input : Input)

theorem applyLeaf_eq (l : Leaf) :
    e.applyLeaf scope input l = l.apply (e.catalog.evaluate scope input) := by
  cases l <;> rfl

theorem applyLeaf_eq_apply :
    e.applyLeaf scope input = Leaf.apply (e.catalog.evaluate scope input) :=
  funext (e.applyLeaf_eq scope input)

theorem applyLeaf_ne_invalid (l : Leaf) (reason : Reason) :
    (e.applyLeaf scope input l).result ≠ .error (.invalid reason) := by
  cases l with
  | check t => exact settle_ne_invalid _ reason
  | nested r => exact r.apply_ne_invalid _ reason

/-- Applying any level of a rule that was read. The first leaf that fails ends it, and no leaf is
left out otherwise. The level holds if the first connective does between the first two leaves and
all further leaves pass; no later connective matters. The reasons of an invalid outcome are those of
all leaves, of which a check has one. -/
theorem applyIn_of_read {limits : Limits} {text : String} {r s : Rule}
    (h : Rule.read limits text = .ok r) (hs : s ∈ r.levels) :
    (∀ (i : Nat) (l : Leaf) (f : Fault), s.leaves[i]? = some l →
      (e.applyLeaf scope input l).result = .error f →
      (∀ l' ∈ s.leaves.take i, ∃ o, (e.applyLeaf scope input l').result = .ok o) →
      e.applyIn scope s input =
        ⟨(s.leaves.take (i + 1)).flatMap fun l ↦ (e.applyLeaf scope input l).trail, .error f⟩ ∧
      ∀ reason, f ≠ .invalid reason) ∧
    (∀ os, List.Forall₂ (fun l o ↦ (e.applyLeaf scope input l).result = .ok o) s.leaves os →
      ∃ o, e.applyIn scope s input =
        ⟨s.leaves.flatMap fun l ↦ (e.applyLeaf scope input l).trail, .ok o⟩ ∧
      o.isValid = chainHolds s.connectives (os.map Outcome.isValid) ∧
      (o.isValid = false → o.reasons = os.flatMap Outcome.reasons)) ∧
    (∀ t reasons, (e.applyLeaf scope input (.check t)).result = .ok (.invalid reasons) →
      ∃ reason, (e.catalog.evaluate scope input t).result = .error (.invalid reason) ∧
        reasons = [reason]) ∧
    ∀ cs : List Connective, cs.length = s.connectives.length →
      cs.head? = s.connectives.head? →
      e.applyIn scope ⟨s.leaves, groupsOf cs, s.capture⟩ input = e.applyIn scope s input := by
  obtain ⟨-, hb, hr⟩ := read_eq_ok_iff.1 h
  obtain ⟨cs, hlen, hgroups⟩ := isChain_iff.1 ((readLevel_canonical hb hr).1 s hs).chain
  obtain ⟨ls, gs, capture⟩ := s
  obtain rfl : gs = groupsOf cs := hgroups
  simp only [Rule.connectives, Rule.groups, connectives_groupsOf, Rule.leaves, Rule.capture]
  have hleaf : e.applyLeaf scope input = Leaf.apply (e.catalog.evaluate scope input) :=
    funext (e.applyLeaf_eq scope input)
  have happly (cs' : List Connective) (hcs' : cs'.length = cs.length) :
      e.applyIn scope ⟨ls, groupsOf cs', capture⟩ input = do
        return chainOutcome cs' capture (← ls.mapM (e.applyLeaf scope input)) := by
    rw [hleaf]
    exact apply_groupsOf _ (by rw [hcs']; exact hlen.symm) capture
  refine ⟨fun i l f hi hf hbefore ↦ ⟨?_, ?_⟩, fun os hos ↦ ?_, fun t reasons ↦ settle_eq_invalid,
    fun cs' hcs' hhead ↦ ?_⟩
  · obtain ⟨hlt, rfl⟩ := List.getElem?_eq_some_iff.1 hi
    obtain ⟨os, hos⟩ := Traced.exists_forall₂_ok hbefore
    have hsplit : ls = ls.take i ++ ls[i] :: ls.drop (i + 1) := by
      rw [← List.drop_eq_getElem_cons hlt, List.take_append_drop]
    have hmapM := Traced.mapM_of_error hos hf (ls.drop (i + 1))
    rw [← hsplit, ← List.take_succ_eq_append_getElem hlt] at hmapM
    rw [happly cs rfl, hmapM]
    exact Traced.bind_of_error rfl _
  · rintro reason rfl
    exact e.applyLeaf_ne_invalid scope input l reason hf
  · refine ⟨chainOutcome cs capture os, ?_, isValid_chainOutcome .., reasons_chainOutcome⟩
    rw [happly cs rfl, Traced.mapM_of_ok hos]
    refine (Traced.bind_of_ok rfl _).trans ?_
    show (⟨_ ++ [], _⟩ : Run Outcome) = _
    rw [List.append_nil]
    rfl
  · rw [happly cs' hcs', happly cs rfl]
    simp only [chainOutcome_congr hhead]

theorem applyIn_of_read_nested :
    ∃ o, (applyIn { catalog := .builtin } ⟨[], fun _ _ ↦ .fail exhausted⟩
        ⟨[.check "int", .check "str", .nested ⟨[.check "int", .check "int"],
          [.combine .and 0 1], none⟩], [.combine .or 0 1, .combine .or 1 2], none⟩
        (.raw "x")).result = .ok o ∧
      o.isValid = false ∧
      o.reasons = [.unreadableInteger, .unreadableInteger, .unreadableInteger] := by
  let e : Engine := { catalog := .builtin }
  let scope : Scope := ⟨[], fun _ _ ↦ .fail exhausted⟩
  have hread : Rule.read {} "int || str || (int && int)" =
      .ok ⟨[.check "int", .check "str", .nested ⟨[.check "int", .check "int"],
        [.combine .and 0 1], none⟩], [.combine .or 0 1, .combine .or 1 2], none⟩ := by
    decide +kernel
  have hint : (e.applyLeaf scope (.raw "x") (.check "int")).result =
      .ok (.invalid [.unreadableInteger]) := by
    decide +kernel
  have hstr : (e.applyLeaf scope (.raw "x") (.check "str")).result =
      .ok (.valid (.string "x")) := by
    decide +kernel
  have hnested : (e.applyLeaf scope (.raw "x") (.nested ⟨[.check "int", .check "int"],
      [.combine .and 0 1], none⟩)).result =
        .ok (.invalid [.unreadableInteger, .unreadableInteger]) := by
    decide +kernel
  obtain ⟨-, hok, -, -⟩ := e.applyIn_of_read scope (.raw "x") hread (Rule.self_mem_levels _)
  obtain ⟨o, ho, hvalid, hreasons⟩ := hok _ (.cons hint (.cons hstr (.cons hnested .nil)))
  have hfalse : o.isValid = false := hvalid.trans rfl
  exact ⟨o, congrArg Traced.result ho, hfalse, hreasons hfalse⟩

end Engine

end Rulebook
