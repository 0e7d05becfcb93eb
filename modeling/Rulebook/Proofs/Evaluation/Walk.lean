import Mathlib.Data.List.Basic
import Rulebook.Evaluation.Tree
import Rulebook.Proofs.Evaluation.Runs
import Rulebook.Proofs.Rule.Levels

namespace Rulebook

/-- Those of some leaves that were not visited before, each of them once. -/
def firstVisits (visited : List Nat) : List Nat → List Nat
  | [] => []
  | i :: is =>
    if visited.contains i then firstVisits visited is else i :: firstVisits (i :: visited) is

def visitedAfter (visited new : List Nat) : List Nat := new.reverse ++ visited

/-- The leaves that the groups of a rule evaluate, in order. -/
def visitOrder (visited : List Nat) : List Group → List Nat
  | [] => []
  | g :: gs =>
    let new := firstVisits visited g.leaves
    new ++ visitOrder (visitedAfter visited new) gs

/-- Whether a group holds, given the leaves that are new to it and which leaves pass. -/
def Group.holds (g : Group) (passes : Nat → Bool) (new : List Nat) : Bool :=
  new.isEmpty || (g.connective?.getD .and).holds (new.map passes)

def groupsHold (passes : Nat → Bool) (visited : List Nat) : List Group → Bool
  | [] => true
  | g :: gs =>
    let new := firstVisits visited g.leaves
    g.holds passes new && groupsHold passes (visitedAfter visited new) gs

def runLeaf (leaves : List (Unit → Run Outcome)) (i : Nat) : Run Outcome :=
  match leaves[i]? with
  | some leaf => leaf ()
  | none => .fail (.mistake (.defect (.groupLeaf i)))

def passesLeaf (leaves : List (Unit → Run Outcome)) (i : Nat) : Bool :=
  match (runLeaf leaves i).result with
  | .ok o => o.isValid
  | .error _ => false

namespace Walk

def recordAll (w : Walk) (capture : Option Nat) (visits : List (Nat × Outcome)) : Walk :=
  visits.foldl (fun w v ↦ w.record capture v.1 v.2) w

@[simp] theorem record_visited (w : Walk) (capture : Option Nat) (i : Nat) (o : Outcome) :
    (w.record capture i o).visited = i :: w.visited := by
  cases o <;> rfl

@[simp] theorem record_satisfied (w : Walk) (capture : Option Nat) (i : Nat) (o : Outcome) :
    (w.record capture i o).satisfied = w.satisfied := by
  cases o <;> rfl

@[simp] theorem record_reasons (w : Walk) (capture : Option Nat) (i : Nat) (o : Outcome) :
    (w.record capture i o).reasons = w.reasons ++ o.reasons := by
  cases o
  · exact (List.append_nil _).symm
  · rfl

theorem recordAll_append (w : Walk) (capture : Option Nat) (a b : List (Nat × Outcome)) :
    w.recordAll capture (a ++ b) = (w.recordAll capture a).recordAll capture b :=
  List.foldl_append

theorem recordAll_visited (w : Walk) (capture : Option Nat) (visits : List (Nat × Outcome)) :
    (w.recordAll capture visits).visited = visitedAfter w.visited (visits.map Prod.fst) := by
  induction visits generalizing w with
  | nil => rfl
  | cons v visits ih =>
    refine (ih (w.record capture v.1 v.2)).trans ?_
    simp [visitedAfter]

theorem recordAll_satisfied (w : Walk) (capture : Option Nat) (visits : List (Nat × Outcome)) :
    (w.recordAll capture visits).satisfied = w.satisfied := by
  induction visits generalizing w with
  | nil => rfl
  | cons v visits ih => exact (ih (w.record capture v.1 v.2)).trans (record_satisfied ..)

theorem recordAll_reasons (w : Walk) (capture : Option Nat) (visits : List (Nat × Outcome)) :
    (w.recordAll capture visits).reasons = w.reasons ++ visits.flatMap fun v ↦ v.2.reasons := by
  induction visits generalizing w with
  | nil => exact (List.append_nil _).symm
  | cons v visits ih =>
    refine (ih (w.record capture v.1 v.2)).trans ?_
    rw [record_reasons, List.append_assoc, List.flatMap_cons]

theorem recordAll_zip_reasons (w : Walk) (capture : Option Nat) {is : List Nat}
    {os : List Outcome} (h : is.length = os.length) :
    (w.recordAll capture (is.zip os)).reasons = w.reasons ++ os.flatMap Outcome.reasons := by
  have hsnd : (is.zip os).map Prod.snd = os := List.map_snd_zip (Nat.le_of_eq h.symm)
  have hos : (is.zip os).flatMap (fun v ↦ v.2.reasons) = os.flatMap Outcome.reasons := by
    refine Eq.trans ?_ (congrArg (List.flatMap Outcome.reasons) hsnd)
    rw [List.flatMap_map]
  rw [recordAll_reasons, hos]

def judge (w : Walk) (holds : Bool) : Walk := { w with satisfied := w.satisfied && holds }

theorem isValid_outcome (w : Walk) : w.outcome.isValid = w.satisfied := by
  rw [outcome]
  cases w.satisfied <;> rfl

theorem reasons_outcome {w : Walk} (h : w.satisfied = false) : w.outcome.reasons = w.reasons := by
  rw [outcome, h]
  rfl

theorem judge_judge (w : Walk) (a b : Bool) : (w.judge a).judge b = w.judge (a && b) := by
  rw [judge, judge, judge, Bool.and_assoc]

theorem recordAll_judge (w : Walk) (capture : Option Nat) (holds : Bool)
    (visits : List (Nat × Outcome)) :
    (w.judge holds).recordAll capture visits = (w.recordAll capture visits).judge holds := by
  induction visits generalizing w with
  | nil => rfl
  | cons v visits ih =>
    obtain ⟨i, o⟩ := v
    refine Eq.trans ?_ (ih (w.record capture i o))
    cases o <;> rfl

end Walk

variable (leaves : List (Unit → Run Outcome)) (capture : Option Nat)

theorem visitLeaves_cons (w : Walk) (i : Nat) (is : List Nat) :
    visitLeaves leaves capture w (i :: is) =
      if w.visited.contains i then visitLeaves leaves capture w is
      else do
        let o ← runLeaf leaves i
        let (w, passed) ← visitLeaves leaves capture (w.record capture i o) is
        return (w, o.isValid :: passed) := by
  rw [visitLeaves, runLeaf]
  cases leaves[i]? <;> rfl

theorem visitLeaves_eq (w : Walk) (is : List Nat) :
    visitLeaves leaves capture w is = do
      let os ← (firstVisits w.visited is).mapM (runLeaf leaves)
      return (w.recordAll capture ((firstVisits w.visited is).zip os), os.map Outcome.isValid) := by
  induction is generalizing w with
  | nil => rfl
  | cons i is ih =>
    rw [visitLeaves_cons, firstVisits]
    by_cases hi : w.visited.contains i
    · rw [if_pos hi, if_pos hi, ih]
    · rw [if_neg hi, if_neg hi, List.mapM_cons]
      simp only [ih, Walk.record_visited, bind_assoc, pure_bind]
      rfl

theorem map_isValid_of_mapM {is : List Nat} {os : List Outcome}
    (h : (is.mapM (runLeaf leaves)).result = .ok os) :
    os.map Outcome.isValid = is.map (passesLeaf leaves) := by
  have hall := Traced.mapM_eq_ok_iff.1 h
  clear h
  induction hall with
  | nil => rfl
  | @cons i o is os hio _ ih =>
    rw [List.map_cons, List.map_cons, ih, passesLeaf, hio]

theorem length_of_mapM {is : List Nat} {os : List Outcome}
    (h : (is.mapM (runLeaf leaves)).result = .ok os) : is.length = os.length :=
  (Traced.mapM_eq_ok_iff.1 h).length_eq

theorem visitGroup_eq (w : Walk) (g : Group) :
    visitGroup leaves capture w g = do
      let os ← (firstVisits w.visited g.leaves).mapM (runLeaf leaves)
      return (w.recordAll capture ((firstVisits w.visited g.leaves).zip os)).judge
        (g.holds (passesLeaf leaves) (firstVisits w.visited g.leaves)) := by
  rw [visitGroup, visitLeaves_eq, bind_assoc]
  refine Traced.bind_congr fun os hos ↦ ?_
  rw [pure_bind, map_isValid_of_mapM leaves hos]
  simp only [List.isEmpty_map]
  rfl

theorem visitGroups_eq (w : Walk) (gs : List Group) :
    visitGroups leaves capture w gs = do
      let os ← (visitOrder w.visited gs).mapM (runLeaf leaves)
      return (w.recordAll capture ((visitOrder w.visited gs).zip os)).judge
        (groupsHold (passesLeaf leaves) w.visited gs) := by
  induction gs generalizing w with
  | nil =>
    rw [visitGroups, visitOrder, List.mapM_nil, pure_bind, groupsHold, Walk.judge, Bool.and_true]
    rfl
  | cons g gs ih =>
    rw [visitGroups, visitGroup_eq, visitOrder, List.mapM_append, bind_assoc, bind_assoc]
    refine Traced.bind_congr fun os hos ↦ ?_
    have hlen := length_of_mapM leaves hos
    -- the later groups find the new leaves of this one visited
    have hvisited : ((w.recordAll capture ((firstVisits w.visited g.leaves).zip os)).judge
        (g.holds (passesLeaf leaves) (firstVisits w.visited g.leaves))).visited =
          visitedAfter w.visited (firstVisits w.visited g.leaves) := by
      refine (Walk.recordAll_visited ..).trans ?_
      rw [List.map_fst_zip (Nat.le_of_eq hlen)]
    rw [pure_bind, ih, bind_assoc, hvisited]
    refine Traced.bind_congr fun os' _ ↦ ?_
    rw [pure_bind, Walk.recordAll_judge, Walk.judge_judge, List.zip_append hlen,
      Walk.recordAll_append, groupsHold]

variable (check : String → Run Value)

theorem leafRuns_eq_map (ls : List Leaf) : leafRuns check ls = ls.map fun l _ ↦ l.apply check := by
  induction ls with
  | nil => rfl
  | cons l ls ih => rw [leafRuns, ih, List.map_cons]

theorem runLeaf_leafRuns {ls : List Leaf} {i : Nat} {l : Leaf} (h : ls[i]? = some l) :
    runLeaf (leafRuns check ls) i = l.apply check := by
  rw [runLeaf, leafRuns_eq_map, List.getElem?_map, h]
  rfl

theorem map_range_getElem? (ls : List Leaf) :
    (List.range ls.length).map (ls[·]?) = ls.map some := by
  refine List.ext_getElem (by simp) fun i hi hi' ↦ ?_
  rw [List.getElem_map, List.getElem_map, List.getElem_range]
  exact List.getElem?_eq_getElem _

theorem mapM_runLeaf {ls ls' : List Leaf} {is : List Nat} (h : ls'.map some = is.map (ls[·]?)) :
    is.mapM (runLeaf (leafRuns check ls)) = ls'.mapM (Leaf.apply check) := by
  have hlen : is.length = ls'.length := by simpa using (congrArg List.length h).symm
  have hmap : is.map (runLeaf (leafRuns check ls)) = ls'.map (Leaf.apply check) := by
    refine List.ext_getElem (by simpa using hlen) fun k hk hk' ↦ ?_
    rw [List.length_map] at hk hk'
    have hget := congrArg (fun os : List (Option Leaf) ↦ os[k]?) h
    simp only [List.getElem?_map] at hget
    rw [List.getElem?_eq_getElem hk, List.getElem?_eq_getElem hk'] at hget
    rw [List.getElem_map, List.getElem_map]
    exact runLeaf_leafRuns check (Option.some.inj hget).symm
  have hruns := congrArg (List.mapM id) hmap
  rwa [List.mapM_map, List.mapM_map] at hruns

theorem Rule.apply_eq (r : Rule) :
    r.apply check = do
      let os ← (visitOrder [] r.groups).mapM (runLeaf (leafRuns check r.leaves))
      return ((Walk.start.recordAll r.capture ((visitOrder [] r.groups).zip os)).judge
        (groupsHold (passesLeaf (leafRuns check r.leaves)) [] r.groups)).outcome := by
  obtain ⟨ls, gs, capture⟩ := r
  rw [Rule.apply, visitGroups_eq, bind_assoc]
  simp only [pure_bind]
  rfl

@[simp] theorem trail_settle (r : Run Value) : r.settle.trail = r.trail := by
  rw [Run.settle]
  split <;> rfl

theorem settle_eq_error_iff {r : Run Value} {f : Fault} :
    r.settle.result = .error f ↔ r.result = .error f ∧ ∀ reason, f ≠ .invalid reason := by
  rw [Run.settle]
  cases r.result with
  | ok v => simp
  | error f' => cases f' <;> cases f <;> simp

theorem settle_eq_valid_iff {r : Run Value} {v : Value} :
    r.settle.result = .ok (.valid v) ↔ r.result = .ok v := by
  rw [Run.settle]
  cases r.result with
  | ok w => simp
  | error f => cases f <;> simp

theorem settle_ne_invalid (r : Run Value) (reason : Reason) :
    r.settle.result ≠ .error (.invalid reason) :=
  fun h ↦ (settle_eq_error_iff.1 h).2 reason rfl

theorem settle_eq_invalid {r : Run Value} {reasons : List Reason}
    (h : r.settle.result = .ok (.invalid reasons)) :
    ∃ reason, r.result = .error (.invalid reason) ∧ reasons = [reason] := by
  rw [Run.settle] at h
  split at h
  · cases h
  · rename_i reason hr
    cases h
    exact ⟨reason, hr, rfl⟩
  · cases h

theorem Rule.apply_ne_invalid (r : Rule) (reason : Reason) :
    (r.apply check).result ≠ .error (.invalid reason) := by
  induction r using rule_induction with
  | step r ih =>
    intro h
    rw [Rule.apply_eq] at h
    obtain ⟨i, -, hi⟩ := Traced.exists_of_mapM_eq_error (Traced.result_of_bind_pure h)
    cases hl : r.leaves[i]? with
    | none =>
      rw [runLeaf, leafRuns_eq_map, List.getElem?_map, hl] at hi
      cases hi
    | some l =>
      rw [runLeaf_leafRuns check hl] at hi
      cases l with
      | check t =>
        rw [Leaf.apply] at hi
        exact settle_ne_invalid _ _ hi
      | nested t =>
        rw [Leaf.apply] at hi
        exact ih t (List.mem_of_getElem? hl) hi

theorem Rule.apply_check (check : String → Run Value) (t : String) :
    (Rule.apply check ⟨[.check t], [.solo 0], none⟩).result = (check t).settle.result := by
  have hruns : leafRuns check [.check t] = [fun _ ↦ (check t).settle] := rfl
  rw [Rule.apply, hruns]
  generalize (check t).settle = run
  obtain ⟨trail, result⟩ := run
  cases result with
  | error f => rfl
  | ok o => cases o <;> rfl

end Rulebook
