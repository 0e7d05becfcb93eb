namespace Rulebook.Text

def dropFront? : List Char → List Char → Option (List Char)
  | [], cs => some cs
  | _ :: _, [] => none
  | p :: ps, c :: cs => if p = c then dropFront? ps cs else none

theorem length_of_dropFront? {ps cs r : List Char} (h : dropFront? ps cs = some r) :
    r.length + ps.length = cs.length := by
  induction ps generalizing cs with
  | nil => cases h; simp
  | cons p ps ih =>
    cases cs with
    | nil => cases h
    | cons c cs =>
      simp only [dropFront?] at h
      split at h
      · simp [← ih h]; omega
      · cases h

def cutAtWord (word : List Char) : List Char → Option (List Char × List Char)
  | [] => none
  | c :: r =>
    match dropFront? word (c :: r) with
    | some after => some ([], after)
    | none => (cutAtWord word r).map fun (before, after) ↦ (c :: before, after)

def splitAt (separator : Char) : List Char → List (List Char)
  | [] => [[]]
  | c :: r =>
    if c = separator then [] :: splitAt separator r
    else match splitAt separator r with
      | part :: parts => (c :: part) :: parts
      | [] => [[c]]

/-- Nothing is replaced where the old text is empty. -/
def replace (old new : List Char) (cs : List Char) : List Char :=
  match old, cs with
  | [], cs => cs
  | _, [] => []
  | o :: os, c :: r =>
    match _h : dropFront? (o :: os) (c :: r) with
    | some rest => new ++ replace (o :: os) new rest
    | none => c :: replace (o :: os) new r
termination_by cs.length
decreasing_by
  · have := length_of_dropFront? _h
    simp at this ⊢
    omega
  · simp

def occurs (word : List Char) : List Char → Bool
  | [] => word.isEmpty
  | c :: r => (dropFront? word (c :: r)).isSome || occurs word r

end Rulebook.Text
