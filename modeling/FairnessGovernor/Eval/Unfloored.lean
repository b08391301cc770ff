/-
# A policy without its floors

The policy with every guarantee floor set to zero has the same forest, and at every node the same
competitors without their floors: every node is split by weight alone.  The floors of a policy
are idle where they change nothing in that split.
-/
import FairnessGovernor.Eval.Allotment
import FairnessGovernor.Eval.Conservation

namespace FairnessGovernor

open Apportion Sorting LargestRemainder Forest

/-! ## One allocation without floors -/

/-- The competitor without its floor. -/
def AllocationInput.unfloored (input : AllocationInput) : AllocationInput :=
  { input with floor := 0 }

/-- The floors change nothing: none exceeds its share, or meeting them in obligation order gives
what the weights give. -/
def FloorsIdleAt (children : List AllocationInput) (whole : ℕ) : Prop :=
  (∀ i, floorAt children i ≤ shareAt children whole i) ∨
    (shareSum children whole < floorSum children ∧
      ∀ i, metAt children whole i = weighedAt children whole i)

/-- The split by weight alone, of a family. -/
def weighedOf {n : ℕ} (child : Fin n → AllocationInput) (whole : ℕ) (i : Fin n) : ℕ :=
  let weight := fun j => (child j).weight
  let before := fun a b =>
    if remainder weight whole a ≠ remainder weight whole b then
      decide (remainder weight whole a > remainder weight whole b)
    else decide ((child a).key < (child b).key)
  quota weight whole i +
    handOut (stdSort before (List.finRange n)) (leftover weight whole) i

section One

variable {children : List AllocationInput} {whole : ℕ}

/-- What is given is what the weights give exactly where the floors are idle. -/
lemma allotted_eq_weighed_iff :
    allotted children whole = weighedAt children whole ↔ FloorsIdleAt children whole := by
  constructor
  · intro h
    by_cases hfits : floorSum children ≤ shareSum children whole
    · refine .inl fun i => ?_
      have hi := congrFun h i
      have hdonation := @donationAt_le children whole i
      rw [allotted, if_pos hfits, weighedAt] at hi
      unfold room at hdonation
      omega
    · refine .inr ⟨by omega, fun i => ?_⟩
      have hi := congrFun h i
      rwa [allotted, if_neg hfits] at hi
  · rintro (h | ⟨hlt, h⟩)
    · exact allotted_of_floors_le h
    · funext i
      rw [allotted, if_neg (by omega), h i]

lemma ofFn_weighedAt {n : ℕ} (child : Fin n → AllocationInput) :
    List.ofFn (weighedAt (List.ofFn child) whole) = List.ofFn (weighedOf child whole) :=
  forall_family (P := fun _ child children =>
    List.ofFn (weighedAt children whole) = List.ofFn (weighedOf child whole)) (fun _ => rfl) child

/-- The split by weight alone does not look at the floors. -/
lemma weighedAt_unfloored : List.ofFn (weighedAt (children.map AllocationInput.unfloored) whole) =
    List.ofFn (weighedAt children whole) := by
  have hmap : children.map AllocationInput.unfloored =
      List.ofFn fun i => (childAt children i).unfloored := by
    conv_lhs => rw [← List.ofFn_get children, List.map_ofFn]
    rfl
  rw [hmap, ofFn_weighedAt]
  conv_rhs => rw [← List.ofFn_get children, ofFn_weighedAt]
  rfl

/-- Without floors the allocator splits by weight alone. -/
lemma allotted_unfloored : List.ofFn (allotted (children.map AllocationInput.unfloored) whole) =
    List.ofFn (weighedAt children whole) := by
  have hfloor : ∀ i, floorAt (children.map AllocationInput.unfloored) i ≤
      shareAt (children.map AllocationInput.unfloored) whole i := by
    intro i
    have hzero : floorAt (children.map AllocationInput.unfloored) i = 0 := by
      unfold floorAt childAt
      rw [List.get_eq_getElem, List.getElem_map]
      rfl
    omega
  rw [allotted_of_floors_le hfloor, weighedAt_unfloored]

end One

/-! ## The policy without its floors -/

/-- The group without its floor. -/
def FairnessGroup.unfloored (group : FairnessGroup) : FairnessGroup :=
  { group with guaranteeFloor := 0 }

/-- The subject without its floor. -/
def Subject.unfloored (subject : Subject) : Subject := { subject with guaranteeFloor := 0 }

/-- The policy with every guarantee floor set to zero. -/
def FairnessPolicy.unfloored (policy : FairnessPolicy) : FairnessPolicy :=
  { policy with
    groups := policy.groups.map FairnessGroup.unfloored
    subjects := policy.subjects.map Subject.unfloored }

section Policy

variable {policy : FairnessPolicy}

lemma findGroup_unfloored (id : FairnessGroupId) :
    policy.unfloored.findGroup id = (policy.findGroup id).map FairnessGroup.unfloored := by
  unfold FairnessPolicy.findGroup FairnessPolicy.unfloored
  rw [List.find?_map]
  rfl

lemma walkToRoot_unfloored (steps : ℕ) (cursor : FairnessGroupId) :
    walkToRoot policy.unfloored steps cursor = walkToRoot policy steps cursor := by
  induction steps generalizing cursor with
  | zero => rfl
  | succ steps ih =>
    rw [walkToRoot, walkToRoot, findGroup_unfloored]
    cases policy.findGroup cursor with
    | none => rfl
    | some group =>
      simp only [Option.map_some, ih]
      rfl

lemma groupSubjectWeightSum_unfloored (id : FairnessGroupId) :
    groupSubjectWeightSum policy.unfloored id = groupSubjectWeightSum policy id := by
  unfold groupSubjectWeightSum FairnessPolicy.unfloored
  dsimp only
  rw [List.filter_map, List.map_map]
  rfl

/-- A validated policy stays valid without its floors. -/
lemma ValidPolicy.unfloored (hp : ValidPolicy policy) : ValidPolicy policy.unfloored where
  id_valid := hp.id_valid
  generation_valid := hp.generation_valid
  epoch_valid := hp.epoch_valid
  groups_le := by simpa [FairnessPolicy.unfloored] using hp.groups_le
  subjects_ne := by simpa [FairnessPolicy.unfloored] using hp.subjects_ne
  subjects_le := by simpa [FairnessPolicy.unfloored] using hp.subjects_le
  fairBand_le := hp.fairBand_le
  threshold_le := hp.threshold_le
  fairBand_le_threshold := hp.fairBand_le_threshold
  maxCorrection_le := hp.maxCorrection_le
  maxCorrectionBps_le := hp.maxCorrectionBps_le
  maxModifier_le := hp.maxModifier_le
  maxAge_pos := hp.maxAge_pos
  maxCarry_le := hp.maxCarry_le
  source_le := hp.source_le
  -- a floor of 0 passes every bound on floors
  group_valid := by
    intro group hmem
    obtain ⟨floored, hfloored, rfl⟩ := List.mem_map.mp hmem
    exact { hp.group_valid floored hfloored with floor_le := Nat.zero_le _ }
  groupIds_nodup := by
    have h := hp.groupIds_nodup
    unfold FairnessPolicy.unfloored
    rwa [List.map_map]
  -- identities stay, so every lookup finds what it found before
  parent_found := by
    intro group hmem hvalid
    obtain ⟨floored, hfloored, rfl⟩ := List.mem_map.mp hmem
    rw [findGroup_unfloored, Option.isSome_map]
    exact hp.parent_found floored hfloored hvalid
  depth_ok := by
    intro group hmem
    obtain ⟨floored, hfloored, rfl⟩ := List.mem_map.mp hmem
    rw [walkToRoot_unfloored]
    exact hp.depth_ok floored hfloored
  subject_valid := by
    intro subject hmem
    obtain ⟨floored, hfloored, rfl⟩ := List.mem_map.mp hmem
    have hs := hp.subject_valid floored hfloored
    exact { hs with
      floor_le := Nat.zero_le _
      group_found := by
        rw [findGroup_unfloored, Option.isSome_map]
        exact hs.group_found
      modifier_le_policy := hs.modifier_le_policy }
  subjectIds_nodup := by
    have h := hp.subjectIds_nodup
    unfold FairnessPolicy.unfloored
    rwa [List.map_map]
  governed := by
    intro group hmem
    obtain ⟨floored, hfloored, rfl⟩ := List.mem_map.mp hmem
    rw [groupSubjectWeightSum_unfloored]
    exact hp.governed floored hfloored

end Policy

/-! ## Positions -/

section Positions

variable {policy : FairnessPolicy}

/-- Where a group stands in the policy without floors. -/
def unflooredGroup (i : GroupIndex policy) : GroupIndex policy.unfloored :=
  Fin.cast (List.length_map _).symm i

/-- Where a subject stands in the policy without floors. -/
def unflooredSubject (s : SubjectIndex policy) : SubjectIndex policy.unfloored :=
  Fin.cast (List.length_map _).symm s

lemma groupAt_unfloored (i : GroupIndex policy) :
    groupAt policy.unfloored (unflooredGroup i) = (groupAt policy i).unfloored := by
  unfold groupAt unflooredGroup FairnessPolicy.unfloored
  simp

lemma subjectAt_unfloored (s : SubjectIndex policy) :
    subjectAt policy.unfloored (unflooredSubject s) = (subjectAt policy s).unfloored := by
  unfold subjectAt unflooredSubject FairnessPolicy.unfloored
  simp

lemma unflooredGroup_inj {i j : GroupIndex policy} :
    unflooredGroup i = unflooredGroup j ↔ i = j := (Fin.cast_injective _).eq_iff

lemma map_cast_finRange {n m : ℕ} (h : n = m) :
    (List.finRange n).map (Fin.cast h) = List.finRange m := by
  subst h
  simp

variable (hp : ValidPolicy policy)

include hp

lemma parentOf_unfloored {c i : GroupIndex policy} :
    parentOf policy.unfloored (unflooredGroup c) = some (unflooredGroup i) ↔
      parentOf policy c = some i := by
  rw [hp.unfloored.parentOf_iff, hp.parentOf_iff, groupAt_unfloored, groupAt_unfloored]
  rfl

lemma parentOf_unfloored_eq_none {i : GroupIndex policy} :
    parentOf policy.unfloored (unflooredGroup i) = none ↔ parentOf policy i = none := by
  rw [hp.unfloored.parentOf_eq_none, hp.parentOf_eq_none, groupAt_unfloored]
  rfl

lemma byId_unfloored {s : SubjectIndex policy} {i : GroupIndex policy} :
    byId policy.unfloored (subjectAt policy.unfloored (unflooredSubject s)).group =
        some (unflooredGroup i) ↔ byId policy (subjectAt policy s).group = some i := by
  rw [hp.unfloored.byId_iff, hp.byId_iff, groupAt_unfloored, subjectAt_unfloored]
  rfl

variable {tree : GroupTree policy} {pure : GroupTree policy.unfloored} (ht : IsTreeOf tree)
  (ht' : IsTreeOf pure) {useModifier : Bool}

include ht ht'

lemma childGroups_unfloored (node : GroupIndex policy) :
    pure.childGroups (unflooredGroup node) = (tree.childGroups node).map unflooredGroup := by
  rw [ht.childGroups_eq, ht'.childGroups_eq]
  dsimp only
  rw [← map_cast_finRange (show policy.groups.length = policy.unfloored.groups.length from
    (List.length_map _).symm), List.filter_map]
  congr 1
  refine List.filter_congr fun c _ => ?_
  exact decide_eq_decide.mpr (parentOf_unfloored hp)

lemma childSubjects_unfloored (node : GroupIndex policy) :
    pure.childSubjects (unflooredGroup node) =
      (tree.childSubjects node).map unflooredSubject := by
  rw [ht.childSubjects_eq, ht'.childSubjects_eq]
  dsimp only
  rw [← map_cast_finRange (show policy.subjects.length = policy.unfloored.subjects.length from
    (List.length_map _).symm), List.filter_map]
  congr 1
  refine List.filter_congr fun s _ => ?_
  exact decide_eq_decide.mpr (byId_unfloored hp)

lemma roots_unfloored : pure.roots = tree.roots.map unflooredGroup := by
  rw [ht.roots_eq, ht'.roots_eq, ← map_cast_finRange (show policy.groups.length =
    policy.unfloored.groups.length from (List.length_map _).symm), List.filter_map]
  congr 1
  refine List.filter_congr fun c _ => ?_
  exact decide_eq_decide.mpr (parentOf_unfloored_eq_none hp)

/-- The competitors of a node are the same, without their floors. -/
lemma inputsFor_unfloored (node : GroupIndex policy) :
    inputsFor pure useModifier (unflooredGroup node) =
      (inputsFor tree useModifier node).map AllocationInput.unfloored := by
  unfold inputsFor
  rw [childGroups_unfloored hp ht ht', childSubjects_unfloored hp ht ht', List.map_append,
    List.map_map, List.map_map, List.map_map, List.map_map]
  congr 1
  · refine List.map_congr_left fun c _ => ?_
    show groupInput (groupAt policy.unfloored (unflooredGroup c)) = _
    rw [groupAt_unfloored]
    rfl
  · refine List.map_congr_left fun s _ => ?_
    show subjectInput useModifier (subjectAt policy.unfloored (unflooredSubject s)) = _
    rw [subjectAt_unfloored]
    rfl

lemma rootInputs_unfloored :
    pure.roots.map (fun r => groupInput (groupAt policy.unfloored r)) =
      (tree.roots.map fun r => groupInput (groupAt policy r)).map AllocationInput.unfloored := by
  rw [roots_unfloored hp ht ht', List.map_map, List.map_map]
  refine List.map_congr_left fun r _ => ?_
  show groupInput (groupAt policy.unfloored (unflooredGroup r)) = _
  rw [groupAt_unfloored]
  rfl

end Positions

/-! ## The split of the forest by weight alone -/

/-- What the groups hold when every node is split by weight alone. -/
structure WeighedForest {policy : FairnessPolicy} (tree : GroupTree policy) (whole : ℕ)
    (held : GroupIndex policy → ℕ) : Prop where
  roots : tree.roots.map held =
    List.ofFn (weighedAt (tree.roots.map fun r => groupInput (groupAt policy r)) whole)
  nodes : ∀ node, (tree.childGroups node).map held =
    (List.ofFn (weighedAt (inputsFor tree true node) (held node))).take
      (tree.childGroups node).length

/-- The floors of a policy change nothing in the split of a whole: they are idle at the roots, and
at every node with what it holds by weight alone. -/
def FloorsIdle (policy : FairnessPolicy) (whole : ℕ) : Prop :=
  ∃ tree held, build policy = .ok tree ∧ WeighedForest tree whole held ∧
    FloorsIdleAt (tree.roots.map fun r => groupInput (groupAt policy r)) whole ∧
    ∀ node, FloorsIdleAt (inputsFor tree true node) (held node)

end FairnessGovernor
