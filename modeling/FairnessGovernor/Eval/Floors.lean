/-
# Guarantee floors down the forest

The validator checks that a group that declares a floor can honour the floors below it, and the
allocator meets the floors of one node while they fit into its whole.  Going down the forest,
every group holds its floor when it is split, so every floor is met.
-/
import FairnessGovernor.Eval.Conservation
import FairnessGovernor.Eval.Overcommit

namespace FairnessGovernor

open Forest

/-! ## One allocation -/

/-- While the floors fit, what the allocator returns meets them, child by child. -/
lemma allocateWhole_floors {children : List AllocationInput} {whole : ℕ} {r : AllocationResult}
    (hwhole : whole ≤ kUInt64Max) (hfits : (children.map (·.floor)).sum ≤ whole)
    (h : allocateWhole children whole = .ok r) :
    List.Forall₂ (fun units child => child.floor ≤ units) r.allocations children := by
  rw [(allocateWhole_allotted hwhole h).allocations, List.forall₂_iff_get]
  refine ⟨List.length_ofFn, fun k h₁ h₂ => ?_⟩
  have hle := floorAt_le_allotted (sum_floorAt ▸ hfits) ⟨k, h₂⟩
  unfold floorAt at hle
  simpa using hle

/-! ## The floors of a policy -/

section Declared

variable {policy : FairnessPolicy}

/-- Every group with a child group or a subject that declares a floor declares one itself. -/
def FloorsDeclared (policy : FairnessPolicy) : Prop :=
  ∀ group ∈ policy.groups,
    ((∃ child ∈ policy.groups, child.parent = group.id ∧ child.guaranteeFloor ≠ 0) ∨
      ∃ subject ∈ policy.subjects, subject.group = group.id ∧ subject.guaranteeFloor ≠ 0) →
    group.guaranteeFloor ≠ 0

/-- What the root groups declare together. -/
def rootFloors (policy : FairnessPolicy) : ℕ :=
  ((policy.groups.filter fun group => ¬ group.parent.valid).map (·.guaranteeFloor.toNat)).sum

/-- The validator has checked the floors of every group. -/
lemma validateFloor_of_ok (h : validatePolicy policy = .ok ()) :
    ∀ group ∈ policy.groups, validateFloor policy group = .ok () := by
  simp only [validatePolicy, bind_unit_eq_ok, forEach_eq_ok] at h
  obtain ⟨-, -, -, -, -, -, -, -, -, -, -, -, -, -, -, -, -, -, -, -, -, hfloors⟩ := h
  exact hfloors

/-- The floors directly below a group fit into its own. -/
lemma floors_below_le (hpolicy : validatePolicy policy = .ok ()) (hdeclared : FloorsDeclared policy)
    {group : FairnessGroup} (hgroup : group ∈ policy.groups) :
    ((policy.childGroups group.id).map (·.guaranteeFloor.toNat) ++
      (policy.childSubjects group.id).map (·.guaranteeFloor.toNat)).sum ≤
        group.guaranteeFloor.toNat := by
  have hcheck := validateFloor_of_ok hpolicy group hgroup
  unfold validateFloor at hcheck
  split_ifs at hcheck with hzero
  · -- a group without a floor has none below it
    refine le_of_eq_of_le (List.sum_eq_zero fun units hunits => ?_) (Nat.zero_le _)
    by_contra hne
    refine hdeclared group hgroup ?_ hzero
    rw [List.mem_append, List.mem_map, List.mem_map] at hunits
    rcases hunits with ⟨child, hchild, rfl⟩ | ⟨subject, hsubject, rfl⟩
    · obtain ⟨hmem, hparent⟩ := List.mem_filter.mp hchild
      exact .inl ⟨child, hmem, by simpa using hparent, fun h => hne (by rw [h]; rfl)⟩
    · obtain ⟨hmem, hin⟩ := List.mem_filter.mp hsubject
      exact .inr ⟨subject, hmem, by simpa using hin, fun h => hne (by rw [h]; rfl)⟩
  · dsimp only at hcheck
    cases htotal : checkedTotal ((policy.childGroups group.id).map (·.guaranteeFloor.toNat) ++
        (policy.childSubjects group.id).map (·.guaranteeFloor.toNat)) 0 with
    | none =>
      rw [htotal] at hcheck
      cases hcheck
    | some total =>
      rw [htotal] at hcheck
      have hle := not_lt.mp (rejectIf_eq_ok.mp hcheck)
      rwa [(checkedTotal_eq_some htotal (Nat.zero_le _)).2, Nat.zero_add] at hle

/-- A selection of groups, by position. -/
lemma map_filter_groupAt {α : Type} (p : FairnessGroup → Bool) (f : FairnessGroup → α) :
    (policy.groups.filter p).map f =
      ((List.finRange _).filter fun i => p (groupAt policy i)).map
        fun i => f (groupAt policy i) := by
  conv_lhs => rw [← List.map_get_finRange policy.groups, List.filter_map, List.map_map]
  rfl

/-- A selection of subjects, by position. -/
lemma map_filter_subjectAt {α : Type} (p : Subject → Bool) (f : Subject → α) :
    (policy.subjects.filter p).map f =
      ((List.finRange _).filter fun s => p (subjectAt policy s)).map
        fun s => f (subjectAt policy s) := by
  conv_lhs => rw [← List.map_get_finRange policy.subjects, List.filter_map, List.map_map]
  rfl

variable {tree : GroupTree policy} {useModifier : Bool}

/-- The floors of the competitors of a node are those directly below its group. -/
lemma map_floor_inputsFor (hp : ValidPolicy policy) (ht : IsTreeOf tree)
    (node : GroupIndex policy) :
    (inputsFor tree useModifier node).map (·.floor) =
      (policy.childGroups (groupAt policy node).id).map (·.guaranteeFloor.toNat) ++
        (policy.childSubjects (groupAt policy node).id).map (·.guaranteeFloor.toNat) := by
  unfold inputsFor FairnessPolicy.childGroups FairnessPolicy.childSubjects
  rw [List.map_append, List.map_map, List.map_map, map_filter_groupAt, map_filter_subjectAt,
    ht.childGroups_eq, ht.childSubjects_eq]
  simp only [hp.parentOf_iff, hp.byId_iff]
  rfl

/-- The floors of the root competitors are those of the root groups. -/
lemma sum_floor_roots (hp : ValidPolicy policy) (ht : IsTreeOf tree) :
    ((tree.roots.map fun r => groupInput (groupAt policy r)).map (·.floor)).sum =
      rootFloors policy := by
  unfold rootFloors
  rw [List.map_map, map_filter_groupAt, ht.roots_eq]
  simp only [hp.parentOf_eq_none]
  rfl

end Declared

/-! ## A whole pass -/

/-- Every floor is met. -/
structure FloorsMet (policy : FairnessPolicy) (pass : PassState policy) : Prop where
  groups : ∀ i, (groupAt policy i).guaranteeFloor.toNat ≤ pass.allocation i
  subjects : ∀ s, (subjectAt policy s).guaranteeFloor.toNat ≤ pass.subject s

section Pass

variable {policy : FairnessPolicy} {tree : GroupTree policy} {useModifier : Bool} {whole : ℕ}
  {pass : PassState policy} (hpolicy : validatePolicy policy = .ok ())
  (hdeclared : FloorsDeclared policy) (ht : IsTreeOf tree) (hwhole : whole ≤ kUInt64Max)
  (hpass : PassSpec tree useModifier whole pass)

include hpolicy hdeclared ht hwhole hpass

/-- A node that holds its floor meets the floors directly below it. -/
lemma floors_met_below {node : GroupIndex policy}
    (hnode : (groupAt policy node).guaranteeFloor.toNat ≤ pass.allocation node) :
    (∀ c ∈ tree.childGroups node,
        (groupAt policy c).guaranteeFloor.toNat ≤ pass.allocation c) ∧
      ∀ s ∈ tree.childSubjects node,
        (subjectAt policy s).guaranteeFloor.toNat ≤ pass.subject s := by
  have hp := ValidPolicy.of_ok hpolicy
  obtain ⟨result, hresult, hgroups, hsubjects⟩ := hpass.balanced node
  have hbelow := floors_below_le hpolicy hdeclared (groupAt_mem node)
  rw [← @map_floor_inputsFor policy tree useModifier hp ht] at hbelow
  have hmet := allocateWhole_floors (le_trans (hpass.allocation_le node) hwhole)
    (hbelow.trans hnode) hresult
  have hmetGroups := List.forall₂_take_append _ _ _ hmet
  have hmetSubjects := List.forall₂_drop_append _ _ _ hmet
  rw [List.length_map, ← hgroups, List.forall₂_map_left_iff, List.forall₂_map_right_iff,
    List.forall₂_same] at hmetGroups
  rw [List.length_map, ← hsubjects, List.forall₂_map_left_iff, List.forall₂_map_right_iff,
    List.forall₂_same] at hmetSubjects
  exact ⟨hmetGroups, hmetSubjects⟩

/-- The induction down the forest: the roots hold their floors, and so does every child of a
group that holds its own. -/
lemma floorsMet_of_roots (hroots : rootFloors policy ≤ whole) : FloorsMet policy pass := by
  have hp := ValidPolicy.of_ok hpolicy
  have hgroup : ∀ i, (groupAt policy i).guaranteeFloor.toNat ≤ pass.allocation i := by
    refine ht.isForest.induction (fun i hroot => ?_) fun p c hparent hp => ?_
    · obtain ⟨result, hresult, hmap⟩ := hpass.roots
      have hmet := allocateWhole_floors hwhole (by rw [sum_floor_roots hp ht]; exact hroots)
        hresult
      rw [← hmap, List.forall₂_map_left_iff, List.forall₂_map_right_iff,
        List.forall₂_same] at hmet
      exact hmet i (ht.mem_roots.mpr hroot)
    · exact (floors_met_below hpolicy hdeclared ht hwhole hpass hp).1 c
        (ht.mem_childGroups.mpr hparent)
  refine ⟨hgroup, fun s => ?_⟩
  obtain ⟨g, hg⟩ := hp.groupOf s
  exact (floors_met_below hpolicy hdeclared ht hwhole hpass (hgroup g)).2 s
    (ht.mem_childSubjects.mpr hg)

end Pass

/-- Where floors are declared all the way up and the whole covers those of the roots, both passes
of the distribution meet every floor. -/
theorem distribute_floors {policy : FairnessPolicy} {whole : ℕ}
    (hpolicy : validatePolicy policy = .ok ()) (hdeclared : FloorsDeclared policy)
    (hwhole : whole ≤ kUInt64Max) (hroots : rootFloors policy ≤ whole) :
    ∃ tree d, build policy = .ok tree ∧ distribute tree whole = .ok d ∧
      FloorsMet policy d.base ∧ FloorsMet policy d.effective := by
  obtain ⟨tree, d, htree, ht, hd, hbase, heff⟩ := (ValidPolicy.of_ok hpolicy).distribute_ok hwhole
  exact ⟨tree, d, htree, hd, floorsMet_of_roots hpolicy hdeclared ht hwhole hbase hroots,
    floorsMet_of_roots hpolicy hdeclared ht hwhole heff hroots⟩

/-- The nested policy with the floor declared all the way up. -/
def flooredPolicy : FairnessPolicy :=
  { nestedPolicy with groups :=
      [{ id := ⟨1⟩, generation := ⟨1⟩, guaranteeFloor := 6 },
        { id := ⟨2⟩, generation := ⟨1⟩, parent := ⟨1⟩, guaranteeFloor := 5 }] }

theorem distribute_floors_nested :
    ∃ tree d, build flooredPolicy = .ok tree ∧ distribute tree 7 = .ok d ∧
      FloorsMet flooredPolicy d.base ∧ FloorsMet flooredPolicy d.effective :=
  distribute_floors (by decide +kernel) (by unfold FloorsDeclared; decide +kernel) (by decide)
    (by decide +kernel)

end FairnessGovernor
