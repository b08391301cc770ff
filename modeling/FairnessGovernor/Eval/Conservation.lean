/-
# Hierarchical conservation

On a validated policy a distribution never fails, and it hands every unit on: the roots hold
the whole, every group's children and subjects hold together what the group holds, and hence
the subjects hold together the whole.

The proof goes through the general walk of a forest: visiting a node establishes the node's
own balance (`NodeBalance`), and visiting another node whose child it is not leaves that
balance alone.
-/
import FairnessGovernor.Eval.AllocateSpec
import FairnessGovernor.Eval.TreeSpec

namespace FairnessGovernor

open Forest

/-! ## Writing results to targets -/

section Assign

variable {ι α : Type} [DecidableEq ι]

lemma assign_of_notMem {targets : List ι} {values : List α} {f : ι → α} {i : ι}
    (h : i ∉ targets) : assign targets values f i = f i := by
  induction targets generalizing values f with
  | nil => rfl
  | cons t rest ih =>
    rw [List.mem_cons, not_or] at h
    cases values with
    | nil => rfl
    | cons v values => rw [assign, ih h.2, Function.update_of_ne h.1]

/-- Distinct targets hold exactly the values written. -/
lemma map_assign {targets : List ι} {values : List α} {f : ι → α} (hnodup : targets.Nodup)
    (hlen : values.length = targets.length) :
    targets.map (assign targets values f) = values := by
  induction targets generalizing values f with
  | nil => simpa [eq_comm] using hlen
  | cons t rest ih =>
    rw [List.nodup_cons] at hnodup
    cases values with
    | nil => simp at hlen
    | cons v values =>
      rw [List.map_cons, assign, ih hnodup.2 (by simpa using hlen),
        assign_of_notMem hnodup.1, Function.update_self]

lemma assign_le {targets : List ι} {values : List ℕ} {f : ι → ℕ} {bound : ℕ}
    (hvalues : ∀ v ∈ values, v ≤ bound) (hf : ∀ i, f i ≤ bound) (i : ι) :
    assign targets values f i ≤ bound := by
  induction targets generalizing values f with
  | nil => exact hf i
  | cons t rest ih =>
    cases values with
    | nil => exact hf i
    | cons v values =>
      refine ih (fun v hv => hvalues v (by simp [hv])) fun j => ?_
      rw [Function.update_apply]
      split_ifs
      · exact hvalues v (by simp)
      · exact hf j

end Assign

/-! ## The domain of every allocation of a distribution -/

/-- The largest floor sum of one allocation. -/
def kMaxFloorSum : ℕ := (kMaxSubjects + kMaxGroups) * kMaxServiceUnits

/-- What bounds the competitors of one allocation on a validated policy. -/
structure BoundedInputs (inputs : List AllocationInput) : Prop where
  nonempty : inputs ≠ []
  length_le : inputs.length ≤ kMaxSubjects + kMaxGroups
  weight_bounds : ∀ input ∈ inputs, 1 ≤ input.weight ∧ input.weight ≤ kMaxEffectiveWeight
  floor_le : ∀ input ∈ inputs, input.floor ≤ kMaxServiceUnits

namespace BoundedInputs

variable {inputs : List AllocationInput} (h : BoundedInputs inputs)

include h

lemma sum_floor_le : (inputs.map (·.floor)).sum ≤ kMaxFloorSum := by
  calc (inputs.map (·.floor)).sum ≤ (inputs.map (·.floor)).length • kMaxServiceUnits :=
        List.sum_le_card_nsmul _ _ (by simpa using h.floor_le)
    _ ≤ kMaxFloorSum := by
        rw [List.length_map, smul_eq_mul]
        exact Nat.mul_le_mul_right _ h.length_le

lemma domain {whole : ℕ} (hwhole : whole ≤ kUInt64Max) : AllocationDomain inputs whole where
  nonempty := h.nonempty
  length_le := h.length_le
  weight_pos := fun input hi => (h.weight_bounds input hi).1
  weights_le := by
    calc (inputs.map (·.weight)).sum ≤ (inputs.map (·.weight)).length • kMaxEffectiveWeight :=
          List.sum_le_card_nsmul _ _ (by simpa using fun i hi => (h.weight_bounds i hi).2)
      _ ≤ (kMaxSubjects + kMaxGroups) * kMaxEffectiveWeight := by
          rw [List.length_map, smul_eq_mul]
          exact Nat.mul_le_mul_right _ h.length_le
      _ ≤ kUInt64Max := by decide
  floors_le := le_trans h.sum_floor_le (by decide)
  whole_le := hwhole

end BoundedInputs

variable {policy : FairnessPolicy} {tree : GroupTree policy} {useModifier : Bool}

lemma ValidPolicy.groupInput_bounds (hp : ValidPolicy policy) (i : GroupIndex policy) :
    (1 ≤ (groupInput (groupAt policy i)).weight ∧
      (groupInput (groupAt policy i)).weight ≤ kMaxEffectiveWeight) ∧
    (groupInput (groupAt policy i)).floor ≤ kMaxServiceUnits := by
  have hg := hp.group_valid _ (groupAt_mem i)
  exact ⟨effectiveShareWeight_bounds hg.weight_le (by decide), hg.floor_le⟩

lemma ValidPolicy.subjectInput_bounds (hp : ValidPolicy policy) (s : SubjectIndex policy) :
    (1 ≤ (subjectInput useModifier (subjectAt policy s)).weight ∧
      (subjectInput useModifier (subjectAt policy s)).weight ≤ kMaxEffectiveWeight) ∧
    (subjectInput useModifier (subjectAt policy s)).floor ≤ kMaxServiceUnits := by
  have hs := hp.subject_valid _ (subjectAt_mem s)
  refine ⟨?_, hs.floor_le⟩
  cases useModifier
  · exact effectiveShareWeight_bounds hs.weight_le (by decide)
  · exact effectiveShareWeight_bounds hs.weight_le hs.modifier_le

lemma ValidPolicy.inputsFor_bounds (hp : ValidPolicy policy) (ht : IsTreeOf tree)
    (useModifier : Bool) (node : GroupIndex policy) :
    BoundedInputs (inputsFor tree useModifier node) where
  -- every group governs a subject
  nonempty := by
    obtain ⟨s, hs⟩ := hp.exists_childSubject node
    have hmem := ht.mem_childSubjects.mpr hs
    intro hnil
    rw [inputsFor, List.append_eq_nil_iff, List.map_eq_nil_iff, List.map_eq_nil_iff] at hnil
    rw [hnil.2] at hmem
    exact List.not_mem_nil hmem
  length_le := by
    have h1 := ht.childGroups_length node
    have h2 := ht.childSubjects_length node
    have h3 := hp.groups_le
    have h4 := hp.subjects_le
    rw [inputsFor, List.length_append, List.length_map, List.length_map]
    omega
  weight_bounds := by
    intro input hi
    rw [inputsFor, List.mem_append, List.mem_map, List.mem_map] at hi
    rcases hi with ⟨c, -, rfl⟩ | ⟨s, -, rfl⟩
    · exact (hp.groupInput_bounds c).1
    · exact (hp.subjectInput_bounds s).1
  floor_le := by
    intro input hi
    rw [inputsFor, List.mem_append, List.mem_map, List.mem_map] at hi
    rcases hi with ⟨c, -, rfl⟩ | ⟨s, -, rfl⟩
    · exact (hp.groupInput_bounds c).2
    · exact (hp.subjectInput_bounds s).2

lemma ValidPolicy.rootInputs_bounds (hp : ValidPolicy policy) (ht : IsTreeOf tree) :
    BoundedInputs (tree.roots.map fun r => groupInput (groupAt policy r)) where
  nonempty := by
    obtain ⟨i, -⟩ := hp.exists_group
    obtain ⟨r, hr, -⟩ := ht.isForest.exists_root i
    have hmem := ht.mem_roots.mpr hr
    intro hnil
    rw [List.map_eq_nil_iff.mp hnil] at hmem
    exact List.not_mem_nil hmem
  length_le := by
    have h1 := ht.roots_length
    have h2 := hp.groups_le
    rw [List.length_map]
    omega
  weight_bounds := by
    intro input hi
    obtain ⟨c, -, rfl⟩ := List.mem_map.mp hi
    exact (hp.groupInput_bounds c).1
  floor_le := by
    intro input hi
    obtain ⟨c, -, rfl⟩ := List.mem_map.mp hi
    exact (hp.groupInput_bounds c).2

/-! ## Visiting one node -/

/-- The visit of a node: its current allocation is split among its children. -/
def visit (tree : GroupTree policy) (useModifier : Bool) (node : GroupIndex policy)
    (pass : PassState policy) : Eval (PassState policy) :=
  scatterNode tree useModifier node (pass.allocation node) pass

/-- The recursion of the source is a walk of visits. -/
lemma scatter_eq_walk {fuel : ℕ} {node : GroupIndex policy} {pass : PassState policy} :
    scatter tree useModifier fuel node (pass.allocation node) pass =
      walk (visit tree useModifier) tree.childGroups .tooDeep fuel node pass := by
  induction fuel generalizing node pass with
  | zero => rfl
  | succ fuel ih =>
    rw [scatter, walk]
    exact bind_congr fun pass' => foldlM_congr fun c _ pass => ih

lemma noteOvercommit_ok {pass : PassState policy} {result : AllocationResult}
    (h : pass.overcommitShortfall + result.overcommitShortfall ≤ kUInt64Max) :
    ∃ pass', noteOvercommit pass result = .ok pass' ∧
      pass'.overcommitShortfall ≤ pass.overcommitShortfall + result.overcommitShortfall := by
  unfold noteOvercommit
  split_ifs
  · rw [checkedAdd_of_le h]
    exact ⟨_, rfl, le_rfl⟩
  · exact ⟨pass, rfl, by omega⟩

/-- Noting an overcommit assigns nothing. -/
lemma noteOvercommit_frame {pass pass' : PassState policy} {result : AllocationResult}
    (h : noteOvercommit pass result = .ok pass') :
    pass'.allocation = pass.allocation ∧ pass'.subject = pass.subject ∧
      pass'.floorBinding = pass.floorBinding := by
  unfold noteOvercommit at h
  split_ifs at h
  · obtain ⟨shortfall, -, h⟩ := bind_eq_ok.mp h
    obtain rfl := Except.ok.inj h
    exact ⟨rfl, rfl, rfl⟩
  · obtain rfl := Except.ok.inj h
    exact ⟨rfl, rfl, rfl⟩

/-- What a visit does to a pass. -/
lemma visit_eq_ok {node : GroupIndex policy} {pass pass' : PassState policy}
    (hne : inputsFor tree useModifier node ≠ [])
    (h : visit tree useModifier node pass = .ok pass') :
    ∃ result, allocateWhole (inputsFor tree useModifier node) (pass.allocation node) =
        .ok result ∧
      pass'.allocation = assign (tree.childGroups node)
        (result.allocations.take (tree.childGroups node).length) pass.allocation ∧
      pass'.subject = assign (tree.childSubjects node)
        (result.allocations.drop (tree.childGroups node).length) pass.subject ∧
      pass'.floorBinding = if useModifier then assign (tree.childSubjects node)
        (result.floorBinding.drop (tree.childGroups node).length) pass.floorBinding
        else pass.floorBinding := by
  rw [visit, scatterNode, if_neg hne] at h
  obtain ⟨result, hresult, h⟩ := bind_eq_ok.mp h
  obtain ⟨noted, hnoted, h⟩ := bind_eq_ok.mp h
  obtain ⟨ha, hs, hf⟩ := noteOvercommit_frame hnoted
  obtain rfl := Except.ok.inj h
  exact ⟨result, hresult, by rw [← ha], by rw [← hs], by rw [← hf]⟩

/-- A visit succeeds while the shortfalls noted so far leave room. -/
lemma visit_ok {node : GroupIndex policy} {pass : PassState policy}
    (hb : BoundedInputs (inputsFor tree useModifier node))
    (halloc : pass.allocation node ≤ kUInt64Max)
    (hroom : pass.overcommitShortfall + kMaxFloorSum ≤ kUInt64Max) :
    ∃ pass', visit tree useModifier node pass = .ok pass' ∧
      pass'.overcommitShortfall ≤ pass.overcommitShortfall + kMaxFloorSum := by
  obtain ⟨result, hresult, hshort⟩ := allocateWhole_ok (hb.domain halloc)
  have hfloors := hb.sum_floor_le
  have hfits : pass.overcommitShortfall + result.overcommitShortfall ≤ kUInt64Max := by omega
  obtain ⟨noted, hnoted, hle⟩ := noteOvercommit_ok hfits
  have hrun : ∃ pass', visit tree useModifier node pass = .ok pass' ∧
      pass'.overcommitShortfall = noted.overcommitShortfall := by
    rw [visit, scatterNode, if_neg hb.nonempty, hresult, ok_bind, hnoted, ok_bind]
    exact ⟨_, rfl, rfl⟩
  obtain ⟨pass', hpass', heq⟩ := hrun
  exact ⟨pass', hpass', by omega⟩

/-! ## The balance of a node -/

/-- A node's children and subjects hold exactly what the allocator gave them of the node's
own allocation. -/
def NodeBalance (tree : GroupTree policy) (useModifier : Bool) (node : GroupIndex policy)
    (pass : PassState policy) : Prop :=
  ∃ result, allocateWhole (inputsFor tree useModifier node) (pass.allocation node) = .ok result ∧
    (tree.childGroups node).map pass.allocation =
      result.allocations.take (tree.childGroups node).length ∧
    (tree.childSubjects node).map pass.subject =
      result.allocations.drop (tree.childGroups node).length

lemma inputsFor_length (node : GroupIndex policy) :
    (inputsFor tree useModifier node).length =
      (tree.childGroups node).length + (tree.childSubjects node).length := by
  rw [inputsFor, List.length_append, List.length_map, List.length_map]

section Balance

variable (hp : ValidPolicy policy) (ht : IsTreeOf tree)

include hp ht

/-- A visit writes to the children of its node and to no other group. -/
lemma visit_allocation {node other : GroupIndex policy} {pass pass' : PassState policy}
    (h : visit tree useModifier node pass = .ok pass') (hother : parentOf policy other ≠ some node) :
    pass'.allocation other = pass.allocation other := by
  obtain ⟨split, -, ha, -, -⟩ := visit_eq_ok (hp.inputsFor_bounds ht _ node).nonempty h
  rw [ha, assign_of_notMem]
  exact fun hmem => hother (ht.mem_childGroups.mp hmem)

/-- A node is not its own child, so its visit leaves the allocation that it splits. -/
lemma visit_allocation_self {node : GroupIndex policy} {pass pass' : PassState policy}
    (h : visit tree useModifier node pass = .ok pass') :
    pass'.allocation node = pass.allocation node := by
  refine visit_allocation hp ht h fun hparent => ?_
  have := ht.isForest.depth_child hparent
  omega

omit hp in
/-- Writing to the subjects of one node leaves those of another alone. -/
lemma map_assign_childSubjects {α : Type} {node other : GroupIndex policy} (hne : other ≠ node)
    {values : List α} {f : SubjectIndex policy → α} :
    (tree.childSubjects other).map (assign (tree.childSubjects node) values f) =
      (tree.childSubjects other).map f := by
  refine List.map_congr_left fun s hs => assign_of_notMem fun hmem => ?_
  have hother := ht.mem_childSubjects.mp hs
  rw [ht.mem_childSubjects.mp hmem] at hother
  exact hne (Option.some.inj hother).symm

/-- A visit balances its node. -/
lemma visit_balances {node : GroupIndex policy} {pass pass' : PassState policy}
    (h : visit tree useModifier node pass = .ok pass') :
    NodeBalance tree useModifier node pass' := by
  obtain ⟨result, hresult, ha, hs, -⟩ :=
    visit_eq_ok (hp.inputsFor_bounds ht _ node).nonempty h
  have hlen := (allocateWhole_conserves hresult).1
  rw [inputsFor_length] at hlen
  refine ⟨result, visit_allocation_self hp ht h ▸ hresult, ?_, ?_⟩
  · rw [ha, map_assign (ht.nodup_childGroups node) (by rw [List.length_take]; omega)]
  · rw [hs, map_assign (ht.nodup_childSubjects node) (by rw [List.length_drop]; omega)]

/-- Visiting a node leaves the balance of every other node alone whose parent it is not. -/
lemma visit_frame {node other : GroupIndex policy} {pass pass' : PassState policy}
    (hbefore : Before (parentOf policy) other node)
    (h : visit tree useModifier node pass = .ok pass')
    (hother : NodeBalance tree useModifier other pass) :
    NodeBalance tree useModifier other pass' := by
  obtain ⟨split, -, -, hs, -⟩ := visit_eq_ok (hp.inputsFor_bounds ht _ node).nonempty h
  obtain ⟨result, hresult, hgroups, hsubjects⟩ := hother
  refine ⟨result, (visit_allocation hp ht h hbefore.2).symm ▸ hresult, ?_, ?_⟩
  · rw [← hgroups]
    refine List.map_congr_left fun c hc => visit_allocation hp ht h fun hparent => ?_
    -- a child of both nodes would make them the same
    rw [ht.mem_childGroups.mp hc] at hparent
    exact hbefore.1 (Option.some.inj hparent)
  · rw [hs, map_assign_childSubjects ht hbefore.1, hsubjects]

/-- A visit leaves the roots alone. -/
lemma visit_roots {node : GroupIndex policy} {pass pass' : PassState policy}
    (h : visit tree useModifier node pass = .ok pass') :
    tree.roots.map pass'.allocation = tree.roots.map pass.allocation := by
  refine List.map_congr_left fun r hr => visit_allocation hp ht h ?_
  rw [ht.mem_roots.mp hr]
  exact (Option.some_ne_none node).symm

end Balance

/-! ## A whole pass -/

section Pass

variable (hp : ValidPolicy policy) (ht : IsTreeOf tree)

include ht

/-- The walk of one pass is the visits of the whole forest, in order. -/
lemma foldlM_scatter {pass : PassState policy} :
    tree.roots.foldlM (fun pass root =>
        scatter tree useModifier kMaxGroupDepth root (pass.allocation root) pass) pass =
      (forestOrder tree.childGroups kMaxGroupDepth tree.roots).foldlM
        (fun pass node => visit tree useModifier node pass) pass := by
  rw [forestOrder, foldlM_flatMap]
  refine foldlM_congr fun r hr pass => ?_
  rw [scatter_eq_walk, ht.isForest.walk_eq (by rw [ht.depth_root hr]; omega)]

lemma pairwise_order : (forestOrder tree.childGroups kMaxGroupDepth tree.roots).Pairwise
    (Before (parentOf policy)) :=
  ht.isForest.pairwise_forestOrder (fun _ hi => ht.depth_root hi) ht.nodup_roots

lemma mem_order (i : GroupIndex policy) :
    i ∈ forestOrder tree.childGroups kMaxGroupDepth tree.roots :=
  ht.isForest.mem_forestOrder (fun _ => ht.mem_roots) (fun _ hi => ht.depth_root hi) i

include hp

lemma order_length :
    (forestOrder tree.childGroups kMaxGroupDepth tree.roots).length ≤ kMaxGroups := by
  have hnodup : (forestOrder tree.childGroups kMaxGroupDepth tree.roots).Nodup :=
    (pairwise_order ht).imp fun h => h.1
  have hle := hnodup.length_le_card
  have hgroups := hp.groups_le
  rw [Fintype.card_fin] at hle
  omega

/-- The invariant of a pass with `rest` nodes still to visit: every allocation is part of the
whole, and there is room for the shortfalls still to come. -/
def PassInv (whole : ℕ) (rest : List (GroupIndex policy)) (pass : PassState policy) : Prop :=
  (∀ i, pass.allocation i ≤ whole) ∧
    pass.overcommitShortfall + rest.length * kMaxFloorSum ≤ kUInt64Max

lemma visit_inv {whole : ℕ} (hwhole : whole ≤ kUInt64Max) {node : GroupIndex policy}
    {rest : List (GroupIndex policy)} {pass : PassState policy}
    (h : PassInv whole (node :: rest) pass) :
    ∃ pass', visit tree useModifier node pass = .ok pass' ∧ PassInv whole rest pass' := by
  obtain ⟨halloc, hroom⟩ := h
  rw [List.length_cons, Nat.add_mul, Nat.one_mul] at hroom
  have hb := hp.inputsFor_bounds ht useModifier node
  obtain ⟨pass', hpass', hshort⟩ := visit_ok hb (le_trans (halloc node) hwhole) (by omega)
  refine ⟨pass', hpass', ?_, by omega⟩
  obtain ⟨result, hresult, ha, -, -⟩ := visit_eq_ok hb.nonempty hpass'
  rw [ha]
  refine fun i => assign_le (fun v hv => ?_) halloc i
  have hle := List.single_le_sum (fun _ _ => Nat.zero_le _) v (List.mem_of_mem_take hv)
  rw [(allocateWhole_conserves hresult).2.2] at hle
  exact le_trans hle (halloc node)

/-- What a pass establishes: the roots hold the allocator's split of the whole, every node is
balanced, and no node holds more than the whole. -/
structure PassSpec (tree : GroupTree policy) (useModifier : Bool) (whole : ℕ)
    (pass : PassState policy) : Prop where
  roots : ∃ result,
    allocateWhole (tree.roots.map fun r => groupInput (groupAt policy r)) whole = .ok result ∧
      tree.roots.map pass.allocation = result.allocations
  balanced : ∀ node, NodeBalance tree useModifier node pass
  allocation_le : ∀ i, pass.allocation i ≤ whole

/-- The roots are given the whole, and with them a pass is within its invariant. -/
lemma roots_ok {whole : ℕ} (hwhole : whole ≤ kUInt64Max) : ∃ result noted start,
    allocateWhole (tree.roots.map fun r => groupInput (groupAt policy r)) whole = .ok result ∧
    noteOvercommit ({} : PassState policy) result = .ok noted ∧
    start = { noted with
      allocation := assign tree.roots result.allocations noted.allocation } ∧
    tree.roots.map start.allocation = result.allocations ∧
    PassInv whole (forestOrder tree.childGroups kMaxGroupDepth tree.roots) start := by
  have hb := hp.rootInputs_bounds ht
  obtain ⟨result, hresult, hshort⟩ := allocateWhole_ok (hb.domain hwhole)
  have hfloors := hb.sum_floor_le
  have hfloor_max : kMaxFloorSum ≤ kUInt64Max := by decide
  have hfits : ({} : PassState policy).overcommitShortfall + result.overcommitShortfall ≤
      kUInt64Max := by
    show 0 + result.overcommitShortfall ≤ kUInt64Max
    omega
  obtain ⟨noted, hnoted, hle⟩ := noteOvercommit_ok hfits
  obtain ⟨halloc0, -, -⟩ := noteOvercommit_frame hnoted
  obtain ⟨hlen, -, hsum⟩ := allocateWhole_conserves hresult
  rw [List.length_map] at hlen
  refine ⟨result, noted, _, hresult, hnoted, rfl, map_assign ht.nodup_roots hlen, ?_, ?_⟩
  · refine fun i => assign_le (fun v hv => ?_) (fun j => ?_) i
    · rw [← hsum]
      exact List.single_le_sum (fun _ _ => Nat.zero_le _) v hv
    · rw [halloc0]
      exact Nat.zero_le _
  · -- the roots and every group may each note a whole floor sum
    have hcount := Nat.mul_le_mul_right kMaxFloorSum (order_length hp ht)
    have hbound : kMaxFloorSum + kMaxGroups * kMaxFloorSum ≤ kUInt64Max := by decide
    have hnoted_le : noted.overcommitShortfall ≤ 0 + result.overcommitShortfall := hle
    show noted.overcommitShortfall + _ ≤ kUInt64Max
    omega

theorem distributePass_ok (useModifier : Bool) {whole : ℕ} (hwhole : whole ≤ kUInt64Max) :
    ∃ pass, distributePass tree useModifier whole = .ok pass ∧
      PassSpec tree useModifier whole pass := by
  obtain ⟨result, noted, start, hresult, hnoted, hstart, hroots, hinv⟩ := roots_ok hp ht hwhole
  obtain ⟨pass, hpass, hle_whole, -⟩ := foldlM_ok (visit tree useModifier) (PassInv whole) hinv
    fun i rest s hI => visit_inv hp ht hwhole hI
  refine ⟨pass, ?_, ⟨result, hresult, ?_⟩, fun node => ?_, hle_whole⟩
  · rw [distributePass, hresult, ok_bind, hnoted, ok_bind]
    dsimp only
    rw [← hstart, foldlM_scatter ht]
    exact hpass
  · rw [← hroots]
    exact foldlM_preserves
      (P := fun pass => tree.roots.map pass.allocation = tree.roots.map start.allocation)
      (fun j _ t t' hvisit hP => (visit_roots hp ht hvisit).trans hP) hpass rfl
  · exact foldlM_establishes (Q := NodeBalance tree useModifier) (pairwise_order ht)
      (fun i s s' => visit_balances hp ht)
      (fun i j s s' hbefore => visit_frame hp ht hbefore) hpass node (mem_order ht node)

end Pass

/-! ## Conservation -/

/-- A pass conserves a whole: in terms of the policy, the roots hold the whole, every group
passes on exactly what it holds, and the subjects hold the whole. -/
structure Conserves (policy : FairnessPolicy) (whole : ℕ) (pass : PassState policy) : Prop where
  roots : ∑ i with ¬ (groupAt policy i).parent.valid, pass.allocation i = whole
  nodes : ∀ i, (∑ c with (groupAt policy c).parent = (groupAt policy i).id, pass.allocation c) +
    (∑ s with (subjectAt policy s).group = (groupAt policy i).id, pass.subject s) =
      pass.allocation i
  subjects : ∑ s, pass.subject s = whole

lemma sum_map_filter_finRange {n : ℕ} (p : Fin n → Prop) [DecidablePred p] (f : Fin n → ℕ) :
    (((List.finRange n).filter fun i => p i).map f).sum = ∑ i with p i, f i := by
  rw [← List.sum_toFinset f ((List.nodup_finRange n).filter _)]
  congr 1
  ext i
  simp

/-- What is listed below a balanced node is what it holds. -/
lemma NodeBalance.sum_lists {node : GroupIndex policy} {pass : PassState policy}
    (h : NodeBalance tree useModifier node pass) :
    ((tree.childGroups node).map pass.allocation).sum +
      ((tree.childSubjects node).map pass.subject).sum = pass.allocation node := by
  obtain ⟨result, hresult, hgroups, hsubjects⟩ := h
  rw [hgroups, hsubjects, List.sum_take_add_sum_drop, (allocateWhole_conserves hresult).2.2]

/-- A balanced node passes on what it holds. -/
lemma NodeBalance.sum_eq (ht : IsTreeOf tree) {node : GroupIndex policy}
    {pass : PassState policy} (h : NodeBalance tree useModifier node pass) :
    (∑ c with parentOf policy c = some node, pass.allocation c) +
      (∑ s with byId policy (subjectAt policy s).group = some node, pass.subject s) =
        pass.allocation node := by
  rw [← h.sum_lists, ht.childGroups_eq, ht.childSubjects_eq]
  exact congrArg₂ (· + ·) (sum_map_filter_finRange _ _).symm (sum_map_filter_finRange _ _).symm

/-- A pass hands every unit on. -/
lemma PassSpec.passesOn (ht : IsTreeOf tree) {whole : ℕ} {pass : PassState policy}
    (h : PassSpec tree useModifier whole pass) {owner : SubjectIndex policy → GroupIndex policy}
    (howner : ∀ s, byId policy (subjectAt policy s).group = some (owner s)) :
    PassesOn (parentOf policy) owner pass.allocation pass.subject := by
  intro i
  have hbalance := (h.balanced i).sum_eq ht
  simpa only [howner, Option.some.injEq] using hbalance

theorem PassSpec.conserves (hp : ValidPolicy policy) (ht : IsTreeOf tree) {whole : ℕ}
    {pass : PassState policy} (h : PassSpec tree useModifier whole pass) :
    Conserves policy whole pass := by
  have hroots : ∑ i with parentOf policy i = none, pass.allocation i = whole := by
    obtain ⟨result, hresult, hmap⟩ := h.roots
    rw [← sum_map_filter_finRange, ← ht.roots_eq, hmap, (allocateWhole_conserves hresult).2.2]
  choose owner howner using hp.groupOf
  refine ⟨?_, fun i => ?_, ?_⟩
  · simpa only [hp.parentOf_eq_none] using hroots
  · have hbalance := (h.balanced i).sum_eq ht
    simpa only [hp.parentOf_iff, hp.byId_iff] using hbalance
  · rw [sum_leaves_eq_sum_roots (h.passesOn ht howner), hroots]

/-- A distribution is two passes over one tree. -/
lemma distribute_eq_ok {whole : ℕ} {d : Distribution policy} :
    distribute tree whole = .ok d ↔ distributePass tree false whole = .ok d.base ∧
      distributePass tree true whole = .ok d.effective := by
  constructor
  · intro h
    obtain ⟨base, hbase, h⟩ := bind_eq_ok.mp h
    obtain ⟨effective, heffective, h⟩ := bind_eq_ok.mp h
    obtain rfl := Except.ok.inj h
    exact ⟨hbase, heffective⟩
  · rintro ⟨hbase, heffective⟩
    rw [distribute, hbase, ok_bind, heffective, ok_bind]
    rfl

/-- On a validated policy both passes of a distribution are as they should be. -/
lemma ValidPolicy.distribute_spec (hp : ValidPolicy policy) (ht : IsTreeOf tree) {whole : ℕ}
    (hwhole : whole ≤ kUInt64Max) {d : Distribution policy} (h : distribute tree whole = .ok d) :
    PassSpec tree false whole d.base ∧ PassSpec tree true whole d.effective := by
  obtain ⟨hbase, heffective⟩ := distribute_eq_ok.mp h
  obtain ⟨base, hbase', hbaseSpec⟩ := distributePass_ok hp ht false hwhole
  obtain ⟨effective, heffective', hspec⟩ := distributePass_ok hp ht true hwhole
  obtain rfl := Except.ok.inj (hbase.symm.trans hbase')
  obtain rfl := Except.ok.inj (heffective.symm.trans heffective')
  exact ⟨hbaseSpec, hspec⟩

/-- On a validated policy `build` and both passes of `distribute` succeed. -/
theorem ValidPolicy.distribute_ok {policy : FairnessPolicy} (hp : ValidPolicy policy) {whole : ℕ}
    (hwhole : whole ≤ kUInt64Max) :
    ∃ tree d, build policy = .ok tree ∧ IsTreeOf tree ∧ distribute tree whole = .ok d ∧
      PassSpec tree false whole d.base ∧ PassSpec tree true whole d.effective := by
  obtain ⟨tree, htree, ht⟩ := hp.build_ok
  obtain ⟨base, hbase, hbaseSpec⟩ := distributePass_ok hp ht false hwhole
  obtain ⟨effective, heff, heffSpec⟩ := distributePass_ok hp ht true hwhole
  exact ⟨tree, ⟨base, effective⟩, htree, ht, distribute_eq_ok.mpr ⟨hbase, heff⟩, hbaseSpec,
    heffSpec⟩

/-- On a validated policy the distribution of every whole of the bounded domain succeeds, and
both passes conserve it. -/
theorem distribute_conserves {policy : FairnessPolicy} {whole : ℕ}
    (hpolicy : validatePolicy policy = .ok ())
    (hwhole : whole ≤ kMaxSubjects * kMaxServiceUnits) :
    ∃ tree d, build policy = .ok tree ∧ distribute tree whole = .ok d ∧
      Conserves policy whole d.base ∧ Conserves policy whole d.effective := by
  have hp := ValidPolicy.of_ok hpolicy
  obtain ⟨tree, d, htree, ht, hd, hbase, heff⟩ :=
    hp.distribute_ok (le_trans hwhole (by decide))
  exact ⟨tree, d, htree, hd, hbase.conserves hp ht, heff.conserves hp ht⟩

/-- Two nested groups; the inner subject has a floor and a modifier. -/
def nestedPolicy : FairnessPolicy :=
  { id := ⟨1⟩
    generation := ⟨1⟩
    epoch := ⟨1⟩
    maxCorrectionUnits := 100
    maxPriorityModifierBps := 5000
    groups :=
      [{ id := ⟨1⟩, generation := ⟨1⟩ }, { id := ⟨2⟩, generation := ⟨1⟩, parent := ⟨1⟩ }]
    subjects :=
      [{ id := ⟨1⟩, generation := ⟨1⟩, group := ⟨1⟩ },
        { id := ⟨2⟩, generation := ⟨1⟩, group := ⟨2⟩, guaranteeFloor := 4,
          priorityModifierBps := 5000 }] }

theorem distribute_conserves_nested :
    ∃ tree d, build nestedPolicy = .ok tree ∧ distribute tree 7 = .ok d ∧
      Conserves nestedPolicy 7 d.base ∧ Conserves nestedPolicy 7 d.effective :=
  distribute_conserves (by decide +kernel) (by decide)

end FairnessGovernor
