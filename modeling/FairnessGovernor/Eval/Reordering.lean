/-
# The distribution and the order of declarations

A policy whose groups and subjects are declared in another order has the same tree under other
positions, and at every node the same competitors in another order.  Where the keys of the
competitors of every node differ, both passes of the distribution give every group and every
subject the same.
-/
import FairnessGovernor.Eval.Conservation
import FairnessGovernor.Eval.Renaming

namespace FairnessGovernor

open Forest Sorting

/-! ## The same policy in another order -/

/-- The policies declare the same groups and subjects, each in its own order. -/
inductive FairnessPolicy.Reorders (policy : FairnessPolicy) : FairnessPolicy → Prop
  | mk {groups : List FairnessGroup} {subjects : List Subject} :
      policy.groups.Perm groups → policy.subjects.Perm subjects →
      FairnessPolicy.Reorders policy { policy with groups := groups, subjects := subjects }

section Policy

variable {policy reordered : FairnessPolicy}

namespace FairnessPolicy.Reorders

variable (h : policy.Reorders reordered) (hp : ValidPolicy policy)

include h

lemma groups_perm : policy.groups.Perm reordered.groups := by
  obtain ⟨hgroups, -⟩ := h
  exact hgroups

lemma subjects_perm : policy.subjects.Perm reordered.subjects := by
  obtain ⟨-, hsubjects⟩ := h
  exact hsubjects

include hp

lemma findGroup_eq (id : FairnessGroupId) : reordered.findGroup id = policy.findGroup id :=
  find?_eq_of_perm hp.groupIds_nodup h.groups_perm id

lemma walkToRoot_eq (steps : ℕ) (cursor : FairnessGroupId) :
    walkToRoot reordered steps cursor = walkToRoot policy steps cursor := by
  induction steps generalizing cursor with
  | zero => rfl
  | succ steps ih =>
    rw [walkToRoot, walkToRoot, h.findGroup_eq hp]
    simp only [ih]

/-- Validity does not look at the order. -/
theorem valid : ValidPolicy reordered := by
  have hfind := h.findGroup_eq hp
  have hwalk := h.walkToRoot_eq hp
  obtain ⟨hgroups, hsubjects⟩ := h
  exact { hp with
    groups_le := hgroups.length_eq ▸ hp.groups_le
    subjects_ne := fun hnil => hp.subjects_ne (List.Perm.eq_nil (hnil ▸ hsubjects))
    subjects_le := hsubjects.length_eq ▸ hp.subjects_le
    group_valid := fun group hmem => hp.group_valid group (hgroups.mem_iff.mpr hmem)
    groupIds_nodup := (hgroups.map _).nodup_iff.mp hp.groupIds_nodup
    parent_found := fun group hmem hvalid =>
      (hfind _).symm ▸ hp.parent_found group (hgroups.mem_iff.mpr hmem) hvalid
    depth_ok := fun group hmem => (hwalk _ _).trans (hp.depth_ok group (hgroups.mem_iff.mpr hmem))
    subject_valid := fun subject hmem =>
      have hs := hp.subject_valid subject (hsubjects.mem_iff.mpr hmem)
      { hs with
        group_found := (hfind _).symm ▸ hs.group_found
        modifier_le_policy := hs.modifier_le_policy }
    subjectIds_nodup := (hsubjects.map _).nodup_iff.mp hp.subjectIds_nodup
    governed := fun group hmem => by
      have hgoverned := hp.governed group (hgroups.mem_iff.mpr hmem)
      unfold groupSubjectWeightSum at hgoverned ⊢
      rwa [← ((hsubjects.filter _).map _).sum_eq] }

end FairnessPolicy.Reorders

/-! ## Positions -/

/-- Where the groups and subjects of a policy stand in the reordered one. -/
structure Positions (policy reordered : FairnessPolicy) where
  group : GroupIndex policy ≃ GroupIndex reordered
  subject : SubjectIndex policy ≃ SubjectIndex reordered
  groupAt_eq : ∀ i, groupAt reordered (group i) = groupAt policy i
  subjectAt_eq : ∀ s, subjectAt reordered (subject s) = subjectAt policy s

lemma FairnessPolicy.Reorders.exists_positions (h : policy.Reorders reordered)
    (hp : ValidPolicy policy) : ∃ _ : Positions policy reordered, True := by
  obtain ⟨group, hgroup⟩ := exists_renaming h.groups_perm (hp.groupIds_nodup.of_map _)
  obtain ⟨subject, hsubject⟩ := exists_renaming h.subjects_perm (hp.subjectIds_nodup.of_map _)
  exact ⟨⟨group, subject, hgroup, hsubject⟩, trivial⟩

namespace Positions

variable (σ : Positions policy reordered) (hp : ValidPolicy policy) (hp' : ValidPolicy reordered)

include hp hp'

lemma parentOf_iff {i p : GroupIndex policy} :
    parentOf reordered (σ.group i) = some (σ.group p) ↔ parentOf policy i = some p := by
  rw [hp'.parentOf_iff, hp.parentOf_iff, σ.groupAt_eq, σ.groupAt_eq]

lemma parentOf_eq_none {i : GroupIndex policy} :
    parentOf reordered (σ.group i) = none ↔ parentOf policy i = none := by
  rw [hp'.parentOf_eq_none, hp.parentOf_eq_none, σ.groupAt_eq]

lemma groupOf_iff {s : SubjectIndex policy} {i : GroupIndex policy} :
    byId reordered (subjectAt reordered (σ.subject s)).group = some (σ.group i) ↔
      byId policy (subjectAt policy s).group = some i := by
  rw [hp'.byId_iff, hp.byId_iff, σ.groupAt_eq, σ.subjectAt_eq]

variable {tree : GroupTree policy} {tree' : GroupTree reordered} (ht : IsTreeOf tree)
  (ht' : IsTreeOf tree')

include ht ht'

lemma childGroups_perm (node : GroupIndex policy) :
    ((tree.childGroups node).map σ.group).Perm (tree'.childGroups (σ.group node)) := by
  rw [List.perm_ext_iff_of_nodup ((ht.nodup_childGroups node).map σ.group.injective)
    (ht'.nodup_childGroups _)]
  intro c
  obtain ⟨c, rfl⟩ := σ.group.surjective c
  rw [List.mem_map_of_injective σ.group.injective, ht.mem_childGroups, ht'.mem_childGroups,
    σ.parentOf_iff hp hp']

lemma childSubjects_perm (node : GroupIndex policy) :
    ((tree.childSubjects node).map σ.subject).Perm (tree'.childSubjects (σ.group node)) := by
  rw [List.perm_ext_iff_of_nodup ((ht.nodup_childSubjects node).map σ.subject.injective)
    (ht'.nodup_childSubjects _)]
  intro s
  obtain ⟨s, rfl⟩ := σ.subject.surjective s
  rw [List.mem_map_of_injective σ.subject.injective, ht.mem_childSubjects, ht'.mem_childSubjects,
    σ.groupOf_iff hp hp']

lemma roots_perm : (tree.roots.map σ.group).Perm tree'.roots := by
  rw [List.perm_ext_iff_of_nodup (ht.nodup_roots.map σ.group.injective) ht'.nodup_roots]
  intro r
  obtain ⟨r, rfl⟩ := σ.group.surjective r
  rw [List.mem_map_of_injective σ.group.injective, ht.mem_roots, ht'.mem_roots,
    σ.parentOf_eq_none hp hp']

/-- At every node the same competitors meet. -/
lemma inputsFor_perm (useModifier : Bool) (node : GroupIndex policy) :
    (inputsFor tree useModifier node).Perm (inputsFor tree' useModifier (σ.group node)) := by
  have hgroups := (σ.childGroups_perm hp hp' ht ht' node).map fun c => groupInput (groupAt reordered c)
  have hsubjects := (σ.childSubjects_perm hp hp' ht ht' node).map
    fun s => subjectInput useModifier (subjectAt reordered s)
  rw [List.map_map] at hgroups hsubjects
  simp only [Function.comp_def, σ.groupAt_eq] at hgroups
  simp only [Function.comp_def, σ.subjectAt_eq] at hsubjects
  exact hgroups.append hsubjects

include σ in
lemma rootInputs_perm : (tree.roots.map fun r => groupInput (groupAt policy r)).Perm
    (tree'.roots.map fun r => groupInput (groupAt reordered r)) := by
  have hroots := (σ.roots_perm hp hp' ht ht').map fun r => groupInput (groupAt reordered r)
  rw [List.map_map] at hroots
  simp only [Function.comp_def, σ.groupAt_eq] at hroots
  exact hroots

end Positions

/-! ## Keys -/

/-- No two subjects of one group, and no subject and child group of one group, have the same
composite key. -/
structure DistinctKeys (policy : FairnessPolicy) : Prop where
  subjects : ∀ s ∈ policy.subjects, ∀ t ∈ policy.subjects, s.group = t.group →
    compositeKey false s.id.value = compositeKey false t.id.value → s.id = t.id
  mixed : ∀ g ∈ policy.groups, ∀ s ∈ policy.subjects, g.parent = s.group →
    compositeKey true g.id.value ≠ compositeKey false s.id.value

section Keys

variable {tree : GroupTree policy} (hp : ValidPolicy policy) (ht : IsTreeOf tree)

include hp ht

lemma rootKeys_nodup :
    ((tree.roots.map fun r => groupInput (groupAt policy r)).map (·.key)).Nodup := by
  rw [List.map_map]
  refine ht.nodup_roots.map_on fun a _ b _ hkey => hp.groupAt_injective (Id.ext hkey)

/-- The competitors of a node have different keys exactly when those of its subjects and child
groups differ. -/
lemma inputKeys_nodup (hkeys : DistinctKeys policy) (useModifier : Bool)
    (node : GroupIndex policy) : ((inputsFor tree useModifier node).map (·.key)).Nodup := by
  have hgroup : ∀ {s}, s ∈ tree.childSubjects node →
      (subjectAt policy s).group = (groupAt policy node).id := fun hs =>
    hp.byId_iff.mp (ht.mem_childSubjects.mp hs)
  rw [inputsFor, List.map_append, List.map_map, List.map_map]
  refine List.Nodup.append ?_ ?_ ?_
  · exact (ht.nodup_childGroups node).map_on fun a _ b _ hkey => hp.groupAt_injective (Id.ext hkey)
  · refine (ht.nodup_childSubjects node).map_on fun a ha b hb hkey => hp.subjectAt_injective ?_
    exact hkeys.subjects _ (subjectAt_mem a) _ (subjectAt_mem b)
      ((hgroup ha).trans (hgroup hb).symm) hkey
  · rw [List.disjoint_left]
    intro key hc hs
    obtain ⟨c, hchild, rfl⟩ := List.mem_map.mp hc
    obtain ⟨s, hs, hkey⟩ := List.mem_map.mp hs
    have hparent := hp.parentOf_iff.mp (ht.mem_childGroups.mp hchild)
    exact hkeys.mixed _ (groupAt_mem c) _ (subjectAt_mem s) (hparent.trans (hgroup hs).symm)
      hkey.symm

end Keys

/-! ## The floors that bind -/

section Binding

variable {tree : GroupTree policy} (hp : ValidPolicy policy) (ht : IsTreeOf tree)

/-- The floors of a node's subjects bind as the allocator decided. -/
def NodeBinds (tree : GroupTree policy) (node : GroupIndex policy) (pass : PassState policy) :
    Prop :=
  ∃ result, allocateWhole (inputsFor tree true node) (pass.allocation node) = .ok result ∧
    (tree.childSubjects node).map pass.floorBinding =
      result.floorBinding.drop (tree.childGroups node).length

include hp ht

lemma visit_binds {node : GroupIndex policy} {pass pass' : PassState policy}
    (h : visit tree true node pass = .ok pass') : NodeBinds tree node pass' := by
  obtain ⟨result, hresult, -, -, hf⟩ := visit_eq_ok (hp.inputsFor_bounds ht _ node).nonempty h
  have hlen := (allocateWhole_conserves hresult).2.1
  rw [inputsFor_length] at hlen
  refine ⟨result, visit_allocation_self hp ht h ▸ hresult, ?_⟩
  rw [hf, if_pos rfl, map_assign (ht.nodup_childSubjects node) (by rw [List.length_drop]; omega)]

lemma visit_frame_binds {node other : GroupIndex policy} {pass pass' : PassState policy}
    (hbefore : Before (parentOf policy) other node) (h : visit tree true node pass = .ok pass')
    (hother : NodeBinds tree other pass) : NodeBinds tree other pass' := by
  obtain ⟨split, -, -, -, hf⟩ := visit_eq_ok (hp.inputsFor_bounds ht _ node).nonempty h
  obtain ⟨result, hresult, hsubjects⟩ := hother
  refine ⟨result, (visit_allocation hp ht h hbefore.2).symm ▸ hresult, ?_⟩
  rw [hf, if_pos rfl, map_assign_childSubjects ht hbefore.1, hsubjects]

/-- After the effective pass the floors of every node bind as the allocator decided. -/
lemma distributePass_binds {whole : ℕ} {pass : PassState policy}
    (h : distributePass tree true whole = .ok pass) (node : GroupIndex policy) :
    NodeBinds tree node pass := by
  obtain ⟨result, -, h⟩ := bind_eq_ok.mp h
  obtain ⟨noted, -, h⟩ := bind_eq_ok.mp h
  rw [foldlM_scatter ht] at h
  exact foldlM_establishes (Q := NodeBinds tree) (pairwise_order ht)
    (fun i s s' => visit_binds hp ht) (fun i j s s' hbefore => visit_frame_binds hp ht hbefore)
    h node (mem_order ht node)

end Binding

/-! ## The reordered distribution -/

section Distributed

variable {tree : GroupTree policy} {tree' : GroupTree reordered} {useModifier : Bool}
  {pass : PassState policy} {pass' : PassState reordered}

section Split

variable {α : Type} {node : GroupIndex policy} {values : List α} {given : AllocationInput → α}
  (hvalues : values = (inputsFor tree useModifier node).map given)

include hvalues

/-- What was written to the child groups of a node is read off its competitors. -/
lemma childGroups_given {written : GroupIndex policy → α}
    (h : (tree.childGroups node).map written = values.take (tree.childGroups node).length) :
    ∀ c ∈ tree.childGroups node, written c = given (groupInput (groupAt policy c)) := by
  have hlen : (((tree.childGroups node).map fun c => groupInput (groupAt policy c)).map
      given).length = (tree.childGroups node).length := by
    rw [List.length_map, List.length_map]
  rw [hvalues, inputsFor, List.map_append, List.take_left' hlen, List.map_map] at h
  exact List.map_inj_left.mp h

/-- What was written to the subjects of a node is read off its competitors. -/
lemma childSubjects_given {written : SubjectIndex policy → α}
    (h : (tree.childSubjects node).map written = values.drop (tree.childGroups node).length) :
    ∀ s ∈ tree.childSubjects node,
      written s = given (subjectInput useModifier (subjectAt policy s)) := by
  have hlen : (((tree.childGroups node).map fun c => groupInput (groupAt policy c)).map
      given).length = (tree.childGroups node).length := by
    rw [List.length_map, List.length_map]
  rw [hvalues, inputsFor, List.map_append, List.drop_left' hlen, List.map_map] at h
  exact List.map_inj_left.mp h

end Split

variable (σ : Positions policy reordered) (hp : ValidPolicy policy) (hp' : ValidPolicy reordered)
  (ht : IsTreeOf tree) (ht' : IsTreeOf tree') (hkeys : DistinctKeys policy)

include hp hp' ht ht' hkeys

/-- Nodes that hold the same give the same. -/
lemma NodeBalance.of_reorders {node : GroupIndex policy} (h : NodeBalance tree useModifier node pass)
    (h' : NodeBalance tree' useModifier (σ.group node) pass')
    (hown : pass'.allocation (σ.group node) = pass.allocation node) :
    (∀ c ∈ tree.childGroups node, pass'.allocation (σ.group c) = pass.allocation c) ∧
      ∀ s ∈ tree.childSubjects node, pass'.subject (σ.subject s) = pass.subject s := by
  obtain ⟨result, hresult, hgroups, hsubjects⟩ := h
  obtain ⟨result', hresult', hgroups', hsubjects'⟩ := h'
  rw [hown] at hresult'
  obtain ⟨given, -, ⟨hgiven, hgiven'⟩, -⟩ := allocateWhole_perm
    (inputKeys_nodup hp ht hkeys useModifier node)
    (σ.inputsFor_perm hp hp' ht ht' useModifier node) hresult hresult'
  constructor
  · intro c hc
    have hc' := (σ.childGroups_perm hp hp' ht ht' node).mem_iff.mp
      (List.mem_map_of_mem (f := σ.group) hc)
    rw [childGroups_given hgiven hgroups c hc, childGroups_given hgiven' hgroups' _ hc',
      σ.groupAt_eq]
  · intro s hs
    have hs' := (σ.childSubjects_perm hp hp' ht ht' node).mem_iff.mp
      (List.mem_map_of_mem (f := σ.subject) hs)
    rw [childSubjects_given hgiven hsubjects s hs, childSubjects_given hgiven' hsubjects' _ hs',
      σ.subjectAt_eq]

lemma NodeBinds.of_reorders {node : GroupIndex policy} (h : NodeBinds tree node pass)
    (h' : NodeBinds tree' (σ.group node) pass')
    (hown : pass'.allocation (σ.group node) = pass.allocation node)
    {s : SubjectIndex policy} (hs : s ∈ tree.childSubjects node) :
    pass'.floorBinding (σ.subject s) = pass.floorBinding s := by
  obtain ⟨result, hresult, hsubjects⟩ := h
  obtain ⟨result', hresult', hsubjects'⟩ := h'
  rw [hown] at hresult'
  obtain ⟨-, binding, -, hbinding, hbinding'⟩ := allocateWhole_perm
    (inputKeys_nodup hp ht hkeys true node)
    (σ.inputsFor_perm hp hp' ht ht' true node) hresult hresult'
  have hs' := (σ.childSubjects_perm hp hp' ht ht' node).mem_iff.mp
    (List.mem_map_of_mem (f := σ.subject) hs)
  rw [childSubjects_given hbinding hsubjects s hs, childSubjects_given hbinding' hsubjects' _ hs',
    σ.subjectAt_eq]

/-- From the roots down, every group and every subject is given the same. -/
theorem PassSpec.of_reorders {whole : ℕ} (h : PassSpec tree useModifier whole pass)
    (h' : PassSpec tree' useModifier whole pass') :
    (∀ i, pass'.allocation (σ.group i) = pass.allocation i) ∧
      ∀ s, pass'.subject (σ.subject s) = pass.subject s := by
  -- by induction on the depth, since a group is given its part of what its parent is given
  have hgroups : ∀ depth i, tree.depth i = depth →
      pass'.allocation (σ.group i) = pass.allocation i := by
    intro depth
    induction depth with
    | zero => exact fun i hi => absurd hi (ht.isForest.depth_pos i).ne'
    | succ depth ih =>
      intro i hi
      cases hparent : parentOf policy i with
      | none =>
        obtain ⟨result, hresult, hmap⟩ := h.roots
        obtain ⟨result', hresult', hmap'⟩ := h'.roots
        obtain ⟨given, -, ⟨hgiven, hgiven'⟩, -⟩ := allocateWhole_perm (rootKeys_nodup hp ht)
          (σ.rootInputs_perm hp hp' ht ht') hresult hresult'
        rw [hgiven, List.map_map] at hmap
        rw [hgiven', List.map_map] at hmap'
        have hroot := List.map_inj_left.mp hmap i (ht.mem_roots.mpr hparent)
        have hroot' := List.map_inj_left.mp hmap' (σ.group i)
          (ht'.mem_roots.mpr ((σ.parentOf_eq_none hp hp').mpr hparent))
        rw [hroot, hroot', Function.comp_apply, Function.comp_apply, σ.groupAt_eq]
      | some parent =>
        have hdepth := ht.isForest.depth_child hparent
        have hown := ih parent (by omega)
        exact ((h.balanced parent).of_reorders σ hp hp' ht ht' hkeys
          (h'.balanced (σ.group parent)) hown).1 i (ht.mem_childGroups.mpr hparent)
  refine ⟨fun i => hgroups _ i rfl, fun s => ?_⟩
  obtain ⟨i, hi⟩ := hp.groupOf s
  exact ((h.balanced i).of_reorders σ hp hp' ht ht' hkeys (h'.balanced (σ.group i))
    (hgroups _ i rfl)).2 s (ht.mem_childSubjects.mpr hi)

end Distributed

end Policy

end FairnessGovernor
