/-
# How groups are nested

The validator, the distributor and `group_depths` each walk from a group to its root with a
bounded number of steps.  On a policy that the validator accepts the three walks agree: the
groups form a forest of bounded depth, the distributor lists every group and every subject once,
and both depths are the number of groups on the way up.
-/
import FairnessGovernor.Eval.Conservation

namespace FairnessGovernor

open Forest

section Definitions

variable (policy : FairnessPolicy)

/-- The walk that counts for `group_depths`; it stops after its last step wherever it is. -/
def walkDepth : ℕ → ℕ → GroupIndex policy → ℕ
  | 0, depth, _ => depth
  | steps + 1, depth, cursor =>
    if ¬ (groupAt policy cursor).parent.valid then depth + 1
    else match byId policy (groupAt policy cursor).parent with
      | none => depth + 1
      | some next => walkDepth steps (depth + 1) next

/-- `group_depths`. -/
def groupDepths : List ℕ := List.ofFn (walkDepth policy (kMaxGroupDepth + 2) 0)

/-- A group names another one as its parent. -/
def IsParent (c p : GroupIndex policy) : Prop :=
  (groupAt policy c).parent.valid ∧ (groupAt policy p).id = (groupAt policy c).parent

/-- The way up from a group ends at a root. -/
structure RootChain (g : GroupIndex policy) (chain : List (GroupIndex policy)) : Prop where
  head : chain.head? = some g
  linked : chain.IsChain (IsParent policy)
  root : ∀ r ∈ chain.getLast?, ¬ (groupAt policy r).parent.valid

variable {policy} in
/-- A tree has the parents of the policy, and lists every group and every subject once. -/
structure ListsAll (tree : GroupTree policy) : Prop where
  parentNode : ∀ c p, tree.parentNode c = some p ↔ IsParent policy c p
  childGroups : ∀ p, ∀ c ∈ tree.childGroups p, IsParent policy c p
  childSubjects : ∀ p, ∀ s ∈ tree.childSubjects p,
    (subjectAt policy s).group = (groupAt policy p).id
  roots : ∀ r ∈ tree.roots, ¬ (groupAt policy r).parent.valid
  group_once : ∀ g, tree.roots.count g + ∑ p, (tree.childGroups p).count g = 1
  subject_once : ∀ s, ∑ p, (tree.childSubjects p).count s = 1

/-- The groups of a policy are a bounded forest, and all depths agree. -/
structure Nested : Prop where
  acyclic : ∀ g, ¬ Relation.TransGen (IsParent policy) g g
  chain_le : ∀ chain : List (GroupIndex policy), chain.IsChain (IsParent policy) →
    chain.length ≤ kMaxGroupDepth
  governs : ∀ g, ∃ s, (subjectAt policy s).group = (groupAt policy g).id
  built : ∃ tree, build policy = .ok tree ∧ ListsAll tree ∧
    ∀ g, ∃ chain, RootChain policy g chain ∧ tree.depth g = chain.length ∧
      (groupDepths policy)[g.val]? = some chain.length

/-- Some group is above itself, or some chain of parents is longer than the bound. -/
def Misnested : Prop :=
  (∃ g, Relation.TransGen (IsParent policy) g g) ∨
  ∃ chain : List (GroupIndex policy), chain.IsChain (IsParent policy) ∧
    kMaxGroupDepth < chain.length

end Definitions

variable {policy : FairnessPolicy}

/-! ## The walk of `group_depths` -/

/-- The walk follows the parents of the distributor. -/
lemma walkDepth_succ (steps depth : ℕ) (cursor : GroupIndex policy) :
    walkDepth policy (steps + 1) depth cursor =
      (parentOf policy cursor).elim (depth + 1) (walkDepth policy steps (depth + 1)) := by
  rw [walkDepth, parentOf]
  by_cases hvalid : (groupAt policy cursor).parent.valid
  · rw [if_neg (not_not.mpr hvalid), if_pos hvalid]
    cases byId policy (groupAt policy cursor).parent <;> rfl
  · rw [if_pos hvalid, if_neg hvalid]
    rfl

/-- With enough steps the walk adds the depth of the node. -/
lemma walkDepth_eq {tree : GroupTree policy} (ht : IsTreeOf tree) {steps : ℕ} (depth : ℕ)
    {g : GroupIndex policy} (hsteps : tree.depth g ≤ steps) :
    walkDepth policy steps depth g = depth + tree.depth g := by
  induction steps generalizing g depth with
  | zero =>
    have hpos := ht.isForest.depth_pos g
    omega
  | succ steps ih =>
    rw [walkDepth_succ]
    cases hparent : parentOf policy g with
    | none => rw [Option.elim_none, ht.depth_root (ht.mem_roots.mpr hparent)]
    | some p =>
      have hdepth := ht.isForest.depth_child hparent
      rw [Option.elim_some, ih (depth + 1) (by omega), hdepth]
      omega

/-! ## What is listed -/

/-- A root is listed among the roots, any other group below its parent. -/
lemma IsTreeOf.group_once {tree : GroupTree policy} (ht : IsTreeOf tree) (g : GroupIndex policy) :
    tree.roots.count g + ∑ p, (tree.childGroups p).count g = 1 := by
  cases hparent : parentOf policy g with
  | none =>
    have hchild : ∀ p, (tree.childGroups p).count g = 0 := by
      intro p
      rw [List.count_eq_zero, ht.mem_childGroups, hparent]
      exact nofun
    rw [List.count_eq_one_of_mem ht.nodup_roots (ht.mem_roots.mpr hparent),
      Finset.sum_eq_zero fun p _ => hchild p, Nat.add_zero]
  | some p =>
    have hroot : tree.roots.count g = 0 := by
      rw [List.count_eq_zero, ht.mem_roots, hparent]
      exact nofun
    have hother : ∀ q ∈ Finset.univ, q ≠ p → (tree.childGroups q).count g = 0 := by
      intro q _ hq
      rw [List.count_eq_zero, ht.mem_childGroups, hparent]
      exact fun h => hq (Option.some.inj h).symm
    rw [hroot, Finset.sum_eq_single p hother (by simp),
      List.count_eq_one_of_mem (ht.nodup_childGroups p) (ht.mem_childGroups.mpr hparent),
      Nat.zero_add]

namespace ValidPolicy

variable (hp : ValidPolicy policy) {tree : GroupTree policy}

include hp

lemma isParent_iff {c p : GroupIndex policy} : IsParent policy c p ↔ parentOf policy c = some p := by
  rw [hp.parentOf_iff, IsParent]
  constructor
  · exact fun h => h.2.symm
  · intro h
    rw [h]
    exact ⟨(hp.group_valid _ (groupAt_mem p)).id_valid, rfl⟩

lemma isParent_eq : IsParent policy = fun c p => parentOf policy c = some p := by
  ext c p
  exact hp.isParent_iff

/-- A subject is listed below its group. -/
lemma subject_once (ht : IsTreeOf tree) (s : SubjectIndex policy) :
    ∑ p, (tree.childSubjects p).count s = 1 := by
  obtain ⟨p, hp'⟩ := hp.groupOf s
  have hother : ∀ q ∈ Finset.univ, q ≠ p → (tree.childSubjects q).count s = 0 := by
    intro q _ hq
    rw [List.count_eq_zero, ht.mem_childSubjects, hp']
    exact fun h => hq (Option.some.inj h).symm
  rw [Finset.sum_eq_single p hother (by simp),
    List.count_eq_one_of_mem (ht.nodup_childSubjects p) (ht.mem_childSubjects.mpr hp')]

lemma listsAll (ht : IsTreeOf tree) : ListsAll tree where
  parentNode := fun c p => by rw [ht.parentNode_eq, hp.isParent_iff]
  childGroups := fun p c hc => hp.isParent_iff.mpr (ht.mem_childGroups.mp hc)
  childSubjects := fun p s hs => hp.byId_iff.mp (ht.mem_childSubjects.mp hs)
  roots := fun r hr => hp.parentOf_eq_none.mp (ht.mem_roots.mp hr)
  group_once := ht.group_once
  subject_once := hp.subject_once ht

/-- The chain of a group to its root, and both of its depths. -/
lemma exists_rootChain (ht : IsTreeOf tree) (g : GroupIndex policy) :
    ∃ chain, RootChain policy g chain ∧ tree.depth g = chain.length ∧
      (groupDepths policy)[g.val]? = some chain.length := by
  obtain ⟨chain, hlinked, hlast, hlength⟩ :=
    ht.isForest.exists_chain (fun i hi => ht.depth_root (ht.mem_roots.mpr hi)) g
  refine ⟨g :: chain, ⟨rfl, hp.isParent_eq ▸ hlinked, ?_⟩, hlength.symm, ?_⟩
  · intro r hr
    rw [List.getLast?_eq_getLast_of_ne_nil (List.cons_ne_nil _ _)] at hr
    obtain rfl := Option.some.inj hr
    exact hp.parentOf_eq_none.mp hlast
  · have hsteps : tree.depth g ≤ kMaxGroupDepth + 2 := (ht.isForest.depth_le g).trans (by omega)
    rw [groupDepths, List.getElem?_ofFn, dif_pos g.isLt, walkDepth_eq ht 0 hsteps, Nat.zero_add,
      hlength]

/-- An accepted policy is nested. -/
lemma nested : Nested policy := by
  obtain ⟨tree, htree, ht⟩ := hp.build_ok
  refine ⟨fun g => ?_, fun chain hchain => ?_, fun g => ?_,
    tree, htree, hp.listsAll ht, hp.exists_rootChain ht⟩
  · rw [hp.isParent_eq]
    exact ht.isForest.acyclic g
  · rw [hp.isParent_eq] at hchain
    cases chain with
    | nil => exact Nat.zero_le _
    | cons g rest => exact (ht.isForest.chain_le hchain).trans (ht.isForest.depth_le g)
  · obtain ⟨s, hs⟩ := hp.exists_childSubject g
    exact ⟨s, hp.byId_iff.mp hs⟩

end ValidPolicy

/-- The validator accepts only nested policies, and rejects every misnested one. -/
theorem validatePolicy_nested (policy : FairnessPolicy) :
    (validatePolicy policy = .ok () → Nested policy) ∧
      (Misnested policy → ∃ status, validatePolicy policy = .error status) := by
  refine ⟨fun h => (ValidPolicy.of_ok h).nested, fun hmis => ?_⟩
  cases h : validatePolicy policy with
  | error status => exact ⟨status, rfl⟩
  | ok _ =>
    have hnested := (ValidPolicy.of_ok h).nested
    rcases hmis with ⟨g, hcycle⟩ | ⟨chain, hchain, hlong⟩
    · exact absurd hcycle (hnested.acyclic g)
    · exact absurd (hnested.chain_le chain hchain) (Nat.not_le.mpr hlong)

theorem validatePolicy_nested_nestedPolicy :
    validatePolicy nestedPolicy = .ok () ∧ Nested nestedPolicy := by
  have hvalid : validatePolicy nestedPolicy = .ok () := by decide +kernel
  exact ⟨hvalid, (validatePolicy_nested nestedPolicy).1 hvalid⟩

end FairnessGovernor
