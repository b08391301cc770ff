/-
# The group tree and top-down allocation

`build` turns a policy into its forest of groups; `distribute` splits a whole among the roots
and then, group by group, each group's allocation among its child groups and its subjects.
This is done twice: the base pass ignores the priority modifiers, the effective pass applies
them to the subjects' weights.

Groups and subjects are identified by their position in the policy.
-/
import FairnessGovernor.Eval.Allocate
import FairnessGovernor.Model.Policy
import FairnessGovernor.Lib.Forest

namespace FairnessGovernor

section Build

variable (policy : FairnessPolicy)

/-- A position in `policy.groups`. -/
abbrev GroupIndex := Fin policy.groups.length
/-- A position in `policy.subjects`. -/
abbrev SubjectIndex := Fin policy.subjects.length

/-- The group at a position. -/
def groupAt (i : GroupIndex policy) : FairnessGroup := policy.groups.get i
/-- The subject at a position. -/
def subjectAt (s : SubjectIndex policy) : Subject := policy.subjects.get s

/-- `by_id`: the position of a group id. -/
def byId (id : FairnessGroupId) : Option (GroupIndex policy) :=
  (List.finRange policy.groups.length).find? fun i => (groupAt policy i).id = id

/-- The group nodes of the distributor. -/
structure GroupTree where
  parentNode : GroupIndex policy → Option (GroupIndex policy)
  depth : GroupIndex policy → ℕ
  childGroups : GroupIndex policy → List (GroupIndex policy)
  childSubjects : GroupIndex policy → List (SubjectIndex policy)
  roots : List (GroupIndex policy)

/-- The loop that indexes the group ids; `seen` holds the ids already indexed. -/
def indexGroups : List FairnessGroup → List FairnessGroupId → Except Status Unit
  | [], _ => .ok ()
  | group :: rest, seen => do
    rejectIf (¬ group.id.valid) .policyInvalid "group id must be non-zero"
    rejectIf (group.id ∈ seen) .alreadyExists "duplicate group id"
    indexGroups rest (group.id :: seen)

/-- `parent_node`, where `has_parent`. -/
def parentOf (i : GroupIndex policy) : Option (GroupIndex policy) :=
  if (groupAt policy i).parent.valid then byId policy (groupAt policy i).parent else none

/-- The walk that counts a group's depth; the steps it may still take are what runs out. -/
def groupDepth (parentNode : GroupIndex policy → Option (GroupIndex policy)) :
    ℕ → ℕ → GroupIndex policy → Except Status ℕ
  | 0, _, _ => .error ⟨.groupDepthExceeded, "group nesting exceeds kMaxGroupDepth"⟩
  | steps + 1, depth, cursor =>
    match parentNode cursor with
    | none => .ok depth
    | some parent => groupDepth parentNode steps (depth + 1) parent

/-- `Distributor::build`. -/
def build : Except Status (GroupTree policy) := do
  indexGroups policy.groups []
  forEach (fun group => rejectIf (group.parent.valid ∧ (byId policy group.parent).isNone)
    .notFound "group parent does not exist") policy.groups
  let depth ← collect fun i => groupDepth policy (parentOf policy) kMaxGroupDepth 1 i
  rejectIf (policy.groups = []) .policyInvalid "policy must declare at least one group"
  forEach (fun subject => rejectIf (byId policy subject.group).isNone .notFound
    "subject references an unknown fairness group") policy.subjects
  let roots := (List.finRange _).filter fun i => parentOf policy i = none
  rejectIf (roots = []) .policyInvalid "policy must declare at least one root group"
  return {
    parentNode := parentOf policy
    depth := depth
    childGroups := fun i => (List.finRange _).filter fun c => parentOf policy c = some i
    childSubjects := fun i =>
      (List.finRange _).filter fun s => byId policy (subjectAt policy s).group = some i
    roots := roots }

end Build

/-! ## Scattering a whole -/

/-- Groups sort before subjects at the same numeric identity. -/
def compositeKey (isGroup : Bool) (id : UInt64) : UInt64 :=
  if isGroup then id else id ||| ((1 : UInt64) <<< 63)

/-- The competitor a group is. -/
def groupInput (group : FairnessGroup) : AllocationInput :=
  { key := compositeKey true group.id.value
    weight := effectiveShareWeight group.shareWeight 0
    floor := group.guaranteeFloor.toNat
    obligationRank := group.obligationRank }

/-- The competitor a subject is. -/
def subjectInput (useModifier : Bool) (subject : Subject) : AllocationInput :=
  { key := compositeKey false subject.id.value
    weight :=
      if useModifier then effectiveShareWeight subject.shareWeight subject.priorityModifierBps
      else effectiveShareWeight subject.shareWeight 0
    floor := subject.guaranteeFloor.toNat
    obligationRank := subject.obligationRank }

/-- Writes consecutive results to consecutive targets. -/
def assign {ι α : Type} [DecidableEq ι] : List ι → List α → (ι → α) → ι → α
  | t :: targets, v :: values, f => assign targets values (Function.update f t v)
  | _, _, f => f

section Scatter

variable {policy : FairnessPolicy}

/-- What one pass has assigned so far. -/
structure PassState (policy : FairnessPolicy) where
  allocation : GroupIndex policy → ℕ := fun _ => 0
  subject : SubjectIndex policy → ℕ := fun _ => 0
  floorBinding : SubjectIndex policy → Bool := fun _ => false
  overcommit : Bool := false
  overcommitShortfall : ℕ := 0

/-- An allocation that overcommits is noted in the pass. -/
def noteOvercommit (pass : PassState policy) (result : AllocationResult) :
    Eval (PassState policy) :=
  if result.overcommit then do
    let shortfall ← orFail .arithmeticOverflow "overcommit shortfall overflows"
      (checkedAdd pass.overcommitShortfall result.overcommitShortfall)
    return { pass with overcommit := true, overcommitShortfall := shortfall }
  else .ok pass

variable (tree : GroupTree policy)

/-- `inputs_for`: the child groups of a node, then its subjects. -/
def inputsFor (useModifier : Bool) (node : GroupIndex policy) : List AllocationInput :=
  (tree.childGroups node).map (fun c => groupInput (groupAt policy c)) ++
    (tree.childSubjects node).map (fun s => subjectInput useModifier (subjectAt policy s))

/-- The part of `scatter` that allocates one node's whole and records the results. -/
def scatterNode (useModifier : Bool) (node : GroupIndex policy) (whole : ℕ)
    (pass : PassState policy) : Eval (PassState policy) :=
  if inputsFor tree useModifier node = [] then .ok pass
  else do
    let result ← allocateWhole (inputsFor tree useModifier node) whole
    let pass ← noteOvercommit pass result
    let groups := (tree.childGroups node).length
    return { pass with
      allocation := assign (tree.childGroups node) (result.allocations.take groups)
        pass.allocation
      subject := assign (tree.childSubjects node) (result.allocations.drop groups) pass.subject
      floorBinding :=
        if useModifier then
          assign (tree.childSubjects node) (result.floorBinding.drop groups) pass.floorBinding
        else pass.floorBinding }

/-- `scatter`: a node, then its child groups in order, each with what it was allocated.  The
source recurses on the tree; the first argument bounds the depth of the recursion. -/
def scatter (useModifier : Bool) :
    ℕ → GroupIndex policy → ℕ → PassState policy → Eval (PassState policy)
  | 0, _, _, _ => .error .tooDeep
  | fuel + 1, node, whole, pass => do
    let pass ← scatterNode tree useModifier node whole pass
    (tree.childGroups node).foldlM
      (fun pass child => scatter useModifier fuel child (pass.allocation child) pass) pass

/-- One pass of `distribute`. -/
def distributePass (useModifier : Bool) (whole : ℕ) : Eval (PassState policy) := do
  let result ← allocateWhole (tree.roots.map fun r => groupInput (groupAt policy r)) whole
  let pass ← noteOvercommit {} result
  let pass := { pass with allocation := assign tree.roots result.allocations pass.allocation }
  tree.roots.foldlM
    (fun pass root => scatter tree useModifier kMaxGroupDepth root (pass.allocation root) pass)
    pass

/-- The two passes: without and with the priority modifiers. -/
structure Distribution (policy : FairnessPolicy) where
  base : PassState policy
  effective : PassState policy

/-- `Distributor::distribute`. -/
def distribute (whole : ℕ) : Eval (Distribution policy) := do
  let base ← distributePass tree false whole
  let effective ← distributePass tree true whole
  return { base := base, effective := effective }

end Scatter

end FairnessGovernor
