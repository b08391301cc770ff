/-
# The fairness policy and its validation

A policy is the only source of authority about what "fair" means: share weights, guarantee
floors, starvation thresholds, modifiers, protected obligations, and the bounds on any
corrective intent.  `validatePolicy` is the source's validator, check by check and message by
message; `ValidPolicy` collects what the evaluator relies on, and `ValidPolicy.of_ok` is the
only place where the validator is unfolded.
-/
import FairnessGovernor.Core.Bytes

namespace FairnessGovernor

/-! ## References and provenance -/

/-- Where a policy element or a snapshot came from. -/
structure Provenance where
  revision : UInt64 := 0
  source : ByteBuffer := []
  sourceDigest : UInt64 := 0
  capturedAtNs : Int64 := 0
deriving DecidableEq, Inhabited

/-- A priority class owned by an external system, referenced by generation. -/
structure PriorityClassRef where
  id : PriorityRef := {}
  generation : Generation PriorityRefTag := {}
deriving DecidableEq, Inhabited

/-- A QoS class owned by an external system, referenced by generation. -/
structure QosClassRef where
  id : QosRef := {}
  generation : Generation QosRefTag := {}
deriving DecidableEq, Inhabited

/-- `PriorityClassRef::present`. -/
def PriorityClassRef.present (r : PriorityClassRef) : Prop := r.id.valid
/-- `QosClassRef::present`. -/
def QosClassRef.present (r : QosClassRef) : Prop := r.id.valid
/-- `PriorityClassRef::consistent`. -/
def PriorityClassRef.consistent (r : PriorityClassRef) : Prop := r.id.valid ↔ r.generation.valid
/-- `QosClassRef::consistent`. -/
def QosClassRef.consistent (r : QosClassRef) : Prop := r.id.valid ↔ r.generation.valid

instance (r : PriorityClassRef) : Decidable r.present := inferInstanceAs (Decidable r.id.valid)
instance (r : QosClassRef) : Decidable r.present := inferInstanceAs (Decidable r.id.valid)
instance (r : PriorityClassRef) : Decidable r.consistent :=
  inferInstanceAs (Decidable (r.id.valid ↔ r.generation.valid))
instance (r : QosClassRef) : Decidable r.consistent :=
  inferInstanceAs (Decidable (r.id.valid ↔ r.generation.valid))

/-! ## The policy -/

/-- One node of the fairness group forest; an invalid `parent` means "root group". -/
structure FairnessGroup where
  id : FairnessGroupId := {}
  generation : FairnessGroupGeneration := {}
  parent : FairnessGroupId := {}
  shareWeight : UInt32 := 1
  guaranteeFloor : UInt64 := 0
  obligationRank : UInt32 := 0
  protectedObligation : Bool := false
  label : ByteBuffer := []
deriving DecidableEq, Inhabited

/-- One governed subject. -/
structure Subject where
  id : SubjectId := {}
  generation : SubjectGeneration := {}
  group : FairnessGroupId := {}
  tenant : TenantId := {}
  shareWeight : UInt32 := 1
  guaranteeFloor : UInt64 := 0
  starvationWindows : UInt32 := 0
  guaranteeStarvationWindows : UInt32 := 0
  priority : PriorityClassRef := {}
  qos : QosClassRef := {}
  priorityModifierBps : Int32 := 0
  priorityRank : UInt32 := 0
  obligationRank : UInt32 := 0
  protectedObligation : Bool := false
  maxReduceUnits : UInt64 := 0
  maxAugmentUnits : UInt64 := 0
  label : ByteBuffer := []
deriving DecidableEq, Inhabited

/-- The complete fairness policy. -/
structure FairnessPolicy where
  id : FairnessPolicyId := {}
  generation : FairnessPolicyGeneration := {}
  epoch : FabricEpoch := {}
  windowUnits : UInt64 := 0
  fairBandUnits : UInt64 := 0
  correctionThresholdUnits : UInt64 := 1
  cooldownWindows : UInt32 := 0
  maxCorrectionUnits : UInt64 := 0
  maxCorrectionBps : UInt32 := 10000
  maxPriorityModifierBps : UInt32 := 0
  maxEvidenceAgeWindows : UInt32 := 1
  maxEvidenceAgeNs : UInt64 := 0
  maxCarryUnits : UInt64 := UInt64.ofNat kMaxCarryUnits
  enforceGuaranteeFloors : Bool := true
  groups : List FairnessGroup := []
  subjects : List Subject := []
  provenance : Provenance := {}
deriving DecidableEq, Inhabited

/-- `FairnessPolicy::find_subject`. -/
def FairnessPolicy.findSubject (policy : FairnessPolicy) (wanted : SubjectId) : Option Subject :=
  policy.subjects.find? fun subject => subject.id = wanted

/-- `FairnessPolicy::find_group`. -/
def FairnessPolicy.findGroup (policy : FairnessPolicy) (wanted : FairnessGroupId) :
    Option FairnessGroup :=
  policy.groups.find? fun group => group.id = wanted

/-- `group_subject_weight_sum`. -/
def groupSubjectWeightSum (policy : FairnessPolicy) (group : FairnessGroupId) : ℕ :=
  ((policy.subjects.filter fun subject => subject.group = group).map
    fun subject => subject.shareWeight.toNat).sum

/-! ## Validation -/

/-- `kMaxLabelBytes`. -/
def kMaxLabelBytes : ℕ := 128

/-- The checks on the group records, in order; `seen` holds the ids already indexed. -/
def validateGroups : List FairnessGroup → List FairnessGroupId → Except Status Unit
  | [], _ => .ok ()
  | group :: rest, seen => do
    rejectIf (¬ group.id.valid) .policyInvalid "group id must be non-zero"
    rejectIf (¬ group.generation.valid) .policyInvalid "group generation must be >= 1"
    rejectIf (group.id ∈ seen) .alreadyExists "duplicate group id"
    rejectIf (group.shareWeight = 0 ∨ group.shareWeight.toNat > kMaxShareWeight) .outOfRange
      "group share weight out of range"
    rejectIf (group.guaranteeFloor.toNat > kMaxServiceUnits) .outOfRange
      "group guarantee floor exceeds kMaxServiceUnits"
    rejectIf (group.protectedObligation ∧ group.obligationRank = 0) .policyInvalid
      "a protected obligation requires a non-zero obligation rank"
    rejectIf (group.label.length > kMaxLabelBytes) .limitExceeded "group label is too long"
    validateGroups rest (group.id :: seen)

/-- The parent of a group is declared, and is not the group itself. -/
def validateParent (policy : FairnessPolicy) (group : FairnessGroup) : Except Status Unit := do
  rejectIf (group.parent.valid ∧ (policy.findGroup group.parent).isNone) .notFound
    "group parent does not exist"
  rejectIf (group.parent.valid ∧ group.parent = group.id) .groupCycle
    "group cannot be its own parent"

/-- The walk to the root with a bounded step count; the bound is what runs out. -/
def walkToRoot (policy : FairnessPolicy) : ℕ → FairnessGroupId → Except Status Unit
  | 0, _ => .error ⟨.groupDepthExceeded, "group nesting exceeds kMaxGroupDepth"⟩
  | steps + 1, cursor =>
    match policy.findGroup cursor with
    | none => .error ⟨.notFound, "group parent chain references an unknown group"⟩
    | some group =>
      if group.parent.valid then walkToRoot policy steps group.parent else .ok ()

/-- The checks on the subject records, in order; `seen` holds the ids already met. -/
def validateSubjects (policy : FairnessPolicy) :
    List Subject → List SubjectId → Except Status Unit
  | [], _ => .ok ()
  | subject :: rest, seen => do
    rejectIf (¬ subject.id.valid) .policyInvalid "subject id must be non-zero"
    rejectIf (¬ subject.generation.valid) .policyInvalid "subject generation must be >= 1"
    rejectIf (subject.id ∈ seen) .alreadyExists "duplicate subject id"
    rejectIf (¬ subject.group.valid) .policyInvalid "subject must reference a fairness group"
    rejectIf ((policy.findGroup subject.group).isNone) .notFound
      "subject references an unknown fairness group"
    rejectIf (subject.shareWeight = 0 ∨ subject.shareWeight.toNat > kMaxShareWeight) .outOfRange
      "subject share weight out of range"
    rejectIf (subject.guaranteeFloor.toNat > kMaxServiceUnits) .outOfRange
      "subject guarantee floor exceeds kMaxServiceUnits"
    rejectIf (subject.starvationWindows > 1000000 ∨ subject.guaranteeStarvationWindows > 1000000)
      .outOfRange "starvation thresholds are implausible"
    rejectIf (¬ subject.priority.consistent) .policyInvalid
      "priority reference id/generation disagree"
    rejectIf (¬ subject.qos.consistent) .policyInvalid "QoS reference id/generation disagree"
    rejectIf (subject.protectedObligation ∧ subject.obligationRank = 0) .policyInvalid
      "a protected obligation requires a non-zero obligation rank"
    rejectIf (subject.priorityModifierBps.toInt.natAbs > policy.maxPriorityModifierBps.toNat)
      .outOfRange "subject priority modifier exceeds the policy bound"
    rejectIf (subject.priorityModifierBps.toInt.natAbs > kMaxPriorityModifierBps) .outOfRange
      "subject priority modifier exceeds the hard bound"
    rejectIf (subject.maxReduceUnits.toNat > kMaxServiceUnits) .outOfRange
      "subject reduce cap exceeds kMaxServiceUnits"
    rejectIf (subject.maxAugmentUnits.toNat > kMaxServiceUnits) .outOfRange
      "subject augment cap exceeds kMaxServiceUnits"
    rejectIf (subject.label.length > kMaxLabelBytes) .limitExceeded "subject label is too long"
    validateSubjects policy rest (subject.id :: seen)

/-- The direct child groups of a group, in policy order. -/
def FairnessPolicy.childGroups (policy : FairnessPolicy) (group : FairnessGroupId) :
    List FairnessGroup :=
  policy.groups.filter fun child => child.parent = group

/-- The direct subjects of a group, in policy order. -/
def FairnessPolicy.childSubjects (policy : FairnessPolicy) (group : FairnessGroupId) :
    List Subject :=
  policy.subjects.filter fun subject => subject.group = group

/-- The weight sums of one group fit the bounded domain, and it governs some weight. -/
def validateWeights (policy : FairnessPolicy) (group : FairnessGroup) : Except Status Unit := do
  rejectIf ((checkedTotal ((policy.childGroups group.id).map (·.shareWeight.toNat)) 0).isNone)
    .arithmeticOverflow "child group weight sum overflows"
  rejectIf (groupSubjectWeightSum policy group.id = 0) .policyInvalid
    "a group has no governed weight"
  rejectIf ((checkedTotal ((policy.childSubjects group.id).map (·.shareWeight.toNat)) 0).isNone)
    .arithmeticOverflow "subject weight sum overflows"

/-- A group that declares a floor can honour the floors of its direct children. -/
def validateFloor (policy : FairnessPolicy) (group : FairnessGroup) : Except Status Unit :=
  if group.guaranteeFloor = 0 then .ok ()
  else
    let floors := (policy.childGroups group.id).map (·.guaranteeFloor.toNat) ++
      (policy.childSubjects group.id).map (·.guaranteeFloor.toNat)
    match checkedTotal floors 0 with
    | none => .error ⟨.arithmeticOverflow, "child floor sum overflows"⟩
    | some childFloors =>
      rejectIf (childFloors > group.guaranteeFloor.toNat) .policyOvercommit
        "group guarantee floor is below the sum of its children's floors"

/-- `validate_policy`. -/
def validatePolicy (policy : FairnessPolicy) : Except Status Unit := do
  rejectIf (¬ policy.id.valid) .policyInvalid "policy id must be non-zero"
  rejectIf (¬ policy.generation.valid) .policyInvalid "policy generation must be >= 1"
  rejectIf (¬ policy.epoch.valid) .policyInvalid "policy epoch must be >= 1"
  rejectIf (policy.groups.length > kMaxGroups) .limitExceeded "group count exceeds kMaxGroups"
  rejectIf (policy.subjects = []) .policyInvalid "policy must declare at least one subject"
  rejectIf (policy.subjects.length > kMaxSubjects) .limitExceeded
    "subject count exceeds kMaxSubjects"
  rejectIf (policy.fairBandUnits.toNat > kMaxServiceUnits) .outOfRange
    "fair band exceeds kMaxServiceUnits"
  rejectIf (policy.correctionThresholdUnits.toNat > kMaxServiceUnits) .outOfRange
    "correction threshold exceeds kMaxServiceUnits"
  rejectIf (policy.correctionThresholdUnits < policy.fairBandUnits) .policyInvalid
    "correction threshold must be at least the fair band (hysteresis)"
  rejectIf (policy.maxCorrectionUnits.toNat > kMaxServiceUnits * kMaxSubjects) .outOfRange
    "max correction units exceeds the bounded domain"
  rejectIf (policy.maxCorrectionBps > 100000) .outOfRange
    "max correction basis points exceeds 100000"
  rejectIf (policy.maxPriorityModifierBps.toNat > kMaxPriorityModifierBps) .outOfRange
    "max priority modifier exceeds kMaxPriorityModifierBps"
  rejectIf (policy.maxEvidenceAgeWindows = 0) .policyInvalid
    "max evidence age in windows must be >= 1"
  rejectIf (policy.maxEvidenceAgeWindows > 1000000) .outOfRange
    "max evidence age in windows is implausible"
  rejectIf (policy.maxCarryUnits.toNat > kMaxCarryUnits) .outOfRange
    "max carry units exceeds kMaxCarryUnits"
  rejectIf (policy.provenance.source.length > kMaxLabelBytes) .limitExceeded
    "policy provenance source is too long"
  validateGroups policy.groups []
  forEach (validateParent policy) policy.groups
  forEach (fun group => walkToRoot policy kMaxGroupDepth group.id) policy.groups
  validateSubjects policy policy.subjects []
  forEach (validateWeights policy) policy.groups
  forEach (validateFloor policy) policy.groups

/-! ## What a validated policy satisfies -/

/-- A group record that passed its checks. -/
structure ValidGroup (group : FairnessGroup) : Prop where
  id_valid : group.id.valid
  generation_valid : group.generation.valid
  weight_pos : 0 < group.shareWeight.toNat
  weight_le : group.shareWeight.toNat ≤ kMaxShareWeight
  floor_le : group.guaranteeFloor.toNat ≤ kMaxServiceUnits
  protected_rank : group.protectedObligation = true → group.obligationRank ≠ 0
  label_le : group.label.length ≤ kMaxLabelBytes

/-- A subject record that passed its checks. -/
structure ValidSubject (policy : FairnessPolicy) (subject : Subject) : Prop where
  id_valid : subject.id.valid
  generation_valid : subject.generation.valid
  group_found : (policy.findGroup subject.group).isSome
  weight_pos : 0 < subject.shareWeight.toNat
  weight_le : subject.shareWeight.toNat ≤ kMaxShareWeight
  floor_le : subject.guaranteeFloor.toNat ≤ kMaxServiceUnits
  starvation_le : subject.starvationWindows ≤ 1000000
  guaranteeStarvation_le : subject.guaranteeStarvationWindows ≤ 1000000
  priority_consistent : subject.priority.consistent
  qos_consistent : subject.qos.consistent
  protected_rank : subject.protectedObligation = true → subject.obligationRank ≠ 0
  modifier_le_policy :
    subject.priorityModifierBps.toInt.natAbs ≤ policy.maxPriorityModifierBps.toNat
  modifier_le : subject.priorityModifierBps.toInt.natAbs ≤ kMaxPriorityModifierBps
  maxReduce_le : subject.maxReduceUnits.toNat ≤ kMaxServiceUnits
  maxAugment_le : subject.maxAugmentUnits.toNat ≤ kMaxServiceUnits
  label_le : subject.label.length ≤ kMaxLabelBytes

/-- What the validator establishes, in the form the evaluator uses it. -/
structure ValidPolicy (policy : FairnessPolicy) : Prop where
  id_valid : policy.id.valid
  generation_valid : policy.generation.valid
  epoch_valid : policy.epoch.valid
  groups_le : policy.groups.length ≤ kMaxGroups
  subjects_ne : policy.subjects ≠ []
  subjects_le : policy.subjects.length ≤ kMaxSubjects
  fairBand_le : policy.fairBandUnits.toNat ≤ kMaxServiceUnits
  threshold_le : policy.correctionThresholdUnits.toNat ≤ kMaxServiceUnits
  fairBand_le_threshold : policy.fairBandUnits ≤ policy.correctionThresholdUnits
  maxCorrection_le : policy.maxCorrectionUnits.toNat ≤ kMaxServiceUnits * kMaxSubjects
  maxCorrectionBps_le : policy.maxCorrectionBps ≤ 100000
  maxModifier_le : policy.maxPriorityModifierBps.toNat ≤ kMaxPriorityModifierBps
  maxAge_pos : policy.maxEvidenceAgeWindows ≠ 0
  maxCarry_le : policy.maxCarryUnits.toNat ≤ kMaxCarryUnits
  source_le : policy.provenance.source.length ≤ kMaxLabelBytes
  group_valid : ∀ group ∈ policy.groups, ValidGroup group
  groupIds_nodup : (policy.groups.map (·.id)).Nodup
  parent_found : ∀ group ∈ policy.groups, group.parent.valid →
    (policy.findGroup group.parent).isSome
  depth_ok : ∀ group ∈ policy.groups, walkToRoot policy kMaxGroupDepth group.id = .ok ()
  subject_valid : ∀ subject ∈ policy.subjects, ValidSubject policy subject
  subjectIds_nodup : (policy.subjects.map (·.id)).Nodup
  governed : ∀ group ∈ policy.groups, groupSubjectWeightSum policy group.id ≠ 0

/-- One step of a loop that rejects the key of an element it has already seen: the keys stay
distinct, and none of them had been seen before the loop began. -/
lemma unseen_cons {α β : Type} {key : α → β} {a : α} {rest : List α} {seen : List β}
    (hseen : key a ∉ seen) (hnodup : (rest.map key).Nodup)
    (hfresh : ∀ b ∈ rest, key b ∉ key a :: seen) :
    ((a :: rest).map key).Nodup ∧ ∀ b ∈ a :: rest, key b ∉ seen := by
  constructor
  · rw [List.map_cons, List.nodup_cons]
    refine ⟨fun hmem => ?_, hnodup⟩
    obtain ⟨b, hb, hkey⟩ := List.mem_map.mp hmem
    exact hfresh b hb (by rw [hkey]; exact List.mem_cons_self)
  · rintro b (_ | ⟨_, hb⟩)
    · exact hseen
    · exact fun hmem => hfresh b hb (List.mem_cons_of_mem _ hmem)

lemma validateGroups_eq_ok {groups : List FairnessGroup} {seen : List FairnessGroupId}
    (h : validateGroups groups seen = .ok ()) :
    (∀ group ∈ groups, ValidGroup group) ∧ (groups.map (·.id)).Nodup ∧
      ∀ group ∈ groups, group.id ∉ seen := by
  induction groups generalizing seen with
  | nil => simp
  | cons group rest ih =>
    simp only [validateGroups, rejectIf_bind_eq_ok, not_not, not_or, not_and, not_lt] at h
    obtain ⟨hid, hgen, hseen, ⟨hw0, hw⟩, hfloor, hprot, hlabel, hrest⟩ := h
    obtain ⟨hvalid, hnodup, hfresh⟩ := ih hrest
    have hpos : 0 < group.shareWeight.toNat := by
      rw [Nat.pos_iff_ne_zero]
      exact fun h0 => hw0 (UInt32.toNat_inj.mp h0)
    refine ⟨?_, unseen_cons hseen hnodup hfresh⟩
    rintro g (_ | ⟨_, hg⟩)
    · exact ⟨hid, hgen, hpos, hw, hfloor, hprot, hlabel⟩
    · exact hvalid g hg

lemma validateSubjects_eq_ok {policy : FairnessPolicy} {subjects : List Subject}
    {seen : List SubjectId} (h : validateSubjects policy subjects seen = .ok ()) :
    (∀ subject ∈ subjects, ValidSubject policy subject) ∧ (subjects.map (·.id)).Nodup ∧
      ∀ subject ∈ subjects, subject.id ∉ seen := by
  induction subjects generalizing seen with
  | nil => simp
  | cons subject rest ih =>
    simp only [validateSubjects, rejectIf_bind_eq_ok, not_not, not_or, not_and, not_lt] at h
    obtain ⟨hid, hgen, hseen, -, hgroup, ⟨hw0, hw⟩, hfloor, ⟨hst, hgst⟩, hprio, hqos, hprot,
      hmodp, hmod, hred, haug, hlabel, hrest⟩ := h
    obtain ⟨hvalid, hnodup, hfresh⟩ := ih hrest
    have hpos : 0 < subject.shareWeight.toNat := by
      rw [Nat.pos_iff_ne_zero]
      exact fun h0 => hw0 (UInt32.toNat_inj.mp h0)
    have hfound : (policy.findGroup subject.group).isSome := by
      rw [Option.isSome_iff_ne_none]
      exact fun hnone => hgroup (by rw [hnone]; rfl)
    refine ⟨?_, unseen_cons hseen hnodup hfresh⟩
    rintro s (_ | ⟨_, hs⟩)
    · exact ⟨hid, hgen, hfound, hpos, hw, hfloor, UInt32.not_lt.mp hst, UInt32.not_lt.mp hgst,
        hprio, hqos, hprot, hmodp, hmod, hred, haug, hlabel⟩
    · exact hvalid s hs

/-- What an accepted policy satisfies. -/
theorem ValidPolicy.of_ok {policy : FairnessPolicy} (h : validatePolicy policy = .ok ()) :
    ValidPolicy policy := by
  simp only [validatePolicy, bind_unit_eq_ok, rejectIf_eq_ok, forEach_eq_ok, not_not,
    not_lt] at h
  obtain ⟨hid, hgen, hepoch, hgroups, hne, hsubjects, hband, hthr, hhyst, hcorr, hbps, hmod,
    hage0, -, hcarry, hsource, hgv, hparent, hdepth, hsv, hweights, -⟩ := h
  obtain ⟨hgvalid, hgnodup, -⟩ := validateGroups_eq_ok hgv
  obtain ⟨hsvalid, hsnodup, -⟩ := validateSubjects_eq_ok hsv
  refine ⟨hid, hgen, hepoch, hgroups, hne, hsubjects, hband, hthr, UInt64.not_lt.mp hhyst, hcorr,
    UInt32.not_lt.mp hbps, hmod, hage0, hcarry, hsource, hgvalid, hgnodup, ?_, hdepth, hsvalid,
    hsnodup, ?_⟩
  · intro group hg hp
    have := hparent group hg
    simp only [validateParent, rejectIf_bind_eq_ok, not_and] at this
    rw [Option.isSome_iff_ne_none]
    exact fun hnone => this.1 hp (by rw [hnone]; rfl)
  · intro group hg
    have := hweights group hg
    simp only [validateWeights, rejectIf_bind_eq_ok] at this
    exact this.2.1

end FairnessGovernor
