/-
# The group tree of a validated policy

On a validated policy `build` succeeds, and the tree it returns is a forest: the child lists
are those of the parent map, and no group is deeper than `kMaxGroupDepth`.
-/
import FairnessGovernor.Eval.Distributor

namespace FairnessGovernor

open Forest

variable {policy : FairnessPolicy}

/-! ## Looking a group up -/

lemma byId_eq_some {id : FairnessGroupId} {i : GroupIndex policy}
    (h : byId policy id = some i) : (groupAt policy i).id = id := by
  simpa using List.find?_some h

lemma groupAt_mem (i : GroupIndex policy) : groupAt policy i ∈ policy.groups := List.get_mem _ _

lemma subjectAt_mem (s : SubjectIndex policy) : subjectAt policy s ∈ policy.subjects :=
  List.get_mem _ _

lemma exists_groupAt {group : FairnessGroup} (h : group ∈ policy.groups) :
    ∃ i, groupAt policy i = group := by
  obtain ⟨i, hi⟩ := List.get_of_mem h
  exact ⟨i, hi⟩

lemma exists_subjectAt {subject : Subject} (h : subject ∈ policy.subjects) :
    ∃ s, subjectAt policy s = subject := by
  obtain ⟨s, hs⟩ := List.get_of_mem h
  exact ⟨s, hs⟩

/-- A group id that some group carries is found. -/
lemma byId_isSome {id : FairnessGroupId} (h : (policy.findGroup id).isSome) :
    ∃ i, byId policy id = some i := by
  obtain ⟨group, hgroup⟩ := Option.isSome_iff_exists.mp h
  obtain ⟨i, hi⟩ := exists_groupAt (List.mem_of_find?_eq_some hgroup)
  rw [← Option.isSome_iff_exists, byId, List.find?_isSome]
  have hid : group.id = id := by simpa using List.find?_some hgroup
  exact ⟨i, List.mem_finRange i, by simpa [hi] using hid⟩

namespace ValidPolicy

variable (hp : ValidPolicy policy)

include hp

lemma groupAt_injective {i j : GroupIndex policy}
    (h : (groupAt policy i).id = (groupAt policy j).id) : i = j := by
  have hgroup := List.inj_on_of_nodup_map hp.groupIds_nodup (groupAt_mem i) (groupAt_mem j) h
  exact List.nodup_iff_injective_get.mp (List.Nodup.of_map _ hp.groupIds_nodup) hgroup

lemma subjectAt_injective {s t : SubjectIndex policy}
    (h : (subjectAt policy s).id = (subjectAt policy t).id) : s = t := by
  have hsubject := List.inj_on_of_nodup_map hp.subjectIds_nodup (subjectAt_mem s)
    (subjectAt_mem t) h
  exact List.nodup_iff_injective_get.mp (List.Nodup.of_map _ hp.subjectIds_nodup) hsubject

/-- A subject is found under its own identity. -/
lemma findSubject_subjectAt (s : SubjectIndex policy) :
    policy.findSubject (subjectAt policy s).id = some (subjectAt policy s) := by
  have hsome : (policy.findSubject (subjectAt policy s).id).isSome := by
    rw [FairnessPolicy.findSubject, List.find?_isSome]
    exact ⟨_, subjectAt_mem s, by simp⟩
  obtain ⟨subject, hsubject⟩ := Option.isSome_iff_exists.mp hsome
  obtain ⟨t, rfl⟩ := exists_subjectAt (List.mem_of_find?_eq_some hsubject)
  have hid : (subjectAt policy t).id = (subjectAt policy s).id := by
    simpa using List.find?_some hsubject
  rw [hsubject, hp.subjectAt_injective hid]

lemma byId_groupAt (i : GroupIndex policy) : byId policy (groupAt policy i).id = some i := by
  have hsome : (byId policy (groupAt policy i).id).isSome := by
    rw [byId, List.find?_isSome]
    exact ⟨i, List.mem_finRange i, by simp⟩
  obtain ⟨j, hj⟩ := Option.isSome_iff_exists.mp hsome
  rw [hj, hp.groupAt_injective (byId_eq_some hj)]

lemma byId_iff {id : FairnessGroupId} {i : GroupIndex policy} :
    byId policy id = some i ↔ id = (groupAt policy i).id :=
  ⟨fun h => (byId_eq_some h).symm, fun h => h ▸ hp.byId_groupAt i⟩

lemma findGroup_groupAt (i : GroupIndex policy) :
    policy.findGroup (groupAt policy i).id = some (groupAt policy i) := by
  have hsome : (policy.findGroup (groupAt policy i).id).isSome := by
    rw [FairnessPolicy.findGroup, List.find?_isSome]
    exact ⟨_, groupAt_mem i, by simp⟩
  obtain ⟨group, hgroup⟩ := Option.isSome_iff_exists.mp hsome
  obtain ⟨j, rfl⟩ := exists_groupAt (List.mem_of_find?_eq_some hgroup)
  have hid : (groupAt policy j).id = (groupAt policy i).id := by
    simpa using List.find?_some hgroup
  rw [hgroup, hp.groupAt_injective hid]

/-- The parent map, in terms of the policy. -/
lemma parentOf_iff {i p : GroupIndex policy} :
    parentOf policy i = some p ↔ (groupAt policy i).parent = (groupAt policy p).id := by
  unfold parentOf
  split_ifs with h
  · exact hp.byId_iff
  · simp only [false_iff]
    intro heq
    rw [heq] at h
    exact h (hp.group_valid _ (groupAt_mem p)).id_valid

lemma parentOf_eq_none {i : GroupIndex policy} :
    parentOf policy i = none ↔ ¬ (groupAt policy i).parent.valid := by
  unfold parentOf
  split_ifs with h
  · obtain ⟨j, hj⟩ := byId_isSome (hp.parent_found _ (groupAt_mem i) h)
    simp [hj, h]
  · simp [h]

lemma groupOf (s : SubjectIndex policy) :
    ∃ i, byId policy (subjectAt policy s).group = some i :=
  byId_isSome (hp.subject_valid _ (subjectAt_mem s)).group_found

/-- The walk that counts depths goes as far as the validator's walk went. -/
lemma groupDepth_ok (depth : ℕ) {steps : ℕ} {i : GroupIndex policy}
    (h : walkToRoot policy steps (groupAt policy i).id = .ok ()) :
    ∃ d, groupDepth policy (parentOf policy) steps depth i = .ok d := by
  induction steps generalizing i depth with
  | zero => simp [walkToRoot] at h
  | succ steps ih =>
    rw [walkToRoot, hp.findGroup_groupAt i] at h
    rw [groupDepth]
    cases hparent : parentOf policy i with
    | none => exact ⟨depth, rfl⟩
    | some p =>
      have hid := hp.parentOf_iff.mp hparent
      have hvalid : (groupAt policy i).parent.valid := by
        by_contra hnot
        rw [hp.parentOf_eq_none.mpr hnot] at hparent
        cases hparent
      simp only [hvalid, if_true] at h
      rw [hid] at h
      exact ih _ h

end ValidPolicy

/-! ## Depths -/

lemma groupDepth_bounds {parentNode : GroupIndex policy → Option (GroupIndex policy)}
    {steps depth d : ℕ} {i : GroupIndex policy}
    (h : groupDepth policy parentNode steps depth i = .ok d) : depth ≤ d ∧ d < depth + steps := by
  induction steps generalizing i depth with
  | zero => simp [groupDepth] at h
  | succ steps ih =>
    rw [groupDepth] at h
    cases hparent : parentNode i with
    | none =>
      rw [hparent] at h
      obtain rfl := Except.ok.inj h
      omega
    | some p =>
      rw [hparent] at h
      have := ih h
      omega

/-- Counting from one less, with a step more, gives one less. -/
lemma groupDepth_shift {parentNode : GroupIndex policy → Option (GroupIndex policy)}
    {steps depth d : ℕ} {i : GroupIndex policy}
    (h : groupDepth policy parentNode steps (depth + 1) i = .ok d) :
    ∃ d', d = d' + 1 ∧ groupDepth policy parentNode (steps + 1) depth i = .ok d' := by
  induction steps generalizing i depth with
  | zero => simp [groupDepth] at h
  | succ steps ih =>
    rw [groupDepth] at h
    rw [groupDepth]
    cases hparent : parentNode i with
    | none =>
      rw [hparent] at h
      obtain rfl := Except.ok.inj h
      exact ⟨depth, rfl, rfl⟩
    | some p =>
      rw [hparent] at h
      exact ih h

/-- A walk that ends, ends at a root. -/
lemma groupDepth_root {parentNode : GroupIndex policy → Option (GroupIndex policy)}
    {steps depth d : ℕ} {i : GroupIndex policy}
    (h : groupDepth policy parentNode steps depth i = .ok d) : ∃ r, parentNode r = none := by
  induction steps generalizing i depth with
  | zero => simp [groupDepth] at h
  | succ steps ih =>
    rw [groupDepth] at h
    cases hparent : parentNode i with
    | none => exact ⟨i, hparent⟩
    | some p =>
      rw [hparent] at h
      exact ih h

/-! ## The tree -/

/-- What `build` returns, field by field. -/
structure IsTreeOf (tree : GroupTree policy) : Prop where
  parentNode_eq : tree.parentNode = parentOf policy
  depth_eq : ∀ i, groupDepth policy (parentOf policy) kMaxGroupDepth 1 i = .ok (tree.depth i)
  childGroups_eq : tree.childGroups = fun i =>
    (List.finRange _).filter fun c => parentOf policy c = some i
  childSubjects_eq : tree.childSubjects = fun i =>
    (List.finRange _).filter fun s => byId policy (subjectAt policy s).group = some i
  roots_eq : tree.roots = (List.finRange _).filter fun i => parentOf policy i = none

lemma IsTreeOf.of_build {tree : GroupTree policy} (h : build policy = .ok tree) :
    IsTreeOf tree := by
  simp only [build, bind_unit_eq_ok] at h
  obtain ⟨-, -, h⟩ := h
  obtain ⟨depth, hdepth, h⟩ := bind_eq_ok.mp h
  simp only [bind_unit_eq_ok] at h
  obtain ⟨-, -, -, h⟩ := h
  obtain rfl := Except.ok.inj h
  exact ⟨rfl, collect_eq_ok.mp hdepth, rfl, rfl, rfl⟩

namespace IsTreeOf

variable {tree : GroupTree policy} (ht : IsTreeOf tree)

include ht

lemma mem_childGroups {p c : GroupIndex policy} :
    c ∈ tree.childGroups p ↔ parentOf policy c = some p := by
  simp [ht.childGroups_eq]

lemma mem_childSubjects {i : GroupIndex policy} {s : SubjectIndex policy} :
    s ∈ tree.childSubjects i ↔ byId policy (subjectAt policy s).group = some i := by
  simp [ht.childSubjects_eq]

lemma mem_roots {i : GroupIndex policy} : i ∈ tree.roots ↔ parentOf policy i = none := by
  simp [ht.roots_eq]

lemma nodup_childGroups (i : GroupIndex policy) : (tree.childGroups i).Nodup := by
  rw [ht.childGroups_eq]
  exact (List.nodup_finRange _).filter _

lemma nodup_childSubjects (i : GroupIndex policy) : (tree.childSubjects i).Nodup := by
  rw [ht.childSubjects_eq]
  exact (List.nodup_finRange _).filter _

lemma nodup_roots : tree.roots.Nodup := by
  rw [ht.roots_eq]
  exact (List.nodup_finRange _).filter _

/-- A built tree is a forest. -/
theorem isForest : IsForest (parentOf policy) tree.childGroups tree.depth kMaxGroupDepth where
  mem_children := ht.mem_childGroups
  nodup_children := ht.nodup_childGroups
  depth_child := by
    intro p c hp
    have hc := ht.depth_eq c
    rw [show kMaxGroupDepth = 7 + 1 from rfl, groupDepth, hp] at hc
    obtain ⟨d, hd, hshift⟩ := groupDepth_shift hc
    have hpd : groupDepth policy (parentOf policy) (7 + 1) 1 p = .ok (tree.depth p) :=
      ht.depth_eq p
    rw [hshift] at hpd
    rw [hd, Except.ok.inj hpd]
  depth_pos := fun c => (groupDepth_bounds (ht.depth_eq c)).1
  depth_le := fun c => by
    have := (groupDepth_bounds (ht.depth_eq c)).2
    omega

lemma depth_root {i : GroupIndex policy} (h : i ∈ tree.roots) : tree.depth i = 1 := by
  have hd := ht.depth_eq i
  rw [show kMaxGroupDepth = 7 + 1 from rfl, groupDepth, ht.mem_roots.mp h] at hd
  exact (Except.ok.inj hd).symm

lemma childGroups_length (i : GroupIndex policy) :
    (tree.childGroups i).length ≤ policy.groups.length := by
  simpa using (ht.nodup_childGroups i).length_le_card

lemma childSubjects_length (i : GroupIndex policy) :
    (tree.childSubjects i).length ≤ policy.subjects.length := by
  simpa using (ht.nodup_childSubjects i).length_le_card

lemma roots_length : tree.roots.length ≤ policy.groups.length := by
  simpa using ht.nodup_roots.length_le_card

end IsTreeOf

namespace ValidPolicy

variable (hp : ValidPolicy policy)

include hp

/-- Every group directly governs a subject. -/
lemma exists_childSubject (i : GroupIndex policy) :
    ∃ s, byId policy (subjectAt policy s).group = some i := by
  have hgov := hp.governed _ (groupAt_mem i)
  obtain ⟨subject, hmem⟩ : ∃ subject, subject ∈ policy.subjects.filter
      fun subject => subject.group = (groupAt policy i).id := by
    by_contra hnone
    push Not at hnone
    rw [groupSubjectWeightSum, List.eq_nil_iff_forall_not_mem.mpr hnone] at hgov
    exact hgov rfl
  rw [List.mem_filter] at hmem
  obtain ⟨s, rfl⟩ := exists_subjectAt hmem.1
  exact ⟨s, hp.byId_iff.mpr (by simpa using hmem.2)⟩

lemma exists_group : ∃ _ : GroupIndex policy, True := by
  obtain ⟨subject, rest, hcons⟩ := List.exists_cons_of_ne_nil hp.subjects_ne
  have hmem : subject ∈ policy.subjects := by simp [hcons]
  obtain ⟨s, -⟩ := exists_subjectAt hmem
  obtain ⟨i, -⟩ := hp.groupOf s
  exact ⟨i, trivial⟩

lemma indexGroups_ok {groups : List FairnessGroup} {seen : List FairnessGroupId}
    (hvalid : ∀ group ∈ groups, group ∈ policy.groups)
    (hnodup : (groups.map (·.id)).Nodup) (hseen : ∀ group ∈ groups, group.id ∉ seen) :
    indexGroups groups seen = .ok () := by
  induction groups generalizing seen with
  | nil => rfl
  | cons group rest ih =>
    rw [List.map_cons, List.nodup_cons] at hnodup
    simp only [indexGroups, rejectIf_bind_eq_ok, not_not]
    refine ⟨(hp.group_valid _ (hvalid group (by simp))).id_valid, hseen group (by simp),
      ih (fun g hg => hvalid g (by simp [hg])) hnodup.2 fun g hg => ?_⟩
    rw [List.mem_cons, not_or]
    exact ⟨fun h => hnodup.1 (List.mem_map.mpr ⟨g, hg, h⟩), hseen g (by simp [hg])⟩

/-- `build` succeeds. -/
theorem build_ok : ∃ tree, build policy = .ok tree ∧ IsTreeOf tree := by
  obtain ⟨depth, hdepth⟩ : ∃ depth, collect (fun i =>
      groupDepth policy (parentOf policy) kMaxGroupDepth 1 i) = .ok depth := by
    have hok := fun i => hp.groupDepth_ok 1 (hp.depth_ok _ (groupAt_mem i))
    choose depth hd using hok
    exact ⟨depth, collect_eq_ok.mpr hd⟩
  obtain ⟨i₀, -⟩ := hp.exists_group
  have hgroups : policy.groups ≠ [] := List.ne_nil_of_mem (groupAt_mem i₀)
  -- every check of `build` is one that the validator has made
  have hparents : forEach (fun group => rejectIf (group.parent.valid ∧
      (byId policy group.parent).isNone) .notFound "group parent does not exist")
      policy.groups = .ok () := by
    rw [forEach_eq_ok]
    intro group hgroup
    rw [rejectIf_eq_ok]
    rintro ⟨hvalid, hnone⟩
    obtain ⟨j, hj⟩ := byId_isSome (hp.parent_found group hgroup hvalid)
    simp [hj] at hnone
  have hsubjects : forEach (fun subject => rejectIf (byId policy subject.group).isNone .notFound
      "subject references an unknown fairness group") policy.subjects = .ok () := by
    rw [forEach_eq_ok]
    intro subject hsubject
    rw [rejectIf_eq_ok]
    intro hnone
    obtain ⟨j, hj⟩ := byId_isSome (hp.subject_valid subject hsubject).group_found
    simp [hj] at hnone
  have hroots : (List.finRange _).filter (fun i => parentOf policy i = none) ≠ [] := by
    obtain ⟨r, hr⟩ := groupDepth_root (collect_eq_ok.mp hdepth i₀)
    exact List.ne_nil_of_mem (List.mem_filter.mpr ⟨List.mem_finRange r, by simpa using hr⟩)
  have hindex : indexGroups policy.groups [] = .ok () :=
    hp.indexGroups_ok (fun g hg => hg) hp.groupIds_nodup (by simp)
  have hpass : ∀ {c : Prop} [Decidable c] (code detail), ¬ c → rejectIf c code detail = .ok () :=
    fun _ _ hc => rejectIf_eq_ok.mpr hc
  have hbuild : ∃ tree, build policy = .ok tree := by
    simp only [build, hindex, hparents, hdepth, hsubjects, ok_bind, hpass _ _ hgroups,
      hpass _ _ hroots]
    exact ⟨_, rfl⟩
  obtain ⟨tree, htree⟩ := hbuild
  exact ⟨tree, htree, IsTreeOf.of_build htree⟩

end ValidPolicy

end FairnessGovernor
