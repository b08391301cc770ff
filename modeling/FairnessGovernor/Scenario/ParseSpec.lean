/-
# What a line of a scenario declares

`Declares` says what a line writes of an element: its identity, its generation and its
attributes.  `Handled` is the one inversion lemma of the parser: it says for each directive what
an accepted line makes of the scenario.
-/
import FairnessGovernor.Scenario.Parse

namespace FairnessGovernor

/-! ## Directives -/

/-- The directives of the format. -/
inductive Directive
  | version | epoch | policy | group | subject | evidence | obs | request
deriving DecidableEq

/-- The word a directive is written as. -/
def Directive.text : Directive → String
  | .version => "version"
  | .epoch => "epoch"
  | .policy => "policy"
  | .group => "group"
  | .subject => "subject"
  | .evidence => "evidence"
  | .obs => "obs"
  | .request => "request"

lemma Directive.text_injective {d e : Directive} (h : ascii d.text = ascii e.text) : d = e := by
  cases d <;> cases e <;> first | rfl | exact absurd h (by decide)

/-- A line starts with the word of a directive. -/
def Line.is (line : Line) (d : Directive) : Bool := line.tokens.head? = some (ascii d.text)

/-- The lines of a directive. -/
def linesFor (d : Directive) (lines : List Line) : List Line := lines.filter (·.is d)

/-- The attributes of a line. -/
def Line.attributes (line : Line) : List ByteBuffer :=
  if line.is .version || line.is .epoch then []
  else if line.is .request then line.tokens.drop 1
  else line.tokens.drop 3

/-- The number at a position of a line. -/
def Line.numberAt (line : Line) (position : ℕ) : Option UInt64 :=
  line.tokens[position]?.bind parseU64

section Lines

variable {lines : List Line} {line : Line} {d e : Directive}

lemma Line.is_iff : line.is d = true ↔ line.tokens.head? = some (ascii d.text) := decide_eq_true_iff

/-- A line is of one directive. -/
lemma Line.is_unique (hd : line.is d = true) (he : line.is e = true) : d = e :=
  Directive.text_injective
    (Option.some.inj ((Line.is_iff.mp hd).symm.trans (Line.is_iff.mp he)))

lemma Line.is_eq_false (hd : line.is d = true) (hne : d ≠ e) : line.is e = false :=
  Bool.eq_false_of_not_eq_true fun he => hne (Line.is_unique hd he)

lemma mem_linesFor : line ∈ linesFor d lines ↔ line ∈ lines ∧ line.is d = true := List.mem_filter

lemma linesFor_self (hd : line.is d = true) :
    linesFor d (lines ++ [line]) = linesFor d lines ++ [line] := by
  simp [linesFor, hd]

lemma linesFor_other (hd : line.is d = true) (hne : d ≠ e) :
    linesFor e (lines ++ [line]) = linesFor e lines := by
  simp [linesFor, Line.is_eq_false hd hne]

end Lines

/-! ## Elements -/

/-- A line writes an identity, a generation, and attributes that are in the element. -/
structure Declares {α : Type} (table : AttributeTable α) (line : Line) (id generation : UInt64)
    (x : α) : Prop where
  id : line.numberAt 1 = some id
  generation : line.numberAt 2 = some generation
  attributes : Keeps table (line.tokens.drop 3) x

/-- A `group` line and the group it declares. -/
structure GroupOf (line : Line) (group : FairnessGroup) : Prop where
  declares : Declares groupAttributes line group.id.value group.generation.value group
  label : line.hasLabel = true → group.label = line.label

/-- A `subject` line and the subject it declares. -/
structure SubjectOf (line : Line) (subject : Subject) : Prop where
  declares : Declares subjectAttributes line subject.id.value subject.generation.value subject
  label : line.hasLabel = true → subject.label = line.label

/-- An `obs` line and the observation it declares. -/
def ObservationOf (line : Line) (observation : SubjectObservation) : Prop :=
  Declares obsAttributes line observation.id.value observation.generation.value observation

/-- An `evidence` line with the `obs` lines of its block, and the snapshot they declare. -/
structure SnapshotOf (block : Line × List Line) (snapshot : EvidenceSnapshot) : Prop where
  declares : Declares evidenceAttributes block.1 snapshot.id.value snapshot.generation.value snapshot
  observations : List.Forall₂ ObservationOf block.2 snapshot.observations

/-- A `policy` line and the policy it declares. -/
def PolicyOf (line : Line) (policy : FairnessPolicy) : Prop :=
  Declares policyAttributes line policy.id.value policy.generation.value policy

/-! ## Fields that no attribute writes -/

section Frames

variable {α β : Type} {table : AttributeTable α} {tokens : List ByteBuffer} {x y : α}

lemma Reads.frame {f : α → β} (h : Reads table tokens x y)
    (hf : ∀ a ∈ table.attributes, ∀ value x, f (a.set value x) = f x) : f y = f x := by
  induction h with
  | nil => rfl
  | cons _ ha _ _ _ ih => rw [ih, hf _ ha]

lemma Keeps.congr (h : Keeps table tokens x)
    (hget : ∀ a ∈ table.attributes, a.get y = a.get x) : Keeps table tokens y := by
  intro token htoken
  obtain ⟨parts, hparts, a, ha, hkey, hparse⟩ := h token htoken
  exact ⟨parts, hparts, a, ha, hkey, by rw [hget a ha]; exact hparse⟩

lemma Declares.congr {line : Line} {id generation : UInt64} (h : Declares table line id generation x)
    (hget : ∀ a ∈ table.attributes, a.get y = a.get x) : Declares table line id generation y :=
  ⟨h.id, h.generation, h.attributes.congr hget⟩

end Frames

/-- The fields of a policy that its attributes leave alone. -/
def FairnessPolicy.frame (policy : FairnessPolicy) :=
  (policy.id, policy.generation, policy.epoch, policy.groups, policy.subjects)

lemma policyAttributes_set : ∀ a ∈ policyAttributes.attributes, ∀ value policy,
    (a.set value policy).frame = policy.frame := by
  repeat' first
    | exact List.forall_mem_nil _
    | refine List.forall_mem_cons.mpr ⟨fun _ _ => rfl, ?_⟩

lemma policyAttributes_get (policy : FairnessPolicy) (id : FairnessPolicyId)
    (generation : FairnessPolicyGeneration) (epoch : FabricEpoch) (groups : List FairnessGroup)
    (subjects : List Subject) : ∀ a ∈ policyAttributes.attributes,
    a.get { policy with
      id := id, generation := generation, epoch := epoch, groups := groups
      subjects := subjects } = a.get policy := by
  repeat' first
    | exact List.forall_mem_nil _
    | refine List.forall_mem_cons.mpr ⟨rfl, ?_⟩

lemma groupAttributes_set : ∀ a ∈ groupAttributes.attributes, ∀ value group,
    ((a.set value group).id.value, (a.set value group).generation.value) =
      (group.id.value, group.generation.value) := by
  repeat' first
    | exact List.forall_mem_nil _
    | refine List.forall_mem_cons.mpr ⟨fun _ _ => rfl, ?_⟩

lemma groupAttributes_get (group : FairnessGroup) (label : ByteBuffer) :
    ∀ a ∈ groupAttributes.attributes, a.get { group with label := label } = a.get group := by
  repeat' first
    | exact List.forall_mem_nil _
    | refine List.forall_mem_cons.mpr ⟨rfl, ?_⟩

lemma subjectAttributes_set : ∀ a ∈ subjectAttributes.attributes, ∀ value subject,
    ((a.set value subject).id.value, (a.set value subject).generation.value) =
      (subject.id.value, subject.generation.value) := by
  repeat' first
    | exact List.forall_mem_nil _
    | refine List.forall_mem_cons.mpr ⟨fun _ _ => rfl, ?_⟩

lemma subjectAttributes_get (subject : Subject) (label : ByteBuffer) :
    ∀ a ∈ subjectAttributes.attributes, a.get { subject with label := label } = a.get subject := by
  repeat' first
    | exact List.forall_mem_nil _
    | refine List.forall_mem_cons.mpr ⟨rfl, ?_⟩

lemma evidenceAttributes_set : ∀ a ∈ evidenceAttributes.attributes, ∀ value snapshot,
    ((a.set value snapshot).id.value, (a.set value snapshot).generation.value) =
      (snapshot.id.value, snapshot.generation.value) := by
  repeat' first
    | exact List.forall_mem_nil _
    | refine List.forall_mem_cons.mpr ⟨fun _ _ => rfl, ?_⟩

lemma evidenceAttributes_observations : ∀ a ∈ evidenceAttributes.attributes, ∀ value snapshot,
    (a.set value snapshot).observations = snapshot.observations := by
  repeat' first
    | exact List.forall_mem_nil _
    | refine List.forall_mem_cons.mpr ⟨fun _ _ => rfl, ?_⟩

lemma evidenceAttributes_get (snapshot : EvidenceSnapshot) (observations : List SubjectObservation) :
    ∀ a ∈ evidenceAttributes.attributes,
      a.get { snapshot with observations := observations } = a.get snapshot := by
  repeat' first
    | exact List.forall_mem_nil _
    | refine List.forall_mem_cons.mpr ⟨rfl, ?_⟩

lemma obsAttributes_set : ∀ a ∈ obsAttributes.attributes, ∀ value observation,
    ((a.set value observation).id.value, (a.set value observation).generation.value) =
      (observation.id.value, observation.generation.value) := by
  repeat' first
    | exact List.forall_mem_nil _
    | refine List.forall_mem_cons.mpr ⟨fun _ _ => rfl, ?_⟩

/-! ## The handlers -/

section Handlers

variable {line : Line} {state state' : Parsing} {short numbers : String}

lemma parseIdentity_eq_ok {pair : UInt64 × UInt64}
    (h : parseIdentity short numbers line = .ok pair) :
    line.numberAt 1 = some pair.1 ∧ line.numberAt 2 = some pair.2 := by
  unfold parseIdentity at h
  split at h
  · next htokens =>
    split at h
    · next hid hgeneration =>
      rw [← Except.ok.inj h, Line.numberAt, Line.numberAt, htokens]
      exact ⟨hid, hgeneration⟩
    · cases h
  · cases h

section Elements

variable {α β : Type} {table : AttributeTable α} {make : UInt64 → UInt64 → α} {x : α}

/-- The attributes of an element are read one after another into what its identity made. -/
lemma readElement_eq_ok (h : readElement table short numbers make line = .ok x) :
    ∃ id generation, line.numberAt 1 = some id ∧ line.numberAt 2 = some generation ∧
      Reads table (line.tokens.drop 3) (make id generation) x ∧
      (keysOf (line.tokens.drop 3)).Nodup := by
  obtain ⟨pair, hpair, h⟩ := bind_eq_ok.mp h
  obtain ⟨hid, hgeneration⟩ := parseIdentity_eq_ok hpair
  obtain ⟨hreads, hnodup, -⟩ := readAttributes_eq_ok h
  exact ⟨pair.1, pair.2, hid, hgeneration, hreads, hnodup⟩

/-- An element keeps what its line writes, and no key is written twice. -/
lemma readElement_declares (identity : α → UInt64 × UInt64)
    (h : readElement table short numbers make line = .ok x)
    (hmake : ∀ id generation, identity (make id generation) = (id, generation))
    (hset : ∀ a ∈ table.attributes, ∀ value x, identity (a.set value x) = identity x) :
    Declares table line (identity x).1 (identity x).2 x ∧ (keysOf (line.tokens.drop 3)).Nodup := by
  obtain ⟨id, generation, hid, hgeneration, hreads, hnodup⟩ := readElement_eq_ok h
  have hidentity : identity x = (id, generation) := (hreads.frame hset).trans (hmake _ _)
  rw [hidentity]
  exact ⟨⟨hid, hgeneration, hreads.keeps hnodup⟩, hnodup⟩

/-- A field that no attribute writes is as it was made. -/
lemma readElement_frame {f : α → β} {c : β} (h : readElement table short numbers make line = .ok x)
    (hmake : ∀ id generation, f (make id generation) = c)
    (hset : ∀ a ∈ table.attributes, ∀ value x, f (a.set value x) = f x) : f x = c := by
  obtain ⟨id, generation, -, -, hreads, -⟩ := readElement_eq_ok h
  exact (hreads.frame hset).trans (hmake _ _)

end Elements

/-- What an accepted line of a directive makes of the state. -/
inductive Handled (state : Parsing) (line : Line) : Directive → Parsing → Prop
  | version : Handled state line .version { state with sawVersion := true }
  | epoch {value : UInt64} : line.numberAt 1 = some value →
      Handled state line .epoch { state with
        sawBody := true
        scenario := { state.scenario with epoch := ⟨value⟩ } }
  | policy {id generation : UInt64} {policy : FairnessPolicy} : line.numberAt 1 = some id →
      line.numberAt 2 = some generation →
      Reads policyAttributes (line.tokens.drop 3)
        { state.scenario.policy with id := ⟨id⟩, generation := ⟨generation⟩ } policy →
      Handled state line .policy { state with
        sawBody := true
        scenario := { state.scenario with policy := policy, hasPolicy := true }
        inPolicy := true
        inEvidence := false }
  | group {group : FairnessGroup} : GroupOf line group → (keysOf (line.tokens.drop 3)).Nodup →
      Handled state line .group { state with
        sawBody := true
        scenario := { state.scenario with policy := { state.scenario.policy with
          groups := state.scenario.policy.groups ++ [group] } } }
  | subject {subject : Subject} : SubjectOf line subject → (keysOf (line.tokens.drop 3)).Nodup →
      Handled state line .subject { state with
        sawBody := true
        scenario := { state.scenario with policy := { state.scenario.policy with
          subjects := state.scenario.policy.subjects ++ [subject] } } }
  | evidence {snapshot : EvidenceSnapshot} : SnapshotOf (line, []) snapshot →
      (keysOf (line.tokens.drop 3)).Nodup →
      Handled state line .evidence { state with
        sawBody := true
        scenario := { state.scenario with evidence := state.scenario.evidence ++ [snapshot] }
        inPolicy := false
        inEvidence := true }
  | obs {observation : SubjectObservation} : state.inEvidence = true →
      ObservationOf line observation → (keysOf (line.tokens.drop 3)).Nodup →
      Handled state line .obs { state with
        sawBody := true
        scenario := { state.scenario with evidence := observe observation state.scenario.evidence } }
  | request {request : EvaluationRequest} : Reads requestAttributes (line.tokens.drop 1) {} request →
      (keysOf (line.tokens.drop 1)).Nodup →
      Handled state line .request { state with
        sawBody := true
        scenario := { state.scenario with request := request, hasRequest := true }
        inPolicy := false
        inEvidence := false }

lemma parseVersion_handled (h : parseVersion state line = .ok state') :
    Handled state line .version state' := by
  unfold parseVersion at h
  split_ifs at h
  exact Except.ok.inj h ▸ .version

lemma parseEpoch_handled (h : parseEpoch { state with sawBody := true } line = .ok state') :
    Handled state line .epoch state' := by
  unfold parseEpoch at h
  split_ifs at h with hlength
  split at h
  · cases h
  · next value hvalue =>
    rw [← Except.ok.inj h]
    refine .epoch ?_
    rw [not_not] at hlength
    have hposition : 1 < line.tokens.length := by omega
    rw [Line.numberAt, List.getElem?_eq_getElem hposition, Option.bind_some, ← hvalue]
    simp [List.getD, hposition]

lemma parsePolicy_handled (h : parsePolicy { state with sawBody := true } line = .ok state') :
    Handled state line .policy state' := by
  obtain ⟨pair, hpair, h⟩ := bind_eq_ok.mp h
  obtain ⟨policy, hpolicy, h⟩ := bind_eq_ok.mp h
  obtain ⟨hid, hgeneration⟩ := parseIdentity_eq_ok hpair
  rw [← Except.ok.inj h]
  exact .policy hid hgeneration (readPolicyAttributes_eq_ok hpolicy)

lemma parseGroup_handled (h : parseGroup { state with sawBody := true } line = .ok state') :
    Handled state line .group state' := by
  unfold parseGroup at h
  split at h
  · cases h
  · obtain ⟨group, hgroup, h⟩ := bind_eq_ok.mp h
    obtain ⟨hdeclares, hnodup⟩ := readElement_declares
      (fun group : FairnessGroup => (group.id.value, group.generation.value)) hgroup
      (fun _ _ => rfl) groupAttributes_set
    rw [← Except.ok.inj h]
    refine .group ⟨?_, fun hlabel => by rw [if_pos hlabel]⟩ hnodup
    split_ifs
    · exact hdeclares.congr (groupAttributes_get group line.label)
    · exact hdeclares

lemma parseSubject_handled (h : parseSubject { state with sawBody := true } line = .ok state') :
    Handled state line .subject state' := by
  unfold parseSubject at h
  split at h
  · cases h
  · obtain ⟨subject, hsubject, h⟩ := bind_eq_ok.mp h
    obtain ⟨hdeclares, hnodup⟩ := readElement_declares
      (fun subject : Subject => (subject.id.value, subject.generation.value)) hsubject
      (fun _ _ => rfl) subjectAttributes_set
    rw [← Except.ok.inj h]
    refine .subject ⟨?_, fun hlabel => by rw [if_pos hlabel]⟩ hnodup
    split_ifs
    · exact hdeclares.congr (subjectAttributes_get subject line.label)
    · exact hdeclares

lemma parseEvidence_handled (h : parseEvidence { state with sawBody := true } line = .ok state') :
    Handled state line .evidence state' := by
  obtain ⟨snapshot, hsnapshot, h⟩ := bind_eq_ok.mp h
  obtain ⟨hdeclares, hnodup⟩ := readElement_declares
    (fun snapshot : EvidenceSnapshot => (snapshot.id.value, snapshot.generation.value)) hsnapshot
    (fun _ _ => rfl) evidenceAttributes_set
  have hobservations : snapshot.observations = [] :=
    readElement_frame hsnapshot (fun _ _ => rfl) evidenceAttributes_observations
  rw [← Except.ok.inj h]
  refine .evidence ⟨hdeclares, ?_⟩ hnodup
  rw [hobservations]
  exact .nil

lemma parseObs_handled (h : parseObs { state with sawBody := true } line = .ok state') :
    Handled state line .obs state' := by
  unfold parseObs at h
  split_ifs at h with hopen
  obtain ⟨observation, hobservation, h⟩ := bind_eq_ok.mp h
  obtain ⟨hdeclares, hnodup⟩ := readElement_declares
    (fun observation : SubjectObservation => (observation.id.value, observation.generation.value))
    hobservation (fun _ _ => rfl) obsAttributes_set
  rw [← Except.ok.inj h]
  exact .obs hopen hdeclares hnodup

lemma parseRequest_handled (h : parseRequest { state with sawBody := true } line = .ok state') :
    Handled state line .request state' := by
  obtain ⟨request, hrequest, h⟩ := bind_eq_ok.mp h
  obtain ⟨hreads, hnodup, -⟩ := readAttributes_eq_ok hrequest
  rw [← Except.ok.inj h]
  exact .request hreads hnodup

/-- An accepted line is of some directive, which says what becomes of the state. -/
theorem parseLine_handled (h : parseLine state line = .ok state') :
    ∃ d, line.is d = true ∧ Handled state line d state' := by
  unfold parseLine at h
  cases htokens : line.tokens with
  | nil =>
    rw [htokens] at h
    cases h
  | cons directive rest =>
    rw [htokens] at h
    dsimp only at h
    have his : ∀ d : Directive, directive = ascii d.text → line.is d = true := by
      rintro d rfl
      rw [Line.is_iff, htokens]
      rfl
    split_ifs at h with h1 h2 h3 h4 h5 h6 h7 h8 h9
    · exact ⟨.version, his .version h1, parseVersion_handled h⟩
    · exact ⟨.epoch, his .epoch h3, parseEpoch_handled h⟩
    · exact ⟨.policy, his .policy h4, parsePolicy_handled h⟩
    · exact ⟨.group, his .group h5, parseGroup_handled h⟩
    · exact ⟨.subject, his .subject h6, parseSubject_handled h⟩
    · exact ⟨.evidence, his .evidence h7, parseEvidence_handled h⟩
    · exact ⟨.obs, his .obs h8, parseObs_handled h⟩
    · exact ⟨.request, his .request h9, parseRequest_handled h⟩

end Handlers

end FairnessGovernor
