/-
# The attributes of a scenario

A directive line carries attributes, `key=value`.  What a key means is a table of the directive:
each attribute has a kind of value and a field that it writes.  A table knows that its keys are
distinct and that no attribute writes the field of another one, so a value that was written is
read back as long as its key does not come again.
-/
import FairnessGovernor.Model.Evidence
import FairnessGovernor.Model.Outcome
import FairnessGovernor.Scenario.Lines

namespace FairnessGovernor

/-! ## Values -/

/-- The text before and behind the first occurrence of a character. -/
def cutAt (character : UInt8) (text : ByteBuffer) : Option (ByteBuffer × ByteBuffer) :=
  if character ∈ text then
    some (text.takeWhile (· ≠ character), (text.dropWhile (· ≠ character)).drop 1)
  else none

/-- `Parser::parse_id_pair`. -/
def parseIdPair (text : ByteBuffer) : Option (UInt64 × UInt64) := do
  let (before, behind) ← cutAt 58 text
  let id ← parseU64 before
  let generation ← parseU64 behind
  return (id, generation)

/-- The kinds of values: words, signed words, `0` or `1`, an identity with a generation, and a
text as it is written. -/
inductive Kind
  | number | small | signedNumber | signedSmall | flag | idPair | text

/-- What a value of a kind is. -/
abbrev Kind.Value : Kind → Type
  | .number => UInt64
  | .small => UInt32
  | .signedNumber => Int64
  | .signedSmall => Int32
  | .flag => Bool
  | .idPair => UInt64 × UInt64
  | .text => ByteBuffer

/-- What is accepted for a value of a kind. -/
def Kind.parse : (kind : Kind) → ByteBuffer → Option kind.Value
  | .number, value => parseU64 value
  | .small, value => parseU32 value
  | .signedNumber, value => (parseI64 value).toOption.join.map Int64.ofInt
  | .signedSmall, value => (parseI32 value).toOption.join.map Int32.ofInt
  | .flag, value => do
    let small ← parseU32 value
    if small ≤ 1 then some (small != 0) else none
  | .idPair, value => parseIdPair value
  | .text, value => some value

/-! ## Tables -/

/-- An attribute: its key, the kind of its value, and the field that holds it. -/
structure Attribute (α : Type) where
  key : ByteBuffer
  kind : Kind
  get : α → kind.Value
  set : kind.Value → α → α
  get_set : ∀ value x, get (set value x) = value := by intros; rfl

/-- Neither of two attributes writes the field of the other. -/
structure Attribute.Apart {α : Type} (a b : Attribute α) : Prop where
  right : ∀ value x, b.get (a.set value x) = b.get x
  left : ∀ value x, a.get (b.set value x) = a.get x

instance {α : Type} : Std.Symm (@Attribute.Apart α) := ⟨fun _ _ h => ⟨h.left, h.right⟩⟩

/-- The attributes of a directive, under the name it has in messages. -/
structure AttributeTable (α : Type) where
  what : ByteBuffer
  attributes : List (Attribute α)
  keys_nodup : (attributes.map (·.key)).Nodup := by decide +kernel
  apart : attributes.Pairwise Attribute.Apart := by
    repeat' first
      | exact List.Pairwise.nil
      | refine List.Pairwise.cons ?_ ?_
      | refine List.forall_mem_cons.mpr ⟨⟨fun _ _ => rfl, fun _ _ => rfl⟩, ?_⟩
      | exact List.forall_mem_nil _

/-- `key=value` of a token. -/
def splitAttribute (what token : ByteBuffer) : Except ByteBuffer (ByteBuffer × ByteBuffer) :=
  match cutAt 61 token with
  | none => .error (what ++ ascii " attribute is not key=value: " ++ token)
  | some parts => .ok parts

section Loops

variable {α : Type} (table : AttributeTable α)

/-- The value of a known key is written to its field. -/
def assignAttribute (key value : ByteBuffer) (x : α) : Except ByteBuffer α :=
  match table.attributes.find? (·.key = key) with
  | none => .error (ascii "unknown " ++ table.what ++ ascii " attribute: " ++ key)
  | some known =>
    match known.kind.parse value with
    | none => .error (ascii "invalid value for " ++ table.what ++ ascii " attribute " ++ key)
    | some value => .ok (known.set value x)

/-- The loop over the attributes of a line; `seen` holds the keys already met. -/
def readAttributes : List ByteBuffer → List ByteBuffer → α → Except ByteBuffer α
  | [], _, x => .ok x
  | token :: rest, seen, x => do
    let (key, value) ← splitAttribute table.what token
    if key ∈ seen then
      .error (ascii "duplicate " ++ table.what ++ ascii " attribute: " ++ key)
    else do
      let x ← assignAttribute table key value x
      readAttributes rest (key :: seen) x

/-- The loop over the attributes of a policy line, which does not look for repeated keys. -/
def readPolicyAttributes : List ByteBuffer → α → Except ByteBuffer α
  | [], x => .ok x
  | token :: rest, x => do
    let (key, value) ← splitAttribute table.what token
    let x ← assignAttribute table key value x
    readPolicyAttributes rest x

end Loops

/-! ### The directives -/

/-- The attributes of `policy`. -/
def policyAttributes : AttributeTable FairnessPolicy where
  what := ascii "policy"
  attributes :=
    [{ key := ascii "window_units", kind := .number
       get := fun policy => policy.windowUnits
       set := fun number policy => { policy with windowUnits := number } },
      { key := ascii "fair_band", kind := .number
        get := fun policy => policy.fairBandUnits
        set := fun number policy => { policy with fairBandUnits := number } },
      { key := ascii "correction_threshold", kind := .number
        get := fun policy => policy.correctionThresholdUnits
        set := fun number policy => { policy with correctionThresholdUnits := number } },
      { key := ascii "cooldown", kind := .small
        get := fun policy => policy.cooldownWindows
        set := fun small policy => { policy with cooldownWindows := small } },
      { key := ascii "max_correction", kind := .number
        get := fun policy => policy.maxCorrectionUnits
        set := fun number policy => { policy with maxCorrectionUnits := number } },
      { key := ascii "max_correction_bps", kind := .small
        get := fun policy => policy.maxCorrectionBps
        set := fun small policy => { policy with maxCorrectionBps := small } },
      { key := ascii "max_modifier_bps", kind := .small
        get := fun policy => policy.maxPriorityModifierBps
        set := fun small policy => { policy with maxPriorityModifierBps := small } },
      { key := ascii "max_age_windows", kind := .small
        get := fun policy => policy.maxEvidenceAgeWindows
        set := fun small policy => { policy with maxEvidenceAgeWindows := small } },
      { key := ascii "max_age_ns", kind := .number
        get := fun policy => policy.maxEvidenceAgeNs
        set := fun number policy => { policy with maxEvidenceAgeNs := number } },
      { key := ascii "max_carry", kind := .number
        get := fun policy => policy.maxCarryUnits
        set := fun number policy => { policy with maxCarryUnits := number } },
      { key := ascii "enforce_floors", kind := .flag
        get := fun policy => policy.enforceGuaranteeFloors
        set := fun flag policy => { policy with enforceGuaranteeFloors := flag } },
      { key := ascii "source", kind := .text
        get := fun policy => policy.provenance.source
        set := fun text policy =>
          { policy with provenance := { policy.provenance with source := text } } },
      { key := ascii "revision", kind := .number
        get := fun policy => policy.provenance.revision
        set := fun number policy =>
          { policy with provenance := { policy.provenance with revision := number } } },
      { key := ascii "digest", kind := .number
        get := fun policy => policy.provenance.sourceDigest
        set := fun number policy =>
          { policy with provenance := { policy.provenance with sourceDigest := number } } }]

/-- The attributes of `group`. -/
def groupAttributes : AttributeTable FairnessGroup where
  what := ascii "group"
  attributes :=
    [{ key := ascii "parent", kind := .number
       get := fun group => group.parent.value
       set := fun number group => { group with parent := ⟨number⟩ } },
      { key := ascii "weight", kind := .small
        get := fun group => group.shareWeight
        set := fun small group => { group with shareWeight := small } },
      { key := ascii "floor", kind := .number
        get := fun group => group.guaranteeFloor
        set := fun number group => { group with guaranteeFloor := number } },
      { key := ascii "rank", kind := .small
        get := fun group => group.obligationRank
        set := fun small group => { group with obligationRank := small } },
      { key := ascii "protected", kind := .flag
        get := fun group => group.protectedObligation
        set := fun flag group => { group with protectedObligation := flag } }]

/-- The attributes of `subject`. -/
def subjectAttributes : AttributeTable Subject where
  what := ascii "subject"
  attributes :=
    [{ key := ascii "group", kind := .number
       get := fun subject => subject.group.value
       set := fun number subject => { subject with group := ⟨number⟩ } },
      { key := ascii "tenant", kind := .number
        get := fun subject => subject.tenant.value
        set := fun number subject => { subject with tenant := ⟨number⟩ } },
      { key := ascii "weight", kind := .small
        get := fun subject => subject.shareWeight
        set := fun small subject => { subject with shareWeight := small } },
      { key := ascii "floor", kind := .number
        get := fun subject => subject.guaranteeFloor
        set := fun number subject => { subject with guaranteeFloor := number } },
      { key := ascii "starvation", kind := .small
        get := fun subject => subject.starvationWindows
        set := fun small subject => { subject with starvationWindows := small } },
      { key := ascii "guarantee_starvation", kind := .small
        get := fun subject => subject.guaranteeStarvationWindows
        set := fun small subject => { subject with guaranteeStarvationWindows := small } },
      { key := ascii "rank", kind := .small
        get := fun subject => subject.obligationRank
        set := fun small subject => { subject with obligationRank := small } },
      { key := ascii "protected", kind := .flag
        get := fun subject => subject.protectedObligation
        set := fun flag subject => { subject with protectedObligation := flag } },
      { key := ascii "reduce_cap", kind := .number
        get := fun subject => subject.maxReduceUnits
        set := fun number subject => { subject with maxReduceUnits := number } },
      { key := ascii "augment_cap", kind := .number
        get := fun subject => subject.maxAugmentUnits
        set := fun number subject => { subject with maxAugmentUnits := number } },
      { key := ascii "modifier_bps", kind := .signedSmall
        get := fun subject => subject.priorityModifierBps
        set := fun signed subject => { subject with priorityModifierBps := signed } },
      { key := ascii "priority_rank", kind := .small
        get := fun subject => subject.priorityRank
        set := fun small subject => { subject with priorityRank := small } },
      { key := ascii "priority", kind := .idPair
        get := fun subject => (subject.priority.id.value, subject.priority.generation.value)
        set := fun pair subject =>
          { subject with priority := { id := ⟨pair.1⟩, generation := ⟨pair.2⟩ } } },
      { key := ascii "qos", kind := .idPair
        get := fun subject => (subject.qos.id.value, subject.qos.generation.value)
        set := fun pair subject =>
          { subject with qos := { id := ⟨pair.1⟩, generation := ⟨pair.2⟩ } } }]

/-- The attributes of `evidence`. -/
def evidenceAttributes : AttributeTable EvidenceSnapshot where
  what := ascii "evidence"
  attributes :=
    [{ key := ascii "window", kind := .number
       get := fun snapshot => snapshot.window.value
       set := fun number snapshot => { snapshot with window := ⟨number⟩ } },
      { key := ascii "window_gen", kind := .number
        get := fun snapshot => snapshot.windowGeneration.value
        set := fun number snapshot => { snapshot with windowGeneration := ⟨number⟩ } },
      { key := ascii "epoch", kind := .number
        get := fun snapshot => snapshot.epoch.value
        set := fun number snapshot => { snapshot with epoch := ⟨number⟩ } },
      { key := ascii "captured_ns", kind := .signedNumber
        get := fun snapshot => snapshot.capturedAtNs
        set := fun signed snapshot => { snapshot with capturedAtNs := signed } },
      { key := ascii "sequence", kind := .number
        get := fun snapshot => snapshot.sequence
        set := fun number snapshot => { snapshot with sequence := number } },
      { key := ascii "producer", kind := .text
        get := fun snapshot => snapshot.producer.name
        set := fun text snapshot =>
          { snapshot with producer := { snapshot.producer with name := text } } },
      { key := ascii "instance", kind := .number
        get := fun snapshot => snapshot.producer.instanceId
        set := fun number snapshot =>
          { snapshot with producer := { snapshot.producer with instanceId := number } } },
      { key := ascii "version", kind := .number
        get := fun snapshot => snapshot.producer.version
        set := fun number snapshot =>
          { snapshot with producer := { snapshot.producer with version := number } } },
      { key := ascii "declared_digest", kind := .number
        get := fun snapshot => snapshot.declaredDigest
        set := fun number snapshot => { snapshot with declaredDigest := number } }]

/-- The attributes of `obs`. -/
def obsAttributes : AttributeTable SubjectObservation where
  what := ascii "obs"
  attributes :=
    [{ key := ascii "served", kind := .number
       get := fun observation => observation.servedUnits
       set := fun number observation => { observation with servedUnits := number } },
      { key := ascii "unserved", kind := .small
        get := fun observation => observation.unservedStreak
        set := fun small observation => { observation with unservedStreak := small } },
      { key := ascii "below", kind := .small
        get := fun observation => observation.belowFloorStreak
        set := fun small observation => { observation with belowFloorStreak := small } },
      { key := ascii "priority", kind := .idPair
        get := fun observation => (observation.priority.id.value, observation.priority.generation.value)
        set := fun pair observation =>
          { observation with priority := { id := ⟨pair.1⟩, generation := ⟨pair.2⟩ } } },
      { key := ascii "qos", kind := .idPair
        get := fun observation => (observation.qos.id.value, observation.qos.generation.value)
        set := fun pair observation =>
          { observation with qos := { id := ⟨pair.1⟩, generation := ⟨pair.2⟩ } } }]

/-- The attributes of `request`. -/
def requestAttributes : AttributeTable EvaluationRequest where
  what := ascii "request"
  attributes :=
    [{ key := ascii "policy", kind := .idPair
       get := fun request => (request.policyId.value, request.policyGeneration.value)
       set := fun pair request =>
          { request with policyId := ⟨pair.1⟩, policyGeneration := ⟨pair.2⟩ } },
      { key := ascii "evidence", kind := .idPair
        get := fun request => (request.evidenceId.value, request.evidenceGeneration.value)
        set := fun pair request =>
          { request with evidenceId := ⟨pair.1⟩, evidenceGeneration := ⟨pair.2⟩ } },
      { key := ascii "window", kind := .idPair
        get := fun request => (request.window.value, request.windowGeneration.value)
        set := fun pair request =>
          { request with window := ⟨pair.1⟩, windowGeneration := ⟨pair.2⟩ } },
      { key := ascii "epoch", kind := .number
        get := fun request => request.epoch.value
        set := fun number request => { request with epoch := ⟨number⟩ } },
      { key := ascii "now_ns", kind := .signedNumber
        get := fun request => request.nowNs
        set := fun signed request => { request with nowNs := signed } },
      { key := ascii "request_id", kind := .number
        get := fun request => request.requestId
        set := fun number request => { request with requestId := number } },
      { key := ascii "attempt", kind := .small
        get := fun request => request.attempt
        set := fun small request => { request with attempt := small } },
      { key := ascii "missing_unknown", kind := .flag
        get := fun request => request.treatMissingAsUnknown
        set := fun flag request => { request with treatMissingAsUnknown := flag } }]

/-! ## What the loops read -/

section Reading

variable {α : Type} {table : AttributeTable α} {tokens : List ByteBuffer} {x y : α}

/-- The keys that are written in a list of tokens. -/
def keysOf (tokens : List ByteBuffer) : List ByteBuffer :=
  tokens.filterMap fun token => (cutAt 61 token).map Prod.fst

/-- The values that are written for a key. -/
def valuesOf (tokens : List ByteBuffer) (key : ByteBuffer) : List ByteBuffer :=
  tokens.filterMap fun token => (cutAt 61 token).bind fun parts =>
    if parts.1 = key then some parts.2 else none

/-- Every token is an attribute, whose value is in the field of its key. -/
def Keeps (table : AttributeTable α) (tokens : List ByteBuffer) (x : α) : Prop :=
  ∀ token ∈ tokens, ∃ parts ∈ cutAt 61 token, ∃ a ∈ table.attributes, a.key = parts.1 ∧
    a.kind.parse parts.2 = some (a.get x)

/-- The attributes are written one after another. -/
inductive Reads (table : AttributeTable α) : List ByteBuffer → α → α → Prop
  | nil (x : α) : Reads table [] x x
  | cons {token : ByteBuffer} {parts : ByteBuffer × ByteBuffer} {rest : List ByteBuffer}
      {x y : α} {a : Attribute α} {value : a.kind.Value} : cutAt 61 token = some parts →
      a ∈ table.attributes → a.key = parts.1 → a.kind.parse parts.2 = some value →
      Reads table rest (a.set value x) y → Reads table (token :: rest) x y

lemma splitAttribute_eq_ok {what token : ByteBuffer} {parts : ByteBuffer × ByteBuffer} :
    splitAttribute what token = .ok parts ↔ cutAt 61 token = some parts := by
  unfold splitAttribute
  cases cutAt 61 token <;> simp

lemma assignAttribute_eq_ok {key value : ByteBuffer} (h : assignAttribute table key value x = .ok y) :
    ∃ a ∈ table.attributes, a.key = key ∧
      ∃ written, a.kind.parse value = some written ∧ y = a.set written x := by
  unfold assignAttribute at h
  cases hfind : table.attributes.find? (·.key = key) with
  | none =>
    rw [hfind] at h
    cases h
  | some a =>
    rw [hfind] at h
    dsimp only at h
    cases hparse : a.kind.parse value with
    | none =>
      rw [hparse] at h
      cases h
    | some written =>
      rw [hparse] at h
      exact ⟨a, List.mem_of_find?_eq_some hfind, by simpa using List.find?_some hfind, written,
        hparse, (Except.ok.inj h).symm⟩

lemma keysOf_cons {token : ByteBuffer} {parts : ByteBuffer × ByteBuffer} {rest : List ByteBuffer}
    (h : cutAt 61 token = some parts) : keysOf (token :: rest) = parts.1 :: keysOf rest := by
  simp [keysOf, h]

/-- What the strict loop accepts has no key twice. -/
lemma readAttributes_eq_ok {seen : List ByteBuffer}
    (h : readAttributes table tokens seen x = .ok y) :
    Reads table tokens x y ∧ (keysOf tokens).Nodup ∧ ∀ key ∈ keysOf tokens, key ∉ seen := by
  induction tokens generalizing seen x with
  | nil =>
    obtain rfl := Except.ok.inj h
    exact ⟨.nil x, List.nodup_nil, fun _ hmem => absurd hmem List.not_mem_nil⟩
  | cons token rest ih =>
    obtain ⟨parts, hparts, h⟩ := bind_eq_ok.mp h
    rw [splitAttribute_eq_ok] at hparts
    dsimp only at h
    split_ifs at h with hseen
    obtain ⟨next, hnext, h⟩ := bind_eq_ok.mp h
    obtain ⟨a, ha, hkey, written, hwritten, rfl⟩ := assignAttribute_eq_ok hnext
    obtain ⟨hreads, hnodup, hfresh⟩ := ih h
    rw [keysOf_cons hparts]
    refine ⟨.cons hparts ha hkey hwritten hreads, List.nodup_cons.mpr ⟨fun hmem => ?_, hnodup⟩,
      List.forall_mem_cons.mpr ⟨hseen, fun key hmem => ?_⟩⟩
    · exact hfresh _ hmem List.mem_cons_self
    · exact fun hold => hfresh key hmem (List.mem_cons_of_mem _ hold)

/-- The loop of the policy line writes in the same way. -/
lemma readPolicyAttributes_eq_ok (h : readPolicyAttributes table tokens x = .ok y) :
    Reads table tokens x y := by
  induction tokens generalizing x with
  | nil =>
    obtain rfl := Except.ok.inj h
    exact .nil x
  | cons token rest ih =>
    obtain ⟨parts, hparts, h⟩ := bind_eq_ok.mp h
    obtain ⟨next, hnext, h⟩ := bind_eq_ok.mp h
    obtain ⟨a, ha, hkey, written, hwritten, rfl⟩ := assignAttribute_eq_ok hnext
    exact .cons (splitAttribute_eq_ok.mp hparts) ha hkey hwritten (ih h)

/-- An attribute leaves the field of every other key alone. -/
lemma AttributeTable.get_set_ne (table : AttributeTable α) {a b : Attribute α}
    (ha : a ∈ table.attributes) (hb : b ∈ table.attributes) (hne : a.key ≠ b.key)
    (value : a.kind.Value) (x : α) : b.get (a.set value x) = b.get x := by
  exact (table.apart.forall ha hb fun heq => hne (congrArg _ heq)).right value x

/-- A key belongs to one attribute. -/
lemma AttributeTable.eq_of_key (table : AttributeTable α) {a b : Attribute α}
    (ha : a ∈ table.attributes) (hb : b ∈ table.attributes) (hkey : a.key = b.key) : a = b :=
  List.inj_on_of_nodup_map table.keys_nodup ha hb hkey

/-- Every token that is read is an attribute of the table. -/
lemma Reads.known (h : Reads table tokens x y) : ∀ token ∈ tokens, ∃ parts ∈ cutAt 61 token,
    ∃ a ∈ table.attributes, a.key = parts.1 := by
  induction h with
  | nil => exact fun _ hmem => absurd hmem List.not_mem_nil
  | cons hparts ha hkey _ _ ih => exact List.forall_mem_cons.mpr ⟨⟨_, hparts, _, ha, hkey⟩, ih⟩

/-- The field of a key that is not written stays as it is. -/
lemma Reads.unwritten (h : Reads table tokens x y) {b : Attribute α} (hb : b ∈ table.attributes)
    (hkey : b.key ∉ keysOf tokens) : b.get y = b.get x := by
  induction h with
  | nil => rfl
  | @cons token parts rest x y a value hparts ha hname hvalue _ ih =>
    rw [keysOf_cons hparts, List.mem_cons, not_or] at hkey
    rw [ih hkey.2, table.get_set_ne ha hb fun heq => hkey.1 (heq.symm.trans hname)]

lemma mem_valuesOf {key value : ByteBuffer} : value ∈ valuesOf tokens key ↔
    ∃ token ∈ tokens, cutAt 61 token = some (key, value) := by
  unfold valuesOf
  rw [List.mem_filterMap]
  refine exists_congr fun token => and_congr_right fun _ => ?_
  cases hparts : cutAt 61 token with
  | none => simp
  | some parts =>
    rw [Option.bind_some]
    constructor
    · intro h
      split_ifs at h with hkey
      rw [← hkey, ← Option.some.inj h]
    · intro h
      rw [Option.some.inj h]
      simp

lemma mem_keysOf {key : ByteBuffer} : key ∈ keysOf tokens ↔ ∃ value, value ∈ valuesOf tokens key := by
  unfold keysOf
  rw [List.mem_filterMap]
  constructor
  · rintro ⟨token, htoken, hkey⟩
    obtain ⟨parts, hparts, rfl⟩ := Option.map_eq_some_iff.mp hkey
    exact ⟨parts.2, mem_valuesOf.mpr ⟨token, htoken, hparts⟩⟩
  · rintro ⟨value, hvalue⟩
    obtain ⟨token, htoken, hparts⟩ := mem_valuesOf.mp hvalue
    exact ⟨token, htoken, by rw [hparts]; rfl⟩

lemma valuesOf_cons {token key : ByteBuffer} {parts : ByteBuffer × ByteBuffer}
    {rest : List ByteBuffer} (h : cutAt 61 token = some parts) : valuesOf (token :: rest) key =
      if parts.1 = key then parts.2 :: valuesOf rest key else valuesOf rest key := by
  unfold valuesOf
  rw [List.filterMap_cons, h, Option.bind_some]
  split_ifs <;> rfl

/-- The field of a key that is written holds one of the values written for it. -/
lemma Reads.written (h : Reads table tokens x y) {b : Attribute α} (hb : b ∈ table.attributes)
    (hkey : b.key ∈ keysOf tokens) :
    ∃ value ∈ valuesOf tokens b.key, b.kind.parse value = some (b.get y) := by
  induction h with
  | nil => exact absurd hkey List.not_mem_nil
  | @cons token parts rest x y a value hparts ha hname hvalue hreads ih =>
    rw [valuesOf_cons hparts]
    by_cases hlater : b.key ∈ keysOf rest
    · obtain ⟨written, hwritten, hparse⟩ := ih hlater
      refine ⟨written, ?_, hparse⟩
      split_ifs
      · exact List.mem_cons_of_mem _ hwritten
      · exact hwritten
    · -- the last value of the key
      rw [keysOf_cons hparts, List.mem_cons, or_iff_left hlater] at hkey
      obtain rfl := table.eq_of_key ha hb (hname.trans hkey.symm)
      rw [if_pos hkey.symm, hreads.unwritten hb hlater, a.get_set]
      exact ⟨parts.2, List.mem_cons_self, hvalue⟩

/-- A record that keeps the attributes has every value that is written. -/
lemma Keeps.parse (h : Keeps table tokens x) {a : Attribute α} (ha : a ∈ table.attributes)
    {value : ByteBuffer} (hvalue : value ∈ valuesOf tokens a.key) :
    a.kind.parse value = some (a.get x) := by
  obtain ⟨token, htoken, hparts⟩ := mem_valuesOf.mp hvalue
  obtain ⟨parts, hsame, b, hb, hkey, hparse⟩ := h token htoken
  obtain rfl := Option.some.inj (hsame.symm.trans hparts)
  obtain rfl := table.eq_of_key hb ha hkey
  exact hparse

/-- A record keeps the attributes when it has every value that is written. -/
lemma keeps_of_parse (hknown : ∀ token ∈ tokens, ∃ parts ∈ cutAt 61 token,
      ∃ a ∈ table.attributes, a.key = parts.1)
    (hall : ∀ a ∈ table.attributes, ∀ value ∈ valuesOf tokens a.key,
      a.kind.parse value = some (a.get x)) : Keeps table tokens x := by
  intro token htoken
  obtain ⟨parts, hparts, a, ha, hkey⟩ := hknown token htoken
  refine ⟨parts, hparts, a, ha, hkey, hall a ha parts.2 (mem_valuesOf.mpr ⟨token, htoken, ?_⟩)⟩
  rw [hkey]
  exact hparts

/-- Without a key twice the loop loses nothing. -/
lemma Reads.keeps (h : Reads table tokens x y) (hnodup : (keysOf tokens).Nodup) :
    Keeps table tokens y := by
  induction h with
  | nil => exact fun _ hmem => absurd hmem List.not_mem_nil
  | @cons token parts rest x y a value hparts ha hname hvalue hreads ih =>
    rw [keysOf_cons hparts, List.nodup_cons] at hnodup
    refine List.forall_mem_cons.mpr ⟨⟨parts, hparts, a, ha, hname, ?_⟩, ih hnodup.2⟩
    rw [hreads.unwritten ha (by rw [hname]; exact hnodup.1), a.get_set]
    exact hvalue

end Reading

end FairnessGovernor
