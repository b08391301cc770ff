/-
# What an explanation tells

The text of an explanation is the text of all its lines, cut off at the bound.  Where nothing is
cut off the text can be read back: it determines what it shows of the decision, which is all but the
generations of the references to priority classes and of the subjects of intents.
-/
import FairnessGovernor.Eval.Explain

namespace FairnessGovernor

open Rendering

/-! ## The bound -/

namespace BoundedText

/-- A bounded text to which so much was written. -/
def holding (limit : ℕ) (written : ByteBuffer) : BoundedText :=
  if written.length ≤ limit then
    { limit := limit, size := written.length, buffer := written }
  else
    { limit := limit, size := limit, truncated := true
      buffer := written.take limit ++ truncationNotice }

variable {limit : ℕ} {written more : ByteBuffer}

lemma holding_append : (holding limit written).append more = holding limit (written ++ more) := by
  by_cases hfits : written.length ≤ limit
  · by_cases hmore : written.length + more.length ≤ limit
    · simp [holding, append, hfits, hmore]
    · have htake : (written ++ more).take limit =
          written ++ more.take (limit - written.length) := by
        rw [List.take_append, List.take_of_length_le hfits]
      have hover : limit < written.length + more.length := by omega
      simp [holding, append, hfits, hmore, htake, hover]
  · have hlonger : ¬ written.length + more.length ≤ limit := by omega
    have htake : (written ++ more).take limit = written.take limit :=
      List.take_append_of_le_length (by omega)
    simp [holding, append, hfits, hlonger, htake]

/-- Lines are written one after the other. -/
lemma holding_lines (ls : List ByteBuffer) :
    ls.foldl line (holding limit written) = holding limit (written ++ lines 10 ls) := by
  induction ls generalizing written with
  | nil => simp
  | cons first ls ih =>
    have hfirst : (holding limit written).line first =
        holding limit (written ++ first ++ [10]) := by
      unfold line
      rw [holding_append, holding_append]
      rfl
    rw [List.foldl_cons, hfirst, ih, lines_cons]
    simp

end BoundedText

variable {d d' : FairnessDecision} {options : ExplainOptions}

/-- All the lines of an explanation. -/
def explanationText (decision : FairnessDecision) (options : ExplainOptions) : ByteBuffer :=
  lines 10 (explanationLines decision options)

/-- An explanation is the text of its lines, or what fits of it and the notice. -/
lemma explain_eq (decision : FairnessDecision) (options : ExplainOptions) :
    explain decision options =
      if (explanationText decision options).length ≤ options.maxBytes.toNat then
        explanationText decision options
      else (explanationText decision options).take options.maxBytes.toNat ++ truncationNotice := by
  have hstart : ({ limit := options.maxBytes.toNat } : BoundedText) =
      .holding options.maxBytes.toNat [] := by
    simp [BoundedText.holding]
  unfold explain
  rw [hstart, BoundedText.holding_lines, List.nil_append]
  unfold BoundedText.holding explanationText
  split_ifs <;> rfl

/-- What is not longer than the bound was not cut off. -/
lemma explain_of_fits (h : (explain d options).length ≤ options.maxBytes.toNat) :
    explain d options = explanationText d options := by
  rw [explain_eq] at h ⊢
  split_ifs at h ⊢ with hfits
  · rfl
  · exfalso
    have hnotice : truncationNotice.length = 25 := by decide
    rw [List.length_append, List.length_take, hnotice] at h
    omega

/-! ## Values -/

lemma textBytes_inj {a b : String} : textBytes a = textBytes b ↔ a = b := by
  unfold textBytes
  rw [Array.toList_inj, ← ByteArray.ext_iff]
  exact String.toByteArray_inj

/-- There is no blank and no end of line in the word. -/
def Token (w : ByteBuffer) : Prop := ∀ c ∈ w, c ≠ 32 ∧ c ≠ 10

instance (w : ByteBuffer) : Decidable (Token w) :=
  List.decidableBAll (fun c => c ≠ 32 ∧ c ≠ 10) w

lemma Token.append {w w' : ByteBuffer} (h : Token w) (h' : Token w') : Token (w ++ w') := by
  intro c hc
  rcases List.mem_append.mp hc with hc | hc
  · exact h c hc
  · exact h' c hc

lemma Token.blank {w : ByteBuffer} (h : Token w) : 32 ∉ w := fun hc => (h 32 hc).1 rfl

lemma isDigit_toDecimal {value : UInt64} {c : UInt8} (h : c ∈ toDecimal value) : IsDigit c :=
  (toDecimal_numeral value).1.2.2 c h

lemma toDecimal_token (value : UInt64) : Token (toDecimal value) := by
  intro c hc
  have hdigit := isDigit_toDecimal hc
  constructor
  · rintro rfl
    exact absurd hdigit (by decide)
  · rintro rfl
    exact absurd hdigit (by decide)

@[simp] lemma toDecimal_inj {a b : UInt64} : toDecimal a = toDecimal b ↔ a = b := by
  constructor
  · intro h
    have hvalue := (toDecimal_numeral a).2
    rw [h, (toDecimal_numeral b).2] at hvalue
    exact (UInt64.toNat_inj.mp hvalue).symm
  · rintro rfl
    rfl

section Values

variable {name : String}

@[simp] lemma appendU64_token (value : UInt64) : Token (appendU64 name value).2 :=
  toDecimal_token value

@[simp] lemma appendQuantity_token (value : ℕ) : Token (appendQuantity name value).2 :=
  toDecimal_token _

@[simp] lemma appendFlag_token (value : Bool) : Token (appendFlag name value).2 :=
  toDecimal_token _

@[simp] lemma appendI64_token (value : ℤ) : Token (appendI64 name value).2 := by
  refine Token.append ?_ (toDecimal_token _)
  split_ifs
  · decide
  · decide

@[simp] lemma appendPair_token (id generation : UInt64) :
    Token (appendPair name id generation).2 :=
  ((toDecimal_token id).append (by decide)).append (toDecimal_token generation)

@[simp] lemma appendU64_inj {a b : UInt64} : appendU64 name a = appendU64 name b ↔ a = b := by
  simp [appendU64]

/-- The quantity is of the word that holds it in the source. -/
def IsWord (value : ℕ) : Prop := value < 2 ^ 64

instance (value : ℕ) : Decidable (IsWord value) := inferInstanceAs (Decidable (value < 2 ^ 64))

lemma appendQuantity_inj {a b : ℕ} (ha : IsWord a) (hb : IsWord b) :
    appendQuantity name a = appendQuantity name b ↔ a = b := by
  unfold IsWord at ha hb
  rw [appendQuantity, appendQuantity, appendU64_inj, ← UInt64.toNat_inj, UInt64.toNat_ofNat',
    UInt64.toNat_ofNat', Nat.mod_eq_of_lt ha, Nat.mod_eq_of_lt hb]

@[simp] lemma appendFlag_inj {a b : Bool} : appendFlag name a = appendFlag name b ↔ a = b := by
  cases a <;> cases b <;> simp [appendFlag]

lemma isWord_bps (bps : Int32) : IsWord bps.toInt.natAbs := by
  have hlower := bps.le_toInt
  have hupper := bps.toInt_lt
  unfold IsWord
  omega

/-- A sign is no digit. -/
lemma appendI64_inj {a b : ℤ} (ha : IsWord a.natAbs) (hb : IsWord b.natAbs) :
    appendI64 name a = appendI64 name b ↔ a = b := by
  refine ⟨fun h => ?_, fun h => by rw [h]⟩
  have hword : ∀ {x y : ℕ}, IsWord x → IsWord y →
      toDecimal (.ofNat x) = toDecimal (.ofNat y) → x = y := by
    intro x y hx hy hxy
    exact (@appendQuantity_inj name _ _ hx hy).mp (Prod.ext rfl hxy)
  have hdigit : ∀ {x y : ℕ}, ascii "-" ++ toDecimal (.ofNat x) ≠ toDecimal (.ofNat y) := by
    intro x y hxy
    have hsign : (45 : UInt8) ∈ toDecimal (.ofNat y) := by
      rw [← hxy]
      exact List.mem_append_left _ (by decide)
    exact absurd (isDigit_toDecimal hsign) (by decide)
  have hvalues := congrArg Prod.snd h
  simp only [appendI64] at hvalues
  split_ifs at hvalues with hneg hneg' hneg'
  · have := hword ha hb (List.append_cancel_left hvalues)
    omega
  · exact absurd hvalues hdigit
  · exact absurd hvalues.symm hdigit
  · have := hword ha hb hvalues
    omega

@[simp] lemma appendName_inj {text text' : String} :
    appendName name text = appendName name text' ↔ ascii text = ascii text' := by
  simp [appendName]

@[simp] lemma appendPair_inj {a b x y : UInt64} :
    appendPair name a x = appendPair name b y ↔ a = b ∧ x = y := by
  refine ⟨fun h => ?_, fun h => by rw [h.1, h.2]⟩
  have hcolon : ∀ value, (58 : UInt8) ∉ toDecimal value := fun value hmem =>
    absurd (isDigit_toDecimal hmem) (by decide)
  have hvalues := congrArg Prod.snd h
  simp only [appendPair, List.append_assoc] at hvalues
  obtain ⟨hid, hgeneration⟩ := word_cancel_letter (hcolon a) (hcolon b) hvalues
  exact ⟨toDecimal_inj.mp hid, toDecimal_inj.mp hgeneration⟩

end Values

/-! ## Names -/

/-- Among all of a kind, where no two are written alike, each is determined by what is written. -/
lemma injective_of_nodup {α : Type} {all : List α} {write : α → ByteBuffer}
    (hall : ∀ a, a ∈ all) (hwrite : (all.map write).Nodup) : Function.Injective write :=
  fun a b h => List.inj_on_of_nodup_map hwrite (hall a) (hall b) h

/-- The outcomes. -/
def Outcome.all : List Outcome :=
  [.fair, .overServed, .underServed, .starvationRisk, .correctionRequired,
    .blockedByStrongerObligation, .unknown, .stale]

lemma Outcome.mem_all (a : Outcome) : a ∈ all := by
  cases a <;> decide

/-- The reasons. -/
def ReasonCode.all : List ReasonCode :=
  [.none, .withinFairBand, .weightedShareDeficit, .weightedShareSurplus, .guaranteeFloorDeficit,
    .guaranteeFloorSurplus, .starvationUnserved, .starvationBelowFloor, .evidenceAbsent,
    .evidenceStaleGeneration, .evidenceStaleWindow, .evidenceStaleEpoch, .evidenceStaleAge,
    .subjectGenerationMismatch, .policyGenerationMismatch, .priorityReferenceMismatch,
    .correctiveBudgetExhausted, .correctiveCooldown, .protectedObligationHeld, .subjectCapReached,
    .policyBoundReached, .noCorrectionAvailable, .overcommitDetected]

lemma ReasonCode.mem_all (a : ReasonCode) : a ∈ all := by
  cases a <;> decide

/-- The bounds. -/
def CorrectionBound.all : List CorrectionBound :=
  [.none, .subjectAugmentCap, .subjectReduceCap, .policyTotalBudget, .policyBasisPoints,
    .protectedObligation, .cooldown, .budgetExhausted, .demandSatisfied, .authorityMissing]

lemma CorrectionBound.mem_all (a : CorrectionBound) : a ∈ all := by
  cases a <;> decide

/-- The directions. -/
def CorrectionDirection.all : List CorrectionDirection :=
  [.augment, .reduce]

lemma CorrectionDirection.mem_all (a : CorrectionDirection) : a ∈ all := by
  cases a <;> decide

/-- The codes. -/
def StatusCode.all : List StatusCode :=
  [.ok, .invalidArgument, .outOfRange, .notFound, .alreadyExists, .duplicate, .conflict,
    .notInitialized, .unsupported, .internal, .staleGeneration, .staleEpoch, .staleIncarnation,
    .staleEvidence, .evidenceMissing, .evidenceContradictory, .authorityMismatch,
    .incarnationMismatch, .policyInvalid, .policyGenerationMismatch, .policyOvercommit,
    .groupCycle, .groupDepthExceeded, .subjectGenerationMismatch, .arithmeticOverflow,
    .arithmeticUnderflow, .divideByZero, .limitExceeded, .ioError, .corruptRecord,
    .unsupportedFormat, .truncated, .checksumMismatch, .oversizedPayload, .commitRejected,
    .recoveryRequired, .transportError, .frameInvalid, .frameTooLarge, .handshakeRejected,
    .sequenceViolation, .linkClosed, .linkBusy, .idleTimeout, .shuttingDown, .cancelled, .busy]

lemma StatusCode.mem_all (a : StatusCode) : a ∈ all := by
  cases a <;> decide

/-- No two of a kind have the same name. -/
lemma texts_nodup :
    (Outcome.all.map fun a => ascii a.text).Nodup ∧
    (ReasonCode.all.map fun a => ascii a.text).Nodup ∧
    (CorrectionBound.all.map fun a => ascii a.text).Nodup ∧
    (CorrectionDirection.all.map fun a => ascii a.text).Nodup ∧
    (StatusCode.all.map fun a => ascii a.text).Nodup := by
  decide +kernel

/-- The names are single words. -/
lemma texts_token :
    (∀ a ∈ Outcome.all, Token (ascii a.text)) ∧
    (∀ a ∈ ReasonCode.all, Token (ascii a.text)) ∧
    (∀ a ∈ CorrectionBound.all, Token (ascii a.text)) ∧
    (∀ a ∈ CorrectionDirection.all, Token (ascii a.text)) ∧
    (∀ a ∈ StatusCode.all, Token (ascii a.text)) := by
  decide +kernel

lemma Outcome.text_inj {a b : Outcome} : ascii a.text = ascii b.text ↔ a = b :=
  (injective_of_nodup mem_all texts_nodup.1).eq_iff

lemma Outcome.text_token (a : Outcome) : Token (ascii a.text) :=
  texts_token.1 a a.mem_all

lemma ReasonCode.text_inj {a b : ReasonCode} : ascii a.text = ascii b.text ↔ a = b :=
  (injective_of_nodup mem_all texts_nodup.2.1).eq_iff

lemma ReasonCode.text_token (a : ReasonCode) : Token (ascii a.text) :=
  texts_token.2.1 a a.mem_all

lemma CorrectionBound.text_inj {a b : CorrectionBound} : ascii a.text = ascii b.text ↔ a = b :=
  (injective_of_nodup mem_all texts_nodup.2.2.1).eq_iff

lemma CorrectionBound.text_token (a : CorrectionBound) : Token (ascii a.text) :=
  texts_token.2.2.1 a a.mem_all

lemma CorrectionDirection.text_inj {a b : CorrectionDirection} :
    ascii a.text = ascii b.text ↔ a = b :=
  (injective_of_nodup mem_all texts_nodup.2.2.2.1).eq_iff

lemma CorrectionDirection.text_token (a : CorrectionDirection) : Token (ascii a.text) :=
  texts_token.2.2.2.1 a a.mem_all

lemma StatusCode.text_inj {a b : StatusCode} : ascii a.text = ascii b.text ↔ a = b :=
  (injective_of_nodup mem_all texts_nodup.2.2.2.2).eq_iff

lemma StatusCode.text_token (a : StatusCode) : Token (ascii a.text) :=
  texts_token.2.2.2.2 a a.mem_all

/-! ## Lines -/

section Lines

variable {word : String} {vs vs' : List Field} {rest rest' text text' : ByteBuffer}

lemma fieldLine_cancel (h : fieldLine word vs rest = fieldLine word vs' rest')
    (hnames : vs.map Prod.fst = vs'.map Prod.fst) (hvs : ∀ v ∈ vs, Token v.2)
    (hvs' : ∀ v ∈ vs', Token v.2) (hrest : Stops (· = 32) rest)
    (hrest' : Stops (· = 32) rest') : vs = vs' ∧ rest = rest' := by
  unfold fieldLine at h
  rw [List.append_assoc, List.append_assoc] at h
  exact fields_cancel hnames (fun v hv => (hvs v hv).blank) (fun v hv => (hvs' v hv).blank)
    hrest hrest' (List.append_cancel_left h)

lemma newline_notMem_fieldLine (hword : 10 ∉ ascii word)
    (hnames : ∀ name ∈ vs.map Prod.fst, 10 ∉ name) (hvs : ∀ v ∈ vs, Token v.2)
    (hrest : 10 ∉ rest) : 10 ∉ fieldLine word vs rest := by
  have hfields : 10 ∉ fields 32 61 vs := by
    intro hmem
    obtain ⟨v, hv, hmem⟩ := List.mem_flatMap.mp hmem
    have hname := hnames v.1 (List.mem_map_of_mem hv)
    have hvalue : 10 ∉ v.2 := fun hnewline => (hvs v hv 10 hnewline).2 rfl
    simp [hname, hvalue] at hmem
  simp [fieldLine, hword, hfields, hrest]

/-- The letter behind the blank tells a field from another. -/
lemma not_startsWith {name : ByteBuffer} (hsecond : rest[1]? ≠ name.head?) (hname : name ≠ []) :
    ¬ 32 :: (name ++ [61]) <+: rest := by
  rintro ⟨more, rfl⟩
  apply hsecond
  cases name with
  | nil => exact absurd rfl hname
  | cons c name => rfl

@[simp] lemma appendText_nil (name : String) : appendText name [] = [] := rfl

lemma appendText_stops (name : String) : Stops (· = 32) (appendText name text) := by
  unfold appendText
  split_ifs
  · exact stops_nil _
  · exact (stops_cons _ _ _).mpr rfl

lemma appendText_inj (name : String) :
    appendText name text = appendText name text' ↔ text = text' := by
  refine ⟨fun h => ?_, fun h => by rw [h]⟩
  unfold appendText at h
  split_ifs at h with hempty hempty' hempty'
  · rw [hempty, hempty']
  · cases h
  · cases h
  · exact List.append_cancel_left h

lemma newline_notMem_appendText {name : String} (hname : 10 ∉ ascii name) (htext : 10 ∉ text) :
    10 ∉ appendText name text := by
  unfold appendText
  split_ifs
  · exact List.not_mem_nil
  · have hblank : 10 ∉ ascii " " := by decide
    have hequals : 10 ∉ ascii "=" := by decide
    simp [hname, htext, hblank, hequals]

end Lines

/-! ## Records -/

/-- All the quantities are of the words that hold them. -/
def InWords (quantities : List ℕ) : Prop := ∀ n ∈ quantities, IsWord n

instance (quantities : List ℕ) : Decidable (InWords quantities) :=
  inferInstanceAs (Decidable (∀ n ∈ quantities, IsWord n))

def OutcomeCounts.quantities (counts : OutcomeCounts) : List ℕ :=
  [counts.fair, counts.overServed, counts.underServed, counts.starvationRisk,
    counts.correctionRequired, counts.blockedByStrongerObligation, counts.unknown, counts.stale]

def CorrectionSummary.quantities (summary : CorrectionSummary) : List ℕ :=
  [summary.reduciblePoolUnits, summary.demandUnits, summary.authorizedBudgetUnits,
    summary.augmentUnits, summary.reduceUnits, summary.withheldUnits,
    summary.unsatisfiedDemandUnits, summary.cooldownSuppressed]

def GroupFairnessState.quantities (group : GroupFairnessState) : List ℕ :=
  [group.depth, group.entitlementUnits, group.servedUnits, group.deviationUnits.natAbs,
    group.guaranteeFloorUnits]

def SubjectFairnessState.quantities (subject : SubjectFairnessState) : List ℕ :=
  [subject.groupEntitlementUnits, subject.entitlementUnits, subject.baseEntitlementUnits,
    subject.guaranteeFloorUnits, subject.priorityDeltaUnits.natAbs, subject.servedUnits,
    subject.deviationUnits.natAbs, subject.deficitUnits, subject.surplusUnits,
    subject.cumulativeDeficitAfter, subject.cumulativeSurplusAfter, subject.proposedAugmentUnits,
    subject.proposedReduceUnits, subject.unsatisfiedDemandUnits]

lemma AuthorityVector.values_token (authority : AuthorityVector) :
    ∀ v ∈ authority.values, Token v.2 := by
  simp [values]

lemma OutcomeCounts.values_token (counts : OutcomeCounts) : ∀ v ∈ counts.values, Token v.2 := by
  simp [values]

lemma CorrectionSummary.values_token (summary : CorrectionSummary) :
    ∀ v ∈ summary.values, Token v.2 := by
  simp [values]

lemma GroupFairnessState.values_token (group : GroupFairnessState) :
    ∀ v ∈ group.values, Token v.2 := by
  simp [values]

lemma SubjectFairnessState.values_token (subject : SubjectFairnessState) :
    ∀ v ∈ subject.values, Token v.2 := by
  simp [values, appendName, Outcome.text_token, ReasonCode.text_token]

lemma CorrectiveIntent.values_token (intent : CorrectiveIntent) :
    ∀ v ∈ intent.values, Token v.2 := by
  simp [values, appendName, CorrectionDirection.text_token, CorrectionBound.text_token,
    ReasonCode.text_token]

lemma DiagnosticNote.values_token (note : DiagnosticNote) : ∀ v ∈ note.values, Token v.2 := by
  simp [values, appendName, StatusCode.text_token, ReasonCode.text_token]

lemma AuthorityVector.values_inj {a b : AuthorityVector} : a.values = b.values ↔ a = b := by
  refine ⟨fun h => ?_, fun h => by rw [h]⟩
  obtain ⟨⟨_⟩, ⟨_⟩, ⟨_⟩, ⟨_⟩, ⟨_⟩, ⟨_⟩, ⟨_⟩, _, ⟨⟨_⟩, _⟩, _, _⟩ := a
  obtain ⟨⟨_⟩, ⟨_⟩, ⟨_⟩, ⟨_⟩, ⟨_⟩, ⟨_⟩, ⟨_⟩, _, ⟨⟨_⟩, _⟩, _, _⟩ := b
  simpa [values, and_assoc, UInt32.toUInt64_inj] using h

lemma OutcomeCounts.values_inj {a b : OutcomeCounts} (ha : InWords a.quantities)
    (hb : InWords b.quantities) (h : a.values = b.values) : a = b := by
  cases a
  cases b
  simp only [InWords, quantities, List.forall_mem_cons] at ha hb
  simpa [values, appendQuantity_inj, ha, hb] using h

lemma CorrectionSummary.values_inj {a b : CorrectionSummary} (ha : InWords a.quantities)
    (hb : InWords b.quantities) (h : a.values = b.values) : a = b := by
  cases a
  cases b
  simp only [InWords, quantities, List.forall_mem_cons] at ha hb
  simpa [values, appendQuantity_inj, ha, hb] using h

attribute [ext] GroupFairnessState SubjectFairnessState CorrectiveIntent DiagnosticNote

lemma GroupFairnessState.line_inj {a b : GroupFairnessState} (ha : InWords a.quantities)
    (hb : InWords b.quantities) (h : a.line = b.line) : a = b := by
  obtain ⟨hvalues, hlabel⟩ := fieldLine_cancel h rfl a.values_token b.values_token
    (appendText_stops _) (appendText_stops _)
  rw [appendText_inj] at hlabel
  simp only [InWords, quantities, List.forall_mem_cons] at ha hb
  simp only [values, List.cons.injEq, appendPair_inj, appendU64_inj, appendFlag_inj,
    appendQuantity_inj, appendI64_inj, ha, hb, UInt32.toUInt64_inj] at hvalues
  simp [GroupFairnessState.ext_iff, Id.ext_iff, Generation.ext_iff, hvalues, hlabel]

/-- What is shown of a reference: its class without the generation. -/
def PriorityClassRef.shown (reference : PriorityClassRef) : PriorityClassRef :=
  { id := reference.id }

/-- What is shown of a subject. -/
def SubjectFairnessState.shown (subject : SubjectFairnessState) : SubjectFairnessState :=
  { subject with
    expectedPriority := subject.expectedPriority.shown
    observedPriority := subject.observedPriority.shown }

/-- What is shown of an intent: all but the generation of its subject. -/
def CorrectiveIntent.shown (intent : CorrectiveIntent) : CorrectiveIntent :=
  { intent with subjectGeneration := {} }

lemma appendReference_stops {name : String} {reference : PriorityClassRef} {rest : ByteBuffer}
    (h : Stops (· = 32) rest) : Stops (· = 32) (appendReference name reference ++ rest) := by
  unfold appendReference
  split_ifs
  · exact (stops_cons _ _ _).mpr rfl
  · exact h

lemma appendReference_cancel {name : String} {a b : PriorityClassRef} {rest rest' : ByteBuffer}
    (hrest : Stops (· = 32) rest) (hrest' : Stops (· = 32) rest')
    (hother : ¬ 32 :: (ascii name ++ [61]) <+: rest)
    (hother' : ¬ 32 :: (ascii name ++ [61]) <+: rest')
    (h : appendReference name a ++ rest = appendReference name b ++ rest') :
    a.shown = b.shown ∧ rest = rest' := by
  have hblank : ∀ reference : PriorityClassRef, ∀ v ∈
      (if reference.present then some (toDecimal reference.id.value) else none),
      (32 : UInt8) ∉ v := by
    intro reference v hv
    split_ifs at hv with hpresent
    · rw [← Option.some.inj hv]
      exact (toDecimal_token _).blank
    · cases hv
  obtain ⟨hvalue, hrests⟩ :=
    optionalField_cancel (hblank a) (hblank b) hrest hrest' hother hother' h
  refine ⟨?_, hrests⟩
  unfold PriorityClassRef.shown
  congr 1
  apply Id.ext
  split_ifs at hvalue with hpresent hpresent' hpresent'
  · exact toDecimal_inj.mp (Option.some.inj hvalue)
  · have hzero := not_not.mp hpresent
    have hzero' := not_not.mp hpresent'
    rw [hzero, hzero']

section Subject

variable {text text' : ByteBuffer} {observed observed' : PriorityClassRef}

/-- Neither of the references is told from a label by its name alone: the second letter does. -/
lemma appendText_second : (appendText "label" text)[1]? ≠ some 112 ∧
    (appendText "label" text)[1]? ≠ some 111 := by
  unfold appendText
  split_ifs
  · simp
  · have hletter : ∀ more : ByteBuffer, (ascii " " ++ ascii "label" ++ ascii "=" ++ more)[1]? =
        some 108 := fun more => rfl
    rw [hletter]
    decide

lemma appendReference_second : (appendReference "observed_priority_ref" observed ++
    appendText "label" text)[1]? ≠ some 112 := by
  unfold appendReference
  split_ifs
  · exact (by decide : some (111 : UInt8) ≠ some 112)
  · exact appendText_second.1

/-- What follows the values of a subject. -/
lemma tail_cancel {expected expected' : PriorityClassRef}
    (h : appendReference "priority_ref" expected ++
        (appendReference "observed_priority_ref" observed ++ appendText "label" text) =
      appendReference "priority_ref" expected' ++
        (appendReference "observed_priority_ref" observed' ++ appendText "label" text')) :
    expected.shown = expected'.shown ∧ observed.shown = observed'.shown ∧ text = text' := by
  obtain ⟨hexpected, htail⟩ := appendReference_cancel
    (appendReference_stops (appendText_stops _)) (appendReference_stops (appendText_stops _))
    (not_startsWith appendReference_second (by decide))
    (not_startsWith appendReference_second (by decide)) h
  obtain ⟨hobserved, hlabel⟩ := appendReference_cancel (appendText_stops _) (appendText_stops _)
    (not_startsWith appendText_second.2 (by decide))
    (not_startsWith appendText_second.2 (by decide)) htail
  exact ⟨hexpected, hobserved, (appendText_inj _).mp hlabel⟩

end Subject

lemma SubjectFairnessState.names_eq (a b : SubjectFairnessState) :
    a.values.map Prod.fst = b.values.map Prod.fst := by
  simp only [values, List.map_cons, List.map_nil, appendPair, appendU64, appendQuantity, appendI64,
    appendFlag, appendName]

lemma SubjectFairnessState.line_inj {a b : SubjectFairnessState} (ha : InWords a.quantities)
    (hb : InWords b.quantities) (h : a.line = b.line) : a.shown = b.shown := by
  obtain ⟨hvalues, htail⟩ := fieldLine_cancel h (names_eq a b) a.values_token b.values_token
    (appendReference_stops (appendReference_stops (appendText_stops _)))
    (appendReference_stops (appendReference_stops (appendText_stops _)))
  obtain ⟨hexpected, hobserved, hlabel⟩ := tail_cancel htail
  simp only [InWords, quantities, List.forall_mem_cons] at ha hb
  simp only [values, List.cons.injEq, appendPair_inj, appendU64_inj, appendFlag_inj,
    appendQuantity_inj, appendI64_inj, ha, hb, isWord_bps, appendName_inj, Outcome.text_inj,
    ReasonCode.text_inj, UInt32.toUInt64_inj, Int32.toInt_inj] at hvalues
  simp [SubjectFairnessState.ext_iff, shown, Id.ext_iff, Generation.ext_iff, hvalues, hlabel,
    hexpected, hobserved]

lemma CorrectiveIntent.line_inj {a b : CorrectiveIntent} (ha : IsWord a.units)
    (hb : IsWord b.units) (h : a.line = b.line) : a.shown = b.shown := by
  have hvalues := (fieldLine_cancel h rfl a.values_token b.values_token (stops_nil _)
    (stops_nil _)).1
  simp only [values, List.cons.injEq, appendPair_inj, appendU64_inj, appendFlag_inj,
    appendQuantity_inj, ha, hb, appendName_inj, CorrectionDirection.text_inj,
    CorrectionBound.text_inj, ReasonCode.text_inj, UInt32.toUInt64_inj] at hvalues
  simp [CorrectiveIntent.ext_iff, shown, Id.ext_iff, Generation.ext_iff, hvalues]

lemma DiagnosticNote.line_inj {a b : DiagnosticNote} (h : a.line = b.line) : a = b := by
  obtain ⟨hvalues, hdetail⟩ := fieldLine_cancel h rfl a.values_token b.values_token
    (appendText_stops _) (appendText_stops _)
  rw [appendText_inj, textBytes_inj] at hdetail
  simp only [values, List.cons.injEq, appendU64_inj, appendName_inj, StatusCode.text_inj,
    ReasonCode.text_inj] at hvalues
  simp [DiagnosticNote.ext_iff, Id.ext_iff, hvalues, hdetail]

/-! ## Ends of lines -/

/-- Nothing that a decision quotes ends a line. -/
structure FairnessDecision.Plain (decision : FairnessDecision) : Prop where
  groups : ∀ group ∈ decision.groups, 10 ∉ group.label
  subjects : ∀ subject ∈ decision.subjects, 10 ∉ subject.label
  notes : ∀ note ∈ decision.notes, 10 ∉ textBytes note.detail

lemma Token.newline {w : ByteBuffer} (h : Token w) : 10 ∉ w := fun hc => (h 10 hc).2 rfl

lemma newline_notMem_appendReference {name : String} (hname : 10 ∉ ascii name)
    (reference : PriorityClassRef) : 10 ∉ appendReference name reference := by
  have hvalue := (toDecimal_token reference.id.value).newline
  unfold appendReference optionalField
  split_ifs
  · simp [hname, hvalue]
  · exact List.not_mem_nil

lemma GroupFairnessState.newline_notMem_line {group : GroupFairnessState} (h : 10 ∉ group.label) :
    10 ∉ group.line := by
  refine newline_notMem_fieldLine (by decide) ?_ group.values_token
    (newline_notMem_appendText (by decide) h)
  simp +decide [values, appendPair, appendU64, appendQuantity, appendI64, appendFlag]

lemma SubjectFairnessState.newline_notMem_line {subject : SubjectFairnessState}
    (h : 10 ∉ subject.label) : 10 ∉ subject.line := by
  have htail : 10 ∉ appendReference "priority_ref" subject.expectedPriority ++
      (appendReference "observed_priority_ref" subject.observedPriority ++
        appendText "label" subject.label) := by
    rw [List.mem_append, List.mem_append, not_or, not_or]
    exact ⟨newline_notMem_appendReference (by decide) _,
      newline_notMem_appendReference (by decide) _, newline_notMem_appendText (by decide) h⟩
  refine newline_notMem_fieldLine (by decide) ?_ subject.values_token htail
  simp +decide [values, appendPair, appendU64, appendQuantity, appendI64, appendFlag, appendName]

lemma CorrectiveIntent.newline_notMem_line (intent : CorrectiveIntent) : 10 ∉ intent.line := by
  refine newline_notMem_fieldLine (by decide) ?_ intent.values_token List.not_mem_nil
  simp +decide [values, appendPair, appendU64, appendQuantity, appendFlag, appendName]

lemma DiagnosticNote.newline_notMem_line {note : DiagnosticNote} (h : 10 ∉ textBytes note.detail) :
    10 ∉ note.line := by
  refine newline_notMem_fieldLine (by decide) ?_ note.values_token
    (newline_notMem_appendText (by decide) h)
  simp +decide [values, appendU64, appendName]

/-- The part of the lines that an option asks for. -/
lemma forall_mem_part {β : Type} {included : Bool} {xs : List β} {write : β → ByteBuffer}
    {p : ByteBuffer → Prop} (h : ∀ x ∈ xs, p (write x)) :
    ∀ line ∈ (if included then xs.map write else []), p line := by
  intro line hline
  split_ifs at hline
  · obtain ⟨x, hx, rfl⟩ := List.mem_map.mp hline
    exact h x hx
  · cases hline

lemma FairnessDecision.Plain.newline_notMem (h : d.Plain) :
    ∀ line ∈ explanationLines d options, 10 ∉ line := by
  have houtcome : 10 ∉ d.outcome.line := by
    have hword : 10 ∉ ascii "outcome " := by decide
    simp [Outcome.line, hword, d.outcome.text_token.newline]
  have hauthority : 10 ∉ fieldLine "authority" d.authority.values [] := by
    refine newline_notMem_fieldLine (by decide) ?_ d.authority.values_token List.not_mem_nil
    simp +decide [AuthorityVector.values, appendPair, appendU64]
  have hcounts : 10 ∉ fieldLine "counts" d.counts.values [] := by
    refine newline_notMem_fieldLine (by decide) ?_ d.counts.values_token List.not_mem_nil
    simp +decide [OutcomeCounts.values, appendU64, appendQuantity]
  have hcorrection : 10 ∉ fieldLine "correction" d.correction.values [] := by
    refine newline_notMem_fieldLine (by decide) ?_ d.correction.values_token List.not_mem_nil
    simp +decide [CorrectionSummary.values, appendU64, appendQuantity, appendFlag]
  have hdigest : 10 ∉ ascii "digest=" ++ toDecimal d.contentDigest := by
    have hword : 10 ∉ ascii "digest=" := by decide
    simp [hword, (toDecimal_token d.contentDigest).newline]
  simp only [explanationLines, List.forall_mem_append, List.forall_mem_cons]
  exact ⟨⟨houtcome, hauthority, hcounts, hcorrection, List.forall_mem_nil _⟩,
    forall_mem_part fun group hgroup =>
      GroupFairnessState.newline_notMem_line (h.groups group hgroup),
    forall_mem_part fun subject hsubject =>
      SubjectFairnessState.newline_notMem_line (h.subjects subject hsubject),
    forall_mem_part fun intent _ => intent.newline_notMem_line,
    forall_mem_part fun note hnote => DiagnosticNote.newline_notMem_line (h.notes note hnote),
    hdigest, List.forall_mem_nil _⟩

/-! ## What is shown -/

/-- The quantities of a decision are of the words that hold them. -/
structure FairnessDecision.InWords (decision : FairnessDecision) : Prop where
  counts : FairnessGovernor.InWords decision.counts.quantities
  correction : FairnessGovernor.InWords decision.correction.quantities
  groups : ∀ group ∈ decision.groups, FairnessGovernor.InWords group.quantities
  subjects : ∀ subject ∈ decision.subjects, FairnessGovernor.InWords subject.quantities
  intents : ∀ intent ∈ decision.intents, IsWord intent.units

/-- What is shown of a decision: the parts that the options ask for. -/
def FairnessDecision.shown (decision : FairnessDecision) (options : ExplainOptions) :
    FairnessDecision :=
  { decision with
    groups := if options.includeGroups then decision.groups else []
    subjects :=
      if options.includeSubjects then decision.subjects.map SubjectFairnessState.shown else []
    intents := if options.includeIntents then decision.intents.map CorrectiveIntent.shown else []
    notes := if options.includeNotes then decision.notes else [] }

/-- What is written alike is shown alike. -/
lemma part_cancel {β γ : Type} {included : Bool} {dom : β → Prop} {write : β → ByteBuffer}
    {view : β → γ} (hwrite : ∀ x y, dom x → dom y → write x = write y → view x = view y)
    {xs ys : List β} (hxs : ∀ x ∈ xs, dom x) (hys : ∀ y ∈ ys, dom y)
    (h : (if included then xs.map write else []) = if included then ys.map write else []) :
    (if included then xs.map view else []) = if included then ys.map view else [] := by
  split_ifs at h ⊢
  · exact map_cancel hwrite hxs hys h
  · rfl

/-- The parts of an explanation that follow its first lines. -/
def explanationParts (decision : FairnessDecision) (options : ExplainOptions) :
    List (List ByteBuffer) :=
  [if options.includeGroups then decision.groups.map GroupFairnessState.line else [],
    if options.includeSubjects then decision.subjects.map SubjectFairnessState.line else [],
    if options.includeIntents then decision.intents.map CorrectiveIntent.line else [],
    if options.includeNotes then decision.notes.map DiagnosticNote.line else [],
    [ascii "digest=" ++ toDecimal decision.contentDigest]]

lemma explanationLines_eq (decision : FairnessDecision) (options : ExplainOptions) :
    explanationLines decision options =
      [decision.outcome.line, fieldLine "authority" decision.authority.values [],
        fieldLine "counts" decision.counts.values [],
        fieldLine "correction" decision.correction.values []] ++
      (explanationParts decision options).flatten := by
  simp [explanationLines, explanationParts]

/-- The lines show the decision: each part starts with a letter of its own. -/
lemma shown_of_lines (hd : d.InWords) (hd' : d'.InWords)
    (h : explanationLines d options = explanationLines d' options) :
    d.shown options = d'.shown options := by
  rw [explanationLines_eq, explanationLines_eq] at h
  simp only [List.cons_append, List.nil_append, List.cons.injEq] at h
  obtain ⟨houtcome, hauthority, hcounts, hcorrection, hparts⟩ := h
  have houtcome : d.outcome = d'.outcome :=
    Outcome.text_inj.mp (List.append_cancel_left houtcome)
  have hauthority : d.authority = d'.authority :=
    AuthorityVector.values_inj.mp (fieldLine_cancel hauthority rfl d.authority.values_token
      d'.authority.values_token (stops_nil _) (stops_nil _)).1
  have hcounts : d.counts = d'.counts :=
    OutcomeCounts.values_inj hd.counts hd'.counts (fieldLine_cancel hcounts rfl
      d.counts.values_token d'.counts.values_token (stops_nil _) (stops_nil _)).1
  have hcorrection : d.correction = d'.correction :=
    CorrectionSummary.values_inj hd.correction hd'.correction (fieldLine_cancel hcorrection rfl
      d.correction.values_token d'.correction.values_token (stops_nil _) (stops_nil _)).1
  -- a group, a subject, an intent, a note and the digest start with different letters
  have hkeyed : ∀ decision : FairnessDecision, Keyed List.head?
      [some 103, some 115, some 105, some 110, some 100] (explanationParts decision options) := by
    intro decision
    exact .cons (forall_mem_part fun _ _ => rfl) <| .cons (forall_mem_part fun _ _ => rfl) <|
      .cons (forall_mem_part fun _ _ => rfl) <| .cons (forall_mem_part fun _ _ => rfl) <|
      .cons (List.forall_mem_singleton.mpr rfl) .nil
  have hsame := flatten_cancel (by decide) (hkeyed d) (hkeyed d') hparts
  simp only [explanationParts, List.cons.injEq] at hsame
  obtain ⟨hgroups, hsubjects, hintents, hnotes, ⟨hcontent, -⟩, -⟩ := hsame
  have hcontent : d.contentDigest = d'.contentDigest :=
    toDecimal_inj.mp (List.append_cancel_left hcontent)
  have hgroups := @part_cancel _ _ _ (fun g => InWords g.quantities) _ id
    (fun _ _ => GroupFairnessState.line_inj) _ _ hd.groups hd'.groups hgroups
  have hsubjects := part_cancel (fun _ _ => SubjectFairnessState.line_inj) hd.subjects
    hd'.subjects hsubjects
  have hintents := part_cancel (fun _ _ => CorrectiveIntent.line_inj) hd.intents hd'.intents
    hintents
  have hnotes := @part_cancel _ _ _ (fun _ => True) _ id
    (fun _ _ _ _ => DiagnosticNote.line_inj) _ _ (fun _ _ => trivial) (fun _ _ => trivial) hnotes
  rw [List.map_id, List.map_id] at hgroups hnotes
  simp only [FairnessDecision.shown, houtcome, hauthority, hcounts, hcorrection, hgroups,
    hsubjects, hintents, hnotes, hcontent]

/-- What is not shown does not change the lines. -/
lemma lines_of_shown (decision : FairnessDecision) (options : ExplainOptions) :
    explanationLines (decision.shown options) options = explanationLines decision options := by
  have hsubject : SubjectFairnessState.line ∘ SubjectFairnessState.shown =
      SubjectFairnessState.line := rfl
  have hintent : CorrectiveIntent.line ∘ CorrectiveIntent.shown = CorrectiveIntent.line := rfl
  unfold explanationLines FairnessDecision.shown
  split_ifs <;> simp only [List.map_map, hsubject, hintent]

/-- Two decisions have the same explanation, with nothing cut off, exactly when the same is shown of
both. -/
theorem explanation_determines (hd : d.InWords) (hd' : d'.InWords) (hplain : d.Plain)
    (hplain' : d'.Plain) (hfits : (explain d options).length ≤ options.maxBytes.toNat) :
    explain d options = explain d' options ↔ d.shown options = d'.shown options := by
  constructor
  · intro h
    have htext : explanationText d options = explanationText d' options := by
      rw [← explain_of_fits hfits, h, explain_of_fits (h ▸ hfits)]
    exact shown_of_lines hd hd'
      (lines_injective hplain.newline_notMem hplain'.newline_notMem htext)
  · intro h
    unfold explain
    rw [← lines_of_shown d, ← lines_of_shown d', h]

/-- A group that was served too little, and a note. -/
def noted : FairnessDecision :=
  { outcome := .underServed
    groups := [{ id := ⟨7⟩, deviationUnits := -3, label := ascii "tenant a" }]
    notes := [{ reason := .weightedShareDeficit, detail := "see the group" }] }

theorem explanation_determines_noted :
    explain noted {} = explain { noted with contentDigest := 1 } {} ↔
      noted.shown {} = FairnessDecision.shown { noted with contentDigest := 1 } {} := by
  have hwords : noted.InWords := by
    constructor <;> decide
  have hplain : noted.Plain := by
    constructor <;> decide
  exact explanation_determines hwords ⟨hwords.1, hwords.2, hwords.3, hwords.4, hwords.5⟩ hplain
    ⟨hplain.1, hplain.2, hplain.3⟩ (by decide +kernel)

end FairnessGovernor
