/-
# Parsing a scenario

`parse_scenario` reads a text line by line.  Each directive has its own handler; the handlers
hand on what was declared so far and which blocks are open.  What was declared is validated at
the end.
-/
import FairnessGovernor.Scenario.Attributes

namespace FairnessGovernor

/-- A parsed scenario. -/
structure Scenario where
  hasPolicy : Bool := false
  policy : FairnessPolicy := {}
  epoch : FabricEpoch := {}
  evidence : List EvidenceSnapshot := []
  hasRequest : Bool := false
  request : EvaluationRequest := {}
  sourceDigest : UInt64 := 0

/-- `ParseError`. -/
structure ParseError where
  line : ℕ
  message : ByteBuffer

/-- What `Parser::parse` keeps between two lines.  `current_evidence` is the last snapshot while
the evidence block is open, and null otherwise. -/
structure Parsing where
  scenario : Scenario := {}
  sawVersion : Bool := false
  sawBody : Bool := false
  inPolicy : Bool := false
  inEvidence : Bool := false

/-! ## Directives -/

/-- The identity and the generation that a line starts with. -/
def parseIdentity (short numbers : String) (line : Line) : Except ByteBuffer (UInt64 × UInt64) :=
  match line.tokens with
  | _ :: id :: generation :: _ =>
    match parseU64 id, parseU64 generation with
    | some id, some generation => .ok (id, generation)
    | _, _ => .error (ascii numbers)
  | _ => .error (ascii short)

/-- An element of a block: its identity, its generation and its attributes. -/
def readElement {α : Type} (table : AttributeTable α) (short numbers : String)
    (make : UInt64 → UInt64 → α) (line : Line) : Except ByteBuffer α := do
  let (id, generation) ← parseIdentity short numbers line
  readAttributes table (line.tokens.drop 3) [] (make id generation)

/-- The directive `version`. -/
def parseVersion (state : Parsing) (line : Line) : Except ByteBuffer Parsing :=
  if state.sawVersion ∨ line.tokens.length ≠ 2 then
    .error (ascii "version must appear exactly once with one value")
  else if parseU64 (line.tokens.getD 1 []) ≠ some 1 then
    .error (ascii "unsupported scenario format version")
  else .ok { state with sawVersion := true }

/-- The directive `epoch`. -/
def parseEpoch (state : Parsing) (line : Line) : Except ByteBuffer Parsing :=
  if line.tokens.length ≠ 2 then .error (ascii "epoch takes exactly one value")
  else
    match parseU64 (line.tokens.getD 1 []) with
    | none => .error (ascii "epoch is not an unsigned integer")
    | some value => .ok { state with scenario := { state.scenario with epoch := ⟨value⟩ } }

/-- The directive `policy`: what an earlier policy line declared and this one does not stays. -/
def parsePolicy (state : Parsing) (line : Line) : Except ByteBuffer Parsing := do
  let (id, generation) ← parseIdentity "policy requires an identity and a generation"
    "policy identity and generation must be unsigned integers" line
  let policy ← readPolicyAttributes policyAttributes (line.tokens.drop 3)
    { state.scenario.policy with id := ⟨id⟩, generation := ⟨generation⟩ }
  return { state with
    scenario := { state.scenario with policy := policy, hasPolicy := true }
    inPolicy := true
    inEvidence := false }

/-- The directive `group`. -/
def parseGroup (state : Parsing) (line : Line) : Except ByteBuffer Parsing :=
  if ¬ state.inPolicy then .error (ascii "group must follow a policy directive")
  else do
    let group ← readElement groupAttributes "group requires an identity and a generation"
      "group identity and generation must be unsigned integers"
      (fun id generation => { id := ⟨id⟩, generation := ⟨generation⟩ }) line
    let group := if line.hasLabel then { group with label := line.label } else group
    let policy := state.scenario.policy
    return { state with scenario := { state.scenario with
      policy := { policy with groups := policy.groups ++ [group] } } }

/-- The directive `subject`. -/
def parseSubject (state : Parsing) (line : Line) : Except ByteBuffer Parsing :=
  if ¬ state.inPolicy then .error (ascii "subject must follow a policy directive")
  else do
    let subject ← readElement subjectAttributes "subject requires an identity and a generation"
      "subject identity and generation must be unsigned integers"
      (fun id generation => { id := ⟨id⟩, generation := ⟨generation⟩ }) line
    let subject := if line.hasLabel then { subject with label := line.label } else subject
    let policy := state.scenario.policy
    return { state with scenario := { state.scenario with
      policy := { policy with subjects := policy.subjects ++ [subject] } } }

/-- The directive `evidence`. -/
def parseEvidence (state : Parsing) (line : Line) : Except ByteBuffer Parsing := do
  let snapshot ← readElement evidenceAttributes "evidence requires an identity and a generation"
    "evidence identity and generation must be unsigned integers"
    (fun id generation => { id := ⟨id⟩, generation := ⟨generation⟩ }) line
  return { state with
    scenario := { state.scenario with evidence := state.scenario.evidence ++ [snapshot] }
    inPolicy := false
    inEvidence := true }

/-- `current_evidence->observations.push_back(observation)`. -/
def observe (observation : SubjectObservation) : List EvidenceSnapshot → List EvidenceSnapshot
  | [] => []
  | [snapshot] => [{ snapshot with observations := snapshot.observations ++ [observation] }]
  | snapshot :: rest => snapshot :: observe observation rest

/-- The directive `obs`. -/
def parseObs (state : Parsing) (line : Line) : Except ByteBuffer Parsing :=
  if ¬ state.inEvidence then .error (ascii "obs must follow an evidence directive")
  else do
    let observation ← readElement obsAttributes "obs requires a subject identity and a generation"
      "obs identity and generation must be unsigned integers"
      (fun id generation => { id := ⟨id⟩, generation := ⟨generation⟩ }) line
    return { state with scenario := { state.scenario with
      evidence := observe observation state.scenario.evidence } }

/-- The directive `request`, which replaces the request of an earlier line. -/
def parseRequest (state : Parsing) (line : Line) : Except ByteBuffer Parsing := do
  let request ← readAttributes requestAttributes (line.tokens.drop 1) [] {}
  return { state with
    scenario := { state.scenario with request := request, hasRequest := true }
    inPolicy := false
    inEvidence := false }

/-- One round of the loop of `Parser::parse`. -/
def parseLine (state : Parsing) (line : Line) : Except ByteBuffer Parsing :=
  match line.tokens with
  | [] => .error (ascii "line carries only a label attribute")
  | directive :: _ =>
    if directive = ascii "version" then parseVersion state line
    else if ¬ state.sawVersion then .error (ascii "the first directive must be: version 1")
    else
      let state := { state with sawBody := true }
      if directive = ascii "epoch" then parseEpoch state line
      else if directive = ascii "policy" then parsePolicy state line
      else if directive = ascii "group" then parseGroup state line
      else if directive = ascii "subject" then parseSubject state line
      else if directive = ascii "evidence" then parseEvidence state line
      else if directive = ascii "obs" then parseObs state line
      else if directive = ascii "request" then parseRequest state line
      else .error (ascii "unknown directive: " ++ directive)

/-! ## The document -/

/-- `to_string(StatusCode)`. -/
def StatusCode.text : StatusCode → String
  | .ok => "OK"
  | .invalidArgument => "INVALID_ARGUMENT"
  | .outOfRange => "OUT_OF_RANGE"
  | .notFound => "NOT_FOUND"
  | .alreadyExists => "ALREADY_EXISTS"
  | .duplicate => "DUPLICATE"
  | .conflict => "CONFLICT"
  | .notInitialized => "NOT_INITIALIZED"
  | .unsupported => "UNSUPPORTED"
  | .internal => "INTERNAL"
  | .staleGeneration => "STALE_GENERATION"
  | .staleEpoch => "STALE_EPOCH"
  | .staleIncarnation => "STALE_INCARNATION"
  | .staleEvidence => "STALE_EVIDENCE"
  | .evidenceMissing => "EVIDENCE_MISSING"
  | .evidenceContradictory => "EVIDENCE_CONTRADICTORY"
  | .authorityMismatch => "AUTHORITY_MISMATCH"
  | .incarnationMismatch => "INCARNATION_MISMATCH"
  | .policyInvalid => "POLICY_INVALID"
  | .policyGenerationMismatch => "POLICY_GENERATION_MISMATCH"
  | .policyOvercommit => "POLICY_OVERCOMMIT"
  | .groupCycle => "GROUP_CYCLE"
  | .groupDepthExceeded => "GROUP_DEPTH_EXCEEDED"
  | .subjectGenerationMismatch => "SUBJECT_GENERATION_MISMATCH"
  | .arithmeticOverflow => "ARITHMETIC_OVERFLOW"
  | .arithmeticUnderflow => "ARITHMETIC_UNDERFLOW"
  | .divideByZero => "DIVIDE_BY_ZERO"
  | .limitExceeded => "LIMIT_EXCEEDED"
  | .ioError => "IO_ERROR"
  | .corruptRecord => "CORRUPT_RECORD"
  | .unsupportedFormat => "UNSUPPORTED_FORMAT"
  | .truncated => "TRUNCATED"
  | .checksumMismatch => "CHECKSUM_MISMATCH"
  | .oversizedPayload => "OVERSIZED_PAYLOAD"
  | .commitRejected => "COMMIT_REJECTED"
  | .recoveryRequired => "RECOVERY_REQUIRED"
  | .transportError => "TRANSPORT_ERROR"
  | .frameInvalid => "FRAME_INVALID"
  | .frameTooLarge => "FRAME_TOO_LARGE"
  | .handshakeRejected => "HANDSHAKE_REJECTED"
  | .sequenceViolation => "SEQUENCE_VIOLATION"
  | .linkClosed => "LINK_CLOSED"
  | .linkBusy => "LINK_BUSY"
  | .idleTimeout => "IDLE_TIMEOUT"
  | .shuttingDown => "SHUTTING_DOWN"
  | .cancelled => "CANCELLED"
  | .busy => "BUSY"

/-- `Status::to_string`. -/
def Status.text (status : Status) : String :=
  if status.detail = "" then status.code.text else status.code.text ++ ": " ++ status.detail

/-- The epoch of the document is the epoch of its policy. -/
def Scenario.withEpoch (scenario : Scenario) : Scenario :=
  if scenario.hasPolicy then
    let epoch := if scenario.epoch.valid then scenario.epoch else scenario.policy.epoch
    { scenario with epoch := epoch, policy := { scenario.policy with epoch := epoch } }
  else scenario

/-- What `Parser::parse` does behind the last line, which has the given number. -/
def finishParse (state : Parsing) (number : ℕ) (text : ByteBuffer) : Except ParseError Scenario :=
  if ¬ state.sawVersion then .error ⟨number, ascii "the document must begin with: version 1"⟩
  else if ¬ state.sawBody then
    .error ⟨number, ascii "the document declares no policy, evidence, or request"⟩
  else
    let scenario := state.scenario.withEpoch
    match if scenario.hasPolicy then validatePolicy scenario.policy else .ok () with
    | .error status =>
      .error ⟨0, ascii ("policy is not valid: " ++ status.code.text ++ " " ++ status.detail)⟩
    | .ok () =>
      match forEach validateEvidence scenario.evidence with
      | .error status => .error ⟨0, ascii ("evidence is not valid: " ++ status.text)⟩
      | .ok () => .ok { scenario with sourceDigest := checksum64 text }

/-- `Parser::parse`. -/
def parse (text : ByteBuffer) : Except ParseError Scenario := do
  let state ← (linesOf text).foldlM (fun state line =>
    (parseLine state line).mapError fun message => ⟨line.number, message⟩) {}
  finishParse state (rawLines text).length text

/-- `parse_scenario`; the error is the detail of its status, `INVALID_ARGUMENT`. -/
def parseScenario (text : ByteBuffer) : Except ByteBuffer Scenario :=
  (parse text).mapError fun error =>
    ascii "line " ++ toDecimal (UInt64.ofNat error.line) ++ ascii ": " ++ error.message

end FairnessGovernor
