/-
# What an operation makes of the durable records

On the file system of a commit an operation may end with an error at any of its writes, or a
crash may interrupt it.  Whichever it is, the settled records move as `Moves` says: a record is
replaced only by a governor that knows its generation, by one that is not behind in its epoch,
and a policy only by a policy of a higher generation.
-/
import FairnessGovernor.Governor.Fencing
import FairnessGovernor.Persist.Records

namespace FairnessGovernor

open Program Crash Runs DurableStore

/-! ## Operations as programs -/

/-- A call of an operation. -/
inductive Operation
  | ingest (snapshot : EvidenceSnapshot)
  | evaluate (request : EvaluationRequest)
  | commit (decision : FairnessDecision)
  | installPolicy (policy : FairnessPolicy)
  | advanceEpoch (nextEpoch : FabricEpoch)
  | clearStaged
  | shutdown

/-- The program of a call; it returns the event and the governor after it. -/
def Operation.run (g : Governor) : Operation → FileM (Event × Governor)
  | ingest snapshot =>
    pure (.ingest snapshot (g.ingestEvidence snapshot).1, (g.ingestEvidence snapshot).2)
  | evaluate request => pure (.evaluate request (g.evaluate request), g)
  | commit decision => do
    let outcome ← g.commit decision
    return (.commit decision outcome.1, outcome.2)
  | installPolicy policy => do
    let outcome ← g.installPolicy policy
    return (.installPolicy policy outcome.1, outcome.2)
  | advanceEpoch nextEpoch => do
    let outcome ← g.advanceEpoch nextEpoch
    return (.advanceEpoch nextEpoch outcome.1, outcome.2)
  | clearStaged => pure (.clearStaged, g.clearStaged)
  | shutdown => pure (.shutdown, g.shutdown)

variable {g g' : Governor} {e : Event} {operation : Operation}

/-- Every outcome of a call is a step. -/
lemma Operation.step (h : Returns (operation.run g) (e, g')) : Step g e g' := by
  cases operation with
  | ingest snapshot =>
    obtain ⟨rfl, rfl⟩ := Prod.mk_inj.mp (returns_pure.mp h)
    exact .ingest g snapshot
  | evaluate request =>
    obtain ⟨rfl, rfl⟩ := Prod.mk_inj.mp (returns_pure.mp h)
    exact .evaluate g request
  | commit decision =>
    obtain ⟨outcome, houtcome, h⟩ := returns_bind.mp h
    obtain ⟨rfl, rfl⟩ := Prod.mk_inj.mp (returns_pure.mp h)
    exact .commit houtcome
  | installPolicy policy =>
    obtain ⟨outcome, houtcome, h⟩ := returns_bind.mp h
    obtain ⟨rfl, rfl⟩ := Prod.mk_inj.mp (returns_pure.mp h)
    exact .installPolicy houtcome
  | advanceEpoch nextEpoch =>
    obtain ⟨outcome, houtcome, h⟩ := returns_bind.mp h
    obtain ⟨rfl, rfl⟩ := Prod.mk_inj.mp (returns_pure.mp h)
    exact .advanceEpoch houtcome
  | clearStaged =>
    obtain ⟨rfl, rfl⟩ := Prod.mk_inj.mp (returns_pure.mp h)
    exact .clearStaged g
  | shutdown =>
    obtain ⟨rfl, rfl⟩ := Prod.mk_inj.mp (returns_pure.mp h)
    exact .shutdown g

/-! ## What an operation makes of the records -/

/-- The governor writes to the store of a directory, or it was shut down. -/
def Attached (directory : String) (g : Governor) : Prop :=
  g.store = some { directory := directory } ∨ g.store = none ∧ g.stopping = true

/-- The governor's next policy record takes the place of `v`. -/
def Governor.CommitsPolicy (g : Governor) (policy : FairnessPolicy) (v : Option DecodedRecord)
    (record : DecodedRecord) : Prop :=
  Replaces v g.policyRecordGeneration (g.policyRecordGeneration + 1) (encodePolicy policy) record

/-- The governor's next accounting record takes the place of `v`. -/
def Governor.CommitsAccounting (g : Governor) (accounting : FairnessAccounting)
    (v : Option DecodedRecord) (record : DecodedRecord) : Prop :=
  Replaces v g.accountingRecordGeneration (g.accountingRecordGeneration + 1)
    (encodeAccounting accounting) record

/-- What becomes of the policy: a new one may be durable without being served. -/
inductive PolicyMoves (g : Governor) (v : Option DecodedRecord) (g' : Governor) :
    Option DecodedRecord → Prop
  | kept : g'.policy = g.policy → g'.policyRecordGeneration = g.policyRecordGeneration →
      PolicyMoves g v g' v
  | unserved {policy : FairnessPolicy} {record : DecodedRecord} : Installable g policy →
      g.CommitsPolicy policy v record → g'.policy = g.policy →
      g'.policyRecordGeneration = g.policyRecordGeneration → PolicyMoves g v g' (some record)
  | installed {policy : FairnessPolicy} {record : DecodedRecord} : Installable g policy →
      g.CommitsPolicy policy v record → g'.policy = policy → g'.epoch = policy.epoch →
      g'.policyRecordGeneration = record.generation → PolicyMoves g v g' (some record)

/-- Only the policy, the epoch and the record generation matter. -/
lemma PolicyMoves.congr {v v' : Option DecodedRecord} {again : Governor}
    (h : PolicyMoves g v g' v') (hpolicy : again.policy = g'.policy)
    (hepoch : again.epoch = g'.epoch)
    (hgeneration : again.policyRecordGeneration = g'.policyRecordGeneration) :
    PolicyMoves g v again v' := by
  cases h with
  | kept hp hr => exact .kept (hpolicy.trans hp) (hgeneration.trans hr)
  | unserved hi hc hp hr => exact .unserved hi hc (hpolicy.trans hp) (hgeneration.trans hr)
  | installed hi hc hp he hr =>
    exact .installed hi hc (hpolicy.trans hp) (hepoch.trans he) (hgeneration.trans hr)

/-- What becomes of the accounting record. -/
inductive AccountingMoves (g : Governor) (v : Option DecodedRecord) (g' : Governor) :
    Option DecodedRecord → Prop
  | kept : g'.accountingRecordGeneration = g.accountingRecordGeneration →
      AccountingMoves g v g' v
  | unacknowledged {accounting : FairnessAccounting} {record : DecodedRecord} :
      g.CommitsAccounting accounting v record → g.epoch.value ≤ accounting.epoch.value →
      g'.accountingRecordGeneration = g.accountingRecordGeneration →
      AccountingMoves g v g' (some record)
  | recorded {accounting : FairnessAccounting} {record : DecodedRecord} :
      g.CommitsAccounting accounting v record → accounting.epoch = g'.epoch →
      g'.accountingRecordGeneration = record.generation → AccountingMoves g v g' (some record)

/-- The policy record names the epoch. -/
def NamedByPolicy (v : Option DecodedRecord) (epoch : FabricEpoch) : Prop :=
  ∃ record policy, v = some record ∧ record.payload = encodePolicy policy ∧
    validatePolicy policy = .ok () ∧ policy.epoch = epoch

/-- The accounting record names the epoch. -/
def NamedByAccounting (v : Option DecodedRecord) (epoch : FabricEpoch) : Prop :=
  ∃ record accounting, v = some record ∧ record.payload = encodeAccounting accounting ∧
    accounting.epoch = epoch

/-- What an operation may do to a governor and to the records under it. -/
structure Moves (g : Governor) (records : Records) (g' : Governor) (records' : Records) : Prop where
  policy : PolicyMoves g (records .policy) g' (records' .policy)
  accounting : AccountingMoves g (records .accounting) g' (records' .accounting)
  epoch_le : g.epoch.value ≤ g'.epoch.value
  epoch : g'.epoch = g.epoch ∨ NamedByPolicy (records' .policy) g'.epoch ∨
    NamedByAccounting (records' .accounting) g'.epoch
  attached : ∀ directory, Attached directory g → Attached directory g'
  stopped : g.stopping = true → records' = records ∧ g'.epoch = g.epoch ∧ g'.stopping = true

variable {records now : Records} {store : DurableStore} {dir : Directory}

/-- What a governor does not write, it does not change. -/
lemma Moves.quiet (hpolicy : g'.policy = g.policy) (hepoch : g'.epoch = g.epoch)
    (hrecord : g'.policyRecordGeneration = g.policyRecordGeneration)
    (haccounting : g'.accountingRecordGeneration = g.accountingRecordGeneration)
    (hstore : ∀ directory, Attached directory g → Attached directory g')
    (hstopped : g.stopping = true → g'.stopping = true) : Moves g records g' records :=
  ⟨.kept hpolicy hrecord, .kept haccounting, UInt64.le_of_eq (by rw [hepoch]), .inl hepoch, hstore,
    fun h => ⟨rfl, hepoch, hstopped h⟩⟩

lemma Moves.refl : Moves g records g records := .quiet rfl rfl rfl rfl (fun _ h => h) fun h => h

/-- A move before the accounting record is written. -/
structure MovesPolicy (g : Governor) (records : Records) (g' : Governor) (now : Records) : Prop where
  running : g.stopping = false
  policy : PolicyMoves g (records .policy) g' (now .policy)
  accounting : now .accounting = records .accounting
  generation : g'.accountingRecordGeneration = g.accountingRecordGeneration
  epoch_le : g.epoch.value ≤ g'.epoch.value
  epoch : g'.epoch = g.epoch ∨ NamedByPolicy (now .policy) g'.epoch
  attached : ∀ directory, Attached directory g → Attached directory g'

lemma MovesPolicy.refl (h : g.stopping = false) : MovesPolicy g records g records :=
  ⟨h, .kept rfl rfl, rfl, rfl, UInt64.le_refl _, .inl rfl, fun _ h => h⟩

/-- Whatever a running governor does. -/
lemma not_stopped {P : Prop} (hrunning : g.stopping = false) (hstopped : g.stopping = true) : P :=
  absurd (hrunning.symm.trans hstopped) Bool.false_ne_true

lemma MovesPolicy.moves (h : MovesPolicy g records g' now) : Moves g records g' now :=
  ⟨h.policy, h.accounting ▸ .kept h.generation, h.epoch_le, h.epoch.imp_right .inl, h.attached,
    not_stopped h.running⟩

/-- After it an accounting record may be written that the governor does not know of. -/
lemma MovesPolicy.unacknowledged {accounting : FairnessAccounting}
    (h : MovesPolicy g records g' now) (hle : g.epoch.value ≤ accounting.epoch.value)
    {records' : Records} (htried : records' = now ∨ ∃ record,
      g.CommitsAccounting accounting (now .accounting) record ∧
        records' = Function.update now .accounting (some record)) :
    Moves g records g' records' := by
  rcases htried with rfl | ⟨record, hrecord, rfl⟩
  · exact h.moves
  · rw [h.accounting] at hrecord
    exact ⟨h.policy, .unacknowledged hrecord hle h.generation, h.epoch_le, h.epoch.imp_right .inl,
      h.attached, not_stopped h.running⟩

/-! ## The durable commits -/

section Commits

variable {α β : Type}

lemma crashFaults_none (present : Bool) : CrashFaults {} present := ⟨rfl, rfl, fun h => by cases h⟩

/-- A commit that is followed by nothing that fails. -/
lemma commit_then {kind : RecordKind} {expected next : UInt64} {payload : ByteBuffer}
    {writer : Incarnation} (a : α) (hfaults : store.faults = {}) (h : store.Settled records dir) :
    let p : StatusM α := store.commit kind expected next payload writer >>= fun _ => pure a
    (∀ b t, Ends commitDevice p.run dir (.ok b) t → b = a ∧ ∃ record,
      Replaces (records kind) expected next payload record ∧
        store.Settled (Function.update records kind (some record)) t) ∧
    (∀ e t, Ends commitDevice p.run dir (.error e) t →
      ∃ records', Attempted records kind expected next payload records' ∧
        store.Settled records' t) ∧
    ∀ t, Crashes commitDevice p.run dir t →
      ∃ records', Attempted records kind expected next payload records' ∧
        store.Settled records' t := by
  intro p
  obtain ⟨hok, herror, hcrash⟩ := @commit_settled store kind dir records expected next payload
    writer (hfaults ▸ crashFaults_none _) h
  refine ⟨fun b t ht => ?_, fun e t ht => ?_, fun t ht => ?_⟩
  · rcases ends_bind_except.mp ht with ⟨⟨⟩, s, hs, hb, rfl⟩ | ⟨_, -, hbad⟩
    · exact ⟨(Except.ok.inj hb).symm, hok _ hs⟩
    · cases hbad
  · rcases ends_bind_except.mp ht with ⟨⟨⟩, s, hs, hb, rfl⟩ | ⟨e', he, -⟩
    · cases hb
    · exact herror e' t he
  · rcases crashes_bind_except ht with ht | ⟨⟨⟩, s, hs, rfl⟩
    · exact hcrash t ht
    · obtain ⟨record, hrecord, hsettled⟩ := hok _ hs
      exact ⟨_, .inr ⟨record, hrecord, rfl⟩, hsettled⟩

lemma commitPolicy_settled (hstore : g.store = some store) (hfaults : store.faults = {})
    (h : store.Settled records dir) :
    (∀ g' t, Ends commitDevice g.commitPolicy.run dir (.ok g') t → ∃ record,
      g.CommitsPolicy g.policy (records .policy) record ∧
        g' = { g with policyRecordGeneration := record.generation } ∧
        store.Settled (Function.update records .policy (some record)) t) ∧
    (∀ e t, Ends commitDevice g.commitPolicy.run dir (.error e) t →
      ∃ records', (records' = records ∨ ∃ record,
        g.CommitsPolicy g.policy (records .policy) record ∧
          records' = Function.update records .policy (some record)) ∧
        store.Settled records' t) ∧
    ∀ t, Crashes commitDevice g.commitPolicy.run dir t →
      ∃ records', (records' = records ∨ ∃ record,
        g.CommitsPolicy g.policy (records .policy) record ∧
          records' = Function.update records .policy (some record)) ∧
        store.Settled records' t := by
  unfold Governor.commitPolicy
  rw [hstore]
  obtain ⟨hok, herror, hcrash⟩ := commit_then _ hfaults h
  refine ⟨fun g' t ht => ?_, herror, hcrash⟩
  obtain ⟨rfl, record, hrecord, hsettled⟩ := hok g' t ht
  exact ⟨record, hrecord, by rw [hrecord.generation], hsettled⟩

lemma commitAccounting_settled (hstore : g.store = some store) (hfaults : store.faults = {})
    (h : store.Settled records dir) :
    (∀ g' t, Ends commitDevice g.commitAccounting.run dir (.ok g') t → ∃ record,
      g.CommitsAccounting g.accounting (records .accounting) record ∧
        g' = { g with accountingRecordGeneration := record.generation } ∧
        store.Settled (Function.update records .accounting (some record)) t) ∧
    (∀ e t, Ends commitDevice g.commitAccounting.run dir (.error e) t →
      ∃ records', (records' = records ∨ ∃ record,
        g.CommitsAccounting g.accounting (records .accounting) record ∧
          records' = Function.update records .accounting (some record)) ∧
        store.Settled records' t) ∧
    ∀ t, Crashes commitDevice g.commitAccounting.run dir t →
      ∃ records', (records' = records ∨ ∃ record,
        g.CommitsAccounting g.accounting (records .accounting) record ∧
          records' = Function.update records .accounting (some record)) ∧
        store.Settled records' t := by
  unfold Governor.commitAccounting
  rw [hstore]
  obtain ⟨hok, herror, hcrash⟩ := commit_then _ hfaults h
  refine ⟨fun g' t ht => ?_, herror, hcrash⟩
  obtain ⟨rfl, record, hrecord, hsettled⟩ := hok g' t ht
  exact ⟨record, hrecord, by rw [hrecord.generation], hsettled⟩

/-- What a program of a governor leaves, whether it ends or is interrupted. -/
def Leaves (store : DurableStore) (records : Records) (dir : Directory) (g : Governor)
    (p : FileM (α × Governor)) : Prop :=
  (∀ a g' t, Ends commitDevice p dir (a, g') t →
    ∃ records', Moves g records g' records' ∧ store.Settled records' t) ∧
  ∀ t, Crashes commitDevice p dir t →
    ∃ g' records', Moves g records g' records' ∧ store.Settled records' t

lemma Leaves.done {a : α} (h : store.Settled records dir) (hmoves : Moves g records g' records) :
    Leaves store records dir g (pure (a, g')) := by
  constructor
  · rintro _ _ _ ⟨heq, rfl⟩
    obtain ⟨rfl, rfl⟩ := Prod.mk_inj.mp heq
    exact ⟨records, hmoves, h⟩
  · rintro t rfl
    exact ⟨g', records, hmoves, h⟩

lemma Leaves.map {p : FileM (α × Governor)} {f : α → β} (h : Leaves store records dir g p) :
    Leaves store records dir g (p >>= fun outcome => pure (f outcome.1, outcome.2)) := by
  constructor
  · intro b g' t ht
    obtain ⟨outcome, s, hs, heq, rfl⟩ := ends_bind.mp ht
    obtain ⟨-, rfl⟩ := Prod.mk_inj.mp heq
    exact h.1 _ _ s hs
  · intro t ht
    rcases crashes_bind ht with ht | ⟨outcome, s, hs, rfl⟩
    · exact h.2 t ht
    · obtain ⟨records', hmoves, hsettled⟩ := h.1 _ _ s hs
      exact ⟨outcome.2, records', hmoves, hsettled⟩

end Commits

/-! ## The operations -/

section Operations

/-- The last write of an operation: `written` is the governor that is written, `fallback` the one
that is left when the write fails. -/
lemma accounted_leaves {written fallback : Governor} (hstore : written.store = some store)
    (hfaults : store.faults = {}) (h : store.Settled now dir)
    (hfallback : MovesPolicy g records fallback now)
    (hpolicy : PolicyMoves g (records .policy) written (now .policy))
    (hgeneration : written.accountingRecordGeneration = g.accountingRecordGeneration)
    (hle : g.epoch.value ≤ written.epoch.value) (hepoch : written.accounting.epoch = written.epoch)
    (hattached : ∀ directory, Attached directory g → Attached directory written) :
    Leaves store records dir g (written.commitAccounting.run >>= fun committed =>
      match committed with
      | .error e => pure (.error e, fallback)
      | .ok durable => pure ((.ok () : Except Status Unit), durable)) := by
  obtain ⟨hok, herror, hcrash⟩ := commitAccounting_settled hstore hfaults h
  unfold Governor.CommitsAccounting at hok herror hcrash
  rw [hgeneration] at hok herror hcrash
  have hle' : g.epoch.value ≤ written.accounting.epoch.value := by rwa [hepoch]
  -- a commit that fails or is cut off may have been recorded all the same
  have hlost : ∀ records', (records' = now ∨ ∃ record,
      g.CommitsAccounting written.accounting (now .accounting) record ∧
        records' = Function.update now .accounting (some record)) →
      Moves g records fallback records' := fun _ => hfallback.unacknowledged hle'
  have hended : ∀ durable t, Ends commitDevice written.commitAccounting.run dir (.ok durable) t →
      ∃ records', Moves g records durable records' ∧ store.Settled records' t := by
    intro durable t ht
    obtain ⟨record, hrecord, rfl, hsettled⟩ := hok durable t ht
    refine ⟨Function.update now .accounting (some record),
      ⟨hpolicy.congr rfl rfl rfl, ?_, hle, .inr (.inr ?_), hattached,
        not_stopped hfallback.running⟩, hsettled⟩
    · rw [hfallback.accounting] at hrecord
      exact .recorded hrecord hepoch rfl
    · exact ⟨record, written.accounting, rfl, hrecord.payload_eq, hepoch⟩
  refine ⟨fun result g' t ht => ?_, fun t ht => ?_⟩
  · obtain ⟨committed, s, hs, ht⟩ := ends_bind.mp ht
    cases committed with
    | error e =>
      obtain ⟨heq, rfl⟩ := ht
      obtain ⟨-, rfl⟩ := Prod.mk_inj.mp heq
      obtain ⟨records', htried, hsettled⟩ := herror e s hs
      exact ⟨records', hlost _ htried, hsettled⟩
    | ok durable =>
      obtain ⟨heq, rfl⟩ := ht
      obtain ⟨-, rfl⟩ := Prod.mk_inj.mp heq
      exact hended durable s hs
  · rcases crashes_bind ht with ht | ⟨committed, s, hs, ht⟩
    · obtain ⟨records', htried, hsettled⟩ := hcrash t ht
      exact ⟨fallback, records', hlost _ htried, hsettled⟩
    · cases committed with
      | error e =>
        obtain rfl : s = t := ht
        obtain ⟨records', htried, hsettled⟩ := herror e s hs
        exact ⟨fallback, records', hlost _ htried, hsettled⟩
      | ok durable =>
        obtain rfl : s = t := ht
        obtain ⟨records', hmoves, hsettled⟩ := hended durable s hs
        exact ⟨durable, records', hmoves, hsettled⟩

lemma commit_leaves (hstore : g.store = some store) (hfaults : store.faults = {})
    (h : store.Settled records dir) (decision : FairnessDecision) :
    Leaves store records dir g (g.commit decision) := by
  unfold Governor.commit
  cases hcheck : g.checkDecision decision with
  | error e => exact .done h .refl
  | ok _ =>
    cases happly : g.applyDecision decision with
    | error e => exact .done h .refl
    | ok accounting =>
      have hrunning := (checkDecision_eq_ok.mp hcheck).not_stopping
      exact accounted_leaves hstore hfaults h (.refl hrunning) (.kept rfl rfl) rfl
        (UInt64.le_refl _) (applyDecision_eq_ok happly).epoch fun _ h => h

lemma advanceEpoch_leaves (hstore : g.store = some store) (hfaults : store.faults = {})
    (h : store.Settled records dir) (nextEpoch : FabricEpoch) :
    Leaves store records dir g (g.advanceEpoch nextEpoch) := by
  unfold Governor.advanceEpoch
  cases hcheck : g.checkAdvance nextEpoch with
  | error e => exact .done h .refl
  | ok _ =>
    refine accounted_leaves hstore hfaults h ?_ (.kept rfl rfl) rfl
      (UInt64.le_of_lt (checkAdvance_eq_ok hcheck).2) rfl fun _ h => h
    exact ⟨(checkAdvance_eq_ok hcheck).1, .kept rfl rfl, rfl, rfl, UInt64.le_refl _, .inl rfl,
      fun _ h => h⟩

/-- The parts of a governor that a new policy leaves alone. -/
structure SameRecords (g g' : Governor) : Prop where
  store : g'.store = g.store
  stopping : g'.stopping = g.stopping
  policy : g'.policyRecordGeneration = g.policyRecordGeneration
  accounting : g'.accountingRecordGeneration = g.accountingRecordGeneration

lemma SameRecords.attached (h : SameRecords g g') {directory : String}
    (hg : Attached directory g) : Attached directory g' := by
  unfold Attached
  rw [h.store, h.stopping]
  exact hg

lemma withPolicy_same (policy : FairnessPolicy) : SameRecords g (g.withPolicy policy) := by
  unfold Governor.withPolicy
  split_ifs
  · exact ⟨rfl, rfl, rfl, rfl⟩
  · exact ⟨rfl, rfl, rfl, rfl⟩

lemma commitsPolicy_withPolicy {policy : FairnessPolicy} {v : Option DecodedRecord}
    {record : DecodedRecord} (h : (g.withPolicy policy).CommitsPolicy policy v record) :
    g.CommitsPolicy policy v record := by
  unfold Governor.CommitsPolicy at h
  rwa [(withPolicy_same policy).policy] at h

/-- When the policy record is not written the previous policy is served, though the new one may be
durable. -/
lemma restorePolicy_moves {policy : FairnessPolicy} (hp : Installable g policy)
    {records' : Records} (htried : records' = records ∨ ∃ record,
      (g.withPolicy policy).CommitsPolicy policy (records .policy) record ∧
        records' = Function.update records .policy (some record)) :
    Moves g records ((g.withPolicy policy).restorePolicy g) records' := by
  have hsame : SameRecords g ((g.withPolicy policy).restorePolicy g) := by
    obtain ⟨h1, h2, h3, h4⟩ := @withPolicy_same g policy
    exact ⟨h1, h2, h3, h4⟩
  rcases htried with rfl | ⟨record, hrecord, rfl⟩
  · exact .quiet rfl rfl hsame.policy hsame.accounting (fun _ => hsame.attached)
      (not_stopped hp.not_stopping)
  · exact ⟨.unserved hp (commitsPolicy_withPolicy hrecord) rfl hsame.policy,
      .kept hsame.accounting, UInt64.le_refl _, .inl rfl, fun _ => hsame.attached,
      not_stopped hp.not_stopping⟩

/-- Once the policy record is written the new policy is served, whatever becomes of the accounting
record. -/
lemma installed_moves {policy : FairnessPolicy} {record : DecodedRecord}
    (hp : Installable g policy) (hrecord : g.CommitsPolicy policy (records .policy) record) :
    MovesPolicy g records { g.withPolicy policy with policyRecordGeneration := record.generation }
      (Function.update records .policy (some record)) := by
  have hsame := @withPolicy_same g policy
  have hepoch := withPolicy_epoch hp.epoch
  refine ⟨hp.not_stopping, .installed hp hrecord rfl hepoch rfl, rfl, hsame.accounting, ?_,
    .inr ?_, fun _ hg => ?_⟩
  · show g.epoch.value ≤ (g.withPolicy policy).epoch.value
    rw [hepoch]
    exact hp.epoch
  · exact ⟨record, policy, rfl, hrecord.payload_eq, hp.valid, hepoch.symm⟩
  · exact hsame.attached hg

lemma installPolicy_leaves (hstore : g.store = some store) (hfaults : store.faults = {})
    (h : store.Settled records dir) (policy : FairnessPolicy) :
    Leaves store records dir g (g.installPolicy policy) := by
  unfold Governor.installPolicy
  cases hcheck : g.checkInstall policy with
  | error e => exact .done h .refl
  | ok _ =>
    have hp := checkInstall_eq_ok.mp hcheck
    have hsame := @withPolicy_same g policy
    obtain ⟨hok, herror, hcrash⟩ :=
      @commitPolicy_settled (g.withPolicy policy) records store dir (hsame.store.trans hstore)
        hfaults h
    -- the second write starts where the first has ended
    have hsecond : ∀ durable s, Ends commitDevice (g.withPolicy policy).commitPolicy.run dir
        (.ok durable) s → Leaves store records s g (durable.commitAccounting.run >>= fun accounted =>
          match accounted with
          | .error e => pure (.error e, durable)
          | .ok durable => pure ((.ok () : Except Status Unit), durable)) := by
      intro durable s hs
      obtain ⟨record, hrecord, rfl, hsettled⟩ := hok durable s hs
      have hmoves := installed_moves hp (commitsPolicy_withPolicy hrecord)
      exact accounted_leaves (hsame.store.trans hstore) hfaults hsettled hmoves hmoves.policy
        hmoves.generation hmoves.epoch_le rfl hmoves.attached
    refine ⟨fun result g' t ht => ?_, fun t ht => ?_⟩
    · obtain ⟨committed, s, hs, ht⟩ := ends_bind.mp ht
      cases committed with
      | error e =>
        obtain ⟨heq, rfl⟩ := ht
        obtain ⟨-, rfl⟩ := Prod.mk_inj.mp heq
        obtain ⟨records', htried, hsettled⟩ := herror e s hs
        exact ⟨records', restorePolicy_moves hp htried, hsettled⟩
      | ok durable => exact (hsecond durable s hs).1 result g' t ht
    · rcases crashes_bind ht with ht | ⟨committed, s, hs, ht⟩
      · obtain ⟨records', htried, hsettled⟩ := hcrash t ht
        exact ⟨_, records', restorePolicy_moves hp htried, hsettled⟩
      · cases committed with
        | error e =>
          obtain rfl : s = t := ht
          obtain ⟨records', htried, hsettled⟩ := herror e s hs
          exact ⟨_, records', restorePolicy_moves hp htried, hsettled⟩
        | ok durable => exact (hsecond durable s hs).2 t ht

lemma ingestEvidence_moves (snapshot : EvidenceSnapshot) :
    Moves g records (g.ingestEvidence snapshot).2 records := by
  rcases g.ingestEvidence_cases snapshot with h | ⟨-, -, h⟩
  · rw [h]
    exact .refl
  · rw [h]
    exact .quiet rfl rfl rfl rfl (fun _ hg => hg) fun hs => hs

lemma shutdown_moves : Moves g records g.shutdown records := by
  unfold Governor.shutdown
  split_ifs
  · exact .refl
  · exact .quiet rfl rfl rfl rfl (fun _ _ => .inr ⟨rfl, rfl⟩) fun _ => rfl

/-- What any operation leaves. -/
theorem operation_leaves {directory : String} (hattached : Attached directory g)
    (h : Settled { directory := directory } records dir) (operation : Operation) :
    Leaves { directory := directory } records dir g (operation.run g) := by
  cases operation with
  | ingest snapshot => exact .done h (ingestEvidence_moves snapshot)
  | evaluate request => exact .done h .refl
  | clearStaged => exact .done h (.quiet rfl rfl rfl rfl (fun _ hg => hg) fun hs => hs)
  | shutdown => exact .done h shutdown_moves
  -- the three operations that write refuse to on a governor that has shut down
  | commit decision =>
    rcases hattached with hstore | ⟨-, hstop⟩
    · exact .map (commit_leaves hstore rfl h decision)
    · refine .map ?_
      unfold Governor.commit
      cases hcheck : g.checkDecision decision with
      | error e => exact .done h .refl
      | ok _ => exact not_stopped (checkDecision_eq_ok.mp hcheck).not_stopping hstop
  | installPolicy policy =>
    rcases hattached with hstore | ⟨-, hstop⟩
    · exact .map (installPolicy_leaves hstore rfl h policy)
    · refine .map ?_
      unfold Governor.installPolicy
      cases hcheck : g.checkInstall policy with
      | error e => exact .done h .refl
      | ok _ => exact not_stopped (checkInstall_eq_ok.mp hcheck).not_stopping hstop
  | advanceEpoch nextEpoch =>
    rcases hattached with hstore | ⟨-, hstop⟩
    · exact .map (advanceEpoch_leaves hstore rfl h nextEpoch)
    · refine .map ?_
      unfold Governor.advanceEpoch
      cases hcheck : g.checkAdvance nextEpoch with
      | error e => exact .done h .refl
      | ok _ => exact not_stopped (checkAdvance_eq_ok hcheck).1 hstop

end Operations

end FairnessGovernor
