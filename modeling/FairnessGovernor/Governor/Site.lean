/-
# Governors on one store directory

A directory outlives its governors.  Its steps are the openings of governors on it and the
operations of those that were opened and not lost; any of these may end or be interrupted by a
crash.  The recovery at the start of an opening is interrupted by crashes only.
-/
import FairnessGovernor.Governor.Moves

namespace FairnessGovernor

open Program Crash Runs DurableStore

/-! ## Opening in two parts -/

namespace Governor

/-- The part of opening that looks for what a crash has left behind. -/
def openStore (config : GovernorConfig) (boot : BootId) : StatusM (DurableStore × Governor) := do
  StatusM.of (checkConfig config)
  let store ← DurableStore.open config.storePath
  let recovered ← recoverRecords store (initial config boot)
  return (store, recovered)

/-- The part of opening that adopts the durable records. -/
def adoptRecords (store : DurableStore) (g : Governor) : StatusM Governor := do
  let opened ← openPolicy store g
  let accounted ← openAccounting store opened
  return accounted.finishOpen

lemma open_eq {config : GovernorConfig} (h : config.storePath ≠ "") (boot : BootId) :
    Governor.open config boot =
      openStore config boot >>= fun recovered => adoptRecords recovered.1 recovered.2 := by
  unfold Governor.open openStore adoptRecords
  simp only [if_neg h, bind_assoc, pure_bind]

end Governor

/-- An opening that ends, with its result. -/
inductive OpeningEnds (config : GovernorConfig) (boot : BootId) (dir : Directory) :
    Except Status Governor → Directory → Prop
  | refused {e : Status} {dir' : Directory} :
      Ends recoverDevice (Governor.openStore config boot).run dir (.error e) dir' →
      OpeningEnds config boot dir (.error e) dir'
  | adopted {store : DurableStore} {recovered : Governor} {mid dir' : Directory}
      {result : Except Status Governor} :
      Ends recoverDevice (Governor.openStore config boot).run dir (.ok (store, recovered)) mid →
      Ends commitDevice (Governor.adoptRecords store recovered).run mid result dir' →
      OpeningEnds config boot dir result dir'

/-- An opening that a crash interrupts. -/
inductive OpeningCrashes (config : GovernorConfig) (boot : BootId) (dir : Directory) :
    Directory → Prop
  | recovering {dir' : Directory} :
      Crashes recoverDevice (Governor.openStore config boot).run dir dir' →
      OpeningCrashes config boot dir dir'
  | adopting {store : DurableStore} {recovered : Governor} {mid dir' : Directory} :
      Ends recoverDevice (Governor.openStore config boot).run dir (.ok (store, recovered)) mid →
      Crashes commitDevice (Governor.adoptRecords store recovered).run mid dir' →
      OpeningCrashes config boot dir dir'

variable {config : GovernorConfig} {boot : BootId} {dir dir' : Directory} {g g' : Governor}

/-- The governor of such an opening was opened. -/
lemma OpeningEnds.opens (h : OpeningEnds config boot dir (.ok g) dir') (hpath : config.storePath ≠ "") :
    Opens config boot g := by
  unfold Opens
  rw [Governor.open_eq hpath]
  cases h with
  | adopted hrecovered hadopted =>
    exact returns_bind_ok.mpr ⟨_, hrecovered.returns, hadopted.returns⟩

/-- The fault-free opening is one of these. -/
lemma openingEnds_run (hpath : config.storePath ≠ "") (boot : BootId) (dir : Directory) :
    OpeningEnds config boot dir (run handle (Governor.open config boot).run dir).1
      (run handle (Governor.open config boot).run dir).2 := by
  rw [Governor.open_eq hpath, run_bind_except]
  obtain ⟨⟨recovered, mid⟩, hrun⟩ :
    ∃ r, run handle (Governor.openStore config boot).run dir = r := ⟨_, rfl⟩
  rw [hrun]
  cases recovered with
  | error e => exact .refused (ends_reliable.mpr hrun)
  | ok recovered => exact .adopted (ends_reliable.mpr hrun) (ends_commitDevice _ mid)

/-! ## What opening makes of the records -/

variable {records records' : Records}

/-- The governor between the two parts of its opening. -/
structure Recovering (config : GovernorConfig) (boot : BootId)
    (recovered : DurableStore × Governor) : Prop where
  config_ok : checkConfig config = .ok ()
  store : recovered.1 = { directory := config.storePath }
  governor : ∃ recovery, recovered.2 = { Governor.initial config boot with
    store := some recovered.1, recovery := recovery }

lemma open_attempts {directory : String} {P : Directory → Prop} :
    Attempts recoverDevice P (DurableStore.open directory)
      (fun store d => P d ∧ store = { directory := directory }) P P := by
  refine Attempts.bind (Q := fun _ => P) (Triple.perform (fun _ hd => hd)
    (fun _ _ _ h => h.elim) fun r => ?_) (fun _ hd => hd) fun _ => ?_
  · have hstep : ∀ d', (∃ d, P d ∧ handle (.ensureDirectory directory) d = (r, d')) →
        Either (fun _ => P) (fun _ => P) r d' := by
      rintro d' ⟨d, hd, h⟩
      obtain ⟨rfl, rfl⟩ := Prod.mk_inj.mp h
      exact hd
    refine Triple.done hstep fun d' h => ?_
    obtain ⟨d, hd, h⟩ := h
    obtain ⟨-, rfl⟩ := Prod.mk_inj.mp h
    exact hd
  · exact Attempts.pure (fun _ hx _ hd => ⟨hd, (Except.ok.inj hx).symm⟩) (fun _ hd => hd)
      fun _ hd => hd

lemma recoverRecords_attempts {store : DurableStore} :
    Attempts recoverDevice (store.Settled records) (Governor.recoverRecords store g)
      (fun g' d => store.Settled records d ∧
        ∃ recovery, g' = { g with store := some store, recovery := recovery })
      (store.Settled records) (store.Settled records) := by
  have hrecover : ∀ kind, Attempts recoverDevice (store.Settled records)
      (liftM (store.recover kind {}) : StatusM _) (fun _ => store.Settled records)
      (store.Settled records) (store.Settled records) := fun kind =>
    Attempts.lift (fun _ hd => recover_settled hd {}) fun _ _ hd => hd
  refine Attempts.bind (hrecover .policy) (fun _ hd => hd) fun policy => ?_
  refine Attempts.bind (hrecover .accounting) (fun _ hd => hd) fun accounting => ?_
  dsimp only
  split
  · exact Attempts.pure (fun _ hx _ hd => ⟨hd, _, (Except.ok.inj hx).symm⟩) (fun _ hd => hd)
      fun _ hd => hd
  · exact Attempts.pure (fun _ hx => by cases hx) (fun _ hd => hd) fun _ hd => hd

/-- Recovery leaves both records settled, and the governor without any of them. -/
lemma openStore_attempts :
    Attempts recoverDevice (Settled { directory := config.storePath } records)
      (Governor.openStore config boot)
      (fun recovered d => Settled { directory := config.storePath } records d ∧
        Recovering config boot recovered)
      (Settled { directory := config.storePath } records)
      (Settled { directory := config.storePath } records) := by
  refine Attempts.bind (Q := fun _ d => Settled { directory := config.storePath } records d ∧
    checkConfig config = .ok ()) (Attempts.pure ?_ (fun _ hd => hd) fun _ hd => hd)
    (fun _ hd => hd) fun _ => Triple.assume fun hcheck => ?_
  · rintro ⟨⟩ hx d hd
    exact ⟨hd, hx⟩
  refine Attempts.bind open_attempts (fun _ hd => hd) fun store => Triple.assume fun hstore => ?_
  subst hstore
  refine Attempts.bind recoverRecords_attempts (fun _ hd => hd) fun recovered => ?_
  refine Triple.assume fun hrecovered => ?_
  refine Attempts.pure (fun _ hx d hd => ⟨hd, ?_⟩) (fun _ hd => hd) fun _ hd => hd
  obtain rfl := Except.ok.inj hx
  exact ⟨hcheck, rfl, hrecovered⟩

/-- A loaded record is the settled one, and a missing one is not settled. -/
structure Loads (kind : RecordKind) (v : Option DecodedRecord) (loaded : LoadedRecord) : Prop where
  ok : loaded.ok → ∃ record, v = some record ∧ loaded = loadedOf kind record
  absent : loaded.present = false → v = none

lemma load_settled {store : DurableStore} {kind : RecordKind} :
    Triple commitDevice (store.Settled records) (store.load kind)
      (fun loaded d => store.Settled records d ∧ Loads kind (records kind) loaded)
      (store.Settled records) := by
  refine load_commit.conseq (fun _ hd => hd) ?_ fun _ hd => hd
  rintro loaded d ⟨hd, hok, habsent⟩
  refine ⟨hd, fun h => ?_, fun h => ?_⟩
  · obtain ⟨record, hfile, hloaded⟩ := hok h
    exact ⟨record, ((hd kind).holds_of_fileHolds hfile).2, hloaded⟩
  · have hnone := (hd kind).isSome
    rw [habsent h] at hnone
    simpa using hnone.symm

/-- The configured policy is committed where there is no durable one or an older one. -/
structure CommitsConfigured (config : GovernorConfig) (v : Option DecodedRecord)
    (record : DecodedRecord) : Prop where
  valid : validatePolicy config.policy = .ok ()
  newer : ∀ old, v = some old → ∃ durable, decodePolicy old.payload = .ok durable ∧
    durable.generation.value < config.policy.generation.value
  replaces : Replaces v (generationOf v) (generationOf v + 1) (encodePolicy config.policy) record

/-- The policy of an opened governor, and the policy record it was opened with. -/
inductive PolicyOpens (config : GovernorConfig) (v : Option DecodedRecord) (g : Governor) :
    Option DecodedRecord → Prop
  | newer {record : DecodedRecord} {durable : FairnessPolicy} : v = some record →
      decodePolicy record.payload = .ok durable →
      config.policy.generation.value < durable.generation.value → g.policy = durable →
      g.policyRecordGeneration = record.generation → PolicyOpens config v g v
  | same {record : DecodedRecord} {durable : FairnessPolicy} : v = some record →
      decodePolicy record.payload = .ok durable →
      durable.generation = config.policy.generation →
      policyDigest durable = policyDigest config.policy → g.policy = config.policy →
      g.policyRecordGeneration = record.generation → PolicyOpens config v g v
  | committed {record : DecodedRecord} : CommitsConfigured config v record →
      g.policy = config.policy → g.policyRecordGeneration = record.generation →
      PolicyOpens config v g (some record)

lemma PolicyOpens.congr {v v' : Option DecodedRecord} (h : PolicyOpens config v g v')
    (hpolicy : g'.policy = g.policy)
    (hgeneration : g'.policyRecordGeneration = g.policyRecordGeneration) :
    PolicyOpens config v g' v' := by
  cases h with
  | newer h1 h2 h3 h4 h5 => exact .newer h1 h2 h3 (hpolicy.trans h4) (hgeneration.trans h5)
  | same h1 h2 h3 h4 h5 h6 =>
    exact .same h1 h2 h3 h4 (hpolicy.trans h5) (hgeneration.trans h6)
  | committed h1 h2 h3 => exact .committed h1 (hpolicy.trans h2) (hgeneration.trans h3)

/-- What an opening that has not succeeded may have done. -/
def OpeningTried (config : GovernorConfig) (records records' : Records) : Prop :=
  records' = records ∨ ∃ record, CommitsConfigured config (records .policy) record ∧
    records' = Function.update records .policy (some record)

/-- What is left of an opening that has not succeeded. -/
def OpeningLeaves (store : DurableStore) (config : GovernorConfig) (records : Records)
    (d : Directory) : Prop :=
  ∃ records', OpeningTried config records records' ∧ store.Settled records' d

/-- A governor that is being opened: its configuration is what it serves so far. -/
structure Configured (config : GovernorConfig) (store : DurableStore) (g : Governor) : Prop where
  valid : validatePolicy config.policy = .ok ()
  policy : g.policy = config.policy
  epoch : g.epoch = config.policy.epoch
  store : g.store = some store
  accountingGeneration : g.accountingRecordGeneration = 0

/-- A governor between the two records of its opening. -/
structure OpenedPolicy (config : GovernorConfig) (store : DurableStore) (records : Records)
    (g : Governor) (records' : Records) : Prop where
  policy : PolicyOpens config (records .policy) g (records' .policy)
  accounting : records' .accounting = records .accounting
  epoch : g.epoch = g.policy.epoch
  store : g.store = some store
  accountingGeneration : g.accountingRecordGeneration = 0

variable {store : DurableStore}

/-- What an opening does to the records it has done whether it succeeds or not. -/
lemma opening_tried (hpolicy : PolicyOpens config (records .policy) g (records' .policy))
    (haccounting : records' .accounting = records .accounting) :
    OpeningTried config records records' := by
  have hkept : ∀ v, records' .policy = v → records' = Function.update records .policy v := by
    intro v hv
    funext kind
    cases kind with
    | policy => exact hv
    | accounting => exact haccounting
  generalize hv : records' .policy = v at hpolicy
  cases hpolicy with
  | newer | same =>
    left
    rw [hkept _ hv, Function.update_eq_self]
  | committed hcommits => exact .inr ⟨_, hcommits, hkept _ hv⟩

lemma commitConfigured_attempts (hg : Configured config store g) (hfaults : store.faults = {})
    (hgeneration : g.policyRecordGeneration = generationOf (records .policy))
    (hnewer : ∀ old, records .policy = some old → ∃ durable,
      decodePolicy old.payload = .ok durable ∧
        durable.generation.value < config.policy.generation.value) :
    Attempts commitDevice (store.Settled records) g.commitConfigured
      (fun g' d => ∃ records', OpenedPolicy config store records g' records' ∧
        store.Settled records' d)
      (OpeningLeaves store config records) (OpeningLeaves store config records) := by
  -- a record that the governor writes is one of the configured policy
  have hconfigured : ∀ record, g.CommitsPolicy g.policy (records .policy) record →
      CommitsConfigured config (records .policy) record := by
    intro record hrecord
    unfold Governor.CommitsPolicy at hrecord
    rw [hgeneration, hg.policy] at hrecord
    exact ⟨hg.valid, hnewer, hrecord⟩
  -- so whatever an interrupted commit leaves is what an opening may leave
  have htried : ∀ d, (∃ records', (records' = records ∨ ∃ record,
      g.CommitsPolicy g.policy (records .policy) record ∧
        records' = Function.update records .policy (some record)) ∧ store.Settled records' d) →
      OpeningLeaves store config records d := by
    rintro d ⟨records', rfl | ⟨record, hrecord, rfl⟩, hsettled⟩
    · exact ⟨_, .inl rfl, hsettled⟩
    · exact ⟨_, .inr ⟨record, hconfigured record hrecord, rfl⟩, hsettled⟩
  refine Attempts.bind (Q := fun g' d => ∃ record,
    g.CommitsPolicy g.policy (records .policy) record ∧
      g' = { g with policyRecordGeneration := record.generation } ∧
      store.Settled (Function.update records .policy (some record)) d) ?_ (fun _ hd => hd)
    fun g' => ?_
  · intro d hd
    obtain ⟨hok, herror, hcrash⟩ := commitPolicy_settled hg.store hfaults hd
    refine ⟨fun r t ht => ?_, fun t ht => htried t (hcrash t ht)⟩
    cases r with
    | ok g' => exact hok g' t ht
    | error e => exact htried t (herror e t ht)
  · refine Attempts.pure ?_ ?_ ?_
    · rintro _ hx d ⟨record, hrecord, rfl, hsettled⟩
      obtain rfl := Except.ok.inj hx
      refine ⟨Function.update records .policy (some record),
        ⟨.committed (hconfigured record hrecord) hg.policy rfl, rfl, ?_, hg.store,
          hg.accountingGeneration⟩, hsettled⟩
      exact hg.epoch.trans (by rw [hg.policy])
    · rintro d ⟨record, hrecord, -, hsettled⟩
      exact ⟨_, .inr ⟨record, hconfigured record hrecord, rfl⟩, hsettled⟩
    · rintro d ⟨record, hrecord, -, hsettled⟩
      exact ⟨_, .inr ⟨record, hconfigured record hrecord, rfl⟩, hsettled⟩

/-- The durable policy against the configured one. -/
lemma reconcilePolicy_attempts {record : DecodedRecord} {durable : FairnessPolicy}
    (hg : Configured config store g) (hfaults : store.faults = {})
    (hrecord : records .policy = some record) (hdecode : decodePolicy record.payload = .ok durable)
    (hgeneration : g.policyRecordGeneration = record.generation) :
    Attempts commitDevice (store.Settled records) (g.reconcilePolicy durable)
      (fun g' d => ∃ records', OpenedPolicy config store records g' records' ∧
        store.Settled records' d)
      (OpeningLeaves store config records) (OpeningLeaves store config records) := by
  have hleft : ∀ d, store.Settled records d → OpeningLeaves store config records d :=
    fun _ hd => ⟨records, .inl rfl, hd⟩
  unfold Governor.reconcilePolicy
  rw [hg.policy]
  -- only a configured policy that is newer than the record is written
  split_ifs with hid hnewer hsame hdigest
  · exact Attempts.pure (fun _ hx => by cases hx) hleft hleft
  · refine Attempts.pure (fun _ hx d hd => ?_) hleft hleft
    obtain rfl := Except.ok.inj hx
    exact ⟨records, ⟨.newer hrecord hdecode hnewer rfl hgeneration, rfl, rfl, hg.store,
      hg.accountingGeneration⟩, hd⟩
  · exact Attempts.pure (fun _ hx => by cases hx) hleft hleft
  · refine Attempts.pure (fun _ hx d hd => ?_) hleft hleft
    obtain rfl := Except.ok.inj hx
    exact ⟨records, ⟨.same hrecord hdecode hsame (not_not.mp hdigest) rfl hgeneration, rfl,
      hg.epoch, hg.store, hg.accountingGeneration⟩, hd⟩
  · refine commitConfigured_attempts hg hfaults (by rw [hrecord]; exact hgeneration) ?_
    rintro old hold
    obtain rfl : record = old := Option.some.inj (hrecord.symm.trans hold)
    refine ⟨durable, hdecode, UInt64.lt_of_le_of_ne (UInt64.not_lt.mp hnewer) fun heq => hsame ?_⟩
    exact congrArg Generation.mk heq

/-- The policy part of an opening. -/
lemma openPolicy_attempts (hg : Configured config store g) (hfaults : store.faults = {})
    (hgeneration : g.policyRecordGeneration = 0) :
    Attempts commitDevice (store.Settled records) (Governor.openPolicy store g)
      (fun g' d => ∃ records', OpenedPolicy config store records g' records' ∧
        store.Settled records' d)
      (OpeningLeaves store config records) (OpeningLeaves store config records) := by
  have hleft : ∀ d, store.Settled records d → OpeningLeaves store config records d :=
    fun _ hd => ⟨records, .inl rfl, hd⟩
  refine Attempts.bind (Attempts.lift (load_settled.conseq (fun _ hd => hd) (fun _ _ hd => hd)
    hleft) fun _ d hd => hleft d hd.1) (fun _ hd => hd) fun loaded => ?_
  refine Triple.assume fun hloads => ?_
  refine Attempts.bind (Q := fun g' d => ∃ records', OpenedPolicy config store records g' records' ∧
    store.Settled records' d) ?_ (fun _ hd => hd) fun g' => ?_
  · unfold Governor.usePolicyRecord
    by_cases hpresent : loaded.present = true
    · rw [if_pos hpresent]
      refine Attempts.bind (Q := fun _ d => store.Settled records d ∧ loaded.ok)
        (Attempts.pure ?_ hleft hleft) (fun _ hd => hd) fun _ => Triple.assume fun hok => ?_
      · rintro ⟨⟩ hx d hd
        exact ⟨hd, not_not.mp (rejectIf_eq_ok.mp hx)⟩
      obtain ⟨record, hrecord, rfl⟩ := hloads.ok hok
      cases hdecode : decodePolicy (loadedOf .policy record).payload with
      | error e => exact Attempts.pure (fun _ hx => by cases hx) hleft hleft
      | ok durable =>
        exact reconcilePolicy_attempts
          ⟨hg.valid, hg.policy, hg.epoch, hg.store, hg.accountingGeneration⟩ hfaults hrecord
          hdecode rfl
    · rw [if_neg hpresent]
      have hnone := hloads.absent (by simpa using hpresent)
      refine commitConfigured_attempts
        ⟨hg.valid, hg.policy, hg.epoch, hg.store, hg.accountingGeneration⟩ hfaults
        (by rw [hnone]; exact hgeneration) ?_
      intro old hold
      rw [hnone] at hold
      cases hold
  · -- the accounting is stamped with what is served
    refine Attempts.pure ?_ ?_ ?_
    · rintro _ hx d ⟨records', hopened, hsettled⟩
      obtain rfl := Except.ok.inj hx
      exact ⟨records', ⟨hopened.policy.congr rfl rfl, hopened.accounting, hopened.epoch,
        hopened.store, hopened.accountingGeneration⟩, hsettled⟩
    · rintro d ⟨records', hopened, hsettled⟩
      exact ⟨records', opening_tried hopened.policy hopened.accounting, hsettled⟩
    · rintro d ⟨records', hopened, hsettled⟩
      exact ⟨records', opening_tried hopened.policy hopened.accounting, hsettled⟩

/-- The epoch of an opened governor: that of its policy, unless the durable accounting is ahead. -/
inductive EpochOpens (v : Option DecodedRecord) (g : Governor) : Prop
  | policy : v = none → g.epoch = g.policy.epoch → EpochOpens v g
  | accounting {record : DecodedRecord} {durable : FairnessAccounting} : v = some record →
      decodeAccounting record.payload = .ok durable →
      g.epoch = (if durable.epoch.value > g.policy.epoch.value then durable.epoch
        else g.policy.epoch) → EpochOpens v g

/-- An opened governor, and the records it was opened with and leaves. -/
structure OpensWith (config : GovernorConfig) (store : DurableStore) (records : Records)
    (g : Governor) (records' : Records) : Prop where
  policy : PolicyOpens config (records .policy) g (records' .policy)
  accounting : records' .accounting = records .accounting
  accountingGeneration : g.accountingRecordGeneration = generationOf (records .accounting)
  epoch : EpochOpens (records .accounting) g
  store : g.store = some store

/-- The part of an opening that adopts the records. -/
lemma adoptRecords_attempts (hg : Configured config store g) (hfaults : store.faults = {})
    (hgeneration : g.policyRecordGeneration = 0) :
    Attempts commitDevice (store.Settled records) (Governor.adoptRecords store g)
      (fun g' d => ∃ records', OpensWith config store records g' records' ∧
        store.Settled records' d)
      (OpeningLeaves store config records) (OpeningLeaves store config records) := by
  refine Attempts.bind (openPolicy_attempts hg hfaults hgeneration) (fun _ hd => hd) fun opened => ?_
  -- from here on nothing is written
  refine Attempts.bind (Q := fun g' d => ∃ records', OpensWith config store records g' records' ∧
    store.Settled records' d) ?_ (fun _ hd => hd) fun accounted => ?_
  · rintro d ⟨records', hopened, hsettled⟩
    have hleft : ∀ d, store.Settled records' d → OpeningLeaves store config records d :=
      fun _ hd => ⟨records', opening_tried hopened.policy hopened.accounting, hd⟩
    refine (Attempts.bind (R := fun g' d => ∃ records', OpensWith config store records g' records' ∧
      store.Settled records' d) (Attempts.lift (load_settled.conseq (fun _ hd => hd)
        (fun _ _ hd => hd) hleft) fun _ d hd => hleft d hd.1) (fun _ hd => hd)
        fun loaded => ?_) d hsettled
    refine Triple.assume fun hloads => ?_
    rw [hopened.accounting] at hloads
    unfold Governor.useAccountingRecord
    by_cases hpresent : loaded.present = true
    · rw [if_pos hpresent]
      refine Attempts.bind (Q := fun _ d => store.Settled records' d ∧ loaded.ok)
        (Attempts.pure ?_ hleft hleft) (fun _ hd => hd) fun _ => Triple.assume fun hok => ?_
      · rintro ⟨⟩ hx d hd
        exact ⟨hd, not_not.mp (rejectIf_eq_ok.mp hx)⟩
      obtain ⟨record, hrecord, rfl⟩ := hloads.ok hok
      cases hdecode : decodeAccounting (loadedOf .accounting record).payload with
      | error e => exact Attempts.pure (fun _ hx => by cases hx) hleft hleft
      | ok durable =>
        refine Attempts.pure (fun _ hx d hd => ⟨records', ?_, hd⟩) hleft hleft
        obtain rfl := Except.ok.inj hx
        refine ⟨hopened.policy.congr rfl rfl, hopened.accounting, ?_, .accounting hrecord hdecode ?_,
          hopened.store⟩
        · rw [hrecord]
          rfl
        · show (if durable.epoch.value > opened.epoch.value then durable.epoch
            else opened.epoch) = _
          rw [hopened.epoch]
          rfl
    · rw [if_neg hpresent]
      have hnone := hloads.absent (by simpa using hpresent)
      refine Attempts.pure (fun _ hx d hd => ⟨records', ?_, hd⟩) hleft hleft
      obtain rfl := Except.ok.inj hx
      refine ⟨hopened.policy.congr rfl rfl, hopened.accounting, ?_, .policy hnone hopened.epoch,
        hopened.store⟩
      rw [hnone]
      exact hopened.accountingGeneration
  · have htried : ∀ d, (∃ records', OpensWith config store records accounted records' ∧
        store.Settled records' d) → OpeningLeaves store config records d := by
      rintro d ⟨records', hopens, hsettled⟩
      exact ⟨records', opening_tried hopens.policy hopens.accounting, hsettled⟩
    refine Attempts.pure ?_ htried htried
    rintro _ hx d ⟨records', hopens, hsettled⟩
    obtain rfl := Except.ok.inj hx
    refine ⟨records', ⟨hopens.policy.congr rfl rfl, hopens.accounting, hopens.accountingGeneration,
      ?_, hopens.store⟩, hsettled⟩
    rcases hopens.epoch with ⟨h1, h2⟩ | ⟨h1, h2, h3⟩
    · exact .policy h1 h2
    · exact .accounting h1 h2 h3

/-! ## Openings -/

lemma checkConfig_eq_ok (h : checkConfig config = .ok ()) :
    validatePolicy config.policy = .ok () ∧ config.policy.epoch = config.epoch := by
  obtain ⟨hvalid, h⟩ := bind_unit_eq_ok.mp h
  obtain ⟨-, h⟩ := rejectIf_bind_eq_ok.mp h
  exact ⟨hvalid, not_not.mp (rejectIf_bind_eq_ok.mp h).1⟩

/-- The second part of an opening starts with what was configured. -/
lemma Recovering.configured {recovered : DurableStore × Governor}
    (h : Recovering config boot recovered) :
    Configured config recovered.1 recovered.2 ∧ recovered.2.policyRecordGeneration = 0 := by
  obtain ⟨recovery, hrecovered⟩ := h.governor
  rw [hrecovered]
  obtain ⟨hvalid, hepoch⟩ := checkConfig_eq_ok h.config_ok
  exact ⟨⟨hvalid, rfl, hepoch.symm, rfl, rfl⟩, rfl⟩

/-- The second part of an opening, after the first has ended. -/
lemma adoptRecords_recovered {recovered : DurableStore × Governor} {mid : Directory}
    (hends : Ends recoverDevice (Governor.openStore config boot).run dir (.ok recovered) mid)
    (h : Settled { directory := config.storePath } records dir) :
    checkConfig config = .ok () ∧
    (∀ result t,
      Ends commitDevice (Governor.adoptRecords recovered.1 recovered.2).run mid result t →
      Either (fun g d => ∃ records',
          OpensWith config { directory := config.storePath } records g records' ∧
            Settled { directory := config.storePath } records' d)
        (fun _ => OpeningLeaves { directory := config.storePath } config records) result t) ∧
    ∀ t, Crashes commitDevice (Governor.adoptRecords recovered.1 recovered.2).run mid t →
      OpeningLeaves { directory := config.storePath } config records t := by
  obtain ⟨hmid, hrecovered⟩ := (openStore_attempts dir h).1 _ _ hends
  obtain ⟨hconfigured, hgeneration⟩ := hrecovered.configured
  rw [hrecovered.store] at hconfigured
  obtain ⟨hadopts, hcrashes⟩ := adoptRecords_attempts hconfigured rfl hgeneration mid hmid
  rw [hrecovered.store]
  exact ⟨hrecovered.config_ok, hadopts, hcrashes⟩

/-- What an opening leaves that ends. -/
theorem OpeningEnds.opensWith {result : Except Status Governor}
    (hopening : OpeningEnds config boot dir result dir')
    (h : Settled { directory := config.storePath } records dir) :
    (∀ g, result = .ok g → checkConfig config = .ok () ∧ ∃ records',
      OpensWith config { directory := config.storePath } records g records' ∧
        Settled { directory := config.storePath } records' dir') ∧
    OpeningLeaves { directory := config.storePath } config records dir' := by
  cases hopening with
  | refused hends =>
    refine ⟨fun g hg => (by cases hg), records, .inl rfl, ?_⟩
    exact (openStore_attempts dir h).1 _ _ hends
  | adopted hends hadopts =>
    obtain ⟨hcheck, hended, -⟩ := adoptRecords_recovered hends h
    have hend := hended _ _ hadopts
    cases result with
    | error e => exact ⟨fun g hg => (by cases hg), hend⟩
    | ok g =>
      obtain ⟨records', hopens, hsettled⟩ := hend
      refine ⟨fun g' hg' => ?_, records', opening_tried hopens.policy hopens.accounting, hsettled⟩
      obtain rfl := Except.ok.inj hg'
      exact ⟨hcheck, records', hopens, hsettled⟩

/-- What an opening leaves that is interrupted. -/
theorem OpeningCrashes.leaves (hopening : OpeningCrashes config boot dir dir')
    (h : Settled { directory := config.storePath } records dir) :
    OpeningLeaves { directory := config.storePath } config records dir' := by
  cases hopening with
  | recovering hcrash => exact ⟨records, .inl rfl, (openStore_attempts dir h).2 _ hcrash⟩
  | adopting hends hcrash => exact (adoptRecords_recovered hends h).2.2 _ hcrash

/-! ## A directory and its governors -/

/-- A directory, with the governors that were opened on it and not lost. -/
structure Site where
  dir : Directory
  live : List Governor

/-- What happens on a directory: an opening with its result, an operation of one of the governors
with its result, or a crash in the middle of either. -/
inductive SiteEvent
  | opened (config : GovernorConfig) (boot : BootId) (result : Except Status Governor)
  | openingCrashed (config : GovernorConfig) (boot : BootId)
  | operated (g : Governor) (operation : Operation) (e : Event)
  | crashed (g : Governor) (operation : Operation)

/-- One step on a directory.  A governor whose operation is interrupted is lost. -/
inductive SiteStep (directory : String) : Site → SiteEvent → Site → Prop
  | opened {dir dir' : Directory} {live : List Governor} {config : GovernorConfig} {boot : BootId}
      {result : Except Status Governor} :
      config.storePath = directory → directory ≠ "" → OpeningEnds config boot dir result dir' →
      SiteStep directory ⟨dir, live⟩ (.opened config boot result)
        ⟨dir', result.toOption.toList ++ live⟩
  | openingCrashed {dir dir' : Directory} {live : List Governor} {config : GovernorConfig}
      {boot : BootId} :
      config.storePath = directory → directory ≠ "" → OpeningCrashes config boot dir dir' →
      SiteStep directory ⟨dir, live⟩ (.openingCrashed config boot) ⟨dir', live⟩
  | operated {dir dir' : Directory} {before after : List Governor} {g g' : Governor}
      {operation : Operation} {e : Event} :
      Ends commitDevice (operation.run g) dir (e, g') dir' →
      SiteStep directory ⟨dir, before ++ g :: after⟩ (.operated g operation e)
        ⟨dir', before ++ g' :: after⟩
  | crashed {dir dir' : Directory} {before after : List Governor} {g : Governor}
      {operation : Operation} :
      Crashes commitDevice (operation.run g) dir dir' →
      SiteStep directory ⟨dir, before ++ g :: after⟩ (.crashed g operation)
        ⟨dir', before ++ after⟩

/-- A directory without any record, before the first opening. -/
structure Fresh (directory : String) (site : Site) : Prop where
  empty : ∀ kind file, site.dir (DurableStore.path { directory := directory } kind file) = none
  live : site.live = []

lemma Fresh.settled {directory : String} {site : Site} (h : Fresh directory site) :
    Settled { directory := directory } (fun _ => none) site.dir :=
  fun kind => .inl ⟨h.empty kind .base, h.empty kind .backup⟩

/-- A fault-free opening is a step. -/
lemma siteStep_open {directory : String} (hpath : config.storePath = directory)
    (hne : directory ≠ "") (boot : BootId) (dir : Directory) (live : List Governor) :
    SiteStep directory ⟨dir, live⟩
      (.opened config boot (run handle (Governor.open config boot).run dir).1)
      ⟨(run handle (Governor.open config boot).run dir).2,
        (run handle (Governor.open config boot).run dir).1.toOption.toList ++ live⟩ :=
  .opened hpath hne (openingEnds_run (by rwa [hpath]) boot dir)

/-- Two fault-free openings in a row. -/
lemma openings_run {directory : String} {again : GovernorConfig}
    (hpath : config.storePath = directory) (hpath' : again.storePath = directory)
    (hne : directory ≠ "") (boot boot' : BootId) (dir : Directory) :
    let first := run handle (Governor.open config boot).run dir
    let second := run handle (Governor.open again boot').run first.2
    Run (SiteStep directory) ⟨dir, []⟩
      [(⟨dir, []⟩, .opened config boot first.1),
        (⟨first.2, first.1.toOption.toList⟩, .opened again boot' second.1)]
      ⟨second.2, second.1.toOption.toList ++ first.1.toOption.toList⟩ := by
  intro first second
  have hfirst := siteStep_open hpath hne boot dir []
  rw [List.append_nil] at hfirst
  exact (Run.nil.snoc hfirst).snoc (siteStep_open hpath' hne boot' first.2 _)

/-- A governor is opened, shut down, and another one is opened. -/
lemma restart_run {directory : String} {again : GovernorConfig}
    (hpath : config.storePath = directory) (hpath' : again.storePath = directory)
    (hne : directory ≠ "") (boot boot' : BootId) (dir : Directory)
    (hg : (run handle (Governor.open config boot).run dir).1 = .ok g) :
    let first := run handle (Governor.open config boot).run dir
    let second := run handle (Governor.open again boot').run first.2
    Run (SiteStep directory) ⟨dir, []⟩
      [(⟨dir, []⟩, .opened config boot (.ok g)), (⟨first.2, [g]⟩, .operated g .shutdown .shutdown),
        (⟨first.2, [g.shutdown]⟩, .opened again boot' second.1)]
      ⟨second.2, second.1.toOption.toList ++ [g.shutdown]⟩ := by
  intro first second
  have hfirst := siteStep_open hpath hne boot dir []
  rw [hg] at hfirst
  have hshutdown : SiteStep directory ⟨first.2, [] ++ g :: []⟩ (.operated g .shutdown .shutdown)
      ⟨first.2, [] ++ g.shutdown :: []⟩ := .operated ⟨rfl, rfl⟩
  exact ((Run.nil.snoc hfirst).snoc hshutdown).snoc (siteStep_open hpath' hne boot' first.2 _)

end FairnessGovernor
