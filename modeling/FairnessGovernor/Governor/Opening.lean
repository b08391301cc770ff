/-
# What opening a governor gives

Whatever the file system responds, an opened governor serves a validated policy, its accounting
is within the bounds of a record and stamped with its policy and its epoch, and nothing is
staged.
-/
import FairnessGovernor.Governor.Step
import FairnessGovernor.Persist.CodecSpec

namespace FairnessGovernor

open Program Runs

variable {config : GovernorConfig} {boot : BootId} {g g' : Governor}

/-- The accounting names the policy and the epoch of its governor. -/
structure Stamped (g : Governor) : Prop where
  policyId : g.accounting.policyId = g.policy.id
  policyGeneration : g.accounting.policyGeneration = g.policy.generation
  epoch : g.accounting.epoch = g.epoch

/-- A governor at any point of its opening. -/
structure Booted (config : GovernorConfig) (boot : BootId) (g : Governor) : Prop where
  config : g.config = config
  incarnation : g.incarnation = makeIncarnation boot
  not_stopping : g.stopping = false
  policy_valid : validatePolicy g.policy = .ok ()
  accounting_valid : ValidAccounting g.accounting
  staged : g.staged = {}
  ingested : g.ingested = {}
  publisherSequences : g.publisherSequences = {}

lemma stampAccounting_stamped (g : Governor) : Stamped g.stampAccounting := ⟨rfl, rfl, rfl⟩

lemma Booted.stampAccounting (h : Booted config boot g) : Booted config boot g.stampAccounting :=
  ⟨h.config, h.incarnation, h.not_stopping, h.policy_valid,
    ⟨h.accounting_valid.entry_valid, h.accounting_valid.ids_nodup⟩, h.staged, h.ingested,
    h.publisherSequences⟩

/-- What recovery reports is no part of it. -/
lemma Booted.recovered (h : Booted config boot g) (store : Option DurableStore)
    (recovery : RecoveryReport) :
    Booted config boot { g with store := store, recovery := recovery } :=
  ⟨h.config, h.incarnation, h.not_stopping, h.policy_valid, h.accounting_valid, h.staged,
    h.ingested, h.publisherSequences⟩

lemma initial_booted (h : checkConfig config = .ok ()) :
    Booted config boot (.initial config boot) := by
  obtain ⟨hvalid, -⟩ := bind_unit_eq_ok.mp h
  exact ⟨rfl, rfl, rfl, hvalid, ⟨by simp [Governor.initial, Governor.stampAccounting],
    by simp [Governor.initial, Governor.stampAccounting]⟩, rfl, rfl, rfl⟩

/-! ## The phases of opening -/

namespace Governor

lemma recoverRecords_returns {store : DurableStore}
    (h : Returns (recoverRecords store g).run (.ok g')) :
    ∃ recovery, g' = { g with store := some store, recovery := recovery } := by
  obtain ⟨⟨policyResult, policyNotes⟩, -, h⟩ := returns_bind_ok.mp h
  obtain ⟨⟨accountingResult, accountingNotes⟩, -, h⟩ := returns_bind_ok.mp h
  dsimp only at h
  split at h
  · exact ⟨_, (returns_pure_ok.mp h).symm⟩
  · exact absurd h not_returns_fail_ok

/-- Committing the configured policy changes what opening reports, and the record generation. -/
lemma commitConfigured_returns (h : Returns g.commitConfigured.run (.ok g')) :
    ∃ generation recovery, g' = { g with
      policyRecordGeneration := generation, recovery := recovery } := by
  obtain ⟨committed, hcommitted, h⟩ := returns_bind_ok.mp h
  obtain ⟨generation, rfl⟩ := commitPolicy_returns hcommitted
  exact ⟨generation, _, (returns_pure_ok.mp h).symm⟩

/-- The policy served is the configured one in the configured epoch, or a newer durable one in its
own. -/
lemma reconcilePolicy_returns {durable : FairnessPolicy}
    (h : Returns (g.reconcilePolicy durable).run (.ok g')) :
    ∃ policy epoch generation recovery,
      (policy = g.policy ∧ epoch = g.epoch ∨ policy = durable ∧ epoch = durable.epoch) ∧
      g' = { g with policy := policy, epoch := epoch, policyRecordGeneration := generation,
                    recovery := recovery } := by
  unfold reconcilePolicy at h
  split_ifs at h
  · exact absurd h not_returns_fail_ok
  · exact ⟨durable, durable.epoch, _, _, .inr ⟨rfl, rfl⟩, (returns_pure_ok.mp h).symm⟩
  · exact absurd h not_returns_fail_ok
  · exact ⟨g.policy, g.epoch, _, _, .inl ⟨rfl, rfl⟩, (returns_pure_ok.mp h).symm⟩
  · obtain ⟨generation, recovery, rfl⟩ := commitConfigured_returns h
    exact ⟨g.policy, g.epoch, generation, recovery, .inl ⟨rfl, rfl⟩, rfl⟩

/-- After the policy part of opening the policy served is validated. -/
lemma openPolicy_booted {store : DurableStore} (hg : Booted config boot g)
    (h : Returns (openPolicy store g).run (.ok g')) : Booted config boot g' ∧ Stamped g' := by
  obtain ⟨record, -, h⟩ := returns_bind_ok.mp h
  obtain ⟨opened, hopened, h⟩ := returns_bind_ok.mp h
  obtain rfl := returns_pure_ok.mp h
  refine ⟨Booted.stampAccounting ?_, stampAccounting_stamped _⟩
  unfold usePolicyRecord at hopened
  split_ifs at hopened
  · obtain ⟨_, -, hopened⟩ := returns_bind_ok.mp hopened
    cases hdecode : decodePolicy record.payload with
    | error e =>
      rw [hdecode] at hopened
      exact absurd hopened not_returns_fail_ok
    | ok durable =>
      rw [hdecode] at hopened
      obtain ⟨policy, epoch, generation, recovery, hpolicy, rfl⟩ :=
        reconcilePolicy_returns hopened
      refine ⟨hg.config, hg.incarnation, hg.not_stopping, ?_, hg.accounting_valid, hg.staged,
        hg.ingested, hg.publisherSequences⟩
      rcases hpolicy with ⟨rfl, -⟩ | ⟨rfl, -⟩
      · exact hg.policy_valid
      · exact validatePolicy_of_decode hdecode
  · obtain ⟨generation, recovery, rfl⟩ := commitConfigured_returns hopened
    exact ⟨hg.config, hg.incarnation, hg.not_stopping, hg.policy_valid, hg.accounting_valid,
      hg.staged, hg.ingested, hg.publisherSequences⟩

/-- The entries that are kept are some of those of the record. -/
lemma keptEntries_valid {policy : FairnessPolicy} {durable : FairnessAccounting}
    (h : ValidAccounting durable) :
    ValidAccounting { durable with subjects := keptEntries policy durable.subjects } :=
  ⟨fun entry hentry => h.entry_valid entry (List.mem_of_mem_filter hentry),
    h.ids_nodup.sublist (List.filter_sublist.map _)⟩

/-- The accounting part of opening keeps the policy. -/
lemma openAccounting_booted {store : DurableStore} (hg : Booted config boot g) (hs : Stamped g)
    (h : Returns (openAccounting store g).run (.ok g')) :
    Booted config boot g' ∧ Stamped g' := by
  obtain ⟨record, -, h⟩ := returns_bind_ok.mp h
  unfold useAccountingRecord at h
  split_ifs at h
  · obtain ⟨_, -, h⟩ := returns_bind_ok.mp h
    cases hdecode : decodeAccounting record.payload with
    | error e =>
      rw [hdecode] at h
      exact absurd h not_returns_fail_ok
    | ok durable =>
      rw [hdecode] at h
      obtain rfl := returns_pure_ok.mp h
      refine ⟨Booted.stampAccounting ?_, stampAccounting_stamped _⟩
      exact ⟨hg.config, hg.incarnation, hg.not_stopping, hg.policy_valid,
        keptEntries_valid (.of_decode hdecode), hg.staged, hg.ingested, hg.publisherSequences⟩
  · obtain rfl := returns_pure_ok.mp h
    exact ⟨⟨hg.config, hg.incarnation, hg.not_stopping, hg.policy_valid, hg.accounting_valid,
      hg.staged, hg.ingested, hg.publisherSequences⟩, ⟨hs.policyId, hs.policyGeneration, hs.epoch⟩⟩

end Governor

/-- An opened governor. -/
theorem Opens.booted (h : Opens config boot g) : Booted config boot g ∧ Stamped g := by
  unfold Opens Governor.open at h
  obtain ⟨_, hcheck, h⟩ := returns_bind_ok.mp h
  have hinitial : Booted config boot (.initial config boot) := initial_booted hcheck
  split_ifs at h
  · obtain rfl := returns_pure_ok.mp h
    exact ⟨hinitial, stampAccounting_stamped _⟩
  · obtain ⟨store, -, h⟩ := returns_bind_ok.mp h
    obtain ⟨recovered, hrecovered, h⟩ := returns_bind_ok.mp h
    obtain ⟨opened, hopened, h⟩ := returns_bind_ok.mp h
    obtain ⟨accounted, haccounted, h⟩ := returns_bind_ok.mp h
    obtain rfl := returns_pure_ok.mp h
    obtain ⟨recovery, rfl⟩ := Governor.recoverRecords_returns hrecovered
    obtain ⟨hpolicy, hstamped⟩ :=
      Governor.openPolicy_booted (hinitial.recovered (some store) recovery) hopened
    obtain ⟨hbooted, hs⟩ := Governor.openAccounting_booted hpolicy hstamped haccounted
    exact ⟨⟨hbooted.config, hbooted.incarnation, hbooted.not_stopping, hbooted.policy_valid,
      hbooted.accounting_valid, rfl, rfl, rfl⟩, ⟨hs.policyId, hs.policyGeneration, hs.epoch⟩⟩

end FairnessGovernor
