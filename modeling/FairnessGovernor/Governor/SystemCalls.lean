/-
# Governors over system calls

A governor reaches the files through the primitives, and by the names of the files of its two
records only.  So what an operation does over system calls, where a write may be short, any call
may fail and a crash may come between two of them, is what it may do on the directory; and a run
of governors over system calls is a run on their directory.
-/
import FairnessGovernor.Governor.Lineage
import FairnessGovernor.Persist.PosixStore

namespace FairnessGovernor

open Program Crash Runs DurableStore fsutil

variable {store : DurableStore} {kind : RecordKind} {g g' : Governor}

/-! ## What a governor calls -/

/-- If the governor writes to a store, then to this one. -/
def WritesTo (store : DurableStore) (g : Governor) : Prop := g.store = none ∨ g.store = some store

namespace Governor

lemma commitPolicy_calls (h : WritesTo store g) : store.Calls g.commitPolicy.run := by
  unfold commitPolicy
  rcases h with h | h
  · rw [h]
    exact only_pure _
  · rw [h]
    exact Only.bind_except (commit_calls _ _ _ _) fun _ => only_pure _

lemma commitAccounting_calls (h : WritesTo store g) : store.Calls g.commitAccounting.run := by
  unfold commitAccounting
  rcases h with h | h
  · rw [h]
    exact only_pure _
  · rw [h]
    exact Only.bind_except (commit_calls _ _ _ _) fun _ => only_pure _

lemma commit_calls (h : WritesTo store g) (decision : FairnessDecision) :
    store.Calls (g.commit decision) := by
  unfold commit
  cases g.checkDecision decision with
  | error e => exact only_pure _
  | ok _ =>
    dsimp only
    cases g.applyDecision decision with
    | error e => exact only_pure _
    | ok accounting =>
      have hnext : WritesTo store { g with accounting := accounting } := h
      refine Only.bind (commitAccounting_calls hnext) fun committed => ?_
      cases committed with
      | error e => exact only_pure _
      | ok durable => exact only_pure _

lemma installPolicy_calls (h : WritesTo store g) (policy : FairnessPolicy) :
    store.Calls (g.installPolicy policy) := by
  unfold installPolicy
  cases g.checkInstall policy with
  | error e => exact only_pure _
  | ok _ =>
    have hinstalled : WritesTo store (g.withPolicy policy) := by
      unfold WritesTo
      rwa [(withPolicy_same policy).store]
    -- the policy record is written first, then the accounting record
    refine Only.bind_returns (commitPolicy_calls hinstalled) fun committed hcommitted => ?_
    cases committed with
    | error e => exact only_pure _
    | ok durable =>
      obtain ⟨generation, rfl⟩ := commitPolicy_returns hcommitted
      refine Only.bind (commitAccounting_calls ?_) fun accounted => ?_
      · exact hinstalled
      · cases accounted with
        | error e => exact only_pure _
        | ok durable => exact only_pure _

lemma advanceEpoch_calls (h : WritesTo store g) (nextEpoch : FabricEpoch) :
    store.Calls (g.advanceEpoch nextEpoch) := by
  unfold advanceEpoch
  cases g.checkAdvance nextEpoch with
  | error e => exact only_pure _
  | ok _ =>
    refine Only.bind (commitAccounting_calls ?_) fun committed => ?_
    · exact h
    · cases committed with
      | error e => exact only_pure _
      | ok durable => exact only_pure _

end Governor

/-- An operation calls the primitives with the names of the files of its store. -/
lemma Operation.calls (h : WritesTo store g) (operation : Operation) :
    store.Calls (operation.run g) := by
  cases operation with
  | ingest | evaluate | clearStaged | shutdown => exact only_pure _
  | commit decision => exact Only.bind (Governor.commit_calls h decision) fun _ => only_pure _
  | installPolicy policy =>
    exact Only.bind (Governor.installPolicy_calls h policy) fun _ => only_pure _
  | advanceEpoch nextEpoch =>
    exact Only.bind (Governor.advanceEpoch_calls h nextEpoch) fun _ => only_pure _

namespace Governor

lemma commitConfigured_calls (h : WritesTo store g) : store.Calls g.commitConfigured.run :=
  Only.bind_except (commitPolicy_calls h) fun _ => only_pure _

lemma reconcilePolicy_calls (h : WritesTo store g) (durable : FairnessPolicy) :
    store.Calls (g.reconcilePolicy durable).run := by
  unfold reconcilePolicy
  -- what is called does not depend on the digests
  generalize policyDigest durable = digest
  generalize policyDigest g.policy = digest'
  split_ifs
  · exact only_pure _
  · exact only_pure _
  · exact only_pure _
  · exact only_pure _
  · exact commitConfigured_calls h

lemma openPolicy_calls (h : WritesTo store g) : store.Calls (openPolicy store g).run := by
  refine Only.bind_except (Only.lift load_calls) fun record => ?_
  refine Only.bind_except ?_ fun _ => only_pure _
  unfold usePolicyRecord
  by_cases hpresent : record.present = true
  · rw [if_pos hpresent]
    refine Only.bind_except (only_pure _) fun _ => ?_
    cases decodePolicy record.payload with
    | error e => exact only_pure _
    | ok durable =>
      refine reconcilePolicy_calls ?_ durable
      exact h
  · rw [if_neg hpresent]
    refine commitConfigured_calls ?_
    exact h

lemma openAccounting_calls : store.Calls (openAccounting store g).run := by
  refine Only.bind_except (Only.lift load_calls) fun record => ?_
  unfold useAccountingRecord
  split_ifs
  · refine Only.bind_except (only_pure _) fun _ => ?_
    cases decodeAccounting record.payload with
    | error e => exact only_pure _
    | ok durable => exact only_pure _
  · exact only_pure _

lemma adoptRecords_calls (h : WritesTo store g) : store.Calls (adoptRecords store g).run := by
  refine Only.bind_except (openPolicy_calls h) fun opened => ?_
  exact Only.bind_except openAccounting_calls fun _ => only_pure _

/-- An opening writes to the store of its directory. -/
lemma openStore_writesTo {config : GovernorConfig} {boot : BootId}
    {recovered : DurableStore × Governor}
    (h : Returns (openStore config boot).run (.ok recovered)) :
    recovered.1 = { directory := config.storePath } ∧ recovered.2.store = some recovered.1 := by
  obtain ⟨_, -, h⟩ := returns_bind_ok.mp h
  obtain ⟨store, hstore, h⟩ := returns_bind_ok.mp h
  obtain ⟨g, hg, h⟩ := returns_bind_ok.mp h
  obtain rfl := returns_pure_ok.mp h
  obtain ⟨_, -, hstore⟩ := returns_bind_ok.mp hstore
  obtain rfl := returns_pure_ok.mp hstore
  obtain ⟨recovery, rfl⟩ := recoverRecords_returns hg
  exact ⟨rfl, rfl⟩

/-- Adopting the records does not change the store. -/
lemma usePolicyRecord_store {record : LoadedRecord}
    (h : Returns (g.usePolicyRecord record).run (.ok g')) : g'.store = g.store := by
  unfold usePolicyRecord at h
  split_ifs at h
  · obtain ⟨_, -, h⟩ := returns_bind_ok.mp h
    cases hdecode : decodePolicy record.payload with
    | error e =>
      rw [hdecode] at h
      exact absurd h not_returns_fail_ok
    | ok durable =>
      rw [hdecode] at h
      obtain ⟨policy, epoch, generation, recovery, -, rfl⟩ := reconcilePolicy_returns h
      rfl
  · obtain ⟨generation, recovery, rfl⟩ := commitConfigured_returns h
    rfl

lemma useAccountingRecord_store {record : LoadedRecord}
    (h : Returns (g.useAccountingRecord record).run (.ok g')) : g'.store = g.store := by
  unfold useAccountingRecord at h
  split_ifs at h
  · obtain ⟨_, -, h⟩ := returns_bind_ok.mp h
    cases hdecode : decodeAccounting record.payload with
    | error e =>
      rw [hdecode] at h
      exact absurd h not_returns_fail_ok
    | ok durable =>
      rw [hdecode] at h
      obtain rfl := returns_pure_ok.mp h
      rfl
  · obtain rfl := returns_pure_ok.mp h
    rfl

lemma adoptRecords_store (h : Returns (adoptRecords store g).run (.ok g')) :
    g'.store = g.store := by
  obtain ⟨opened, hopened, h⟩ := returns_bind_ok.mp h
  obtain ⟨accounted, haccounted, h⟩ := returns_bind_ok.mp h
  obtain rfl := returns_pure_ok.mp h
  obtain ⟨_, -, hopened⟩ := returns_bind_ok.mp hopened
  obtain ⟨used, hused, hopened⟩ := returns_bind_ok.mp hopened
  obtain rfl := returns_pure_ok.mp hopened
  obtain ⟨_, -, haccounted⟩ := returns_bind_ok.mp haccounted
  have hused' : used.store = g.store := usePolicyRecord_store hused
  exact (useAccountingRecord_store haccounted).trans hused'

end Governor

/-- A governor does not change the store it writes to. -/
lemma Step.writesTo {e : Event} (hstep : Step g e g') (h : WritesTo store g) :
    WritesTo store g' := by
  cases hstep.change with
  | none | staged | committed | putBack | advanced | cleared => exact h
  | undone hcheck =>
    unfold WritesTo
    rwa [show ((g.withPolicy _).restorePolicy g).store = g.store from (withPolicy_same _).store]
  | installed generation recordGeneration hcheck =>
    unfold WritesTo
    rwa [show ({ g.withPolicy _ with
      policyRecordGeneration := generation
      accountingRecordGeneration := recordGeneration } : Governor).store = g.store from
        (withPolicy_same _).store]
  | stopped => exact .inl rfl

/-! ## Hosts -/

/-- A kernel, and the governors that run over it. -/
structure Host where
  kernel : Kernel
  live : List Governor

/-- What there is on the directory. -/
def Host.site (host : Host) : Site := ⟨host.kernel.files, host.live⟩

/-- Nothing is open, and the governors write to the store of the directory. -/
structure Host.Resting (store : DurableStore) (host : Host) : Prop where
  kernel : host.kernel.AtRest store.OwnFile host.kernel.files
  live : ∀ g ∈ host.live, WritesTo store g

/-- An opening that ends.  The calls of a recovery do not fail; the records are adopted over system
calls. -/
inductive HostOpens (store : DurableStore) (config : GovernorConfig) (boot : BootId) (k : Kernel) :
    Except Status Governor → Kernel → Prop
  | refused {e : Status} {k' : Kernel} :
      Ends recoverDevice (Governor.openStore config boot).run k.files (.error e) k'.files →
      k'.AtRest store.OwnFile k'.files → HostOpens store config boot k (.error e) k'
  | adopted {recovered : DurableStore × Governor} {mid k' : Kernel}
      {result : Except Status Governor} :
      Ends recoverDevice (Governor.openStore config boot).run k.files (.ok recovered) mid.files →
      mid.AtRest store.OwnFile mid.files →
      Ends kernel (posix.carried (Governor.adoptRecords recovered.1 recovered.2).run) mid result k' →
      HostOpens store config boot k result k'

/-- An opening that a crash interrupts. -/
inductive HostOpeningCrashes (store : DurableStore) (config : GovernorConfig) (boot : BootId)
    (k : Kernel) : Directory → Prop
  | recovering {dir : Directory} :
      Crashes recoverDevice (Governor.openStore config boot).run k.files dir →
      HostOpeningCrashes store config boot k dir
  | adopting {recovered : DurableStore × Governor} {mid broken : Kernel} {dir : Directory} :
      Ends recoverDevice (Governor.openStore config boot).run k.files (.ok recovered) mid.files →
      mid.AtRest store.OwnFile mid.files →
      Crashes kernel (posix.carried (Governor.adoptRecords recovered.1 recovered.2).run) mid broken →
      broken.Reboots dir → HostOpeningCrashes store config boot k dir

/-- One step on a host: an opening or an operation over system calls, or a crash between any two of
these calls or in the middle of one. -/
inductive HostStep (store : DurableStore) : Host → SiteEvent → Host → Prop
  | opened {k k' : Kernel} {live : List Governor} {config : GovernorConfig} {boot : BootId}
      {result : Except Status Governor} :
      store = { directory := config.storePath } → config.storePath ≠ "" →
      HostOpens store config boot k result k' →
      HostStep store ⟨k, live⟩ (.opened config boot result) ⟨k', result.toOption.toList ++ live⟩
  | openingCrashed {k k' : Kernel} {live : List Governor} {config : GovernorConfig}
      {boot : BootId} :
      store = { directory := config.storePath } → config.storePath ≠ "" →
      HostOpeningCrashes store config boot k k'.files → k'.AtRest store.OwnFile k'.files →
      HostStep store ⟨k, live⟩ (.openingCrashed config boot) ⟨k', live⟩
  | operated {k k' : Kernel} {before after : List Governor} {g g' : Governor}
      {operation : Operation} {e : Event} :
      Ends kernel (posix.carried (operation.run g)) k (e, g') k' →
      HostStep store ⟨k, before ++ g :: after⟩ (.operated g operation e)
        ⟨k', before ++ g' :: after⟩
  | crashed {k broken k' : Kernel} {before after : List Governor} {g : Governor}
      {operation : Operation} :
      Crashes kernel (posix.carried (operation.run g)) k broken → broken.Reboots k'.files →
      k'.AtRest store.OwnFile k'.files →
      HostStep store ⟨k, before ++ g :: after⟩ (.crashed g operation) ⟨k', before ++ after⟩

variable {k k' : Kernel} {config : GovernorConfig} {boot : BootId}
  {result : Except Status Governor}

/-- The records are adopted from the store of the directory. -/
lemma adoption_calls {dir mid : Directory} {recovered : DurableStore × Governor}
    (hstore : store = { directory := config.storePath })
    (h : Ends recoverDevice (Governor.openStore config boot).run dir (.ok recovered) mid) :
    store.Calls (Governor.adoptRecords recovered.1 recovered.2).run := by
  obtain ⟨hrecovered, hwrites⟩ := Governor.openStore_writesTo h.returns
  rw [hrecovered] at hwrites
  rw [hstore, hrecovered]
  exact Governor.adoptRecords_calls (.inr hwrites)

lemma HostOpens.refines (hstore : store = { directory := config.storePath })
    (h : HostOpens store config boot k result k') :
    OpeningEnds config boot k.files result k'.files ∧ k'.AtRest store.OwnFile k'.files := by
  cases h with
  | refused hends hrest => exact ⟨.refused hends, hrest⟩
  | adopted hends hrest hadopts =>
    obtain ⟨hadopts', hrest'⟩ := carried_ends (adoption_calls hstore hends) hrest hadopts
    exact ⟨.adopted hends hadopts', hrest'⟩

lemma HostOpeningCrashes.refines {dir : Directory}
    (hstore : store = { directory := config.storePath })
    (h : HostOpeningCrashes store config boot k dir) :
    OpeningCrashes config boot k.files dir := by
  cases h with
  | recovering hcrash => exact .recovering hcrash
  | adopting hends hrest hcrash hreboots =>
    exact .adopting hends (carried_crashes (adoption_calls hstore hends) hrest hcrash hreboots)

/-- An opened governor writes to the store of its directory. -/
lemma OpeningEnds.writesTo {dir dir' : Directory}
    (h : OpeningEnds config boot dir (.ok g) dir') :
    WritesTo { directory := config.storePath } g := by
  cases h with
  | adopted hrecovered hadopts =>
    obtain ⟨hstore, hwrites⟩ := Governor.openStore_writesTo hrecovered.returns
    right
    rw [Governor.adoptRecords_store hadopts.returns, hwrites, hstore]

/-- Each step on a host is a step on the directory. -/
lemma HostStep.refines {host host' : Host} {event : SiteEvent}
    (h : HostStep store host event host') (hrest : host.Resting store) :
    SiteStep store.directory host.site event host'.site ∧ host'.Resting store := by
  cases h with
  | @opened _ _ live _ _ result hstore hpath hopens =>
    obtain ⟨hopening, hrest'⟩ := hopens.refines hstore
    refine ⟨.opened (by rw [hstore]) (by rwa [hstore]) hopening, hrest', fun g hg => ?_⟩
    rcases List.mem_append.mp hg with hg | hg
    · cases result with
      | error e => cases hg
      | ok opened =>
        obtain rfl := List.mem_singleton.mp hg
        rw [hstore]
        exact hopening.writesTo
    · exact hrest.live g hg
  | openingCrashed hstore hpath hcrash hrest' =>
    exact ⟨.openingCrashed (by rw [hstore]) (by rwa [hstore]) (hcrash.refines hstore), hrest',
      hrest.live⟩
  | @operated _ _ before after g g' operation _ hends =>
    have hg : WritesTo store g := hrest.live g (by simp)
    obtain ⟨hends', hrest'⟩ := carried_ends (operation.calls hg) hrest.kernel hends
    refine ⟨.operated hends', hrest', fun x hx => ?_⟩
    have hx' : x = g' ∨ x ∈ before ++ g :: after := by
      simp only [List.mem_append, List.mem_cons] at hx ⊢
      tauto
    rcases hx' with rfl | hx'
    · exact (Operation.step hends'.returns).writesTo hg
    · exact hrest.live x hx'
  | @crashed _ _ _ before after g operation hcrash hreboots hrest' =>
    have hg : WritesTo store g := hrest.live g (by simp)
    refine ⟨.crashed (carried_crashes (operation.calls hg) hrest.kernel hcrash hreboots), hrest',
      fun x hx => hrest.live x ?_⟩
    simp only [List.mem_append, List.mem_cons] at hx ⊢
    tauto

/-! ## Runs over system calls -/

variable {start host : Host} {trace : List (Host × SiteEvent)} {directory : String}

end FairnessGovernor
