/-
# Opening where nothing fails

On a file system that does not fail, opening leaves both records at rest, and the governor that is
opened is what they say: it mirrors them.  Whoever mirrors the records is what opening makes of
them again, up to the entries that its policy does not govern.
-/
import FairnessGovernor.Persist.Reliable
import FairnessGovernor.Governor.DurableEpoch

namespace FairnessGovernor

open Program Runs DurableStore

/-! ## What an opened governor mirrors -/

/-- What an opened governor serves, of a durable policy that is not older than the configured
one. -/
inductive Serves (config : GovernorConfig) (durable : FairnessPolicy) : FairnessPolicy → Prop
  | newer : config.policy.generation.value < durable.generation.value →
      Serves config durable durable
  | same : durable.generation = config.policy.generation →
      policyDigest durable = policyDigest config.policy → Serves config durable config.policy

/-- A record that opening serves the policy from. -/
def ServedFrom (config : GovernorConfig) (policy : FairnessPolicy) (record : DecodedRecord) :
    Prop :=
  ∃ durable, decodePolicy record.payload = .ok durable ∧ durable.id = config.policy.id ∧
    Serves config durable policy

/-- The accounting in a record, or the one of a governor that has not committed. -/
def accountingOf (v : Option DecodedRecord) : Except Status FairnessAccounting :=
  v.elim (.ok {}) fun record => decodeAccounting record.payload

/-- The accounting is what opening makes of the durable one under the policy, the stamp aside. -/
structure Adopts (policy : FairnessPolicy) (durable accounting : FairnessAccounting) : Prop where
  generation : accounting.generation = durable.generation
  interventionGeneration : accounting.interventionGeneration = durable.interventionGeneration
  lastWindow : accounting.lastWindow = durable.lastWindow
  entries : Governor.keptEntries policy accounting.subjects =
    Governor.keptEntries policy durable.subjects

/-- The later of the two epochs, as opening takes it. -/
def laterEpoch (durable epoch : FabricEpoch) : FabricEpoch :=
  if durable.value > epoch.value then durable else epoch

/-- The durable records are those that opening makes the governor of. -/
structure Mirrored (config : GovernorConfig) (g : Governor) (records : Records) : Prop where
  policy : ∃ record, records .policy = some record ∧ ServedFrom config g.policy record
  accounting : ∃ durable, accountingOf (records .accounting) = .ok durable ∧
    Adopts g.policy durable g.accounting ∧ g.epoch = laterEpoch durable.epoch g.policy.epoch
  accountingGeneration : g.accountingRecordGeneration = generationOf (records .accounting)

variable {config : GovernorConfig} {boot : BootId} {store : DurableStore} {g g' : Governor}
  {dir dir' : Directory} {v : Option DecodedRecord} {record : DecodedRecord}

/-- The first part of opening, by what its recoveries give. -/
lemma run_openStore_eq (hcheck : checkConfig config = .ok ()) :
    run handle (Governor.openStore config boot).run dir =
      run handle ((Governor.recoverRecords { directory := config.storePath }
        (Governor.initial config boot)) >>= fun recovered =>
          pure (({ directory := config.storePath } : DurableStore), recovered)).run dir := by
  have hof : run handle (StatusM.of (checkConfig config)).run dir = (.ok (), dir) := by
    rw [hcheck]
    rfl
  have hopen : run handle (DurableStore.open config.storePath).run dir =
      (.ok { directory := config.storePath }, dir) := rfl
  unfold Governor.openStore
  rw [run_bind_ok hof, run_bind_ok hopen]

/-- Opening that finds no companions writes nothing before it loads the records. -/
lemma run_openStore (hcheck : checkConfig config = .ok ())
    (hclean : ∀ kind, Clean { directory := config.storePath } kind dir) :
    ∃ recovery, run handle (Governor.openStore config boot).run dir =
      (.ok ({ directory := config.storePath }, { Governor.initial config boot with
        store := some { directory := config.storePath }, recovery := recovery }), dir) := by
  have hrecover : ∀ kind, run handle (liftM (recover { directory := config.storePath } kind {}) :
      StatusM (Except Status Unit × RecoveryNotes)).run dir = (.ok (.ok (), {}), dir) := by
    intro kind
    rw [run_lift, recover_clean (hclean kind)]
  rw [run_openStore_eq hcheck]
  unfold Governor.recoverRecords
  rw [bind_assoc, run_bind_ok (hrecover .policy), bind_assoc, run_bind_ok (hrecover .accounting)]
  exact ⟨_, rfl⟩

/-- Recovery leaves no companion of either record. -/
lemma run_recoverRecords_ok
    (h : run handle (Governor.recoverRecords store g).run dir = (.ok g', dir')) :
    ∀ kind, store.Clean kind dir' := by
  unfold Governor.recoverRecords at h
  rw [run_bind_ok (run_lift _ _), run_bind_ok (run_lift _ _)] at h
  obtain ⟨policy, hpolicy⟩ : ∃ t, (run handle (store.recover .policy {}) dir).2 = t := ⟨_, rfl⟩
  rw [hpolicy] at h
  have hclean : store.Clean .policy policy := hpolicy ▸ run_recover_leaves {} dir
  -- neither of the two outcomes writes any more
  have hdir : dir' = (run handle (store.recover .accounting {}) policy).2 := by
    dsimp only at h
    split at h
    · exact (Prod.mk_inj.mp h).2.symm
    · exact (Prod.mk_inj.mp h).2.symm
  intro kind
  rw [hdir]
  cases kind with
  | policy =>
    intro file hfile
    rw [run_frame (@recover_writes store .accounting {}) (by decide)]
    exact hclean file hfile
  | accounting => exact run_recover_leaves {} policy

/-- Whatever is found, the first part of opening leaves no companion. -/
lemma run_openStore_ok {recovered : DurableStore × Governor}
    (h : run handle (Governor.openStore config boot).run dir = (.ok recovered, dir')) :
    Recovering config boot recovered ∧ ∀ kind, recovered.1.Clean kind dir' := by
  unfold Governor.openStore at h
  obtain ⟨_, mid, hcheck, h⟩ := run_bind_eq_ok.mp h
  obtain ⟨store, mid', hstore, h⟩ := run_bind_eq_ok.mp h
  obtain ⟨g, mid'', hg, h⟩ := run_bind_eq_ok.mp h
  obtain ⟨hrecovered, rfl⟩ := Prod.mk_inj.mp h
  obtain rfl := Except.ok.inj hrecovered
  obtain rfl := Except.ok.inj (Prod.mk_inj.mp hstore).1
  have hreturns := @returns_run _ _ _ _ handle (Governor.recoverRecords
    { directory := config.storePath } (Governor.initial config boot)).run mid'
  rw [hg] at hreturns
  exact ⟨⟨(Prod.mk_inj.mp hcheck).1, rfl, Governor.recoverRecords_returns hreturns⟩,
    run_recoverRecords_ok hg⟩

/-- A policy that is committed while the governor is opened is at rest then. -/
lemma run_commitConfigured_ok (hg : Configured config store g) (hfaults : store.faults = {})
    (h : store.Rests .policy v dir)
    (hrun : run handle g.commitConfigured.run dir = (.ok g', dir')) :
    (∃ record, store.Rests .policy (some record) dir' ∧
      decodePolicy record.payload = .ok config.policy) ∧
    (∃ generation recovery, g' = { g with
      policyRecordGeneration := generation, recovery := recovery }) ∧
    ∀ file, dir' (store.path .accounting file) = dir (store.path .accounting file) := by
  have hreturns := @returns_run _ _ _ _ handle g.commitConfigured.run dir
  rw [hrun] at hreturns
  refine ⟨?_, Governor.commitConfigured_returns hreturns, ?_⟩
  · unfold Governor.commitConfigured Governor.commitPolicy at hrun
    rw [hg.store] at hrun
    dsimp only at hrun
    -- on a file system that does not fail the commit is refused or takes place
    by_cases htakes : Takes v g.policyRecordGeneration (g.policyRecordGeneration + 1)
        (encodePolicy g.policy) g.incarnation
    · obtain ⟨t, ht, hrests⟩ := run_commit_taken h hfaults htakes
      rw [bind_assoc, run_bind_ok ht] at hrun
      obtain ⟨-, rfl⟩ := Prod.mk_inj.mp hrun
      refine ⟨_, hrests, ?_⟩
      show decodePolicy (encodePolicy g.policy) = _
      rw [← hg.policy]
      exact decodePolicy_encodePolicy (hg.policy ▸ hg.valid) htakes.size
    · obtain ⟨e, he⟩ := run_commit_refused h hfaults htakes
      rw [bind_assoc, run_bind_error he] at hrun
      cases hrun
  · have honly : Only (store.WritesOnly .policy) g.commitConfigured.run := by
      unfold Governor.commitConfigured Governor.commitPolicy
      rw [hg.store]
      exact Only.bind_except (Only.bind_except (commit_writes _ _ _ _) fun _ => only_pure _)
        fun _ => only_pure _
    intro file
    have hframe := @run_frame store .policy .accounting _ _ honly (by decide) dir file
    rwa [hrun] at hframe

/-- The policy part of opening: what is served, and the record that is at rest then. -/
structure PolicyServed (config : GovernorConfig) (store : DurableStore) (g opened : Governor)
    (dir dir' : Directory) : Prop where
  record : ∃ record, store.Rests .policy (some record) dir' ∧
    ServedFrom config opened.policy record
  epoch : opened.epoch = opened.policy.epoch
  accounting : opened.accounting = { g.accounting with
    policyId := opened.policy.id, policyGeneration := opened.policy.generation
    epoch := opened.epoch }
  attached : opened.store = g.store
  accountingGeneration : opened.accountingRecordGeneration = g.accountingRecordGeneration
  frame : ∀ file, dir' (store.path .accounting file) = dir (store.path .accounting file)

/-- The configured policy is committed, and served. -/
lemma PolicyServed.of_commit (hg : Configured config store g) (hfaults : store.faults = {})
    {generation : UInt64} {recovery : RecoveryReport} (hrests : store.Rests .policy v dir)
    (hrun : run handle (Governor.commitConfigured { g with
      policyRecordGeneration := generation, recovery := recovery } >>= fun opened =>
        pure opened.stampAccounting).run dir = (.ok g', dir')) :
    PolicyServed config store g g' dir dir' := by
  have hconfigured : Configured config store { g with
      policyRecordGeneration := generation, recovery := recovery } :=
    ⟨hg.valid, hg.policy, hg.epoch, hg.store, hg.accountingGeneration⟩
  obtain ⟨opened, t, hresult, hrun⟩ := run_bind_eq_ok.mp hrun
  obtain ⟨hopened, rfl⟩ := Prod.mk_inj.mp hrun
  obtain rfl := Except.ok.inj hopened
  obtain ⟨⟨record, hrecord, hdecode⟩, ⟨generation', recovery', rfl⟩, hframe⟩ :=
    run_commitConfigured_ok hconfigured hfaults hrests hresult
  refine ⟨⟨record, hrecord, _, hdecode, rfl, ?_⟩, ?_, rfl, rfl, rfl, hframe⟩
  · show Serves config config.policy g.policy
    rw [hg.policy]
    exact .same rfl rfl
  · show g.epoch = g.policy.epoch
    rw [hg.policy, hg.epoch]

/-- The durable policy is served, or the configured one. -/
lemma PolicyServed.of_reconcile {durable : FairnessPolicy} (hg : Configured config store g)
    (hfaults : store.faults = {}) (hrests : store.Rests .policy (some record) dir)
    (hdecode : decodePolicy record.payload = .ok durable)
    (hrun : run handle (Governor.reconcilePolicy { g with
      policyRecordGeneration := record.generation } durable >>= fun opened =>
        pure opened.stampAccounting).run dir = (.ok g', dir')) :
    PolicyServed config store g g' dir dir' := by
  unfold Governor.reconcilePolicy at hrun
  -- The branches: another policy, a newer record, the same generation with another or the same
  -- digest, and an older record, which the configured policy replaces.
  split_ifs at hrun with hid hnewer hsame hdigest
  · cases hrun
  · obtain ⟨hopened, rfl⟩ := Prod.mk_inj.mp hrun
    obtain rfl := Except.ok.inj hopened
    rw [hg.policy] at hid hnewer
    exact ⟨⟨record, hrests, durable, hdecode, not_not.mp hid, .newer hnewer⟩, rfl, rfl, rfl, rfl,
      fun _ => rfl⟩
  · cases hrun
  · obtain ⟨hopened, rfl⟩ := Prod.mk_inj.mp hrun
    obtain rfl := Except.ok.inj hopened
    rw [hg.policy] at hid hsame hdigest
    refine ⟨⟨record, hrests, durable, hdecode, not_not.mp hid, ?_⟩, ?_, rfl, rfl, rfl,
      fun _ => rfl⟩
    · show Serves config durable g.policy
      rw [hg.policy]
      exact .same hsame (not_not.mp hdigest)
    · show g.epoch = g.policy.epoch
      rw [hg.policy, hg.epoch]
  · exact .of_commit hg hfaults hrests hrun

lemma run_openPolicy_ok (hg : Configured config store g) (hfaults : store.faults = {})
    (hclean : store.Clean .policy dir)
    (hrun : run handle (Governor.openPolicy store g).run dir = (.ok g', dir')) :
    PolicyServed config store g g' dir dir' := by
  unfold Governor.openPolicy Governor.usePolicyRecord at hrun
  rw [run_bind_ok (run_lift _ _), run_load] at hrun
  dsimp only at hrun
  -- a record that is present is reconciled; otherwise the configured policy is committed
  by_cases hpresent : (store.loads .policy dir).present = true
  · rw [if_pos hpresent, bind_assoc] at hrun
    by_cases hok : (store.loads .policy dir).ok
    · obtain ⟨v, hrests⟩ := hclean.rests fun _ => hok
      rw [hrests.holds.loads_eq] at hrun hpresent
      cases v with
      | none => cases hpresent
      | some record =>
        rw [Option.elim_some, run_bind_ok (a := ()) (t := dir) rfl] at hrun
        cases hdecode : decodePolicy (loadedOf .policy record).payload with
        | error e =>
          rw [hdecode] at hrun
          cases hrun
        | ok durable =>
          rw [hdecode] at hrun
          exact .of_reconcile hg hfaults hrests hdecode hrun
    · rw [rejectIf, if_pos hok] at hrun
      cases hrun
  · rw [if_neg hpresent] at hrun
    obtain ⟨v, hrests⟩ := hclean.rests fun h => absurd h hpresent
    exact .of_commit hg hfaults hrests hrun

/-- The governor once the durable accounting is adopted, if there is one. -/
def Governor.accounted (g : Governor) (v : Option DecodedRecord) (durable : FairnessAccounting) :
    Governor :=
  match v with
  | none => { g with recovery := { g.recovery with accountingCode := .notFound } }
  | some record =>
    Governor.adoptAccounting { g with accountingRecordGeneration := record.generation } durable

/-- The accounting part of opening, over the record that is at rest. -/
lemma run_openAccounting (h : store.Rests .accounting v dir) :
    (run handle (Governor.openAccounting store g).run dir).2 = dir ∧
      ∀ g', (run handle (Governor.openAccounting store g).run dir).1 = .ok g' ↔
        ∃ durable, accountingOf v = .ok durable ∧ g.accounted v durable = g' := by
  unfold Governor.openAccounting Governor.useAccountingRecord
  rw [run_bind_ok (run_lift _ _), run_load, h.holds.loads_eq]
  dsimp only
  cases v with
  | none =>
    refine ⟨rfl, fun g' => ⟨fun hg' => ⟨{}, rfl, Except.ok.inj hg'⟩, ?_⟩⟩
    rintro ⟨_, -, rfl⟩
    rfl
  | some record =>
    rw [Option.elim_some, if_pos (show (loadedOf .accounting record).present = true from rfl),
      run_bind_ok (a := ()) (t := dir) rfl]
    cases hdecode : decodeAccounting (loadedOf .accounting record).payload with
    | error e =>
      refine ⟨rfl, fun g' => ⟨fun hg' => (by cases hg'), ?_⟩⟩
      rintro ⟨durable, hdurable, -⟩
      cases hdecode.symm.trans hdurable
    | ok durable =>
      refine ⟨rfl, fun g' => ⟨fun hg' => ⟨durable, hdecode, Except.ok.inj hg'⟩, ?_⟩⟩
      rintro ⟨again, hagain, rfl⟩
      obtain rfl := Except.ok.inj (hdecode.symm.trans hagain)
      rfl

/-- An accounting record that cannot be loaded is not opened. -/
lemma run_openAccounting_rests (hclean : store.Clean .accounting dir)
    (hrun : run handle (Governor.openAccounting store g).run dir = (.ok g', dir')) :
    ∃ v, store.Rests .accounting v dir := by
  refine hclean.rests fun hpresent => ?_
  by_contra hok
  unfold Governor.openAccounting Governor.useAccountingRecord at hrun
  rw [run_bind_ok (run_lift _ _), run_load] at hrun
  dsimp only at hrun
  rw [if_pos hpresent, rejectIf, if_pos hok] at hrun
  cases hrun

/-- What an opened governor has adopted. -/
lemma accounted_adopts {policy : FairnessPolicy} {durable : FairnessAccounting}
    (hpolicy : g.policy = policy) (hepoch : g.epoch = policy.epoch)
    (hfresh : ∃ policyId policyGeneration epoch, g.accounting = {
      policyId := policyId, policyGeneration := policyGeneration, epoch := epoch })
    (hrecord : g.accountingRecordGeneration = 0) (hdurable : accountingOf v = .ok durable) :
    (g.accounted v durable).policy = policy ∧
      (g.accounted v durable).epoch = laterEpoch durable.epoch policy.epoch ∧
      Adopts policy durable (g.accounted v durable).accounting ∧
      (g.accounted v durable).accounting.subjects =
        Governor.keptEntries policy durable.subjects ∧
      (g.accounted v durable).accountingRecordGeneration = generationOf v ∧
      (g.accounted v durable).store = g.store := by
  subst hpolicy
  cases v with
  | none =>
    -- the fresh accounting stays
    obtain ⟨_, _, _, hfresh⟩ := hfresh
    obtain rfl := Except.ok.inj hdurable
    have hbooks : (g.accounted none {}).accounting = g.accounting := rfl
    refine ⟨rfl, ?_, ?_, ?_, hrecord, rfl⟩
    · show g.epoch = laterEpoch {} g.policy.epoch
      rw [hepoch]
      exact (if_neg UInt64.not_lt_zero).symm
    · rw [hbooks, hfresh]
      exact ⟨rfl, rfl, rfl, rfl⟩
    · rw [hbooks, hfresh]
      rfl
  | some record =>
    refine ⟨rfl, ?_, ⟨rfl, rfl, rfl, ?_⟩, rfl, rfl, rfl⟩
    · show (if durable.epoch.value > g.epoch.value then durable.epoch else g.epoch) = _
      rw [hepoch]
      rfl
    · -- the entries were filtered already
      show Governor.keptEntries g.policy (Governor.keptEntries g.policy durable.subjects) = _
      unfold Governor.keptEntries
      rw [List.filter_filter]
      simp only [Bool.and_self]

/-- An opened governor mirrors the records that are at rest then. -/
theorem open_mirrored (hpath : config.storePath ≠ "")
    (hrun : run handle (Governor.open config boot).run dir = (.ok g, dir')) :
    checkConfig config = .ok () ∧ g.store = some { directory := config.storePath } ∧
      ∃ records, Resting { directory := config.storePath } records dir' ∧
        Mirrored config g records := by
  rw [Governor.open_eq hpath] at hrun
  obtain ⟨⟨store, recovering⟩, mid, hfirst, hrun⟩ := run_bind_eq_ok.mp hrun
  obtain ⟨hrecovered, hclean⟩ := run_openStore_ok hfirst
  obtain ⟨hconfigured, -⟩ := hrecovered.configured
  obtain ⟨recovery, hinitial⟩ := hrecovered.governor
  obtain rfl : store = { directory := config.storePath } := hrecovered.store
  dsimp only at hrun hclean hconfigured hinitial
  obtain ⟨opened, mid', hopened, hrun⟩ := run_bind_eq_ok.mp hrun
  obtain ⟨accounted, mid'', haccounted, hrun⟩ := run_bind_eq_ok.mp hrun
  obtain ⟨hfinish, rfl⟩ := Prod.mk_inj.mp hrun
  obtain rfl := Except.ok.inj hfinish
  -- the policy stage has left the accounting record alone
  have hserved := run_openPolicy_ok hconfigured rfl (hclean .policy) hopened
  have hclean' : Clean { directory := config.storePath } .accounting mid' := by
    intro file hfile
    rw [hserved.frame]
    exact hclean .accounting file hfile
  obtain ⟨v, hrests⟩ := run_openAccounting_rests hclean' haccounted
  obtain ⟨hdir, hresult⟩ := @run_openAccounting _ opened _ _ hrests
  rw [haccounted] at hdir hresult
  obtain ⟨durable, hdurable, rfl⟩ := (hresult accounted).mp rfl
  obtain rfl : mid'' = mid' := hdir
  obtain ⟨record, hrecord, hserves⟩ := hserved.record
  -- and what is adopted from it keeps the policy and its epoch
  obtain ⟨hpolicy, hepoch, hadopts, -, hgeneration, hstore⟩ :=
    accounted_adopts (g := opened) rfl hserved.epoch
    ⟨_, _, _, hserved.accounting.trans (by rw [hinitial]; rfl)⟩
    (hserved.accountingGeneration.trans hconfigured.accountingGeneration) hdurable
  refine ⟨hrecovered.config_ok, ?_, fun kind => if kind = .policy then some record else v, ?_, ?_⟩
  · exact hstore.trans (hserved.attached.trans hconfigured.store)
  · intro kind
    cases kind with
    | policy => exact hrecord
    | accounting => exact hrests
  · rw [← hpolicy] at hserves hepoch hadopts
    exact ⟨⟨record, rfl, hserves⟩, ⟨durable, hdurable, hadopts, hepoch⟩,
      hgeneration⟩

/-- A durable policy that serves is loaded, and nothing is written. -/
lemma run_openPolicy {policy : FairnessPolicy} (hg : Configured config store g)
    (h : store.Rests .policy (some record) dir) (hserved : ServedFrom config policy record) :
    ∃ opened, run handle (Governor.openPolicy store g).run dir = (.ok opened, dir) ∧
      opened.policy = policy := by
  obtain ⟨durable, hdecode, hid, hserves⟩ := hserved
  have hid' : ¬ durable.id ≠ g.policy.id := by
    rw [hg.policy]
    exact not_not.mpr hid
  unfold Governor.openPolicy Governor.usePolicyRecord
  rw [run_bind_ok (run_lift _ _), run_load, h.holds.loads_eq]
  dsimp only
  rw [Option.elim_some, if_pos (show (loadedOf .policy record).present = true from rfl), bind_assoc,
    run_bind_ok (a := ()) (t := dir) rfl]
  rw [show decodePolicy (loadedOf .policy record).payload = .ok durable from hdecode]
  unfold Governor.reconcilePolicy
  dsimp only
  rw [if_neg hid', hg.policy]
  -- A newer durable policy is served as it is; one of the same generation must be the same.
  cases hserves with
  | newer hnewer =>
    rw [if_pos hnewer]
    exact ⟨_, rfl, rfl⟩
  | same hsame hdigest =>
    have hnewer : ¬ durable.generation.value > config.policy.generation.value := by
      rw [hsame]
      exact UInt64.lt_irrefl _
    rw [if_neg hnewer, if_pos hsame, if_neg (not_not.mpr hdigest)]
    exact ⟨_, rfl, rfl⟩

/-- Opening again what an opened governor mirrors writes nothing. -/
theorem reopen_mirrored (hpath : config.storePath ≠ "") (hcheck : checkConfig config = .ok ())
    {records : Records} (hresting : Resting { directory := config.storePath } records dir)
    (hg : Mirrored config g records) (boot : BootId) :
    ∃ g', run handle (Governor.open config boot).run dir = (.ok g', dir) ∧
      g'.policy = g.policy ∧ g'.epoch = g.epoch ∧
      g'.accounting.generation = g.accounting.generation ∧
      g'.accounting.interventionGeneration = g.accounting.interventionGeneration ∧
      g'.accounting.lastWindow = g.accounting.lastWindow ∧
      g'.accounting.subjects = Governor.keptEntries g.policy g.accounting.subjects := by
  obtain ⟨record, hrecord, hserves⟩ := hg.policy
  obtain ⟨durable, hdurable, hadopts, hepoch⟩ := hg.accounting
  have hpolicy := hresting .policy
  rw [hrecord] at hpolicy
  obtain ⟨recovery, hfirst⟩ :=
    @run_openStore config boot dir hcheck fun kind => (hresting kind).clean
  have hrecovering : Recovering config boot ({ directory := config.storePath },
      { Governor.initial config boot with
        store := some { directory := config.storePath }, recovery := recovery }) :=
    ⟨hcheck, rfl, recovery, rfl⟩
  obtain ⟨hconfigured, -⟩ := hrecovering.configured
  dsimp only at hconfigured
  -- the record serves the configured policy as it is, so nothing is written
  obtain ⟨opened, hopened, hserved⟩ := run_openPolicy hconfigured hpolicy hserves
  have hparts := run_openPolicy_ok hconfigured rfl hpolicy.clean hopened
  obtain ⟨hdir, hresult⟩ := @run_openAccounting _ opened _ _ (hresting .accounting)
  have haccounted := (hresult _).mpr ⟨durable, hdurable, rfl⟩
  obtain ⟨hpolicy', hepoch', hadopts', hsubjects, -⟩ := accounted_adopts hserved
    (hserved ▸ hparts.epoch) ⟨_, _, _, hparts.accounting⟩
    (hparts.accountingGeneration.trans hconfigured.accountingGeneration) hdurable
  refine ⟨(opened.accounted (records .accounting) durable).finishOpen, ?_, hpolicy',
    hepoch'.trans hepoch.symm, hadopts'.generation.trans hadopts.generation.symm,
    hadopts'.interventionGeneration.trans hadopts.interventionGeneration.symm,
    hadopts'.lastWindow.trans hadopts.lastWindow.symm, hsubjects.trans hadopts.entries.symm⟩
  rw [Governor.open_eq hpath, run_bind_ok hfirst]
  unfold Governor.adoptRecords
  rw [run_bind_ok hopened, run_bind_ok (Prod.ext haccounted hdir)]
  rfl

end FairnessGovernor
