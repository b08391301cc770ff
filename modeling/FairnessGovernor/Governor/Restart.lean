/-
# Whether a restart is noticed

A governor that is shut down and opened again on its directory serves what it served, and decides
what it would have decided.  Along a run the durable records keep up with the live state, which
they do as long as every entry stays one that opening keeps: within the bounds of a record, and of
a subject in the generation that the policy governs it in.  A policy that governs an entry's
subject in another generation leaves the entry to the live governor and takes it from the one that
is opened.
-/
import FairnessGovernor.Governor.Carry
import FairnessGovernor.Governor.Regained
import FairnessGovernor.Governor.Reopening

namespace FairnessGovernor

open Program Runs DurableStore

/-! ## The property and its condition -/

/-- The decision without the incarnation that took it. -/
def FairnessDecision.content (decision : FairnessDecision) : FairnessDecision :=
  { decision with authority := { decision.authority with governor := {} } }

/-- The second governor serves what the first one serves, and decides as it does once what was
ingested is dropped. -/
structure RestartEquivalent (g g' : Governor) : Prop where
  policy : g'.policy = g.policy
  epoch : g'.epoch = g.epoch
  generation : g'.accounting.generation = g.accounting.generation
  lastWindow : g'.accounting.lastWindow = g.accounting.lastWindow
  decisions : ∀ snapshots request,
    ((g'.ingestAll snapshots).evaluate request).map FairnessDecision.content =
      ((g.clearStaged.ingestAll snapshots).evaluate request).map FairnessDecision.content

/-- The governor is shut down, and another one is opened. -/
def Governor.restart (g : Governor) (config : GovernorConfig) (boot : BootId) :
    FileM (Except Status Governor) := do
  let _ ← Operation.shutdown.run g
  (Governor.open config boot).run

/-- A governor with the directory it is opened on. -/
abbrev Deployment := Governor × Directory

/-- Restarted with the configuration, the governor is opened again and is equivalent. -/
def SurvivesRestart (config : GovernorConfig) (boot : BootId) (s : Deployment) : Prop :=
  ∃ g' dir', run handle (s.1.restart config boot) s.2 = (.ok g', dir') ∧ RestartEquivalent s.1 g'

/-- The deployment after a call, where the file system does not fail. -/
def Deployment.after (s : Deployment) (operation : Operation) : Deployment :=
  ((run handle (operation.run s.1) s.2).1.2, (run handle (operation.run s.1) s.2).2)

/-- A call of an operation other than the shutdown. -/
inductive CallStep : Deployment → Operation → Deployment → Prop
  | call {s : Deployment} {operation : Operation} : operation ≠ .shutdown →
      CallStep s operation (s.after operation)

/-- The streaks that the entries take over are those that a record may hold. -/
def FairnessDecision.DurableStreaks (decision : FairnessDecision) : Prop :=
  ∀ state ∈ decision.subjects, state.hasAuthority = true →
    state.unservedStreak ≤ kMaxDurableStreak ∧ state.belowFloorStreak ≤ kMaxDurableStreak

/-- The generation of the accounting record can be advanced. -/
def Governor.RecordAdvances (g : Governor) : Prop :=
  g.accountingRecordGeneration < g.accountingRecordGeneration + 1

/-- The call, if it is accepted, leaves entries that opening keeps. -/
def Operation.RestartMeets (g : Governor) : Operation → Prop
  | ingest _ => True
  | evaluate _ => True
  | commit decision => g.checkDecision decision = .ok () →
      (∃ accounting, g.applyDecision decision = .ok accounting) → decision.DurableStreaks
  | installPolicy policy => g.checkInstall policy = .ok () →
      EntriesMeet InGeneration policy g.accounting.subjects ∧ g.RecordAdvances
  | advanceEpoch _ => True
  | clearStaged => True
  | shutdown => True

/-! ## Governors that evaluate alike -/

/-- The governors differ in what neither ingestion nor evaluation reads. -/
structure Alike (g g' : Governor) : Prop where
  limits : g'.config.limits = g.config.limits
  policy : g'.policy = g.policy
  epoch : g'.epoch = g.epoch
  stopping : g'.stopping = g.stopping
  lastWindow : g'.accounting.lastWindow = g.accounting.lastWindow
  accounting : ReadsAlike g.policy g.accounting g'.accounting
  staged : g'.staged = g.staged
  ingested : g'.ingested = g.ingested
  publisherSequences : g'.publisherSequences = g.publisherSequences

variable {g g' : Governor} {boot : BootId}

lemma Alike.ingest (h : Alike g g') (snapshot : EvidenceSnapshot) :
    Alike (g.ingestEvidence snapshot).2 (g'.ingestEvidence snapshot).2 := by
  have hcheck : g'.checkSnapshot snapshot = g.checkSnapshot snapshot := by
    unfold Governor.checkSnapshot
    rw [h.stopping, h.epoch, h.limits, h.lastWindow]
  have horder : g'.checkOrder snapshot = g.checkOrder snapshot := by
    unfold Governor.checkOrder
    rw [h.publisherSequences, h.staged]
  have hstage : Alike (g.stage snapshot) (g'.stage snapshot) := by
    refine ⟨h.limits, h.policy, h.epoch, h.stopping, h.lastWindow, h.accounting, ?_, ?_, ?_⟩
    · simp only [Governor.stage, h.staged, h.limits]
    · simp only [Governor.stage, h.ingested, h.limits]
    · simp only [Governor.stage, h.publisherSequences]
  have haccepts : g'.Accepts snapshot ↔ g.Accepts snapshot := by
    constructor
    · rintro ⟨hchecked, hfresh, hordered⟩
      exact ⟨hcheck ▸ hchecked, h.ingested ▸ hfresh, horder ▸ hordered⟩
    · rintro ⟨hchecked, hfresh, hordered⟩
      exact ⟨hcheck ▸ hchecked, h.ingested ▸ hfresh, horder ▸ hordered⟩
  by_cases hsnapshot : g.Accepts snapshot
  · rw [hsnapshot.ingestEvidence_eq, (haccepts.mpr hsnapshot).ingestEvidence_eq]
    exact hstage
  · rw [Governor.ingestEvidence_unchanged hsnapshot,
      Governor.ingestEvidence_unchanged (mt haccepts.mp hsnapshot)]
    exact h

lemma Alike.ingestAll (h : Alike g g') (snapshots : List EvidenceSnapshot) :
    Alike (g.ingestAll snapshots) (g'.ingestAll snapshots) := by
  induction snapshots generalizing g g' with
  | nil => exact h
  | cons snapshot rest ih => exact ih (h.ingest snapshot)

/-- The content of a decision does not name the governor. -/
lemma evaluate_content (g : Governor) (request : EvaluationRequest) :
    (g.evaluate request).map FairnessDecision.content =
      if g.stopping then fail .shuttingDown "governor is shutting down"
      else (evaluateFairness (g.context request)).map FairnessDecision.content := by
  unfold Governor.evaluate
  split_ifs
  · rfl
  · cases evaluateFairness (g.context request) with
    | error e => rfl
    | ok decision => rfl

lemma Alike.evaluate (h : Alike g g') (request : EvaluationRequest) :
    (g'.evaluate request).map FairnessDecision.content =
      (g.evaluate request).map FairnessDecision.content := by
  have hcontext : g'.context request =
      { g.context request with accounting := some g'.accounting } := by
    have hwindow : g'.currentWindow = g.currentWindow := by
      unfold Governor.currentWindow
      rw [h.staged, h.lastWindow]
    unfold Governor.context
    rw [h.policy, h.epoch, h.staged, h.lastWindow, hwindow]
  rw [evaluate_content, evaluate_content, h.stopping, hcontext,
    evaluateFairness_congr rfl rfl h.accounting]

/-! ## The entries that opening keeps -/

lemma find?_congr_of_mem {α : Type} {p q : α → Bool} {xs : List α}
    (h : ∀ x ∈ xs, p x = q x) : xs.find? p = xs.find? q := by
  induction xs with
  | nil => rfl
  | cons x rest ih =>
    rw [List.find?_cons, List.find?_cons, h x List.mem_cons_self,
      ih fun y hy => h y (List.mem_cons_of_mem _ hy)]

/-- Opening keeps the entries of governed subjects, if each is in its generation. -/
lemma find_keptEntries {policy : FairnessPolicy} {accounting accounting' : FairnessAccounting}
    (hvalid : validatePolicy policy = .ok ())
    (hentries : EntriesMeet InGeneration policy accounting.subjects)
    (hkept : accounting'.subjects = Governor.keptEntries policy accounting.subjects)
    (i : SubjectIndex policy) :
    accounting'.find (subjectAt policy i).id = accounting.find (subjectAt policy i).id := by
  have hfound := (ValidPolicy.of_ok hvalid).findSubject_subjectAt i
  unfold FairnessAccounting.find
  rw [hkept]
  unfold Governor.keptEntries
  rw [List.find?_filter]
  refine find?_congr_of_mem fun entry hentry => ?_
  rw [decide_eq_decide, decide_eq_true_iff, decide_eq_true_iff]
  refine and_iff_right_iff_imp.mpr fun hid => ?_
  rw [← hid] at hfound
  exact ⟨subjectAt policy i, hfound, hentries entry hentry _ hfound⟩

/-- What is opened again is equivalent to what was shut down. -/
lemma RestartEquivalent.of_reopened {g g' : Governor} (hvalid : validatePolicy g.policy = .ok ())
    (hrunning : g.stopping = false)
    (hentries : EntriesMeet InGeneration g.policy g.accounting.subjects)
    (hbooted : Booted g.config boot g')
    (hpolicy : g'.policy = g.policy) (hepoch : g'.epoch = g.epoch)
    (hgeneration : g'.accounting.generation = g.accounting.generation)
    (hintervention :
      g'.accounting.interventionGeneration = g.accounting.interventionGeneration)
    (hwindow : g'.accounting.lastWindow = g.accounting.lastWindow)
    (hkept : g'.accounting.subjects = Governor.keptEntries g.policy g.accounting.subjects) :
    RestartEquivalent g g' := by
  refine ⟨hpolicy, hepoch, hgeneration, hwindow, fun snapshots request => ?_⟩
  have hreads : ReadsAlike g.policy g.accounting g'.accounting :=
    ⟨hgeneration, hintervention, find_keptEntries hvalid hentries hkept⟩
  have halike : Alike g.clearStaged g' :=
    ⟨by rw [hbooted.config]; rfl, hpolicy, hepoch, hbooted.not_stopping.trans hrunning.symm,
      hwindow, hreads, hbooted.staged, hbooted.ingested, hbooted.publisherSequences⟩
  exact (halike.ingestAll snapshots).evaluate request

/-! ## What the records keep up with -/

/-- The durable records keep up with a governor, and its entries are ones that opening keeps. -/
structure Backed (config : GovernorConfig) (s : Deployment) : Prop where
  configured : s.1.config = config
  running : s.1.stopping = false
  attached : s.1.store = some { directory := config.storePath }
  valid : ValidAccounting s.1.accounting
  fits : (encodeAccounting s.1.accounting).length ≤ kMaxDurablePayloadBytes
  governed : EntriesMeet InGeneration s.1.policy s.1.accounting.subjects
  mirrored : ∃ records, Resting { directory := config.storePath } records s.2 ∧
    Mirrored config s.1 records

variable {config : GovernorConfig} {dir dir' : Directory} {records : Records}

/-- A governor that mirrors the records serves no epoch behind its policy. -/
lemma Mirrored.policy_epoch_le (h : Mirrored config g records) :
    g.policy.epoch.value ≤ g.epoch.value := by
  obtain ⟨durable, -, -, hepoch⟩ := h.accounting
  rw [hepoch]
  unfold laterEpoch
  split_ifs with hlater
  · exact UInt64.le_of_lt hlater
  · exact UInt64.le_refl _

lemma Serves.id {durable policy : FairnessPolicy} (h : Serves config durable policy)
    (hid : durable.id = config.policy.id) : policy.id = config.policy.id := by
  cases h with
  | newer => exact hid
  | same => rfl

/-- What is served is not behind the configured policy. -/
lemma Serves.generation_le {durable policy : FairnessPolicy} (h : Serves config durable policy) :
    config.policy.generation.value ≤ policy.generation.value := by
  cases h with
  | newer hnewer => exact UInt64.le_of_lt hnewer
  | same => exact UInt64.le_refl _

/-- Over the same books, whoever serves the same is backed by the same records. -/
lemma Backed.quiet (h : Backed config (g, dir)) (hconfig : g'.config = g.config)
    (hrunning : g'.stopping = g.stopping) (hstore : g'.store = g.store)
    (hpolicy : g'.policy = g.policy) (hepoch : g'.epoch = g.epoch)
    (hbooks : SameBooks g.accounting g'.accounting)
    (hgeneration : g'.accountingRecordGeneration = g.accountingRecordGeneration) :
    Backed config (g', dir) := by
  obtain ⟨records, hresting, hserved, ⟨durable, hdurable, hadopts, hdurableEpoch⟩, hrecord⟩ :=
    h.mirrored
  -- everything that the records mirror is a field that stays
  refine ⟨hconfig.trans h.configured, hrunning.trans h.running, hstore.trans h.attached,
    ⟨?_, ?_⟩, ?_, ?_, records, hresting, ?_, ⟨durable, hdurable, ⟨?_, ?_, ?_, ?_⟩, ?_⟩,
    hgeneration.trans hrecord⟩
  · rw [show g'.accounting.subjects = _ from hbooks.subjects]
    exact h.valid.entry_valid
  · rw [show g'.accounting.subjects = _ from hbooks.subjects]
    exact h.valid.ids_nodup
  · rw [length_encodeAccounting, show g'.accounting.subjects = _ from hbooks.subjects,
      ← length_encodeAccounting]
    exact h.fits
  · rw [show g'.policy = _ from hpolicy, show g'.accounting.subjects = _ from hbooks.subjects]
    exact h.governed
  · rw [show g'.policy = _ from hpolicy]
    exact hserved
  · rw [show g'.accounting.generation = _ from hbooks.generation]
    exact hadopts.generation
  · rw [show g'.accounting.interventionGeneration = _ from hbooks.interventionGeneration]
    exact hadopts.interventionGeneration
  · rw [show g'.accounting.lastWindow = _ from hbooks.lastWindow]
    exact hadopts.lastWindow
  · rw [show g'.policy = _ from hpolicy, show g'.accounting.subjects = _ from hbooks.subjects]
    exact hadopts.entries
  · rw [show g'.epoch = _ from hepoch, show g'.policy = _ from hpolicy]
    exact hdurableEpoch

/-! ## The durable commits -/

/-- A governor that has committed its accounting is backed by it. -/
lemma Backed.recorded {writer : Incarnation} (hconfig : g.config = config)
    (hrunning : g.stopping = false) (hstore : g.store = some { directory := config.storePath })
    (hvalid : ValidAccounting g.accounting)
    (hfits : (encodeAccounting g.accounting).length ≤ kMaxDurablePayloadBytes)
    (hgoverned : EntriesMeet InGeneration g.policy g.accounting.subjects)
    (hepoch : g.accounting.epoch = g.epoch) (hle : g.policy.epoch.value ≤ g.epoch.value)
    (hserved : ∃ record, records .policy = some record ∧ ServedFrom config g.policy record)
    (hresting : Resting { directory := config.storePath } (Function.update records .accounting
      (some (recordOf g.accountingRecordGeneration writer (encodeAccounting g.accounting)))) dir) :
    Backed config (g, dir) := by
  refine ⟨hconfig, hrunning, hstore, hvalid, hfits, hgoverned, _, hresting, ?_,
    ⟨g.accounting, ?_, ⟨rfl, rfl, rfl, rfl⟩, ?_⟩, ?_⟩
  · rw [Function.update_of_ne (by decide)]
    exact hserved
  · rw [Function.update_self]
    exact decodeAccounting_encodeAccounting hvalid hfits
  · show g.epoch = laterEpoch g.accounting.epoch g.policy.epoch
    unfold laterEpoch
    rw [hepoch]
    split_ifs with hlater
    · rfl
    · exact congrArg Generation.mk (UInt64.le_antisymm (UInt64.not_lt.mp hlater) hle)
  · rw [Function.update_self]
    rfl

section Commits

variable {store : DurableStore}

/-- A durable commit of the accounting is refused or taken. -/
lemma run_commitAccounting (hstore : g.store = some store) (hfaults : store.faults = {})
    (h : store.Resting records dir) :
    (∃ e, run handle g.commitAccounting.run dir = (.error e, dir) ∧
      ¬ Takes (records .accounting) g.accountingRecordGeneration
        (g.accountingRecordGeneration + 1) (encodeAccounting g.accounting) g.incarnation) ∨
    ∃ t, run handle g.commitAccounting.run dir = (.ok { g with
        accountingRecordGeneration := g.accountingRecordGeneration + 1 }, t) ∧
      (encodeAccounting g.accounting).length ≤ kMaxDurablePayloadBytes ∧
      store.Resting (Function.update records .accounting (some (recordOf
        (g.accountingRecordGeneration + 1) g.incarnation (encodeAccounting g.accounting)))) t := by
  unfold Governor.commitAccounting
  rw [hstore]
  dsimp only
  rcases run_commit h hfaults .accounting g.accountingRecordGeneration
    (g.accountingRecordGeneration + 1) (encodeAccounting g.accounting) g.incarnation with
    ⟨e, he, hrefused⟩ | ⟨t, ht, htakes, hrests⟩
  · exact .inl ⟨e, run_bind_error he, hrefused⟩
  · refine .inr ⟨t, ?_, htakes.size, hrests⟩
    rw [run_bind_ok ht]
    rfl

/-- A durable commit of the policy is refused or taken. -/
lemma run_commitPolicy (hstore : g.store = some store) (hfaults : store.faults = {})
    (h : store.Resting records dir) :
    (∃ e, run handle g.commitPolicy.run dir = (.error e, dir)) ∨
    ∃ t, run handle g.commitPolicy.run dir = (.ok { g with
        policyRecordGeneration := g.policyRecordGeneration + 1 }, t) ∧
      Takes (records .policy) g.policyRecordGeneration (g.policyRecordGeneration + 1)
        (encodePolicy g.policy) g.incarnation ∧
      store.Resting (Function.update records .policy (some (recordOf
        (g.policyRecordGeneration + 1) g.incarnation (encodePolicy g.policy)))) t := by
  unfold Governor.commitPolicy
  rw [hstore]
  dsimp only
  rcases run_commit h hfaults .policy g.policyRecordGeneration (g.policyRecordGeneration + 1)
    (encodePolicy g.policy) g.incarnation with ⟨e, he, -⟩ | ⟨t, ht, htakes, hrests⟩
  · exact .inl ⟨e, run_bind_error he⟩
  · refine .inr ⟨t, ?_, htakes, hrests⟩
    rw [run_bind_ok ht]
    rfl

end Commits

/-! ## The streaks of an evaluated decision -/

lemma bumpStreak_durable (value : UInt32) : bumpStreak value ≤ kMaxDurableStreak := by
  have hsaturation : kStreakSaturation.toNat = 1000000 := rfl
  unfold bumpStreak
  split_ifs with hsaturated
  · decide
  · rw [ge_iff_le, UInt32.not_le, UInt32.lt_iff_toNat_lt, hsaturation] at hsaturated
    have hone : (1 : UInt32).toNat = 1 := rfl
    rw [UInt32.le_iff_toNat_le, UInt32.toNat_add, hone]
    show _ ≤ 1000000
    omega

/-- The streaks of a plan are those that a record may hold. -/
def SubjectPlan.DurableStreaks (plan : SubjectPlan) : Prop :=
  plan.unservedStreak ≤ kMaxDurableStreak ∧ plan.belowFloorStreak ≤ kMaxDurableStreak

lemma Numbered.durableStreaks {policy : FairnessPolicy} {accounting : FairnessAccounting}
    {distribution : Distribution policy} {i : SubjectIndex policy} {p q : SubjectPlan}
    (h : Numbered accounting distribution i p q) : q.DurableStreaks := by
  have hzero : (0 : UInt32) ≤ kMaxDurableStreak := by decide
  constructor
  · rw [h.unservedStreak]
    split_ifs
    · exact bumpStreak_durable _
    · exact hzero
  · rw [h.belowFloorStreak]
    split_ifs
    · exact bumpStreak_durable _
    · exact hzero

lemma max_streak_le {a b : UInt32} (ha : a ≤ kMaxDurableStreak) (hb : b ≤ kMaxDurableStreak) :
    max a b ≤ kMaxDurableStreak := by
  show (if a ≤ b then b else a) ≤ kMaxDurableStreak
  split_ifs
  · exact hb
  · exact ha

/-- Observed streaks are within the same bound. -/
lemma starvationPlan_durableStreaks {evidence : EvidenceSnapshot} {subject : Subject}
    {plan : SubjectPlan} (hevidence : ValidEvidence evidence) (h : plan.DurableStreaks) :
    (starvationPlan evidence subject plan).DurableStreaks := by
  by_cases hauth : plan.hasAuthority = true
  · cases hfind : evidence.find subject.id with
    | none =>
      rw [starvationPlan_unobserved fun _ => hfind]
      exact h
    | some observation =>
      obtain ⟨hunserved, hbelowFloor, -⟩ := starvationPlan_observed hauth hfind
      have hobservation := hevidence.observation_valid observation (List.mem_of_find?_eq_some hfind)
      refine ⟨?_, ?_⟩
      · rw [hunserved]
        exact max_streak_le h.1 hobservation.unserved_le
      · rw [hbelowFloor]
        exact max_streak_le h.2 hobservation.belowFloor_le
  · rw [starvationPlan_unobserved fun hfalse => absurd hfalse hauth]
    exact h

/-- A decision that was evaluated reports streaks that a record may hold. -/
lemma Sound.durableStreaks {request : EvaluationRequest} {decision : FairnessDecision}
    (hg : Sound g) (h : g.evaluate request = .ok decision) : decision.DurableStreaks := by
  obtain ⟨-, evaluated, heval, rfl⟩ := Governor.evaluate_eq_ok h
  obtain ⟨tree, eligible, whole, numbered, planned, states, hs, hd, -⟩ :=
    evaluateFairness_stages rfl rfl heval
  intro state hstate hauth
  obtain ⟨i, rfl⟩ := hd.mem_iff.mp hstate
  rw [(hd.reported i).hasAuthority] at hauth
  have hn := (hs.numbered_of_authority hauth).durableStreaks
  have hfinal : (starvationPlans eligible numbered i).DurableStreaks := by
    cases eligible with
    | error failure => exact hn
    | ok evidence =>
      have hevidence := (Eligible.of_ok hs.eligible_eq).staged
      exact starvationPlan_durableStreaks (.of_ok (hg.staged _ _ hevidence).valid) hn
  rw [(hd.reported i).unservedStreak, (hd.reported i).belowFloorStreak,
    (hs.settled i).unservedStreak, (hs.settled i).belowFloorStreak]
  exact hfinal

/-! ## The calls -/

variable {decision : FairnessDecision} {accounting : FairnessAccounting}

/-- A call that reports the result of a program leaves what the program leaves. -/
lemma after_eq {g : Governor} {dir : Directory} {operation : Operation} {α : Type}
    {p : FileM (α × Governor)} {report : α → Event}
    (h : operation.run g = p >>= fun r => pure (report r.1, r.2)) :
    Deployment.after (g, dir) operation = ((run handle p dir).1.2, (run handle p dir).2) := by
  unfold Deployment.after
  rw [h, run_bind]
  rfl

/-- The entries that a commit leaves are within the bounds of a record, if the streaks it reports
are. -/
lemma Applied.valid (h : Applied g decision accounting) (hg : Sound g)
    (hvalid : ValidAccounting g.accounting) (hdecision : decision.DurableStreaks) :
    ValidAccounting accounting := by
  have hcarry := h.boundedCarry hg hvalid.boundedCarry
  have hstreaks : ∀ entry ∈ accounting.subjects, entry.unservedStreak ≤ kMaxDurableStreak ∧
      entry.belowFloorStreak ≤ kMaxDurableStreak := by
    have hfresh : (0 : UInt32) ≤ kMaxDurableStreak := by decide
    refine h.forall_entries (fun _ _ _ => ⟨hfresh, hfresh⟩) ?_ ?_ fun entry hentry => ?_
    · intro state hstate hauth entry updated hupdated _
      obtain ⟨_, -, -, rfl⟩ := applyState_eq_ok.mp hupdated
      exact hdecision state hstate hauth
    · rintro a _ ⟨_, _, rfl⟩ ha
      exact ha
    · have hentry' := hvalid.entry_valid entry hentry
      exact ⟨hentry'.unserved_le, hentry'.belowFloor_le⟩
  refine ⟨fun entry hentry => ?_, h.nodup hvalid.ids_nodup⟩
  exact ⟨(hcarry entry hentry).1, (hcarry entry hentry).2, (hstreaks entry hentry).1,
    (hstreaks entry hentry).2⟩

lemma Backed.commit (h : Backed config (g, dir)) (hg : Sound g)
    (hmeets : Operation.RestartMeets g (.commit decision)) :
    Backed config (Deployment.after (g, dir) (.commit decision)) := by
  obtain ⟨records, hresting, hmirrored⟩ := h.mirrored
  rw [after_eq rfl]
  unfold Governor.commit
  cases hcheck : g.checkDecision decision with
  | error e => exact h
  | ok _ =>
    cases happly : g.applyDecision decision with
    | error e => exact h
    | ok accounting =>
      have happlied := applyDecision_eq_ok happly
      have hvalid : ValidAccounting accounting := happlied.valid hg h.valid
        (hmeets hcheck ⟨accounting, happly⟩)
      have hgoverned : EntriesMeet InGeneration g.policy accounting.subjects :=
        happlied.entriesMeet inGeneration_of_findSubject h.governed
      dsimp only
      rw [run_bind]
      rcases run_commitAccounting (g := { g with accounting := accounting }) h.attached rfl
        hresting with ⟨e, he, -⟩ | ⟨t, ht, hfits, hrests⟩
      · rw [he]
        exact h
      · rw [ht]
        exact .recorded h.configured h.running h.attached hvalid hfits hgoverned happlied.epoch
          hmirrored.policy_epoch_le hmirrored.policy hrests

lemma Backed.advanceEpoch (h : Backed config (g, dir)) (nextEpoch : FabricEpoch) :
    Backed config (Deployment.after (g, dir) (.advanceEpoch nextEpoch)) := by
  obtain ⟨records, hresting, hmirrored⟩ := h.mirrored
  rw [after_eq rfl]
  unfold Governor.advanceEpoch
  cases hcheck : g.checkAdvance nextEpoch with
  | error e => exact h
  | ok _ =>
    dsimp only
    rw [run_bind]
    rcases run_commitAccounting (g := g.clearStaged.withEpoch nextEpoch) h.attached rfl hresting
      with ⟨e, he, -⟩ | ⟨t, ht, hfits, hrests⟩
    · rw [he]
      exact h.quiet rfl rfl rfl rfl rfl ⟨_, _, rfl⟩ rfl
    · rw [ht]
      have hle : g.policy.epoch.value ≤ nextEpoch.value := UInt64.le_trans
        hmirrored.policy_epoch_le (UInt64.le_of_lt (checkAdvance_eq_ok hcheck).2)
      exact .recorded h.configured h.running h.attached ⟨h.valid.entry_valid, h.valid.ids_nodup⟩
        hfits h.governed rfl hle hmirrored.policy hrests

/-- What an installation does besides. -/
structure Installs (g : Governor) (policy : FairnessPolicy) (installed : Governor) : Prop where
  config : installed.config = g.config
  stopping : installed.stopping = g.stopping
  attached : installed.store = g.store
  accountingGeneration : installed.accountingRecordGeneration = g.accountingRecordGeneration
  serves : installed.policy = policy
  epoch : installed.epoch = policy.epoch
  books : SameBooks g.accounting installed.accounting
  stamped : installed.accounting.epoch = installed.epoch

lemma Installable.installs {policy : FairnessPolicy} (h : Installable g policy) :
    Installs g policy (g.withPolicy policy) := by
  rcases withPolicy_cases h.epoch with ⟨hepoch, heq⟩ | ⟨-, heq⟩
  · rw [heq]
    exact ⟨rfl, rfl, rfl, rfl, rfl, hepoch.symm, ⟨_, _, rfl⟩, rfl⟩
  · rw [heq]
    exact ⟨rfl, rfl, rfl, rfl, rfl, rfl, ⟨_, _, rfl⟩, rfl⟩

/-- A record of an accepted policy serves it. -/
lemma Installable.servedFrom {policy : FairnessPolicy} {generation : UInt64}
    {writer : Incarnation} {record : DecodedRecord} (h : Installable g policy)
    (hserved : ServedFrom config g.policy record)
    (hsize : (encodePolicy policy).length ≤ kMaxDurablePayloadBytes) :
    ServedFrom config policy (recordOf generation writer (encodePolicy policy)) := by
  obtain ⟨durable, -, hid, hserves⟩ := hserved
  exact ⟨policy, decodePolicy_encodePolicy h.valid hsize, h.id.trans (hserves.id hid),
    .newer (UInt64.lt_of_le_of_lt hserves.generation_le h.generation)⟩

lemma Backed.installPolicy {policy : FairnessPolicy} (h : Backed config (g, dir))
    (hmeets : Operation.RestartMeets g (.installPolicy policy)) :
    Backed config (Deployment.after (g, dir) (.installPolicy policy)) := by
  obtain ⟨records, hresting, hmirrored⟩ := h.mirrored
  rw [after_eq rfl]
  unfold Governor.installPolicy
  cases hcheck : g.checkInstall policy with
  | error e => exact h
  | ok _ =>
    obtain ⟨hgoverned, hadvances⟩ := hmeets hcheck
    have hp := checkInstall_eq_ok.mp hcheck
    have hinstalls := hp.installs
    dsimp only
    generalize g.withPolicy policy = installed at hinstalls
    rw [run_bind]
    rcases run_commitPolicy (hinstalls.attached.trans h.attached) rfl hresting with
      ⟨e, he⟩ | ⟨t, ht, htakes, hrests⟩
    · rw [he]
      -- the policy and the epoch are put back
      obtain ⟨_, _, hbooks⟩ := hinstalls.books
      refine h.quiet hinstalls.config hinstalls.stopping hinstalls.attached rfl rfl ?_
        hinstalls.accountingGeneration
      refine ⟨g.policy.generation, g.epoch, ?_⟩
      show ({ installed.accounting with
        policyGeneration := g.policy.generation, epoch := g.epoch } : FairnessAccounting) = _
      rw [hbooks]
    · rw [ht]
      have hsubjects := hinstalls.books.subjects
      have hfits : (encodeAccounting installed.accounting).length ≤ kMaxDurablePayloadBytes := by
        rw [length_encodeAccounting, hsubjects, ← length_encodeAccounting]
        exact h.fits
      dsimp only
      rw [run_bind]
      rcases run_commitAccounting (g := { installed with
        policyRecordGeneration := installed.policyRecordGeneration + 1 })
        (hinstalls.attached.trans h.attached) rfl hrests with
        ⟨e, -, hrefused⟩ | ⟨t', ht', -, hrests'⟩
      · -- a store that has taken the policy takes the accounting
        refine absurd ⟨htakes.boot, htakes.ordinal, ?_, ?_, hfits⟩ hrefused
        · rw [Function.update_of_ne (by decide)]
          exact hmirrored.accountingGeneration.symm.trans hinstalls.accountingGeneration.symm
        · show installed.accountingRecordGeneration < installed.accountingRecordGeneration + 1
          rw [hinstalls.accountingGeneration]
          exact hadvances
      · rw [ht']
        obtain ⟨record, -, hserved⟩ := hmirrored.policy
        have hpolicy : installed.policy = policy := hinstalls.serves
        rw [hpolicy] at htakes hrests'
        refine .recorded (hinstalls.config.trans h.configured)
          (hinstalls.stopping.trans h.running) (hinstalls.attached.trans h.attached)
          ⟨?_, ?_⟩ hfits ?_ hinstalls.stamped ?_ ⟨_, Function.update_self _ _ _, ?_⟩ hrests'
        · show ∀ entry ∈ installed.accounting.subjects, ValidEntry entry
          rw [hsubjects]
          exact h.valid.entry_valid
        · show (installed.accounting.subjects.map (·.id)).Nodup
          rw [hsubjects]
          exact h.valid.ids_nodup
        · show EntriesMeet InGeneration installed.policy installed.accounting.subjects
          rw [hpolicy, hsubjects]
          exact hgoverned
        · show installed.policy.epoch.value ≤ installed.epoch.value
          rw [hpolicy, hinstalls.epoch]
          exact UInt64.le_refl _
        · show ServedFrom config installed.policy _
          rw [hpolicy]
          exact hp.servedFrom hserved htakes.size

/-- A call that meets the condition leaves the records behind it in step with the governor. -/
lemma CallStep.backed {s s' : Deployment} {operation : Operation} (hstep : CallStep s operation s')
    (hg : Sound s.1) (hmeets : operation.RestartMeets s.1) (h : Backed config s) :
    Backed config s' := by
  obtain ⟨g, dir⟩ := s
  cases hstep with
  | call hrunning =>
    cases operation with
    | ingest snapshot =>
      show Backed config ((g.ingestEvidence snapshot).2, dir)
      rcases g.ingestEvidence_cases snapshot with hsame | ⟨-, -, hstaged⟩
      · rw [hsame]
        exact h
      · rw [hstaged]
        exact h.quiet rfl rfl rfl rfl rfl .rfl' rfl
    | evaluate request => exact h
    | commit decision => exact h.commit hg hmeets
    | installPolicy policy => exact h.installPolicy hmeets
    | advanceEpoch nextEpoch => exact h.advanceEpoch nextEpoch
    | clearStaged => exact h.quiet rfl rfl rfl rfl rfl .rfl' rfl
    | shutdown => exact absurd rfl hrunning

lemma CallStep.sound {s s' : Deployment} {operation : Operation} (hstep : CallStep s operation s')
    (hg : Sound s.1) : Sound s'.1 := by
  cases hstep with
  | call =>
    have hreturns := @returns_run _ _ _ _ handle (operation.run s.1) s.2
    exact (Operation.step hreturns).sound hg

/-! ## Runs -/

/-- An opened governor is backed by the records that its opening leaves. -/
lemma open_backed (hpath : config.storePath ≠ "")
    (hopen : run handle (Governor.open config boot).run dir = (.ok g, dir')) :
    Backed config (g, dir') := by
  have hopens := Opens.of_run hopen
  obtain ⟨-, hstore, hmirrored⟩ := open_mirrored hpath hopen
  have hbooted := hopens.booted.1
  have hwithin : WithinPopulation g := accounting_within_population hopens .nil (by simp)
  have hgoverned : EntriesMeet InGeneration g.policy g.accounting.subjects :=
    run_entriesMeet inGeneration_of_findSubject hopens .nil (by simp)
  exact ⟨hbooted.config, hbooted.not_stopping, hstore, hbooted.accounting_valid, hwithin.fits,
    hgoverned, hmirrored⟩

/-- Who is backed survives a restart. -/
lemma Backed.survives {s : Deployment} (h : Backed config s) (hg : Sound s.1)
    (hpath : config.storePath ≠ "") (hcheck : checkConfig config = .ok ()) (boot : BootId) :
    SurvivesRestart config boot s := by
  obtain ⟨records, hresting, hmirrored⟩ := h.mirrored
  obtain ⟨g', hopen, hpolicy, hepoch, hgeneration, hintervention, hwindow, hkept⟩ :=
    reopen_mirrored hpath hcheck hresting hmirrored boot
  have hopens := Opens.of_run hopen
  have hbooted : Booted s.1.config boot g' := by
    rw [h.configured]
    exact hopens.booted.1
  exact ⟨g', s.2, hopen, .of_reopened hg.policy_valid h.running h.governed hbooted hpolicy hepoch
    hgeneration hintervention hwindow hkept⟩

/-- In every run of a governor on its directory, nothing of which fails: if every decision that is
committed reports streaks that a record may hold, and no policy that is installed governs the
subject of an entry in another generation, the governor survives a restart. -/
theorem restart_equivalent {start : Governor} {trace : List (Deployment × Operation)}
    {s : Deployment} (hpath : config.storePath ≠ "")
    (hopen : run handle (Governor.open config boot).run dir = (.ok start, dir'))
    (hrun : Run CallStep (start, dir') trace s)
    (hmeets : ∀ t operation, (t, operation) ∈ trace → operation.RestartMeets t.1)
    (again : BootId) : SurvivesRestart config again s := by
  have hopens := Opens.of_run hopen
  obtain ⟨hg, hbacked⟩ := hrun.keeps (P := fun t => Sound t.1 ∧ Backed config t)
    ⟨hopens.sound, open_backed hpath hopen⟩
    fun t operation u hmem ht hstep =>
      ⟨hstep.sound ht.1, hstep.backed ht.1 (hmeets t operation hmem) ht.2⟩
  exact hbacked.survives hg hpath (open_mirrored hpath hopen).1 again

/-! ## A restart that is noticed -/

/-- The calls one after the other, each with the deployment it is made in. -/
def Deployment.calls (s : Deployment) : List Operation → List (Deployment × Operation)
  | [] => []
  | operation :: rest => (s, operation) :: (s.after operation).calls rest

/-- The deployment after the calls. -/
def Deployment.afterAll (s : Deployment) (operations : List Operation) : Deployment :=
  operations.foldl Deployment.after s

lemma run_calls (s : Deployment) {operations : List Operation}
    (h : ∀ operation ∈ operations, operation ≠ .shutdown) :
    Run CallStep s (s.calls operations) (s.afterAll operations) := by
  induction operations generalizing s with
  | nil => exact .nil
  | cons operation rest ih =>
    have hrest := ih (s.after operation) fun other hother => h other (List.mem_cons_of_mem _ hother)
    exact hrest.cons (.call (h operation List.mem_cons_self))

lemma eq_ok_of_opened (opened : Except Status Governor × Directory) (default : Governor)
    (h : opened.1.isOk = true) : opened = (.ok (opened.1.toOption.getD default), opened.2) := by
  rcases opened with ⟨e | g, dir⟩
  · cases h
  · rfl

lemma firstOpening_ok :
    run handle (Governor.open (storeConfig pairPolicy) ⟨7⟩).run (fun _ => none) =
      (.ok (storedGovernor pairPolicy), (firstOpening pairPolicy).2) := by
  have hopened : firstOpening pairPolicy =
      (.ok (storedGovernor pairPolicy), (firstOpening pairPolicy).2) := by
    unfold storedGovernor
    exact eq_ok_of_opened _ _ (by decide +kernel)
  have hrun : run handle (Governor.open (storeConfig pairPolicy) ⟨7⟩).run (fun _ => none) =
      firstOpening pairPolicy := rfl
  exact hrun.trans hopened

/-- A window is committed, and then another policy is installed. -/
def installingCalls (snapshot : EvidenceSnapshot) (decision : FairnessDecision)
    (policy : FairnessPolicy) : List Operation :=
  [.ingest snapshot, .commit decision, .installPolicy policy]

/-- The governor of two subjects on its store, once the first window is committed. -/
def committedDeployment : Deployment :=
  (Deployment.after (storedGovernor pairPolicy, (firstOpening pairPolicy).2)
    (.ingest pairSnapshot)).after (.commit firstDecision)

/-- The first window is committed and the policy is installed. -/
def installedDeployment (policy : FairnessPolicy) : Deployment :=
  Deployment.afterAll (storedGovernor pairPolicy, (firstOpening pairPolicy).2)
    (installingCalls pairSnapshot firstDecision policy)

lemma installingRun (s : Deployment) (snapshot : EvidenceSnapshot) (decision : FairnessDecision)
    (policy : FairnessPolicy) :
    Run CallStep s (s.calls (installingCalls snapshot decision policy))
      (s.afterAll (installingCalls snapshot decision policy)) :=
  run_calls s (by simp [installingCalls])

theorem restart_equivalent_renewed : SurvivesRestart (storeConfig pairPolicy) ⟨8⟩
    (installedDeployment renewedPolicy) := by
  refine restart_equivalent (by decide) firstOpening_ok
    (installingRun _ pairSnapshot firstDecision renewedPolicy) ?_ ⟨8⟩
  intro t operation hmem
  unfold installingCalls at hmem
  simp only [Deployment.calls, List.mem_cons, Prod.mk.injEq, List.not_mem_nil, or_false] at hmem
  rcases hmem with ⟨-, rfl⟩ | ⟨-, rfl⟩ | ⟨ht, rfl⟩
  · trivial
  · -- the decision was evaluated by a governor in memory
    have hsound : Sound stagedGovernor :=
      Step.sound (.ingest _ pairSnapshot) (memoryGovernor_opens (by decide +kernel)).sound
    exact fun _ _ => hsound.durableStreaks firstDecision_evaluated
  · have hall : committedDeployment.1.accounting.subjects.all (fun entry =>
        (renewedPolicy.findSubject entry.id).all fun subject =>
          subject.generation = entry.generation) = true := by
      decide +kernel
    have hadvances : committedDeployment.1.RecordAdvances := by
      unfold Governor.RecordAdvances
      decide +kernel
    rw [show t = committedDeployment from ht]
    intro _
    refine ⟨fun entry hentry subject hsubject => ?_, hadvances⟩
    have hentry' := List.all_eq_true.mp hall entry hentry
    rw [Option.mem_def.mp hsubject] at hentry'
    exact of_decide_eq_true hentry'

/-- A policy that advances the generation of a subject leaves its entry to the live governor, which
gives the subject no authority; the governor that is opened again has dropped the entry. -/
theorem not_restart_equivalent : ¬ ∀ config boot again dir dir' start trace s,
    config.storePath ≠ "" →
    run handle (Governor.open config boot).run dir = (.ok start, dir') →
    Run CallStep (start, dir') trace s → SurvivesRestart config again s := by
  intro h
  have hsurvives : SurvivesRestart (storeConfig pairPolicy) ⟨8⟩
      (installedDeployment regeneratedPolicy) := by
    unfold installedDeployment
    exact h _ ⟨7⟩ ⟨8⟩ _ _ _ _ _ (by decide) firstOpening_ok
      (installingRun _ pairSnapshot firstDecision regeneratedPolicy)
  obtain ⟨g', dir', hopen, hequivalent⟩ := hsurvives
  -- the running governor still has the entry of the old generation in the subject's way
  have hlive : (((installedDeployment regeneratedPolicy).1.clearStaged.ingestAll
      [secondSnapshot ⟨2⟩]).evaluate secondRequest).toOption.any (fun decision =>
        ! decision.subjects.all (·.hasAuthority)) = true := by
    decide +kernel
  -- the restart has dropped it
  have hreopened : (run handle ((installedDeployment regeneratedPolicy).1.restart
      (storeConfig pairPolicy) ⟨8⟩) (installedDeployment regeneratedPolicy).2).1.toOption.all
        (fun g => ((g.ingestAll [secondSnapshot ⟨2⟩]).evaluate secondRequest).toOption.any
          fun decision => decision.subjects.all (·.hasAuthority)) = true := by
    decide +kernel
  rw [hopen] at hreopened
  obtain ⟨live, hliveDecision, hwithout⟩ := exists_ok_of_any hlive
  obtain ⟨decision, hdecision, hauthority⟩ := exists_ok_of_any hreopened
  have hsame := hequivalent.decisions [secondSnapshot ⟨2⟩] secondRequest
  rw [hdecision, hliveDecision] at hsame
  have hcontent : decision.content = live.content := Except.ok.inj hsame
  have hsubjects : decision.subjects = live.subjects := by
    show decision.content.subjects = live.content.subjects
    rw [hcontent]
  rw [← hsubjects, hauthority] at hwithout
  cases hwithout

end FairnessGovernor
