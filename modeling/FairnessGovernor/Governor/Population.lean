/-
# The entries beside the policy

A commit gives entries to governed subjects only, and opening keeps only those of governed
subjects, each in its generation.  So what holds of every governed subject in its generation
holds of every entry, for as long as the policies that are installed respect the entries that
are there.  An installation itself leaves the entries alone, whatever policy it installs.
-/
import FairnessGovernor.Governor.Committed
import FairnessGovernor.Governor.Sample

namespace FairnessGovernor

open Program Runs

variable {g g' start : Governor} {e : Event} {trace : List (Governor × Event)}

/-! ## Entries that a commit writes -/

section Forall

variable {Q : SubjectAccounting → Prop} {entries entries' : List SubjectAccounting}

lemma modifyEntry_forall {id : SubjectId} {change : SubjectAccounting → SubjectAccounting}
    (hkeeps : ∀ entry, Q entry → Q (change entry)) (hentries : ∀ entry ∈ entries, Q entry) :
    ∀ entry ∈ modifyEntry id change entries, Q entry := by
  induction entries with
  | nil => simp [modifyEntry]
  | cons head rest ih =>
    have hhead := hentries head List.mem_cons_self
    have hrest : ∀ entry ∈ rest, Q entry := fun entry hentry =>
      hentries entry (List.mem_cons_of_mem _ hentry)
    rw [modifyEntry]
    split_ifs
    · rintro entry (_ | ⟨_, hentry⟩)
      · exact hkeeps head hhead
      · exact hrest entry hentry
    · rintro entry (_ | ⟨_, hentry⟩)
      · exact hhead
      · exact ih hrest entry hentry

lemma recordIntents_forall {window : ServiceWindowId} {intents : List CorrectiveIntent}
    (hkeeps : ∀ a b, SameEntry a b → Q a → Q b) (hentries : ∀ entry ∈ entries, Q entry) :
    ∀ entry ∈ recordIntents window intents entries, Q entry := by
  induction intents generalizing entries with
  | nil => exact hentries
  | cons intent rest ih =>
    refine ih (modifyEntry_forall (fun entry hentry => ?_) hentries)
    exact hkeeps _ _ (stampCorrection_same window intent entry) hentry

/-- What the fresh entries of governed subjects have and an update keeps, all entries have after a
commit. -/
lemma Applied.forall_entries {decision : FairnessDecision} {accounting : FairnessAccounting}
    (h : Applied g decision accounting)
    (hfresh : ∀ id subject, g.policy.findSubject id = some subject →
      Q { id := id, generation := subject.generation })
    (hkeeps : ∀ state ∈ decision.subjects, state.hasAuthority = true → ∀ entry updated,
      applyState g.policy.maxCarryUnits.toNat state entry = .ok updated → Q entry → Q updated)
    (hsame : ∀ a b, SameEntry a b → Q a → Q b)
    (hentries : ∀ entry ∈ g.accounting.subjects, Q entry) :
    ∀ entry ∈ accounting.subjects, Q entry := by
  obtain ⟨entries, happlied, hsubjects⟩ := h.subjects
  rw [hsubjects]
  refine recordIntents_forall hsame ?_
  clear hsubjects
  generalize decision.subjects = states at happlied hkeeps
  generalize g.accounting.subjects = before at happlied hentries
  induction states generalizing before with
  | nil =>
    obtain rfl := Except.ok.inj happlied
    exact hentries
  | cons state rest ih =>
    rw [List.foldlM_cons] at happlied
    obtain ⟨next, hnext, hrest⟩ := bind_eq_ok.mp happlied
    refine ih (fun other hother => hkeeps other (List.mem_cons_of_mem _ hother)) next hrest ?_
    rcases applySubject_cases hnext with ⟨-, rfl⟩ | ⟨hauth, ⟨subject, hsubject, hgeneration⟩, hnext⟩
    · exact hentries
    · refine updateEntry_forall ?_ (hkeeps state List.mem_cons_self hauth) hentries hnext
      -- a fresh entry belongs to the subject that the commit was checked for
      rw [← hgeneration]
      exact hfresh state.id subject hsubject

end Forall

lemma applyState_generation {maxCarry : ℕ} {state : SubjectFairnessState}
    {entry updated : SubjectAccounting} (h : applyState maxCarry state entry = .ok updated) :
    updated.generation = entry.generation := by
  obtain ⟨_, -, -, rfl⟩ := applyState_eq_ok.mp h
  rfl

/-! ## Relations between the entries and the policy -/

/-- A relation of a subject in a generation to a policy. -/
abbrev EntryRelation := FairnessPolicy → SubjectId → SubjectGeneration → Prop

/-- Every entry is related to the policy. -/
def EntriesMeet (P : EntryRelation) (policy : FairnessPolicy)
    (entries : List SubjectAccounting) : Prop :=
  ∀ entry ∈ entries, P policy entry.id entry.generation

/-- Installing the policy here, if it is accepted, leaves every entry related to it. -/
def InstallMeets (P : EntryRelation) (g : Governor) (policy : FairnessPolicy) : Prop :=
  g.checkInstall policy = .ok () → EntriesMeet P policy g.accounting.subjects

variable {P : EntryRelation}

/-- What governed subjects in their generations are, the entries stay over a commit. -/
lemma Applied.entriesMeet {decision : FairnessDecision} {accounting : FairnessAccounting}
    (hgoverned : ∀ policy id subject, policy.findSubject id = some subject →
      P policy id subject.generation)
    (h : Applied g decision accounting)
    (hentries : EntriesMeet P g.policy g.accounting.subjects) :
    EntriesMeet P g.policy accounting.subjects := by
  refine h.forall_entries (Q := fun entry => P g.policy entry.id entry.generation)
    (fun id subject hsubject => hgoverned g.policy id subject hsubject) ?_ ?_ hentries
  · intro state _ _ entry updated hupdated hentry
    rw [applyState_id hupdated, applyState_generation hupdated]
    exact hentry
  · rintro a _ ⟨_, _, rfl⟩ ha
    exact ha

/-- Every operation keeps the entries related to the policy, if the policies it installs are. -/
lemma Step.entriesMeet
    (hgoverned : ∀ policy id subject, policy.findSubject id = some subject →
      P policy id subject.generation)
    (h : Step g e g')
    (hinstall : ∀ policy result, e = .installPolicy policy result → InstallMeets P g policy)
    (hentries : EntriesMeet P g.policy g.accounting.subjects) :
    EntriesMeet P g'.policy g'.accounting.subjects := by
  cases h.change with
  | none | staged | undone | putBack | advanced | cleared | stopped => exact hentries
  | @committed decision accounting _ _ happly =>
    have happlied := applyDecision_eq_ok happly
    have hafter : EntriesMeet P g.policy accounting.subjects :=
      happlied.entriesMeet hgoverned hentries
    exact hafter
  | @installed policy result _ _ hcheck => exact hinstall policy result rfl hcheck

/-! ## The entries of an opened governor -/

/-- The policy part of opening writes no entry. -/
lemma openPolicy_subjects {store : DurableStore}
    (h : Returns (Governor.openPolicy store g).run (.ok g')) :
    g'.accounting.subjects = g.accounting.subjects := by
  obtain ⟨record, -, h⟩ := returns_bind_ok.mp h
  obtain ⟨opened, hopened, h⟩ := returns_bind_ok.mp h
  obtain rfl := returns_pure_ok.mp h
  show opened.accounting.subjects = g.accounting.subjects
  unfold Governor.usePolicyRecord at hopened
  split_ifs at hopened
  · obtain ⟨_, -, hopened⟩ := returns_bind_ok.mp hopened
    cases hdecode : decodePolicy record.payload with
    | error e =>
      rw [hdecode] at hopened
      exact absurd hopened not_returns_fail_ok
    | ok durable =>
      rw [hdecode] at hopened
      obtain ⟨_, _, _, _, -, rfl⟩ := Governor.reconcilePolicy_returns hopened
      rfl
  · obtain ⟨_, _, rfl⟩ := Governor.commitConfigured_returns hopened
    rfl

/-- The accounting part of opening keeps the entries of governed subjects in their generations. -/
lemma openAccounting_subjects {store : DurableStore}
    (h : Returns (Governor.openAccounting store g).run (.ok g')) :
    g'.policy = g.policy ∧ (g'.accounting.subjects = g.accounting.subjects ∨
      ∃ entries, g'.accounting.subjects = Governor.keptEntries g.policy entries) := by
  obtain ⟨record, -, h⟩ := returns_bind_ok.mp h
  unfold Governor.useAccountingRecord at h
  split_ifs at h
  · obtain ⟨_, -, h⟩ := returns_bind_ok.mp h
    cases hdecode : decodeAccounting record.payload with
    | error e =>
      rw [hdecode] at h
      exact absurd h not_returns_fail_ok
    | ok durable =>
      rw [hdecode] at h
      obtain rfl := returns_pure_ok.mp h
      exact ⟨rfl, .inr ⟨durable.subjects, rfl⟩⟩
  · obtain rfl := returns_pure_ok.mp h
    exact ⟨rfl, .inl rfl⟩

lemma keptEntries_governed {policy : FairnessPolicy} {entries : List SubjectAccounting}
    {entry : SubjectAccounting} (h : entry ∈ Governor.keptEntries policy entries) :
    ∃ subject, policy.findSubject entry.id = some subject ∧
      subject.generation = entry.generation := by
  obtain ⟨-, hkept⟩ := List.mem_filter.mp h
  obtain ⟨subject, hsubject, hgeneration⟩ := of_decide_eq_true hkept
  exact ⟨subject, hsubject, hgeneration⟩

/-- Every entry of an opened governor belongs to a governed subject in its generation. -/
lemma Opens.governed {config : GovernorConfig} {boot : BootId} (h : Opens config boot g) :
    ∀ entry ∈ g.accounting.subjects, ∃ subject, g.policy.findSubject entry.id = some subject ∧
      subject.generation = entry.generation := by
  unfold Opens Governor.open at h
  obtain ⟨_, -, h⟩ := returns_bind_ok.mp h
  have hinitial : (Governor.initial config boot).accounting.subjects = [] := rfl
  -- Without a store nothing is recovered; with one, only the entries the opening keeps remain.
  split_ifs at h
  · obtain rfl := returns_pure_ok.mp h
    rw [hinitial]
    simp
  · obtain ⟨store, -, h⟩ := returns_bind_ok.mp h
    obtain ⟨recovered, hrecovered, h⟩ := returns_bind_ok.mp h
    obtain ⟨opened, hopened, h⟩ := returns_bind_ok.mp h
    obtain ⟨accounted, haccounted, h⟩ := returns_bind_ok.mp h
    obtain rfl := returns_pure_ok.mp h
    obtain ⟨recovery, rfl⟩ := Governor.recoverRecords_returns hrecovered
    have hnone : opened.accounting.subjects = [] := (openPolicy_subjects hopened).trans hinitial
    obtain ⟨hpolicy, hsubjects⟩ := openAccounting_subjects haccounted
    intro entry hentry
    change entry ∈ accounted.accounting.subjects at hentry
    show ∃ subject, accounted.policy.findSubject entry.id = some subject ∧ _
    rw [hpolicy]
    rcases hsubjects with hsame | ⟨entries, hkept⟩
    · rw [hsame, hnone] at hentry
      cases hentry
    · rw [hkept] at hentry
      exact keptEntries_governed hentry

/-- Along a run of an opened governor the entries stay related to the policy, if the policies that
are installed leave them so. -/
theorem run_entriesMeet {config : GovernorConfig} {boot : BootId}
    (hgoverned : ∀ policy id subject, policy.findSubject id = some subject →
      P policy id subject.generation)
    (hopens : Opens config boot start) (hrun : Run Step start trace g)
    (hinstalls : ∀ t policy result, (t, .installPolicy policy result) ∈ trace →
      InstallMeets P t policy) :
    EntriesMeet P g.policy g.accounting.subjects := by
  refine hrun.keeps (P := fun s => EntriesMeet P s.policy s.accounting.subjects) ?_ ?_
  · intro entry hentry
    obtain ⟨subject, hsubject, hgeneration⟩ := hopens.governed entry hentry
    rw [← hgeneration]
    exact hgoverned _ _ _ hsubject
  · rintro t e u hmem ht hstep
    refine hstep.entriesMeet hgoverned (fun policy result heq => ?_) ht
    rw [heq] at hmem
    exact hinstalls t policy result hmem

/-! ## The governed population -/

/-- The subject is governed, in whatever generation. -/
def Governs : EntryRelation := fun policy id _ => (policy.findSubject id).isSome = true

/-- The accounting may be committed next: by a commit, or with its entries as they are. -/
def MayCommit (g : Governor) (accounting : FairnessAccounting) : Prop :=
  SameBooks g.accounting accounting ∨ ∃ decision, g.applyDecision decision = .ok accounting

/-- The entries are within the governed population, so that no durable commit is too large. -/
structure WithinPopulation (g : Governor) : Prop where
  distinct : (g.accounting.subjects.map (·.id)).Nodup
  governed : EntriesMeet Governs g.policy g.accounting.subjects
  count_le : g.accounting.subjects.length ≤ kMaxSubjects
  fits : (encodeAccounting g.accounting).length ≤ kMaxDurablePayloadBytes
  never_oversized : ∀ accounting, MayCommit g accounting →
    ∀ (store : DurableStore) (expected next : UInt64) (writer : Incarnation),
      store.checkCommit expected next (encodeAccounting accounting) writer ≠
        .error ⟨.oversizedPayload, "payload exceeds the durable bound"⟩

lemma governs_of_findSubject (policy : FairnessPolicy) (id : SubjectId) (subject : Subject)
    (h : policy.findSubject id = some subject) : Governs policy id subject.generation := by
  unfold Governs
  rw [h]
  rfl

/-- Distinct entries of governed subjects are no more than the subjects. -/
lemma entries_length_le {policy : FairnessPolicy} {entries : List SubjectAccounting}
    (hnodup : (entries.map (·.id)).Nodup) (hgoverned : EntriesMeet Governs policy entries) :
    entries.length ≤ policy.subjects.length := by
  have hsub : entries.map (·.id) ⊆ policy.subjects.map (·.id) := by
    intro id hid
    obtain ⟨entry, hentry, rfl⟩ := List.mem_map.mp hid
    obtain ⟨subject, hsubject⟩ := Option.isSome_iff_exists.mp (hgoverned entry hentry)
    have hmem : subject ∈ policy.subjects := List.mem_of_find?_eq_some hsubject
    have hname : subject.id = entry.id := by simpa using List.find?_some hsubject
    exact List.mem_map.mpr ⟨subject, hmem, hname⟩
  have hle := (hnodup.subperm hsub).length_le
  rwa [List.length_map, List.length_map] at hle

lemma length_encodeAccounting (accounting : FairnessAccounting) :
    (encodeAccounting accounting).length = 70 + accounting.subjects.length * 88 := by
  unfold encodeAccounting writeAccountingFields
  simp only [List.length_append, length_flatMap_writeEntry, ByteWriter.length_u16,
    ByteWriter.length_u32, ByteWriter.length_u64]

lemma fits_of_length {accounting : FairnessAccounting}
    (h : accounting.subjects.length ≤ kMaxSubjects) :
    (encodeAccounting accounting).length ≤ kMaxDurablePayloadBytes := by
  rw [length_encodeAccounting]
  unfold kMaxSubjects at h
  unfold kMaxDurablePayloadBytes
  omega

/-- A payload within the bound is not refused for its size. -/
lemma checkCommit_size {store : DurableStore} {expected next : UInt64} {payload : ByteBuffer}
    {writer : Incarnation} (h : payload.length ≤ kMaxDurablePayloadBytes) :
    store.checkCommit expected next payload writer ≠
      .error ⟨.oversizedPayload, "payload exceeds the durable bound"⟩ := by
  have hsize : ¬ payload.length > kMaxDurablePayloadBytes := not_lt.mpr h
  unfold DurableStore.checkCommit rejectIf
  rw [if_neg hsize]
  by_cases hinjected : store.faults.oversizePayload = true
  · rw [if_pos hinjected]
    simp [bind, Except.bind]
  · rw [if_neg hinjected]
    by_cases hwriter : ¬ writer.boot.valid ∨ writer.ordinal = 0
    · rw [if_pos hwriter]
      simp [bind, Except.bind]
    · rw [if_neg hwriter]
      by_cases hnext : next ≤ expected
      · rw [if_pos hnext]
        simp [bind, Except.bind]
      · rw [if_neg hnext]
        simp [bind, Except.bind]

/-- Distinct entries of governed subjects are within the population, whatever is committed. -/
lemma WithinPopulation.of_governed (hg : Sound g)
    (hnodup : (g.accounting.subjects.map (·.id)).Nodup)
    (hgoverned : EntriesMeet Governs g.policy g.accounting.subjects) : WithinPopulation g := by
  have hmax := (ValidPolicy.of_ok hg.policy_valid).subjects_le
  have hcount := le_trans (entries_length_le hnodup hgoverned) hmax
  refine ⟨hnodup, hgoverned, hcount, fits_of_length hcount, ?_⟩
  intro accounting hnext store expected next writer
  apply checkCommit_size
  apply fits_of_length
  rcases hnext with hsame | ⟨decision, happly⟩
  · rw [hsame.subjects]
    exact hcount
  · have happlied := applyDecision_eq_ok happly
    have hafter := happlied.entriesMeet governs_of_findSubject hgoverned
    exact le_trans (entries_length_le (happlied.nodup hnodup) hafter) hmax

/-- In every state that a governor reaches, the entries are within the governed population, if
every policy that was installed governs all subjects that had an entry. -/
theorem accounting_within_population {config : GovernorConfig} {boot : BootId}
    (hopens : Opens config boot start) (hrun : Run Step start trace g)
    (hinstalls : ∀ t policy result, (t, .installPolicy policy result) ∈ trace →
      InstallMeets Governs t policy) : WithinPopulation g :=
  .of_governed (run_sound hrun hopens.sound)
    (run_nodup hrun hopens.booted.1.accounting_valid.ids_nodup)
    (run_entriesMeet governs_of_findSubject hopens hrun hinstalls)

/-- After an installation that succeeds, the condition is exact. -/
theorem Step.installed_within_iff {policy : FairnessPolicy} (hg : Reachable g)
    (hwithin : WithinPopulation g) (h : Step g (.installPolicy policy (.ok ())) g') :
    WithinPopulation g' ↔ EntriesMeet Governs policy g.accounting.subjects := by
  have hsound : Sound g' := h.sound hg.sound
  have hafter : g'.policy = policy ∧ g'.accounting.subjects = g.accounting.subjects := by
    cases h.change with
    | none hidle => exact hidle.elim
    | installed => exact ⟨rfl, rfl⟩
  obtain ⟨hpolicy, hsubjects⟩ := hafter
  constructor
  · intro hafter
    have hgoverned := hafter.governed
    rwa [hpolicy, hsubjects] at hgoverned
  · intro hgoverned
    refine .of_governed hsound ?_ ?_
    · rw [hsubjects]
      exact hwithin.distinct
    · rw [hpolicy, hsubjects]
      exact hgoverned

/-- An installation on a file system that is not used. -/
def installedTo (g : Governor) (policy : FairnessPolicy) : Except Status Unit × Governor :=
  (run handle (g.installPolicy policy) fun _ => none).1

/-- The calls of the first window, and then the installation of another policy. -/
def installCalls (policy : FairnessPolicy) : List (Governor × Event) :=
  firstCalls ++ [((committedTo stagedGovernor firstDecision).2,
    .installPolicy policy (installedTo (committedTo stagedGovernor firstDecision).2 policy).1)]

lemma installRun (policy : FairnessPolicy) :
    Run Step (memoryGovernor pairPolicy) (installCalls policy)
      (installedTo (committedTo stagedGovernor firstDecision).2 policy).2 :=
  firstRun.snoc (.installPolicy (returns_run _ _))

lemma installCalls_install {policy installed : FairnessPolicy} {t : Governor}
    {result : Except Status Unit}
    (h : (t, Event.installPolicy installed result) ∈ installCalls policy) :
    t = (committedTo stagedGovernor firstDecision).2 ∧ installed = policy := by
  unfold installCalls firstCalls at h
  simp only [List.cons_append, List.nil_append, List.mem_cons, Prod.mk.injEq,
    reduceCtorEq, and_false, false_or, List.not_mem_nil, or_false, Event.installPolicy.injEq] at h
  exact ⟨h.1, h.2.1⟩

/-- The next generation of the two-subject policy. -/
def renewedPolicy : FairnessPolicy := { pairPolicy with generation := ⟨2⟩ }

/-- A next generation that governs the first subject only. -/
def shrunkPolicy : FairnessPolicy :=
  { renewedPolicy with subjects := [{ id := ⟨1⟩, generation := ⟨1⟩, group := ⟨1⟩ }] }

theorem accounting_within_population_renewed :
    WithinPopulation (installedTo (committedTo stagedGovernor firstDecision).2 renewedPolicy).2 := by
  refine accounting_within_population (memoryGovernor_opens (by decide +kernel))
    (installRun renewedPolicy) ?_
  intro t policy result hmem _ entry hentry
  obtain ⟨ht, hpolicy⟩ := installCalls_install hmem
  have hall : (committedTo stagedGovernor firstDecision).2.accounting.subjects.all
      (fun entry => (renewedPolicy.findSubject entry.id).isSome) = true := by
    decide +kernel
  rw [ht] at hentry
  rw [hpolicy]
  exact List.all_eq_true.mp hall entry hentry

/-- The governor once the policy that governs the first subject only is installed. -/
def shrunkGovernor : Governor :=
  (installedTo (committedTo stagedGovernor firstDecision).2 shrunkPolicy).2

lemma shrunkGovernor_reachable : Reachable shrunkGovernor :=
  ⟨_, _, _, _, memoryGovernor_opens (by decide +kernel), installRun shrunkPolicy⟩

/-- A policy that drops a subject leaves its entry behind. -/
theorem not_accounting_within_population : ¬ ∀ g, Reachable g → WithinPopulation g := by
  intro h
  have hleft : shrunkGovernor.accounting.subjects.any (fun entry =>
      (shrunkGovernor.policy.findSubject entry.id).isNone) = true := by
    decide +kernel
  obtain ⟨entry, hentry, hnone⟩ := List.any_eq_true.mp hleft
  have hsome : (shrunkGovernor.policy.findSubject entry.id).isSome = true :=
    (h shrunkGovernor shrunkGovernor_reachable).governed entry hentry
  rw [Option.isNone_iff_eq_none.mp hnone] at hsome
  cases hsome

end FairnessGovernor
