/-
# Whether a served epoch is rolled back

The epoch of a governor is recovered from two records.  A commit or an installation keeps both
from going back behind it; an opening with a newer policy does not look at either.  So over the
sequences of openings in which a newer configured policy is not behind in its epoch, by one
governor after the other, no served epoch is rolled back.
-/
import FairnessGovernor.Governor.DurablePolicy

namespace FairnessGovernor

open Program Crash Runs DurableStore

/-! ## The property and its condition -/

/-- The accounting in the settled accounting record of a directory. -/
def DurableAccounting (directory : String) (dir : Directory) (accounting : FairnessAccounting) :
    Prop :=
  ∃ record, Settles { directory := directory } .accounting (some record) dir ∧
    record.payload = encodeAccounting accounting

/-- No epoch that was served is rolled back in a run, neither by an opened governor nor by the
policy that the last step made durable. -/
structure EpochsHold (directory : String) (trace : List (Site × SiteEvent)) (site : Site) :
    Prop where
  opened : ∀ before t config boot g after,
    trace = before ++ (t, .opened config boot (.ok g)) :: after →
    ∀ earlier ∈ seenIn before t, earlier.epoch.value ≤ g.epoch.value
  durable : ∀ before t event, trace = before ++ [(t, event)] → ∀ policy,
    DurablePolicy directory site.dir policy → ¬ DurablePolicy directory t.dir policy →
    ∀ earlier ∈ seenIn before t, earlier.epoch.value ≤ policy.epoch.value

/-- The governors opened before were shut down or lost, and the configured policy is not behind
the durable epochs where it is the newer one. -/
structure RespectsEpochs (directory : String) (site : Site) (config : GovernorConfig) : Prop where
  alone : ∀ g ∈ site.live, g.stopping = true
  same : ∀ durable, DurablePolicy directory site.dir durable →
    durable.generation = config.policy.generation →
    policyDigest durable = policyDigest config.policy → durable.epoch = config.policy.epoch
  newer : ∀ durable, DurablePolicy directory site.dir durable →
    durable.generation.value < config.policy.generation.value →
    durable.epoch.value ≤ config.policy.epoch.value ∧
      ∀ accounting, DurableAccounting directory site.dir accounting →
        accounting.epoch.value ≤ config.policy.epoch.value

/-- Every opening respects the durable epochs. -/
def SiteEvent.respectsEpochs (directory : String) (site : Site) : SiteEvent → Prop
  | opened config _ _ => RespectsEpochs directory site config
  | openingCrashed config _ => RespectsEpochs directory site config
  | operated _ _ _ => True
  | crashed _ _ => True

/-! ## The invariant -/

/-- One of the records names the epoch. -/
def Named (records : Records) (epoch : FabricEpoch) : Prop :=
  NamedByPolicy (records .policy) epoch ∨ NamedByAccounting (records .accounting) epoch

/-- Who knows the generation of a record is not behind the epochs it names. -/
def Knows (generation : UInt64) (v : Option DecodedRecord)
    (named : Option DecodedRecord → FabricEpoch → Prop) (epoch : FabricEpoch) : Prop :=
  generation ≤ generationOf v ∧
    (generation = generationOf v → ∀ e, named v e → e.value ≤ epoch.value)

/-- The records hold what was encoded into them. -/
structure Encoded (records : Records) : Prop where
  policy : ∀ record, records .policy = some record → ∃ policy,
    record.payload = encodePolicy policy ∧ validatePolicy policy = .ok ()
  accounting : ∀ record, records .accounting = some record → ∃ accounting,
    record.payload = encodeAccounting accounting

/-- What holds between the records of a directory, its live governors and all that were seen. -/
structure EpochKept (directory : String) (seen : Set Governor) (live : List Governor)
    (records : Records) (dir : Directory) : Prop where
  settled : Settled { directory := directory } records dir
  encoded : Encoded records
  attached : ∀ g ∈ live, Attached directory g
  live_seen : ∀ g ∈ live, g ∈ seen
  none : records .policy = none → ∀ g, g ∉ seen
  policy : ∀ g ∈ live,
    Knows g.policyRecordGeneration (records .policy) NamedByPolicy g.epoch
  accounting : ∀ g ∈ live,
    Knows g.accountingRecordGeneration (records .accounting) NamedByAccounting g.epoch
  bound : ∀ g ∈ seen, ∃ epoch, Named records epoch ∧ g.epoch.value ≤ epoch.value
  latest : ∀ g ∈ live, g.stopping = false → ∀ x ∈ seen, x.epoch.value ≤ g.epoch.value
  single : live.Pairwise fun a b => a.stopping = true ∨ b.stopping = true

/-- Where the policy record was replaced, nobody served an epoch ahead of the new policy. -/
def Respected (seen : Set Governor) (records records' : Records) : Prop :=
  records' .policy = records .policy ∨ ∃ record policy, records' .policy = some record ∧
    decodePolicy record.payload = .ok policy ∧ ∀ g ∈ seen, g.epoch.value ≤ policy.epoch.value

variable {directory : String} {seen : Set Governor} {live live' : List Governor}
  {records records' : Records} {dir dir' : Directory} {g g' : Governor}
  {record : DecodedRecord} {policy : FairnessPolicy} {v : Option DecodedRecord}

section Knows

variable {generation expected next : UInt64} {payload : ByteBuffer} {epoch epoch' : FabricEpoch}
  {named : Option DecodedRecord → FabricEpoch → Prop}

lemma Knows.mono (h : Knows generation v named epoch) (hle : epoch.value ≤ epoch'.value) :
    Knows generation v named epoch' :=
  ⟨h.1, fun heq e he => UInt64.le_trans (h.2 heq e he) hle⟩

/-- Who knew at most the record before does not know the record after. -/
lemma Knows.replaced (h : Knows generation v named epoch)
    (hreplaces : Replaces v expected next payload record) :
    Knows generation (some record) named epoch' := by
  have hlt : generation < record.generation := by
    rw [hreplaces.generation]
    exact UInt64.lt_of_le_of_lt (hreplaces.expected ▸ h.1) hreplaces.advances
  exact ⟨UInt64.le_of_lt hlt, fun heq => absurd heq (UInt64.ne_of_lt hlt)⟩

/-- Who serves the policy of a record knows the record. -/
lemma knows_policy (hdecodes : decodePolicy record.payload = .ok policy)
    (hle : policy.epoch.value ≤ epoch.value) :
    Knows record.generation (some record) NamedByPolicy epoch := by
  refine ⟨UInt64.le_refl _, fun _ => ?_⟩
  rintro e ⟨_, named, hrecord, hpayload, hvalid, rfl⟩
  obtain rfl := Option.some.inj hrecord
  rw [hpayload] at hdecodes
  rwa [← decodePolicy_encoded hvalid hdecodes]

lemma knows_accounting {accounting : FairnessAccounting}
    (hpayload : record.payload = encodeAccounting accounting)
    (hle : accounting.epoch.value ≤ epoch.value) :
    Knows record.generation (some record) NamedByAccounting epoch := by
  refine ⟨UInt64.le_refl _, fun _ => ?_⟩
  rintro e ⟨_, named, hrecord, hnamed, rfl⟩
  obtain rfl := Option.some.inj hrecord
  rwa [epoch_of_encodeAccounting (hnamed.symm.trans hpayload)]

end Knows

/-- Fewer governors. -/
lemma EpochKept.mono (h : EpochKept directory seen live records dir) {seen' : Set Governor}
    (hseen : seen' ⊆ seen) (hlive : live'.Sublist live) (hsub : ∀ g ∈ live', g ∈ seen') :
    EpochKept directory seen' live' records dir :=
  ⟨h.settled, h.encoded, fun g hg => h.attached g (hlive.subset hg), hsub,
    fun hnone g hg => h.none hnone g (hseen hg), fun g hg => h.policy g (hlive.subset hg),
    fun g hg => h.accounting g (hlive.subset hg), fun g hg => h.bound g (hseen hg),
    fun g hg hrunning x hx => h.latest g (hlive.subset hg) hrunning x (hseen hx),
    h.single.sublist hlive⟩

/-! ## Operations -/

/-- After any operation one of the records names an epoch that the governor is not ahead of. -/
lemma Moves.bound (hmoves : Moves g records g' records')
    (hbound : ∃ epoch, Named records epoch ∧ g.epoch.value ≤ epoch.value) :
    ∃ epoch, Named records' epoch ∧ g'.epoch.value ≤ epoch.value := by
  rcases hmoves.epoch with hsame | hnamed
  · rw [hsame]
    obtain ⟨epoch, hnamed, hle⟩ := hbound
    have hpolicy := hmoves.policy
    have haccounting := hmoves.accounting
    generalize hp : records' .policy = p at hpolicy
    generalize ha : records' .accounting = a at haccounting
    cases hpolicy with
    | @unserved policy record hi hcommits =>
      exact ⟨_, .inl ⟨record, policy, hp, hcommits.payload_eq, hi.valid, rfl⟩, hi.epoch⟩
    | @installed policy record hi hcommits =>
      exact ⟨_, .inl ⟨record, policy, hp, hcommits.payload_eq, hi.valid, rfl⟩, hi.epoch⟩
    | kept =>
      cases haccounting with
      | @unacknowledged accounting record hcommits hahead =>
        exact ⟨_, .inr ⟨record, accounting, ha, hcommits.payload_eq, rfl⟩, hahead⟩
      | @recorded accounting record hcommits hepoch =>
        refine ⟨_, .inr ⟨record, accounting, ha, hcommits.payload_eq, rfl⟩, ?_⟩
        rw [hepoch, hsame]
        exact UInt64.le_refl _
      | kept =>
        -- neither record was written
        refine ⟨epoch, ?_, hle⟩
        unfold Named
        rwa [hp, ha]
  · exact ⟨_, hnamed, UInt64.le_refl _⟩

lemma Moves.encoded (hmoves : Moves g records g' records') (h : Encoded records) :
    Encoded records' := by
  -- A record that a move leaves is the old one or one the codec has just written.
  constructor
  · intro record hrecord
    have hpolicy := hmoves.policy
    rw [hrecord] at hpolicy
    generalize hv : some record = v at hpolicy
    cases hpolicy with
    | kept => exact h.policy record hv.symm
    | unserved hi hcommits =>
      obtain rfl := Option.some.inj hv
      exact ⟨_, hcommits.payload_eq, hi.valid⟩
    | installed hi hcommits =>
      obtain rfl := Option.some.inj hv
      exact ⟨_, hcommits.payload_eq, hi.valid⟩
  · intro record hrecord
    have haccounting := hmoves.accounting
    rw [hrecord] at haccounting
    generalize hv : some record = v at haccounting
    cases haccounting with
    | kept => exact h.accounting record hv.symm
    | unacknowledged hcommits =>
      obtain rfl := Option.some.inj hv
      exact ⟨_, hcommits.payload_eq⟩
    | recorded hcommits =>
      obtain rfl := Option.some.inj hv
      exact ⟨_, hcommits.payload_eq⟩

/-- The governors that an operation is not about. -/
lemma EpochKept.others {before after : List Governor}
    (h : EpochKept directory seen (before ++ g :: after) records dir) :
    (∀ x ∈ before ++ after, x ∈ before ++ g :: after) ∧
      (before ++ after).Pairwise (fun a b => a.stopping = true ∨ b.stopping = true) ∧
      ∀ x ∈ before ++ after, g.stopping = true ∨ x.stopping = true := by
  have hsub : (before ++ after).Sublist (before ++ g :: after) :=
    List.Sublist.append_left (List.sublist_cons_self g after) before
  refine ⟨fun x hx => hsub.subset hx, h.single.sublist hsub, fun x hx => ?_⟩
  obtain ⟨-, hafter, hcross⟩ := List.pairwise_append.mp h.single
  rcases List.mem_append.mp hx with hx | hx
  · exact (hcross x hx g List.mem_cons_self).symm
  · exact (List.pairwise_cons.mp hafter).1 x hx

/-- Who knows what after an operation. -/
lemma Moves.knows (hmoves : Moves g records g' records') {x : Governor}
    (hg : Knows g.policyRecordGeneration (records .policy) NamedByPolicy g.epoch ∧
      Knows g.accountingRecordGeneration (records .accounting) NamedByAccounting g.epoch)
    (hx : x = g' ∨ Knows x.policyRecordGeneration (records .policy) NamedByPolicy x.epoch ∧
      Knows x.accountingRecordGeneration (records .accounting) NamedByAccounting x.epoch) :
    Knows x.policyRecordGeneration (records' .policy) NamedByPolicy x.epoch ∧
      Knows x.accountingRecordGeneration (records' .accounting) NamedByAccounting x.epoch := by
  have hpolicy := hmoves.policy
  have haccounting := hmoves.accounting
  generalize records' .policy = p at hpolicy
  generalize records' .accounting = a at haccounting
  constructor
  · -- the policy record: it stays, or a commit replaces it, whose new generation only `g'` can know
    cases hpolicy with
    | kept _ hgeneration =>
      rcases hx with rfl | hx
      · rw [hgeneration]
        exact hg.1.mono hmoves.epoch_le
      · exact hx.1
    | unserved _ hcommits _ hgeneration =>
      rcases hx with rfl | hx
      · rw [hgeneration]
        exact hg.1.replaced hcommits
      · exact hx.1.replaced hcommits
    | installed hi hcommits _ hepoch hgeneration =>
      rcases hx with rfl | hx
      · rw [hgeneration]
        exact knows_policy (decodePolicy_replaces hcommits hi.valid)
          (UInt64.le_of_eq (by rw [hepoch]))
      · exact hx.1.replaced hcommits
  · -- the accounting record in the same way
    cases haccounting with
    | kept hgeneration =>
      rcases hx with rfl | hx
      · rw [hgeneration]
        exact hg.2.mono hmoves.epoch_le
      · exact hx.2
    | unacknowledged hcommits _ hgeneration =>
      rcases hx with rfl | hx
      · rw [hgeneration]
        exact hg.2.replaced hcommits
      · exact hx.2.replaced hcommits
    | recorded hcommits hepoch hgeneration =>
      rcases hx with rfl | hx
      · rw [hgeneration]
        exact knows_accounting hcommits.payload_eq (UInt64.le_of_eq (by rw [hepoch]))
      · exact hx.2.replaced hcommits

lemma EpochKept.moves {before after : List Governor}
    (h : EpochKept directory seen (before ++ g :: after) records dir)
    (hmoves : Moves g records g' records')
    (hsettled : Settled { directory := directory } records' dir') :
    EpochKept directory (insert g' seen) (before ++ g' :: after) records' dir' ∧
      Respected seen records records' := by
  have hg : g ∈ before ++ g :: after := by simp
  have hseen := h.live_seen g hg
  obtain ⟨hsub, hpair, hfree⟩ := h.others
  have hlive : ∀ x ∈ before ++ g' :: after, x = g' ∨ x ∈ before ++ after := by
    intro x hx
    simp only [List.mem_append, List.mem_cons] at hx ⊢
    tauto
  have hknows : ∀ x ∈ before ++ g' :: after, _ := fun x hx =>
    hmoves.knows ⟨h.policy g hg, h.accounting g hg⟩
      ((hlive x hx).imp_right fun hx => ⟨h.policy x (hsub x hx), h.accounting x (hsub x hx)⟩)
  have hbound' := hmoves.bound (h.bound g hseen)
  -- a stopped governor does nothing; a running one is the only one, and ahead of all
  have hcases : (g.stopping = true ∧ records' = records ∧ g'.epoch = g.epoch ∧
      g'.stopping = true) ∨ (g.stopping = false ∧ (∀ x ∈ before ++ after, x.stopping = true) ∧
      ∀ x ∈ seen, x.epoch.value ≤ g.epoch.value) := by
    cases hstop : g.stopping with
    | true => exact .inl ⟨rfl, hmoves.stopped hstop⟩
    | false =>
      refine .inr ⟨rfl, fun x hx => ?_, h.latest g hg hstop⟩
      rcases hfree x hx with hbad | hx
      · exact not_stopped hstop hbad
      · exact hx
  have hfree' : ∀ x ∈ before ++ after, g'.stopping = true ∨ x.stopping = true := by
    intro x hx
    rcases hcases with ⟨-, -, -, hstop⟩ | ⟨-, hothers, -⟩
    · exact .inl hstop
    · exact .inr (hothers x hx)
  refine ⟨⟨hsettled, hmoves.encoded h.encoded, ?_, ?_, ?_, fun x hx => (hknows x hx).1,
    fun x hx => (hknows x hx).2, ?_, ?_, ?_⟩, ?_⟩
  · intro x hx
    rcases hlive x hx with rfl | hx
    · exact hmoves.attached directory (h.attached g hg)
    · exact h.attached x (hsub x hx)
  · intro x hx
    rcases hlive x hx with rfl | hx
    · exact Set.mem_insert _ _
    · exact Set.mem_insert_of_mem _ (h.live_seen x (hsub x hx))
  · intro hnone x _
    have hpolicy := hmoves.policy
    generalize records' .policy = p at hpolicy hnone
    cases hpolicy with
    | kept => exact h.none hnone g hseen
    | unserved => cases hnone
    | installed => cases hnone
  · rintro x (rfl | hx)
    · exact hbound'
    · rcases hcases with ⟨-, rfl, -⟩ | ⟨-, -, hahead⟩
      · exact h.bound x hx
      · obtain ⟨epoch, hnamed, hle⟩ := hbound'
        exact ⟨epoch, hnamed,
          UInt64.le_trans (hahead x hx) (UInt64.le_trans hmoves.epoch_le hle)⟩
  · intro x hx hrunning y hy
    rcases hcases with ⟨-, -, hsame, hstop⟩ | ⟨-, hothers, hahead⟩
    · rcases hlive x hx with rfl | hx
      · exact not_stopped hrunning hstop
      · have hlatest := h.latest x (hsub x hx) hrunning
        rcases hy with rfl | hy
        · rw [hsame]
          exact hlatest g hseen
        · exact hlatest y hy
    · rcases hlive x hx with rfl | hx
      · rcases hy with rfl | hy
        · exact UInt64.le_refl _
        · exact UInt64.le_trans (hahead y hy) hmoves.epoch_le
      · exact not_stopped hrunning (hothers x hx)
  · obtain ⟨hb, ha, hcross⟩ := List.pairwise_append.mp hpair
    refine List.pairwise_append.mpr ⟨hb, List.pairwise_cons.mpr ⟨fun x hx => ?_, ha⟩, ?_⟩
    · exact hfree' x (List.mem_append_right _ hx)
    · intro x hx y hy
      rcases List.mem_cons.mp hy with rfl | hy
      · exact (hfree' x (List.mem_append_left _ hx)).symm
      · exact hcross x hx y hy
  · rcases hcases with ⟨-, rfl, -⟩ | ⟨-, -, hahead⟩
    · exact .inl rfl
    · have hpolicy := hmoves.policy
      generalize hp : records' .policy = p at hpolicy
      cases hpolicy with
      | kept => exact .inl hp
      | @unserved policy record hi hcommits =>
        exact .inr ⟨record, policy, hp, decodePolicy_replaces hcommits hi.valid,
          fun x hx => UInt64.le_trans (hahead x hx) hi.epoch⟩
      | @installed policy record hi hcommits =>
        exact .inr ⟨record, policy, hp, decodePolicy_replaces hcommits hi.valid,
          fun x hx => UInt64.le_trans (hahead x hx) hi.epoch⟩

/-! ## Openings -/

/-- The durable records, as the condition of an opening is about them. -/
lemma EpochKept.durable (h : EpochKept directory seen live records dir) :
    (∀ record policy, records .policy = some record → decodePolicy record.payload = .ok policy →
      DurablePolicy directory dir policy) ∧
    ∀ record accounting, records .accounting = some record →
      record.payload = encodeAccounting accounting → DurableAccounting directory dir accounting := by
  constructor
  · intro record policy hrecord hdecodes
    exact ⟨record, hrecord ▸ h.settled .policy, hdecodes⟩
  · intro record accounting hrecord hpayload
    exact ⟨record, hrecord ▸ h.settled .accounting, hpayload⟩

/-- Whoever was seen served no later epoch than a configured policy that is committed. -/
lemma EpochKept.behind {config : GovernorConfig}
    (h : EpochKept directory seen live records dir)
    (hrespects : RespectsEpochs directory ⟨dir, live⟩ config)
    (hcommits : CommitsConfigured config (records .policy) record) :
    ∀ x ∈ seen, x.epoch.value ≤ config.policy.epoch.value := by
  intro x hx
  cases hv : records .policy with
  | none => exact absurd hx (h.none hv x)
  | some old =>
    obtain ⟨durable, hdecodes, hlt⟩ := hcommits.newer old hv
    obtain ⟨hpolicy, haccounting⟩ := h.durable
    obtain ⟨hepoch, hepochs⟩ := hrespects.newer durable (hpolicy old durable hv hdecodes) hlt
    obtain ⟨epoch, hnamed | hnamed, hle⟩ := h.bound x hx
    · obtain ⟨record', policy, hrecord', hpayload, hvalid, rfl⟩ := hnamed
      obtain rfl := Option.some.inj (hv.symm.trans hrecord')
      rw [hpayload] at hdecodes
      rw [decodePolicy_encoded hvalid hdecodes] at hepoch
      exact UInt64.le_trans hle hepoch
    · obtain ⟨record', accounting, hrecord', hpayload, rfl⟩ := hnamed
      exact UInt64.le_trans hle (hepochs accounting (haccounting record' accounting hrecord' hpayload))

/-- The configured policy is committed; nobody serves it yet. -/
lemma EpochKept.committed {config : GovernorConfig}
    (h : EpochKept directory seen live records dir)
    (hrespects : RespectsEpochs directory ⟨dir, live⟩ config)
    (hcommits : CommitsConfigured config (records .policy) record)
    (hpolicy : records' .policy = some record)
    (haccounting : records' .accounting = records .accounting)
    (hsettled : Settled { directory := directory } records' dir') :
    EpochKept directory seen live records' dir' ∧ Respected seen records records' := by
  -- nobody who was seen serves a later epoch than the configured policy
  have hbehind := h.behind hrespects hcommits
  refine ⟨⟨hsettled, ⟨?_, ?_⟩, h.attached, h.live_seen, ?_, ?_, ?_, ?_, ?_, h.single⟩, .inr
    ⟨record, config.policy, hpolicy, decodePolicy_replaces hcommits.replaces hcommits.valid,
      hbehind⟩⟩
  · intro again hagain
    obtain rfl := Option.some.inj (hpolicy.symm.trans hagain)
    exact ⟨_, hcommits.replaces.payload_eq, hcommits.valid⟩
  · rw [haccounting]
    exact h.encoded.accounting
  · intro hnone
    rw [hpolicy] at hnone
    cases hnone
  · intro x hx
    rw [hpolicy]
    exact (h.policy x hx).replaced hcommits.replaces
  · rw [haccounting]
    exact h.accounting
  · intro x hx
    exact ⟨_, .inl ⟨record, _, hpolicy, hcommits.replaces.payload_eq, hcommits.valid, rfl⟩,
      hbehind x hx⟩
  · intro x hx hrunning
    exact not_stopped hrunning (hrespects.alone x hx)

/-- What an opening that has not succeeded makes of the records. -/
lemma EpochKept.tried {config : GovernorConfig}
    (h : EpochKept directory seen live records dir)
    (hrespects : RespectsEpochs directory ⟨dir, live⟩ config)
    (hleaves : OpeningLeaves { directory := directory } config records dir') :
    ∃ records', EpochKept directory seen live records' dir' ∧ Respected seen records records' := by
  obtain ⟨records', rfl | ⟨record, hcommits, rfl⟩, hsettled⟩ := hleaves
  · exact ⟨_, { h with settled := hsettled }, .inl rfl⟩
  · have hpolicy : Function.update records .policy (some record) .policy = some record := rfl
    exact ⟨_, h.committed hrespects hcommits hpolicy rfl hsettled⟩

/-- A governor joins those that were shut down; it knows both records and is ahead of all. -/
lemma EpochKept.join (h : EpochKept directory seen live records dir)
    (halone : ∀ x ∈ live, x.stopping = true) (hattached : Attached directory g)
    (hpolicy : NamedByPolicy (records .policy) g.policy.epoch)
    (hknows : Knows g.policyRecordGeneration (records .policy) NamedByPolicy g.epoch)
    (hknows' : Knows g.accountingRecordGeneration (records .accounting) NamedByAccounting g.epoch)
    (hbound : Named records g.epoch) (hahead : ∀ x ∈ seen, x.epoch.value ≤ g.epoch.value) :
    EpochKept directory (insert g seen) (g :: live) records dir := by
  refine ⟨h.settled, h.encoded, List.forall_mem_cons.mpr ⟨hattached, h.attached⟩,
    List.forall_mem_cons.mpr ⟨Set.mem_insert _ _, fun x hx => .inr (h.live_seen x hx)⟩, ?_,
    List.forall_mem_cons.mpr ⟨hknows, h.policy⟩, List.forall_mem_cons.mpr ⟨hknows', h.accounting⟩,
    Set.forall_mem_insert.mpr ⟨⟨_, hbound, UInt64.le_refl _⟩, h.bound⟩, ?_, ?_⟩
  · intro hnone
    obtain ⟨record, _, hrecord, -⟩ := hpolicy
    rw [hrecord] at hnone
    cases hnone
  · intro x hx hrunning y hy
    rcases List.mem_cons.mp hx with rfl | hx
    · rcases hy with rfl | hy
      · exact UInt64.le_refl _
      · exact hahead y hy
    · exact not_stopped hrunning (halone x hx)
  · exact List.pairwise_cons.mpr ⟨fun x hx => .inr (halone x hx), h.single⟩

/-- The policy record that an opened governor serves from. -/
lemma PolicyOpens.served {config : GovernorConfig} {v' : Option DecodedRecord}
    (h : PolicyOpens config v g v')
    (hsame : ∀ record durable, v = some record → decodePolicy record.payload = .ok durable →
      durable.generation = config.policy.generation →
      policyDigest durable = policyDigest config.policy → durable.epoch = config.policy.epoch) :
    ∃ record policy, v' = some record ∧ decodePolicy record.payload = .ok policy ∧
      policy.epoch = g.policy.epoch ∧ g.policyRecordGeneration = record.generation := by
  cases h with
  | newer hrecord hdecodes _ hserved hgeneration =>
    exact ⟨_, _, hrecord, hdecodes, by rw [hserved], hgeneration⟩
  | same hrecord hdecodes hgen hdigest hserved hgeneration =>
    refine ⟨_, _, hrecord, hdecodes, ?_, hgeneration⟩
    rw [hserved]
    exact hsame _ _ hrecord hdecodes hgen hdigest
  | committed hcommits hserved hgeneration =>
    refine ⟨_, _, rfl, decodePolicy_replaces hcommits.replaces hcommits.valid, ?_, hgeneration⟩
    rw [hserved]

/-- The epoch of an opened governor is the later of those that its records name. -/
lemma EpochOpens.knows (h : EpochOpens v g) :
    g.policy.epoch.value ≤ g.epoch.value ∧ (∀ e, NamedByAccounting v e → e.value ≤ g.epoch.value) ∧
      ((∀ record, v = some record → ∃ accounting, record.payload = encodeAccounting accounting) →
        g.epoch = g.policy.epoch ∨ NamedByAccounting v g.epoch) := by
  rcases h with ⟨hnone, hepoch⟩ | @⟨record, durable, hrecord, hdecodes, hepoch⟩
  · refine ⟨UInt64.le_of_eq (by rw [hepoch]), ?_, fun _ => .inl hepoch⟩
    rintro e ⟨record, _, hrecord, -⟩
    rw [hnone] at hrecord
    cases hrecord
  · have hfields : ∀ accounting, record.payload = encodeAccounting accounting →
        durable.epoch = accounting.epoch := by
      intro accounting hpayload
      rw [hpayload] at hdecodes
      obtain ⟨_, rfl⟩ := decodeAccounting_fields hdecodes
      rfl
    -- the epoch of the accounting record is adopted where it is ahead of the policy
    by_cases hlt : durable.epoch.value > g.policy.epoch.value
    · rw [if_pos hlt] at hepoch
      refine ⟨?_, ?_, fun hencoded => .inr ?_⟩
      · rw [hepoch]
        exact UInt64.le_of_lt hlt
      · rintro e ⟨_, accounting, hagain, hpayload, rfl⟩
        obtain rfl := Option.some.inj (hrecord.symm.trans hagain)
        rw [hepoch, hfields accounting hpayload]
        exact UInt64.le_refl _
      · obtain ⟨accounting, hpayload⟩ := hencoded record hrecord
        exact ⟨record, accounting, hrecord, hpayload,
          (hfields accounting hpayload).symm.trans hepoch.symm⟩
    · rw [if_neg hlt] at hepoch
      refine ⟨UInt64.le_of_eq (by rw [hepoch]), ?_, fun _ => .inl hepoch⟩
      rintro e ⟨_, accounting, hagain, hpayload, rfl⟩
      obtain rfl := Option.some.inj (hrecord.symm.trans hagain)
      rw [hepoch, ← hfields accounting hpayload]
      exact UInt64.not_lt.mp hlt

/-- What an opening that succeeds makes of the records: the governor is ahead of all that were
seen. -/
lemma EpochKept.opens {config : GovernorConfig}
    (h : EpochKept directory seen live records dir)
    (hrespects : RespectsEpochs directory ⟨dir, live⟩ config)
    (hopens : OpensWith config { directory := directory } records g records')
    (hsettled : Settled { directory := directory } records' dir') :
    EpochKept directory (insert g seen) (g :: live) records' dir' ∧
      Respected seen records records' ∧ ∀ x ∈ seen, x.epoch.value ≤ g.epoch.value := by
  obtain ⟨record, policy, hrecord, hdecodes, hepoch, hgeneration⟩ := hopens.policy.served
    fun record durable hrecord hdecodes => hrespects.same durable (h.durable.1 _ _ hrecord hdecodes)
  obtain ⟨hle, hnamed, hnames⟩ := hopens.epoch.knows
  -- the records without the governor
  obtain ⟨hkept, hrespected⟩ : EpochKept directory seen live records' dir' ∧
      Respected seen records records' := by
    rcases opening_tried hopens.policy hopens.accounting with rfl | ⟨_, hcommits, rfl⟩
    · exact ⟨{ h with settled := hsettled }, .inl rfl⟩
    · exact h.committed hrespects hcommits rfl rfl hsettled
  have hknows : Knows g.policyRecordGeneration (records' .policy) NamedByPolicy g.epoch := by
    rw [hgeneration, hrecord]
    refine knows_policy hdecodes ?_
    rwa [hepoch]
  have hknows' :
      Knows g.accountingRecordGeneration (records' .accounting) NamedByAccounting g.epoch := by
    rw [hopens.accountingGeneration, hopens.accounting]
    exact ⟨UInt64.le_refl _, fun _ => hnamed⟩
  have hpolicy : NamedByPolicy (records' .policy) g.policy.epoch := by
    obtain ⟨named, hpayload, hvalid⟩ := hkept.encoded.policy record hrecord
    refine ⟨record, named, hrecord, hpayload, hvalid, ?_⟩
    rw [hpayload] at hdecodes
    rw [← decodePolicy_encoded hvalid hdecodes, hepoch]
  have hahead : ∀ x ∈ seen, x.epoch.value ≤ g.epoch.value := by
    intro x hx
    obtain ⟨epoch, hby | hby, hbound⟩ := hkept.bound x hx
    · refine UInt64.le_trans hbound (hknows.2 ?_ epoch hby)
      rw [hgeneration, hrecord]
      rfl
    · refine UInt64.le_trans hbound (hknows'.2 ?_ epoch hby)
      rw [hopens.accountingGeneration, hopens.accounting]
  refine ⟨hkept.join hrespects.alone (.inl hopens.store) hpolicy hknows hknows' ?_ hahead,
    hrespected, hahead⟩
  rcases hnames h.encoded.accounting with hsame | hby
  · exact .inl (hsame ▸ hpolicy)
  · refine .inr ?_
    rwa [hopens.accounting]

/-! ## Steps and runs -/

/-- Every step whose opening respects the durable epochs keeps the invariant. -/
theorem SiteStep.epochKept {site site' : Site} {event : SiteEvent}
    (hstep : SiteStep directory site event site')
    (h : EpochKept directory seen site.live records site.dir)
    (hrespects : event.respectsEpochs directory site) :
    ∃ records', EpochKept directory (seen ∪ {g | g ∈ site'.live}) site'.live records' site'.dir ∧
      Respected seen records records' ∧ ∀ config boot g, event = .opened config boot (.ok g) →
        ∀ x ∈ seen, x.epoch.value ≤ g.epoch.value := by
  cases hstep with
  | @opened dir dir' live config boot result hpath hne hends =>
    subst hpath
    obtain ⟨hok, hleaves⟩ := hends.opensWith h.settled
    cases result with
    | error e =>
      obtain ⟨records', hkept, hrespected⟩ := h.tried hrespects hleaves
      refine ⟨records', hkept.mono ?_ (List.Sublist.refl _) fun g hg => .inr hg, hrespected,
        fun _ _ _ heq => by cases heq⟩
      exact Set.union_subset (fun _ hx => hx) hkept.live_seen
    | ok g =>
      obtain ⟨-, records', hopens, hsettled⟩ := hok g rfl
      obtain ⟨hkept, hrespected, hahead⟩ := h.opens hrespects hopens hsettled
      refine ⟨records', hkept.mono ?_ (List.Sublist.refl _) fun g hg => .inr hg, hrespected, ?_⟩
      · exact Set.union_subset (Set.subset_insert _ _) hkept.live_seen
      · rintro _ _ _ heq
        cases heq
        exact hahead
  | @openingCrashed dir dir' live config boot hpath hne hcrash =>
    subst hpath
    obtain ⟨records', hkept, hrespected⟩ := h.tried hrespects (hcrash.leaves h.settled)
    refine ⟨records', hkept.mono ?_ (List.Sublist.refl _) fun g hg => .inr hg, hrespected,
      fun _ _ _ heq => by cases heq⟩
    exact Set.union_subset (fun _ hx => hx) hkept.live_seen
  | @operated dir dir' before after g g' operation e hends =>
    obtain ⟨records', hmoves, hsettled⟩ :=
      (operation_leaves (h.attached g (by simp)) h.settled operation).1 _ _ _ hends
    obtain ⟨hkept, hrespected⟩ := h.moves hmoves hsettled
    refine ⟨records', hkept.mono ?_ (List.Sublist.refl _) fun g hg => .inr hg, hrespected,
      fun _ _ _ heq => by cases heq⟩
    exact Set.union_subset (Set.subset_insert _ _) hkept.live_seen
  | @crashed dir dir' before after g operation hcrash =>
    -- what the interrupted operation would have left is kept, so it is kept without the governor
    obtain ⟨g', records', hmoves, hsettled⟩ :=
      (operation_leaves (h.attached g (by simp)) h.settled operation).2 _ hcrash
    obtain ⟨hkept, hrespected⟩ := h.moves hmoves hsettled
    have hsub : (before ++ after).Sublist (before ++ g' :: after) :=
      List.Sublist.append_left (List.sublist_cons_self g' after) before
    refine ⟨records', hkept.mono ?_ hsub fun g hg => .inr hg, hrespected,
      fun _ _ _ heq => by cases heq⟩
    exact Set.union_subset (Set.subset_insert _ _) fun x hx => hkept.live_seen x (hsub.subset hx)

variable {start site : Site} {trace : List (Site × SiteEvent)}

lemma run_epochKept (hfresh : Fresh directory start)
    (hrun : Run (SiteStep directory) start trace site)
    (hrespects : ∀ t event, (t, event) ∈ trace → event.respectsEpochs directory t) :
    ∃ records, EpochKept directory (seenIn trace site) site.live records site.dir := by
  induction hrun with
  | nil =>
    have hnone : ∀ g, g ∉ seenIn [] start := by
      rintro g (hg | ⟨_, _, hmem, -⟩)
      · rw [hfresh.live] at hg
        cases hg
      · cases hmem
    have hlive : ∀ g, g ∉ start.live := fun g hg => hnone g (.inl hg)
    refine ⟨fun _ => none, hfresh.settled, ⟨fun _ h => (by cases h), fun _ h => (by cases h)⟩,
      fun g hg => absurd hg (hlive g), fun g hg => .inl hg, fun _ => hnone,
      fun g hg => absurd hg (hlive g), fun g hg => absurd hg (hlive g),
      fun g hg => absurd hg (hnone g), fun g hg => absurd hg (hlive g), ?_⟩
    rw [hfresh.live]
    exact List.Pairwise.nil
  | @snoc trace t u event _ hstep ih =>
    obtain ⟨records, hkept⟩ := ih fun t event hmem =>
      hrespects t event (List.mem_append_left _ hmem)
    obtain ⟨records', hkept', -⟩ := hstep.epochKept hkept (hrespects t event (by simp))
    rw [seenIn_snoc]
    exact ⟨records', hkept'⟩

/-- In every run whose openings respect the durable epochs, no served epoch is rolled back. -/
theorem epochs_not_rolled_back (hfresh : Fresh directory start)
    (hrun : Run (SiteStep directory) start trace site)
    (hrespects : ∀ t event, (t, event) ∈ trace → event.respectsEpochs directory t) :
    EpochsHold directory trace site := by
  constructor
  · rintro before t config boot g after rfl
    obtain ⟨t', hbefore, hstep, -⟩ := hrun.split
    obtain ⟨records, hkept⟩ := run_epochKept hfresh hbefore fun t event hmem =>
      hrespects t event (List.mem_append_left _ hmem)
    obtain ⟨_, -, -, hahead⟩ := hstep.epochKept hkept (hrespects t _ (by simp))
    exact hahead config boot g rfl
  · rintro before t event rfl policy ⟨record, hsettles, hdecodes⟩ hnew
    obtain ⟨hbefore, hstep⟩ := hrun.last
    obtain ⟨records, hkept⟩ := run_epochKept hfresh hbefore fun t event hmem =>
      hrespects t event (List.mem_append_left _ hmem)
    obtain ⟨records', hkept', hrespected, -⟩ := hstep.epochKept hkept (hrespects t _ (by simp))
    have hrecord := (hkept'.settled .policy).unique hsettles
    rcases hrespected with hsame | ⟨record', policy', hrecord', hdecodes', hahead⟩
    · refine absurd ⟨record, ?_, hdecodes⟩ hnew
      rw [← hrecord, hsame]
      exact hkept.settled .policy
    · obtain rfl := Option.some.inj (hrecord'.symm.trans hrecord)
      obtain rfl := Except.ok.inj (hdecodes'.symm.trans hdecodes)
      exact hahead

/-! ## A restart with a newer policy -/

/-- The two-subject policy in a generation and an epoch. -/
def epochPolicy (generation epoch : UInt64) : FairnessPolicy :=
  { pairPolicy with generation := ⟨generation⟩, epoch := ⟨epoch⟩ }

/-- Opening with a policy on the directory that the first one has left in epoch five. -/
def reopening (policy : FairnessPolicy) : Except Status Governor × Directory :=
  run handle (Governor.open (storeConfig policy) ⟨8⟩).run (firstOpening (epochPolicy 1 5)).2

/-- A first opening on a fresh directory makes the configured policy durable, and nothing else. -/
lemma first_opening_durable {config : GovernorConfig} {boot : BootId}
    (hfresh : Fresh config.storePath ⟨dir, []⟩)
    (hends : OpeningEnds config boot dir (.ok g) dir') :
    (∀ durable, DurablePolicy config.storePath dir' durable → durable = config.policy) ∧
      ∀ accounting, ¬ DurableAccounting config.storePath dir' accounting := by
  obtain ⟨-, records', hopens, hsettled⟩ := (hends.opensWith hfresh.settled).1 g rfl
  have haccounting := hopens.accounting
  have hpolicy := hopens.policy
  generalize hv : records' .policy = v at hpolicy
  constructor
  · rintro durable ⟨record, hsettles, hdecodes⟩
    have hrecord := (hsettled .policy).unique hsettles
    cases hpolicy with
    | newer hnone => cases hnone
    | same hnone => cases hnone
    | committed hcommits =>
      obtain rfl := Option.some.inj (hv.symm.trans hrecord)
      have hread := decodePolicy_replaces hcommits.replaces hcommits.valid
      exact Except.ok.inj (hdecodes.symm.trans hread)
  · rintro accounting ⟨record, hsettles, -⟩
    have hrecord := (hsettled .accounting).unique hsettles
    rw [haccounting] at hrecord
    cases hrecord

/-- A governor in epoch five is shut down, and the directory is opened with a newer policy in
epoch six. -/
theorem epochs_not_rolled_back_restart : ∃ g,
    (firstOpening (epochPolicy 1 5)).1 = .ok g ∧
    (reopening (epochPolicy 2 6)).1.toOption.any (fun g => g.epoch = ⟨6⟩) = true ∧
    EpochsHold "store"
      [(⟨fun _ => none, []⟩, .opened (storeConfig (epochPolicy 1 5)) ⟨7⟩ (.ok g)),
        (⟨(firstOpening (epochPolicy 1 5)).2, [g]⟩, .operated g .shutdown .shutdown),
        (⟨(firstOpening (epochPolicy 1 5)).2, [g.shutdown]⟩,
          .opened (storeConfig (epochPolicy 2 6)) ⟨8⟩ (reopening (epochPolicy 2 6)).1)]
      ⟨(reopening (epochPolicy 2 6)).2,
        (reopening (epochPolicy 2 6)).1.toOption.toList ++ [g.shutdown]⟩ := by
  have hopened : (firstOpening (epochPolicy 1 5)).1.toOption.any (fun _ => true) = true := by
    decide +kernel
  have hreopened :
      (reopening (epochPolicy 2 6)).1.toOption.any (fun g => g.epoch = ⟨6⟩) = true := by
    decide +kernel
  obtain ⟨g, hg, -⟩ := exists_ok_of_any hopened
  have hfresh : Fresh "store" ⟨fun _ => none, []⟩ := ⟨fun _ _ => rfl, rfl⟩
  have hrun := @restart_run (storeConfig (epochPolicy 1 5)) g "store"
    (storeConfig (epochPolicy 2 6)) rfl rfl (by decide) ⟨7⟩ ⟨8⟩ (fun _ => none) hg
  have hstop : g.shutdown.stopping = true := by
    unfold Governor.shutdown
    split_ifs with h
    · exact h
    · rfl
  obtain ⟨hpolicy, haccounting⟩ : (∀ durable,
      DurablePolicy "store" (firstOpening (epochPolicy 1 5)).2 durable →
        durable = epochPolicy 1 5) ∧
      ∀ a, ¬ DurableAccounting "store" (firstOpening (epochPolicy 1 5)).2 a :=
    @first_opening_durable _ _ g (storeConfig (epochPolicy 1 5)) ⟨7⟩ hfresh
      (hg ▸ openingEnds_run (by decide) ⟨7⟩ fun _ => none)
  refine ⟨g, hg, hreopened, epochs_not_rolled_back hfresh hrun ?_⟩
  have hnone : ∀ durable, ¬ DurablePolicy "store" (fun _ => none) durable := by
    rintro durable ⟨record, hsettles, -⟩
    cases (hfresh.settled .policy).unique hsettles
  -- the run opens, shuts down and opens again
  intro t event hmem
  simp only [List.mem_cons, Prod.mk.injEq, List.not_mem_nil, or_false] at hmem
  rcases hmem with ⟨rfl, rfl⟩ | ⟨rfl, rfl⟩ | ⟨rfl, rfl⟩
  · exact ⟨fun _ hx => (by cases hx), fun durable h => absurd h (hnone durable),
      fun durable h => absurd h (hnone durable)⟩
  · trivial
  · generalize (firstOpening (epochPolicy 1 5)).2 = mid at hpolicy haccounting
    refine ⟨fun x hx => ?_, fun durable h hsame => ?_, fun durable h _ => ⟨?_, fun a ha => ?_⟩⟩
    · rwa [List.mem_singleton.mp hx]
    · obtain rfl := hpolicy durable h
      exact absurd hsame (by decide)
    · obtain rfl := hpolicy durable h
      decide
    · exact absurd ha (haccounting a)

/-- A governor in epoch five is shut down, and the directory is opened with a newer policy in
epoch three: it is committed and served. -/
theorem not_epochs_not_rolled_back :
    ¬ ∀ (directory : String) (start site : Site) (trace : List (Site × SiteEvent)),
      Fresh directory start → Run (SiteStep directory) start trace site →
      EpochsHold directory trace site := by
  intro h
  have hopened :
      (firstOpening (epochPolicy 1 5)).1.toOption.any (fun g => g.epoch = ⟨5⟩) = true := by
    decide +kernel
  have hreopened :
      (reopening (epochPolicy 2 3)).1.toOption.any (fun g => g.epoch = ⟨3⟩) = true := by
    decide +kernel
  obtain ⟨g, hg, hepoch⟩ := exists_ok_of_any hopened
  obtain ⟨again, hagain, hepoch'⟩ := exists_ok_of_any hreopened
  have hrun := @restart_run (storeConfig (epochPolicy 1 5)) g "store"
    (storeConfig (epochPolicy 2 3)) rfl rfl (by decide) ⟨7⟩ ⟨8⟩ (fun _ => none) hg
  have hholds := h "store" ⟨fun _ => none, []⟩ _ _ ⟨fun _ _ => rfl, rfl⟩ hrun
  have hbehind := hholds.opened
    [(⟨fun _ => none, []⟩, .opened (storeConfig (epochPolicy 1 5)) ⟨7⟩ (.ok g)),
      (⟨(firstOpening (epochPolicy 1 5)).2, [g]⟩, .operated g .shutdown .shutdown)]
    ⟨(firstOpening (epochPolicy 1 5)).2, [g.shutdown]⟩ (storeConfig (epochPolicy 2 3)) ⟨8⟩ again []
    (by rw [← hagain]; rfl) g (.inr ⟨_, _, List.mem_cons_of_mem _ List.mem_cons_self, List.mem_singleton_self g⟩)
  rw [of_decide_eq_true hepoch, of_decide_eq_true hepoch'] at hbehind
  exact absurd hbehind (by decide)

end FairnessGovernor
