/-
# A durable policy is never rolled back

Over any sequence of openings and operations on a directory, by any number of governors, each of
which may fail or be interrupted: the generation of the durable policy never decreases, no opened
governor serves an older policy than was ever served, and what is served in one generation has
one digest.  The invariant `PolicyKept` ties what was served to the durable policy, and a governor
that knows the generation of the policy record to the policy in it.
-/
import FairnessGovernor.Governor.Site

namespace FairnessGovernor

open Program Crash Runs DurableStore

/-! ## The property -/

/-- The policy in the settled policy record of a directory. -/
def DurablePolicy (directory : String) (dir : Directory) (policy : FairnessPolicy) : Prop :=
  ∃ record, Settles { directory := directory } .policy (some record) dir ∧
    decodePolicy record.payload = .ok policy

/-- The states of all governors that were live at some time of a run. -/
def seenIn (trace : List (Site × SiteEvent)) (site : Site) : Set Governor :=
  {g | g ∈ site.live ∨ ∃ t e, (t, e) ∈ trace ∧ g ∈ t.live}

/-- The policies that were served at some time of a run. -/
def servedIn (trace : List (Site × SiteEvent)) (site : Site) : Set FairnessPolicy :=
  Governor.policy '' seenIn trace site

/-- No policy was rolled back or silently replaced in a run. -/
structure NotRolledBack (directory : String) (trace : List (Site × SiteEvent)) (site : Site) :
    Prop where
  durable : ∀ t e, (t, e) ∈ trace → ∀ policy, DurablePolicy directory t.dir policy →
    ∃ policy', DurablePolicy directory site.dir policy' ∧
      policy.generation.value ≤ policy'.generation.value
  opened : ∀ before t config boot g after,
    trace = before ++ (t, .opened config boot (.ok g)) :: after →
    ∀ policy ∈ servedIn before t, policy.generation.value ≤ g.policy.generation.value
  valid : ∀ policy ∈ servedIn trace site, validatePolicy policy = .ok ()
  contents : Set.InjOn policyDigest (servedIn trace site) →
    ∀ policy ∈ servedIn trace site, ∀ policy' ∈ servedIn trace site,
      policy.generation = policy'.generation → policy = policy'

/-! ## The invariant -/

/-- What was served, and who knows the record, beside the durable policy. -/
structure PolicyHead (seen : Set Governor) (live : List Governor) (record : DecodedRecord)
    (policy : FairnessPolicy) : Prop where
  decodes : decodePolicy record.payload = .ok policy
  seen_le : ∀ g ∈ seen, g.policy.generation.value ≤ policy.generation.value
  seen_digest : ∀ g ∈ seen, g.policy.generation = policy.generation →
    policyDigest g.policy = policyDigest policy
  live_le : ∀ g ∈ live, g.policyRecordGeneration ≤ record.generation
  live_eq : ∀ g ∈ live, g.policyRecordGeneration = record.generation →
    g.policy.generation = policy.generation

/-- What holds between the records of a directory, its live governors and all that were seen. -/
structure PolicyKept (directory : String) (seen : Set Governor) (live : List Governor)
    (records : Records) (dir : Directory) : Prop where
  settled : Settled { directory := directory } records dir
  attached : ∀ g ∈ live, Attached directory g
  live_seen : ∀ g ∈ live, g ∈ seen
  valid : ∀ g ∈ seen, validatePolicy g.policy = .ok ()
  none : records .policy = none → ∀ g, g ∉ seen
  head : ∀ record, records .policy = some record → ∃ policy, PolicyHead seen live record policy
  agree : ∀ g ∈ seen, ∀ g' ∈ seen, g.policy.generation = g'.policy.generation →
    policyDigest g.policy = policyDigest g'.policy

variable {directory : String} {seen : Set Governor} {live live' : List Governor}
  {records records' : Records} {dir dir' : Directory} {g g' : Governor}
  {record : DecodedRecord} {policy : FairnessPolicy}

/-- Fewer governors. -/
lemma PolicyKept.mono (h : PolicyKept directory seen live records dir) {seen' : Set Governor}
    (hseen : seen' ⊆ seen) (hlive : ∀ g ∈ live', g ∈ live) (hsub : ∀ g ∈ live', g ∈ seen') :
    PolicyKept directory seen' live' records dir := by
  refine ⟨h.settled, fun g hg => h.attached g (hlive g hg), hsub, fun g hg => h.valid g (hseen hg),
    fun hnone g hg => h.none hnone g (hseen hg), fun record hrecord => ?_,
    fun g hg g' hg' => h.agree g (hseen hg) g' (hseen hg')⟩
  obtain ⟨policy, hhead⟩ := h.head record hrecord
  exact ⟨policy, hhead.decodes, fun g hg => hhead.seen_le g (hseen hg),
    fun g hg => hhead.seen_digest g (hseen hg), fun g hg => hhead.live_le g (hlive g hg),
    fun g hg => hhead.live_eq g (hlive g hg)⟩

/-- The policy record stays. -/
lemma PolicyKept.keep (h : PolicyKept directory seen live records dir)
    (hpolicy : records' .policy = records .policy)
    (hsettled : Settled { directory := directory } records' dir') :
    PolicyKept directory seen live records' dir' := by
  refine ⟨hsettled, h.attached, h.live_seen, h.valid, ?_, ?_, h.agree⟩
  · rw [hpolicy]
    exact h.none
  · rw [hpolicy]
    exact h.head

/-- A committed policy is read back. -/
lemma decodePolicy_replaces {v : Option DecodedRecord} {expected next : UInt64}
    (h : Replaces v expected next (encodePolicy policy) record)
    (hvalid : validatePolicy policy = .ok ()) : decodePolicy record.payload = .ok policy := by
  rw [h.payload_eq]
  exact decodePolicy_encodePolicy hvalid h.size

/-- A newer policy becomes durable; nobody serves it yet. -/
lemma PolicyKept.replace (h : PolicyKept directory seen live records dir)
    (hvalid : validatePolicy policy = .ok ()) {expected next : UInt64}
    (hreplaces : Replaces (records .policy) expected next (encodePolicy policy) record)
    (hnewer : ∀ old durable, records .policy = some old → decodePolicy old.payload = .ok durable →
      durable.generation.value < policy.generation.value)
    (hpolicy : records' .policy = some record)
    (hsettled : Settled { directory := directory } records' dir') :
    PolicyKept directory seen live records' dir' ∧ PolicyHead seen live record policy := by
  have hdecodes := decodePolicy_replaces hreplaces hvalid
  -- everyone is behind the new record
  have hbehind : ∀ g ∈ seen, g.policy.generation.value < policy.generation.value := by
    intro g hg
    cases hv : records .policy with
    | none => exact absurd hg (h.none hv g)
    | some old =>
      obtain ⟨durable, hhead⟩ := h.head old hv
      exact UInt64.lt_of_le_of_lt (hhead.seen_le g hg) (hnewer old durable hv hhead.decodes)
  have hbefore : ∀ g ∈ live, g.policyRecordGeneration < record.generation := by
    intro g hg
    cases hv : records .policy with
    | none => exact absurd (h.live_seen g hg) (h.none hv g)
    | some old =>
      obtain ⟨durable, hhead⟩ := h.head old hv
      have hexpected := hreplaces.expected
      rw [hv] at hexpected
      have hle : g.policyRecordGeneration ≤ expected := hexpected ▸ hhead.live_le g hg
      rw [hreplaces.generation]
      exact UInt64.lt_of_le_of_lt hle hreplaces.advances
  have hhead : PolicyHead seen live record policy := by
    refine ⟨hdecodes, fun g hg => UInt64.le_of_lt (hbehind g hg), fun g hg heq => ?_,
      fun g hg => UInt64.le_of_lt (hbefore g hg), fun g hg heq => ?_⟩
    · exact absurd (congrArg Generation.value heq) (UInt64.ne_of_lt (hbehind g hg))
    · exact absurd heq (UInt64.ne_of_lt (hbefore g hg))
  refine ⟨⟨hsettled, h.attached, h.live_seen, h.valid, fun hnone => ?_, fun again hagain => ?_,
    h.agree⟩, hhead⟩
  · rw [hpolicy] at hnone
    cases hnone
  · obtain rfl := Option.some.inj (hpolicy.symm.trans hagain)
    exact ⟨policy, hhead⟩

section Join

variable (hserves : (∃ g ∈ seen, g'.policy = g.policy) ∨
    g'.policy.generation = policy.generation ∧ policyDigest g'.policy = policyDigest policy)
  (hlive : ∀ g ∈ live', g = g' ∨ g ∈ live)

include hserves hlive

/-- Beside the durable policy there is room for whoever serves it, or what was served before. -/
lemma PolicyHead.join (hhead : PolicyHead seen live record policy)
    (hle : g'.policyRecordGeneration ≤ record.generation)
    (heq : g'.policyRecordGeneration = record.generation →
      g'.policy.generation = policy.generation) :
    PolicyHead (insert g' seen) live' record policy := by
  refine ⟨hhead.decodes, ?_, ?_, ?_, ?_⟩
  · refine Set.forall_mem_insert.mpr ⟨?_, hhead.seen_le⟩
    rcases hserves with ⟨g, hg, heq⟩ | ⟨hgeneration, -⟩
    · rw [heq]
      exact hhead.seen_le g hg
    · rw [hgeneration]
      exact UInt64.le_refl _
  · refine Set.forall_mem_insert.mpr ⟨fun hsame => ?_, hhead.seen_digest⟩
    rcases hserves with ⟨g, hg, heq⟩ | ⟨-, hdigest⟩
    · rw [heq] at hsame ⊢
      exact hhead.seen_digest g hg hsame
    · exact hdigest
  · intro x hx
    rcases hlive x hx with rfl | hx
    · exact hle
    · exact hhead.live_le x hx
  · intro x hx
    rcases hlive x hx with rfl | hx
    · exact heq
    · exact hhead.live_eq x hx

/-- Another governor serves the durable policy, or what was served before. -/
lemma PolicyKept.join (h : PolicyKept directory seen live records dir)
    (hrecord : records .policy = some record) (hhead : PolicyHead seen live record policy)
    (hattached : Attached directory g') (hvalid : validatePolicy g'.policy = .ok ())
    (hle : g'.policyRecordGeneration ≤ record.generation)
    (heq : g'.policyRecordGeneration = record.generation →
      g'.policy.generation = policy.generation) :
    PolicyKept directory (insert g' seen) live' records dir := by
  -- policies of one generation were the same policy, and so is the one that joins
  have hdigest : ∀ x ∈ seen, x.policy.generation = g'.policy.generation →
      policyDigest x.policy = policyDigest g'.policy := by
    intro x hx hsame
    rcases hserves with ⟨g, hg, heq⟩ | ⟨hgeneration, hdigest⟩
    · rw [heq] at hsame ⊢
      exact h.agree x hx g hg hsame
    · rw [hdigest]
      exact hhead.seen_digest x hx (hsame.trans hgeneration)
  refine ⟨h.settled, ?_, ?_, Set.forall_mem_insert.mpr ⟨hvalid, h.valid⟩, fun hnone => ?_,
    fun again hagain => ?_, ?_⟩
  · intro x hx
    rcases hlive x hx with rfl | hx
    · exact hattached
    · exact h.attached x hx
  · intro x hx
    rcases hlive x hx with rfl | hx
    · exact Set.mem_insert _ _
    · exact Set.mem_insert_of_mem _ (h.live_seen x hx)
  · rw [hrecord] at hnone
    cases hnone
  · obtain rfl := Option.some.inj (hrecord.symm.trans hagain)
    exact ⟨policy, hhead.join hserves hlive hle heq⟩
  · rintro x (rfl | hx) y (rfl | hy) hsame
    · rfl
    · exact (hdigest y hy hsame.symm).symm
    · exact hdigest x hx hsame
    · exact h.agree x hx y hy hsame

end Join

/-! ## Steps -/

/-- The durable policy does not go back. -/
def Forward (records records' : Records) : Prop :=
  ∀ record policy, records .policy = some record → decodePolicy record.payload = .ok policy →
    ∃ record' policy', records' .policy = some record' ∧
      decodePolicy record'.payload = .ok policy' ∧
      policy.generation.value ≤ policy'.generation.value

lemma Forward.same (h : records' .policy = records .policy) : Forward records records' :=
  fun record policy hrecord hdecodes =>
    ⟨record, policy, h.trans hrecord, hdecodes, UInt64.le_refl _⟩

/-- What an operation makes of the policy, with the state after it beside the others. -/
lemma PolicyKept.moves (h : PolicyKept directory seen live records dir) (hg : g ∈ live)
    (hmoves : Moves g records g' records')
    (hsettled : Settled { directory := directory } records' dir')
    (hlive : ∀ x ∈ live', x = g' ∨ x ∈ live) :
    PolicyKept directory (insert g' seen) live' records' dir' ∧ Forward records records' := by
  have hseen := h.live_seen g hg
  have hattached := hmoves.attached directory (h.attached g hg)
  obtain ⟨record, hrecord⟩ : ∃ record, records .policy = some record := by
    cases hv : records .policy with
    | none => exact absurd hseen (h.none hv g)
    | some record => exact ⟨record, rfl⟩
  obtain ⟨policy, hhead⟩ := h.head record hrecord
  -- a governor that replaces the record knows the policy in it
  have hnewer : ∀ {next : FairnessPolicy} {record' : DecodedRecord}, Installable g next →
      g.CommitsPolicy next (records .policy) record' → ∀ old durable, records .policy = some old →
      decodePolicy old.payload = .ok durable →
      durable.generation.value < next.generation.value := by
    intro next record' hp hcommits old durable hold hdecodes
    obtain rfl := Option.some.inj (hrecord.symm.trans hold)
    obtain rfl := Except.ok.inj (hhead.decodes.symm.trans hdecodes)
    have hexpected := hcommits.expected
    rw [hrecord] at hexpected
    rw [← hhead.live_eq g hg hexpected.symm]
    exact hp.generation
  have hforward : ∀ {next : FairnessPolicy} {record' : DecodedRecord}, Installable g next →
      g.CommitsPolicy next (records .policy) record' → records' .policy = some record' →
      decodePolicy record'.payload = .ok next → Forward records records' := by
    intro next record' hp hcommits hpolicy hdecodes old durable hold hdurable
    exact ⟨record', next, hpolicy, hdecodes,
      UInt64.le_of_lt (hnewer hp hcommits old durable hold hdurable)⟩
  have hpolicy := hmoves.policy
  generalize hv : records' .policy = v at hpolicy
  cases hpolicy with
  | kept hsame hgeneration =>
    refine ⟨(h.keep hv hsettled).join (.inl ⟨g, hseen, hsame⟩) hlive (hv.trans hrecord) hhead
      hattached ?_ ?_ ?_, .same hv⟩
    · rw [hsame]
      exact h.valid g hseen
    · rw [hgeneration]
      exact hhead.live_le g hg
    · rw [hgeneration, hsame]
      exact hhead.live_eq g hg
  | unserved hp hcommits hsame hgeneration =>
    obtain ⟨hkept, hhead'⟩ := h.replace hp.valid hcommits (hnewer hp hcommits) hv hsettled
    refine ⟨hkept.join (.inl ⟨g, hseen, hsame⟩) hlive hv hhead' hattached ?_ ?_ ?_,
      hforward hp hcommits hv hhead'.decodes⟩
    · rw [hsame]
      exact h.valid g hseen
    · rw [hgeneration]
      exact hhead'.live_le g hg
    · rw [hgeneration, hsame]
      exact hhead'.live_eq g hg
  | installed hp hcommits hserved hepoch hgeneration =>
    obtain ⟨hkept, hhead'⟩ := h.replace hp.valid hcommits (hnewer hp hcommits) hv hsettled
    refine ⟨hkept.join (.inr ⟨?_, ?_⟩) hlive hv hhead' hattached ?_ ?_ (fun _ => ?_),
      hforward hp hcommits hv hhead'.decodes⟩
    · rw [hserved]
    · rw [hserved]
    · rw [hserved]
      exact hp.valid
    · rw [hgeneration]
      exact UInt64.le_refl _
    · rw [hserved]

/-- A committed configured policy is newer than the durable one it replaces. -/
lemma CommitsConfigured.newer_than {config : GovernorConfig} {v : Option DecodedRecord}
    {old : DecodedRecord} {durable : FairnessPolicy} (h : CommitsConfigured config v record)
    (hold : v = some old) (hdecodes : decodePolicy old.payload = .ok durable) :
    durable.generation.value < config.policy.generation.value := by
  obtain ⟨durable', hdecodes', hlt⟩ := h.newer old hold
  obtain rfl := Except.ok.inj (hdecodes.symm.trans hdecodes')
  exact hlt

/-- What an opening that has not succeeded makes of the policy. -/
lemma PolicyKept.tried {config : GovernorConfig}
    (h : PolicyKept directory seen live records dir)
    (hleaves : OpeningLeaves { directory := directory } config records dir') :
    ∃ records', PolicyKept directory seen live records' dir' ∧ Forward records records' := by
  obtain ⟨records', rfl | ⟨record, hcommits, rfl⟩, hsettled⟩ := hleaves
  · exact ⟨_, h.keep rfl hsettled, .same rfl⟩
  · obtain ⟨hkept, hhead⟩ := h.replace hcommits.valid hcommits.replaces
      (fun _ _ => hcommits.newer_than) rfl hsettled
    refine ⟨_, hkept, fun old durable hold hdurable => ?_⟩
    exact ⟨record, config.policy, rfl, hhead.decodes,
      UInt64.le_of_lt (hcommits.newer_than hold hdurable)⟩

/-- What an opening makes of the policy: the governor serves the durable one. -/
lemma PolicyKept.opens {config : GovernorConfig}
    (h : PolicyKept directory seen live records dir)
    (hopens : OpensWith config { directory := directory } records g records')
    (hvalid : validatePolicy g.policy = .ok ())
    (hsettled : Settled { directory := directory } records' dir') :
    PolicyKept directory (insert g seen) (g :: live) records' dir' ∧ Forward records records' ∧
      ∀ x ∈ seen, x.policy.generation.value ≤ g.policy.generation.value := by
  have hattached : Attached directory g := .inl hopens.store
  have hlive : ∀ x ∈ g :: live, x = g ∨ x ∈ live := fun _ hx => List.mem_cons.mp hx
  have hpolicy := hopens.policy
  generalize hv : records' .policy = v at hpolicy
  -- the opening adopts the record, finds its own policy in it, or replaces it
  cases hpolicy with
  | @newer record durable hrecord hdecodes hnewer hserved hgeneration =>
    obtain ⟨policy, hhead⟩ := h.head record hrecord
    obtain rfl := Except.ok.inj (hhead.decodes.symm.trans hdecodes)
    refine ⟨(h.keep hv hsettled).join (.inr ⟨?_, ?_⟩) hlive (hv.trans hrecord) hhead hattached
      hvalid (UInt64.le_of_eq hgeneration) (fun _ => ?_), .same hv, ?_⟩
    · rw [hserved]
    · rw [hserved]
    · rw [hserved]
    · rw [hserved]
      exact hhead.seen_le
  | @same record durable hrecord hdecodes hsame hdigest hserved hgeneration =>
    obtain ⟨policy, hhead⟩ := h.head record hrecord
    obtain rfl := Except.ok.inj (hhead.decodes.symm.trans hdecodes)
    refine ⟨(h.keep hv hsettled).join (.inr ⟨?_, ?_⟩) hlive (hv.trans hrecord) hhead hattached
      hvalid (UInt64.le_of_eq hgeneration) (fun _ => ?_), .same hv, ?_⟩
    · rw [hserved, hsame]
    · rw [hserved, hdigest]
    · rw [hserved, hsame]
    · rw [hserved, ← hsame]
      exact hhead.seen_le
  | @committed record hcommits hserved hgeneration =>
    obtain ⟨hkept, hhead⟩ := h.replace hcommits.valid hcommits.replaces
      (fun _ _ => hcommits.newer_than) hv hsettled
    refine ⟨hkept.join (.inr ⟨?_, ?_⟩) hlive hv hhead hattached hvalid (UInt64.le_of_eq hgeneration)
      (fun _ => ?_), fun old durable hold hdurable => ?_, ?_⟩
    · rw [hserved]
    · rw [hserved]
    · rw [hserved]
    · exact ⟨record, config.policy, hv, hhead.decodes,
        UInt64.le_of_lt (hcommits.newer_than hold hdurable)⟩
    · rw [hserved]
      exact hhead.seen_le

/-- Every step on a directory keeps the invariant. -/
theorem SiteStep.policyKept {site site' : Site} {event : SiteEvent}
    (hstep : SiteStep directory site event site')
    (h : PolicyKept directory seen site.live records site.dir) :
    ∃ records', PolicyKept directory (seen ∪ {g | g ∈ site'.live}) site'.live records' site'.dir ∧
      Forward records records' ∧ ∀ config boot g, event = .opened config boot (.ok g) →
        ∀ x ∈ seen, x.policy.generation.value ≤ g.policy.generation.value := by
  cases hstep with
  | @opened dir dir' live config boot result hpath hne hends =>
    subst hpath
    obtain ⟨hok, hleaves⟩ := hends.opensWith h.settled
    cases result with
    | error e =>
      obtain ⟨records', hkept, hforward⟩ := h.tried hleaves
      refine ⟨records', hkept.mono ?_ (fun _ hx => hx) fun g hg => .inr hg, hforward,
        fun _ _ _ heq => by cases heq⟩
      exact Set.union_subset (fun _ hx => hx) hkept.live_seen
    | ok g =>
      obtain ⟨-, records', hopens, hsettled⟩ := hok g rfl
      have hvalid := (hends.opens hne).booted.1.policy_valid
      obtain ⟨hkept, hforward, hle⟩ := h.opens hopens hvalid hsettled
      refine ⟨records', hkept.mono ?_ (fun _ hx => hx) fun g hg => .inr hg, hforward, ?_⟩
      · exact Set.union_subset (Set.subset_insert _ _) hkept.live_seen
      · rintro _ _ _ heq
        cases heq
        exact hle
  | @openingCrashed dir dir' live config boot hpath hne hcrash =>
    subst hpath
    obtain ⟨records', hkept, hforward⟩ := h.tried (hcrash.leaves h.settled)
    refine ⟨records', hkept.mono ?_ (fun _ hx => hx) fun g hg => .inr hg, hforward,
      fun _ _ _ heq => by cases heq⟩
    exact Set.union_subset (fun _ hx => hx) hkept.live_seen
  | @operated dir dir' before after g g' operation e hends =>
    have hg : g ∈ before ++ g :: after := by simp
    obtain ⟨records', hmoves, hsettled⟩ :=
      (operation_leaves (h.attached g hg) h.settled operation).1 _ _ _ hends
    have hlive : ∀ x ∈ before ++ g' :: after, x = g' ∨ x ∈ before ++ g :: after := by
      intro x hx
      simp only [List.mem_append, List.mem_cons] at hx ⊢
      tauto
    obtain ⟨hkept, hforward⟩ := h.moves hg hmoves hsettled hlive
    refine ⟨records', hkept.mono ?_ (fun _ hx => hx) fun g hg => .inr hg, hforward,
      fun _ _ _ heq => by cases heq⟩
    exact Set.union_subset (Set.subset_insert _ _) hkept.live_seen
  | @crashed dir dir' before after g operation hcrash =>
    have hg : g ∈ before ++ g :: after := by simp
    -- what the interrupted operation would have left is kept, so it is kept without the governor
    obtain ⟨g', records', hmoves, hsettled⟩ :=
      (operation_leaves (h.attached g hg) h.settled operation).2 _ hcrash
    have hsub : ∀ x ∈ before ++ after, x ∈ before ++ g :: after := by
      intro x hx
      simp only [List.mem_append, List.mem_cons] at hx ⊢
      tauto
    obtain ⟨hkept, hforward⟩ := h.moves hg hmoves hsettled fun x hx => .inr (hsub x hx)
    refine ⟨records', hkept.mono ?_ (fun _ hx => hx) fun g hg => .inr hg, hforward,
      fun _ _ _ heq => by cases heq⟩
    exact Set.union_subset (Set.subset_insert _ _) hkept.live_seen

/-! ## Runs -/

lemma seenIn_snoc (trace : List (Site × SiteEvent)) (t : Site) (event : SiteEvent) (site : Site) :
    seenIn (trace ++ [(t, event)]) site = seenIn trace t ∪ {g | g ∈ site.live} := by
  ext g
  simp only [seenIn, List.mem_append, List.mem_singleton, Prod.mk.injEq, Set.mem_ofPred_eq,
    Set.mem_union]
  constructor
  · rintro (hg | ⟨s, e, hmem | ⟨rfl, rfl⟩, hg⟩)
    · exact .inr hg
    · exact .inl (.inr ⟨s, e, hmem, hg⟩)
    · exact .inl (.inl hg)
  · rintro ((hg | ⟨s, e, hmem, hg⟩) | hg)
    · exact .inr ⟨t, event, .inr ⟨rfl, rfl⟩, hg⟩
    · exact .inr ⟨s, e, .inl hmem, hg⟩
    · exact .inl hg

variable {start site : Site} {trace : List (Site × SiteEvent)}

/-- In every run on a fresh directory the invariant holds of all that were seen. -/
lemma run_policyKept (hfresh : Fresh directory start)
    (hrun : Run (SiteStep directory) start trace site) :
    ∃ records, PolicyKept directory (seenIn trace site) site.live records site.dir := by
  induction hrun with
  | nil =>
    have hnone : ∀ g, g ∉ seenIn [] start := by
      rintro g (hg | ⟨_, _, hmem, -⟩)
      · rw [hfresh.live] at hg
        cases hg
      · cases hmem
    refine ⟨fun _ => none, hfresh.settled, fun g hg => ?_, fun g hg => .inl hg,
      fun g hg => absurd hg (hnone g), fun _ => hnone, fun _ h => (by cases h),
      fun g hg => absurd hg (hnone g)⟩
    rw [hfresh.live] at hg
    cases hg
  | snoc _ hstep ih =>
    obtain ⟨records, hkept⟩ := ih
    obtain ⟨records', hkept', -⟩ := hstep.policyKept hkept
    rw [seenIn_snoc]
    exact ⟨records', hkept'⟩

lemma Forward.trans {records'' : Records} (h : Forward records records')
    (h' : Forward records' records'') : Forward records records'' := by
  intro record policy hrecord hdecodes
  obtain ⟨record', policy', hrecord', hdecodes', hle⟩ := h record policy hrecord hdecodes
  obtain ⟨record'', policy'', hrecord'', hdecodes'', hle'⟩ := h' record' policy' hrecord' hdecodes'
  exact ⟨record'', policy'', hrecord'', hdecodes'', UInt64.le_trans hle hle'⟩

/-- From any state with the invariant the durable policy goes forward only. -/
lemma run_forward (h : PolicyKept directory seen start.live records start.dir)
    (hrun : Run (SiteStep directory) start trace site) :
    ∃ seen' records', PolicyKept directory seen' site.live records' site.dir ∧
      Forward records records' := by
  refine hrun.invariant (P := fun u => ∃ seen' records',
    PolicyKept directory seen' u.live records' u.dir ∧ Forward records records')
    ⟨seen, records, h, .same rfl⟩ ?_
  rintro t e u ⟨seen', records', hkept, hforward⟩ hstep
  obtain ⟨records'', hkept', hforward', -⟩ := hstep.policyKept hkept
  exact ⟨_, records'', hkept', hforward.trans hforward'⟩

/-- On every store directory, over every sequence of openings and operations, however they end: the
durable policy is not rolled back, and not replaced within its generation. -/
theorem policy_not_rolled_back (hfresh : Fresh directory start)
    (hrun : Run (SiteStep directory) start trace site) : NotRolledBack directory trace site := by
  obtain ⟨records, hkept⟩ := run_policyKept hfresh hrun
  refine ⟨?_, ?_, ?_, ?_⟩
  · rintro t e hmem policy ⟨record, hsettles, hdecodes⟩
    obtain ⟨before, after, t', -, hbefore, hstep, hafter⟩ := hrun.upTo hmem
    obtain ⟨records₀, hkept₀⟩ := run_policyKept hfresh hbefore
    obtain ⟨_, records', hkept', hforward⟩ := run_forward hkept₀ (hafter.cons hstep)
    obtain ⟨record', policy', hrecord', hdecodes', hle⟩ :=
      hforward record policy ((hkept₀.settled .policy).unique hsettles) hdecodes
    exact ⟨policy', ⟨record', hrecord' ▸ hkept'.settled .policy, hdecodes'⟩, hle⟩
  · rintro before t config boot g after rfl
    obtain ⟨t', hbefore, hstep, -⟩ := hrun.split
    obtain ⟨records₀, hkept₀⟩ := run_policyKept hfresh hbefore
    obtain ⟨_, -, -, hle⟩ := hstep.policyKept hkept₀
    rintro _ ⟨x, hx, rfl⟩
    exact hle config boot g rfl x hx
  · rintro _ ⟨g, hg, rfl⟩
    exact hkept.valid g hg
  · rintro hinj _ ⟨g, hg, rfl⟩ _ ⟨g', hg', rfl⟩ hsame
    exact hinj ⟨g, hg, rfl⟩ ⟨g', hg', rfl⟩ (hkept.agree g hg g' hg' hsame)

/-- A directory is opened by a second governor with a newer policy while the first is still
live. -/
theorem policy_not_rolled_back_reopened :
    let first := firstOpening pairPolicy
    let newer := storeConfig { pairPolicy with generation := ⟨2⟩ }
    let second := run handle (Governor.open newer ⟨8⟩).run first.2
    first.1.isOk = true ∧ second.1.isOk = true ∧
      NotRolledBack "store"
        [(⟨fun _ => none, []⟩, .opened (storeConfig pairPolicy) ⟨7⟩ first.1),
          (⟨first.2, first.1.toOption.toList⟩, .opened newer ⟨8⟩ second.1)]
        ⟨second.2, second.1.toOption.toList ++ first.1.toOption.toList⟩ := by
  intro first newer second
  have hfirst : first.1.isOk = true := by decide +kernel
  have hsecond : second.1.isOk = true := by decide +kernel
  have hrun := @openings_run (storeConfig pairPolicy) "store" newer rfl rfl (by decide) ⟨7⟩ ⟨8⟩
    fun _ => none
  exact ⟨hfirst, hsecond, policy_not_rolled_back ⟨fun _ _ => rfl, rfl⟩ hrun⟩

end FairnessGovernor
