/-
# The previewed effect is the committed effect

The engine projects the carry and the streaks of every subject; `commit` computes and applies
them again.  Where the counters have room and the store takes the record, what is committed is
what was projected, and nothing else moves.
-/
import FairnessGovernor.Governor.Preview

namespace FairnessGovernor

open Program Runs

variable {g g' : Governor} {request : EvaluationRequest} {decision : FairnessDecision}

/-! ## The effect -/

/-- The counters that a commit of the decision advances have room. -/
structure HasRoom (g : Governor) (decision : FairnessDecision) : Prop where
  generation : g.accounting.generation.toNat + 1 ≤ kUInt64Max
  entries : ∀ state ∈ decision.subjects, state.hasAuthority = true →
    CountersFit (entryFor g.accounting.subjects state) state

/-- The store takes the accounting after the decision. -/
def StoreTakes {σ : Type} (fs : (op : FileOp) → σ → op.Resp × σ) (w : σ) (g : Governor)
    (decision : FairnessDecision) : Prop :=
  ∀ accounting, g.applyDecision decision = .ok accounting → ∃ durable,
    (run fs { g with accounting := accounting }.commitAccounting.run w).1 = .ok durable

/-- The entry is the one that the record of the subject previews. -/
structure EffectedEntry (before : SubjectAccounting) (state : SubjectFairnessState)
    (after : SubjectAccounting) : Prop where
  deficit : after.cumulativeDeficit.toNat = state.cumulativeDeficitAfter
  surplus : after.cumulativeSurplus.toNat = state.cumulativeSurplusAfter
  unservedStreak : after.unservedStreak = state.unservedStreak
  belowFloorStreak : after.belowFloorStreak = state.belowFloorStreak
  windows : after.windowsObserved.toNat = before.windowsObserved.toNat + 1
  total : after.totalServedUnits.toNat = before.totalServedUnits.toNat + state.servedUnits

/-- The generation is the highest of the intents'; without intents it stays. -/
structure HighestGeneration (intents : List CorrectiveIntent) (before after : InterventionGeneration) :
    Prop where
  none : intents = [] → after = before
  some : intents ≠ [] → ∃ intent ∈ intents, after = intent.generation
  highest : ∀ intent ∈ intents, intent.generation.value ≤ after.value

/-- The decision has taken effect as it was previewed, and on nothing else. -/
structure Effected (g : Governor) (decision : FairnessDecision) (g' : Governor) : Prop where
  subjects : ∀ state ∈ decision.subjects, state.hasAuthority = true →
    ∃ after, g'.accounting.find state.id = some after ∧
      EffectedEntry (entryFor g.accounting.subjects state) state after
  others : ∀ id, (∀ state ∈ decision.subjects, state.hasAuthority = true → state.id ≠ id) →
    g'.accounting.find id = g.accounting.find id
  generation : g'.accounting.generation.toNat = g.accounting.generation.toNat + 1
  lastWindow : g'.accounting.lastWindow = decision.authority.window
  interventionGeneration : HighestGeneration decision.intents
    g.accounting.interventionGeneration g'.accounting.interventionGeneration

/-! ## The generation of the intents -/

lemma highestIntervention_cases (intents : List CorrectiveIntent)
    (start : InterventionGeneration) :
    start.value ≤ (highestIntervention intents start).value ∧
    (∀ intent ∈ intents, intent.generation.value ≤ (highestIntervention intents start).value) ∧
    (highestIntervention intents start = start ∨
      ∃ intent ∈ intents, highestIntervention intents start = intent.generation) := by
  induction intents generalizing start with
  | nil => exact ⟨UInt64.le_refl _, by simp, .inl rfl⟩
  | cons intent rest ih =>
    have hstep : highestIntervention (intent :: rest) start = highestIntervention rest
        (if intent.generation.value > start.value then intent.generation else start) := rfl
    rw [hstep]
    -- The loop goes on from the larger of the two.
    split_ifs with hhigher
    · obtain ⟨hstart, hall, hcases⟩ := ih intent.generation
      refine ⟨UInt64.le_trans (UInt64.le_of_lt hhigher) hstart, ?_, ?_⟩
      · rintro i (_ | ⟨_, hi⟩)
        · exact hstart
        · exact hall i hi
      · rcases hcases with heq | ⟨i, hi, heq⟩
        · exact .inr ⟨intent, List.mem_cons_self, heq⟩
        · exact .inr ⟨i, List.mem_cons_of_mem _ hi, heq⟩
    · obtain ⟨hstart, hall, hcases⟩ := ih start
      refine ⟨hstart, ?_, ?_⟩
      · rintro i (_ | ⟨_, hi⟩)
        · exact UInt64.le_trans (UInt64.not_lt.mp hhigher) hstart
        · exact hall i hi
      · rcases hcases with heq | ⟨i, hi, heq⟩
        · exact .inl heq
        · exact .inr ⟨i, List.mem_cons_of_mem _ hi, heq⟩

/-- Intents that are issued from a generation on, and the highest generation after them. -/
lemma highestIntervention_highest {intents : List CorrectiveIntent}
    {start : InterventionGeneration}
    (h : ∀ intent ∈ intents, start.value ≤ intent.generation.value) :
    HighestGeneration intents start (highestIntervention intents start) := by
  obtain ⟨-, hall, hcases⟩ := highestIntervention_cases intents start
  refine ⟨?_, fun hne => ?_, hall⟩
  · rintro rfl
    rfl
  · rcases hcases with heq | hsome
    · obtain ⟨intent, hintent⟩ := List.exists_mem_of_ne_nil intents hne
      refine ⟨intent, hintent, ?_⟩
      have hle := hall intent hintent
      rw [heq] at hle ⊢
      exact Generation.ext (UInt64.le_antisymm (h intent hintent) hle)
    · exact hsome

lemma Evaluated.intent_generation {context : EvaluationContext} {policy : FairnessPolicy}
    {accounting : FairnessAccounting} {planned : Planned policy}
    {states : SubjectIndex policy → SubjectFairnessState}
    (hd : Evaluated context policy accounting planned states decision) :
    ∀ intent ∈ decision.intents,
      accounting.interventionGeneration.value ≤ intent.generation.value := by
  intro intent hintent
  obtain ⟨augments, reduces, hintents, haugments, hreduces⟩ := hd.issued
  rw [hintents, List.mem_append] at hintent
  rcases hintent with hintent | hintent
  · obtain ⟨_, -, generation, hle, rfl⟩ := haugments.mem hintent
    exact hle
  · obtain ⟨_, -, generation, hle, rfl⟩ := hreduces.mem hintent
    exact hle

/-! ## The commit -/

/-- With evidence authority the window of a request is one that a commit takes. -/
lemma evaluate_committable (hg : Sound g) (h : g.evaluate request = .ok decision)
    (hauth : decision.correction.authorityMissing = false) : Committable g request := by
  obtain ⟨-, evaluated, heval, rfl⟩ := Governor.evaluate_eq_ok h
  obtain ⟨tree, eligible, whole, numbered, planned, states, hs, hd, -⟩ :=
    evaluateFairness_stages rfl rfl heval
  have hmissing : planned.correction.authorityMissing = false := hd.correction ▸ hauth
  rw [hs.missing] at hmissing
  cases eligible with
  | error failure => cases hmissing
  | ok snapshot =>
    have heligible := Eligible.of_ok hs.eligible_eq
    have hvalid := ValidEvidence.of_ok (hg.staged _ _ heligible.staged).valid
    have hwindow : request.window.valid := heligible.window ▸ hvalid.window_valid
    exact ⟨hwindow, heligible.windowGeneration ▸ hvalid.windowGeneration_valid,
      fun hlast => heligible.window_fresh hlast hwindow⟩

/-- What an entry is after a window, in the words of its record. -/
lemma effectedEntry {policy : FairnessPolicy} {entries : List SubjectAccounting}
    {state : SubjectFairnessState} {updated after : SubjectAccounting}
    (hprojected : Projected policy entries state)
    (hupdated : applyState policy.maxCarryUnits.toNat state (entryFor entries state) = .ok updated)
    (hsame : SameEntry updated after) : EffectedEntry (entryFor entries state) state after := by
  obtain ⟨_, _, rfl⟩ := hsame
  obtain ⟨carry, hcarry, hfit, rfl⟩ := applyState_eq_ok.mp hupdated
  obtain ⟨projected, hproject, hdeficit, hsurplus⟩ := hprojected.carry
  obtain rfl := Option.some.inj (hcarry.symm.trans hproject)
  obtain ⟨-, -, -, -, hd, hs, -, -⟩ := applyWindowCarry_eq_some hcarry
  exact ⟨(toNat_ofNat_of_le hd).trans hdeficit.symm, (toNat_ofNat_of_le hs).trans hsurplus.symm,
    rfl, rfl, toNat_ofNat_of_le hfit.windows, toNat_ofNat_of_le hfit.total⟩

/-- The accounting after a governor's own decision. -/
lemma Applied.effected {accounting : FairnessAccounting} {generation : UInt64} (hg : Sound g)
    (h : g.evaluate request = .ok decision) (happlied : Applied g decision accounting) :
    Effected g decision
      { g with accounting := accounting, accountingRecordGeneration := generation } := by
  have hprojected := fun state => @evaluate_projected g request decision hg h state
  obtain ⟨-, evaluated, heval, rfl⟩ := Governor.evaluate_eq_ok h
  obtain ⟨tree, eligible, whole, numbered, planned, states, hs, hd, -⟩ :=
    evaluateFairness_stages rfl rfl heval
  have hp := ValidPolicy.of_ok hg.policy_valid
  have hnodup : ((evaluated.signed g.incarnation).subjects.map (·.id)).Nodup := hd.nodup hp
  have hdominates : AbsenceDominates evaluated :=
    @absenceDominates (g.context request) g.policy evaluated rfl hp heval
  refine ⟨fun state hstate hauth => ?_, fun id hid => ?_, happlied.generation, happlied.lastWindow,
    ?_⟩
  · obtain ⟨updated, after, hupdated, hsame, hfound⟩ := happlied.entry hnodup hstate hauth
    exact ⟨after, hfound, effectedEntry (hprojected state hstate hauth) hupdated hsame⟩
  · refine happlied.untouched hid fun intent hintent hname => ?_
    -- an intent names a subject with authority
    obtain ⟨j, hj, -⟩ := hd.named hintent
    have hstate : states j ∈ evaluated.subjects := hd.mem_iff.mpr ⟨j, rfl⟩
    cases hauth : (states j).hasAuthority with
    | true => exact hid _ hstate hauth ((hd.reported j).id.trans (hj.symm.trans hname))
    | false => exact hdominates.unnamed _ hstate hauth intent hintent (hj.trans (hd.reported j).id.symm)
  · show HighestGeneration evaluated.intents _ accounting.interventionGeneration
    rw [happlied.interventionGeneration]
    exact highestIntervention_highest hd.intent_generation

/-- A governor can apply its own decision while its counters have room. -/
lemma applyDecision_ok (hg : Sound g) (h : g.evaluate request = .ok decision)
    (hroom : HasRoom g decision) : ∃ accounting, g.applyDecision decision = .ok accounting := by
  have hnodup : (decision.subjects.map (·.id)).Nodup := by
    obtain ⟨-, evaluated, heval, rfl⟩ := Governor.evaluate_eq_ok h
    obtain ⟨_, _, _, _, _, _, -, hd, -⟩ := evaluateFairness_stages rfl rfl heval
    exact hd.nodup (ValidPolicy.of_ok hg.policy_valid)
  obtain ⟨entries, hentries⟩ := foldlM_applySubject_ok hnodup fun state hstate hhas =>
    ⟨evaluate_projected hg h hstate hhas, hroom.entries state hstate hhas⟩
  unfold Governor.applyDecision
  rw [hentries, ok_bind, checkedAdd_of_le hroom.generation]
  exact ⟨_, rfl⟩

/-- In every reachable state, on every file system: a decision with evidence authority is committed
with the effect it previews. -/
theorem commit_effects_preview {σ : Type} (fs : (op : FileOp) → σ → op.Resp × σ) (w : σ)
    (hg : Reachable g) (h : g.evaluate request = .ok decision)
    (hauth : decision.correction.authorityMissing = false) (hroom : HasRoom g decision)
    (hstore : StoreTakes fs w g decision) :
    ∃ g', (run fs (g.commit decision) w).1 = (.ok (), g') ∧ Effected g decision g' := by
  have hs := hg.sound
  have hcheck := checkDecision_eq_ok.mpr
    ((evaluate_checked_iff hs h).mpr (evaluate_committable hs h hauth))
  obtain ⟨accounting, happly⟩ := applyDecision_ok hs h hroom
  obtain ⟨durable, hdurable⟩ := hstore accounting happly
  have hreturns : Returns { g with accounting := accounting }.commitAccounting.run
      (run fs { g with accounting := accounting }.commitAccounting.run w).1 := returns_run _ _
  rw [hdurable] at hreturns
  obtain ⟨generation, hgeneration⟩ := Governor.commitAccounting_returns hreturns
  refine ⟨durable, ?_, ?_⟩
  · unfold Governor.commit
    rw [hcheck, happly]
    dsimp only
    rw [run_bind, hdurable]
    rfl
  · rw [hgeneration]
    exact (applyDecision_eq_ok happly).effected hs h

lemma stagedGovernor_books : stagedGovernor.accounting.subjects = [] ∧
    stagedGovernor.accounting.generation = 0 ∧ stagedGovernor.store = none := by
  unfold stagedGovernor
  rcases (memoryGovernor pairPolicy).ingestEvidence_cases pairSnapshot with heq | ⟨-, -, heq⟩
  · rw [heq]
    exact ⟨rfl, rfl, rfl⟩
  · rw [heq]
    exact ⟨rfl, rfl, rfl⟩

lemma firstDecision_hasRoom : HasRoom stagedGovernor firstDecision := by
  obtain ⟨hsubjects, hgeneration, -⟩ := stagedGovernor_books
  have hserved : firstDecision.subjects.all (fun state => state.servedUnits ≤ 10) = true := by
    decide +kernel
  refine ⟨?_, fun state hstate _ => ?_⟩
  · rw [hgeneration]
    decide
  · rw [hsubjects]
    have hwindows : (entryFor [] state).windowsObserved.toNat = 0 := rfl
    have htotal : (entryFor [] state).totalServedUnits.toNat = 0 := rfl
    have hle := of_decide_eq_true (List.all_eq_true.mp hserved state hstate)
    have hmax : kUInt64Max = 2 ^ 64 - 1 := rfl
    exact ⟨by omega, by omega⟩

theorem commit_effects_preview_first :
    (stagedGovernor.evaluate pairRequest = .ok firstDecision ∧
      HasRoom stagedGovernor firstDecision) ∧
    ∃ g', (run handle (stagedGovernor.commit firstDecision) fun _ => none).1 = (.ok (), g') ∧
      Effected stagedGovernor firstDecision g' := by
  have hreachable : Reachable stagedGovernor :=
    ⟨_, _, _, _, memoryGovernor_opens (by decide +kernel), Run.nil.snoc (.ingest _ _)⟩
  have hstore : StoreTakes handle (fun _ => none) stagedGovernor firstDecision := by
    intro accounting _
    unfold Governor.commitAccounting
    dsimp only
    rw [stagedGovernor_books.2.2]
    exact ⟨_, rfl⟩
  exact ⟨⟨firstDecision_evaluated, firstDecision_hasRoom⟩,
    commit_effects_preview handle _ hreachable firstDecision_evaluated (by decide +kernel)
      firstDecision_hasRoom hstore⟩

/-! ## A counter that is nearly full -/

/-- No counter and no generation is at its maximum. -/
structure BelowMaxima (g : Governor) : Prop where
  generations : ∀ value ∈ [g.accounting.generation, g.accounting.interventionGeneration.value,
    g.policy.generation.value, g.policyRecordGeneration, g.accountingRecordGeneration],
    value.toNat < kUInt64Max
  counters : ∀ entry ∈ g.accounting.subjects, ∀ value ∈ [entry.cumulativeDeficit,
    entry.cumulativeSurplus, entry.discardedDeficit, entry.discardedSurplus,
    entry.windowsObserved, entry.totalServedUnits], value.toNat < kUInt64Max

/-- A test on all elements, one by one. -/
lemma forall_mem_of_all {α : Type} {values : List α} {P : α → Prop} [DecidablePred P]
    (h : values.all (fun value => P value) = true) : ∀ value ∈ values, P value :=
  fun value hvalue => of_decide_eq_true (List.all_eq_true.mp h value hvalue)

/-- The maxima, tested one by one. -/
lemma BelowMaxima.of_all
    (hgenerations : [g.accounting.generation, g.accounting.interventionGeneration.value,
      g.policy.generation.value, g.policyRecordGeneration, g.accountingRecordGeneration].all
        (fun value => value.toNat < kUInt64Max) = true)
    (hcounters : g.accounting.subjects.all (fun entry => [entry.cumulativeDeficit,
      entry.cumulativeSurplus, entry.discardedDeficit, entry.discardedSurplus,
      entry.windowsObserved, entry.totalServedUnits].all fun value =>
        value.toNat < kUInt64Max) = true) : BelowMaxima g :=
  ⟨forall_mem_of_all hgenerations, fun entry hentry =>
    forall_mem_of_all (List.all_eq_true.mp hcounters entry hentry)⟩

/-- An accounting whose one entry has counted all units but one. -/
def brimmingAccounting : FairnessAccounting :=
  { policyId := ⟨1⟩
    policyGeneration := ⟨1⟩
    epoch := ⟨1⟩
    generation := 1
    writerBoot := ⟨1⟩
    subjects := [{ id := ⟨1⟩, generation := ⟨1⟩, totalServedUnits := 0xFFFFFFFFFFFFFFFE }] }

/-- The directory that holds its record. -/
def brimmingDirectory : Directory :=
  (run handle (DurableStore.commit ⟨"store", {}⟩ .accounting 0 1
    (encodeAccounting brimmingAccounting) (makeIncarnation ⟨1⟩)).run fun _ => none).2

/-- Opening on that directory. -/
def brimmingOpening : Except Status Governor × Directory :=
  run handle (Governor.open (storeConfig pairPolicy) ⟨7⟩).run brimmingDirectory

/-- The governor opened on it, with the first window staged. -/
def brimmingGovernor : Governor :=
  ((brimmingOpening.1.toOption.getD (memoryGovernor pairPolicy)).ingestEvidence pairSnapshot).2

/-- No counter is at its maximum and every write succeeds, and still the commit is refused: the
served units no longer fit. -/
theorem not_commit_effects_preview :
    Reachable brimmingGovernor ∧ BelowMaxima brimmingGovernor ∧
    ∃ decision, brimmingGovernor.evaluate pairRequest = .ok decision ∧
      decision.correction.authorityMissing = false ∧
      (run handle (brimmingGovernor.commit decision) brimmingOpening.2).1.1 ≠ .ok () := by
  have hopened : brimmingOpening.1.isOk = true := by decide +kernel
  have hreachable : Reachable brimmingGovernor := by
    have hreturns : Returns (Governor.open (storeConfig pairPolicy) ⟨7⟩).run brimmingOpening.1 :=
      returns_run _ _
    unfold brimmingGovernor
    cases hg : brimmingOpening.1 with
    | error status =>
      rw [hg] at hopened
      cases hopened
    | ok g =>
      rw [hg] at hreturns
      exact ⟨_, _, g, _, hreturns, Run.nil.snoc (.ingest _ _)⟩
  have hbelow : BelowMaxima brimmingGovernor :=
    .of_all (by decide +kernel) (by decide +kernel)
  have hrun : (brimmingGovernor.evaluate pairRequest).toOption.any
      (fun decision => decision.correction.authorityMissing = false ∧
        (run handle (brimmingGovernor.commit decision) brimmingOpening.2).1.1 ≠ .ok ()) = true := by
    decide +kernel
  obtain ⟨decision, hdecision, hboth⟩ := exists_ok_of_any hrun
  obtain ⟨hauth, hrefused⟩ := of_decide_eq_true hboth
  exact ⟨hreachable, hbelow, decision, hdecision, hauth, hrefused⟩

end FairnessGovernor
