/-
# Cooldown

A commit remembers for every subject the last window in which an intent named it, and for the
windows of the cooldown after it the subject asks for nothing.  It still gives: a reduction may
name a subject that is cooling down.  A correction is remembered only if its intent is newer
than the one remembered so far and its subject has an entry.  In runs where neither matters a
subject is left alone while it is cooling down, unless it starves.
-/
import FairnessGovernor.Eval.ProtectedGroups
import FairnessGovernor.Governor.Serialized
import FairnessGovernor.Governor.Sound

namespace FairnessGovernor

open Program Runs

variable {g g' t u : Governor} {e : Event} {decision : FairnessDecision}
  {accounting : FairnessAccounting} {trace : List (Governor × Event)}

/-! ## What a commit remembers -/

section Entries

variable {id : SubjectId} {entries entries' : List SubjectAccounting}

/-- Two entries remember the same correction. -/
def SameCorrection (a b : SubjectAccounting) : Prop :=
  b.lastCorrectionWindow = a.lastCorrectionWindow ∧
    b.lastCorrectionGeneration = a.lastCorrectionGeneration

/-- The carry of a window leaves the remembered correction alone. -/
lemma applyState_correction {maxCarry : ℕ} {state : SubjectFairnessState}
    {entry updated : SubjectAccounting} (h : applyState maxCarry state entry = .ok updated) :
    SameCorrection entry updated := by
  unfold applyState at h
  split at h
  · cases h
  · split at h
    · rw [← Except.ok.inj h]
      exact ⟨rfl, rfl⟩
    · cases h

/-- One subject of a decision: the entry of any subject keeps its correction, and a subject with
authority has an entry. -/
lemma applySubject_correction {policy : FairnessPolicy} {state : SubjectFairnessState}
    (h : applySubject policy entries state = .ok entries')
    (hknown : (entryOf id entries).isSome ∨ state.id = id ∧ state.hasAuthority = true) :
    ∃ entry ∈ entryOf id entries', SameCorrection ((entryOf id entries).getD {}) entry := by
  obtain ⟨hskip, hown, hothers⟩ := applySubject_eq_ok h
  by_cases hauth : state.hasAuthority = true
  · by_cases hid : state.id = id
    · subst hid
      obtain ⟨updated, hupdated, hfound⟩ := hown hauth
      refine ⟨updated, hfound, ?_⟩
      have hsame := applyState_correction hupdated
      cases hentry : entryOf state.id entries with
      | none =>
        rw [hentry] at hsame
        exact hsame
      | some entry =>
        rw [hentry] at hsame
        exact hsame
    · obtain ⟨entry, hentry⟩ := Option.isSome_iff_exists.mp
        (hknown.resolve_right fun hown' => hid hown'.1)
      rw [hothers id (Ne.symm hid), hentry]
      exact ⟨entry, rfl, rfl, rfl⟩
  · obtain ⟨entry, hentry⟩ := Option.isSome_iff_exists.mp
      (hknown.resolve_right fun hown' => hauth hown'.2)
    rw [hskip (Bool.eq_false_of_not_eq_true hauth), hentry]
    exact ⟨entry, rfl, rfl, rfl⟩

/-- All subjects of a decision. -/
lemma foldlM_applySubject_correction {policy : FairnessPolicy}
    {states : List SubjectFairnessState}
    (h : states.foldlM (applySubject policy) entries = .ok entries')
    (hknown : (entryOf id entries).isSome ∨
      ∃ state ∈ states, state.id = id ∧ state.hasAuthority = true) :
    ∃ entry ∈ entryOf id entries', SameCorrection ((entryOf id entries).getD {}) entry := by
  induction states generalizing entries with
  | nil =>
    obtain rfl := Except.ok.inj h
    obtain ⟨entry, hentry⟩ := Option.isSome_iff_exists.mp
      (hknown.resolve_right fun ⟨_, hmem, _⟩ => List.not_mem_nil hmem)
    rw [hentry]
    exact ⟨entry, rfl, rfl, rfl⟩
  | cons state rest ih =>
    rw [List.foldlM_cons] at h
    obtain ⟨next, hnext, hrest⟩ := bind_eq_ok.mp h
    by_cases hhead : (entryOf id entries).isSome ∨ state.id = id ∧ state.hasAuthority = true
    · obtain ⟨entry, hentry, hsame⟩ := applySubject_correction hnext hhead
      rw [Option.mem_def] at hentry
      obtain ⟨after, hafter, hlater⟩ := ih hrest (.inl (by rw [hentry]; rfl))
      rw [hentry] at hlater
      exact ⟨after, hafter, hlater.1.trans hsame.1, hlater.2.trans hsame.2⟩
    · -- the head is about another subject, and the entry is yet to come
      rw [not_or] at hhead
      have hkept : entryOf id next = entryOf id entries := by
        obtain ⟨hskip, -, hothers⟩ := applySubject_eq_ok hnext
        by_cases hauth : state.hasAuthority = true
        · exact hothers id fun heq => hhead.2 ⟨heq.symm, hauth⟩
        · rw [hskip (Bool.eq_false_of_not_eq_true hauth)]
      obtain ⟨later, hlater, hname⟩ := hknown.resolve_left hhead.1
      rw [← hkept]
      refine ih hrest (.inr ⟨later, ?_, hname⟩)
      rcases List.mem_cons.mp hlater with rfl | hmem
      · exact absurd hname hhead.2
      · exact hmem

lemma stampCorrection_id (window : ServiceWindowId) (intent : CorrectiveIntent)
    (entry : SubjectAccounting) : (stampCorrection window intent entry).id = entry.id := by
  obtain ⟨_, _, hsame⟩ := stampCorrection_same window intent entry
  rw [hsame]

/-- Recording the intents stamps the entry of every subject that a newer intent names. -/
lemma recordIntents_correction {window : ServiceWindowId} {intents : List CorrectiveIntent}
    {entry : SubjectAccounting} (h : entryOf id entries = some entry) :
    ∃ after ∈ entryOf id (recordIntents window intents entries),
      (after.lastCorrectionWindow = window ∨ SameCorrection entry after) ∧
      ∀ intent ∈ intents, intent.subject = id →
        entry.lastCorrectionGeneration.value < intent.generation.value →
        after.lastCorrectionWindow = window := by
  induction intents generalizing entries entry with
  | nil => exact ⟨entry, h, .inr ⟨rfl, rfl⟩, fun _ hmem => absurd hmem List.not_mem_nil⟩
  | cons intent rest ih =>
    have hmodified : entryOf id
        (modifyEntry intent.subject (stampCorrection window intent) entries) =
          some (if id = intent.subject then stampCorrection window intent entry else entry) := by
      rw [entryOf_modifyEntry (stampCorrection_id window intent), h]
      split_ifs <;> rfl
    obtain ⟨after, hafter, hkept, hstamped⟩ := ih hmodified
    have hcases : after.lastCorrectionWindow = window ∨
        (if id = intent.subject then stampCorrection window intent entry else entry) = entry := by
      by_cases hname : id = intent.subject
      · rw [if_pos hname] at hkept ⊢
        unfold stampCorrection at hkept ⊢
        split_ifs at hkept ⊢
        · exact .inl (hkept.elim (fun hwindow => hwindow) fun hsame => hsame.1)
        · exact .inr rfl
      · exact .inr (if_neg hname)
    rcases hcases with hwindow | hsame
    · exact ⟨after, hafter, .inl hwindow, fun _ _ _ _ => hwindow⟩
    · rw [hsame] at hkept hstamped
      refine ⟨after, hafter, hkept, fun other hother hname hnewer => ?_⟩
      rcases List.mem_cons.mp hother with rfl | hrest
      · -- a newer intent would have stamped the entry
        rw [if_pos hname.symm, stampCorrection, if_pos hnewer] at hsame
        have hgeneration := congrArg (·.lastCorrectionGeneration) hsame
        dsimp only at hgeneration
        rw [hgeneration] at hnewer
        exact absurd hnewer (UInt64.lt_irrefl _)
      · exact hstamped other hrest hname hnewer

end Entries

/-! ## Runs -/

/-- A committed decision leaves its corrections behind: the subject of each intent has an entry,
and the intent is newer than the one remembered. -/
def RecordsPlans (g : Governor) (decision : FairnessDecision) : Prop :=
  ∀ intent ∈ decision.intents,
    ((g.accounting.find intent.subject).isSome ∨
      ∃ state ∈ decision.subjects, state.id = intent.subject ∧ state.hasAuthority = true) ∧
    ((g.accounting.find intent.subject).getD {}).lastCorrectionGeneration.value <
      intent.generation.value

instance (g : Governor) (decision : FairnessDecision) : Decidable (RecordsPlans g decision) :=
  inferInstanceAs (Decidable (∀ intent ∈ decision.intents, _ ∧ _))

/-- Every correction that was committed is remembered, with its window or a later one. -/
def Remembered (trace : List (Governor × Event)) (g : Governor) : Prop :=
  ∀ t decision, (t, .commit decision (.ok ())) ∈ trace → ∀ intent ∈ decision.intents,
    ∃ entry ∈ g.accounting.find intent.subject, entry.lastCorrectionWindow.valid ∧
      decision.authority.window.value ≤ entry.lastCorrectionWindow.value ∧
      entry.lastCorrectionWindow.value ≤ g.accounting.lastWindow.value

/-- A commit remembers what it corrects and forgets nothing. -/
lemma Applied.remembered (h : Applied g decision accounting) (hchecked : Checked g decision)
    (hrecords : RecordsPlans g decision) (hbefore : Remembered trace g)
    (hafter : g'.accounting = accounting) :
    Remembered (trace ++ [(g, .commit decision (.ok ()))]) g' := by
  obtain ⟨entries, hentries, hsubjects⟩ := h.subjects
  have hlater := UInt64.le_of_lt hchecked.window_lt
  intro t committed hmem intent hintent
  rw [hafter, find_eq_entryOf, hsubjects, h.lastWindow]
  -- an earlier correction, whose entry is updated or left; or one of this decision
  rcases List.mem_append.mp hmem with hmem | hmem
  · obtain ⟨entry, hentry, hvalid, hfrom, hto⟩ := hbefore t committed hmem intent hintent
    rw [Option.mem_def, find_eq_entryOf] at hentry
    obtain ⟨kept, hkept, hsame⟩ :=
      foldlM_applySubject_correction hentries (.inl (by rw [hentry]; rfl))
    rw [hentry] at hsame
    obtain ⟨after, hfound, hcases, -⟩ := recordIntents_correction hkept
    refine ⟨after, hfound, ?_⟩
    rcases hcases with hwindow | hunchanged
    · rw [hwindow]
      exact ⟨hchecked.window_valid, UInt64.le_trans hfrom (UInt64.le_trans hto hlater),
        UInt64.le_refl _⟩
    · rw [hunchanged.1, hsame.1]
      exact ⟨hvalid, hfrom, UInt64.le_trans hto hlater⟩
  · obtain ⟨rfl, hevent⟩ := Prod.mk.inj (List.mem_singleton.mp hmem)
    obtain ⟨rfl, -⟩ := Event.commit.inj hevent
    obtain ⟨hknown, hnewer⟩ := hrecords intent hintent
    rw [find_eq_entryOf] at hknown hnewer
    obtain ⟨kept, hkept, hsame⟩ := foldlM_applySubject_correction hentries hknown
    obtain ⟨after, hfound, -, hstamped⟩ := recordIntents_correction hkept
    refine ⟨after, hfound, ?_⟩
    rw [hstamped intent hintent rfl (by rw [hsame.2]; exact hnewer)]
    exact ⟨hchecked.window_valid, UInt64.le_refl _, UInt64.le_refl _⟩

lemma Step.window_valid (h : Step g (.commit decision (.ok ())) g') :
    decision.authority.window.valid := by
  cases h.change with
  | none hidle => exact hidle.elim
  | committed _ hcheck _ => exact (checkDecision_eq_ok.mp hcheck).window_valid

/-- What is no successful commit adds nothing to remember. -/
lemma Remembered.frame (h : Remembered trace g) (hbooks : SameBooks g.accounting g'.accounting)
    (hother : ∀ decision, e ≠ .commit decision (.ok ())) :
    Remembered (trace ++ [(g, e)]) g' := by
  intro t committed hmem intent hintent
  rcases List.mem_append.mp hmem with hmem | hmem
  · obtain ⟨entry, hentry, hbounds⟩ := h t committed hmem intent hintent
    rw [hbooks.lastWindow, find_eq_entryOf, hbooks.subjects]
    exact ⟨entry, hentry, hbounds⟩
  · exact absurd (Prod.mk.inj (List.mem_singleton.mp hmem)).2.symm (hother committed)

/-- A step remembers what was committed before it. -/
lemma Step.remembered (hstep : Step g e g')
    (hrecords : ∀ decision, e = .commit decision (.ok ()) → RecordsPlans g decision)
    (h : Remembered trace g) : Remembered (trace ++ [(g, e)]) g' := by
  cases hstep.change with
  | none hidle =>
    refine h.frame .rfl' fun decision he => ?_
    rw [he] at hidle
    exact hidle
  | staged | cleared | stopped => exact h.frame .rfl' fun _ => Event.noConfusion
  | undone | installed | putBack | advanced =>
    exact h.frame ⟨_, _, rfl⟩ fun _ he => by cases he
  | @committed decision accounting generation hcheck happly =>
    exact (applyDecision_eq_ok happly).remembered (checkDecision_eq_ok.mp hcheck)
      (hrecords _ rfl) h rfl

/-- A run remembers what was committed in it. -/
lemma remembered {start : Governor} (hrun : Run Step start trace u)
    (hrecords : ∀ t decision, (t, .commit decision (.ok ())) ∈ trace → RecordsPlans t decision) :
    Remembered trace u := by
  induction hrun with
  | nil => exact fun _ _ hmem => absurd hmem List.not_mem_nil
  | snoc _ hstep ih =>
    refine hstep.remembered (fun decision he => ?_) (ih fun t decision hmem => ?_)
    · exact hrecords _ decision (by simp [he])
    · exact hrecords t decision (List.mem_append_left _ hmem)

/-! ## Evaluations -/

/-- A window starves a subject. -/
def StarvesNow (g : Governor) (request : EvaluationRequest) (id : SubjectId) : Prop :=
  ∃ covered, coverage (g.context request) g.policy g.accounting = .ok covered ∧
    ∃ i, (subjectAt g.policy i).id = id ∧
      starvesAt (g.context request) g.policy g.accounting covered i = true

/-- Nothing is taken from a subject that is cooling down: it has nothing to give, or the stronger
suppliers give all that is moved. -/
def SparesCooling (g : Governor) (request : EvaluationRequest) : Prop :=
  ∀ covered split, Inputs (g.context request) g.policy g.accounting covered split →
    ∀ i, ∀ observation ∈ observationFor (g.context request) g.policy covered i,
      isCooling g.policy (g.accounting.find (subjectAt g.policy i).id) request.window
        (starvesIn g.accounting (subjectAt g.policy i) observation) = true →
      supplyAt (g.context request) g.policy covered split i = 0 ∨
        movable (g.context request) g.policy g.accounting covered split ≤
          ∑ j with supplyBefore (inputPlans (g.context request) g.policy g.accounting covered split)
            j i, supplyAt (g.context request) g.policy covered split j

/-- Whoever an intent names was observed after the last commit, and is not cooling down. -/
lemma evaluate_not_cooling {request : EvaluationRequest} (hg : Sound g)
    (hspares : SparesCooling g request) (h : g.evaluate request = .ok decision)
    {intent : CorrectiveIntent} (hintent : intent ∈ decision.intents) :
    (g.accounting.lastWindow.valid → request.window.valid →
      g.accounting.lastWindow.value < request.window.value) ∧
    ∃ covered i observation, coverage (g.context request) g.policy g.accounting = .ok covered ∧
      (subjectAt g.policy i).id = intent.subject ∧
      observationFor (g.context request) g.policy covered i = some observation ∧
      isCooling g.policy (g.accounting.find (subjectAt g.policy i).id) request.window
        (starvesIn g.accounting (subjectAt g.policy i) observation) = false := by
  obtain ⟨-, evaluated, heval, rfl⟩ := Governor.evaluate_eq_ok h
  obtain ⟨tree, eligible, whole, numbered, planned, states, hs, hd, hc, -⟩ :=
    evaluateFairness_stages rfl rfl heval
  have hp := ValidPolicy.of_ok hg.policy_valid
  obtain ⟨i, hname, hmoved⟩ := hd.named (show intent ∈ evaluated.intents from hintent)
  have hi : (planned.plans i).hasAuthority = true := by
    by_contra hnot
    obtain ⟨-, haugment, hreduce⟩ := hs.nothing hc (Bool.eq_false_of_not_eq_true hnot)
    exact hmoved.elim (fun hne => hne haugment) fun hne => hne hreduce
  obtain ⟨evidence, observation, heligible, -, hobserved, -⟩ := hs.observed hi
  refine ⟨(Eligible.of_ok (heligible ▸ hs.eligible_eq)).window_fresh, _, i, observation,
    hs.inputs.coverage, hname.symm, hobserved, Bool.eq_false_of_not_eq_true fun hcooling => ?_⟩
  -- demand is cut off by the cooldown; supply is spared by assumption
  rcases hmoved with hmoved | hmoved
  · rw [augment_eq hp hs hc hs.whole_word, grantedAt, demandAt, hobserved, Option.elim_some,
      demandOf, if_neg fun hasks => Bool.false_ne_true (hasks.2.symm.trans hcooling)]
      at hmoved
    omega
  · rw [reduce_eq hp hs hc hs.whole_word, takenAt] at hmoved
    have hspared := hspares _ _ hs.inputs i observation hobserved hcooling
    omega

/-! ## The cooldown -/

/-- What a call has to do for the cooldown: a commit leaves its corrections behind, an evaluation
takes nothing from a subject that is cooling down. -/
def SettlesPlans : Governor × Event → Prop
  | (g, .commit decision (.ok _)) => RecordsPlans g decision
  | (g, .evaluate request (.ok _)) => SparesCooling g request
  | _ => True

lemma settlesPlans_evaluate {request : EvaluationRequest} (h : SparesCooling g request)
    (result : Eval FairnessDecision) : SettlesPlans (g, .evaluate request result) := by
  cases result with
  | error _ => trivial
  | ok _ => exact h

lemma settlesPlans_commit (h : RecordsPlans g decision) (result : Except Status Unit) :
    SettlesPlans (g, .commit decision result) := by
  cases result with
  | error _ => trivial
  | ok _ => exact h

/-- For the windows of the cooldown after a committed correction no evaluation corrects the same
subject, unless it starves. -/
def RespectsCooldown (trace : List (Governor × Event)) : Prop :=
  ∀ before t request decision after,
    trace = before ++ (t, .evaluate request (.ok decision)) :: after →
    ∀ s committed, (s, .commit committed (.ok ())) ∈ before →
    ∀ corrected ∈ committed.intents, ∀ intent ∈ decision.intents,
      intent.subject = corrected.subject →
      committed.authority.window.value ≤ request.window.value →
      request.window.value.toNat <
        committed.authority.window.value.toNat + t.policy.cooldownWindows.toNat →
      StarvesNow t request intent.subject

/-- A run whose calls settle their corrections respects the cooldown. -/
theorem respectsCooldown {config : GovernorConfig} {boot : BootId} {start : Governor}
    (hopens : Opens config boot start) (hrun : Run Step start trace u)
    (hsettles : ∀ call ∈ trace, SettlesPlans call) : RespectsCooldown trace := by
  intro before t request decision after htrace s committed hcommitted corrected hcorrected intent
    hintent hname hfrom hto
  rw [htrace] at hrun hsettles
  obtain ⟨t', hbefore, hstep, -⟩ := hrun.split
  obtain ⟨hresult, -⟩ := hstep.evaluated
  have hsound : Sound t := hbefore.invariant hopens.sound fun _ _ _ ht hstep => hstep.sound ht
  have hremembered := remembered hbefore fun t decision hmem =>
    hsettles _ (List.mem_append_left _ hmem)
  obtain ⟨entry, hentry, hvalid, hlow, hhigh⟩ :=
    hremembered s committed hcommitted corrected hcorrected
  obtain ⟨hfresh, covered, i, observation, hcovered, hid, hobserved, hwarm⟩ :=
    evaluate_not_cooling hsound (hsettles (t, .evaluate request (.ok decision)) (by simp))
      hresult.symm hintent
  refine ⟨covered, hcovered, i, hid, ?_⟩
  rw [starvesAt, hobserved, Option.elim_some]
  by_contra hfed
  -- the remembered window lies in the cooldown, so the subject would be cooling down
  refine Bool.false_ne_true (hwarm.symm.trans (decide_eq_true ?_))
  have hpositive := UInt64.pos_iff_ne_zero.mpr hvalid
  have hlast := UInt64.lt_of_lt_of_le hpositive hhigh
  obtain ⟨_, _, _, _, -, hcommit, -⟩ := hbefore.upTo hcommitted
  have hwindow : 0 < request.window.value := UInt64.lt_of_lt_of_le
    (UInt64.pos_iff_ne_zero.mpr hcommit.window_valid) hfrom
  have hlater := UInt64.lt_of_le_of_lt hhigh
    (hfresh (UInt64.pos_iff_ne_zero.mp hlast) (UInt64.pos_iff_ne_zero.mp hwindow))
  have hsince : committed.authority.window.value.toNat ≤ request.window.value.toNat := hfrom
  have hkept : committed.authority.window.value.toNat ≤ entry.lastCorrectionWindow.value.toNat :=
    hlow
  refine ⟨UInt32.lt_iff_toNat_lt.mpr (show 0 < _ by omega),
    ⟨entry, ?_, hvalid, UInt64.pos_iff_ne_zero.mp hwindow, UInt64.le_of_lt hlater, by omega⟩, hfed⟩
  rw [hid, hname]
  exact hentry

/-! ### A run of two windows -/

/-- Three subjects that may be corrected once in two windows. -/
def coolingPolicy : FairnessPolicy :=
  { pairPolicy with
    cooldownWindows := 2
    subjects := [1, 2, 3].map fun value =>
      { id := ⟨value⟩, generation := ⟨1⟩, group := ⟨1⟩, maxReduceUnits := 100
        maxAugmentUnits := 100 } }

/-- The snapshot of a window, with what the three subjects were served. -/
def coolingSnapshot (window first second third : UInt64) : EvidenceSnapshot :=
  { pairEvidence [{ id := ⟨1⟩, generation := ⟨1⟩, servedUnits := first },
      { id := ⟨2⟩, generation := ⟨1⟩, servedUnits := second },
      { id := ⟨3⟩, generation := ⟨1⟩, servedUnits := third }] with
    id := ⟨window⟩, window := ⟨window⟩, sequence := window }

/-- The request for that snapshot. -/
def coolingRequest (window : UInt64) : EvaluationRequest :=
  { pairRequest with evidenceId := ⟨window⟩, window := ⟨window⟩ }

/-- The governor of the three subjects with the first window staged. -/
def hotGovernor : Governor :=
  ((memoryGovernor coolingPolicy).ingestEvidence (coolingSnapshot 1 10 4 7)).2

/-- The decision about the first window: the first subject gives to the second. -/
def hotDecision : FairnessDecision := decisionOf (hotGovernor.evaluate (coolingRequest 1))

/-- The governor after the commit, with another window staged in which the third subject is
short. -/
def coolingGovernor (window : UInt64) : Governor :=
  ((committedTo hotGovernor hotDecision).2.ingestEvidence (coolingSnapshot window 10 7 4)).2

/-- The first window is ingested, evaluated and committed. -/
def hotCalls : List (Governor × Event) :=
  [(memoryGovernor coolingPolicy, .ingest (coolingSnapshot 1 10 4 7)
      ((memoryGovernor coolingPolicy).ingestEvidence (coolingSnapshot 1 10 4 7)).1),
    (hotGovernor, .evaluate (coolingRequest 1) (hotGovernor.evaluate (coolingRequest 1))),
    (hotGovernor, .commit hotDecision (committedTo hotGovernor hotDecision).1)]

/-- The other window is ingested and evaluated after it. -/
def coolingCalls (window : UInt64) : List (Governor × Event) :=
  hotCalls ++ [((committedTo hotGovernor hotDecision).2, .ingest (coolingSnapshot window 10 7 4)
      ((committedTo hotGovernor hotDecision).2.ingestEvidence (coolingSnapshot window 10 7 4)).1)] ++
    [(coolingGovernor window, .evaluate (coolingRequest window)
      ((coolingGovernor window).evaluate (coolingRequest window)))]

lemma coolingRun (window : UInt64) : Run Step (memoryGovernor coolingPolicy) (coolingCalls window)
    (coolingGovernor window) :=
  ((((Run.nil.snoc (.ingest _ _)).snoc (.evaluate _ _)).snoc (.committedTo _ _)).snoc
    (.ingest _ _)).snoc (.evaluate _ _)

lemma hotDecision_committed : (committedTo hotGovernor hotDecision).1 = .ok () :=
  eq_ok_of_isOk (by decide +kernel)

/-- Where nobody is cooling down, nothing is taken from who is. -/
lemma sparesCooling_of_warm {request : EvaluationRequest} (h : ∀ i starving, isCooling g.policy
      (g.accounting.find (subjectAt g.policy i).id) request.window starving = false) :
    SparesCooling g request := by
  intro covered split _ i observation _ hcooling
  rw [h] at hcooling
  cases hcooling

/-- Without thresholds nobody starves. -/
lemma not_starvesNow {request : EvaluationRequest} {id : SubjectId}
    (h : ∀ i, (subjectAt g.policy i).starvationWindows = 0 ∧
      (subjectAt g.policy i).guaranteeStarvationWindows = 0) : ¬ StarvesNow g request id := by
  rintro ⟨covered, -, i, -, hstarves⟩
  obtain ⟨hwindows, hguarantee⟩ := h i
  unfold starvesAt at hstarves
  cases hobserved : observationFor (g.context request) g.policy covered i with
  | none =>
    rw [hobserved] at hstarves
    cases hstarves
  | some observation =>
    rw [hobserved, Option.elim_some, starvesIn, hwindows, hguarantee] at hstarves
    simp at hstarves

/-- After the cooldown the first subject may be corrected again. -/
theorem respectsCooldown_after : RespectsCooldown (coolingCalls 3) := by
  refine respectsCooldown (memoryGovernor_opens (by decide +kernel)) (coolingRun 3) ?_
  have hfirst : SparesCooling hotGovernor (coolingRequest 1) :=
    sparesCooling_of_warm (by decide +kernel)
  have hrecords : RecordsPlans hotGovernor hotDecision := by decide +kernel
  have hlast : SparesCooling (coolingGovernor 3) (coolingRequest 3) :=
    sparesCooling_of_warm (by decide +kernel)
  intro call hcall
  rcases List.mem_append.mp hcall with hcall | hcall
  · rcases List.mem_append.mp hcall with hcall | hcall
    · rcases List.mem_cons.mp hcall with hcall | hcall
      · rw [hcall]
        trivial
      · rcases List.mem_cons.mp hcall with hcall | hcall
        · rw [hcall]
          generalize hotGovernor.evaluate (coolingRequest 1) = result
          exact settlesPlans_evaluate hfirst result
        · rw [List.mem_singleton.mp hcall]
          generalize (committedTo hotGovernor hotDecision).1 = result
          exact settlesPlans_commit hrecords result
    · rw [List.mem_singleton.mp hcall]
      trivial
  · rw [List.mem_singleton.mp hcall]
    generalize (coolingGovernor 3).evaluate (coolingRequest 3) = result
    exact settlesPlans_evaluate hlast result

/-- In the window after its correction the first subject is corrected again: the third one is
short, and it gives. -/
theorem not_respectsCooldown :
    Opens (memoryConfig coolingPolicy) ⟨7⟩ (memoryGovernor coolingPolicy) ∧
    Run Step (memoryGovernor coolingPolicy) (coolingCalls 2) (coolingGovernor 2) ∧
    ¬ RespectsCooldown (coolingCalls 2) := by
  refine ⟨memoryGovernor_opens (by decide +kernel), coolingRun 2, fun hrespects => ?_⟩
  have hagain : ((coolingGovernor 2).evaluate (coolingRequest 2)).toOption.any
      (fun decision => ∃ intent ∈ decision.intents, intent.subject = ⟨1⟩) = true := by
    decide +kernel
  have hcorrected : ∃ intent ∈ hotDecision.intents, intent.subject = ⟨1⟩ := by decide +kernel
  obtain ⟨decision, hdecision, hnamed⟩ := exists_ok_of_any hagain
  obtain ⟨intent, hintent, hname⟩ := of_decide_eq_true hnamed
  obtain ⟨corrected, hmem, hfirst⟩ := hcorrected
  have hcalls : coolingCalls 2 = (hotCalls ++
      [((committedTo hotGovernor hotDecision).2, .ingest (coolingSnapshot 2 10 7 4)
        ((committedTo hotGovernor hotDecision).2.ingestEvidence (coolingSnapshot 2 10 7 4)).1)]) ++
      (coolingGovernor 2, .evaluate (coolingRequest 2) (.ok decision)) :: [] := by
    rw [← hdecision]
    rfl
  have hcommitted : (hotGovernor, .commit hotDecision (.ok ())) ∈ hotCalls := by
    rw [← hotDecision_committed]
    exact List.mem_cons_of_mem _ (List.mem_cons_of_mem _ List.mem_cons_self)
  refine not_starvesNow (by decide +kernel) (hrespects _ _ _ _ _ hcalls hotGovernor hotDecision
    (List.mem_append_left _ hcommitted) corrected hmem intent hintent (hname.trans hfirst.symm)
    (by decide +kernel) (by decide +kernel))

end FairnessGovernor
