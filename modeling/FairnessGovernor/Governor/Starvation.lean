/-
# Starvation over a run

The durable streak of a subject counts the windows in which it was observed with no service, as
long as they are committed; what a producer reports is only ever added to it.  So a subject that
was not served for its limit of windows is found starving, whatever lies between the windows.
-/
import FairnessGovernor.Governor.Committed
import FairnessGovernor.Governor.Sample

namespace FairnessGovernor

open Program Runs

variable {g start : Governor} {trace : List (Governor × Event)} {id : SubjectId} {n : ℕ}

/-- In the latest `n` windows that were committed with authority for the subject, it was observed
with no service. -/
inductive LatestUnserved (id : SubjectId) : ℕ → List (Governor × Event) → Prop
  | none (trace : List (Governor × Event)) : LatestUnserved id 0 trace
  | other {n : ℕ} {trace : List (Governor × Event)} {t : Governor} {e : Event} :
      LatestUnserved id n trace →
      (∀ decision, e = .commit decision (.ok ()) → ∀ state ∈ decision.subjects,
        state.hasAuthority = true → state.id ≠ id) →
      LatestUnserved id n (trace ++ [(t, e)])
  | unserved {n : ℕ} {trace : List (Governor × Event)} {t : Governor}
      {decision : FairnessDecision} {state : SubjectFairnessState} :
      LatestUnserved id n trace → EvaluatedIn trace decision → state ∈ decision.subjects →
      state.id = id → state.hasAuthority = true → state.servedUnits = 0 →
      LatestUnserved id (n + 1) (trace ++ [(t, .commit decision (.ok ()))])

/-- The durable streak of a subject. -/
def Governor.durableStreak (g : Governor) (id : SubjectId) : UInt32 :=
  (g.accounting.find id).elim 0 (·.unservedStreak)

/-! ## The durable streak -/

lemma bumpStreak_le {value : UInt32} (h : min n kStreakSaturation.toNat ≤ value.toNat) :
    min (n + 1) kStreakSaturation.toNat ≤ (bumpStreak value).toNat := by
  have hmax : kStreakSaturation.toNat = 1000000 := rfl
  unfold bumpStreak
  split_ifs with hsaturated
  · omega
  · have hlt : value.toNat < 1000000 := by
      rw [ge_iff_le, UInt32.not_le, UInt32.lt_iff_toNat_lt] at hsaturated
      exact hsaturated
    have hone : (1 : UInt32).toNat = 1 := rfl
    rw [UInt32.toNat_add, hone, Nat.mod_eq_of_lt (by omega)]
    omega

lemma durableStreak_sameBooks {g g' : Governor} (h : SameBooks g.accounting g'.accounting) :
    g'.durableStreak id = g.durableStreak id := by
  unfold Governor.durableStreak
  rw [find_eq_entryOf, find_eq_entryOf, h.subjects]

/-- Remembering a correction does not touch the streak. -/
lemma SameEntry.unservedStreak {a b : SubjectAccounting} (h : SameEntry a b) :
    b.unservedStreak = a.unservedStreak := by
  obtain ⟨_, _, rfl⟩ := h
  rfl

/-- The durable streak is never lower than the run of windows without service. -/
theorem LatestUnserved.durableStreak (h : LatestUnserved id n trace) (hstart : Sound start)
    (hrun : Run Step start trace g) :
    min n kStreakSaturation.toNat ≤ (g.durableStreak id).toNat := by
  induction h generalizing g with
  | none trace => simp
  | @other n trace t e _ hother ih =>
    obtain ⟨hbefore, hstep⟩ := hrun.last
    have hstreak := ih hbefore
    rcases hstep.books with hbooks | ⟨decision, accounting, _, rfl, -, happlied, rfl⟩
    · rw [durableStreak_sameBooks hbooks]
      exact hstreak
    · -- a commit without authority for the subject
      obtain ⟨change, hchange, hfound⟩ := happlied.other (hother decision rfl)
      unfold Governor.durableStreak at hstreak ⊢
      dsimp only
      rw [hfound]
      cases hfind : t.accounting.find id with
      | none =>
        rw [hfind] at hstreak
        exact hstreak
      | some entry =>
        rw [hfind] at hstreak
        rw [Option.map_some, Option.elim_some, (hchange entry).unservedStreak]
        exact hstreak
  | @unserved n trace t decision state _ hevaluated hstate hid hauth hserved ih =>
    obtain ⟨hbefore, hstep⟩ := hrun.last
    have hstreak := ih hbefore
    rcases hstep.books_cases with ⟨-, hnone⟩ | ⟨committed, accounting, _, heq, hchecked, happlied, rfl⟩
    · exact absurd rfl (hnone decision)
    · obtain ⟨rfl, -⟩ := Event.commit.inj heq
      obtain ⟨hnodup, hprojected⟩ := evaluatedIn_spec hstart hbefore hevaluated hchecked
      obtain ⟨updated, after, hupdated, hsame, hfound⟩ := happlied.entry hnodup hstate hauth
      obtain ⟨carry, -, -, rfl⟩ := applyState_eq_ok.mp hupdated
      have hbumped := (hprojected state hstate hauth).unserved hserved
      rw [unservedStreak_entryFor, hid] at hbumped
      unfold Governor.durableStreak at hstreak ⊢
      dsimp only
      rw [← hid, hfound, Option.elim_some, hsame.unservedStreak]
      exact le_trans (bumpStreak_le hstreak) (UInt32.le_iff_toNat_le.mp hbumped)

/-! ## The outcome -/

/-- A subject whose durable streak is one window short of its limit starves in a window without
service. -/
lemma evaluate_starving {request : EvaluationRequest} {decision : FairnessDecision}
    {subject : Subject} {state : SubjectFairnessState} (hg : Sound g)
    (h : g.evaluate request = .ok decision) (hsubject : subject ∈ g.policy.subjects)
    (hstate : state ∈ decision.subjects) (hid : state.id = subject.id)
    (hauth : state.hasAuthority = true) (hserved : state.servedUnits = 0)
    (hlimit : 0 < subject.starvationWindows)
    (hstreak : min (subject.starvationWindows.toNat - 1) kStreakSaturation.toNat ≤
      (g.durableStreak subject.id).toNat) :
    state.outcome = .starvationRisk ∨ state.outcome = .blockedByStrongerObligation := by
  obtain ⟨-, evaluated, heval, rfl⟩ := Governor.evaluate_eq_ok h
  obtain ⟨tree, eligible, whole, numbered, planned, states, hs, hd, hc, hr⟩ :=
    evaluateFairness_stages rfl rfl heval
  have hp := ValidPolicy.of_ok hg.policy_valid
  obtain ⟨i, rfl⟩ := hd.mem_iff.mp hstate
  obtain ⟨j, rfl⟩ := exists_subjectAt hsubject
  obtain rfl : i = j := hp.subjectAt_injective ((hd.reported i).id.symm.trans hid)
  rw [(hd.reported i).hasAuthority] at hauth
  have hn := hs.numbered_of_authority hauth
  have hzero : (numbered i).served = 0 := by
    rw [← (hs.sameNumbers i).served, ← (hd.reported i).served, hserved]
  -- the streak of the window reaches the limit
  have hlong : (subjectAt g.policy i).starvationWindows ≤ (numbered i).unservedStreak := by
    rw [hn.unservedStreak, if_pos hzero, UInt32.le_iff_toNat_le]
    have hbumped := bumpStreak_le hstreak
    have hmax : (subjectAt g.policy i).starvationWindows.toNat ≤ 1000000 :=
      UInt32.le_iff_toNat_le.mp (hp.subject_valid _ (subjectAt_mem i)).starvation_le
    have hpos : 0 < (subjectAt g.policy i).starvationWindows.toNat :=
      UInt32.lt_iff_toNat_lt.mp hlimit
    have hsaturation : kStreakSaturation.toNat = 1000000 := rfl
    unfold Governor.durableStreak at hbumped
    refine le_trans ?_ hbumped
    omega
  -- so the subject starves, and a starving subject has one of the two outcomes
  rw [(hr.proposed i).outcome]
  rw [hs.hasAuthority] at hauth
  cases eligible with
  | error failure => cases hauth
  | ok evidence =>
    obtain ⟨observation, hspeaks, -⟩ := authorityPlan_speaks hauth
    have hfound : (evidence.find (subjectAt g.policy i).id).isSome := by
      rw [hspeaks.found]
      rfl
    have hstarving : (starvationPlan evidence (subjectAt g.policy i) (numbered i)).starving = true :=
      (starvationPlan_unserved _ _).2 hn.hasAuthority hfound hlimit hlong
    have hsettled : (starvationPlan evidence (subjectAt g.policy i) (numbered i)).Settled
        (demandSupplyPlan g.policy g.accounting request.window (subjectAt g.policy i)
          (starvationPlan evidence (subjectAt g.policy i) (numbered i))) :=
      demandSupplyPlan_settled _ _ _ _
    refine (hc.outcomes i).starving ?_ (hsettled.starving.trans hstarving)
    exact hsettled.hasAuthority.trans
      ((starvationPlan_sameNumbers _ _).hasAuthority.trans hn.hasAuthority)

/-- Over every run of an opened governor: the durable streak of a subject is never lower than its
run of windows without service, and after one window less than its limit the next one finds it
starving. -/
theorem starvation_not_waived {config : GovernorConfig} {boot : BootId}
    (hopens : Opens config boot start) (hrun : Run Step start trace g) {subject : Subject}
    (hsubject : subject ∈ g.policy.subjects) :
    (∀ n, LatestUnserved subject.id n trace →
      min n kStreakSaturation.toNat ≤ (g.durableStreak subject.id).toNat) ∧
    ∀ request decision state, g.evaluate request = .ok decision → state ∈ decision.subjects →
      state.id = subject.id → state.hasAuthority = true → state.servedUnits = 0 →
      0 < subject.starvationWindows →
      LatestUnserved subject.id (subject.starvationWindows.toNat - 1) trace →
      state.outcome = .starvationRisk ∨ state.outcome = .blockedByStrongerObligation := by
  refine ⟨fun n h => h.durableStreak hopens.sound hrun, ?_⟩
  intro request decision state heval hstate hid hauth hserved hlimit hlatest
  exact evaluate_starving (run_sound hrun hopens.sound) heval hsubject hstate hid hauth hserved
    hlimit (hlatest.durableStreak hopens.sound hrun)

/-- The second subject must be served in one of any two windows. -/
def hungryPolicy : FairnessPolicy :=
  { pairPolicy with
    subjects :=
      [{ id := ⟨1⟩, generation := ⟨1⟩, group := ⟨1⟩ },
        { id := ⟨2⟩, generation := ⟨1⟩, group := ⟨1⟩, starvationWindows := 2 }] }

/-- Only the first subject is served in the window. -/
def unservedSnapshot (window : UInt64) : EvidenceSnapshot :=
  { pairEvidence [{ id := ⟨1⟩, generation := ⟨1⟩, servedUnits := 10 },
      { id := ⟨2⟩, generation := ⟨1⟩ }] with id := ⟨window⟩, window := ⟨window⟩ }

/-- The request for that evidence. -/
def unservedRequest (window : UInt64) : EvaluationRequest :=
  { pairRequest with evidenceId := ⟨window⟩, window := ⟨window⟩ }

/-- The governor once the first window is staged. -/
def hungryStaged : Governor := ((memoryGovernor hungryPolicy).ingestEvidence (unservedSnapshot 1)).2

/-- The decision about the first window. -/
def hungryDecision : FairnessDecision := decisionOf (hungryStaged.evaluate (unservedRequest 1))

/-- The governor once the first window is committed. -/
def hungryCommitted : Governor := (committedTo hungryStaged hungryDecision).2

/-- The calls up to the second window: only the first one is committed. -/
def hungryCalls : List (Governor × Event) :=
  [(memoryGovernor hungryPolicy,
      .ingest (unservedSnapshot 1)
        ((memoryGovernor hungryPolicy).ingestEvidence (unservedSnapshot 1)).1),
    (hungryStaged, .evaluate (unservedRequest 1) (hungryStaged.evaluate (unservedRequest 1)))]

/-- The run of the first window. -/
lemma hungryRun : Run Step (memoryGovernor hungryPolicy)
    (hungryCalls ++ [(hungryStaged,
      .commit hungryDecision (committedTo hungryStaged hungryDecision).1)]) hungryCommitted :=
  ((Run.nil.snoc (.ingest _ _)).snoc (.evaluate _ _)).snoc (.committedTo _ _)

theorem starvation_not_waived_second :
    ∃ decision, ((hungryCommitted.ingestEvidence (unservedSnapshot 2)).2).evaluate
        (unservedRequest 2) = .ok decision ∧
      ∃ state ∈ decision.subjects, state.id = ⟨2⟩ ∧
        (state.outcome = .starvationRisk ∨ state.outcome = .blockedByStrongerObligation) := by
  have hfirst : (hungryStaged.evaluate (unservedRequest 1)).toOption.any (fun decision =>
      decision.subjects.any fun state => state.id = ⟨2⟩ ∧ state.hasAuthority = true ∧
        state.servedUnits = 0) = true := by
    decide +kernel
  have hsecond : ((hungryCommitted.ingestEvidence (unservedSnapshot 2)).2.evaluate
      (unservedRequest 2)).toOption.any (fun decision =>
        decision.subjects.any fun state => state.id = ⟨2⟩ ∧ state.hasAuthority = true ∧
          state.servedUnits = 0) = true := by
    decide +kernel
  have hcommitted : (committedTo hungryStaged hungryDecision).1 = .ok () :=
    eq_ok_of_isOk (by decide +kernel)
  -- the first window is evaluated, and committed with no service for the subject
  obtain ⟨first, hevaluated, hunserved⟩ := exists_ok_of_any hfirst
  obtain ⟨state₁, hstate₁, hboth₁⟩ := List.any_eq_true.mp hunserved
  obtain ⟨hid₁, hauth₁, hserved₁⟩ := of_decide_eq_true hboth₁
  have hdecision : hungryDecision = first := by
    show decisionOf _ = _
    rw [hevaluated]
    rfl
  have hcalls : EvaluatedIn hungryCalls hungryDecision := by
    refine ⟨hungryStaged, unservedRequest 1, ?_⟩
    rw [hdecision, ← hevaluated]
    exact List.mem_cons_of_mem _ List.mem_cons_self
  have hrun := hungryRun
  rw [hcommitted] at hrun
  have hwindow : LatestUnserved ⟨2⟩ 1
      (hungryCalls ++ [(hungryStaged, .commit hungryDecision (.ok ()))]) :=
    (LatestUnserved.none _).unserved hcalls (hdecision ▸ hstate₁) hid₁ hauth₁ hserved₁
  -- the second window is only evaluated
  obtain ⟨decision, hdecided, hagain⟩ := exists_ok_of_any hsecond
  obtain ⟨state, hstate, hboth⟩ := List.any_eq_true.mp hagain
  obtain ⟨hid, hauth, hserved⟩ := of_decide_eq_true hboth
  have hopens := @memoryGovernor_opens hungryPolicy (by decide +kernel)
  have hgoverned : (hungryCommitted.ingestEvidence (unservedSnapshot 2)).2.policy.subjects.any
      (fun subject => subject.id = ⟨2⟩ ∧ subject.starvationWindows = 2) = true := by
    decide +kernel
  obtain ⟨subject, hsubject, hlimit⟩ := List.any_eq_true.mp hgoverned
  obtain ⟨hsecondId, hwindows⟩ := of_decide_eq_true hlimit
  refine ⟨decision, hdecided, state, hstate, hid, ?_⟩
  refine (starvation_not_waived hopens
    (hrun.snoc (.ingest hungryCommitted (unservedSnapshot 2))) hsubject).2
    (unservedRequest 2) decision state hdecided hstate (hid.trans hsecondId.symm) hauth hserved ?_ ?_
  · rw [hwindows]
    decide
  · rw [hsecondId, hwindows]
    exact hwindow.other (by rintro _ ⟨⟩)

end FairnessGovernor
