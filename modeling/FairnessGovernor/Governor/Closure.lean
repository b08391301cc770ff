/-
# Accounting closure over a run

Every entry is the sum of its windows: what the subject was entitled to and not served, window by
window, is what its entry carries, owes or has discarded.  The identity survives every operation,
whichever carry bound was in force when.
-/
import FairnessGovernor.Governor.Committed

namespace FairnessGovernor

open Program Runs

variable {g start t : Governor} {e : Event} {trace : List (Governor × Event)} {id : SubjectId}

/-! ## The windows of a subject -/

/-- What a committed decision says about a subject it has authority for, under its policy. -/
def windowsIn (id : SubjectId) : Governor × FairnessDecision →
    List (FairnessPolicy × SubjectFairnessState)
  | (g, decision) => (decision.subjects.filter fun state =>
      state.hasAuthority = true ∧ state.id = id).map fun state => (g.policy, state)

/-- The windows that were committed with authority for a subject, each with its policy. -/
def windowsOf (id : SubjectId) (trace : List (Governor × Event)) :
    List (FairnessPolicy × SubjectFairnessState) :=
  (successfulCommits trace).flatMap (windowsIn id)

@[simp] lemma windowsOf_append (first second : List (Governor × Event)) :
    windowsOf id (first ++ second) = windowsOf id first ++ windowsOf id second := by
  simp [windowsOf]

lemma windowsOf_other (h : ∀ decision, e ≠ .commit decision (.ok ())) :
    windowsOf id [(g, e)] = [] := by
  unfold windowsOf
  rw [successfulCommits_other h]
  rfl

lemma filter_record {states : List SubjectFairnessState} {state : SubjectFairnessState}
    (hnodup : (states.map (·.id)).Nodup) (hstate : state ∈ states)
    (hauth : state.hasAuthority = true) :
    (states.filter fun s => s.hasAuthority = true ∧ s.id = state.id) = [state] := by
  induction states with
  | nil => cases hstate
  | cons head rest ih =>
    rw [List.map_cons, List.nodup_cons] at hnodup
    rcases List.mem_cons.mp hstate with rfl | hrest
    · rw [List.filter_cons_of_pos (by simp [hauth]), List.filter_eq_nil_iff.mpr]
      intro s hs hboth
      exact hnodup.1 (List.mem_map.mpr ⟨s, hs, (of_decide_eq_true hboth).2⟩)
    · have hother : head.id ≠ state.id := fun heq =>
        hnodup.1 (List.mem_map.mpr ⟨state, hrest, heq.symm⟩)
      rw [List.filter_cons_of_neg (by simp [hother])]
      exact ih hnodup.2 hrest

/-- A committed decision has at most one record of a subject. -/
lemma windowsOf_committed {decision : FairnessDecision}
    (hnodup : (decision.subjects.map (·.id)).Nodup) :
    (windowsOf id [(g, .commit decision (.ok ()))] = [] ∧
      ∀ state ∈ decision.subjects, state.hasAuthority = true → state.id ≠ id) ∨
    ∃ state ∈ decision.subjects, state.hasAuthority = true ∧ state.id = id ∧
      windowsOf id [(g, .commit decision (.ok ()))] = [(g.policy, state)] := by
  unfold windowsOf
  rw [successfulCommits_committed, List.flatMap_singleton, windowsIn]
  by_cases h : ∃ state ∈ decision.subjects, state.hasAuthority = true ∧ state.id = id
  · right
    obtain ⟨state, hstate, hauth, rfl⟩ := h
    refine ⟨state, hstate, hauth, rfl, ?_⟩
    rw [filter_record hnodup hstate hauth]
    rfl
  · left
    have hnone : ∀ state ∈ decision.subjects, state.hasAuthority = true → state.id ≠ id :=
      fun state hstate hauth hid => h ⟨state, hstate, hauth, hid⟩
    refine ⟨?_, hnone⟩
    rw [List.map_eq_nil_iff, List.filter_eq_nil_iff]
    intro state hstate
    simpa using hnone state hstate

/-! ## The identity -/

/-- An entry that is the sum of its windows. -/
structure Closed (windows : List (FairnessPolicy × SubjectFairnessState))
    (entry : SubjectAccounting) : Prop where
  closure : entry.closure =
    (windows.map fun w => (w.2.entitlementUnits : ℤ) - w.2.servedUnits).sum
  netted : entry.cumulativeDeficit = 0 ∨ entry.cumulativeSurplus = 0
  bounded : ∀ w ∈ windows.getLast?, entry.cumulativeDeficit ≤ w.1.maxCarryUnits ∧
    entry.cumulativeSurplus ≤ w.1.maxCarryUnits
  total : entry.totalServedUnits.toNat = (windows.map (·.2.servedUnits)).sum
  observed : entry.windowsObserved.toNat = windows.length

/-- A fresh entry is the sum of no windows. -/
lemma Closed.fresh (id : SubjectId) (generation : SubjectGeneration) :
    Closed [] { id := id, generation := generation } := by
  refine ⟨rfl, .inl rfl, ?_, rfl, rfl⟩
  intro w hw
  cases hw

/-- Remembering a correction does not touch the sums. -/
lemma Closed.same {windows : List (FairnessPolicy × SubjectFairnessState)}
    {a b : SubjectAccounting} (h : Closed windows a) (hsame : SameEntry a b) : Closed windows b := by
  obtain ⟨_, _, rfl⟩ := hsame
  exact ⟨h.closure, h.netted, h.bounded, h.total, h.observed⟩

/-- Applying a window adds it to the sums. -/
lemma Closed.after {windows : List (FairnessPolicy × SubjectFairnessState)}
    {entry : SubjectAccounting} {policy : FairnessPolicy} {state : SubjectFairnessState}
    {carry : CarryOutcome} (h : Closed windows entry)
    (hnet : netUnits state = (state.entitlementUnits : ℤ) - state.servedUnits)
    (hcarry : applyWindowCarry entry (netUnits state) policy.maxCarryUnits.toNat = some carry)
    (hfit : CountersFit entry state) :
    Closed (windows ++ [(policy, state)]) (entry.after state carry) := by
  obtain ⟨hclosure, hnetted, hdeficit, hsurplus, hd, hs, hdd, hds⟩ := applyWindowCarry_eq_some hcarry
  constructor
  · rw [List.map_append, List.sum_append, ← h.closure, List.map_singleton, List.sum_singleton,
      ← hnet, ← hclosure]
    unfold SubjectAccounting.after SubjectAccounting.closure CarryOutcome.closure
    dsimp only
    rw [toNat_ofNat_of_le hd, toNat_ofNat_of_le hs, toNat_ofNat_of_le hdd, toNat_ofNat_of_le hds]
  · -- a window carries a deficit or a surplus, not both
    rcases hnetted h.netted with hzero | hzero
    · left
      unfold SubjectAccounting.after
      rw [hzero]
      rfl
    · right
      unfold SubjectAccounting.after
      rw [hzero]
      rfl
  · intro w hw
    rw [List.getLast?_concat] at hw
    obtain rfl := Option.some.inj hw
    unfold SubjectAccounting.after
    rw [UInt64.le_iff_toNat_le, UInt64.le_iff_toNat_le]
    dsimp only
    rw [toNat_ofNat_of_le hd, toNat_ofNat_of_le hs]
    exact ⟨hdeficit, hsurplus⟩
  · rw [List.map_append, List.sum_append, ← h.total, List.map_singleton, List.sum_singleton]
    exact toNat_ofNat_of_le hfit.total
  · rw [List.length_append, ← h.observed, List.length_singleton]
    exact toNat_ofNat_of_le hfit.windows

/-! ## Over a run -/

/-- Every successfully committed decision was evaluated by this governor before. -/
def Owned (trace : List (Governor × Event)) : Prop :=
  ∀ before t decision after, trace = before ++ (t, .commit decision (.ok ())) :: after →
    EvaluatedIn before decision

lemma Owned.of_append {last : Governor × Event} (h : Owned (trace ++ [last])) : Owned trace := by
  intro before t decision after htrace
  exact h before t decision (after ++ [last]) (by rw [htrace]; simp)

/-- The books are the sums of the windows: a subject without an entry has none. -/
def SumsUp (trace : List (Governor × Event)) (accounting : FairnessAccounting) : Prop :=
  ∀ id, match accounting.find id with
    | none => windowsOf id trace = []
    | some entry => windowsOf id trace ≠ [] ∧ Closed (windowsOf id trace) entry

lemma run_sumsUp (hstart : Sound start) (hempty : start.accounting.subjects = [])
    (hrun : Run Step start trace g) (howned : Owned trace) : SumsUp trace g.accounting := by
  induction hrun with
  | nil =>
    intro id
    rw [find_eq_entryOf, hempty]
    rfl
  | @snoc trace t u e hrun hstep ih =>
    intro id
    have hbefore := ih howned.of_append id
    rw [windowsOf_append]
    rcases hstep.books_cases with ⟨hbooks, hnone⟩ | ⟨decision, accounting, _, rfl, hchecked, happlied, rfl⟩
    · rw [windowsOf_other hnone, List.append_nil, find_eq_entryOf, hbooks.subjects]
      exact hbefore
    · have hevaluated := howned trace t decision [] rfl
      obtain ⟨hnodup, hprojected⟩ := evaluatedIn_spec hstart hrun hevaluated hchecked
      dsimp only
      rcases @windowsOf_committed t id decision hnodup with ⟨hnone, hothers⟩ | ⟨state, hstate, hauth, rfl, hone⟩
      · -- no authority for the subject
        obtain ⟨change, hchange, hfound⟩ := happlied.other hothers
        rw [hnone, List.append_nil, hfound]
        cases hfind : t.accounting.find id with
        | none =>
          rw [hfind] at hbefore
          exact hbefore
        | some entry =>
          rw [hfind] at hbefore
          exact ⟨hbefore.1, hbefore.2.same (hchange entry)⟩
      · -- the subject's window is added to its entry
        obtain ⟨updated, after, hupdated, hsame, hfound⟩ := happlied.entry hnodup hstate hauth
        obtain ⟨carry, hcarry, hfit, rfl⟩ := applyState_eq_ok.mp hupdated
        have hentry : Closed (windowsOf state.id trace) ((entryOf state.id t.accounting.subjects).getD
            { id := state.id, generation := state.generation }) := by
          rw [find_eq_entryOf] at hbefore
          cases hfind : entryOf state.id t.accounting.subjects with
          | none =>
            rw [hfind] at hbefore
            rw [hbefore]
            exact .fresh _ _
          | some entry =>
            rw [hfind] at hbefore
            exact hbefore.2
        rw [hone, hfound]
        refine ⟨by simp, ?_⟩
        exact (hentry.after (hprojected state hstate hauth).net hcarry hfit).same hsame

/-- Over every run of a governor opened with empty accounting whose commits are of its own
decisions, every entry is the sum of its windows. -/
theorem accounting_closes {config : GovernorConfig} {boot : BootId}
    (hopens : Opens config boot start) (hempty : start.accounting.subjects = [])
    (hrun : Run Step start trace g) (howned : Owned trace) :
    ∀ entry ∈ g.accounting.subjects,
      windowsOf entry.id trace ≠ [] ∧ Closed (windowsOf entry.id trace) entry := by
  intro entry hentry
  have hnodup : (g.accounting.subjects.map (·.id)).Nodup := run_nodup hrun (by simp [hempty])
  have hsums := run_sumsUp hopens.sound hempty hrun howned entry.id
  rw [find_eq_entryOf, entryOf_mem hnodup hentry] at hsums
  exact hsums

theorem accounting_closes_first :
    (committedTo stagedGovernor firstDecision).2.accounting.subjects.length = 2 ∧
      ∀ entry ∈ (committedTo stagedGovernor firstDecision).2.accounting.subjects,
        windowsOf entry.id firstCalls ≠ [] ∧ Closed (windowsOf entry.id firstCalls) entry := by
  refine ⟨by decide +kernel, ?_⟩
  have hopens := @memoryGovernor_opens pairPolicy (by decide +kernel)
  have hempty : (memoryGovernor pairPolicy).accounting.subjects = [] := rfl
  have howned : Owned firstCalls := by
    intro before t decision after htrace
    obtain ⟨hdecision, call, hbefore⟩ := firstCalls_commit htrace
    rw [hdecision, hbefore]
    exact ⟨stagedGovernor, pairRequest, List.mem_cons_of_mem _ List.mem_cons_self⟩
  exact accounting_closes hopens hempty firstRun howned

end FairnessGovernor
