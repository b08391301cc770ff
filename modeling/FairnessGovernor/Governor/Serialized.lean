/-
# Serialized, atomic commits

Over any interleaving of the clients' operations the successful commits are a sequence: the
accounting generation counts them, their windows increase strictly, and no two of them were
evaluated at the same accounting generation.  A commit that fails changes nothing.
-/
import FairnessGovernor.Governor.CommitSpec
import FairnessGovernor.Governor.Sample

namespace FairnessGovernor

open Program Runs

/-- The successful commits of a trace, with the state before each. -/
def successfulCommits (trace : List (Governor × Event)) : List (Governor × FairnessDecision) :=
  trace.filterMap fun
    | (g, .commit decision (.ok ())) => some (g, decision)
    | _ => none

@[simp] lemma successfulCommits_append (first second : List (Governor × Event)) :
    successfulCommits (first ++ second) = successfulCommits first ++ successfulCommits second :=
  List.filterMap_append ..

variable {g g' start : Governor} {e : Event} {trace : List (Governor × Event)}

lemma successfulCommits_committed (decision : FairnessDecision) :
    successfulCommits [(g, .commit decision (.ok ()))] = [(g, decision)] := rfl

lemma successfulCommits_other (h : ∀ decision, e ≠ .commit decision (.ok ())) :
    successfulCommits [(g, e)] = [] := by
  cases e with
  | commit decision result =>
    cases result with
    | ok _ => exact absurd rfl (h decision)
    | error s => rfl
  | ingest | evaluate | installPolicy | advanceEpoch | clearStaged | shutdown => rfl

/-! ## One step -/

/-- What one operation does to the committed state. -/
structure Atomic (g : Governor) (e : Event) (g' : Governor) : Prop where
  committed : ∀ decision, e = .commit decision (.ok ()) →
    g'.accounting.generation.toNat = g.accounting.generation.toNat + 1 ∧
      g'.accounting.lastWindow = decision.authority.window ∧
      g.accounting.lastWindow.value < g'.accounting.lastWindow.value ∧
      decision.authority.accountingGeneration = g.accounting.generation
  other : (∀ decision, e ≠ .commit decision (.ok ())) →
    g'.accounting.generation = g.accounting.generation ∧
      g'.accounting.lastWindow = g.accounting.lastWindow
  failed : ∀ decision status, e = .commit decision (.error status) → g' = g

lemma Step.commit_error {decision : FairnessDecision} {status : Status}
    (h : Step g (.commit decision (.error status)) g') : g' = g := by
  cases h.change with
  | none => rfl

theorem Step.atomic (h : Step g e g') : Atomic g e g' := by
  refine ⟨?_, ?_, ?_⟩
  · rintro decision rfl
    cases h.change with
    | none hidle => exact hidle.elim
    | @committed _ accounting _ hcheck happly =>
      have hchecked := checkDecision_eq_ok.mp hcheck
      have happlied := applyDecision_eq_ok happly
      refine ⟨happlied.generation, happlied.lastWindow, ?_, hchecked.accountingGeneration⟩
      show g.accounting.lastWindow.value < accounting.lastWindow.value
      rw [happlied.lastWindow]
      exact hchecked.window_lt
  · intro hother
    rcases h.books with hbooks | ⟨decision, _, _, rfl, -⟩
    · exact ⟨hbooks.generation, hbooks.lastWindow⟩
    · exact absurd rfl (hother decision)
  · rintro decision status rfl
    exact h.commit_error

/-! ## A run -/

/-- The successful commits of a run, serialized. -/
structure Serialized (start : Governor) (trace : List (Governor × Event)) (g : Governor) :
    Prop where
  counted : g.accounting.generation.toNat =
    start.accounting.generation.toNat + (successfulCommits trace).length
  windows : (successfulCommits trace).Pairwise fun a b =>
    a.2.authority.window.value < b.2.authority.window.value
  generations : (successfulCommits trace).Pairwise fun a b =>
    a.2.authority.accountingGeneration ≠ b.2.authority.accountingGeneration
  evaluated : ∀ t request decision, (t, .evaluate request (.ok decision)) ∈ trace →
    decision.authority.accountingGeneration = t.accounting.generation

/-- What a run has committed lies behind it. -/
structure Behind (trace : List (Governor × Event)) (g : Governor) : Prop where
  windows : ∀ c ∈ successfulCommits trace,
    c.2.authority.window.value ≤ g.accounting.lastWindow.value
  generations : ∀ c ∈ successfulCommits trace,
    c.2.authority.accountingGeneration.toNat < g.accounting.generation.toNat

lemma evaluate_authority {request : EvaluationRequest} {decision : FairnessDecision}
    (h : g.evaluate request = .ok decision) :
    decision.authority =
      { decisionAuthority (g.context request) g.policy g.accounting with
        governor := g.incarnation } := by
  obtain ⟨-, evaluated, heval, rfl⟩ := Governor.evaluate_eq_ok h
  obtain ⟨_, _, _, _, _, _, -, hd, -⟩ := evaluateFairness_stages rfl rfl heval
  unfold FairnessDecision.signed
  dsimp only
  rw [hd.authority]

lemma Step.evaluated {request : EvaluationRequest} {result : Eval FairnessDecision}
    (h : Step g (.evaluate request result) g') : result = g.evaluate request ∧ g' = g := by
  cases h
  exact ⟨rfl, rfl⟩

/-- The run invariant: serialized so far, with everything committed behind. -/
lemma serialized_run (h : Run Step start trace g) : Serialized start trace g ∧ Behind trace g := by
  induction h with
  | nil => exact ⟨⟨rfl, .nil, .nil, by simp⟩, ⟨by simp [successfulCommits], by simp [successfulCommits]⟩⟩
  | @snoc trace t u e _ hstep ih =>
    obtain ⟨hs, hb⟩ := ih
    have hatomic := hstep.atomic
    have hevaluated : ∀ t' request decision,
        (t', .evaluate request (.ok decision)) ∈ trace ++ [(t, e)] →
        decision.authority.accountingGeneration = t'.accounting.generation := by
      intro t' request decision hmem
      rcases List.mem_append.mp hmem with hmem | hmem
      · exact hs.evaluated t' request decision hmem
      · obtain ⟨rfl, rfl⟩ := Prod.mk_inj.mp (List.mem_singleton.mp hmem)
        rw [evaluate_authority hstep.evaluated.1.symm]
        rfl
    by_cases hother : ∀ decision, e ≠ .commit decision (.ok ())
    · -- nothing is committed: the trace of commits and the counters stay
      obtain ⟨hgen, hwin⟩ := hatomic.other hother
      have hnone : successfulCommits (trace ++ [(t, e)]) = successfulCommits trace := by
        rw [successfulCommits_append, successfulCommits_other hother, List.append_nil]
      exact ⟨⟨by rw [hnone, hgen]; exact hs.counted, hnone ▸ hs.windows, hnone ▸ hs.generations,
        hevaluated⟩, ⟨by rw [hnone, hwin]; exact hb.windows, by rw [hnone, hgen]; exact hb.generations⟩⟩
    · push Not at hother
      obtain ⟨decision, rfl⟩ := hother
      obtain ⟨hgen, hwin, hlt, hauth⟩ := hatomic.committed decision rfl
      have hone : successfulCommits (trace ++ [(t, .commit decision (.ok ()))]) =
          successfulCommits trace ++ [(t, decision)] := successfulCommits_append _ _
      rw [hwin] at hlt
      refine ⟨⟨?_, ?_, ?_, hevaluated⟩, ⟨?_, ?_⟩⟩
      · rw [hone, List.length_append, List.length_singleton, hgen, hs.counted, Nat.add_assoc]
      · rw [hone, List.pairwise_append]
        refine ⟨hs.windows, List.pairwise_singleton _ _, ?_⟩
        rintro c hc _ (_ | ⟨_, h⟩)
        · exact UInt64.lt_of_le_of_lt (hb.windows c hc) hlt
        · cases h
      · rw [hone, List.pairwise_append]
        refine ⟨hs.generations, List.pairwise_singleton _ _, ?_⟩
        rintro c hc _ (_ | ⟨_, h⟩)
        · intro heq
          have hbehind := hb.generations c hc
          rw [heq, hauth] at hbehind
          exact absurd hbehind (Nat.lt_irrefl _)
        · cases h
      · rw [hone, hwin]
        intro c hc
        rcases List.mem_append.mp hc with hc | hc
        · exact UInt64.le_of_lt (UInt64.lt_of_le_of_lt (hb.windows c hc) hlt)
        · rw [List.mem_singleton.mp hc]
          exact UInt64.le_refl _
      · rw [hone, hgen]
        intro c hc
        rcases List.mem_append.mp hc with hc | hc
        · exact Nat.lt_succ_of_lt (hb.generations c hc)
        · rw [List.mem_singleton.mp hc, hauth]
          exact Nat.lt_succ_self _

/-- Whatever the clients do, the successful commits are serialized, and from every state of a run
each operation is atomic. -/
theorem commits_serialized (h : Run Step start trace g) :
    Serialized start trace g ∧ ∀ e g', Step g e g' → Atomic g e g' :=
  ⟨(serialized_run h).1, fun _ _ hstep => hstep.atomic⟩

theorem commits_serialized_first :
    (committedTo stagedGovernor firstDecision).1 = .ok () ∧
    Serialized (memoryGovernor pairPolicy) firstCalls (committedTo stagedGovernor firstDecision).2 ∧
    ∀ e g', Step (committedTo stagedGovernor firstDecision).2 e g' →
      Atomic (committedTo stagedGovernor firstDecision).2 e g' :=
  ⟨by decide +kernel, commits_serialized firstRun⟩

end FairnessGovernor
