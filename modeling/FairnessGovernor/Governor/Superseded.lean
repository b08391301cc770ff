/-
# The evidence behind a commit

`commit` does not look at the staged evidence.  A committed decision is about the snapshot that
is staged when it was evaluated with authority and nothing has touched the snapshot since: an
ingestion may replace it, and it may evict it.
-/
import FairnessGovernor.Governor.Serialized
import FairnessGovernor.Governor.Sound

namespace FairnessGovernor

open Program Runs

variable {g g' t u : Governor} {e : Event} {decision : FairnessDecision}
  {trace : List (Governor × Event)}

/-- The snapshot staged for the decision's window is the one the decision names. -/
def NamesStaged (g : Governor) (decision : FairnessDecision) : Prop :=
  ∃ snapshot, g.staged[decision.authority.window.value]? = some snapshot ∧
    snapshot.id = decision.authority.evidenceId ∧
    snapshot.generation = decision.authority.evidenceGeneration ∧
    snapshot.windowGeneration = decision.authority.windowGeneration

/-- A call that leaves the snapshot of a window where it is: an evaluation, a commit, or the
ingestion of a snapshot for another window that does not evict it. -/
def LeavesWindow (window : UInt64) : Governor × Event → Prop
  | (g, .ingest snapshot _) => (g.ingestEvidence snapshot).2 = g ∨
      snapshot.window.value ≠ window ∧ window ∈ (g.stage snapshot).staged
  | (_, .evaluate _ _) => True
  | (_, .commit _ _) => True
  | _ => False

/-- The committed decision was evaluated with authority, and its window was left alone since. -/
def Justified (before : List (Governor × Event)) (decision : FairnessDecision) : Prop :=
  decision.correction.authorityMissing = false ∧
    ∃ first mid t request, before = first ++ (t, .evaluate request (.ok decision)) :: mid ∧
      ∀ call ∈ mid, LeavesWindow decision.authority.window.value call

/-- A decision with authority names the snapshot it was computed from. -/
lemma evaluate_namesStaged {request : EvaluationRequest} (h : g.evaluate request = .ok decision)
    (hauth : decision.correction.authorityMissing = false) : NamesStaged g decision := by
  have hauthority := evaluate_authority h
  obtain ⟨-, evaluated, heval, hsigned⟩ := Governor.evaluate_eq_ok h
  obtain ⟨tree, eligible, whole, numbered, planned, states, hs, hd, -⟩ :=
    evaluateFairness_stages rfl rfl heval
  rw [hsigned] at hauth
  have hmissing : planned.correction.authorityMissing = false := hd.correction ▸ hauth
  rw [hs.missing] at hmissing
  cases eligible with
  | error failure => cases hmissing
  | ok snapshot =>
    have heligible := Eligible.of_ok hs.eligible_eq
    unfold NamesStaged
    rw [hauthority]
    exact ⟨snapshot, heligible.staged, heligible.evidenceId, heligible.evidenceGeneration,
      heligible.windowGeneration⟩

/-- What leaves the window alone leaves its snapshot staged. -/
lemma Step.namesStaged (hstep : Step g e g')
    (hleaves : LeavesWindow decision.authority.window.value (g, e))
    (h : NamesStaged g decision) : NamesStaged g' decision := by
  obtain ⟨snapshot, hstaged, hnamed⟩ := h
  cases hstep.change with
  | none | committed => exact ⟨snapshot, hstaged, hnamed⟩
  | @staged other _ haccepts =>
    rcases hleaves with hsame | ⟨hwindow, hkept⟩
    · rw [haccepts.ingestEvidence_eq] at hsame
      rw [show g.stage other = g from hsame]
      exact ⟨snapshot, hstaged, hnamed⟩
    · -- another window that is still there was there before
      obtain ⟨kept, hlookup⟩ := Option.isSome_iff_exists.mp
        (Std.TreeMap.isSome_getElem?_iff_mem.mpr hkept)
      have hbefore := getElem?_bounded hlookup
      rw [Std.TreeMap.getElem?_insert, if_neg fun heq => hwindow
        (Std.LawfulEqCmp.eq_of_compare heq), hstaged] at hbefore
      obtain rfl := Option.some.inj hbefore
      exact ⟨snapshot, hlookup, hnamed⟩
  | undone | installed | putBack | advanced | cleared | stopped => exact hleaves.elim

/-- In every run, a commit of a justified decision finds the snapshot that the decision names
staged. -/
theorem commits_bound_to_evidence {start : Governor} (h : Run Step start trace u)
    (hjustified : ∀ before t decision after,
      trace = before ++ (t, .commit decision (.ok ())) :: after → Justified before decision) :
    ∀ t decision, (t, .commit decision (.ok ())) ∈ trace → NamesStaged t decision := by
  intro t decision hmem
  obtain ⟨before, after, _, htrace, hbefore, -, -⟩ := h.upTo hmem
  obtain ⟨hauth, first, mid, s, request, hsplit, hleaves⟩ :=
    hjustified before t decision after htrace
  rw [hsplit] at hbefore
  obtain ⟨s', -, hevaluate, hmid⟩ := hbefore.split
  obtain ⟨hresult, rfl⟩ := hevaluate.evaluated
  refine hmid.keeps (P := fun s => NamesStaged s decision)
    (evaluate_namesStaged hresult.symm hauth) fun s' e' u' hcall hnames hstep => ?_
  exact hstep.namesStaged (hleaves _ hcall) hnames

theorem commits_bound_to_evidence_first :
    (stagedGovernor, .commit firstDecision (.ok ())) ∈ firstCalls ∧
      ∀ t decision, (t, .commit decision (.ok ())) ∈ firstCalls → NamesStaged t decision := by
  refine ⟨?_, ?_⟩
  · show (_, Event.commit _ _) ∈ [_, _, (_, Event.commit _ (committedTo _ _).1)]
    rw [firstDecision_committed]
    simp
  have hauth : firstDecision.correction.authorityMissing = false := by decide +kernel
  refine commits_bound_to_evidence firstRun fun before t decision after htrace => ?_
  obtain ⟨hdecision, call, hbefore⟩ := firstCalls_commit htrace
  rw [hdecision, hbefore]
  exact ⟨hauth, [call], [], _, _, rfl, by simp⟩

/-- A newer snapshot of the first window. -/
def newerSnapshot : EvidenceSnapshot := { pairSnapshot with generation := ⟨2⟩, sequence := 1 }

/-- The governor once the newer snapshot has replaced the first one. -/
def supersededGovernor : Governor := (stagedGovernor.ingestEvidence newerSnapshot).2

/-- The decision about the first snapshot is committed although a newer one has replaced it. -/
theorem not_commits_bound_to_evidence :
    Run Step (memoryGovernor pairPolicy)
      [(memoryGovernor pairPolicy,
          .ingest pairSnapshot ((memoryGovernor pairPolicy).ingestEvidence pairSnapshot).1),
        (stagedGovernor, .evaluate pairRequest (stagedGovernor.evaluate pairRequest)),
        (stagedGovernor, .ingest newerSnapshot (stagedGovernor.ingestEvidence newerSnapshot).1),
        (supersededGovernor, .commit firstDecision (committedTo supersededGovernor firstDecision).1)]
      (committedTo supersededGovernor firstDecision).2 ∧
    stagedGovernor.evaluate pairRequest = .ok firstDecision ∧
    (committedTo supersededGovernor firstDecision).1 = .ok () ∧
    ¬ NamesStaged supersededGovernor firstDecision := by
  refine ⟨(((Run.nil.snoc (.ingest _ _)).snoc (.evaluate _ _)).snoc (.ingest _ _)).snoc
    (.committedTo _ _), firstDecision_evaluated, by decide +kernel, ?_⟩
  · rintro ⟨snapshot, hstaged, -, hgeneration, -⟩
    have hstage : (supersededGovernor.staged[firstDecision.authority.window.value]?.map
        (·.generation)) = some ⟨2⟩ ∧ firstDecision.authority.evidenceGeneration = ⟨1⟩ := by
      decide +kernel
    rw [hstaged, Option.map_some, hgeneration, hstage.2] at hstage
    exact absurd hstage.1 (by decide)

end FairnessGovernor
