/-
# Contradictory evidence

An identity that was accepted is refused with other content as long as the history holds it.  It is
lost when the history is full and it is the first of its keys, and when an advance or an
installation drops the history and then fails to move the epoch.  In a run without either, no
identity is staged twice within an epoch.
-/
import FairnessGovernor.Governor.Reingestion

namespace FairnessGovernor

open Program Runs Retention
open Governor (ingestKey)

variable {g g' t u start : Governor} {e : Event} {snapshot other : EvidenceSnapshot}
  {snapshots : List EvidenceSnapshot} {trace : List (Governor × Event)}

/-- No two snapshots that a run has staged in one epoch, with no clearing on demand between them,
have one identity and generation and different content. -/
def NeverContradictory (trace : List (Governor × Event)) : Prop :=
  ∀ before between after t u first second result result',
    trace = before ++ (t, .ingest first (.ok result)) :: between ++
      (u, .ingest second (.ok result')) :: after →
    result.disposition = .staged → result'.disposition = .staged →
    t.epoch = u.epoch → (∀ v, (v, .clearStaged) ∉ between) →
    first.id = second.id → first.generation = second.generation → first = second

/-- The identity of a snapshot that is staged survives its own insertion, and what drops the
history while it holds something also moves the epoch. -/
structure KeepsHistory (g : Governor) (e : Event) (g' : Governor) : Prop where
  identity : ∀ snapshot, e.accepts = some snapshot →
    Retains (g.stagedLimit * 4) g.ingested (ingestKey snapshot)
  epoch : Drops g e → e ≠ .clearStaged → e ≠ .shutdown → 0 < g.ingested.size →
    g'.epoch ≠ g.epoch

/-- A step that keeps the history. -/
def HistoryStep (g : Governor) (e : Event) (g' : Governor) : Prop :=
  Step g e g' ∧ KeepsHistory g e g'

/-! ## What the history knows -/

/-- The snapshot was accepted since what was ingested was last dropped. -/
def Recalls (g : Governor) (snapshot : EvidenceSnapshot) : Prop :=
  ∃ snapshots, Remembers g snapshots ∧ snapshot ∈ snapshots

lemma mem_keysOf_identityEntry (h : snapshot ∈ snapshots) :
    ingestKey snapshot ∈ keysOf (snapshots.map identityEntry) :=
  mem_keysOf.mpr ⟨evidenceDigest snapshot, List.mem_map.mpr ⟨snapshot, h, rfl⟩⟩

/-- An identity that was accepted is in the history, or it would not survive being inserted. -/
lemma Remembers.known (h : Remembers g snapshots) (hmem : snapshot ∈ snapshots)
    (hretains : Retains (g.stagedLimit * 4) g.ingested (ingestKey snapshot)) :
    g.ingested[ingestKey snapshot]? ≠ none := by
  have hsize : g.ingested.size ≤ g.stagedLimit * 4 := by
    rw [h.ingested]
    exact size_recording_le
  rw [retains_iff hsize, h.ingested, keySet_recording, retained_insert,
    Finset.insert_eq_of_mem (mem_keysOf_identityEntry hmem)] at hretains
  have hknown : ingestKey snapshot ∈ keySet g.ingested := by
    rw [h.ingested, keySet_recording]
    exact hretains
  intro hnone
  exact getElem?_eq_none_iff.mp hnone hknown

/-- A history is not empty once something was accepted. -/
lemma Remembers.size_pos (h : Remembers g snapshots) (hmem : snapshot ∈ snapshots)
    (hpos : 0 < g.stagedLimit) : 0 < g.ingested.size := by
  rw [← card_keySet, h.ingested, keySet_recording, card_retained]
  exact lt_min (by omega) (Finset.card_pos.mpr ⟨_, mem_keysOf_identityEntry hmem⟩)

/-! ## Steps and runs -/

/-- A governor that is running was not shut down. -/
lemma Step.running (h : Step g e g') (hrunning : g'.stopping = false) :
    g.stopping = false ∧ e ≠ .shutdown := by
  cases h.change with
  | none hidle =>
    refine ⟨hrunning, ?_⟩
    rintro rfl
    rw [Idle, hrunning] at hidle
    cases hidle
  | staged | committed | putBack | advanced | cleared => exact ⟨hrunning, nofun⟩
  | undone hcheck | installed _ _ hcheck =>
    exact ⟨(checkInstall_eq_ok.mp hcheck).not_stopping, nofun⟩
  | stopped => cases hrunning

/-- What was accepted stays accepted while the history is kept and the epoch does not move. -/
lemma Recalls.step (h : Recalls g snapshot) (hpos : 0 < g.stagedLimit) (hstep : HistoryStep g e g')
    (hepoch : g'.epoch = g.epoch) (hrunning : g'.stopping = false) (hclear : e ≠ .clearStaged) :
    Recalls g' snapshot := by
  obtain ⟨snapshots, hremembers, hmem⟩ := h
  obtain ⟨hstep, hkeeps⟩ := hstep
  cases hstep.intake with
  | stages haccepts =>
    exact ⟨_, stage_remembers haccepts hremembers, List.mem_append_left _ hmem⟩
  | keeps hdrops haccepts hsame => exact ⟨snapshots, hsame.remembers hremembers, hmem⟩
  | drops hdrops hempty =>
    have hshutdown := (hstep.running hrunning).2
    have hsize := hremembers.size_pos hmem hpos
    exact absurd hepoch (hkeeps.epoch hdrops hclear hshutdown hsize)

lemma run_of_historyRun (h : Run HistoryStep start trace g) : Run Step start trace g := by
  induction h with
  | nil => exact .nil
  | snoc _ hstep ih => exact ih.snoc hstep.1

/-- So it is still accepted after a run within the epoch. -/
lemma Recalls.run (h : Recalls start snapshot) (hpos : 0 < start.stagedLimit)
    (hrun : Run HistoryStep start trace g) (hepoch : g.epoch = start.epoch)
    (hrunning : g.stopping = false) (hclear : ∀ v, (v, .clearStaged) ∉ trace) :
    Recalls g snapshot := by
  induction hrun with
  | nil => exact h
  | @snoc trace t u e hbefore hstep ih =>
    have hsteps := run_of_historyRun hbefore
    -- the epoch only moves forward, so it did not move before the last step either
    have hsame : t.epoch = start.epoch := by
      have hfirst := run_epoch_le hsteps
      have hlast := hstep.1.epoch_le
      rw [hepoch] at hlast
      exact Generation.ext (UInt64.le_antisymm hlast hfirst)
    have hrecalls := ih hsame (hstep.1.running hrunning).1
      fun v hmem => hclear v (List.mem_append_left _ hmem)
    refine hrecalls.step ?_ hstep (hepoch.trans hsame.symm) hrunning ?_
    · rw [run_stagedLimit hsteps]
      exact hpos
    · rintro rfl
      exact hclear t (by simp)

/-- A snapshot that an operation reports as staged was accepted. -/
lemma IntakeStep.accepts {result : IngestResult}
    (h : IntakeStep g (.ingest snapshot (.ok result)) g') (hstaged : result.disposition = .staged) :
    g.Accepts snapshot ∧ g' = g.stage snapshot := by
  cases h with
  | stages haccepts => exact ⟨haccepts, rfl⟩
  | keeps hdrops hnone hkeeps =>
    rw [Event.accepts, if_pos hstaged] at hnone
    cases hnone
  | drops hdrops hempty => cases hdrops

/-- In a run that keeps the history no identity is staged twice within an epoch. -/
theorem never_contradictory {config : GovernorConfig} {boot : BootId}
    (hopens : Opens config boot start) (hrun : Run HistoryStep start trace g) :
    NeverContradictory trace := by
  rintro before between after t u first second result result' rfl hfirst hsecond hepoch hclear hid
    hgeneration
  obtain ⟨u', hrun, hsecondStep, -⟩ := hrun.split
  obtain ⟨t', hbefore, hfirstStep, hbetween⟩ := hrun.split
  obtain ⟨haccepts, rfl⟩ := hfirstStep.1.intake.accepts hfirst
  obtain ⟨haccepts', rfl⟩ := hsecondStep.1.intake.accepts hsecond
  have hsteps := run_of_historyRun hbefore
  have hpos : 0 < (t.stage first).stagedLimit := by
    show 0 < t.stagedLimit
    rw [run_stagedLimit hsteps]
    exact hopens.stagedLimit_pos
  have hrecalls : Recalls (t.stage first) first :=
    ⟨_, stage_remembers haccepts (run_remembers hopens hsteps), by simp⟩
  have hrunning : u.stopping = false := by
    obtain ⟨-, hchecked⟩ := bind_unit_eq_ok.mp haccepts'.checked
    simpa using (rejectIf_bind_eq_ok.mp hchecked).1
  obtain ⟨snapshots, hremembers, hmem⟩ :=
    hrecalls.run hpos hbetween hepoch.symm hrunning hclear
  -- the second snapshot has the key of the first, which the history still knows
  have hkey : ingestKey second = ingestKey first := by
    rw [ingestKey, ingestKey, hid, hgeneration]
  have hretains := hsecondStep.2.identity second (by rw [Event.accepts, if_pos hsecond])
  rw [hkey] at hretains
  have hfresh := haccepts'.fresh
  rw [hkey] at hfresh
  exact absurd hfresh (hremembers.known hmem hretains)

/-- The first window is staged, and comes again with its observations in another order: it is
refused. -/
theorem never_contradictory_swapped :
    NeverContradictory [(memoryGovernor pairPolicy, .ingest pairSnapshot
        ((memoryGovernor pairPolicy).ingestEvidence pairSnapshot).1),
      (stagedGovernor, .ingest swappedSnapshot (stagedGovernor.ingestEvidence swappedSnapshot).1)] := by
  have hopens : Opens (memoryConfig pairPolicy) ⟨7⟩ (memoryGovernor pairPolicy) :=
    memoryGovernor_opens (by decide +kernel)
  have hroom : (memoryGovernor pairPolicy).ingested.size <
      (memoryGovernor pairPolicy).stagedLimit * 4 := by decide +kernel
  have hlater : stagedGovernor.ingested.size < stagedGovernor.stagedLimit * 4 := by decide +kernel
  have hfirst : HistoryStep (memoryGovernor pairPolicy) (.ingest pairSnapshot
      ((memoryGovernor pairPolicy).ingestEvidence pairSnapshot).1) stagedGovernor :=
    ⟨.ingest _ _, fun _ _ => .inr (.inl hroom), nofun⟩
  have hsecond : HistoryStep stagedGovernor (.ingest swappedSnapshot
      (stagedGovernor.ingestEvidence swappedSnapshot).1)
      (stagedGovernor.ingestEvidence swappedSnapshot).2 :=
    ⟨.ingest _ _, fun _ _ => .inr (.inl hlater), nofun⟩
  exact never_contradictory hopens ((Run.nil.snoc hfirst).snoc hsecond)

/-! ## A history that is full -/

/-- The calls of a client that ingests one snapshot after the other. -/
def ingestCalls (g : Governor) : List EvidenceSnapshot → List (Governor × Event)
  | [] => []
  | snapshot :: rest => (g, .ingest snapshot (g.ingestEvidence snapshot).1) ::
      ingestCalls (g.ingestEvidence snapshot).2 rest

lemma ingestRun (g : Governor) (list : List EvidenceSnapshot) :
    Run Step g (ingestCalls g list) (g.ingestAll list) := by
  induction list generalizing g with
  | nil => exact .nil
  | cons snapshot rest ih => exact Run.cons (.ingest g snapshot) (ih _)

/-- A history of four identities that is full. -/
def fullGovernor : Governor :=
  narrowGovernor.ingestAll
    [windowSnapshot 5 1, windowSnapshot 6 2, windowSnapshot 7 3, windowSnapshot 8 4]

/-- The first identity is not recorded in a full history, and is staged again for another
window. -/
theorem not_never_contradictory : ¬ ∀ (config : GovernorConfig) (boot : BootId)
    (start g : Governor) (trace : List (Governor × Event)), Opens config boot start →
      Run Step start trace g → NeverContradictory trace := by
  intro h
  have hfirst : fullGovernor.Accepts (windowSnapshot 1 5) :=
    ⟨by decide +kernel, by decide +kernel, by decide +kernel⟩
  have hsecond : (fullGovernor.stage (windowSnapshot 1 5)).Accepts (windowSnapshot 1 6) :=
    ⟨by decide +kernel, by decide +kernel, by decide +kernel⟩
  have hstep₁ := Step.ingest fullGovernor (windowSnapshot 1 5)
  have hstep₂ := Step.ingest (fullGovernor.stage (windowSnapshot 1 5)) (windowSnapshot 1 6)
  rw [hfirst.ingestEvidence_eq] at hstep₁
  rw [hsecond.ingestEvidence_eq] at hstep₂
  have hsame := h _ _ _ _ _ narrowGovernor_opens (((ingestRun _ _).snoc hstep₁).snoc hstep₂)
    _ [] [] _ _ _ _ _ _ rfl rfl rfl rfl (by simp) rfl rfl
  have hwindow : (5 : UInt64) = 6 := congrArg (·.window.value) hsame
  exact absurd hwindow (by decide)

end FairnessGovernor
