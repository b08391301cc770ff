/-
# What a governor has ingested

Of its snapshots a governor keeps three maps.  In every reachable state they are determined by the
snapshots that were accepted since the maps were last dropped: each map holds the last of their
keys, with what the accepted snapshots have made of its value.
-/
import FairnessGovernor.Governor.BoundedMaps
import FairnessGovernor.Governor.Fencing

namespace FairnessGovernor

open Program Runs Retention
open Governor (ingestKey publisherKey)

/-! ## The accepted snapshots of a run -/

/-- The operation drops what was ingested. -/
def Drops (g : Governor) : Event → Prop
  | .installPolicy policy _ => g.checkInstall policy = .ok () ∧ g.epoch.value < policy.epoch.value
  | .advanceEpoch nextEpoch _ => g.checkAdvance nextEpoch = .ok ()
  | .clearStaged => True
  | .shutdown => g.stopping = false
  | _ => False

instance (g : Governor) : (e : Event) → Decidable (Drops g e)
  | .installPolicy policy _ => inferInstanceAs
      (Decidable (g.checkInstall policy = .ok () ∧ g.epoch.value < policy.epoch.value))
  | .advanceEpoch nextEpoch _ => inferInstanceAs (Decidable (g.checkAdvance nextEpoch = .ok ()))
  | .clearStaged => inferInstanceAs (Decidable True)
  | .shutdown => inferInstanceAs (Decidable (g.stopping = false))
  | .ingest _ _ => inferInstanceAs (Decidable False)
  | .evaluate _ _ => inferInstanceAs (Decidable False)
  | .commit _ _ => inferInstanceAs (Decidable False)

/-- The snapshot that an operation has staged. -/
def Event.accepts : Event → Option EvidenceSnapshot
  | .ingest snapshot (.ok result) =>
    if result.disposition = .staged then some snapshot else none
  | _ => none

/-- The accepted snapshots after one more operation. -/
def acceptedAfter (snapshots : List EvidenceSnapshot) (call : Governor × Event) :
    List EvidenceSnapshot :=
  if Drops call.1 call.2 then [] else snapshots ++ call.2.accepts.toList

/-- The snapshots that were accepted since what was ingested was last dropped. -/
def accepted (trace : List (Governor × Event)) : List EvidenceSnapshot :=
  trace.foldl acceptedAfter []

/-! ## What one operation does to the maps -/

/-- The operation leaves the maps, and what bounds them, as they were. -/
structure KeepsIntake (g g' : Governor) : Prop where
  config : g'.config = g.config
  epoch : g'.epoch = g.epoch
  staged : g'.staged = g.staged
  ingested : g'.ingested = g.ingested
  publisherSequences : g'.publisherSequences = g.publisherSequences

/-- The operation empties the maps. -/
structure DropsIntake (g g' : Governor) : Prop where
  config : g'.config = g.config
  staged : g'.staged = {}
  ingested : g'.ingested = {}
  publisherSequences : g'.publisherSequences = {}

/-- What an operation can do to the maps. -/
inductive IntakeStep (g : Governor) : Event → Governor → Prop
  | stages {snapshot : EvidenceSnapshot} : g.Accepts snapshot →
      IntakeStep g (.ingest snapshot (.ok (ingestResult .staged snapshot))) (g.stage snapshot)
  | keeps {e : Event} {g' : Governor} : ¬ Drops g e → e.accepts = none → KeepsIntake g g' →
      IntakeStep g e g'
  | drops {e : Event} {g' : Governor} : Drops g e → DropsIntake g g' → IntakeStep g e g'

variable {g g' start : Governor} {e : Event} {snapshot : EvidenceSnapshot}
  {snapshots : List EvidenceSnapshot} {trace : List (Governor × Event)}

lemma KeepsIntake.refl (g : Governor) : KeepsIntake g g := ⟨rfl, rfl, rfl, rfl, rfl⟩

lemma ingestEvidence_intake (g : Governor) (snapshot : EvidenceSnapshot) :
    IntakeStep g (.ingest snapshot (g.ingestEvidence snapshot).1)
      (g.ingestEvidence snapshot).2 := by
  by_cases h : g.Accepts snapshot
  · rw [h.ingestEvidence_eq]
    exact .stages h
  · rcases Governor.ingestEvidence_of_not_accepts h with heq | ⟨_, heq⟩
    · rw [heq]
      exact .keeps id rfl (.refl g)
    · rw [heq]
      exact .keeps id rfl (.refl g)

/-- A policy of a newer epoch drops what was ingested, also where its commit fails. -/
lemma installPolicy_intake {policy : FairnessPolicy} {result : Except Status Unit}
    (h : Returns (g.installPolicy policy) (result, g')) :
    IntakeStep g (.installPolicy policy result) g' := by
  cases hcheck : g.checkInstall policy with
  | error status =>
    obtain ⟨-, rfl⟩ := Governor.installPolicy_refused hcheck h
    refine .keeps ?_ rfl (.refl g')
    rintro ⟨hok, -⟩
    rw [hcheck] at hok
    cases hok
  | ok _ =>
    have hreturns := Governor.installPolicy_accepted hcheck h
    -- evidence is dropped when the epoch moves, whether or not the commit succeeds
    rcases withPolicy_cases (checkInstall_eq_ok.mp hcheck).epoch with ⟨hsame, heq⟩ | ⟨hlt, heq⟩
    · refine .keeps ?_ rfl ?_
      · rintro ⟨-, hlt⟩
        rw [hsame] at hlt
        exact UInt64.lt_irrefl _ hlt
      · rcases hreturns with ⟨_, -, rfl⟩ | ⟨_, _, rfl⟩
        · rw [heq]
          exact ⟨rfl, rfl, rfl, rfl, rfl⟩
        · rw [heq]
          exact ⟨rfl, rfl, rfl, rfl, rfl⟩
    · refine .drops ⟨hcheck, hlt⟩ ?_
      rcases hreturns with ⟨_, -, rfl⟩ | ⟨_, _, rfl⟩
      · rw [heq]
        exact ⟨rfl, rfl, rfl, rfl⟩
      · rw [heq]
        exact ⟨rfl, rfl, rfl, rfl⟩

/-- An advance drops what was ingested, also where its commit fails. -/
lemma advanceEpoch_intake {nextEpoch : FabricEpoch} {result : Except Status Unit}
    (h : Returns (g.advanceEpoch nextEpoch) (result, g')) :
    IntakeStep g (.advanceEpoch nextEpoch result) g' := by
  cases hcheck : g.checkAdvance nextEpoch with
  | error status =>
    obtain ⟨-, rfl⟩ := Governor.advanceEpoch_refused hcheck h
    refine .keeps ?_ rfl (.refl g')
    intro hok
    rw [Drops, hcheck] at hok
    cases hok
  | ok _ =>
    refine .drops hcheck ?_
    rcases Governor.advanceEpoch_accepted hcheck h with ⟨_, -, rfl⟩ | ⟨-, _, rfl⟩
    · exact ⟨rfl, rfl, rfl, rfl⟩
    · exact ⟨rfl, rfl, rfl, rfl⟩

/-- What each operation does to the maps. -/
lemma Step.intake (h : Step g e g') : IntakeStep g e g' := by
  cases h with
  | ingest snapshot => exact ingestEvidence_intake g snapshot
  | evaluate request => exact .keeps id rfl (.refl g)
  | commit h =>
    rcases Governor.commit_returns h with ⟨_, -, rfl⟩ | ⟨-, -, _, _, -, rfl⟩
    · exact .keeps id rfl (.refl g')
    · exact .keeps id rfl ⟨rfl, rfl, rfl, rfl, rfl⟩
  | installPolicy h => exact installPolicy_intake h
  | advanceEpoch h => exact advanceEpoch_intake h
  | clearStaged => exact .drops trivial ⟨rfl, rfl, rfl, rfl⟩
  | shutdown =>
    unfold Governor.shutdown
    split_ifs with hstopping
    · refine .keeps (fun hdrops => ?_) rfl (.refl g)
      rw [Drops, hstopping] at hdrops
      cases hdrops
    · exact .drops (Bool.eq_false_of_not_eq_true hstopping) ⟨rfl, rfl, rfl, rfl⟩

/-! ## The maps of a reachable governor -/

/-- The last value is the value. -/
def latest {β : Type} (_ : Option β) (new : β) : β := new

/-- The highest sequence is the value. -/
def highest (found : Option UInt64) (new : UInt64) : UInt64 := found.elim new (max · new)

/-- The entry of a snapshot among the staged ones. -/
def windowEntry (snapshot : EvidenceSnapshot) : UInt64 × EvidenceSnapshot :=
  (snapshot.window.value, snapshot)

/-- The entry of a snapshot in the history. -/
def identityEntry (snapshot : EvidenceSnapshot) : (UInt64 × UInt64) × UInt64 :=
  (ingestKey snapshot, evidenceDigest snapshot)

/-- The entry of a snapshot among the sequences. -/
def publisherEntry (snapshot : EvidenceSnapshot) : UInt64 × UInt64 :=
  (publisherKey snapshot.producer, snapshot.sequence)

/-- The bound on the staged snapshots. -/
def Governor.stagedLimit (g : Governor) : ℕ := g.config.limits.maxStagedSnapshots.toNat

/-- The maps of a governor are those of the snapshots it accepted. -/
structure Remembers (g : Governor) (snapshots : List EvidenceSnapshot) : Prop where
  staged : g.staged = recording compare g.stagedLimit latest (snapshots.map windowEntry)
  ingested : g.ingested =
    recording pairOrder (g.stagedLimit * 4) latest (snapshots.map identityEntry)
  publisherSequences : g.publisherSequences =
    recording compare 1024 highest (snapshots.map publisherEntry)
  epoch : ∀ snapshot ∈ snapshots, snapshot.epoch = g.epoch

lemma checkSnapshot_epoch (h : g.checkSnapshot snapshot = .ok ()) : snapshot.epoch = g.epoch := by
  obtain ⟨-, h⟩ := bind_unit_eq_ok.mp h
  obtain ⟨-, h⟩ := rejectIf_bind_eq_ok.mp h
  exact not_not.mp (rejectIf_bind_eq_ok.mp h).1

lemma KeepsIntake.remembers (hkeeps : KeepsIntake g g') (h : Remembers g snapshots) :
    Remembers g' snapshots := by
  have hlimit : g'.stagedLimit = g.stagedLimit := by rw [Governor.stagedLimit, hkeeps.config]; rfl
  refine ⟨?_, ?_, ?_, ?_⟩
  · rw [hkeeps.staged, hlimit, h.staged]
  · rw [hkeeps.ingested, hlimit, h.ingested]
  · rw [hkeeps.publisherSequences, h.publisherSequences]
  · rw [hkeeps.epoch]
    exact h.epoch

lemma DropsIntake.remembers (hdrops : DropsIntake g g') : Remembers g' [] := by
  refine ⟨hdrops.staged, hdrops.ingested, hdrops.publisherSequences, ?_⟩
  intro snapshot hmem
  cases hmem

lemma stage_remembers (haccepts : g.Accepts snapshot) (h : Remembers g snapshots) :
    Remembers (g.stage snapshot) (snapshots ++ [snapshot]) := by
  have hlimit : (g.stage snapshot).stagedLimit = g.stagedLimit := rfl
  refine ⟨?_, ?_, ?_, ?_⟩
  · rw [List.map_append, List.map_singleton, recording_snoc, hlimit, ← h.staged]
    rfl
  · rw [List.map_append, List.map_singleton, recording_snoc, hlimit, ← h.ingested, record]
    simp only [Governor.stage, Governor.stagedLimit, identityEntry, latest]
  · rw [List.map_append, List.map_singleton, recording_snoc, ← h.publisherSequences, record]
    simp only [Governor.stage, publisherEntry, highest]
  · intro other hmem
    rcases List.mem_append.mp hmem with hmem | hmem
    · exact h.epoch other hmem
    · rw [List.mem_singleton.mp hmem]
      exact checkSnapshot_epoch haccepts.checked

lemma IntakeStep.remembers (hstep : IntakeStep g e g') (h : Remembers g snapshots) :
    Remembers g' (acceptedAfter snapshots (g, e)) := by
  unfold acceptedAfter
  cases hstep with
  | stages haccepts =>
    rw [if_neg (by exact id)]
    exact stage_remembers haccepts h
  | keeps hdrops haccepts hkeeps =>
    rw [if_neg hdrops, haccepts, Option.toList_none, List.append_nil]
    exact hkeeps.remembers h
  | drops hdrops hempty =>
    rw [if_pos hdrops]
    exact hempty.remembers

lemma accepted_snoc (call : Governor × Event) :
    accepted (trace ++ [call]) = acceptedAfter (accepted trace) call := List.foldl_concat ..

/-- In every run of an opened governor the maps are those of the accepted snapshots. -/
theorem run_remembers {config : GovernorConfig} {boot : BootId} (hopens : Opens config boot start)
    (hrun : Run Step start trace g) : Remembers g (accepted trace) := by
  induction hrun with
  | nil =>
    obtain ⟨hbooted, -⟩ := hopens.booted
    exact ⟨hbooted.staged, hbooted.ingested, hbooted.publisherSequences, by simp [accepted]⟩
  | snoc _ hstep ih =>
    rw [accepted_snoc]
    exact hstep.intake.remembers ih

/-- A snapshot that counts as accepted was staged in a step of the run. -/
lemma mem_accepted (hrun : Run Step start trace g) (h : snapshot ∈ accepted trace) :
    ∃ t, (t, .ingest snapshot (.ok (ingestResult .staged snapshot))) ∈ trace ∧
      snapshot.epoch = t.epoch := by
  induction hrun with
  | nil => cases h
  | @snoc trace t u e _ hstep ih =>
    have hbefore : snapshot ∈ accepted trace → ∃ t',
        (t', .ingest snapshot (.ok (ingestResult .staged snapshot))) ∈ trace ++ [(t, e)] ∧
          snapshot.epoch = t'.epoch := by
      intro hmem
      obtain ⟨t', hmem, hepoch⟩ := ih hmem
      exact ⟨t', List.mem_append_left _ hmem, hepoch⟩
    rw [accepted_snoc, acceptedAfter] at h
    cases hstep.intake with
    | stages haccepts =>
      rw [if_neg (by exact id)] at h
      rcases List.mem_append.mp h with h | h
      · exact hbefore h
      · obtain rfl := List.mem_singleton.mp h
        exact ⟨t, by simp, checkSnapshot_epoch haccepts.checked⟩
    | keeps hdrops haccepts hkeeps =>
      rw [if_neg hdrops, haccepts, Option.toList_none, List.append_nil] at h
      exact hbefore h
    | drops hdrops hempty =>
      rw [if_pos hdrops] at h
      cases h

lemma Reachable.remembers (h : Reachable g) : ∃ snapshots, Remembers g snapshots := by
  obtain ⟨_, _, _, trace, hopens, hrun⟩ := h
  exact ⟨accepted trace, run_remembers hopens hrun⟩

/-! ## The bound -/

lemma Opens.stagedLimit_pos {config : GovernorConfig} {boot : BootId}
    (h : Opens config boot start) : 0 < start.stagedLimit := by
  rw [Governor.stagedLimit, h.booted.1.config]
  unfold Opens Governor.open at h
  obtain ⟨_, hcheck, -⟩ := returns_bind_ok.mp h
  simp only [returns_of, checkConfig, bind_unit_eq_ok, rejectIf_eq_ok, not_or] at hcheck
  exact UInt32.pos_iff_ne_zero.mpr hcheck.2.2.2.1.1

lemma IntakeStep.stagedLimit (h : IntakeStep g e g') : g'.stagedLimit = g.stagedLimit := by
  cases h with
  | stages haccepts => rfl
  | keeps hdrops haccepts hkeeps => rw [Governor.stagedLimit, hkeeps.config, Governor.stagedLimit]
  | drops hdrops hempty => rw [Governor.stagedLimit, hempty.config, Governor.stagedLimit]

lemma run_stagedLimit (h : Run Step start trace g) : g.stagedLimit = start.stagedLimit :=
  h.related (R := fun a b => b.stagedLimit = a.stagedLimit) rfl
    fun _ _ _ heq hstep => hstep.intake.stagedLimit.trans heq

lemma Reachable.stagedLimit_pos (h : Reachable g) : 0 < g.stagedLimit := by
  obtain ⟨_, _, _, _, hopens, hrun⟩ := h
  rw [run_stagedLimit hrun]
  exact hopens.stagedLimit_pos

end FairnessGovernor
