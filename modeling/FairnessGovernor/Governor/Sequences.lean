/-
# The sequences of publishers

A snapshot is refused for its sequence when a higher one was accepted under its publisher key.  The
key mixes a hash of the producer's name with its instance, and two producers may have one key; as
long as the producers of the accepted snapshots do not, a producer is held to its own sequences
only, and the sequences of the others do not matter.
-/
import FairnessGovernor.Governor.Contradiction

namespace FairnessGovernor

open Program Runs Retention
open Governor (ingestKey publisherKey)

variable {g g' t start : Governor} {snapshot : EvidenceSnapshot} {producer : ProducerIdentity}
  {snapshots snapshots' : List EvidenceSnapshot} {trace : List (Governor × Event)}

/-- The name and the instance are a producer's identity; its version is not. -/
structure SameProducer (a b : ProducerIdentity) : Prop where
  name : a.name = b.name
  instanceId : a.instanceId = b.instanceId

/-- Ingesting the snapshot returns a sequence violation. -/
def SequenceRefused (g : Governor) (snapshot : EvidenceSnapshot) : Prop :=
  ∃ status, (g.ingestEvidence snapshot).1 = .error status ∧ status.code = .sequenceViolation

/-! ## The sequence check -/

/-- A higher sequence is stored under the key of the snapshot's producer. -/
def SequenceBehind (g : Governor) (snapshot : EvidenceSnapshot) : Prop :=
  ∃ sequence ∈ g.publisherSequences[publisherKey snapshot.producer]?, snapshot.sequence < sequence

lemma checkOrder_of_sequenceBehind (h : SequenceBehind g snapshot) :
    g.checkOrder snapshot = .error ⟨.sequenceViolation, "evidence sequence went backwards"⟩ := by
  unfold SequenceBehind at h
  rw [Governor.checkOrder, rejectIf, if_pos h]
  rfl

lemma checkOrder_of_not_behind (h : ¬ SequenceBehind g snapshot) :
    FailsWith [.staleGeneration] (g.checkOrder snapshot) := by
  unfold SequenceBehind at h
  rw [Governor.checkOrder, rejectIf, if_neg h]
  exact failsWith_rejectIf (by decide)

/-- A snapshot is refused for its sequence exactly when it passes its checks, is not known and is
behind. -/
lemma sequenceRefused_iff : SequenceRefused g snapshot ↔
    g.checkSnapshot snapshot = .ok () ∧ g.ingested[ingestKey snapshot]? = none ∧
      SequenceBehind g snapshot := by
  unfold SequenceRefused Governor.ingestEvidence
  cases hchecked : g.checkSnapshot snapshot with
  | error status =>
    -- the checks before the lookups fail for other reasons
    have hcode := Governor.checkSnapshot_failsWith g snapshot status hchecked
    constructor
    · rintro ⟨status', hstatus, hviolation⟩
      obtain rfl := Except.error.inj hstatus
      rw [hviolation] at hcode
      exact absurd hcode (by decide)
    · rintro ⟨hok, -⟩
      cases hok
  | ok _ =>
    dsimp only
    cases hknown : g.ingested[ingestKey snapshot]? with
    | some digest =>
      dsimp only
      constructor
      · rintro ⟨status, hstatus, hviolation⟩
        split_ifs at hstatus
        obtain rfl := Except.error.inj hstatus
        cases hviolation
      · rintro ⟨-, hnone, -⟩
        cases hnone
    | none =>
      dsimp only
      by_cases hbehind : SequenceBehind g snapshot
      · rw [checkOrder_of_sequenceBehind hbehind]
        exact ⟨fun _ => ⟨rfl, rfl, hbehind⟩, fun _ => ⟨_, rfl, rfl⟩⟩
      · refine ⟨?_, fun h => absurd h.2.2 hbehind⟩
        rintro ⟨status, hstatus, hviolation⟩
        cases hordered : g.checkOrder snapshot with
        | error status' =>
          have hcode := checkOrder_of_not_behind hbehind status' hordered
          rw [hordered] at hstatus
          obtain rfl := Except.error.inj hstatus
          rw [hviolation] at hcode
          exact absurd hcode (by decide)
        | ok _ =>
          rw [hordered] at hstatus
          cases hstatus

/-! ## Own sequences -/

/-- No accepted snapshot of another producer has the publisher key of this one. -/
def OwnKey (snapshots : List EvidenceSnapshot) (producer : ProducerIdentity) : Prop :=
  ∀ other ∈ snapshots, publisherKey other.producer = publisherKey producer →
    SameProducer other.producer producer

lemma highest_choice (old new : UInt64) :
    highest (some old) new = old ∨ highest (some old) new = new := by
  by_cases hle : old ≤ new
  · exact .inr (if_pos hle)
  · exact .inl (if_neg hle)

/-- A stored sequence was accepted under its key. -/
lemma Remembers.sequence (h : Remembers g snapshots) {key sequence : UInt64}
    (hsequence : g.publisherSequences[key]? = some sequence) :
    ∃ other ∈ snapshots, publisherKey other.producer = key ∧ other.sequence = sequence := by
  rw [h.publisherSequences, getElem?_recording] at hsequence
  split_ifs at hsequence
  obtain ⟨other, hmem, hentry⟩ :=
    List.mem_map.mp (mem_of_recorded (fun _ => rfl) highest_choice hsequence)
  obtain ⟨hkey, hvalue⟩ := Prod.mk_inj.mp hentry
  exact ⟨other, hmem, hkey, hvalue⟩

/-! ## The sequences of others -/

/-- The same snapshot, with another sequence unless it is of this producer. -/
inductive OthersResequenced (producer : ProducerIdentity) (snapshot : EvidenceSnapshot) :
    EvidenceSnapshot → Prop
  | mk {sequence : UInt64} :
      (SameProducer snapshot.producer producer → sequence = snapshot.sequence) →
      OthersResequenced producer snapshot { snapshot with sequence := sequence }

/-- Two governors agree on what a snapshot is checked against before it is looked up. -/
structure ChecksAlike (g g' : Governor) : Prop where
  limits : g'.config.limits = g.config.limits
  epoch : g'.epoch = g.epoch
  stopping : g'.stopping = g.stopping
  lastWindow : g'.accounting.lastWindow = g.accounting.lastWindow

lemma ChecksAlike.checkSnapshot_eq (h : ChecksAlike g g') (snapshot : EvidenceSnapshot) :
    g'.checkSnapshot snapshot = g.checkSnapshot snapshot := by
  unfold Governor.checkSnapshot
  rw [h.limits, h.epoch, h.stopping, h.lastWindow]

lemma ChecksAlike.stagedLimit_eq (h : ChecksAlike g g') : g'.stagedLimit = g.stagedLimit := by
  rw [Governor.stagedLimit, h.limits, Governor.stagedLimit]

section Resequenced

variable (h : List.Forall₂ (OthersResequenced producer) snapshots snapshots')

include h

/-- With other sequences the snapshots have the same keys. -/
lemma resequenced_keys : keysOf (snapshots'.map identityEntry) = keysOf (snapshots.map identityEntry) ∧
    keysOf (snapshots'.map publisherEntry) = keysOf (snapshots.map publisherEntry) := by
  induction h with
  | nil => exact ⟨rfl, rfl⟩
  | cons hhead _ ih =>
    obtain ⟨-⟩ := hhead
    simp only [List.map_cons, keysOf_cons]
    exact ⟨congrArg (insert _) ih.1, congrArg (insert _) ih.2⟩

/-- Under its own key a producer finds the same sequences. -/
lemma resequenced_filter (hown : OwnKey snapshots producer) :
    (snapshots'.map publisherEntry).filter (fun entry => entry.1 = publisherKey producer) =
      (snapshots.map publisherEntry).filter fun entry => entry.1 = publisherKey producer := by
  induction h with
  | nil => rfl
  | @cons snapshot resequenced snapshots snapshots' hhead _ ih =>
    have hrest := ih fun other hmem => hown other (List.mem_cons_of_mem _ hmem)
    obtain ⟨hsame⟩ := hhead
    rw [List.map_cons, List.map_cons, List.filter_cons, List.filter_cons, hrest]
    by_cases hkey : publisherKey snapshot.producer = publisherKey producer
    · -- under its own key a producer finds its own snapshot
      have hsequence := hsame (hown snapshot List.mem_cons_self hkey)
      rw [publisherEntry, publisherEntry, hsequence]
    · rw [publisherEntry, publisherEntry, if_neg (mt of_decide_eq_true hkey),
        if_neg (mt of_decide_eq_true hkey)]

end Resequenced

/-- The sequences of the other producers do not matter. -/
lemma sequenceRefused_resequenced (h : Remembers g snapshots) (h' : Remembers g' snapshots')
    (halike : ChecksAlike g g')
    (hsnapshots : List.Forall₂ (OthersResequenced snapshot.producer) snapshots snapshots')
    (hown : OwnKey snapshots snapshot.producer) :
    SequenceRefused g' snapshot ↔ SequenceRefused g snapshot := by
  obtain ⟨hidentities, hpublishers⟩ := resequenced_keys hsnapshots
  have hknown : g'.ingested[ingestKey snapshot]? = none ↔ g.ingested[ingestKey snapshot]? = none := by
    rw [getElem?_eq_none_iff, getElem?_eq_none_iff, h.ingested, h'.ingested, keySet_recording,
      keySet_recording, hidentities, halike.stagedLimit_eq]
  have hsequence : g'.publisherSequences[publisherKey snapshot.producer]? =
      g.publisherSequences[publisherKey snapshot.producer]? := by
    rw [h.publisherSequences, h'.publisherSequences, getElem?_recording, getElem?_recording,
      hpublishers, ← recorded_filter, resequenced_filter hsnapshots hown, recorded_filter]
  rw [sequenceRefused_iff, sequenceRefused_iff, halike.checkSnapshot_eq, hknown, SequenceBehind,
    hsequence, SequenceBehind]

/-- A sequence violation is about the producer's own sequences. -/
structure OwnSequence (trace : List (Governor × Event)) (g : Governor)
    (snapshot : EvidenceSnapshot) : Prop where
  earlier : SequenceRefused g snapshot → ∃ t other,
    (t, .ingest other (.ok (ingestResult .staged other))) ∈ trace ∧ t.epoch = g.epoch ∧
      SameProducer other.producer snapshot.producer ∧ snapshot.sequence < other.sequence
  others : ∀ config boot start trace' g', Opens config boot start → Run Step start trace' g' →
    ChecksAlike g g' →
    List.Forall₂ (OthersResequenced snapshot.producer) (accepted trace) (accepted trace') →
    (SequenceRefused g' snapshot ↔ SequenceRefused g snapshot)

/-- In every run in which no accepted snapshot of another producer has the publisher key of the
snapshot, a sequence violation is about the producer's own sequences. -/
theorem own_sequence {config : GovernorConfig} {boot : BootId} (hopens : Opens config boot start)
    (hrun : Run Step start trace g) (hown : OwnKey (accepted trace) snapshot.producer) :
    OwnSequence trace g snapshot := by
  have hremembers := run_remembers hopens hrun
  refine ⟨fun hrefused => ?_, ?_⟩
  · obtain ⟨-, -, sequence, hsequence, hlt⟩ := sequenceRefused_iff.mp hrefused
    obtain ⟨other, hmem, hkey, rfl⟩ := hremembers.sequence hsequence
    obtain ⟨t, hstaged, hepoch⟩ := mem_accepted hrun hmem
    exact ⟨t, other, hstaged, hepoch.symm.trans (hremembers.epoch other hmem),
      hown other hmem hkey, hlt⟩
  · intro config' boot' start' trace' g' hopens' hrun' halike hresequenced
    exact sequenceRefused_resequenced hremembers (run_remembers hopens' hrun') halike hresequenced
      hown

/-! ## Two producers with one key -/

/-- The first window, in a later report of the unnamed producer. -/
def sequencedSnapshot : EvidenceSnapshot := { pairSnapshot with sequence := 10 }

/-- The governor after that report. -/
def sequencedGovernor : Governor := ((memoryGovernor pairPolicy).ingestEvidence sequencedSnapshot).2

/-- The call of that report. -/
def sequencedCall : Governor × Event :=
  (memoryGovernor pairPolicy,
    .ingest sequencedSnapshot ((memoryGovernor pairPolicy).ingestEvidence sequencedSnapshot).1)

lemma sequencedRun : Run Step (memoryGovernor pairPolicy) [sequencedCall] sequencedGovernor :=
  Run.nil.snoc (.ingest _ _)

theorem own_sequence_unnamed : OwnSequence [sequencedCall] sequencedGovernor (windowSnapshot 2 2) := by
  refine own_sequence (memoryGovernor_opens (by decide +kernel)) sequencedRun ?_
  intro other hmem hkey
  obtain ⟨t, hcall, -⟩ := mem_accepted sequencedRun hmem
  obtain ⟨-, hevent⟩ := Prod.mk_inj.mp (List.mem_singleton.mp hcall)
  obtain ⟨rfl, -⟩ := Event.ingest.inj hevent
  exact ⟨rfl, rfl⟩

/-- A producer whose instance number makes up for its name. -/
def collidingProducer : ProducerIdentity :=
  { name := [66], instanceId := publisherKey {} ^^^ (fnv1a64 [66] * 0x100000001B3) }

/-- The second window, reported by that producer. -/
def collidingSnapshot : EvidenceSnapshot :=
  { windowSnapshot 2 2 with producer := collidingProducer, sequence := 1 }

/-- Its first report is refused, for a sequence of another producer. -/
theorem not_own_sequence : ¬ ∀ (config : GovernorConfig) (boot : BootId) (start g : Governor)
    (trace : List (Governor × Event)) (snapshot : EvidenceSnapshot), Opens config boot start →
      Run Step start trace g → OwnSequence trace g snapshot := by
  intro h
  have hrefused : SequenceRefused sequencedGovernor collidingSnapshot := by
    rw [sequenceRefused_iff]
    exact ⟨by decide +kernel, by decide +kernel, 10, by decide +kernel, by decide⟩
  obtain ⟨t, other, hcall, -, hsame, -⟩ :=
    (h _ _ _ _ _ collidingSnapshot (memoryGovernor_opens (by decide +kernel)) sequencedRun).earlier
      hrefused
  obtain ⟨-, hevent⟩ := Prod.mk_inj.mp (List.mem_singleton.mp hcall)
  obtain ⟨rfl, -⟩ := Event.ingest.inj hevent
  have hname : ([] : ByteBuffer) = [66] := hsame.name
  cases hname

end FairnessGovernor
