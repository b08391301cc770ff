/-
# Ingesting a snapshot again

A staged snapshot stays staged, and is known when it comes again, as long as neither its window
nor its identity was the first key of a full map: what was inserted last may be what is evicted.
The same snapshot with its observations in another order is known exactly when the two orders have
one content digest; the declared digest does not see the order, the content digest does.
-/
import FairnessGovernor.Eval.DeclarationOrder
import FairnessGovernor.Governor.Intake
import FairnessGovernor.Governor.Sample

namespace FairnessGovernor

open Program Runs Retention
open Governor (ingestKey publisherKey)

variable {g : Governor} {snapshot reordered : EvidenceSnapshot} {result : IngestResult}

/-! ## Staged snapshots -/

/-- A snapshot that was staged had been accepted. -/
lemma accepts_of_staged (h : (g.ingestEvidence snapshot).1 = .ok result)
    (hstaged : result.disposition = .staged) : g.Accepts snapshot := by
  by_contra hnot
  rcases Governor.ingestEvidence_of_not_accepts hnot with heq | ⟨_, heq⟩
  · rw [heq] at h
    obtain rfl := Except.ok.inj h
    cases hstaged
  · rw [heq] at h
    cases h

/-- A snapshot is ignored as a duplicate where it passes its checks and its content is known. -/
lemma ingestEvidence_eq_duplicate :
    g.ingestEvidence snapshot = (.ok (ingestResult .duplicateIgnored snapshot), g) ↔
      g.checkSnapshot snapshot = .ok () ∧
        g.ingested[ingestKey snapshot]? = some (evidenceDigest snapshot) := by
  unfold Governor.ingestEvidence
  cases hchecked : g.checkSnapshot snapshot with
  | error status => simp
  | ok _ =>
    dsimp only
    cases hknown : g.ingested[ingestKey snapshot]? with
    | some digest =>
      dsimp only
      by_cases hdigest : digest = evidenceDigest snapshot
      · simp [hdigest]
      · simp [hdigest]
    | none =>
      dsimp only
      cases hordered : g.checkOrder snapshot with
      | error status => simp
      | ok _ => simp [ingestResult]

lemma Reachable.staged_size_le (h : Reachable g) : g.staged.size ≤ g.stagedLimit := by
  obtain ⟨snapshots, hremembers⟩ := h.remembers
  rw [hremembers.staged]
  exact size_recording_le

lemma Reachable.ingested_size_le (h : Reachable g) : g.ingested.size ≤ g.stagedLimit * 4 := by
  obtain ⟨snapshots, hremembers⟩ := h.remembers
  rw [hremembers.ingested]
  exact size_recording_le

/-- The snapshot is the one staged for its window, a request for the window finds it, and ingesting
it again changes nothing. -/
structure StaysStaged (g : Governor) (snapshot : EvidenceSnapshot) : Prop where
  staged : g.staged[snapshot.window.value]? = some snapshot
  found : ∀ request, request.window = snapshot.window → (g.context request).evidence = some snapshot
  retry : g.ingestEvidence snapshot = (.ok (ingestResult .duplicateIgnored snapshot), g)

/-- In every reachable state a snapshot that was just staged stays staged exactly when neither its
window nor its identity was evicted by its own insertion. -/
theorem staysStaged_iff (hg : Reachable g) (h : (g.ingestEvidence snapshot).1 = .ok result)
    (hstaged : result.disposition = .staged) :
    StaysStaged (g.ingestEvidence snapshot).2 snapshot ↔
      Retains g.stagedLimit g.staged snapshot.window.value ∧
        Retains (g.stagedLimit * 4) g.ingested (ingestKey snapshot) := by
  have haccepts := accepts_of_staged h hstaged
  rw [haccepts.ingestEvidence_eq]
  dsimp only
  have hwindow : (g.stage snapshot).staged[snapshot.window.value]? = some snapshot ↔
      Retains g.stagedLimit g.staged snapshot.window.value :=
    getElem?_bounded_insert_self hg.staged_size_le
  have hidentity : (g.stage snapshot).ingested[ingestKey snapshot]? =
      some (evidenceDigest snapshot) ↔ Retains (g.stagedLimit * 4) g.ingested (ingestKey snapshot) :=
    getElem?_bounded_insert_self hg.ingested_size_le
  -- staging changes nothing the checks of a snapshot look at
  have hchecked : (g.stage snapshot).checkSnapshot snapshot = .ok () := haccepts.checked
  rw [← hwindow, ← hidentity]
  constructor
  · intro h
    exact ⟨h.staged, (ingestEvidence_eq_duplicate.mp h.retry).2⟩
  · rintro ⟨hstaged, hknown⟩
    refine ⟨hstaged, fun request hrequest => ?_, ingestEvidence_eq_duplicate.mpr ⟨hchecked, hknown⟩⟩
    rw [Governor.context, hrequest]
    exact hstaged

theorem staysStaged_iff_memory :
    StaysStaged ((memoryGovernor pairPolicy).ingestEvidence pairSnapshot).2 pairSnapshot ↔
      Retains (memoryGovernor pairPolicy).stagedLimit (memoryGovernor pairPolicy).staged
          pairSnapshot.window.value ∧
        Retains ((memoryGovernor pairPolicy).stagedLimit * 4) (memoryGovernor pairPolicy).ingested
          (ingestKey pairSnapshot) := by
  have haccepts : (memoryGovernor pairPolicy).Accepts pairSnapshot :=
    ⟨by decide +kernel, by decide +kernel, by decide +kernel⟩
  exact staysStaged_iff ⟨_, _, _, _, memoryGovernor_opens (by decide +kernel), .nil⟩
    (congrArg Prod.fst haccepts.ingestEvidence_eq) rfl

/-- A governor that stages one snapshot at a time, once the fifth window is staged. -/
def laterStaged : Governor := (narrowGovernor.ingestEvidence (windowSnapshot 5 5)).2

/-- A snapshot of an earlier window is reported as staged, and is not. -/
theorem not_staysStaged : ¬ ∀ (g : Governor) (snapshot : EvidenceSnapshot) (result : IngestResult),
    Reachable g → (g.ingestEvidence snapshot).1 = .ok result → result.disposition = .staged →
      StaysStaged (g.ingestEvidence snapshot).2 snapshot := by
  intro h
  have hreachable : Reachable laterStaged :=
    ⟨_, _, _, _, narrowGovernor_opens, Run.nil.snoc (.ingest _ _)⟩
  have haccepts : laterStaged.Accepts (windowSnapshot 1 1) :=
    ⟨by decide +kernel, by decide +kernel, by decide +kernel⟩
  have hmissing : (laterStaged.ingestEvidence (windowSnapshot 1 1)).2.staged[
      (windowSnapshot 1 1).window.value]?.isSome = false := by decide +kernel
  have hstays := h laterStaged (windowSnapshot 1 1) _ hreachable
    (congrArg Prod.fst haccepts.ingestEvidence_eq) rfl
  rw [hstays.staged] at hmissing
  cases hmissing

/-! ## Reordered observations -/

/-- An observation passes its checks where it is valid, and the rest is checked with its units
counted. -/
lemma validateObservations_cons {o : SubjectObservation} {rest : List SubjectObservation}
    {total : ℕ} : validateObservations (o :: rest) total = .ok () ↔
      ValidObservation o ∧ total + o.servedUnits.toNat ≤ kUInt64Max ∧
        validateObservations rest (total + o.servedUnits.toNat) = .ok () := by
  rw [validateObservations]
  simp only [rejectIf_bind_eq_ok, not_not, not_or, not_and, not_lt]
  constructor
  · rintro ⟨hid, hgeneration, hserved, ⟨hunserved, hbelow⟩, hpriority, hqos, hcontra, hrest⟩
    refine ⟨⟨hid, hgeneration, hserved, UInt32.not_lt.mp hunserved, UInt32.not_lt.mp hbelow,
      hpriority, hqos, ?_⟩, ?_⟩
    · by_cases hzero : o.servedUnits = 0
      · exact .inl hzero
      · exact .inr (hcontra (UInt64.pos_iff_ne_zero.mpr hzero))
    · cases hadd : checkedAdd total o.servedUnits.toNat with
      | none =>
        rw [hadd] at hrest
        cases hrest
      | some counted =>
        rw [hadd] at hrest
        obtain ⟨hle, rfl⟩ := checkedAdd_eq_some.mp hadd
        exact ⟨hle, hrest⟩
  · -- the other way round every check passes
    rintro ⟨hvalid, hle, hrest⟩
    rw [checkedAdd_of_le hle]
    refine ⟨hvalid.id_valid, hvalid.generation_valid, hvalid.served_le,
      ⟨UInt32.not_lt.mpr hvalid.unserved_le, UInt32.not_lt.mpr hvalid.belowFloor_le⟩,
      hvalid.priority_consistent, hvalid.qos_consistent, fun hpos => ?_, hrest⟩
    rcases hvalid.served_or_unserved with hzero | hunserved
    · exact absurd hzero (UInt64.pos_iff_ne_zero.mp hpos)
    · exact hunserved

/-- The observations are checked one by one, and their sum once. -/
lemma validateObservations_eq_ok_iff {observations : List SubjectObservation} {total : ℕ}
    (htotal : total ≤ kUInt64Max) : validateObservations observations total = .ok () ↔
      (∀ observation ∈ observations, ValidObservation observation) ∧
        total + (observations.map (·.servedUnits.toNat)).sum ≤ kUInt64Max := by
  induction observations generalizing total with
  | nil => simp [validateObservations, htotal]
  | cons o rest ih =>
    rw [validateObservations_cons, List.forall_mem_cons, List.map_cons, List.sum_cons]
    constructor
    · rintro ⟨hvalid, hle, hrest⟩
      obtain ⟨hvalids, hsum⟩ := (ih hle).mp hrest
      exact ⟨⟨hvalid, hvalids⟩, by omega⟩
    · rintro ⟨⟨hvalid, hvalids⟩, hsum⟩
      exact ⟨hvalid, by omega, (ih (by omega)).mpr ⟨hvalids, by omega⟩⟩

/-- The declared digest does not see the order of the observations. -/
lemma EvidenceSnapshot.Reorders.observationDigest_eq (h : snapshot.Reorders reordered) :
    computeObservationDigest reordered = computeObservationDigest snapshot := by
  obtain ⟨hperm⟩ := h
  have hdigests := (hperm.map observationDigest).symm
  unfold computeObservationDigest
  dsimp only
  have hsum := hdigests.foldl_eq' (f := fun a b : UInt64 => a + b)
    (fun x _ y _ sum => by rw [UInt64.add_assoc, UInt64.add_comm x, ← UInt64.add_assoc]) 0
  have hxored := hdigests.foldl_eq' (f := fun a b : UInt64 => a ^^^ b)
    (fun x _ y _ xored => by rw [UInt64.xor_assoc, UInt64.xor_comm x, ← UInt64.xor_assoc]) 0
  rw [hsum, hxored]

/-- So a reordered snapshot is as valid as the snapshot. -/
lemma EvidenceSnapshot.Reorders.validateEvidence_eq_ok (h : snapshot.Reorders reordered)
    (hvalid : validateEvidence snapshot = .ok ()) : validateEvidence reordered = .ok () := by
  have hdigest := h.observationDigest_eq
  obtain ⟨hperm⟩ := h
  simp only [validateEvidence, bind_unit_eq_ok, rejectIf_eq_ok] at hvalid ⊢
  obtain ⟨hid, hgen, hwindow, hwindowGen, hepoch, hcount, hproducer, hprovenance, hcaptured,
    hobservations, hids, hdeclared⟩ := hvalid
  refine ⟨hid, hgen, hwindow, hwindowGen, hepoch, ?_, hproducer, hprovenance, hcaptured, ?_, ?_, ?_⟩
  · rwa [← hperm.length_eq]
  · rw [validateObservations_eq_ok_iff (Nat.zero_le _)] at hobservations ⊢
    refine ⟨fun o ho => hobservations.1 o (hperm.mem_iff.mpr ho), ?_⟩
    rw [← (hperm.map _).sum_eq]
    exact hobservations.2
  · rwa [← (hperm.map _).nodup_iff]
  · rwa [hdigest]

/-- The checks of a snapshot do not see the order of its observations. -/
lemma EvidenceSnapshot.Reorders.checkSnapshot_eq_ok (h : snapshot.Reorders reordered)
    (hchecked : g.checkSnapshot snapshot = .ok ()) : g.checkSnapshot reordered = .ok () := by
  obtain ⟨hvalid, hchecked⟩ := bind_unit_eq_ok.mp hchecked
  refine bind_unit_eq_ok.mpr ⟨h.validateEvidence_eq_ok hvalid, ?_⟩
  obtain ⟨hperm⟩ := h
  rw [← hperm.length_eq]
  exact hchecked

/-- A snapshot that was just staged and is still known is ignored as a duplicate, its observations
in another order, exactly when its content digest does not see the order either. -/
theorem reordered_duplicate_iff (h : (g.ingestEvidence snapshot).1 = .ok result)
    (hstaged : result.disposition = .staged)
    (hknown : ingestKey snapshot ∈ (g.ingestEvidence snapshot).2.ingested)
    (hreorders : snapshot.Reorders reordered) :
    (g.ingestEvidence snapshot).2.ingestEvidence reordered =
        (.ok (ingestResult .duplicateIgnored reordered), (g.ingestEvidence snapshot).2) ↔
      evidenceDigest reordered = evidenceDigest snapshot := by
  have haccepts := accepts_of_staged h hstaged
  rw [haccepts.ingestEvidence_eq] at hknown ⊢
  dsimp only at hknown ⊢
  have hchecked : (g.stage snapshot).checkSnapshot reordered = .ok () :=
    hreorders.checkSnapshot_eq_ok haccepts.checked
  have hkey : ingestKey reordered = ingestKey snapshot := by
    obtain ⟨-⟩ := hreorders
    rfl
  -- what the history holds is what was just recorded
  have hdigest : (g.stage snapshot).ingested[ingestKey snapshot]? =
      some (evidenceDigest snapshot) := by
    rw [Std.TreeMap.mem_iff_isSome_getElem?, Option.isSome_iff_exists] at hknown
    obtain ⟨digest, hdigest⟩ := hknown
    have hinserted := getElem?_bounded hdigest
    rw [Std.TreeMap.getElem?_insert_self] at hinserted
    rw [hdigest, ← hinserted]
  rw [ingestEvidence_eq_duplicate, hkey, hdigest]
  constructor
  · rintro ⟨-, hsame⟩
    exact (Option.some.inj hsame).symm
  · intro hsame
    exact ⟨hchecked, by rw [hsame]⟩

/-- The snapshot of the first window with its observations in the other order. -/
def swappedSnapshot : EvidenceSnapshot :=
  { pairSnapshot with observations := pairSnapshot.observations.reverse }

lemma swappedSnapshot_reorders : pairSnapshot.Reorders swappedSnapshot :=
  .mk (List.reverse_perm _).symm

theorem reordered_duplicate_iff_swapped :
    stagedGovernor.ingestEvidence swappedSnapshot =
        (.ok (ingestResult .duplicateIgnored swappedSnapshot), stagedGovernor) ↔
      evidenceDigest swappedSnapshot = evidenceDigest pairSnapshot := by
  have haccepts : (memoryGovernor pairPolicy).Accepts pairSnapshot :=
    ⟨by decide +kernel, by decide +kernel, by decide +kernel⟩
  exact reordered_duplicate_iff (congrArg Prod.fst haccepts.ingestEvidence_eq) rfl
    (by decide +kernel) swappedSnapshot_reorders

/-- Two observations in the other order contradict the snapshot that was just staged. -/
theorem not_reordered_duplicate : ¬ ∀ (g : Governor) (snapshot reordered : EvidenceSnapshot)
    (result : IngestResult), Reachable g → (g.ingestEvidence snapshot).1 = .ok result →
      result.disposition = .staged →
      ingestKey snapshot ∈ (g.ingestEvidence snapshot).2.ingested →
      snapshot.Reorders reordered →
      (g.ingestEvidence snapshot).2.ingestEvidence reordered =
        (.ok (ingestResult .duplicateIgnored reordered), (g.ingestEvidence snapshot).2) := by
  intro h
  have haccepts : (memoryGovernor pairPolicy).Accepts pairSnapshot :=
    ⟨by decide +kernel, by decide +kernel, by decide +kernel⟩
  have hrefused : (stagedGovernor.ingestEvidence swappedSnapshot).1.isOk = false := by
    decide +kernel
  have hduplicate := h _ pairSnapshot swappedSnapshot _
    ⟨_, _, _, _, memoryGovernor_opens (by decide +kernel), .nil⟩
    (congrArg Prod.fst haccepts.ingestEvidence_eq) rfl (by decide +kernel) swappedSnapshot_reorders
  rw [stagedGovernor, hduplicate] at hrefused
  cases hrefused

end FairnessGovernor
