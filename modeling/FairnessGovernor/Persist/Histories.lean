/-
# Histories of a record

Commit attempts and recoveries of one record kind, in any order, each of which may crash.  A
history remembers the last acknowledged record and the attempts since that were not
acknowledged; the record it settles is one of these.
-/
import FairnessGovernor.Persist.CrashSafety

namespace FairnessGovernor

open Program Crash

/-- One attempt to commit a record, with the failures injected into it. -/
structure CommitAttempt where
  faults : StoreFaultInjection := {}
  expectedGeneration : UInt64
  nextGeneration : UInt64
  payload : ByteBuffer
  writer : Incarnation

/-- The record an attempt is about. -/
def CommitAttempt.record (attempt : CommitAttempt) : DecodedRecord :=
  recordOf attempt.nextGeneration attempt.writer attempt.payload

namespace DurableStore

/-- An attempt on a store. -/
def attempt (store : DurableStore) (kind : RecordKind) (attempt : CommitAttempt) : StatusM Unit :=
  { store with faults := attempt.faults }.commit kind attempt.expectedGeneration
    attempt.nextGeneration attempt.payload attempt.writer

variable {store : DurableStore} {kind : RecordKind} {dir dir' : Directory}
  {acked : Option DecodedRecord} {pending : List DecodedRecord}

/-- The settled record is the last acknowledged one, or the one of an attempt since. -/
def Current (acked : Option DecodedRecord) (pending : List DecodedRecord)
    (v : Option DecodedRecord) : Prop :=
  v = acked ∨ ∃ record ∈ pending, v = some record

lemma Current.cons {v : Option DecodedRecord} (h : Current acked pending v)
    (record : DecodedRecord) : Current acked (record :: pending) v := by
  rcases h with rfl | ⟨r, hr, rfl⟩
  · exact .inl rfl
  · exact .inr ⟨r, List.mem_cons_of_mem _ hr, rfl⟩

lemma Settles.isSome {v : Option DecodedRecord} (h : store.Settles kind v dir) :
    (dir (store.path kind .base)).isSome = v.isSome := by
  rcases h with h | ⟨record, rfl, h⟩
  · exact h.isSome
  · obtain ⟨b, hb, -⟩ := h.base
    rw [hb]
    rfl

/-! The files of a store do not depend on the failures injected into it. -/

section Faults

variable (faults : StoreFaultInjection) {v : Option DecodedRecord} {record : DecodedRecord}

end Faults

lemma Tried.current {v : Option DecodedRecord} {record : DecodedRecord}
    (h : store.Tried kind v record dir) (hv : Current acked pending v) :
    ∃ v', store.Settles kind v' dir ∧ Current acked (record :: pending) v' := by
  rcases h with h | h
  · exact ⟨v, h, hv.cons record⟩
  · exact ⟨some record, .inl h, .inr ⟨record, List.mem_cons_self, rfl⟩⟩

/-- Without companions a recovery does nothing. -/
lemma recover_clean (h : store.Clean kind dir) (notes : RecoveryNotes) :
    run handle (store.recover kind notes) dir = ((.ok (), notes), dir) := by
  unfold recover
  show run handle (if (dir (store.path kind .journal)).isSome then _ else
    store.discardLeftovers kind (dir (store.path kind .backup)).isSome
      (dir (store.path kind .temp)).isSome notes) dir = _
  rw [h .journal (by decide), h .backup (by decide), h .temp (by decide)]
  rfl

/-- A fault-free run is one of the runs of the file system a commit runs on. -/
lemma ends_commitDevice {α : Type} (p : FileM α) (dir : Directory) :
    Ends commitDevice p dir (run handle p dir).1 (run handle p dir).2 := by
  induction p generalizing dir with
  | done a => exact ⟨rfl, rfl⟩
  | perform op next ih => exact ⟨_, _, .performed op dir, ih _ _⟩

end DurableStore

end FairnessGovernor
