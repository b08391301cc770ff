/-
# Both records of a store

The policy record and the accounting record share a directory and nothing else: a commit or a
recovery of the one leaves the other where it is.  A commit puts its record in the place of the
settled one only where it expects that record's generation, and its own generation is higher.
-/
import FairnessGovernor.Persist.Histories

namespace FairnessGovernor

open Program Crash fsutil

namespace DurableStore

variable {store : DurableStore} {kind other : RecordKind} {dir dir' : Directory}
  {v v' : Option DecodedRecord}

/-! ## Which files are written -/

/-- The operation writes no files but those of one record. -/
def WritesOnly (store : DurableStore) (kind : RecordKind) : FileOp → Prop
  | .writeFile path _ => ∃ file, path = store.path kind file
  | .replaceFile source target =>
    (∃ file, source = store.path kind file) ∧ ∃ file, target = store.path kind file
  | .removeFile path => ∃ file, path = store.path kind file
  | _ => True

section Writes

lemma removeFiles_writes (files : List String)
    (h : ∀ path ∈ files, ∃ file, path = store.path kind file) :
    Only (store.WritesOnly kind) (removeFiles files) := by
  induction files with
  | nil => exact only_pure ()
  | cons path rest ih =>
    refine Only.bind (only_call (h path List.mem_cons_self)) fun _ => ?_
    exact ih fun p hp => h p (List.mem_cons_of_mem _ hp)

/-- The files that are removed together. -/
lemma removePaths_writes (files : List RecordFile) :
    Only (store.WritesOnly kind) (removeFiles (files.map (store.path kind))) :=
  removeFiles_writes _ fun path hpath => by
    obtain ⟨file, -, rfl⟩ := List.mem_map.mp hpath
    exact ⟨file, rfl⟩

lemma load_writes : Only (store.WritesOnly kind) (store.load other) := by
  unfold load
  refine Only.bind (only_call trivial) fun present => ?_
  cases present with
  | false => exact only_pure _
  | true => exact Only.bind (only_call trivial) fun _ => only_pure _

lemma orAbandon_writes {p : StatusM Unit} (files : List RecordFile)
    (hp : Only (store.WritesOnly kind) p.run) :
    Only (store.WritesOnly kind) (orAbandon p (files.map (store.path kind))).run := by
  refine Only.bind hp fun r => ?_
  cases r with
  | ok _ => exact only_pure _
  | error e => exact Only.bind (removePaths_writes files) fun _ => only_pure _

lemma writeFile_writes (file : RecordFile) (data : ByteBuffer) :
    Only (store.WritesOnly kind) (writeFile (store.path kind file) data).run :=
  only_call ⟨file, rfl⟩

lemma injected_writes (fault : Bool) (detail : String) :
    Only (store.WritesOnly kind) (injected fault detail).run := only_pure _

lemma checkDurable_writes (expectedGeneration : UInt64) :
    Only (store.WritesOnly kind) (store.checkDurable kind expectedGeneration).run := by
  refine Only.bind_except (Only.lift (only_call trivial)) fun present => ?_
  split_ifs
  · exact Only.bind_except (Only.lift load_writes) fun _ => only_pure _
  · exact only_pure _

lemma writeTemp_writes (encoded : ByteBuffer) :
    Only (store.WritesOnly kind) (store.writeTemp kind encoded).run := by
  refine Only.bind_except (injected_writes _ _) fun _ => ?_
  refine Only.bind_except (orAbandon_writes [.temp] (writeFile_writes _ _)) fun _ => ?_
  exact injected_writes _ _

lemma writeJournal_writes (journal : ByteBuffer) :
    Only (store.WritesOnly kind) (store.writeJournal kind journal).run := by
  refine Only.bind_except (orAbandon_writes [.temp] (writeFile_writes _ _)) fun _ => ?_
  exact injected_writes _ _

lemma snapshotMain_writes (present : Bool) :
    Only (store.WritesOnly kind) (store.snapshotMain kind present).run := by
  unfold snapshotMain
  split_ifs
  · refine orAbandon_writes [.journal, .temp] ?_
    exact Only.bind_except (only_call trivial) fun _ => writeFile_writes _ _
  · exact only_pure _

lemma replaceMain_writes (encoded : ByteBuffer) :
    Only (store.WritesOnly kind) (store.replaceMain kind encoded).run := by
  unfold replaceMain
  split_ifs
  · refine Only.bind_except (writeFile_writes _ _) fun _ => ?_
    refine Only.bind_except (Only.bind (only_call ⟨.temp, rfl⟩) fun _ => only_pure _) fun _ => ?_
    exact only_pure _
  · refine Only.bind_except (orAbandon_writes [.journal, .temp]
      (only_call ⟨⟨.temp, rfl⟩, .base, rfl⟩)) fun _ => ?_
    exact Only.bind (only_call trivial) fun _ => only_pure _

lemma finish_writes : Only (store.WritesOnly kind) (store.finish kind).run := by
  refine Only.bind_except (injected_writes _ _) fun _ => ?_
  exact Only.bind (removePaths_writes [.journal, .backup]) fun _ => only_pure _

/-- A commit writes the files of its own record. -/
lemma commit_writes (expectedGeneration nextGeneration : UInt64) (payload : ByteBuffer)
    (writer : Incarnation) : Only (store.WritesOnly kind)
      (store.commit kind expectedGeneration nextGeneration payload writer).run := by
  refine Only.bind_except (only_pure _) fun _ => ?_
  refine Only.bind_except (checkDurable_writes _) fun _ => ?_
  refine Only.bind_except (writeTemp_writes _) fun _ => ?_
  refine Only.bind_except (writeJournal_writes _) fun _ => ?_
  refine Only.bind_except (snapshotMain_writes _) fun _ => ?_
  exact Only.bind_except (replaceMain_writes _) fun _ => finish_writes

lemma recoverAttempt_writes (backupPresent : Bool) (notes : RecoveryNotes) :
    Only (store.WritesOnly kind) (store.recoverAttempt kind backupPresent notes) := by
  unfold recoverAttempt
  refine Only.bind load_writes fun record => ?_
  split_ifs
  · exact Only.bind (removePaths_writes [.journal, .backup, .temp]) fun _ => only_pure _
  · refine Only.bind (only_call ⟨⟨.backup, rfl⟩, .base, rfl⟩) fun restored => ?_
    refine Only.bind (removePaths_writes [.journal, .temp]) fun _ => ?_
    cases restored with
    | error e => exact only_pure _
    | ok _ =>
      refine Only.bind load_writes fun again => ?_
      split_ifs
      · exact only_pure _
      · exact only_pure _
  · exact Only.bind (removePaths_writes [.journal, .temp]) fun _ => only_pure _

lemma discardLeftovers_writes (backupPresent tempPresent : Bool) (notes : RecoveryNotes) :
    Only (store.WritesOnly kind)
      (store.discardLeftovers kind backupPresent tempPresent notes) := by
  have hone : ∀ (present : Bool) (file : RecordFile), Only (store.WritesOnly kind)
      (removeFiles (if present then [store.path kind file] else [])) := by
    intro present file
    cases present with
    | true => exact removePaths_writes [file]
    | false => exact removePaths_writes []
  exact Only.bind (hone _ _) fun _ => Only.bind (hone _ _) fun _ => only_pure _

/-- A recovery writes the files of its own record. -/
lemma recover_writes (notes : RecoveryNotes) :
    Only (store.WritesOnly kind) (store.recover kind notes) := by
  unfold recover
  refine Only.bind (only_call trivial) fun journal => ?_
  refine Only.bind (only_call trivial) fun backup => ?_
  refine Only.bind (only_call trivial) fun temp => ?_
  split_ifs
  · exact recoverAttempt_writes _ _
  · exact discardLeftovers_writes _ _ _

end Writes

/-! ## The other record -/

/-- What is settled is determined by the files of its own record. -/
lemma Settles.congr (h : store.Settles kind v dir)
    (hsame : ∀ file, dir' (store.path kind file) = dir (store.path kind file)) :
    store.Settles kind v dir' := by
  rcases h with h | ⟨record, rfl, h⟩
  · left
    cases v with
    | none => exact ⟨(hsame .base).trans h.1, (hsame .backup).trans h.2⟩
    | some record =>
      obtain ⟨bytes, hbytes, hdec⟩ := h
      exact ⟨bytes, (hsame .base).trans hbytes, hdec⟩
  · obtain ⟨bytes, hbytes, hdec⟩ := h.base
    obtain ⟨backup, hbackup, hold⟩ := h.backup
    refine .inr ⟨record, rfl, ⟨bytes, (hsame .base).trans hbytes, hdec⟩,
      ⟨backup, (hsame .backup).trans hbackup, hold⟩, ?_⟩
    rw [hsame]
    exact h.journal

/-- A record is settled in one way at most. -/
lemma Settles.unique (h : store.Settles kind v dir) (h' : store.Settles kind v' dir) : v = v' := by
  -- A record settles in its own file, or in the backup of a torn one; a file cannot be both
  -- absent and torn, nor both torn and whole.
  rcases h with h | ⟨record, rfl, h⟩
  · cases v with
    | some record => exact (h'.holds_of_fileHolds h).2.symm
    | none =>
      rcases h' with h' | ⟨record, rfl, h'⟩
      · have hsome := h'.isSome
        rw [h.isSome] at hsome
        exact (Option.isNone_iff_eq_none.mp (by simpa using hsome.symm)).symm
      · obtain ⟨bytes, hbytes, -⟩ := h'.base
        rw [h.1] at hbytes
        cases hbytes
  · rcases h' with h' | ⟨record', rfl, h'⟩
    · cases v' with
      | some record' =>
        obtain ⟨bytes, hbytes, hdec⟩ := h'
        obtain ⟨torn, htorn, hbad⟩ := h.base
        obtain rfl : torn = bytes := Option.some.inj (htorn.symm.trans hbytes)
        exact absurd hdec (hbad record')
      | none =>
        obtain ⟨bytes, hbytes, -⟩ := h.base
        rw [h'.1] at hbytes
        cases hbytes
    · obtain ⟨bytes, hbytes, hdec⟩ := h.backup
      obtain ⟨bytes', hbytes', hdec'⟩ := h'.backup
      obtain rfl : bytes = bytes' := Option.some.inj (hbytes.symm.trans hbytes')
      rw [Except.ok.inj (hdec.symm.trans hdec')]

section Frame

variable {α : Type} {path : String} {op : FileOp} {s t : Directory}

lemma handle_frame (hop : store.WritesOnly kind op)
    (hpath : ∀ file, path ≠ store.path kind file) : (handle op s).2 path = s path := by
  cases op with
  | ensureDirectory | fileExists | readFile | syncDirectory => rfl
  | writeFile target data =>
    obtain ⟨file, rfl⟩ := hop
    exact Directory.set_of_ne (hpath file)
  | removeFile target =>
    obtain ⟨file, rfl⟩ := hop
    exact Directory.set_of_ne (hpath file)
  | replaceFile source target =>
    obtain ⟨⟨file, rfl⟩, file', rfl⟩ := hop
    simp only [handle]
    cases s (store.path kind file) with
    | none => rfl
    | some data =>
      exact (Directory.set_of_ne (hpath file')).trans (Directory.set_of_ne (hpath file))

lemma completes_frame (hop : store.WritesOnly kind op)
    (hpath : ∀ file, path ≠ store.path kind file) {r : op.Resp}
    (h : CommitCompletes op s r t) : t path = s path := by
  cases h with
  | performed => exact handle_frame hop hpath
  | writeCutOff =>
    obtain ⟨file, rfl⟩ := hop
    exact Directory.set_of_ne (hpath file)
  | removeUnreported =>
    obtain ⟨file, rfl⟩ := hop
    exact Directory.set_of_ne (hpath file)
  | ensureFailed | readFailed | writeFailed | replaceFailed | removeFailed | syncFailed => rfl

lemma breaks_frame (hop : store.WritesOnly kind op)
    (hpath : ∀ file, path ≠ store.path kind file) (h : CommitBreaks op s t) :
    t path = s path := by
  cases h with
  | writeCutOff =>
    obtain ⟨file, rfl⟩ := hop
    exact Directory.set_of_ne (hpath file)
  | replaceTorn =>
    obtain ⟨-, file, rfl⟩ := hop
    exact Directory.set_of_ne (hpath file)

lemma path_ne (h : other ≠ kind) (file : RecordFile) :
    ∀ file', store.path other file ≠ store.path kind file' :=
  fun _ heq => h (store.path_inj.mp heq).1

/-- A program that writes the files of one record leaves the other settled as it was. -/
lemma settles_frame_commit {p : FileM α} (hp : Only (store.WritesOnly kind) p)
    (hne : other ≠ kind) :
    Triple commitDevice (store.Settles other v) p (fun _ => store.Settles other v)
      (store.Settles other v) := by
  refine Only.triple hp ?_ ?_
  · intro op hop s r t hs hstep
    exact hs.congr fun file => completes_frame hop (path_ne hne file) hstep
  · intro op hop s t hs hstep
    exact hs.congr fun file => breaks_frame hop (path_ne hne file) hstep

lemma settles_frame_recover {p : FileM α} (hp : Only (store.WritesOnly kind) p)
    (hne : other ≠ kind) :
    Triple recoverDevice (store.Settles other v) p (fun _ => store.Settles other v)
      (store.Settles other v) := by
  refine Only.triple hp ?_ fun _ _ _ _ _ h => h.elim
  intro op hop s r t hs hstep
  obtain ⟨-, rfl⟩ := Prod.mk_inj.mp hstep
  exact hs.congr fun file => handle_frame hop (path_ne hne file)

end Frame

/-! ## Both records -/

/-- The settled record of each kind. -/
abbrev Records := RecordKind → Option DecodedRecord

/-- The directory settles both records. -/
def Settled (store : DurableStore) (records : Records) (dir : Directory) : Prop :=
  ∀ kind, store.Settles kind (records kind) dir

/-- A commit of a payload puts the record in the place of the settled one. -/
structure Replaces (v : Option DecodedRecord) (expectedGeneration nextGeneration : UInt64)
    (payload : ByteBuffer) (record : DecodedRecord) : Prop where
  expected : generationOf v = expectedGeneration
  advances : expectedGeneration < nextGeneration
  generation : record.generation = nextGeneration
  payload_eq : record.payload = payload
  size : payload.length ≤ kMaxDurablePayloadBytes

/-- A commit of a payload was attempted, and it is not known whether it came through. -/
def Attempted (records : Records) (kind : RecordKind) (expectedGeneration nextGeneration : UInt64)
    (payload : ByteBuffer) (records' : Records) : Prop :=
  records' = records ∨ ∃ record,
    Replaces (records kind) expectedGeneration nextGeneration payload record ∧
      records' = Function.update records kind (some record)

variable {records records' : Records} {expectedGeneration nextGeneration : UInt64}
  {payload : ByteBuffer} {writer : Incarnation}

lemma Settled.update (h : store.Settles kind v dir)
    (hothers : ∀ other, other ≠ kind → store.Settles other (records other) dir) :
    store.Settled (Function.update records kind v) dir := by
  intro other
  by_cases hother : other = kind
  · subst hother
    rwa [Function.update_self]
  · rw [Function.update_of_ne hother]
    exact hothers other hother

/-- A commit that expects another generation, does not advance it or is too large fails. -/
lemma commit_refused (h : ¬ (generationOf v = expectedGeneration ∧
    expectedGeneration < nextGeneration ∧ payload.length ≤ kMaxDurablePayloadBytes)) :
    Attempts commitDevice (store.Settles kind v)
      (store.commit kind expectedGeneration nextGeneration payload writer) (fun _ _ => False)
      (store.Settles kind v) (store.Settles kind v) := by
  refine Attempts.bind (Q := fun _ d => store.Settles kind v d ∧
    expectedGeneration < nextGeneration ∧ payload.length ≤ kMaxDurablePayloadBytes)
    (Attempts.pure ?_ (fun _ hd => hd) fun _ hd => hd) (fun _ hd => hd) fun _ => ?_
  · rintro ⟨⟩ hcheck d hd
    simp only [checkCommit, rejectIf_bind_eq_ok, rejectIf_eq_ok, not_lt] at hcheck
    exact ⟨hd, UInt64.not_le.mp hcheck.2.2.2, hcheck.2.1⟩
  refine Triple.assume fun hpassed => ?_
  refine Attempts.bind (checkDurable_commit expectedGeneration) (fun _ hd => hd) fun present => ?_
  rintro d ⟨-, hgeneration⟩
  exact absurd ⟨hgeneration, hpassed⟩ h

/-- What a commit makes of both records, by the way it ended. -/
theorem commit_settled (hfaults : CrashFaults store.faults (records kind).isSome)
    (h : store.Settled records dir) :
    (∀ t, Ends commitDevice
        (store.commit kind expectedGeneration nextGeneration payload writer).run dir (.ok ()) t →
      ∃ record, Replaces (records kind) expectedGeneration nextGeneration payload record ∧
        store.Settled (Function.update records kind (some record)) t) ∧
    (∀ e t, Ends commitDevice
        (store.commit kind expectedGeneration nextGeneration payload writer).run dir
        (.error e) t →
      ∃ records', Attempted records kind expectedGeneration nextGeneration payload records' ∧
        store.Settled records' t) ∧
    ∀ t, Crashes commitDevice
        (store.commit kind expectedGeneration nextGeneration payload writer).run dir t →
      ∃ records', Attempted records kind expectedGeneration nextGeneration payload records' ∧
        store.Settled records' t := by
  -- only files of the kind are touched, so the other records are as they were
  have hframe : ∀ other, other ≠ kind → _ := fun other hother =>
    settles_frame_commit (@commit_writes store kind expectedGeneration nextGeneration payload
      writer) hother dir (h other)
  have hkept : ∀ t, store.Settles kind (records kind) t →
      (∀ other, other ≠ kind → store.Settles other (records other) t) →
      store.Settled records t := by
    intro t hkind hothers other
    by_cases hother : other = kind
    · subst hother
      exact hkind
    · exact hothers other hother
  -- the commit is tried on the device, or refused before it writes anything
  by_cases hpasses : generationOf (records kind) = expectedGeneration ∧
      expectedGeneration < nextGeneration ∧ payload.length ≤ kMaxDurablePayloadBytes
  · obtain ⟨hexpected, hadvances, hsize⟩ := hpasses
    have hreplaces : Replaces (records kind) expectedGeneration nextGeneration payload
        (recordOf nextGeneration writer payload) := ⟨hexpected, hadvances, rfl, rfl, hsize⟩
    obtain ⟨hends, hcrashes⟩ := commit_triple hfaults expectedGeneration nextGeneration payload
      writer dir (h kind)
    have htried : ∀ t, store.Tried kind (records kind) (recordOf nextGeneration writer payload) t →
        (∀ other, other ≠ kind → store.Settles other (records other) t) →
        ∃ records', Attempted records kind expectedGeneration nextGeneration payload records' ∧
          store.Settled records' t := by
      rintro t (ht | ht) hothers
      · exact ⟨records, .inl rfl, hkept t ht hothers⟩
      · exact ⟨_, .inr ⟨_, hreplaces, rfl⟩, Settled.update (.inl ht) hothers⟩
    refine ⟨fun t ht => ?_, fun e t ht => ?_, fun t ht => ?_⟩
    · exact ⟨_, hreplaces, Settled.update (.inl (hends _ t ht))
        fun other hother => (hframe other hother).1 _ t ht⟩
    · exact htried t (hends _ t ht) fun other hother => (hframe other hother).1 _ t ht
    · exact htried t (hcrashes t ht) fun other hother => (hframe other hother).2 t ht
  · obtain ⟨hends, hcrashes⟩ := @commit_refused store kind _ _ _ _ writer hpasses dir (h kind)
    refine ⟨fun t ht => (hends _ t ht).elim, fun e t ht => ?_, fun t ht => ?_⟩
    · exact ⟨records, .inl rfl, hkept t (hends _ t ht)
        fun other hother => (hframe other hother).1 _ t ht⟩
    · exact ⟨records, .inl rfl, hkept t (hcrashes t ht)
        fun other hother => (hframe other hother).2 t ht⟩

/-- A recovery, whether it ends or is interrupted, leaves both records settled. -/
theorem recover_settled (h : store.Settled records dir) (notes : RecoveryNotes) :
    (∀ result t, Ends recoverDevice (store.recover kind notes) dir result t →
      store.Settled records t) ∧
    ∀ t, Crashes recoverDevice (store.recover kind notes) dir t → store.Settled records t := by
  have hframe : ∀ other, other ≠ kind → _ := fun other hother =>
    settles_frame_recover (@recover_writes store kind notes) hother dir (h other)
  obtain ⟨hends, hcrashes⟩ := recover_triple notes (h kind) dir rfl
  constructor
  · intro result t ht other
    by_cases hother : other = kind
    · subst hother
      exact .inl (hends result t ht).holds
    · exact (hframe other hother).1 result t ht
  · intro t ht other
    by_cases hother : other = kind
    · subst hother
      exact hcrashes t ht
    · exact (hframe other hother).2 t ht

end DurableStore

end FairnessGovernor
