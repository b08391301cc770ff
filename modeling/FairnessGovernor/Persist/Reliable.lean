/-
# Records on a file system that does not fail

Where no operation fails and nothing is interrupted, a record is at rest between commits: its file
holds it and no companion is left.  A commit is then either taken, and its record is at rest, or
refused, and nothing has changed; whatever a recovery finds, it leaves no companion.
-/
import FairnessGovernor.Persist.Records

namespace FairnessGovernor

open Program fsutil

namespace DurableStore

variable {store : DurableStore} {kind other : RecordKind} {dir dir' : Directory}
  {v : Option DecodedRecord}

/-- The record file holds the record, and no attempt has left anything. -/
structure Rests (store : DurableStore) (kind : RecordKind) (v : Option DecodedRecord)
    (dir : Directory) : Prop where
  holds : store.Holds kind v dir
  clean : store.Clean kind dir

lemma Rests.congr (h : store.Rests kind v dir)
    (hsame : ∀ file, dir' (store.path kind file) = dir (store.path kind file)) :
    store.Rests kind v dir' := by
  constructor
  · cases v with
    | none => exact ⟨(hsame .base).trans h.holds.1, (hsame .backup).trans h.holds.2⟩
    | some record =>
      obtain ⟨bytes, hbytes, hdec⟩ := h.holds
      exact ⟨bytes, (hsame .base).trans hbytes, hdec⟩
  · intro file hfile
    rw [hsame]
    exact h.clean file hfile

/-- A program that writes the files of one record leaves those of the other. -/
lemma run_frame {α : Type} {p : FileM α} (hp : Only (store.WritesOnly kind) p)
    (hne : other ≠ kind) (dir : Directory) (file : RecordFile) :
    (run handle p dir).2 (store.path other file) = dir (store.path other file) :=
  hp.run_keeps (I := fun d : Directory => d (store.path other file) = dir (store.path other file))
    (fun _ hop _ hs => (handle_frame hop (path_ne hne file)).trans hs) rfl

/-- A commit that the store takes, where nothing fails. -/
structure Takes (v : Option DecodedRecord) (expectedGeneration nextGeneration : UInt64)
    (payload : ByteBuffer) (writer : Incarnation) : Prop where
  boot : writer.boot.valid
  ordinal : writer.ordinal ≠ 0
  expected : generationOf v = expectedGeneration
  advances : expectedGeneration < nextGeneration
  size : payload.length ≤ kMaxDurablePayloadBytes

variable {expectedGeneration nextGeneration : UInt64} {payload : ByteBuffer} {writer : Incarnation}

lemma Takes.replaces (h : Takes v expectedGeneration nextGeneration payload writer) :
    Replaces v expectedGeneration nextGeneration payload
      (recordOf nextGeneration writer payload) :=
  ⟨h.expected, h.advances, rfl, rfl, h.size⟩

lemma checkCommit_eq_ok (hfaults : store.faults = {}) :
    store.checkCommit expectedGeneration nextGeneration payload writer = .ok () ↔
      payload.length ≤ kMaxDurablePayloadBytes ∧ writer.boot.valid ∧ writer.ordinal ≠ 0 ∧
        expectedGeneration < nextGeneration := by
  unfold checkCommit
  rw [hfaults]
  simp only [rejectIf_bind_eq_ok, rejectIf_eq_ok, not_or, not_not, not_lt, UInt64.not_le,
    Bool.false_eq_true, not_false_eq_true, true_and, ne_eq, and_assoc]

/-- The check of a commit against the committed record writes nothing. -/
lemma run_checkDurable (h : store.Rests kind v dir) :
    ∃ result, run handle (store.checkDurable kind expectedGeneration).run dir = (result, dir) ∧
      ∀ present, result = .ok present ↔
        present = v.isSome ∧ generationOf v = expectedGeneration := by
  have hexists : run handle (fileExists (store.path kind .base)) dir = (v.isSome, dir) := by
    rw [← h.holds.isSome]
    rfl
  unfold checkDurable
  rw [run_bind_except, run_lift, hexists]
  -- without a record the expected generation has to be 0
  cases v with
  | none =>
    refine ⟨_, rfl, fun present => ?_⟩
    rw [rejectIf_bind_eq_ok, not_not]
    constructor
    · rintro ⟨hexpected, hpresent⟩
      exact ⟨(Except.ok.inj hpresent).symm, hexpected.symm⟩
    · rintro ⟨rfl, hexpected⟩
      exact ⟨hexpected.symm, rfl⟩
  | some record =>
    dsimp only [Option.isSome_some]
    rw [if_pos rfl, run_bind_except, run_lift, run_load, h.holds.loads_eq]
    refine ⟨_, rfl, fun present => ?_⟩
    rw [rejectIf_bind_eq_ok, rejectIf_bind_eq_ok, not_not, not_not]
    constructor
    · rintro ⟨-, hexpected, hpresent⟩
      exact ⟨(Except.ok.inj hpresent).symm, hexpected⟩
    · rintro ⟨rfl, hexpected⟩
      exact ⟨rfl, hexpected, rfl⟩

lemma run_orAbandon {p : StatusM Unit} {files : List String}
    (h : run handle p.run dir = (.ok (), dir')) :
    run handle (orAbandon p files).run dir = (.ok (), dir') := by
  refine (run_bind p.run _ dir).trans ?_
  rw [h]
  rfl

/-- The copy of the committed record is the backup, if there is one. -/
lemma run_snapshotMain (h : store.Holds kind v dir) :
    ∃ t, run handle (store.snapshotMain kind v.isSome).run dir = (.ok (), t) ∧
      ∀ file, file ≠ .backup → t (store.path kind file) = dir (store.path kind file) := by
  cases v with
  | none => exact ⟨dir, rfl, fun _ _ => rfl⟩
  | some record =>
    obtain ⟨bytes, hbytes, hdec⟩ := h
    have hread : handle (.readFile (store.path kind .base)
        (kRecordHeaderSize + kMaxDurablePayloadBytes)) dir = (.ok bytes, dir) :=
      Prod.ext (Directory.read_eq_ok.mpr ⟨hbytes, (length_of_decodeRecord hdec).2.1⟩) rfl
    refine ⟨dir.set (store.path kind .backup) (some bytes), run_orAbandon ?_, fun file hfile => ?_⟩
    · unfold copyFile
      rw [run_bind_except, show run handle (readFile _ _).run dir = _ from hread]
      rfl
    · rw [set_path, if_neg fun h => hfile h.2]

/-- The temporary file takes the place of the record file. -/
lemma run_replaceMain {encoded : ByteBuffer} (htorn : store.faults.tornReplace = false)
    (htemp : dir (store.path kind .temp) = some encoded) :
    run handle (store.replaceMain kind encoded).run dir =
      (.ok (), dir.move (store.path kind .temp) (store.path kind .base) encoded) := by
  have hreplace : handle (.replaceFile (store.path kind .temp) (store.path kind .base)) dir =
      (.ok (), dir.move (store.path kind .temp) (store.path kind .base) encoded) := by
    simp only [handle, htemp]
  have hrun : run handle (orAbandon (replaceFile (store.path kind .temp) (store.path kind .base))
      [store.path kind .journal, store.path kind .temp]).run dir =
      (.ok (), dir.move (store.path kind .temp) (store.path kind .base) encoded) :=
    run_orAbandon hreplace
  unfold replaceMain
  rw [htorn, if_neg Bool.false_ne_true, run_bind_except, hrun]
  rfl

/-- The phases of a commit that look at no file. -/
lemma run_phases (hfaults : store.faults = {}) (encoded journal : ByteBuffer) :
    run handle (store.writeTemp kind encoded).run dir =
        (.ok (), dir.set (store.path kind .temp) (some encoded)) ∧
      run handle (store.writeJournal kind journal).run dir =
        (.ok (), dir.set (store.path kind .journal) (some journal)) ∧
      run handle (store.finish kind).run dir = (.ok (),
        (dir.set (store.path kind .journal) none).set (store.path kind .backup) none) ∧
      store.damaged encoded = encoded := by
  obtain ⟨directory, faults⟩ := store
  obtain rfl : faults = {} := hfaults
  exact ⟨rfl, rfl, rfl, rfl⟩

/-- What a commit that the store takes leaves, where nothing fails. -/
lemma run_commit_taken (h : store.Rests kind v dir) (hfaults : store.faults = {})
    (htakes : Takes v expectedGeneration nextGeneration payload writer) :
    ∃ t, run handle (store.commit kind expectedGeneration nextGeneration payload writer).run dir =
        (.ok (), t) ∧ store.Rests kind (some (recordOf nextGeneration writer payload)) t := by
  have hcheck : run handle (StatusM.of
      (store.checkCommit expectedGeneration nextGeneration payload writer)).run dir =
      (.ok (), dir) := by
    rw [(checkCommit_eq_ok hfaults).mpr ⟨htakes.size, htakes.boot, htakes.ordinal, htakes.advances⟩]
    rfl
  obtain ⟨result, hdurable, hresult⟩ := @run_checkDurable store kind dir v expectedGeneration h
  obtain rfl := (hresult _).mpr ⟨rfl, htakes.expected⟩
  have hphases := fun d => @run_phases store kind d hfaults
    (encodeRecord kind nextGeneration writer payload) (journalBytes nextGeneration payload writer)
  generalize hencoded : encodeRecord kind nextGeneration writer payload = encoded at hphases
  generalize hjournal : journalBytes nextGeneration payload writer = journal at hphases
  -- the temporary file, the journal and the backup leave the record file as it is
  have hholds : store.Holds kind v ((dir.set (store.path kind .temp) (some encoded)).set
      (store.path kind .journal) (some journal)) :=
    (h.holds.set (by decide) (by simp)).set (by decide) (by simp)
  obtain ⟨copied, hcopied, hsame⟩ := run_snapshotMain hholds
  have htemp : copied (store.path kind .temp) = some encoded := by
    rw [hsame .temp (by decide)]
    simp
  have hreplaced := run_replaceMain (by rw [hfaults]) htemp
  refine ⟨((copied.move (store.path kind .temp) (store.path kind .base) encoded).set
    (store.path kind .journal) none).set (store.path kind .backup) none, ?_, ⟨encoded, ?_, ?_⟩, ?_⟩
  · unfold commit
    rw [hencoded, hjournal, (hphases dir).2.2.2, run_bind_ok hcheck, run_bind_ok hdurable,
      run_bind_ok (hphases _).1, run_bind_ok (hphases _).2.1, run_bind_ok hcopied, run_bind_ok hreplaced]
    exact (hphases _).2.2.1
  · simp [Directory.move]
  · rw [← hencoded]
    exact decodeRecord_encodeRecord htakes.size
  · intro file hfile
    cases file with
    | base => exact absurd rfl hfile
    | temp | journal | backup => simp [Directory.move]

/-- A commit that the store does not take changes nothing, where nothing fails. -/
lemma run_commit_refused (h : store.Rests kind v dir) (hfaults : store.faults = {})
    (htakes : ¬ Takes v expectedGeneration nextGeneration payload writer) :
    ∃ e, run handle (store.commit kind expectedGeneration nextGeneration payload writer).run dir =
      (.error e, dir) := by
  unfold commit
  cases hcheck : store.checkCommit expectedGeneration nextGeneration payload writer with
  | error e => exact ⟨e, rfl⟩
  | ok _ =>
    obtain ⟨hsize, hboot, hordinal, hadvances⟩ := (checkCommit_eq_ok hfaults).mp hcheck
    obtain ⟨result, hdurable, hresult⟩ := @run_checkDurable store kind dir v expectedGeneration h
    cases result with
    | ok present =>
      obtain ⟨-, hexpected⟩ := (hresult present).mp rfl
      exact absurd ⟨hboot, hordinal, hexpected, hadvances, hsize⟩ htakes
    | error e =>
      refine ⟨e, ?_⟩
      rw [run_bind_ok (a := ()) (t := dir) rfl, run_bind_except, hdurable]

/-! ## Both records -/

/-- The directory is at rest with both records. -/
def Resting (store : DurableStore) (records : Records) (dir : Directory) : Prop :=
  ∀ kind, store.Rests kind (records kind) dir

variable {records : Records}

/-- Where nothing fails, a commit is taken and puts its record in the place of the other, or it is
refused and changes nothing. -/
theorem run_commit (h : store.Resting records dir) (hfaults : store.faults = {}) (kind : RecordKind)
    (expectedGeneration nextGeneration : UInt64) (payload : ByteBuffer) (writer : Incarnation) :
    (∃ e, run handle (store.commit kind expectedGeneration nextGeneration payload writer).run dir =
        (.error e, dir) ∧
      ¬ Takes (records kind) expectedGeneration nextGeneration payload writer) ∨
    ∃ t, run handle (store.commit kind expectedGeneration nextGeneration payload writer).run dir =
        (.ok (), t) ∧ Takes (records kind) expectedGeneration nextGeneration payload writer ∧
      store.Resting (Function.update records kind (some (recordOf nextGeneration writer payload))) t := by
  by_cases htakes : Takes (records kind) expectedGeneration nextGeneration payload writer
  · obtain ⟨t, ht, hrests⟩ := run_commit_taken (h kind) hfaults htakes
    refine .inr ⟨t, ht, htakes, fun other => ?_⟩
    by_cases hother : other = kind
    · subst hother
      rwa [Function.update_self]
    · rw [Function.update_of_ne hother]
      refine (h other).congr fun file => ?_
      have hframe := run_frame (@commit_writes store kind expectedGeneration nextGeneration payload
        writer) hother dir file
      rwa [ht] at hframe
  · obtain ⟨e, he⟩ := run_commit_refused (h kind) hfaults htakes
    exact .inl ⟨e, he, htakes⟩

/-! ## Recovery -/

lemma run_removeFiles (files : List String) (dir : Directory) :
    run handle (removeFiles files) dir =
      ((), fun path => if path ∈ files then none else dir path) := by
  induction files generalizing dir with
  | nil => simp [removeFiles]
  | cons path rest ih =>
    refine (ih (dir.set path none)).trans (Prod.ext rfl (funext fun other => ?_))
    by_cases hother : other = path
    · subst hother
      simp
    · simp [Directory.set_of_ne hother, hother]

/-- Whatever a recovery finds, where nothing fails it leaves no companion. -/
lemma run_recover_leaves (notes : RecoveryNotes) (dir : Directory) :
    store.Clean kind (run handle (store.recover kind notes) dir).2 := by
  -- what is left once the given files are removed
  have hremoved : ∀ (files : List RecordFile) (d : Directory)
      (result : Except Status Unit × RecoveryNotes),
      (∀ file, file ≠ .base → file ∉ files → d (store.path kind file) = none) →
      store.Clean kind (run handle (removeFiles (files.map (store.path kind)) >>=
        fun _ => pure result) d).2 := by
    intro files d result hleft file hfile
    rw [run_bind, run_removeFiles]
    show (if store.path kind file ∈ files.map (store.path kind) then none else _) = none
    by_cases hmem : file ∈ files
    · rw [if_pos (List.mem_map_of_mem hmem)]
    · rw [if_neg, hleft file hfile hmem]
      rintro h
      obtain ⟨other, hother, hpath⟩ := List.mem_map.mp h
      rw [(store.path_inj.mp hpath).2] at hother
      exact hmem hother
  unfold recover
  show store.Clean kind (run handle (if (dir (store.path kind .journal)).isSome then
    store.recoverAttempt kind (dir (store.path kind .backup)).isSome notes else
    store.discardLeftovers kind (dir (store.path kind .backup)).isSome
      (dir (store.path kind .temp)).isSome notes) dir).2
  split_ifs with hjournal
  · unfold recoverAttempt
    rw [run_bind, run_load]
    dsimp only
    split_ifs with hmain hbackup
    · refine hremoved [.journal, .backup, .temp] dir _ fun file hfile hmem => ?_
      cases file <;> simp_all
    · -- the backup takes the place of the record file
      obtain ⟨data, hdata⟩ := Option.isSome_iff_exists.mp hbackup
      have hreplace : run handle (replaceFile (store.path kind .backup) (store.path kind .base)).run
          dir = (.ok (), dir.move (store.path kind .backup) (store.path kind .base) data) := by
        show handle (.replaceFile _ _) dir = _
        simp only [handle, hdata]
        rfl
      rw [run_bind, hreplace, run_bind]
      have hclean := hremoved [.journal, .temp]
        (dir.move (store.path kind .backup) (store.path kind .base) data) (.ok (), notes)
        fun file hfile hmem => by cases file <;> simp_all [Directory.move]
      rw [run_bind] at hclean
      dsimp only
      rw [run_bind, run_load]
      split_ifs
      · exact hclean
      · exact hclean
    · refine hremoved [.journal, .temp] dir _ fun file hfile hmem => ?_
      cases file <;> simp_all
  · have hone : ∀ (file : RecordFile), (if (dir (store.path kind file)).isSome then
        [store.path kind file] else []) = (if (dir (store.path kind file)).isSome then [file] else
          []).map (store.path kind) := by
      intro file
      split_ifs <;> rfl
    unfold discardLeftovers
    rw [hone .temp, hone .backup, run_bind, run_removeFiles]
    refine hremoved _ _ _ fun file hfile hmem => ?_
    show (if store.path kind file ∈ _ then none else dir (store.path kind file)) = none
    rw [ite_eq_left_iff]
    intro htemp
    cases file with
    | base => exact absurd rfl hfile
    | journal => simpa using hjournal
    | backup => simpa using hmem
    | temp => simpa using htemp

/-- A directory without companions is at rest, unless its record cannot be loaded. -/
lemma Clean.rests (h : store.Clean kind dir)
    (hok : (store.loads kind dir).present = true → (store.loads kind dir).ok) :
    ∃ v, store.Rests kind v dir := by
  unfold loads at hok
  cases hbase : dir (store.path kind .base) with
  | none => exact ⟨none, ⟨hbase, h .backup (by decide)⟩, h⟩
  | some bytes =>
    rw [hbase, Option.isSome_some, if_pos rfl] at hok
    have hloaded := hok (loaded_present _)
    cases hread : dir.read (store.path kind .base)
        (kRecordHeaderSize + kMaxDurablePayloadBytes) with
    | error e =>
      rw [hread] at hloaded
      exact absurd hloaded (Directory.read_error hread)
    | ok read =>
      rw [hread] at hloaded
      obtain rfl : bytes = read :=
        Option.some.inj (hbase.symm.trans (Directory.read_eq_ok.mp hread).1)
      cases hdecode : decodeRecord bytes kind with
      | error e => exact absurd hloaded (not_loaded_ok fun r hr => by rw [hdecode] at hr; cases hr)
      | ok record => exact ⟨some record, ⟨bytes, hbase, hdecode⟩, h⟩

end DurableStore

end FairnessGovernor
