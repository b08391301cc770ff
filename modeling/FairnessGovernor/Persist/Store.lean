/-
# The durable store

A directory of record files.  A commit writes the new record to a temporary file, writes a
journal, snapshots the committed record to a backup and replaces it by the temporary file; a
recovery looks at which of the companion files a crash left behind.
-/
import FairnessGovernor.Persist.FileSystem

namespace FairnessGovernor

open LittleEndian fsutil

/-! ## Records -/

inductive RecordKind
  | policy | accounting
deriving DecidableEq, Inhabited

/-- The underlying value of a `RecordKind`. -/
def RecordKind.toUInt16 : RecordKind → UInt16
  | policy => 1
  | accounting => 2

/-- `record_kind_name`. -/
def recordKindName : RecordKind → String
  | .policy => "policy"
  | .accounting => "accounting"

/-- `kRecordMagic`. -/
def kRecordMagic : UInt32 := 0x43524746
/-- Size of the fixed record header. -/
def kRecordHeaderSize : ℕ := 64
/-- `kPayloadChecksumOffset`. -/
def kPayloadChecksumOffset : ℕ := 48
/-- `kHeaderChecksumOffset`. -/
def kHeaderChecksumOffset : ℕ := 56

section Header

open ByteWriter

/-- The header of a record, with the given checksum in its last field. -/
def recordHeader (kind : RecordKind) (generation : UInt64) (writer : Incarnation)
    (payload : ByteBuffer) (headerChecksum : UInt64) : ByteBuffer :=
  u32 kRecordMagic ++ u16 kFormatVersion ++ u16 kind.toUInt16 ++ u32 0 ++ u32 0 ++
  u64 generation ++ u64 writer.boot.value ++ u64 writer.ordinal ++
  u64 (UInt64.ofNat payload.length) ++ u64 (checksum64 payload) ++ u64 headerChecksum

/-- `encode_record`: the header is checksummed with its last field zero. -/
def encodeRecord (kind : RecordKind) (generation : UInt64) (writer : Incarnation)
    (payload : ByteBuffer) : ByteBuffer :=
  recordHeader kind generation writer payload
    (checksum64 (recordHeader kind generation writer payload 0)) ++ payload

end Header

/-- What decoding a record gives. -/
structure DecodedRecord where
  generation : UInt64
  writerBoot : BootId
  writerOrdinal : UInt64
  payload : ByteBuffer
deriving DecidableEq

/-- `decode_record`. -/
def decodeRecord (bytes : ByteBuffer) (expectedKind : RecordKind) :
    Except Status DecodedRecord := do
  rejectIf (bytes.length < kRecordHeaderSize) .truncated "record is shorter than its header"
  rejectIf (bytes.length > kRecordHeaderSize + kMaxDurablePayloadBytes) .oversizedPayload
    "record exceeds the durable bound"
  rejectIf (loadLe 4 bytes 0 ≠ kRecordMagic.toNat) .corruptRecord "record magic mismatch"
  rejectIf (loadLe 2 bytes 4 ≠ kFormatVersion.toNat) .unsupportedFormat
    "unsupported record format version"
  rejectIf (loadLe 2 bytes 6 ≠ expectedKind.toUInt16.toNat) .corruptRecord
    "record kind mismatch"
  rejectIf (loadLe 4 bytes 8 ≠ 0 ∨ loadLe 4 bytes 12 ≠ 0) .corruptRecord
    "record reserved fields must be zero"
  let headerChecksum := loadLe 8 bytes kHeaderChecksumOffset
  let headerCopy := storeLe 8 (bytes.take kRecordHeaderSize) kHeaderChecksumOffset 0
  rejectIf ((checksum64 headerCopy).toNat ≠ headerChecksum) .checksumMismatch
    "record header checksum mismatch"
  let payloadLength := loadLe 8 bytes 40
  rejectIf (payloadLength > kMaxDurablePayloadBytes) .oversizedPayload
    "record payload length exceeds the bound"
  rejectIf (bytes.length ≠ kRecordHeaderSize + payloadLength) .truncated
    "record payload length does not match the file size"
  let payload := bytes.drop kRecordHeaderSize
  rejectIf ((checksum64 payload).toNat ≠ loadLe 8 bytes kPayloadChecksumOffset) .checksumMismatch
    "record payload checksum mismatch"
  return { generation := UInt64.ofNat (loadLe 8 bytes 16)
           writerBoot := ⟨UInt64.ofNat (loadLe 8 bytes 24)⟩
           writerOrdinal := UInt64.ofNat (loadLe 8 bytes 32)
           payload := payload }

/-! ## The store -/

/-- The failures that the tests inject into a commit. -/
structure StoreFaultInjection where
  failBeforeTempWrite : Bool := false
  failAfterTempWrite : Bool := false
  failAfterJournalWrite : Bool := false
  tornReplace : Bool := false
  failAfterReplace : Bool := false
  corruptPayload : Bool := false
  truncateTemp : Bool := false
  oversizePayload : Bool := false
deriving DecidableEq, Inhabited

/-- Result of loading one record file. -/
structure LoadedRecord where
  present : Bool := false
  kind : RecordKind := .policy
  generation : UInt64 := 0
  writerBoot : BootId := {}
  writerOrdinal : UInt64 := 0
  payload : ByteBuffer := []
  code : StatusCode := .ok
  detail : String := ""
deriving DecidableEq

/-- `LoadedRecord::ok`. -/
def LoadedRecord.ok (record : LoadedRecord) : Prop := record.code = .ok

instance (record : LoadedRecord) : Decidable record.ok :=
  inferInstanceAs (Decidable (record.code = .ok))

/-- Notes produced by a recovery. -/
structure RecoveryNotes where
  journalCleared : Bool := false
  backupRecovered : Bool := false
  unfinishedAttemptDiscarded : Bool := false
  corruptionDetected : Bool := false
  tempDiscarded : Bool := false
deriving DecidableEq, Inhabited

/-- A directory holding crash-safe record files. -/
structure DurableStore where
  directory : String
  faults : StoreFaultInjection := {}
deriving DecidableEq

/-- The files of a record: the committed record itself and its companions. -/
inductive RecordFile
  | base | temp | journal | backup
deriving DecidableEq

/-- What tells the files of a record apart. -/
def RecordFile.suffix : RecordFile → String
  | base => ""
  | temp => ".tmp"
  | journal => ".jnl"
  | backup => ".prev"

/-- `DurableStore::open`. -/
def DurableStore.open (directory : String) : StatusM DurableStore := do
  ensureDirectory directory
  return { directory := directory }

namespace DurableStore

variable (store : DurableStore) (kind : RecordKind)

/-- `record_path`. -/
def recordPath : String := store.directory ++ "/fairness_" ++ recordKindName kind ++ ".rec"

/-- `companion_path`. -/
def path (file : RecordFile) : String := store.recordPath kind ++ file.suffix

/-- What is loaded from the bytes of a record file. -/
def loaded (bytes : Except Status ByteBuffer) : LoadedRecord :=
  match bytes >>= (decodeRecord · kind) with
  | .error e => { present := true, kind := kind, code := e.code, detail := e.detail }
  | .ok record =>
    { present := true, kind := kind, generation := record.generation
      writerBoot := record.writerBoot, writerOrdinal := record.writerOrdinal
      payload := record.payload }

/-- What is loaded where there is no record file. -/
def absent : LoadedRecord := { kind := kind, code := .notFound, detail := "no committed record" }

/-- `DurableStore::load`. -/
def load : FileM LoadedRecord := do
  let present ← fileExists (store.path kind .base)
  if present then
    let bytes ←
      (readFile (store.path kind .base) (kRecordHeaderSize + kMaxDurablePayloadBytes)).run
    return loaded kind bytes
  else return absent kind

/-! ### Recovery -/

/-- Recovery where a journal is left: the replace of some commit may be unfinished. -/
def recoverAttempt (backupPresent : Bool) (notes : RecoveryNotes) :
    FileM (Except Status Unit × RecoveryNotes) := do
  let notes := { notes with journalCleared := true }
  let mainRecord ← store.load kind
  if mainRecord.present ∧ mainRecord.ok then
    -- the replace completed before the crash
    removeFiles [store.path kind .journal, store.path kind .backup, store.path kind .temp]
    return (.ok (), notes)
  else if backupPresent then
    let restored ← (replaceFile (store.path kind .backup) (store.path kind .base)).run
    removeFiles [store.path kind .journal, store.path kind .temp]
    match restored with
    | .error e => return (.error e, { notes with corruptionDetected := true })
    | .ok () =>
      let notes := { notes with backupRecovered := true }
      let restoredRecord ← store.load kind
      if restoredRecord.ok then return (.ok (), notes)
      else return (.error ⟨restoredRecord.code, "backup recovery produced an invalid record"⟩,
        { notes with corruptionDetected := true })
  else
    -- nothing to fall back to: the attempt is abandoned
    removeFiles [store.path kind .journal, store.path kind .temp]
    return (.ok (), { notes with
      unfinishedAttemptDiscarded := true, corruptionDetected := mainRecord.present })

/-- Recovery where no journal is left: a temporary file and a backup are leftovers. -/
def discardLeftovers (backupPresent tempPresent : Bool) (notes : RecoveryNotes) :
    FileM (Except Status Unit × RecoveryNotes) := do
  removeFiles (if tempPresent then [store.path kind .temp] else [])
  removeFiles (if backupPresent then [store.path kind .backup] else [])
  return (.ok (), if tempPresent then
    { notes with tempDiscarded := true, unfinishedAttemptDiscarded := true } else notes)

/-- `DurableStore::recover`. -/
def recover (notes : RecoveryNotes) : FileM (Except Status Unit × RecoveryNotes) := do
  let journalPresent ← fileExists (store.path kind .journal)
  let backupPresent ← fileExists (store.path kind .backup)
  let tempPresent ← fileExists (store.path kind .temp)
  if journalPresent then store.recoverAttempt kind backupPresent notes
  else store.discardLeftovers kind backupPresent tempPresent notes

/-! ### Commit -/

/-- The checks of a commit that look at no file. -/
def checkCommit (expectedGeneration nextGeneration : UInt64) (payload : ByteBuffer)
    (writer : Incarnation) : Except Status Unit := do
  rejectIf store.faults.oversizePayload .oversizedPayload "injected oversized payload"
  rejectIf (payload.length > kMaxDurablePayloadBytes) .oversizedPayload
    "payload exceeds the durable bound"
  rejectIf (¬ writer.boot.valid ∨ writer.ordinal = 0) .invalidArgument
    "durable commit requires a live incarnation"
  rejectIf (nextGeneration ≤ expectedGeneration) .commitRejected "next generation must advance"

/-- The check of a commit against the committed record; the result is whether there is one. -/
def checkDurable (expectedGeneration : UInt64) : StatusM Bool := do
  let mainPresent ← fileExists (store.path kind .base)
  if mainPresent then
    let current ← store.load kind
    StatusM.of do
      rejectIf (¬ current.ok) .commitRejected
        "existing durable record is not valid; recovery is required"
      rejectIf (current.generation ≠ expectedGeneration) .commitRejected
        "durable generation advanced under this commit"
      return true
  else
    StatusM.of do
      rejectIf (expectedGeneration ≠ 0) .commitRejected
        "no durable record exists for this generation"
      return false

/-- What the injected media faults make of an encoded record. -/
def damaged (encoded : ByteBuffer) : ByteBuffer :=
  let encoded := if store.faults.truncateTemp ∧ encoded.length > kRecordHeaderSize then
    encoded.take (kRecordHeaderSize + 1) else encoded
  if store.faults.corruptPayload ∧ encoded.length > kRecordHeaderSize then
    encoded.modify kRecordHeaderSize (· ^^^ 0xFF) else encoded

/-- A failure removes the files of the attempt and is returned. -/
def orAbandon (p : StatusM Unit) (files : List String) : StatusM Unit := ExceptT.mk do
  let result ← p.run
  match result with
  | .ok () => return .ok ()
  | .error e =>
    removeFiles files
    return .error e

/-- An injected failure. -/
def injected (fault : Bool) (detail : String) : StatusM Unit :=
  StatusM.of (rejectIf fault .ioError detail)

/-- The new record is written to the temporary file. -/
def writeTemp (encoded : ByteBuffer) : StatusM Unit := do
  injected store.faults.failBeforeTempWrite "injected failure before the temporary write"
  orAbandon (writeFile (store.path kind .temp) encoded) [store.path kind .temp]
  injected store.faults.failAfterTempWrite "injected failure after the temporary write"

/-- The journal of an attempt. -/
def journalBytes (nextGeneration : UInt64) (payload : ByteBuffer) (writer : Incarnation) :
    ByteBuffer :=
  ByteWriter.u64 nextGeneration ++ ByteWriter.u64 (checksum64 payload) ++
    ByteWriter.u64 writer.boot.value ++ ByteWriter.u64 writer.ordinal

/-- The attempt is journalled. -/
def writeJournal (journal : ByteBuffer) : StatusM Unit := do
  orAbandon (writeFile (store.path kind .journal) journal) [store.path kind .temp]
  injected store.faults.failAfterJournalWrite "injected failure after the journal write"

/-- The committed record is copied to the backup. -/
def snapshotMain (mainPresent : Bool) : StatusM Unit :=
  if mainPresent then
    orAbandon (copyFile (store.path kind .base) (store.path kind .backup)
        (kRecordHeaderSize + kMaxDurablePayloadBytes))
      [store.path kind .journal, store.path kind .temp]
  else pure ()

/-- The committed record is replaced by the temporary file. -/
def replaceMain (encoded : ByteBuffer) : StatusM Unit :=
  if store.faults.tornReplace then do
    writeFile (store.path kind .base) (encoded.take (kRecordHeaderSize + 1))
    StatusM.ignore (removeFile (store.path kind .temp))
    StatusM.fail .ioError "injected torn replace"
  else do
    orAbandon (replaceFile (store.path kind .temp) (store.path kind .base))
      [store.path kind .journal, store.path kind .temp]
    StatusM.ignore (syncDirectory (store.path kind .base))

/-- The attempt is over: its journal and its backup are dropped. -/
def finish : StatusM Unit := do
  injected store.faults.failAfterReplace "injected failure after the replace"
  StatusM.ignore (removeFiles [store.path kind .journal, store.path kind .backup])

/-- `DurableStore::commit`. -/
def commit (expectedGeneration nextGeneration : UInt64) (payload : ByteBuffer)
    (writer : Incarnation) : StatusM Unit := do
  StatusM.of (store.checkCommit expectedGeneration nextGeneration payload writer)
  let mainPresent ← store.checkDurable kind expectedGeneration
  let encoded := store.damaged (encodeRecord kind nextGeneration writer payload)
  store.writeTemp kind encoded
  store.writeJournal kind (journalBytes nextGeneration payload writer)
  store.snapshotMain kind mainPresent
  store.replaceMain kind encoded
  store.finish kind

end DurableStore

end FairnessGovernor
