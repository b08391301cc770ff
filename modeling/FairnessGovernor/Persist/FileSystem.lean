/-
# The file system under the durable store

The store is a program over bounded file primitives.  A directory is a map from paths to
bytes.  Three file systems are given: the fault-free one, which is a handler; the one a commit
runs on, where an operation may fail, a write may be cut off after any prefix, and a crash may
tear a replace that has a file to replace; and the one a recovery runs on, where only a crash
between two operations happens.
-/
import FairnessGovernor.Core.Bytes
import FairnessGovernor.Lib.Program

namespace FairnessGovernor

open Program

/-! ## The primitives -/

/-- The operations of the file system. -/
inductive FileOp
  | ensureDirectory (path : String)
  | fileExists (path : String)
  | readFile (path : String) (maxBytes : ℕ)
  | writeFile (path : String) (data : ByteBuffer)
  | replaceFile (source target : String)
  | removeFile (path : String)
  | syncDirectory (path : String)

/-- What an operation responds with. -/
def FileOp.Resp : FileOp → Type
  | fileExists _ => Bool
  | readFile _ _ => Except Status ByteBuffer
  | ensureDirectory _ => Except Status Unit
  | writeFile _ _ => Except Status Unit
  | replaceFile _ _ => Except Status Unit
  | removeFile _ => Except Status Unit
  | syncDirectory _ => Except Status Unit

/-- A program over the file system. -/
abbrev FileM := Prog FileOp FileOp.Resp

/-- A program over the file system that may return a status. -/
abbrev StatusM := ExceptT Status FileM

/-- A computation that uses no file. -/
def StatusM.of {α : Type} (x : Except Status α) : StatusM α := ExceptT.mk (pure x)

/-- The program of one file operation. -/
def FileM.perform (op : FileOp) : FileM op.Resp := Prog.call op

/-- `return Status(code, detail);` -/
def StatusM.fail {α : Type} (code : StatusCode) (detail : String) : StatusM α :=
  StatusM.of (.error ⟨code, detail⟩)

/-- A program whose status is ignored. -/
def StatusM.ignore {α : Type} (p : FileM α) : StatusM Unit := ExceptT.mk do
  let _ ← p
  return .ok ()

namespace fsutil

def ensureDirectory (path : String) : StatusM Unit := FileM.perform (.ensureDirectory path)
def fileExists (path : String) : FileM Bool := FileM.perform (.fileExists path)
def readFile (path : String) (maxBytes : ℕ) : StatusM ByteBuffer :=
  FileM.perform (.readFile path maxBytes)
def writeFile (path : String) (data : ByteBuffer) : StatusM Unit :=
  FileM.perform (.writeFile path data)
def replaceFile (source target : String) : StatusM Unit :=
  FileM.perform (.replaceFile source target)
def removeFile (path : String) : FileM (Except Status Unit) := FileM.perform (.removeFile path)
def syncDirectory (path : String) : FileM (Except Status Unit) :=
  FileM.perform (.syncDirectory path)

/-- `copy_file`: reads the one file, then writes the other. -/
def copyFile (source target : String) (maxBytes : ℕ) : StatusM Unit := do
  let bytes ← readFile source maxBytes
  writeFile target bytes

/-- Removes the files in order; the statuses are ignored. -/
def removeFiles : List String → FileM Unit
  | [] => pure ()
  | path :: paths => do
    let _ ← removeFile path
    removeFiles paths

end fsutil

/-! ## Directories -/

/-- The files by their paths. -/
abbrev Directory := String → Option ByteBuffer

/-- One file is written or removed. -/
def Directory.set (dir : Directory) (path : String) (file : Option ByteBuffer) : Directory :=
  Function.update dir path file

@[simp] lemma Directory.set_self (dir : Directory) (path : String) (file : Option ByteBuffer) :
    dir.set path file path = file := Function.update_self ..

lemma Directory.set_of_ne {dir : Directory} {path other : String} {file : Option ByteBuffer}
    (h : other ≠ path) : dir.set path file other = dir other := Function.update_of_ne h ..

/-- The target is replaced by the source. -/
def Directory.move (dir : Directory) (source target : String) (data : ByteBuffer) : Directory :=
  (dir.set source none).set target (some data)

/-- What reading a file gives. -/
def Directory.read (dir : Directory) (path : String) (maxBytes : ℕ) : Except Status ByteBuffer :=
  match dir path with
  | none => .error ⟨.ioError, "fopen failed"⟩
  | some data =>
    if data.length > maxBytes then
      .error ⟨.oversizedPayload, "file exceeds the permitted size"⟩
    else .ok data

/-- The fault-free file system. -/
def handle : (op : FileOp) → Directory → op.Resp × Directory
  | .ensureDirectory _, dir => (.ok (), dir)
  | .fileExists path, dir => ((dir path).isSome, dir)
  | .readFile path maxBytes, dir => (dir.read path maxBytes, dir)
  | .writeFile path data, dir => (.ok (), dir.set path (some data))
  | .replaceFile source target, dir =>
    match dir source with
    | none => (.error ⟨.ioError, "rename failed"⟩, dir)
    | some data => (.ok (), dir.move source target data)
  | .removeFile path, dir => (.ok (), dir.set path none)
  | .syncDirectory _, dir => (.ok (), dir)

lemma Directory.read_eq_ok {dir : Directory} {path : String} {maxBytes : ℕ} {data : ByteBuffer} :
    dir.read path maxBytes = .ok data ↔ dir path = some data ∧ data.length ≤ maxBytes := by
  unfold Directory.read
  cases dir path with
  | none => simp
  | some bytes =>
    dsimp only
    split_ifs with hsize
    · simp only [Option.some.injEq, false_iff, not_and]
      rintro rfl
      omega
    · simp only [Except.ok.injEq, Option.some.injEq, iff_self_and]
      rintro rfl
      omega

lemma Directory.read_error {dir : Directory} {path : String} {maxBytes : ℕ} {e : Status}
    (h : dir.read path maxBytes = .error e) : e.code ≠ .ok := by
  unfold Directory.read at h
  split at h
  · cases h
    exact StatusCode.noConfusion
  · split_ifs at h
    cases h
    exact StatusCode.noConfusion

/-! ## Failing and crashing file systems -/

open Crash

/-- How an operation of a commit may end.  An operation that reports an error has had no effect,
except that a write leaves some prefix and that a removal may have happened. -/
inductive CommitCompletes : (op : FileOp) → Directory → op.Resp → Directory → Prop
  | performed (op : FileOp) (dir : Directory) :
      CommitCompletes op dir (handle op dir).1 (handle op dir).2
  | ensureFailed (path : String) (dir : Directory) (e : Status) :
      CommitCompletes (.ensureDirectory path) dir (.error e) dir
  | readFailed (path : String) (maxBytes : ℕ) (dir : Directory) (e : Status) : e.code ≠ .ok →
      CommitCompletes (.readFile path maxBytes) dir (.error e) dir
  | writeFailed (path : String) (data : ByteBuffer) (dir : Directory) (e : Status) :
      CommitCompletes (.writeFile path data) dir (.error e) dir
  | writeCutOff (path : String) (data : ByteBuffer) (dir : Directory) (e : Status) (n : ℕ) :
      CommitCompletes (.writeFile path data) dir (.error e) (dir.set path (some (data.take n)))
  | replaceFailed (source target : String) (dir : Directory) (e : Status) :
      CommitCompletes (.replaceFile source target) dir (.error e) dir
  | removeFailed (path : String) (dir : Directory) (e : Status) :
      CommitCompletes (.removeFile path) dir (.error e) dir
  | removeUnreported (path : String) (dir : Directory) (e : Status) :
      CommitCompletes (.removeFile path) dir (.error e) (dir.set path none)
  | syncFailed (path : String) (dir : Directory) (e : Status) :
      CommitCompletes (.syncDirectory path) dir (.error e) dir

/-- What a crash in the middle of an operation of a commit may leave. -/
inductive CommitBreaks : FileOp → Directory → Directory → Prop
  | writeCutOff (path : String) (data : ByteBuffer) (dir : Directory) (n : ℕ) :
      CommitBreaks (.writeFile path data) dir (dir.set path (some (data.take n)))
  | replaceTorn (source target : String) (dir : Directory) {old data : ByteBuffer} (n : ℕ) :
      dir target = some old → dir source = some data →
      CommitBreaks (.replaceFile source target) dir (dir.set target (some (data.take n)))

/-- The file system a commit runs on. -/
def commitDevice : Device FileOp FileOp.Resp Directory where
  completes := CommitCompletes
  breaks := CommitBreaks

/-- The file system a recovery runs on. -/
def recoverDevice : Device FileOp FileOp.Resp Directory := Device.reliable handle

end FairnessGovernor
