/-
# The file primitives over system calls

`fsutil` carries out each of the file primitives by system calls: a file is written in as many
parts as `write` takes at a time, flushed and closed, and a directory is made part by part.  The
kernel below is what these calls do.  What was written and not flushed is cut off when the file is
closed, or by a crash, at some place behind what was flushed.
-/
import FairnessGovernor.Persist.FileSystem
import FairnessGovernor.Lib.Refinement

namespace FairnessGovernor

open Program Crash

/-! ## System calls -/

/-- What `errno` says, as far as it is looked at. -/
inductive Errno
  | exists_ | noEntry | other
deriving DecidableEq

/-- The system calls, and the calls of the C library. -/
inductive SysOp
  | stat (path : String)
  | mkdir (path : String)
  | unlink (path : String)
  | rename (source target : String)
  | openWrite (path : String)
  | openRead (path : String)
  | write (descriptor : ℕ) (data : ByteBuffer)
  | fsync (descriptor : ℕ)
  | close (descriptor : ℕ)
  | fopen (path : String)
  | fseek (stream : ℕ) (toEnd : Bool)
  | ftell (stream : ℕ)
  | fread (stream : ℕ) (count : ℕ)
  | fclose (stream : ℕ)

/-- What a call responds with: `stat` whether there is a directory, `open` a descriptor, and `mkdir`
and `unlink` why they failed. -/
def SysOp.Resp : SysOp → Type
  | stat _ => Option Bool
  | mkdir _ | unlink _ => Option Errno
  | rename _ _ | fsync _ => Bool
  | openWrite _ | openRead _ | fopen _ => Option ℕ
  | write _ _ | ftell _ => ℤ
  | fread _ _ => ByteBuffer
  | close _ | fseek _ _ | fclose _ => Unit

/-- A program over system calls. -/
abbrev SysM := Prog SysOp SysOp.Resp

/-- The program of one system call. -/
def SysM.call (op : SysOp) : SysM op.Resp := Prog.call op

/-! ## The primitives -/

namespace posix

open SysM

/-- `exists`. -/
def fileExists (path : String) : SysM Bool := do
  let info : Option Bool ← call (.stat path)
  return info.isSome

/-- `is_directory`. -/
def isDirectory (path : String) : SysM Bool := do
  let info : Option Bool ← call (.stat path)
  return info = some true

/-- One part of the path is made a directory, unless it is one. -/
def makeFolder (path : String) : SysM (Except Status Unit) := do
  if path = "" then return .ok ()
  let present ← isDirectory path
  if present then return .ok ()
  let failed : Option Errno ← call (.mkdir path)
  if failed = none ∨ failed = some .exists_ then return .ok ()
  return .error ⟨.ioError, "mkdir failed"⟩

/-- The parts of the path up to each separator, one after the other. -/
def makeFolders : List Char → List Char → SysM (Except Status Unit)
  | made, [] => makeFolder (String.ofList made)
  | made, c :: rest =>
    if c = '\\' ∨ c = '/' then do
      let result ← makeFolder (String.ofList made)
      match result with
      | .error e => return .error e
      | .ok () => makeFolders (made ++ [c]) rest
    else makeFolders (made ++ [c]) rest

/-- The loop starts behind the drive of a path. -/
def drive (path : List Char) : ℕ := if path[1]? = some ':' then 2 else 0

/-- `ensure_directory`. -/
def ensureDirectory (path : String) : SysM (Except Status Unit) := do
  if path = "" then return .ok ()
  let present ← isDirectory path
  if present then return .ok ()
  let made ← makeFolders (path.toList.take (drive path.toList)) (path.toList.drop (drive path.toList))
  match made with
  | .error e => return .error e
  | .ok () =>
    let present ← isDirectory path
    if present then return .ok ()
    return .error ⟨.ioError, "directory could not be created"⟩

/-- `remove_file`. -/
def removeFile (path : String) : SysM (Except Status Unit) := do
  let failed : Option Errno ← call (.unlink path)
  if failed = none ∨ failed = some .noEntry then return .ok ()
  return .error ⟨.ioError, "unlink failed"⟩

/-- The file is measured, read from its start, and closed. -/
def readStream (stream maxBytes : ℕ) : SysM (Except Status ByteBuffer) := do
  call (.fseek stream true)
  let length : ℤ ← call (.ftell stream)
  if length < 0 ∨ length.toNat > maxBytes then do
    call (.fclose stream)
    return .error ⟨.oversizedPayload, "file exceeds the permitted size"⟩
  else do
    call (.fseek stream false)
    let buffer : ByteBuffer ← if length.toNat = 0 then pure [] else call (.fread stream length.toNat)
    call (.fclose stream)
    if buffer.length ≠ length.toNat then return .error ⟨.truncated, "short read"⟩
    return .ok buffer

/-- `read_file`. -/
def readFile (path : String) (maxBytes : ℕ) : SysM (Except Status ByteBuffer) := do
  match ← call (.fopen path) with
  | none => return .error ⟨.ioError, "fopen failed"⟩
  | some stream => readStream stream maxBytes

/-- The loop over `write`: it goes on behind what was taken. -/
def writeAll (descriptor : ℕ) (data : ByteBuffer) : SysM Bool :=
  if data = [] then pure true
  else Prog.perform (.write descriptor data) fun written : ℤ =>
    if written ≤ 0 then pure false
    else writeAll descriptor (data.drop written.toNat)
termination_by data.length
decreasing_by
  have hpos := List.length_pos_iff.mpr ‹data ≠ []›
  rw [List.length_drop]
  omega

/-- `write_file`. -/
def writeFile (path : String) (data : ByteBuffer) : SysM (Except Status Unit) := do
  match ← call (.openWrite path) with
  | none => return .error ⟨.ioError, "open failed"⟩
  | some descriptor =>
    let written ← writeAll descriptor data
    if ¬ written then do
      call (.close descriptor)
      return .error ⟨.ioError, "write failed"⟩
    else do
      let flushed : Bool ← call (.fsync descriptor)
      call (.close descriptor)
      if flushed then return .ok ()
      return .error ⟨.ioError, "fsync failed"⟩

/-- `replace_file`. -/
def replaceFile (source target : String) : SysM (Except Status Unit) := do
  let renamed : Bool ← call (.rename source target)
  if renamed then return .ok ()
  return .error ⟨.ioError, "rename failed"⟩

/-- The directory of a path. -/
def parentOf (path : String) : String :=
  if '/' ∈ path.toList then
    let parent := (path.toList.reverse.dropWhile (· ≠ '/')).tail.reverse
    if parent = [] then "." else String.ofList parent
  else if path = "" then "." else path

/-- `sync_directory`. -/
def syncDirectory (path : String) : SysM (Except Status Unit) := do
  match ← call (.openRead (parentOf path)) with
  | none => return .error ⟨.ioError, "directory open failed"⟩
  | some descriptor =>
    let flushed : Bool ← call (.fsync descriptor)
    call (.close descriptor)
    if flushed then return .ok ()
    return .error ⟨.ioError, "directory fsync failed"⟩

/-- The program that carries out an operation. -/
def carry : (op : FileOp) → SysM op.Resp
  | .ensureDirectory path => ensureDirectory path
  | .fileExists path => fileExists path
  | .readFile path maxBytes => readFile path maxBytes
  | .writeFile path data => writeFile path data
  | .replaceFile source target => replaceFile source target
  | .removeFile path => removeFile path
  | .syncDirectory path => syncDirectory path

end posix

/-! ## The kernel -/

/-- What is at a path. -/
inductive Entry
  | file (data : ByteBuffer)
  | folder
deriving DecidableEq

/-- A file that is open for writing, and how much of it was flushed. -/
structure OpenFile where
  path : String
  flushed : ℕ := 0

/-- A file that is open for reading. -/
structure OpenStream where
  path : String
  position : ℕ := 0

/-- What is stored, and what is open. -/
structure Kernel where
  entries : String → Option Entry
  writing : ℕ → Option OpenFile := fun _ => none
  streams : ℕ → Option OpenStream := fun _ => none

namespace Kernel

/-- The files. -/
def files (k : Kernel) : Directory := fun path =>
  match k.entries path with
  | some (.file data) => some data
  | _ => none

/-- Another entry is at a path. -/
def set (k : Kernel) (path : String) (entry : Option Entry) : Kernel :=
  { k with entries := Function.update k.entries path entry }

/-- A descriptor is opened or closed. -/
def setWriting (k : Kernel) (descriptor : ℕ) (file : Option OpenFile) : Kernel :=
  { k with writing := Function.update k.writing descriptor file }

/-- A stream is opened, moved or closed. -/
def setStream (k : Kernel) (stream : ℕ) (file : Option OpenStream) : Kernel :=
  { k with streams := Function.update k.streams stream file }

/-- The file that a descriptor writes to, with its contents. -/
def written (k : Kernel) (descriptor : ℕ) : Option (OpenFile × ByteBuffer) := do
  let file ← k.writing descriptor
  let data ← k.files file.path
  return (file, data)

/-- The file that a stream reads from, with its contents. -/
def streamed (k : Kernel) (stream : ℕ) : Option (OpenStream × ByteBuffer) := do
  let file ← k.streams stream
  let data ← k.files file.path
  return (file, data)

/-- The descriptor writes to a file with this path and these contents. -/
structure Writes (k : Kernel) (descriptor : ℕ) (file : OpenFile) (data : ByteBuffer) : Prop where
  descriptor : k.writing descriptor = some file
  entry : k.entries file.path = some (.file data)

/-- The stream reads from a file with these contents. -/
structure Reads (k : Kernel) (stream : ℕ) (file : OpenStream) (data : ByteBuffer) : Prop where
  stream : k.streams stream = some file
  entry : k.entries file.path = some (.file data)

end Kernel

/-- How a system call may end. -/
inductive SysCompletes : (op : SysOp) → Kernel → op.Resp → Kernel → Prop
  | statted (path : String) (k : Kernel) :
      SysCompletes (.stat path) k ((k.entries path).map (· = .folder)) k
  | made {path : String} {k : Kernel} : k.entries path = none →
      SysCompletes (.mkdir path) k none (k.set path (some .folder))
  | makeFailed {path : String} {k : Kernel} (e : Errno) : (e = .exists_ → k.entries path ≠ none) →
      SysCompletes (.mkdir path) k (some e) k
  | unlinked {path : String} {k : Kernel} {data : ByteBuffer} :
      k.entries path = some (.file data) → SysCompletes (.unlink path) k none (k.set path none)
  | unlinkFailed {path : String} {k : Kernel} (e : Errno) :
      (e = .noEntry → k.entries path = none) → SysCompletes (.unlink path) k (some e) k
  | renamed {source target : String} {k : Kernel} {entry : Entry} :
      k.entries source = some entry → k.entries target ≠ some .folder →
      SysCompletes (.rename source target) k true ((k.set source none).set target (some entry))
  | renameFailed (source target : String) (k : Kernel) :
      SysCompletes (.rename source target) k false k
  | openedWrite {path : String} {k : Kernel} {descriptor : ℕ} : k.entries path ≠ some .folder →
      k.writing descriptor = none →
      SysCompletes (.openWrite path) k (some descriptor)
        ((k.set path (some (.file []))).setWriting descriptor (some { path := path }))
  | openWriteFailed (path : String) (k : Kernel) : SysCompletes (.openWrite path) k none k
  | openedRead {path : String} {k : Kernel} {descriptor : ℕ} : k.writing descriptor = none →
      SysCompletes (.openRead path) k (some descriptor) k
  | openReadFailed (path : String) (k : Kernel) : SysCompletes (.openRead path) k none k
  | wrote {descriptor count : ℕ} {k : Kernel} {file : OpenFile} {old data : ByteBuffer} :
      k.Writes descriptor file old → 0 < count → count ≤ data.length →
      SysCompletes (.write descriptor data) k (count : ℤ)
        (k.set file.path (some (.file (old ++ data.take count))))
  | writeFailed {descriptor : ℕ} {k : Kernel} {data : ByteBuffer} {response : ℤ} : response ≤ 0 →
      SysCompletes (.write descriptor data) k response k
  | flushed {descriptor : ℕ} {k : Kernel} {file : OpenFile} {data : ByteBuffer} :
      k.Writes descriptor file data → SysCompletes (.fsync descriptor) k true
        (k.setWriting descriptor (some { file with flushed := data.length }))
  | flushedFolder {descriptor : ℕ} {k : Kernel} : k.writing descriptor = none →
      SysCompletes (.fsync descriptor) k true k
  | flushFailed (descriptor : ℕ) (k : Kernel) : SysCompletes (.fsync descriptor) k false k
  | closed {descriptor kept : ℕ} {k : Kernel} {file : OpenFile} {data : ByteBuffer} :
      k.Writes descriptor file data → file.flushed ≤ kept → SysCompletes (.close descriptor) k ()
        ((k.set file.path (some (.file (data.take kept)))).setWriting descriptor none)
  | closedGone {descriptor : ℕ} {k : Kernel} : (∀ file data, ¬ k.Writes descriptor file data) →
      SysCompletes (.close descriptor) k () (k.setWriting descriptor none)
  | opened {path : String} {k : Kernel} {stream : ℕ} : k.entries path ≠ none →
      SysCompletes (.fopen path) k (some stream) (k.setStream stream (some { path := path }))
  | openFailed (path : String) (k : Kernel) : SysCompletes (.fopen path) k none k
  | sought {stream : ℕ} {toEnd : Bool} {k : Kernel} {file : OpenStream} {data : ByteBuffer} :
      k.Reads stream file data → SysCompletes (.fseek stream toEnd) k ()
        (k.setStream stream (some { file with position := if toEnd then data.length else 0 }))
  | seekFailed (stream : ℕ) (toEnd : Bool) (k : Kernel) :
      (∀ file data, ¬ k.Reads stream file data) → SysCompletes (.fseek stream toEnd) k () k
  | told {stream : ℕ} {k : Kernel} {file : OpenStream} {data : ByteBuffer} :
      k.Reads stream file data → SysCompletes (.ftell stream) k (file.position : ℤ) k
  | tellFailed {stream : ℕ} {k : Kernel} {response : ℤ} :
      (response < 0 ∨ ∀ file data, ¬ k.Reads stream file data) →
      SysCompletes (.ftell stream) k response k
  | read {stream count taken : ℕ} {k : Kernel} {file : OpenStream} {data : ByteBuffer} :
      k.Reads stream file data → taken ≤ count →
      SysCompletes (.fread stream count) k ((data.drop file.position).take taken)
        (k.setStream stream (some { file with position := file.position + taken }))
  | readFailed {stream count : ℕ} {k : Kernel} : (∀ file data, ¬ k.Reads stream file data) →
      SysCompletes (.fread stream count) k [] k
  | closedStream (stream : ℕ) (k : Kernel) :
      SysCompletes (.fclose stream) k () (k.setStream stream none)

/-- A kernel whose calls succeed where they can; `write` takes sixteen bytes at a time. -/
def steady : (op : SysOp) → Kernel → op.Resp × Kernel
  | .stat path, k => ((k.entries path).map (· = .folder), k)
  | .mkdir path, k =>
    if k.entries path = none then (none, k.set path (some .folder)) else (some .exists_, k)
  | .unlink path, k =>
    match k.entries path with
    | some (.file _) => (none, k.set path none)
    | some .folder => (some .other, k)
    | none => (some .noEntry, k)
  | .rename source target, k =>
    match k.entries source with
    | none => (false, k)
    | some entry =>
      if k.entries target = some .folder then (false, k)
      else (true, (k.set source none).set target (some entry))
  | .openWrite path, k =>
    if k.entries path = some .folder ∨ (k.writing 0).isSome then (none, k)
    else (some 0, (k.set path (some (.file []))).setWriting 0 (some { path := path }))
  | .openRead _, k => if (k.writing 1).isSome then (none, k) else (some 1, k)
  | .write descriptor data, k =>
    match k.written descriptor with
    | none => ((-1 : ℤ), k)
    | some (file, old) => (((data.take 16).length : ℤ),
      k.set file.path (some (.file (old ++ data.take 16))))
  | .fsync descriptor, k =>
    match k.written descriptor with
    | none => ((k.writing descriptor).isNone, k)
    | some (file, data) =>
      (true, k.setWriting descriptor (some { file with flushed := data.length }))
  | .close descriptor, k => ((), k.setWriting descriptor none)
  | .fopen path, k =>
    if k.entries path = none then (none, k)
    else (some 0, k.setStream 0 (some { path := path }))
  | .fseek stream toEnd, k =>
    match k.streamed stream with
    | none => ((), k)
    | some (file, data) =>
      ((), k.setStream stream (some { file with position := if toEnd then data.length else 0 }))
  | .ftell stream, k =>
    match k.streamed stream with
    | none => ((-1 : ℤ), k)
    | some (file, _) => ((file.position : ℤ), k)
  | .fread stream count, k =>
    match k.streamed stream with
    | none => ([], k)
    | some (file, data) => ((data.drop file.position).take count,
      k.setStream stream (some { file with position := file.position + count }))
  | .fclose stream, k => ((), k.setStream stream none)

/-- What a crash in the middle of a system call may leave. -/
inductive SysBreaks : SysOp → Kernel → Kernel → Prop
  | writeCutOff {descriptor count : ℕ} {k : Kernel} {file : OpenFile} {old data : ByteBuffer} :
      k.Writes descriptor file old → SysBreaks (.write descriptor data) k
        (k.set file.path (some (.file (old ++ data.take count))))
  | renameTorn {source target : String} {k : Kernel} {old data : ByteBuffer} (n : ℕ) :
      k.entries target = some (.file old) → k.entries source = some (.file data) →
      SysBreaks (.rename source target) k (k.set target (some (.file (data.take n))))

/-- The kernel. -/
def kernel : Device SysOp SysOp.Resp Kernel where
  completes := SysCompletes
  breaks := SysBreaks

/-- The files that are found after a crash: of a file that is open for writing, what was flushed
and some part of what was not. -/
def Kernel.Reboots (k : Kernel) (dir : Directory) : Prop :=
  ∀ path, (∃ descriptor file data kept, k.Writes descriptor file data ∧ file.path = path ∧
      file.flushed ≤ kept ∧ dir path = some (data.take kept)) ∨
    (∀ descriptor file, k.writing descriptor = some file → file.path ≠ path) ∧
      dir path = k.files path

/-- Between two operations nothing is open for writing, and no directory is where files are. -/
structure Kernel.AtRest (names : String → Prop) (k : Kernel) (dir : Directory) : Prop where
  closed : ∀ descriptor, k.writing descriptor = none
  files : k.files = dir
  names : ∀ path, names path → k.entries path ≠ some .folder

end FairnessGovernor
