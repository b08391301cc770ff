/-
# What the file primitives carry out

Each of the programs over system calls ends, and is interrupted, only as the primitive may on the
file system of a commit: a write that `write` took in parts is the whole of the data or, with an
error, some prefix, and a crash leaves some prefix as well.  So what was proved of programs over
the primitives holds of them over system calls.
-/
import FairnessGovernor.Persist.Posix
import FairnessGovernor.Persist.Records

namespace FairnessGovernor

open Program Crash

variable {names : String → Prop} {dir t : Directory} {k k' : Kernel} {path : String}
  {data written rest : ByteBuffer} {descriptor flushed : ℕ}

/-! ## The kernel at rest -/

namespace Kernel

@[simp] lemma set_entries (k : Kernel) (path : String) (entry : Option Entry) :
    (k.set path entry).entries = Function.update k.entries path entry := rfl

@[simp] lemma set_writing (k : Kernel) (path : String) (entry : Option Entry) :
    (k.set path entry).writing = k.writing := rfl

@[simp] lemma setWriting_entries (k : Kernel) (descriptor : ℕ) (file : Option OpenFile) :
    (k.setWriting descriptor file).entries = k.entries := rfl

@[simp] lemma setWriting_writing (k : Kernel) (descriptor : ℕ) (file : Option OpenFile) :
    (k.setWriting descriptor file).writing = Function.update k.writing descriptor file := rfl

@[simp] lemma setStream_entries (k : Kernel) (stream : ℕ) (file : Option OpenStream) :
    (k.setStream stream file).entries = k.entries := rfl

@[simp] lemma setStream_writing (k : Kernel) (stream : ℕ) (file : Option OpenStream) :
    (k.setStream stream file).writing = k.writing := rfl

@[simp] lemma setWriting_files (k : Kernel) (descriptor : ℕ) (file : Option OpenFile) :
    (k.setWriting descriptor file).files = k.files := rfl

lemma set_eq_self {entry : Option Entry} (h : k.entries path = entry) : k.set path entry = k := by
  unfold set
  rw [← h, Function.update_eq_self]

lemma setWriting_eq_self {file : Option OpenFile} (h : k.writing descriptor = file) :
    k.setWriting descriptor file = k := by
  unfold setWriting
  rw [← h, Function.update_eq_self]

lemma files_eq_some : k.files path = some data ↔ k.entries path = some (.file data) := by
  unfold files
  cases h : k.entries path with
  | none => simp
  | some entry =>
    cases entry with
    | file bytes => simp
    | folder => simp

/-- A file is written. -/
@[simp] lemma files_set_file (k : Kernel) (path : String) (data : ByteBuffer) :
    (k.set path (some (.file data))).files = k.files.set path (some data) := by
  funext other
  by_cases hother : other = path
  · subst hother
    simp [files]
  · rw [Directory.set_of_ne hother]
    simp [files, hother]

/-- A file is removed. -/
@[simp] lemma files_set_none (k : Kernel) (path : String) :
    (k.set path none).files = k.files.set path none := by
  funext other
  by_cases hother : other = path
  · subst hother
    simp [files]
  · rw [Directory.set_of_ne hother]
    simp [files, hother]

/-- A directory is made where nothing is. -/
lemma files_set_folder (h : k.entries path = none) : (k.set path (some .folder)).files = k.files := by
  funext other
  by_cases hother : other = path
  · subst hother
    simp [files, h]
  · simp [files, hother]

/-- At rest a file that is named is all there is at its path. -/
lemma AtRest.entry (h : k.AtRest names dir) (hpath : names path) :
    k.entries path = (dir path).map .file := by
  have hfolder := h.names path hpath
  rw [← h.files, Kernel.files]
  cases hentry : k.entries path with
  | none => rfl
  | some entry =>
    cases entry with
    | file bytes => rfl
    | folder => exact absurd hentry hfolder

/-- At rest a crash leaves what there is. -/
lemma AtRest.reboots (h : k.AtRest names dir) (hreboots : k.Reboots t) : t = dir := by
  funext path
  rcases hreboots path with ⟨descriptor, file, _, _, hwrites, -⟩ | ⟨-, heq⟩
  · have hopen := hwrites.descriptor
    rw [h.closed descriptor] at hopen
    cases hopen
  · rw [heq, h.files]

/-- The names of files keep directories out. -/
lemma AtRest.set_file (h : k.AtRest names dir) (path : String) (data : ByteBuffer) :
    (k.set path (some (.file data))).AtRest names (dir.set path (some data)) := by
  refine ⟨h.closed, by rw [files_set_file, h.files], fun other hother => ?_⟩
  by_cases heq : other = path
  · subst heq
    simp
  · simpa [heq] using h.names other hother

end Kernel

open Kernel

/-- The primitive has ended as it may. -/
def Carried (names : String → Prop) (op : FileOp) (dir : Directory) (r : op.Resp) (k : Kernel) :
    Prop :=
  ∃ t, k.AtRest names t ∧ commitDevice.completes op dir r t

/-- A crash here leaves what a crash in the primitive may leave. -/
def Interrupted (op : FileOp) (dir : Directory) (k : Kernel) : Prop :=
  ∀ t, k.Reboots t → t = dir ∨ commitDevice.breaks op dir t ∨
    ∃ r, commitDevice.completes op dir r t

/-- The program carries out the primitive. -/
def CarriesOut (names : String → Prop) (op : FileOp) (dir : Directory) (p : SysM op.Resp) : Prop :=
  Triple kernel (·.AtRest names dir) p (Carried names op dir) (Interrupted op dir)

lemma Kernel.AtRest.interrupted {op : FileOp} (h : k.AtRest names dir) : Interrupted op dir k :=
  fun _ hreboots => .inl (h.reboots hreboots)

lemma Carried.interrupted {op : FileOp} {r : op.Resp} (h : Carried names op dir r k) :
    Interrupted op dir k := by
  obtain ⟨t, hrest, hcompletes⟩ := h
  intro t' hreboots
  rw [hrest.reboots hreboots]
  exact .inr (.inr ⟨r, hcompletes⟩)

/-- The last step of a primitive. -/
lemma Carried.done {op : FileOp} {r : op.Resp} {P : Kernel → Prop}
    (h : ∀ k, P k → Carried names op dir r k) :
    Triple kernel P (pure r : SysM op.Resp) (Carried names op dir) (Interrupted op dir) :=
  Triple.done h fun k hk => (h k hk).interrupted

/-- One system call: what a crash in it leaves, and what follows each of its responses. -/
lemma call_triple {α : Type} {op : SysOp} {f : op.Resp → SysM α} {P C : Kernel → Prop}
    {Q : α → Kernel → Prop} (hC : ∀ k, P k → C k)
    (hbreaks : ∀ k k', P k → SysBreaks op k k' → C k')
    (hnext : ∀ r, Triple kernel (fun k' => ∃ k, P k ∧ SysCompletes op k r k') (f r) Q C) :
    Triple kernel P (SysM.call op >>= f) Q C := Triple.perform hC hbreaks hnext

/-! ## Files that are written -/

/-- A descriptor is open that has written so much of the file. -/
structure Appending (names : String → Prop) (dir : Directory) (descriptor : ℕ) (path : String)
    (written : ByteBuffer) (flushed : ℕ) (k : Kernel) : Prop where
  writes : k.Writes descriptor { path := path, flushed := flushed } written
  others : ∀ other, other ≠ descriptor → k.writing other = none
  files : k.files = dir.set path (some written)
  names : ∀ other, names other → k.entries other ≠ some .folder

/-- The only file a descriptor may be open for. -/
lemma Appending.only (h : Appending names dir descriptor path written flushed k) {other : ℕ}
    {file : OpenFile} {bytes : ByteBuffer} (hwrites : k.Writes other file bytes) :
    other = descriptor ∧ file = { path := path, flushed := flushed } ∧ bytes = written := by
  have hother : other = descriptor := by
    by_contra hne
    have hnone := h.others other hne
    rw [hwrites.descriptor] at hnone
    cases hnone
  subst hother
  have hfile := Option.some.inj (hwrites.descriptor.symm.trans h.writes.descriptor)
  subst hfile
  have hentry := hwrites.entry.symm.trans h.writes.entry
  simp only [Option.some.injEq, Entry.file.injEq] at hentry
  exact ⟨rfl, rfl, hentry⟩

/-- A crash while the file is open cuts off what was not flushed. -/
lemma Appending.reboots (h : Appending names dir descriptor path written flushed k)
    (hreboots : k.Reboots t) : ∃ kept, t = dir.set path (some (written.take kept)) := by
  have hother : ∀ other, other ≠ path → t other = dir other := by
    intro other hne
    rcases hreboots other with ⟨_, file, _, _, hwrites, hpath, -⟩ | ⟨-, heq⟩
    · obtain ⟨-, rfl, -⟩ := h.only hwrites
      exact absurd hpath.symm hne
    · rw [heq, h.files, Directory.set_of_ne hne]
  have hat : ∃ kept, t path = some (written.take kept) := by
    rcases hreboots path with ⟨_, _, _, kept, hwrites, -, -, heq⟩ | ⟨hnone, -⟩
    · obtain ⟨-, -, rfl⟩ := h.only hwrites
      exact ⟨kept, heq⟩
    · exact absurd rfl (hnone descriptor _ h.writes.descriptor)
  obtain ⟨kept, hkept⟩ := hat
  refine ⟨kept, funext fun other => ?_⟩
  by_cases heq : other = path
  · rw [heq, hkept, Directory.set_self]
  · rw [hother other heq, Directory.set_of_ne heq]

/-- So a crash while a part is written leaves a part. -/
lemma Appending.interrupted {n : ℕ}
    (h : Appending names dir descriptor path (data.take n) flushed k) :
    Interrupted (.writeFile path data) dir k := by
  intro t hreboots
  obtain ⟨kept, rfl⟩ := h.reboots hreboots
  rw [List.take_take]
  exact .inr (.inl (.writeCutOff path data dir (min kept n)))

/-- More of the file is written. -/
lemma Appending.set (h : Appending names dir descriptor path written flushed k)
    (more : ByteBuffer) :
    Appending names dir descriptor path more flushed (k.set path (some (.file more))) := by
  refine ⟨⟨h.writes.descriptor, by simp⟩, h.others, ?_, fun other hother => ?_⟩
  · rw [files_set_file, h.files]
    exact Function.update_idem ..
  · by_cases heq : other = path
    · subst heq
      simp
    · simpa [heq] using h.names other hother

/-- The file is closed, cut off somewhere behind what was flushed. -/
lemma Appending.close (h : Appending names dir descriptor path written flushed k) {r : Unit}
    (hclose : SysCompletes (.close descriptor) k r k') :
    ∃ kept, flushed ≤ kept ∧ k'.AtRest names (dir.set path (some (written.take kept))) := by
  cases hclose with
  | @closed _ kept _ file bytes hwrites hkept =>
    obtain ⟨-, rfl, rfl⟩ := h.only hwrites
    have hset := h.set (bytes.take kept)
    refine ⟨kept, hkept, fun other => ?_, hset.files, hset.names⟩
    by_cases hother : other = descriptor
    · subst hother
      simp
    · simpa [hother] using h.others other hother
  | closedGone hgone => exact absurd h.writes (hgone _ _)

/-- The loop over `write` takes all of the rest, or stops with a part of it. -/
lemma writeAll_appends (names : String → Prop) (dir : Directory) (descriptor : ℕ) (path : String)
    (written rest : ByteBuffer) :
    Triple kernel (Appending names dir descriptor path written 0)
      (posix.writeAll descriptor rest)
      (fun all k => ∃ n, (all = true → rest.length ≤ n) ∧
        Appending names dir descriptor path (written ++ rest.take n) 0 k)
      fun k => ∃ n, Appending names dir descriptor path (written ++ rest.take n) 0 k := by
  induction hlength : rest.length using Nat.strong_induction_on generalizing written rest with
  | _ length ih =>
    subst hlength
    have hnone : ∀ k, Appending names dir descriptor path written 0 k →
        Appending names dir descriptor path (written ++ rest.take 0) 0 k := by
      intro k hk
      rwa [List.take_zero, List.append_nil]
    unfold posix.writeAll
    split_ifs with hrest
    · exact Triple.done (fun k hk => ⟨0, fun _ => by rw [hrest]; exact Nat.le_refl _, hnone k hk⟩)
        fun k hk => ⟨0, hnone k hk⟩
    · refine Triple.perform (fun k hk => ⟨0, hnone k hk⟩) ?_ fun response => ?_
      · rintro k k' hk hbreaks
        cases hbreaks with
        | writeCutOff hwrites =>
          obtain ⟨-, rfl, rfl⟩ := hk.only hwrites
          exact ⟨_, hk.set _⟩
      · split_ifs with hresponse
        · -- nothing was taken
          have hkept : ∀ k', (∃ k, Appending names dir descriptor path written 0 k ∧
              SysCompletes (.write descriptor rest) k response k') →
              Appending names dir descriptor path (written ++ rest.take 0) 0 k' := by
            rintro k' ⟨k, hk, hcompletes⟩
            cases hcompletes with
            | wrote _ hpos => omega
            | writeFailed => exact hnone _ hk
          exact Triple.done (fun k hk => ⟨0, fun h => (by cases h), hkept k hk⟩)
            fun k hk => ⟨0, hkept k hk⟩
        · -- the loop goes on behind what was taken
          generalize hcount : Int.toNat response = count
          have htook : ∀ k', (∃ k, Appending names dir descriptor path written 0 k ∧
              SysCompletes (.write descriptor rest) k response k') →
              Appending names dir descriptor path (written ++ rest.take count) 0 k' := by
            rintro k' ⟨k, hk, hcompletes⟩
            cases hcompletes with
            | wrote hwrites =>
              obtain ⟨-, rfl, rfl⟩ := hk.only hwrites
              obtain rfl := hcount
              exact hk.set _
            | writeFailed hfailed => exact absurd hfailed hresponse
          have hless : (rest.drop count).length < rest.length := by
            have hpos := List.length_pos_iff.mpr hrest
            rw [List.length_drop]
            omega
          have hbehind : ∀ n, written ++ rest.take count ++ (rest.drop count).take n =
              written ++ rest.take (count + n) := by
            intro n
            rw [List.take_add, List.append_assoc]
          refine (ih _ hless (written ++ rest.take count) (rest.drop count) rfl).conseq htook ?_ ?_
          · rintro all k ⟨n, hall, hk⟩
            rw [hbehind] at hk
            refine ⟨count + n, fun h => ?_, hk⟩
            have hle := hall h
            rw [List.length_drop] at hle
            omega
          · rintro k ⟨n, hk⟩
            rw [hbehind] at hk
            exact ⟨count + n, hk⟩

/-- The file that was opened is empty. -/
lemma Kernel.AtRest.opened (h : k.AtRest names dir)
    (hopen : SysCompletes (.openWrite path) k (some descriptor) k') :
    Appending names dir descriptor path [] 0 k' := by
  cases hopen with
  | openedWrite =>
    have hset := h.set_file path []
    refine ⟨⟨by simp, by simp⟩, fun other hother => ?_, hset.files, hset.names⟩
    simpa [hother] using h.closed other

/-- What was flushed is kept when the file is closed. -/
lemma Appending.flush (h : Appending names dir descriptor path written 0 k) {ok : Bool}
    (hflush : SysCompletes (.fsync descriptor) k ok k') :
    Appending names dir descriptor path written (if ok then written.length else 0) k' := by
  cases hflush with
  | flushed hwrites =>
    obtain ⟨-, rfl, rfl⟩ := h.only hwrites
    refine ⟨⟨by simp, h.writes.entry⟩, fun other hother => ?_, h.files, h.names⟩
    simpa [hother] using h.others other hother
  | flushedFolder hnone =>
    have hopen := h.writes.descriptor
    rw [hnone] at hopen
    cases hopen
  | flushFailed => exact h

/-- A file that could not be written is closed. -/
lemma close_carries {status : Status} {n : ℕ} :
    Triple kernel (Appending names dir descriptor path (data.take n) flushed)
      (do SysM.call (.close descriptor); return .error status)
      (Carried names (.writeFile path data) dir) (Interrupted (.writeFile path data) dir) := by
  refine call_triple (fun k hk => hk.interrupted) (fun k k' _ hbreaks => (by cases hbreaks))
    fun r => Carried.done fun k' ⟨k, hk, hclose⟩ => ?_
  obtain ⟨kept, -, hrest⟩ := hk.close hclose
  rw [List.take_take] at hrest
  exact ⟨_, hrest, .writeCutOff path data dir status (min kept n)⟩

/-- `write_file` writes all of the data, or it fails and leaves some prefix. -/
lemma writeFile_carries (path : String) (data : ByteBuffer) :
    CarriesOut names (.writeFile path data) dir (posix.writeFile path data) := by
  refine call_triple (fun k hk => hk.interrupted) (fun k k' _ hbreaks => (by cases hbreaks))
    fun opened => ?_
  cases opened with
  | none =>
    refine Carried.done fun k' ⟨k, hk, hopen⟩ => ?_
    cases hopen with
    | openWriteFailed => exact ⟨dir, hk, .writeFailed path data dir _⟩
  | some descriptor =>
    have hwrites : Triple kernel (fun k' => ∃ k, k.AtRest names dir ∧
        SysCompletes (.openWrite path) k (some descriptor) k') (posix.writeAll descriptor data)
        (fun all k => ∃ n, (all = true → data.length ≤ n) ∧
          Appending names dir descriptor path (data.take n) 0 k)
        (Interrupted (.writeFile path data) dir) :=
      (writeAll_appends names dir descriptor path [] data).conseq
        (fun k' ⟨k, hk, hopen⟩ => hk.opened hopen) (fun _ _ h => h) fun k ⟨n, hk⟩ => hk.interrupted
    refine Triple.bind hwrites fun all => ?_
    cases all with
    | false =>
      rintro k ⟨n, -, hk⟩
      exact close_carries k hk
    | true =>
      -- nothing is missing, and once it is flushed nothing is cut off
      have hwritten : ∀ k, (∃ n, (true = true → data.length ≤ n) ∧
          Appending names dir descriptor path (data.take n) 0 k) →
          Appending names dir descriptor path (data.take data.length) 0 k := by
        rintro k ⟨n, hall, hk⟩
        rw [List.take_of_length_le (hall rfl)] at hk
        rwa [List.take_length]
      refine call_triple (fun k hk => (hwritten k hk).interrupted)
        (fun k k' _ hbreaks => (by cases hbreaks)) fun ok : Bool => ?_
      have hflushed : ∀ k', (∃ k, (∃ n, (true = true → data.length ≤ n) ∧
          Appending names dir descriptor path (data.take n) 0 k) ∧
          SysCompletes (.fsync descriptor) k ok k') →
          Appending names dir descriptor path (data.take data.length)
            (if ok then (data.take data.length).length else 0) k' :=
        fun k' ⟨k, hk, hflush⟩ => (hwritten k hk).flush hflush
      refine call_triple (fun k hk => (hflushed k hk).interrupted)
        (fun k k' _ hbreaks => (by cases hbreaks)) fun closed => ?_
      cases ok with
      | false =>
        refine Carried.done fun k' ⟨k, hk, hclose⟩ => ?_
        obtain ⟨kept, -, hrest⟩ := (hflushed k hk).close hclose
        rw [List.take_take] at hrest
        exact ⟨_, hrest, .writeCutOff path data dir _ (min kept data.length)⟩
      | true =>
        refine Carried.done fun k' ⟨k, hk, hclose⟩ => ?_
        obtain ⟨kept, hkept, hrest⟩ := (hflushed k hk).close hclose
        rw [if_pos rfl, List.take_length] at hkept
        rw [List.take_length, List.take_of_length_le hkept] at hrest
        exact ⟨_, hrest, .performed (.writeFile path data) dir⟩

/-! ## Files that are read, replaced and removed -/

lemma fileExists_carries (hpath : names path) :
    CarriesOut names (.fileExists path) dir (posix.fileExists path) := by
  refine call_triple (fun k hk => hk.interrupted) (fun k k' _ hbreaks => (by cases hbreaks))
    fun info => ?_
  refine Carried.done fun k' ⟨k, hk, hstat⟩ => ?_
  cases hstat with
  | statted =>
    have hperformed := CommitCompletes.performed (.fileExists path) dir
    refine ⟨dir, hk, ?_⟩
    rw [hk.entry hpath]
    show CommitCompletes _ _ _ _
    cases hfile : dir path with
    | none => simpa [handle, hfile] using hperformed
    | some data => simpa [handle, hfile] using hperformed

/-- The stream is at this position of the file. -/
structure Streaming (names : String → Prop) (dir : Directory) (stream : ℕ) (path : String)
    (data : ByteBuffer) (position : ℕ) (k : Kernel) : Prop where
  atRest : k.AtRest names dir
  reads : k.Reads stream { path := path, position := position } data
  file : dir path = some data

lemma Streaming.interrupted {op : FileOp} {stream position : ℕ}
    (h : Streaming names dir stream path data position k) : Interrupted op dir k :=
  h.atRest.interrupted

lemma Streaming.only {stream position : ℕ} (h : Streaming names dir stream path data position k)
    {file : OpenStream} {bytes : ByteBuffer} (hreads : k.Reads stream file bytes) :
    file = { path := path, position := position } ∧ bytes = data := by
  have hfile := Option.some.inj (hreads.stream.symm.trans h.reads.stream)
  subst hfile
  have hentry := hreads.entry.symm.trans h.reads.entry
  simp only [Option.some.injEq, Entry.file.injEq] at hentry
  exact ⟨rfl, hentry⟩

lemma Streaming.move {stream position : ℕ} (h : Streaming names dir stream path data position k)
    (next : ℕ) : Streaming names dir stream path data next
      (k.setStream stream (some { path := path, position := next })) :=
  ⟨⟨h.atRest.closed, h.atRest.files, h.atRest.names⟩, ⟨by simp [Kernel.setStream], h.reads.entry⟩,
    h.file⟩

lemma Kernel.AtRest.stream (h : k.AtRest names dir) {stream : ℕ} (hpath : names path)
    (hopen : SysCompletes (.fopen path) k (some stream) k') :
    ∃ data, Streaming names dir stream path data 0 k' := by
  cases hopen with
  | opened hpresent =>
    have hentry := h.entry hpath
    cases hfile : dir path with
    | none =>
      rw [hfile] at hentry
      exact absurd hentry hpresent
    | some data =>
      rw [hfile] at hentry
      exact ⟨data, ⟨h.closed, h.files, h.names⟩, ⟨by simp [Kernel.setStream], hentry⟩, hfile⟩

lemma Streaming.seek {stream position : ℕ} {toEnd : Bool} {r : Unit}
    (h : Streaming names dir stream path data position k)
    (hseek : SysCompletes (.fseek stream toEnd) k r k') :
    Streaming names dir stream path data (if toEnd then data.length else 0) k' := by
  cases hseek with
  | sought hreads =>
    obtain ⟨rfl, rfl⟩ := h.only hreads
    exact h.move _
  | seekFailed _ _ _ hnone => exact absurd h.reads (hnone _ _)

/-- A file that is read is closed in the end. -/
lemma fclose_triple {stream : ℕ} {op : FileOp} {r : op.Resp} {P : Kernel → Prop}
    (hP : ∀ k, P k → k.AtRest names dir) (hr : CommitCompletes op dir r dir) :
    Triple kernel P (do SysM.call (.fclose stream); return r) (Carried names op dir)
      (Interrupted op dir) := by
  refine call_triple (fun k hk => (hP k hk).interrupted) (fun k k' _ hbreaks => (by cases hbreaks))
    fun _ => ?_
  refine Carried.done fun k' ⟨k, hk, hclose⟩ => ?_
  have hrest := hP k hk
  cases hclose with
  | closedStream => exact ⟨dir, ⟨hrest.closed, hrest.files, hrest.names⟩, hr⟩

/-- What is read back from the start of the file, or an error. -/
lemma readBack_triple {stream maxBytes count : ℕ} {data : ByteBuffer}
    (hcount : count = data.length) (hle : count ≤ maxBytes) :
    Triple kernel (Streaming names dir stream path data 0)
      (do
        let buffer : ByteBuffer ← if count = 0 then pure [] else SysM.call (.fread stream count)
        SysM.call (.fclose stream)
        if buffer.length ≠ count then return .error ⟨.truncated, "short read"⟩
        return .ok buffer)
      (Carried names (.readFile path maxBytes) dir) (Interrupted (.readFile path maxBytes) dir) := by
  have hend : ∀ buffer : ByteBuffer, (buffer.length = count → buffer = data) →
      Triple kernel (fun k => k.AtRest names dir ∧ dir path = some data)
        (do
          SysM.call (.fclose stream)
          if buffer.length ≠ count then return .error ⟨.truncated, "short read"⟩
          return .ok buffer)
        (Carried names (.readFile path maxBytes) dir)
        (Interrupted (.readFile path maxBytes) dir) := by
    intro buffer hwhole
    refine Triple.assume fun hfile => ?_
    by_cases hlength : buffer.length = count
    · have hread : dir.read path maxBytes = .ok buffer := by
        rw [hwhole hlength, Directory.read_eq_ok]
        exact ⟨hfile, by omega⟩
      have hperformed := CommitCompletes.performed (.readFile path maxBytes) dir
      simp only [handle, hread] at hperformed
      simp only [hlength, ne_eq, not_true_eq_false, if_false]
      exact fclose_triple (fun k hk => hk) hperformed
    · simp only [hlength, ne_eq, not_false_eq_true, if_true]
      exact fclose_triple (fun k hk => hk)
        (.readFailed path maxBytes dir _ StatusCode.noConfusion)
  split_ifs with hzero
  · refine (hend [] fun h => ?_).conseq (fun k hk => ⟨hk.atRest, hk.file⟩) (fun _ _ h => h)
      fun _ h => h
    exact (List.length_eq_zero_iff.mp (by omega)).symm
  · refine call_triple (fun k hk => hk.interrupted) (fun k k' _ hbreaks => (by cases hbreaks))
      fun buffer : ByteBuffer => ?_
    intro k' hk'
    have hbuffer : (k'.AtRest names dir ∧ dir path = some data) ∧
        (buffer.length = count → buffer = data) := by
      obtain ⟨k, hk, hread⟩ := hk'
      cases hread with
      | read hreads htaken =>
        obtain ⟨rfl, rfl⟩ := hk.only hreads
        refine ⟨⟨(hk.move _).atRest, hk.file⟩, fun h => ?_⟩
        rw [List.drop_zero] at h ⊢
        exact List.take_of_length_le (by simp at h; omega)
      | readFailed hnone => exact absurd hk.reads (hnone _ _)
    exact hend buffer hbuffer.2 k' hbuffer.1

/-- `read_file` reads the whole of a file that is not too long, or it fails. -/
lemma readFile_carries (hpath : names path) (maxBytes : ℕ) :
    CarriesOut names (.readFile path maxBytes) dir (posix.readFile path maxBytes) := by
  refine call_triple (fun k hk => hk.interrupted) (fun k k' _ hbreaks => (by cases hbreaks))
    fun opened => ?_
  cases opened with
  | none =>
    refine Carried.done fun k' ⟨k, hk, hopen⟩ => ?_
    cases hopen with
    | openFailed => exact ⟨dir, hk, .readFailed path maxBytes dir _ StatusCode.noConfusion⟩
  | some stream =>
    intro k' hk'
    obtain ⟨data, hstart⟩ : ∃ data, Streaming names dir stream path data 0 k' := by
      obtain ⟨k, hk, hopen⟩ := hk'
      exact hk.stream hpath hopen
    refine (?_ : Triple kernel (Streaming names dir stream path data 0)
      (posix.readStream stream maxBytes) _ _) k' hstart
    refine call_triple (fun k hk => hk.interrupted) (fun k k' _ hbreaks => (by cases hbreaks))
      fun _ => ?_
    refine call_triple (fun k' ⟨k, hk, hseek⟩ => (hk.seek hseek).interrupted)
      (fun k k' _ hbreaks => (by cases hbreaks)) fun length : ℤ => ?_
    -- the position at the end is the length, where it is told
    intro k' hk'
    obtain ⟨hlast, hlength⟩ : Streaming names dir stream path data data.length k' ∧
        (length < 0 ∨ length = data.length) := by
      obtain ⟨k, ⟨k₀, hk, hseek⟩, htell⟩ := hk'
      have hlast := hk.seek hseek
      cases htell with
      | told hreads =>
        obtain ⟨rfl, -⟩ := hlast.only hreads
        exact ⟨hlast, .inr rfl⟩
      | tellFailed hfailed =>
        exact ⟨hlast, hfailed.imp_right fun hnone => absurd hlast.reads (hnone _ _)⟩
    refine (?_ : Triple kernel (Streaming names dir stream path data data.length) _ _ _) k' hlast
    by_cases hbad : length < 0 ∨ length.toNat > maxBytes
    · rw [if_pos hbad]
      exact fclose_triple (fun k hk => hk.atRest)
        (.readFailed path maxBytes dir _ StatusCode.noConfusion)
    · rw [if_neg hbad]
      obtain ⟨hnonneg, hle⟩ := not_or.mp hbad
      have hcount : length.toNat = data.length := by
        rcases hlength with hneg | heq
        · exact absurd hneg hnonneg
        · rw [heq, Int.toNat_natCast]
      refine call_triple (fun k hk => hk.interrupted) (fun k k' _ hbreaks => (by cases hbreaks))
        fun _ => ?_
      exact (readBack_triple hcount (by omega)).conseq (fun k' ⟨k, hk, hseek⟩ => hk.seek hseek)
        (fun _ _ h => h) fun _ h => h

/-- `rename` replaces the target, or it fails; a crash may leave the target torn. -/
lemma replaceFile_carries {source target : String} (hsource : names source) :
    CarriesOut names (.replaceFile source target) dir (posix.replaceFile source target) := by
  refine call_triple (fun k hk => hk.interrupted) (fun k k' hk hbreaks => ?_)
    fun renamed : Bool => ?_
  · cases hbreaks with
    | @renameTorn _ _ _ old data n htarget hentry =>
      intro t hreboots
      rw [(hk.set_file target (data.take n)).reboots hreboots]
      have hfiles : ∀ path bytes, k.entries path = some (.file bytes) → dir path = some bytes := by
        intro path bytes hpath
        rw [← hk.files]
        exact files_eq_some.mpr hpath
      exact .inr (.inl (.replaceTorn source target dir n (hfiles _ _ htarget) (hfiles _ _ hentry)))
  · by_cases hrenamed : renamed = true
    · rw [if_pos hrenamed]
      refine Carried.done fun k' ⟨k, hk, hrename⟩ => ?_
      cases hrename with
      | @renamed _ _ _ entry hentry htarget =>
        have hfile := hk.entry hsource
        rw [hentry] at hfile
        cases hdata : dir source with
        | none =>
          rw [hdata] at hfile
          cases hfile
        | some data =>
          rw [hdata] at hfile
          obtain rfl := Option.some.inj hfile
          have hperformed := CommitCompletes.performed (.replaceFile source target) dir
          simp only [handle, hdata] at hperformed
          refine ⟨_, ⟨hk.closed, ?_, fun other hother => ?_⟩, hperformed⟩
          · rw [files_set_file, files_set_none, hk.files]
            rfl
          · by_cases htarget' : other = target
            · simp [htarget']
            · by_cases hsource' : other = source
              · subst hsource'
                simp [htarget']
              · simpa [htarget', hsource'] using hk.names other hother
      | renameFailed => cases hrenamed
    · rw [if_neg hrenamed]
      refine Carried.done fun k' ⟨k, hk, hrename⟩ => ?_
      cases hrename with
      | renamed => exact absurd rfl hrenamed
      | renameFailed => exact ⟨dir, hk, .replaceFailed source target dir _⟩

/-- `remove_file` removes the file, if there is one, or it fails. -/
lemma removeFile_carries (path : String) :
    CarriesOut names (.removeFile path) dir (posix.removeFile path) := by
  refine call_triple (fun k hk => hk.interrupted) (fun k k' _ hbreaks => (by cases hbreaks))
    fun failed : Option Errno => ?_
  have hperformed := CommitCompletes.performed (.removeFile path) dir
  simp only [handle] at hperformed
  by_cases hok : failed = none ∨ failed = some .noEntry
  · rw [if_pos hok]
    refine Carried.done ?_
    rintro k' ⟨k, hk, hunlink⟩
    cases hunlink with
    | unlinked hentry =>
      refine ⟨_, ⟨hk.closed, by rw [files_set_none, hk.files], fun other hother => ?_⟩, hperformed⟩
      by_cases hother' : other = path
      · simp [hother']
      · simpa [hother'] using hk.names other hother
    | unlinkFailed e hnone =>
      have habsent : dir path = none := by
        rw [← hk.files, Kernel.files, hnone (by simpa using hok)]
      have hsame : dir.set path none = dir := by
        unfold Directory.set
        rw [← habsent, Function.update_eq_self]
      rw [hsame] at hperformed
      exact ⟨dir, hk, hperformed⟩
  · rw [if_neg hok]
    refine Carried.done ?_
    rintro k' ⟨k, hk, hunlink⟩
    cases hunlink with
    | unlinked => exact absurd (.inl rfl) hok
    | unlinkFailed => exact ⟨dir, hk, .removeFailed path dir _⟩

/-- What is called on a descriptor that no file is written with leaves the files alone. -/
lemma Kernel.AtRest.fsync (h : k.AtRest names dir) {ok : Bool}
    (hflush : SysCompletes (.fsync descriptor) k ok k') : k' = k := by
  cases hflush with
  | flushed hwrites =>
    have hopen := hwrites.descriptor
    rw [h.closed] at hopen
    cases hopen
  | flushedFolder => rfl
  | flushFailed => rfl

lemma Kernel.AtRest.close (h : k.AtRest names dir) {r : Unit}
    (hclose : SysCompletes (.close descriptor) k r k') : k' = k := by
  cases hclose with
  | closed hwrites =>
    have hopen := hwrites.descriptor
    rw [h.closed] at hopen
    cases hopen
  | closedGone => exact Kernel.setWriting_eq_self (h.closed descriptor)

/-- `sync_directory` changes no file. -/
lemma syncDirectory_carries (path : String) :
    CarriesOut names (.syncDirectory path) dir (posix.syncDirectory path) := by
  refine call_triple (fun k hk => hk.interrupted) (fun k k' _ hbreaks => (by cases hbreaks))
    fun opened => ?_
  cases opened with
  | none =>
    refine Carried.done fun k' ⟨k, hk, hopen⟩ => ?_
    cases hopen with
    | openReadFailed => exact ⟨dir, hk, .syncFailed path dir _⟩
  | some descriptor =>
    have hrest : ∀ k', (∃ k, k.AtRest names dir ∧
        SysCompletes (.openRead (posix.parentOf path)) k (some descriptor) k') →
        k'.AtRest names dir := by
      rintro k' ⟨k, hk, hopen⟩
      cases hopen with
      | openedRead => exact hk
    refine call_triple (fun k hk => (hrest k hk).interrupted)
      (fun k k' _ hbreaks => (by cases hbreaks)) fun ok : Bool => ?_
    refine call_triple (fun k' ⟨k, hk, hflush⟩ => ?_)
      (fun k k' _ hbreaks => (by cases hbreaks)) fun _ => ?_
    · rw [(hrest k hk).fsync hflush]
      exact (hrest k hk).interrupted
    · have hclosed : ∀ k', (∃ k, (∃ k₀, (∃ k₁, k₁.AtRest names dir ∧
          SysCompletes (.openRead (posix.parentOf path)) k₁ (some descriptor) k₀) ∧
          SysCompletes (.fsync descriptor) k₀ ok k) ∧ SysCompletes (.close descriptor) k () k') →
          k'.AtRest names dir := by
        rintro k' ⟨k, ⟨k₀, hk, hflush⟩, hclose⟩
        obtain rfl := (hrest k₀ hk).fsync hflush
        obtain rfl := (hrest _ hk).close hclose
        exact hrest _ hk
      cases ok with
      | true =>
        exact Carried.done fun k' hk' => ⟨dir, hclosed k' hk', .performed (.syncDirectory path) dir⟩
      | false => exact Carried.done fun k' hk' => ⟨dir, hclosed k' hk', .syncFailed path dir _⟩

/-! ## Directories that are made -/

/-- Whether there is a directory is looked up without changing anything. -/
lemma isDirectory_keeps (path : String) :
    Triple kernel (·.AtRest names dir) (posix.isDirectory path) (fun _ k => k.AtRest names dir)
      (·.AtRest names dir) := by
  refine call_triple (fun _ hk => hk) (fun k k' _ hbreaks => (by cases hbreaks)) fun info => ?_
  have hkeeps : ∀ k', (∃ k, k.AtRest names dir ∧ SysCompletes (.stat path) k info k') →
      k'.AtRest names dir := by
    rintro k' ⟨k, hk, hstat⟩
    cases hstat with
    | statted => exact hk
  exact Triple.done hkeeps hkeeps

/-- A part of a path that is made a directory is the name of no file. -/
lemma makeFolder_keeps (hpath : ¬ names path) :
    Triple kernel (·.AtRest names dir) (posix.makeFolder path) (fun _ k => k.AtRest names dir)
      (·.AtRest names dir) := by
  unfold posix.makeFolder
  by_cases hempty : path = ""
  · rw [if_pos hempty]
    exact Triple.done (fun _ hk => hk) fun _ hk => hk
  · rw [if_neg hempty]
    refine Triple.bind (isDirectory_keeps path) fun present => ?_
    by_cases hpresent : present = true
    · rw [if_pos hpresent]
      exact Triple.done (fun _ hk => hk) fun _ hk => hk
    · rw [if_neg hpresent]
      refine call_triple (fun _ hk => hk) (fun k k' _ hbreaks => (by cases hbreaks))
        fun failed : Option Errno => ?_
      have hkeeps : ∀ k', (∃ k, k.AtRest names dir ∧ SysCompletes (.mkdir path) k failed k') →
          k'.AtRest names dir := by
        rintro k' ⟨k, hk, hmade⟩
        cases hmade with
        | made hnone =>
          refine ⟨hk.closed, (files_set_folder hnone).trans hk.files, fun other hother => ?_⟩
          have hne : other ≠ path := fun heq => hpath (heq ▸ hother)
          simpa [hne] using hk.names other hother
        | makeFailed => exact hk
      by_cases hok : failed = none ∨ failed = some .exists_
      · rw [if_pos hok]
        exact Triple.done hkeeps hkeeps
      · rw [if_neg hok]
        exact Triple.done hkeeps hkeeps

/-- No part of the path up to one of its characters is the name of a file. -/
def Unnamed (names : String → Prop) (path : List Char) : Prop :=
  ∀ made, made <+: path → ¬ names (String.ofList made)

lemma makeFolders_keeps {made rest : List Char} (hpath : Unnamed names (made ++ rest)) :
    Triple kernel (·.AtRest names dir) (posix.makeFolders made rest)
      (fun _ k => k.AtRest names dir) (·.AtRest names dir) := by
  have hmade : ¬ names (String.ofList made) := hpath made (List.prefix_append made rest)
  induction rest generalizing made with
  | nil => exact makeFolder_keeps hmade
  | cons c rest ih =>
    have hrest : Unnamed names (made ++ [c] ++ rest) := by
      rwa [List.append_assoc, List.singleton_append]
    have hnext := ih hrest (hrest _ (List.prefix_append _ _))
    unfold posix.makeFolders
    by_cases hc : c = '\\' ∨ c = '/'
    · rw [if_pos hc]
      refine Triple.bind (makeFolder_keeps hmade) fun result => ?_
      cases result with
      | error e => exact Triple.done (fun _ hk => hk) fun _ hk => hk
      | ok _ => exact hnext
    · rw [if_neg hc]
      exact hnext

/-- `ensure_directory` changes no file. -/
lemma ensureDirectory_keeps (hpath : Unnamed names path.toList) :
    Triple kernel (·.AtRest names dir) (posix.ensureDirectory path)
      (fun _ k => k.AtRest names dir) (·.AtRest names dir) := by
  have hdone : ∀ r : Except Status Unit, Triple kernel (·.AtRest names dir) (pure r : SysM _)
      (fun _ k => k.AtRest names dir) (·.AtRest names dir) :=
    fun r => Triple.done (fun _ hk => hk) fun _ hk => hk
  unfold posix.ensureDirectory
  by_cases hempty : path = ""
  · rw [if_pos hempty]
    exact hdone _
  · rw [if_neg hempty]
    refine Triple.bind (isDirectory_keeps path) fun present => ?_
    by_cases hpresent : present = true
    · rw [if_pos hpresent]
      exact hdone _
    · rw [if_neg hpresent]
      refine Triple.bind (makeFolders_keeps (by rwa [List.take_append_drop])) fun made => ?_
      cases made with
      | error e => exact hdone _
      | ok _ =>
        refine Triple.bind (isDirectory_keeps path) fun present => ?_
        by_cases hpresent : present = true
        · rw [if_pos hpresent]
          exact hdone _
        · rw [if_neg hpresent]
          exact hdone _

lemma ensureDirectory_carries (hpath : Unnamed names path.toList) :
    CarriesOut names (.ensureDirectory path) dir (posix.ensureDirectory path) := by
  refine (ensureDirectory_keeps hpath).conseq (fun _ hk => hk) (fun result k hk => ?_)
    fun _ hk => hk.interrupted
  cases result with
  | ok _ => exact ⟨dir, hk, .performed (.ensureDirectory path) dir⟩
  | error e => exact ⟨dir, hk, .ensureFailed path dir e⟩

/-! ## A kernel whose calls succeed -/

lemma written_eq_some {file : OpenFile} :
    k.written descriptor = some (file, data) ↔ k.Writes descriptor file data := by
  simp only [Kernel.written, Option.bind_eq_bind, Option.pure_def, Option.bind_eq_some_iff,
    Option.some.injEq, Prod.mk.injEq, files_eq_some]
  constructor
  · rintro ⟨_, hopen, _, hentry, rfl, rfl⟩
    exact ⟨hopen, hentry⟩
  · rintro ⟨hopen, hentry⟩
    exact ⟨file, hopen, data, hentry, rfl, rfl⟩

lemma streamed_eq_some {stream : ℕ} {file : OpenStream} :
    k.streamed stream = some (file, data) ↔ k.Reads stream file data := by
  simp only [Kernel.streamed, Option.bind_eq_bind, Option.pure_def, Option.bind_eq_some_iff,
    Option.some.injEq, Prod.mk.injEq, files_eq_some]
  constructor
  · rintro ⟨_, hopen, _, hentry, rfl, rfl⟩
    exact ⟨hopen, hentry⟩
  · rintro ⟨hopen, hentry⟩
    exact ⟨file, hopen, data, hentry, rfl, rfl⟩

lemma not_writes (h : k.written descriptor = none) (file : OpenFile) (data : ByteBuffer) :
    ¬ k.Writes descriptor file data := fun hwrites => by
  rw [written_eq_some.mpr hwrites] at h
  cases h

lemma not_reads {stream : ℕ} (h : k.streamed stream = none) (file : OpenStream)
    (data : ByteBuffer) : ¬ k.Reads stream file data := fun hreads => by
  rw [streamed_eq_some.mpr hreads] at h
  cases h

/-- The kernel may do what the steady one does. -/
lemma steady_completes (op : SysOp) (k : Kernel) :
    kernel.completes op k (steady op k).1 (steady op k).2 := by
  show SysCompletes op k (steady op k).1 (steady op k).2
  cases op with
  | stat path => exact .statted path k
  | mkdir path =>
    simp only [steady]
    split_ifs with hnone
    · exact .made hnone
    · exact .makeFailed _ fun _ => hnone
  | unlink path =>
    simp only [steady]
    split
    · exact .unlinked ‹_›
    · exact .unlinkFailed _ fun h => by cases h
    · exact .unlinkFailed _ fun _ => ‹_›
  | rename source target =>
    simp only [steady]
    split
    · exact .renameFailed source target k
    · split_ifs with hfolder
      · exact .renameFailed source target k
      · exact .renamed ‹_› hfolder
  | openWrite path =>
    simp only [steady]
    split_ifs with hbusy
    · exact .openWriteFailed path k
    · obtain ⟨hfolder, hfree⟩ := not_or.mp hbusy
      exact .openedWrite hfolder (by simpa using hfree)
  | openRead path =>
    simp only [steady]
    split_ifs with hbusy
    · exact .openReadFailed path k
    · exact .openedRead (by simpa using hbusy)
  | write descriptor data =>
    simp only [steady]
    split
    · exact .writeFailed (Int.negSucc_le_zero 0)
    · rename_i file old hwrites
      have hwrites := written_eq_some.mp hwrites
      by_cases hempty : data = []
      · subst hempty
        -- nothing is written
        have hsame : k.set file.path (some (.file (old ++ []))) = k := by
          rw [List.append_nil]
          exact set_eq_self hwrites.entry
        rw [List.take_nil, hsame]
        exact .writeFailed (Int.le_refl 0)
      · have hpos := List.length_pos_iff.mpr hempty
        have hcount : 0 < (data.take 16).length ∧ (data.take 16).length ≤ data.length := by
          rw [List.length_take]
          omega
        have hwrote := SysCompletes.wrote hwrites hcount.1 hcount.2
        have htake : data.take (data.take 16).length = data.take 16 := by
          rw [List.length_take, ← List.take_eq_take_min]
        rwa [htake] at hwrote
  | fsync descriptor =>
    simp only [steady]
    split
    · cases hopen : k.writing descriptor with
      | none => exact .flushedFolder hopen
      | some file => exact .flushFailed descriptor k
    · exact .flushed (written_eq_some.mp ‹_›)
  | close descriptor =>
    simp only [steady]
    cases hwritten : k.written descriptor with
    | none => exact .closedGone (not_writes hwritten)
    | some opened =>
      obtain ⟨file, data⟩ := opened
      have hwrites := written_eq_some.mp hwritten
      -- all that was written is kept
      have hsame : k.set file.path (some (.file (data.take (max data.length file.flushed)))) = k := by
        rw [List.take_of_length_le (Nat.le_max_left _ _)]
        exact set_eq_self hwrites.entry
      have hclosed := SysCompletes.closed hwrites (Nat.le_max_right data.length file.flushed)
      rwa [hsame] at hclosed
  | fopen path =>
    simp only [steady]
    split_ifs with hnone
    · exact .openFailed path k
    · exact .opened hnone
  | fseek stream toEnd =>
    simp only [steady]
    split
    · exact .seekFailed stream toEnd k (not_reads ‹_›)
    · exact .sought (streamed_eq_some.mp ‹_›)
  | ftell stream =>
    simp only [steady]
    split
    · exact .tellFailed (.inl (Int.negSucc_lt_zero 0))
    · exact .told (streamed_eq_some.mp ‹_›)
  | fread stream count =>
    simp only [steady]
    split
    · exact .readFailed (not_reads ‹_›)
    · exact .read (streamed_eq_some.mp ‹_›) (Nat.le_refl _)
  | fclose stream => exact .closedStream stream k

/-! ## Programs over system calls -/

/-- The primitives are called with the names of files, and no directory is made at one of them. -/
def posix.Allowed (names : String → Prop) : FileOp → Prop
  | .fileExists path | .readFile path _ | .replaceFile path _ => names path
  | .ensureDirectory path => Unnamed names path.toList
  | .writeFile _ _ | .removeFile _ | .syncDirectory _ => True

/-- The primitives are carried out over system calls. -/
theorem posix_implements (names : String → Prop) :
    Implements kernel commitDevice posix.carry (posix.Allowed names) (Kernel.AtRest names)
      Kernel.Reboots where
  settled _ _ _ hrest hreboots := hrest.reboots hreboots
  carries op hop dir := by
    cases op with
    | ensureDirectory path => exact ensureDirectory_carries hop
    | fileExists path => exact fileExists_carries hop
    | readFile path maxBytes => exact readFile_carries hop maxBytes
    | writeFile path data => exact writeFile_carries path data
    | replaceFile source target => exact replaceFile_carries hop
    | removeFile path => exact removeFile_carries path
    | syncDirectory path => exact syncDirectory_carries path

end FairnessGovernor
