/-
# A store over system calls

A store reaches the files through the primitives, and by the names of the files of its two records
only.  So what a commit does over system calls, where a write may be short, any call may fail and a
crash may come between two of them, is what it may do on the directory.
-/
import FairnessGovernor.Persist.PosixSpec

namespace FairnessGovernor

open Program Crash DurableStore fsutil

variable {store : DurableStore} {kind : RecordKind} {k k' : Kernel} {dir : Directory}

/-! ## What a store calls -/

namespace DurableStore

/-- The names of the files of both records. -/
def OwnFile (store : DurableStore) (path : String) : Prop :=
  ∃ kind file, path = store.path kind file

lemma ownFile (file : RecordFile) : store.OwnFile (store.path kind file) := ⟨kind, file, rfl⟩

/-- The program calls the primitives with the names of these files. -/
abbrev Calls {α : Type} (store : DurableStore) (p : FileM α) : Prop :=
  Only (posix.Allowed store.OwnFile) p

section Calls

lemma removeFiles_calls (files : List String) : store.Calls (removeFiles files) := by
  induction files with
  | nil => exact only_pure ()
  | cons path rest ih => exact Only.bind (only_call trivial) fun _ => ih

lemma load_calls : store.Calls (store.load kind) := by
  unfold load
  refine Only.bind (only_call (ownFile .base)) fun present => ?_
  cases present with
  | false => exact only_pure _
  | true => exact Only.bind (only_call (ownFile .base)) fun _ => only_pure _

lemma orAbandon_calls {p : StatusM Unit} (files : List String) (hp : store.Calls p.run) :
    store.Calls (orAbandon p files).run := by
  refine Only.bind hp fun r => ?_
  cases r with
  | ok _ => exact only_pure _
  | error e => exact Only.bind (removeFiles_calls files) fun _ => only_pure _

lemma checkDurable_calls (expectedGeneration : UInt64) :
    store.Calls (store.checkDurable kind expectedGeneration).run := by
  refine Only.bind_except (Only.lift (only_call (ownFile .base))) fun present => ?_
  split_ifs
  · exact Only.bind_except (Only.lift load_calls) fun _ => only_pure _
  · exact only_pure _

lemma writeTemp_calls (encoded : ByteBuffer) :
    store.Calls (store.writeTemp kind encoded).run := by
  refine Only.bind_except (only_pure _) fun _ => ?_
  refine Only.bind_except (orAbandon_calls _ (only_call trivial)) fun _ => ?_
  exact only_pure _

lemma writeJournal_calls (journal : ByteBuffer) :
    store.Calls (store.writeJournal kind journal).run := by
  refine Only.bind_except (orAbandon_calls _ (only_call trivial)) fun _ => ?_
  exact only_pure _

lemma snapshotMain_calls (present : Bool) :
    store.Calls (store.snapshotMain kind present).run := by
  unfold snapshotMain
  split_ifs
  · refine orAbandon_calls _ ?_
    exact Only.bind_except (only_call (ownFile .base)) fun _ => only_call trivial
  · exact only_pure _

lemma replaceMain_calls (encoded : ByteBuffer) :
    store.Calls (store.replaceMain kind encoded).run := by
  unfold replaceMain
  split_ifs
  · refine Only.bind_except (only_call trivial) fun _ => ?_
    refine Only.bind_except (Only.bind (only_call trivial) fun _ => only_pure _) fun _ => ?_
    exact only_pure _
  · refine Only.bind_except (orAbandon_calls _ (only_call (ownFile .temp))) fun _ => ?_
    exact Only.bind (only_call trivial) fun _ => only_pure _

lemma finish_calls : store.Calls (store.finish kind).run := by
  refine Only.bind_except (only_pure _) fun _ => ?_
  exact Only.bind (removeFiles_calls _) fun _ => only_pure _

lemma commit_calls (expectedGeneration nextGeneration : UInt64) (payload : ByteBuffer)
    (writer : Incarnation) :
    store.Calls (store.commit kind expectedGeneration nextGeneration payload writer).run := by
  refine Only.bind_except (only_pure _) fun _ => ?_
  refine Only.bind_except (checkDurable_calls _) fun _ => ?_
  refine Only.bind_except (writeTemp_calls _) fun _ => ?_
  refine Only.bind_except (writeJournal_calls _) fun _ => ?_
  refine Only.bind_except (snapshotMain_calls _) fun _ => ?_
  exact Only.bind_except (replaceMain_calls _) fun _ => finish_calls

end Calls

end DurableStore

/-! ## Programs of a store -/

/-- The program over system calls. -/
abbrev posix.carried {α : Type} (p : FileM α) : SysM α := p.interpret posix.carry

/-- At rest a kernel holds one directory. -/
lemma Kernel.AtRest.self {names : String → Prop} {dir : Directory} (h : k.AtRest names dir) :
    k.AtRest names k.files := by
  rwa [← h.files] at h

/-- A program over system calls ends as it may on the directory. -/
lemma carried_ends {α : Type} {p : FileM α} {a : α} (hp : store.Calls p)
    (hk : k.AtRest store.OwnFile k.files) (h : Ends kernel (posix.carried p) k a k') :
    Ends commitDevice p k.files a k'.files ∧ k'.AtRest store.OwnFile k'.files := by
  obtain ⟨dir, hrest, hends⟩ := ((posix_implements store.OwnFile).refines hp hk).1 a k' h
  rw [hrest.files]
  exact ⟨hends, hrest⟩

/-- What a crash leaves of it is what one may leave on the directory. -/
lemma carried_crashes {α : Type} {p : FileM α} {broken : Kernel} {dir : Directory}
    (hp : store.Calls p) (hk : k.AtRest store.OwnFile k.files)
    (h : Crashes kernel (posix.carried p) k broken) (hreboots : broken.Reboots dir) :
    Crashes commitDevice p k.files dir :=
  ((posix_implements store.OwnFile).refines hp hk).2 broken h dir hreboots

/-! ## Commits -/

variable {records : Records}

/-- A commit over system calls, in whatever parts `write` takes the data, whichever calls fail and
wherever a crash comes, leaves the new record or the old one, and the other record as it was; when
it succeeds it leaves the new one. -/
theorem commit_over_system_calls (expectedGeneration nextGeneration : UInt64)
    (payload : ByteBuffer) (writer : Incarnation)
    (hfaults : CrashFaults store.faults (records kind).isSome)
    (hk : k.AtRest store.OwnFile k.files) (h : store.Settled records k.files) :
    let commit := posix.carried
      (store.commit kind expectedGeneration nextGeneration payload writer).run
    (∀ k', Ends kernel commit k (.ok ()) k' → k'.AtRest store.OwnFile k'.files ∧
      ∃ record, Replaces (records kind) expectedGeneration nextGeneration payload record ∧
        store.Settled (Function.update records kind (some record)) k'.files) ∧
    (∀ e k', Ends kernel commit k (.error e) k' → k'.AtRest store.OwnFile k'.files ∧
      ∃ records', Attempted records kind expectedGeneration nextGeneration payload records' ∧
        store.Settled records' k'.files) ∧
    ∀ broken dir, Crashes kernel commit k broken → broken.Reboots dir →
      ∃ records', Attempted records kind expectedGeneration nextGeneration payload records' ∧
        store.Settled records' dir := by
  intro commit
  have hcalls := @DurableStore.commit_calls store kind expectedGeneration nextGeneration payload
    writer
  obtain ⟨hok, herror, hcrash⟩ := @commit_settled store kind k.files records expectedGeneration
    nextGeneration payload writer hfaults h
  refine ⟨fun k' hends => ?_, fun e k' hends => ?_, fun broken dir hbroken hreboots => ?_⟩
  · obtain ⟨hends', hrest⟩ := carried_ends hcalls hk hends
    exact ⟨hrest, hok _ hends'⟩
  · obtain ⟨hends', hrest⟩ := carried_ends hcalls hk hends
    exact ⟨hrest, herror e _ hends'⟩
  · exact hcrash dir (carried_crashes hcalls hk hbroken hreboots)

/-! ### A steady kernel -/

/-- A kernel that holds these files. -/
def Kernel.holding (dir : Directory) : Kernel := { entries := fun path => (dir path).map .file }

@[simp] lemma Kernel.holding_files (dir : Directory) : (holding dir).files = dir := by
  funext path
  cases h : dir path with
  | none => simp [Kernel.files, holding, h]
  | some data => simp [Kernel.files, holding, h]

lemma Kernel.holding_atRest (names : String → Prop) (dir : Directory) :
    (holding dir).AtRest names (holding dir).files := by
  refine ⟨fun _ => rfl, rfl, fun path _ => ?_⟩
  cases h : dir path with
  | none => simp [holding, h]
  | some data => simp [holding, h]

/-- The first record of a store is committed over system calls. -/
theorem commit_over_system_calls_first :
    let store : DurableStore := { directory := "store" }
    let committed := run steady (posix.carried
      (store.commit .policy 0 1 [1, 2, 3] { boot := ⟨7⟩, ordinal := 1 }).run) (.holding fun _ => none)
    committed.1 = .ok () ∧ ∃ record, record.payload = [1, 2, 3] ∧
      store.Settled (Function.update (fun _ => none) .policy (some record)) committed.2.files := by
  intro store committed
  have hok : committed.1 = .ok () := eq_ok_of_isOk (by decide +kernel)
  have hfresh : store.Settled (fun _ => none) (Kernel.holding fun _ => none).files := by
    rw [Kernel.holding_files]
    exact fun kind => .inl ⟨rfl, rfl⟩
  have hends := ends_run steady_completes (posix.carried
    (store.commit .policy 0 1 [1, 2, 3] { boot := ⟨7⟩, ordinal := 1 }).run) (.holding fun _ => none)
  rw [show (run steady _ _).1 = _ from hok] at hends
  obtain ⟨-, record, hreplaces, hsettled⟩ := (commit_over_system_calls 0 1 [1, 2, 3]
    { boot := ⟨7⟩, ordinal := 1 } ⟨rfl, rfl, fun h => by cases h⟩
    (Kernel.holding_atRest _ _) hfresh).1 _ hends
  exact ⟨hok, record, hreplaces.payload_eq, hsettled⟩

end FairnessGovernor
