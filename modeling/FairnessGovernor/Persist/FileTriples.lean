/-
# Crash triples of the file primitives

One rule for each primitive on each of the two file systems that may crash.  On the one a
recovery runs on the rules execute from a known directory; on the one a commit runs on they are
about any directories that satisfy a precondition.
-/
import FairnessGovernor.Persist.FileSystem

namespace FairnessGovernor

open Program Crash fsutil

/-! ## Recovery -/

section Recover

variable {α : Type} {dir : Directory} {Q : α → Directory → Prop} {C : Directory → Prop}

lemma fileExists_recover {path : String} {f : Bool → FileM α} (hC : C dir)
    (h : Triple recoverDevice (· = dir) (f (dir path).isSome) Q C) :
    Triple recoverDevice (· = dir) (fileExists path >>= f) Q C :=
  Triple.step hC h

lemma replaceFile_recover {source target : String} {data : ByteBuffer}
    {f : Except Status Unit → FileM α} (hsource : dir source = some data) (hC : C dir)
    (h : Triple recoverDevice (· = dir.move source target data) (f (.ok ())) Q C) :
    Triple recoverDevice (· = dir) ((replaceFile source target).run >>= f) Q C := by
  refine Triple.step hC ?_
  have hstep : handle (.replaceFile source target) dir = (.ok (), dir.move source target data) := by
    simp only [handle, hsource]
  rw [hstep]
  exact h

/-- Removing files that `P` does not depend on. -/
lemma removeFiles_recover {P : Directory → Prop} (files : List String)
    (hP : ∀ file ∈ files, ∀ d, P d → P (d.set file none)) :
    Triple recoverDevice P (removeFiles files) (fun _ d => P d ∧ ∀ file ∈ files, d file = none)
      P := by
  induction files generalizing P with
  | nil => exact Triple.done (fun d hd => ⟨hd, by simp⟩) fun _ hd => hd
  | cons file files ih =>
    refine Triple.perform (fun _ hd => hd) (fun _ _ _ h => h.elim) fun r => ?_
    -- the other files are removed from directories where this one is already gone
    refine (ih (P := fun d => P d ∧ d file = none) ?_).conseq ?_ ?_ fun _ hd => hd.1
    · rintro f hf d ⟨hd, hgone⟩
      refine ⟨hP f (List.mem_cons_of_mem _ hf) d hd, ?_⟩
      by_cases hne : file = f
      · rw [hne, Directory.set_self]
      · rw [Directory.set_of_ne hne, hgone]
    · rintro _ ⟨d, hd, hstep⟩
      obtain ⟨-, rfl⟩ := Prod.mk_inj.mp hstep
      exact ⟨hP file List.mem_cons_self d hd, Directory.set_self ..⟩
    · rintro _ d ⟨⟨hd, hgone⟩, hrest⟩
      exact ⟨hd, by simpa using ⟨hgone, hrest⟩⟩

end Recover

/-! ## Commit -/

section Commit

variable {P Q E C : Directory → Prop}

lemma fileExists_commit {path : String} :
    Triple commitDevice P (fileExists path) (fun b d => P d ∧ b = (d path).isSome) P := by
  refine Triple.perform (fun _ hd => hd) (fun _ _ _ h => by cases h) fun r => ?_
  have hstep : ∀ d', (∃ d, P d ∧ CommitCompletes (.fileExists path) d r d') →
      P d' ∧ r = (d' path).isSome := by
    rintro d' ⟨d, hd, h⟩
    cases h
    exact ⟨hd, rfl⟩
  exact Triple.done hstep fun d' h => (hstep d' h).1

lemma readFile_commit {path : String} {maxBytes : ℕ} :
    Triple commitDevice P (readFile path maxBytes).run
      (Either (fun bytes d => P d ∧ d path = some bytes) fun e d => P d ∧ e.code ≠ .ok) P := by
  refine Triple.perform (fun _ hd => hd) (fun _ _ _ h => by cases h) fun r => ?_
  have hstep : ∀ d', (∃ d, P d ∧ CommitCompletes (.readFile path maxBytes) d r d') →
      Either (fun bytes d => P d ∧ d path = some bytes) (fun e d => P d ∧ e.code ≠ .ok) r d' := by
    rintro d' ⟨d, hd, h⟩
    cases h with
    | performed =>
      simp only [handle]
      cases hread : d.read path maxBytes with
      | error e => exact ⟨hd, Directory.read_error hread⟩
      | ok data => exact ⟨hd, (Directory.read_eq_ok.mp hread).1⟩
    | readFailed _ _ _ e he => exact ⟨hd, he⟩
  refine Triple.done hstep fun d' h => ?_
  have hd' := hstep d' h
  cases r with
  | ok bytes => exact hd'.1
  | error e => exact hd'.1

lemma writeFile_commit {path : String} {data : ByteBuffer}
    (hQ : ∀ d, P d → Q (d.set path (some data))) (hC : ∀ d, P d → C d)
    (hcut : ∀ d n, P d → C (d.set path (some (data.take n)))) :
    Attempts commitDevice P (writeFile path data) (fun _ => Q) C C := by
  have hwhole : ∀ d, P d → C (d.set path (some data)) := fun d hd => by
    simpa using hcut d data.length hd
  refine Triple.perform hC ?_ fun r => ?_
  · rintro d d' hd h
    cases h
    exact hcut d _ hd
  refine Triple.done ?_ ?_
  · rintro d' ⟨d, hd, h⟩
    cases h with
    | performed => exact hQ d hd
    | writeFailed _ _ _ e => exact hC d' hd
    | writeCutOff _ _ _ e n => exact hcut d n hd
  · rintro d' ⟨d, hd, h⟩
    cases h with
    | performed => exact hwhole d hd
    | writeFailed _ _ _ e => exact hC d' hd
    | writeCutOff _ _ _ e n => exact hcut d n hd

/-- A replace that reports an error has left the directory alone. -/
lemma replaceFile_commit {source target : String} (hPC : ∀ d, P d → C d) (hQC : ∀ d, Q d → C d)
    (hQ : ∀ d data, P d → d source = some data → Q (d.move source target data))
    (htorn : ∀ d old data n, P d → d target = some old → d source = some data →
      C (d.set target (some (data.take n)))) :
    Attempts commitDevice P (replaceFile source target) (fun _ => Q) P C := by
  refine Triple.perform hPC ?_ fun r => ?_
  · rintro d d' hd h
    cases h with
    | replaceTorn _ _ _ n hold hdata => exact htorn d _ _ n hd hold hdata
  have hstep : ∀ d', (∃ d, P d ∧ CommitCompletes (.replaceFile source target) d r d') →
      Either (fun _ => Q) (fun _ => P) r d' := by
    rintro d' ⟨d, hd, h⟩
    cases h with
    | performed =>
      simp only [handle]
      cases hsource : d source with
      | none => exact hd
      | some data => exact hQ d data hd hsource
    | replaceFailed => exact hd
  refine Triple.done hstep fun d' h => ?_
  have hd' := hstep d' h
  cases r with
  | ok _ => exact hQC d' hd'
  | error _ => exact hPC d' hd'

/-- Removing a file that `P` does not depend on. -/
lemma removeFile_commit {path : String} (hP : ∀ d, P d → P (d.set path none)) :
    Triple commitDevice P (removeFile path) (fun _ => P) P := by
  refine Triple.perform (fun _ hd => hd) (fun _ _ _ h => by cases h) fun r => ?_
  have hstep : ∀ d', (∃ d, P d ∧ CommitCompletes (.removeFile path) d r d') → P d' := by
    rintro d' ⟨d, hd, h⟩
    cases h with
    | performed => exact hP d hd
    | removeFailed => exact hd
    | removeUnreported => exact hP d hd
  exact Triple.done hstep hstep

lemma removeFiles_commit (files : List String)
    (hP : ∀ file ∈ files, ∀ d, P d → P (d.set file none)) :
    Triple commitDevice P (removeFiles files) (fun _ => P) P := by
  induction files with
  | nil => exact Triple.done (fun _ hd => hd) fun _ hd => hd
  | cons file files ih =>
    exact Triple.bind (removeFile_commit (hP file List.mem_cons_self))
      fun _ => ih fun f hf => hP f (List.mem_cons_of_mem _ hf)

lemma syncDirectory_commit {path : String} :
    Triple commitDevice P (syncDirectory path) (fun _ => P) P := by
  refine Triple.perform (fun _ hd => hd) (fun _ _ _ h => by cases h) fun r => ?_
  have hstep : ∀ d', (∃ d, P d ∧ CommitCompletes (.syncDirectory path) d r d') → P d' := by
    rintro d' ⟨d, hd, h⟩
    cases h with
    | performed => exact hd
    | syncFailed => exact hd
  exact Triple.done hstep hstep

end Commit

end FairnessGovernor
