/-
# What a commit checks and what it applies

`Checked` is what a decision that passed all checks satisfies, `Applied` the accounting after
it.  A step that is no successful commit leaves the books alone: the accounting changes at most
in the policy generation and the epoch it names.
-/
import FairnessGovernor.Governor.Step

namespace FairnessGovernor

open Program Runs

variable {g g' : Governor} {decision : FairnessDecision} {accounting : FairnessAccounting}

/-! ## The checks -/

/-- What a decision that passed the checks of `commit` satisfies. -/
structure Checked (g : Governor) (decision : FairnessDecision) : Prop where
  not_stopping : g.stopping = false
  governor : decision.authority.governor = g.incarnation
  epoch : decision.authority.epoch = g.epoch
  policyId : decision.authority.policyId = g.policy.id
  policyGeneration : decision.authority.policyGeneration = g.policy.generation
  accountingGeneration : decision.authority.accountingGeneration = g.accounting.generation
  window_valid : decision.authority.window.valid
  windowGeneration_valid : decision.authority.windowGeneration.valid
  window_fresh : g.accounting.lastWindow.valid →
    g.accounting.lastWindow.value < decision.authority.window.value
  covers : decision.subjects.length = g.policy.subjects.length
  digest : decisionDigest decision = decision.contentDigest
  correction : checkCorrection decision = .ok ()

lemma checkDecision_eq_ok : g.checkDecision decision = .ok () ↔ Checked g decision := by
  simp only [Governor.checkDecision, rejectIf_bind_eq_ok, not_not, not_or, not_and,
    UInt64.not_le, Bool.not_eq_true]
  constructor
  · rintro ⟨h1, h2, h3, ⟨h4, h5⟩, h6, ⟨h7, h8⟩, h9, h10, h11, h12⟩
    exact ⟨h1, h2, h3, h4, h5, h6, h7, h8, h9, h10, h11, h12⟩
  · rintro ⟨h1, h2, h3, h4, h5, h6, h7, h8, h9, h10, h11, h12⟩
    exact ⟨h1, h2, h3, ⟨h4, h5⟩, h6, ⟨h7, h8⟩, h9, h10, h11, h12⟩

/-- The window of a checked decision is above the last committed one. -/
lemma Checked.window_lt (h : Checked g decision) :
    g.accounting.lastWindow.value < decision.authority.window.value := by
  by_cases hvalid : g.accounting.lastWindow.valid
  · exact h.window_fresh hvalid
  · have hzero : g.accounting.lastWindow.value = 0 := not_not.mp hvalid
    rw [hzero]
    exact UInt64.pos_iff_ne_zero.mpr h.window_valid

/-! ## The accounting after a decision -/

/-- The accounting that a commit of the decision installs. -/
structure Applied (g : Governor) (decision : FairnessDecision) (accounting : FairnessAccounting) :
    Prop where
  subjects : ∃ entries,
    decision.subjects.foldlM (applySubject g.policy) g.accounting.subjects = .ok entries ∧
      accounting.subjects =
        recordIntents decision.authority.window decision.intents entries
  generation : accounting.generation.toNat = g.accounting.generation.toNat + 1
  interventionGeneration : accounting.interventionGeneration =
    highestIntervention decision.intents g.accounting.interventionGeneration
  lastWindow : accounting.lastWindow = decision.authority.window
  lastWindowGeneration : accounting.lastWindowGeneration = decision.authority.windowGeneration
  writerBoot : accounting.writerBoot = g.incarnation.boot
  policyId : accounting.policyId = g.policy.id
  policyGeneration : accounting.policyGeneration = g.policy.generation
  epoch : accounting.epoch = g.epoch

lemma toNat_ofNat_of_le {n : ℕ} (h : n ≤ kUInt64Max) : (UInt64.ofNat n).toNat = n := by
  rw [UInt64.toNat_ofNat_of_lt']
  unfold kUInt64Max at h
  exact lt_of_le_of_lt h (by decide)

lemma toNat_ofNat_succ {a : UInt64} (h : a.toNat + 1 ≤ kUInt64Max) :
    (UInt64.ofNat (a.toNat + 1)).toNat = a.toNat + 1 :=
  toNat_ofNat_of_le h

lemma applyDecision_eq_ok (h : g.applyDecision decision = .ok accounting) :
    Applied g decision accounting := by
  obtain ⟨entries, hentries, h⟩ := bind_eq_ok.mp h
  cases hnext : checkedAdd g.accounting.generation.toNat 1 with
  | none =>
    rw [hnext] at h
    cases h
  | some next =>
    rw [hnext] at h
    obtain rfl := Except.ok.inj h
    obtain ⟨hfit, rfl⟩ := checkedAdd_eq_some.mp hnext
    exact ⟨⟨entries, hentries, rfl⟩, toNat_ofNat_succ hfit, rfl, rfl, rfl, rfl, rfl, rfl, rfl⟩

/-! ## The entries after a decision -/

section Entries

variable {id : SubjectId} {entries entries' : List SubjectAccounting}

/-- The entry of a subject. -/
def entryOf (id : SubjectId) (entries : List SubjectAccounting) : Option SubjectAccounting :=
  entries.find? fun entry => entry.id = id

lemma find_eq_entryOf (accounting : FairnessAccounting) (id : SubjectId) :
    accounting.find id = entryOf id accounting.subjects := rfl

lemma entryOf_cons (entry : SubjectAccounting) (rest : List SubjectAccounting) :
    entryOf id (entry :: rest) = if entry.id = id then some entry else entryOf id rest := by
  unfold entryOf
  by_cases h : entry.id = id
  · rw [if_pos h, List.find?_cons_of_pos (by simpa using h)]
  · rw [if_neg h, List.find?_cons_of_neg (by simpa using h)]

lemma entryOf_id {entry : SubjectAccounting} (h : entryOf id entries = some entry) :
    entry.id = id := by simpa using List.find?_some h

/-- Where identities are distinct, every entry is found under its own. -/
lemma entryOf_mem {entry : SubjectAccounting} (hnodup : (entries.map (·.id)).Nodup)
    (h : entry ∈ entries) : entryOf entry.id entries = some entry := by
  induction entries with
  | nil => cases h
  | cons head rest ih =>
    rw [List.map_cons, List.nodup_cons] at hnodup
    rw [entryOf_cons]
    rcases List.mem_cons.mp h with rfl | hrest
    · rw [if_pos rfl]
    · rw [if_neg fun heq => hnodup.1 (List.mem_map.mpr ⟨entry, hrest, heq.symm⟩)]
      exact ih hnodup.2 hrest

/-- What `updateEntry` makes of the entries: the first one of the subject is replaced where it
stands, and without one a fresh entry is updated behind the others. -/
inductive Updates (id : SubjectId) (fresh : SubjectAccounting)
    (update : SubjectAccounting → Except Status SubjectAccounting) :
    List SubjectAccounting → List SubjectAccounting → Prop
  | created {created : SubjectAccounting} : update fresh = .ok created →
      Updates id fresh update [] [created]
  | here {entry updated : SubjectAccounting} {rest : List SubjectAccounting} : entry.id = id →
      update entry = .ok updated → Updates id fresh update (entry :: rest) (updated :: rest)
  | later {entry : SubjectAccounting} {rest rest' : List SubjectAccounting} : entry.id ≠ id →
      Updates id fresh update rest rest' → Updates id fresh update (entry :: rest) (entry :: rest')

section Updates

variable {generation : SubjectGeneration}
  {update : SubjectAccounting → Except Status SubjectAccounting}

lemma updateEntry_updates (h : updateEntry id generation update entries = .ok entries') :
    Updates id { id := id, generation := generation } update entries entries' := by
  induction entries generalizing entries' with
  | nil =>
    obtain ⟨created, hcreated, h⟩ := bind_eq_ok.mp h
    obtain rfl := Except.ok.inj h
    exact .created hcreated
  | cons entry rest ih =>
    rw [updateEntry] at h
    by_cases hentry : entry.id = id
    · rw [if_pos hentry] at h
      obtain ⟨updated, hupdated, h⟩ := bind_eq_ok.mp h
      obtain rfl := Except.ok.inj h
      exact .here hentry hupdated
    · rw [if_neg hentry] at h
      obtain ⟨rest', hrest, h⟩ := bind_eq_ok.mp h
      obtain rfl := Except.ok.inj h
      exact .later hentry (ih hrest)

/-- An update that keeps identities changes the entry of its subject and no other. -/
lemma updateEntry_eq_ok
    (hid : ∀ entry updated, update entry = .ok updated → updated.id = entry.id)
    (h : updateEntry id generation update entries = .ok entries') :
    (∃ updated, update ((entryOf id entries).getD { id := id, generation := generation }) =
        .ok updated ∧ entryOf id entries' = some updated) ∧
      ∀ other, other ≠ id → entryOf other entries' = entryOf other entries := by
  -- Every case finds the updated entry because `update` keeps the identity.
  replace h := updateEntry_updates h
  induction h with
  | @created created hcreated =>
    have hsame : created.id = id := hid _ _ hcreated
    refine ⟨⟨created, hcreated, ?_⟩, fun other hother => ?_⟩
    · rw [entryOf_cons, if_pos hsame]
    · rw [entryOf_cons, if_neg fun heq => hother (heq.symm.trans hsame)]
  | @here entry updated rest hentry hupdated =>
    have hsame : updated.id = id := (hid _ _ hupdated).trans hentry
    refine ⟨⟨updated, ?_, ?_⟩, fun other hother => ?_⟩
    · rw [entryOf_cons, if_pos hentry]
      exact hupdated
    · rw [entryOf_cons, if_pos hsame]
    · rw [entryOf_cons, entryOf_cons, if_neg fun heq => hother (heq.symm.trans hsame),
        if_neg fun heq => hother (heq.symm.trans hentry)]
  | later hentry _ ih =>
    obtain ⟨⟨updated, hupdated, hfound⟩, hothers⟩ := ih
    refine ⟨⟨updated, ?_, ?_⟩, fun other hother => ?_⟩
    · rw [entryOf_cons, if_neg hentry]
      exact hupdated
    · rw [entryOf_cons, if_neg hentry, hfound]
    · rw [entryOf_cons, entryOf_cons, hothers other hother]

/-- An update keeps the identities, or it adds the one it was called with. -/
lemma updateEntry_ids
    (hid : ∀ entry updated, update entry = .ok updated → updated.id = entry.id)
    (h : updateEntry id generation update entries = .ok entries') :
    entries'.map (·.id) = entries.map (·.id) ∨
      id ∉ entries.map (·.id) ∧ entries'.map (·.id) = entries.map (·.id) ++ [id] := by
  replace h := updateEntry_updates h
  induction h with
  | created hcreated =>
    refine .inr ⟨List.not_mem_nil, ?_⟩
    rw [List.map_singleton, hid _ _ hcreated]
    rfl
  | here _ hupdated =>
    left
    rw [List.map_cons, List.map_cons, hid _ _ hupdated]
  | later hentry _ ih =>
    rcases ih with hsame | ⟨hfresh, hadded⟩
    · left
      rw [List.map_cons, List.map_cons, hsame]
    · right
      rw [List.map_cons, List.map_cons, hadded]
      exact ⟨by simpa [hfresh] using Ne.symm hentry, rfl⟩

/-- What a fresh entry has and an update keeps, all entries have after the update. -/
lemma updateEntry_forall {Q : SubjectAccounting → Prop}
    (hfresh : Q { id := id, generation := generation })
    (hkeeps : ∀ entry updated, update entry = .ok updated → Q entry → Q updated)
    (hentries : ∀ entry ∈ entries, Q entry)
    (h : updateEntry id generation update entries = .ok entries') :
    ∀ entry ∈ entries', Q entry := by
  replace h := updateEntry_updates h
  induction h with
  | created hcreated => exact List.forall_mem_singleton.mpr (hkeeps _ _ hcreated hfresh)
  | here _ hupdated =>
    obtain ⟨hhead, hrest⟩ := List.forall_mem_cons.mp hentries
    exact List.forall_mem_cons.mpr ⟨hkeeps _ _ hupdated hhead, hrest⟩
  | later _ _ ih =>
    obtain ⟨hhead, hrest⟩ := List.forall_mem_cons.mp hentries
    exact List.forall_mem_cons.mpr ⟨hhead, ih hrest⟩

end Updates

lemma applyState_id {maxCarry : ℕ} {state : SubjectFairnessState} {entry updated : SubjectAccounting}
    (h : applyState maxCarry state entry = .ok updated) : updated.id = entry.id := by
  unfold applyState at h
  split at h
  · cases h
  · split at h
    · rw [← Except.ok.inj h]
    · cases h

/-- A subject without authority is skipped; with authority it is governed, and its entry is
updated. -/
lemma applySubject_cases {policy : FairnessPolicy} {state : SubjectFairnessState}
    (h : applySubject policy entries state = .ok entries') :
    state.hasAuthority = false ∧ entries' = entries ∨
      state.hasAuthority = true ∧
        (∃ subject ∈ policy.findSubject state.id, subject.generation = state.generation) ∧
        updateEntry state.id state.generation (applyState policy.maxCarryUnits.toNat state)
          entries = .ok entries' := by
  unfold applySubject at h
  cases hauth : state.hasAuthority with
  | false =>
    rw [hauth, if_pos Bool.false_ne_true] at h
    exact .inl ⟨rfl, (Except.ok.inj h).symm⟩
  | true =>
    rw [hauth, if_neg (not_not.mpr rfl)] at h
    obtain ⟨hgoverned, h⟩ := rejectIf_bind_eq_ok.mp h
    exact .inr ⟨rfl, not_not.mp hgoverned, h⟩

/-- One subject of a decision: without authority nothing happens, with authority its own entry
is updated. -/
lemma applySubject_eq_ok {policy : FairnessPolicy} {state : SubjectFairnessState}
    (h : applySubject policy entries state = .ok entries') :
    (state.hasAuthority = false → entries' = entries) ∧
    (state.hasAuthority = true → ∃ updated,
      applyState policy.maxCarryUnits.toNat state ((entryOf state.id entries).getD
        { id := state.id, generation := state.generation }) = .ok updated ∧
      entryOf state.id entries' = some updated) ∧
    ∀ other, other ≠ state.id → entryOf other entries' = entryOf other entries := by
  rcases applySubject_cases h with ⟨hauth, rfl⟩ | ⟨hauth, -, h⟩
  · exact ⟨fun _ => rfl, fun htrue => absurd (hauth.symm.trans htrue) Bool.false_ne_true,
      fun _ _ => rfl⟩
  · obtain ⟨hown, hothers⟩ := updateEntry_eq_ok (fun _ _ => applyState_id) h
    exact ⟨fun hfalse => absurd (hfalse.symm.trans hauth) Bool.false_ne_true, fun _ => hown, hothers⟩

/-- Whom a decision has no authority for keeps its entry. -/
lemma foldlM_applySubject_others {policy : FairnessPolicy} {states : List SubjectFairnessState}
    (h : states.foldlM (applySubject policy) entries = .ok entries')
    (hwithout : ∀ state ∈ states, state.hasAuthority = true → state.id ≠ id) :
    entryOf id entries' = entryOf id entries := by
  induction states generalizing entries with
  | nil =>
    obtain rfl := Except.ok.inj h
    rfl
  | cons state rest ih =>
    rw [List.foldlM_cons] at h
    obtain ⟨next, hnext, h⟩ := bind_eq_ok.mp h
    obtain ⟨hskip, -, hothers⟩ := applySubject_eq_ok hnext
    rw [ih h fun s hs => hwithout s (List.mem_cons_of_mem _ hs)]
    by_cases hauth : state.hasAuthority = true
    · exact hothers id (hwithout state List.mem_cons_self hauth).symm
    · rw [hskip (by simpa using hauth)]

/-- The subjects of a decision with distinct identities: each with authority has its entry
updated once. -/
lemma foldlM_applySubject {policy : FairnessPolicy} {states : List SubjectFairnessState}
    (hnodup : (states.map (·.id)).Nodup)
    (h : states.foldlM (applySubject policy) entries = .ok entries')
    {state : SubjectFairnessState} (hstate : state ∈ states) (hauth : state.hasAuthority = true) :
    ∃ updated, applyState policy.maxCarryUnits.toNat state ((entryOf state.id entries).getD
        { id := state.id, generation := state.generation }) = .ok updated ∧
      entryOf state.id entries' = some updated := by
  induction states generalizing entries with
  | nil => cases hstate
  | cons head rest ih =>
    rw [List.map_cons, List.nodup_cons] at hnodup
    rw [List.foldlM_cons] at h
    obtain ⟨next, hnext, hrest⟩ := bind_eq_ok.mp h
    obtain ⟨-, hown, hothers⟩ := applySubject_eq_ok hnext
    have hfresh : ∀ s ∈ rest, s.id ≠ head.id := fun s hs heq =>
      hnodup.1 (List.mem_map.mpr ⟨s, hs, heq⟩)
    rcases List.mem_cons.mp hstate with rfl | hstate
    · obtain ⟨updated, hupdated, hfound⟩ := hown hauth
      refine ⟨updated, hupdated, ?_⟩
      rw [foldlM_applySubject_others hrest fun s hs _ => hfresh s hs, hfound]
    · obtain ⟨updated, hupdated, hfound⟩ := ih hnodup.2 hrest hstate
      rw [hothers _ (hfresh state hstate)] at hupdated
      exact ⟨updated, hupdated, hfound⟩

/-- The same entry but for the correction it remembers. -/
def SameEntry (a b : SubjectAccounting) : Prop :=
  ∃ window generation, b = { a with
    lastCorrectionWindow := window, lastCorrectionGeneration := generation }

lemma SameEntry.trans {a b c : SubjectAccounting} (h₁ : SameEntry a b) (h₂ : SameEntry b c) :
    SameEntry a c := by
  obtain ⟨_, _, rfl⟩ := h₁
  obtain ⟨window, generation, rfl⟩ := h₂
  exact ⟨window, generation, rfl⟩

lemma stampCorrection_same (window : ServiceWindowId) (intent : CorrectiveIntent)
    (entry : SubjectAccounting) : SameEntry entry (stampCorrection window intent entry) := by
  unfold stampCorrection
  split_ifs
  · exact ⟨_, _, rfl⟩
  · exact ⟨_, _, rfl⟩

lemma entryOf_modifyEntry {target : SubjectId} {change : SubjectAccounting → SubjectAccounting}
    (hid : ∀ entry, (change entry).id = entry.id) :
    entryOf id (modifyEntry target change entries) =
      if id = target then (entryOf id entries).map change else entryOf id entries := by
  induction entries with
  | nil => split_ifs <;> rfl
  | cons entry rest ih =>
    rw [modifyEntry]
    by_cases htarget : entry.id = target
    · rw [if_pos htarget, entryOf_cons, entryOf_cons, hid]
      by_cases hentry : entry.id = id
      · rw [if_pos hentry, if_pos hentry, if_pos (hentry.symm.trans htarget)]
        rfl
      · rw [if_neg hentry, if_neg hentry, if_neg fun heq => hentry (htarget.trans heq.symm)]
    · rw [if_neg htarget, entryOf_cons, entryOf_cons, ih]
      by_cases hentry : entry.id = id
      · rw [if_pos hentry, if_pos hentry, if_neg fun heq => htarget (hentry.trans heq)]
      · rw [if_neg hentry, if_neg hentry]

/-- Recording the intents changes the remembered correction of the subjects they name. -/
lemma entryOf_recordIntents {window : ServiceWindowId} {intents : List CorrectiveIntent} :
    ((∀ intent ∈ intents, intent.subject ≠ id) →
      entryOf id (recordIntents window intents entries) = entryOf id entries) ∧
    ∃ change : SubjectAccounting → SubjectAccounting, (∀ entry, SameEntry entry (change entry)) ∧
      entryOf id (recordIntents window intents entries) = (entryOf id entries).map change := by
  -- The changes of the intents compose, and each leaves every field but the stamp.
  induction intents generalizing entries with
  | nil => exact ⟨fun _ => rfl, fun entry => entry, fun entry => ⟨_, _, rfl⟩, by simp [recordIntents]⟩
  | cons intent rest ih =>
    have hstep : recordIntents window (intent :: rest) entries = recordIntents window rest
        (modifyEntry intent.subject (stampCorrection window intent) entries) := rfl
    have hid : ∀ entry, (stampCorrection window intent entry).id = entry.id := by
      intro entry
      obtain ⟨_, _, hsame⟩ := stampCorrection_same window intent entry
      rw [hsame]
    obtain ⟨hkept, change, hchange, hmap⟩ :=
      @ih (modifyEntry intent.subject (stampCorrection window intent) entries)
    rw [hstep]
    constructor
    · intro hother
      rw [hkept fun i hi => hother i (List.mem_cons_of_mem _ hi), entryOf_modifyEntry hid,
        if_neg fun heq => hother intent List.mem_cons_self heq.symm]
    · rw [hmap, entryOf_modifyEntry hid]
      by_cases htarget : id = intent.subject
      · rw [if_pos htarget, Option.map_map]
        exact ⟨_, fun entry => (stampCorrection_same window intent entry).trans (hchange _), rfl⟩
      · rw [if_neg htarget]
        exact ⟨change, hchange, rfl⟩

/-- Applying a decision keeps the identities of the entries distinct. -/
lemma foldlM_applySubject_nodup {policy : FairnessPolicy} {states : List SubjectFairnessState}
    (h : states.foldlM (applySubject policy) entries = .ok entries')
    (hnodup : (entries.map (·.id)).Nodup) : (entries'.map (·.id)).Nodup := by
  induction states generalizing entries with
  | nil =>
    obtain rfl := Except.ok.inj h
    exact hnodup
  | cons state rest ih =>
    rw [List.foldlM_cons] at h
    obtain ⟨next, hnext, hrest⟩ := bind_eq_ok.mp h
    refine ih hrest ?_
    rcases applySubject_cases hnext with ⟨-, rfl⟩ | ⟨-, -, hnext⟩
    · exact hnodup
    · rcases updateEntry_ids (fun _ _ => applyState_id) hnext with hsame | ⟨hfresh, hadded⟩
      · rw [hsame]
        exact hnodup
      · rw [hadded]
        exact List.nodup_append.mpr ⟨hnodup, List.nodup_singleton _, by
          rintro a ha b hb rfl
          obtain rfl := List.mem_singleton.mp hb
          exact hfresh ha⟩

lemma modifyEntry_ids {change : SubjectAccounting → SubjectAccounting}
    (hid : ∀ entry, (change entry).id = entry.id) :
    (modifyEntry id change entries).map (·.id) = entries.map (·.id) := by
  induction entries with
  | nil => rfl
  | cons entry rest ih =>
    rw [modifyEntry]
    by_cases hentry : entry.id = id
    · rw [if_pos hentry, List.map_cons, List.map_cons, hid]
    · rw [if_neg hentry, List.map_cons, List.map_cons, ih]

lemma recordIntents_ids {window : ServiceWindowId} {intents : List CorrectiveIntent} :
    (recordIntents window intents entries).map (·.id) = entries.map (·.id) := by
  induction intents generalizing entries with
  | nil => rfl
  | cons intent rest ih =>
    have hid : ∀ entry, (stampCorrection window intent entry).id = entry.id := by
      intro entry
      obtain ⟨_, _, hsame⟩ := stampCorrection_same window intent entry
      rw [hsame]
    exact ih.trans (modifyEntry_ids hid)

/-- A commit keeps the identities of the entries distinct. -/
lemma Applied.nodup (h : Applied g decision accounting)
    (hnodup : (g.accounting.subjects.map (·.id)).Nodup) :
    (accounting.subjects.map (·.id)).Nodup := by
  obtain ⟨entries, hentries, hsubjects⟩ := h.subjects
  rw [hsubjects, recordIntents_ids]
  exact foldlM_applySubject_nodup hentries hnodup

/-- A subject with authority has its entry updated once. -/
lemma Applied.entry (h : Applied g decision accounting)
    (hnodup : (decision.subjects.map (·.id)).Nodup) {state : SubjectFairnessState}
    (hstate : state ∈ decision.subjects) (hauth : state.hasAuthority = true) :
    ∃ updated after, applyState g.policy.maxCarryUnits.toNat state
        ((entryOf state.id g.accounting.subjects).getD
          { id := state.id, generation := state.generation }) = .ok updated ∧
      SameEntry updated after ∧ accounting.find state.id = some after := by
  obtain ⟨entries, hentries, hsubjects⟩ := h.subjects
  obtain ⟨updated, hupdated, hfound⟩ := foldlM_applySubject hnodup hentries hstate hauth
  obtain ⟨-, change, hchange, hrecorded⟩ :=
    @entryOf_recordIntents state.id entries decision.authority.window decision.intents
  refine ⟨updated, change updated, hupdated, hchange updated, ?_⟩
  rw [find_eq_entryOf, hsubjects, hrecorded, hfound]
  rfl

/-- The entry of anyone else changes at most in the correction it remembers. -/
lemma Applied.other (h : Applied g decision accounting)
    (hwithout : ∀ state ∈ decision.subjects, state.hasAuthority = true → state.id ≠ id) :
    ∃ change : SubjectAccounting → SubjectAccounting, (∀ entry, SameEntry entry (change entry)) ∧
      accounting.find id = (g.accounting.find id).map change := by
  obtain ⟨entries, hentries, hsubjects⟩ := h.subjects
  obtain ⟨-, change, hchange, hrecorded⟩ :=
    @entryOf_recordIntents id entries decision.authority.window decision.intents
  refine ⟨change, hchange, ?_⟩
  rw [find_eq_entryOf, find_eq_entryOf, hsubjects, hrecorded,
    foldlM_applySubject_others hentries hwithout]

end Entries

/-! ## Steps that are no commit -/

/-- The accounting changed at most in the policy generation and the epoch it names. -/
def SameBooks (a b : FairnessAccounting) : Prop :=
  ∃ policyGeneration epoch, b = { a with policyGeneration := policyGeneration, epoch := epoch }

lemma SameBooks.rfl' {a : FairnessAccounting} : SameBooks a a := ⟨_, _, rfl⟩

section Fields

variable {a b : FairnessAccounting} (h : SameBooks a b)

include h

lemma SameBooks.subjects : b.subjects = a.subjects := by
  obtain ⟨_, _, rfl⟩ := h
  rfl

lemma SameBooks.generation : b.generation = a.generation := by
  obtain ⟨_, _, rfl⟩ := h
  rfl

lemma SameBooks.interventionGeneration : b.interventionGeneration = a.interventionGeneration := by
  obtain ⟨_, _, rfl⟩ := h
  rfl

lemma SameBooks.lastWindow : b.lastWindow = a.lastWindow := by
  obtain ⟨_, _, rfl⟩ := h
  rfl

end Fields

@[simp] lemma withPolicy_accounting (policy : FairnessPolicy) :
    SameBooks g.accounting (g.withPolicy policy).accounting := ⟨_, _, rfl⟩

@[simp] lemma withPolicy_policy (policy : FairnessPolicy) :
    (g.withPolicy policy).policy = policy := rfl

/-- A step either leaves the books alone, or it is a commit that passed its checks. -/
theorem Step.books {e : Event} (h : Step g e g') :
    SameBooks g.accounting g'.accounting ∨
      ∃ decision accounting generation, e = .commit decision (.ok ()) ∧
        Checked g decision ∧ Applied g decision accounting ∧
        g' = { g with accounting := accounting, accountingRecordGeneration := generation } := by
  cases h.change with
  | none | staged | cleared | stopped => exact .inl .rfl'
  | @committed decision accounting generation hcheck happly =>
    exact .inr ⟨decision, accounting, generation, rfl, checkDecision_eq_ok.mp hcheck,
      applyDecision_eq_ok happly, rfl⟩
  -- these restamp the accounting
  | undone | installed | putBack | advanced => exact .inl ⟨_, _, rfl⟩

end FairnessGovernor
