/-
# The ledger behind a durable accounting

The accounting record of a directory stands for a ledger: the decisions that were applied, in
their order, each to books that derive from the record before it.  Between two decisions the
record may only be stamped anew, or lose entries that an opening does not keep.  What an operation
may enter into the ledger is said once, for every way in which it ends or is interrupted.
-/
import FairnessGovernor.Governor.Site

namespace FairnessGovernor

open Program Crash Runs DurableStore

/-! ## Books that derive from a record -/

/-- The books are those of the source, the stamp aside, with some of its entries. -/
structure DerivedFrom (source books : FairnessAccounting) : Prop where
  generation : books.generation = source.generation
  interventionGeneration : books.interventionGeneration = source.interventionGeneration
  lastWindow : books.lastWindow = source.lastWindow
  subjects : books.subjects.Sublist source.subjects

variable {a b c : FairnessAccounting}

lemma DerivedFrom.refl (a : FairnessAccounting) : DerivedFrom a a :=
  ⟨rfl, rfl, rfl, List.Sublist.refl _⟩

lemma DerivedFrom.sameBooks (h : DerivedFrom a b) (hsame : SameBooks b c) : DerivedFrom a c := by
  refine ⟨hsame.generation.trans h.generation,
    hsame.interventionGeneration.trans h.interventionGeneration,
    hsame.lastWindow.trans h.lastWindow, ?_⟩
  rw [hsame.subjects]
  exact h.subjects

lemma SameBooks.derived (h : SameBooks a b) : DerivedFrom a b := (DerivedFrom.refl a).sameBooks h

/-! ## The ledger -/

/-- The accounting that the decisions lead to: each passed the checks of a governor whose books
derive from what the decisions before it led to. -/
inductive Ledger : List FairnessDecision → FairnessAccounting → Prop
  | empty : Ledger [] {}
  | applied {decisions : List FairnessDecision} {durable next : FairnessAccounting} {g : Governor}
      {decision : FairnessDecision} : Ledger decisions durable → DerivedFrom durable g.accounting →
      g.checkDecision decision = .ok () → g.applyDecision decision = .ok next →
      Ledger (decisions ++ [decision]) next
  | stamped {decisions : List FairnessDecision} {durable next : FairnessAccounting} :
      Ledger decisions durable → DerivedFrom durable next → Ledger decisions next

variable {decisions : List FairnessDecision} {durable : FairnessAccounting}

variable {g g' : Governor} {operation : Operation} {e : Event} {decision : FairnessDecision}

/-- What a governor may make durable: its books after a decision, or its books under a new stamp. -/
inductive Enters (g : Governor) : Operation → FairnessAccounting → Prop
  | applied {decision : FairnessDecision} {next : FairnessAccounting} :
      g.checkDecision decision = .ok () → g.applyDecision decision = .ok next →
      Enters g (.commit decision) next
  | stamped {operation : Operation} {next : FairnessAccounting} :
      (∀ decision, operation ≠ .commit decision) → SameBooks g.accounting next →
      Enters g operation next

/-- The record after a call of which nobody was told that it was recorded. -/
def MayEnter (g : Governor) (operation : Operation) (v v' : Option DecodedRecord) : Prop :=
  v' = v ∨ ∃ next record, Enters g operation next ∧ g.CommitsAccounting next v record ∧
    v' = some record

/-- What a call that has ended made of the books and of the accounting record. -/
inductive BooksAfter (g : Governor) (operation : Operation) (v : Option DecodedRecord) (e : Event)
    (g' : Governor) : Option DecodedRecord → Prop
  | unacknowledged {v' : Option DecodedRecord} : (∀ decision, e ≠ .commit decision (.ok ())) →
      SameBooks g.accounting g'.accounting →
      g'.accountingRecordGeneration = g.accountingRecordGeneration → MayEnter g operation v v' →
      BooksAfter g operation v e g' v'
  | recorded {record : DecodedRecord} :
      (∀ decision, e = .commit decision (.ok ()) ↔ operation = .commit decision) →
      Enters g operation g'.accounting → g.CommitsAccounting g'.accounting v record →
      g'.accountingRecordGeneration = record.generation →
      BooksAfter g operation v e g' (some record)

variable {records : Records} {dir : Directory} {store : DurableStore}

/-- What the program of a call leaves, whether it ends or is interrupted; `event` names the call
with its result. -/
def LeavesBooks {α : Type} (store : DurableStore) (records : Records) (dir : Directory)
    (g : Governor) (operation : Operation) (event : α → Event) (p : FileM (α × Governor)) : Prop :=
  (∀ a g' t, Ends commitDevice p dir (a, g') t → ∃ records', store.Settled records' t ∧
    BooksAfter g operation (records .accounting) (event a) g' (records' .accounting)) ∧
  ∀ t, Crashes commitDevice p dir t → ∃ records', store.Settled records' t ∧
    MayEnter g operation (records .accounting) (records' .accounting)

section Calls

variable {α : Type} {event : α → Event}

/-- A call that writes nothing and is no commit that came through. -/
lemma LeavesBooks.quiet {a : α} (h : store.Settled records dir)
    (hother : ∀ decision, event a ≠ .commit decision (.ok ()))
    (hbooks : SameBooks g.accounting g'.accounting)
    (hgeneration : g'.accountingRecordGeneration = g.accountingRecordGeneration) :
    LeavesBooks store records dir g operation event (pure (a, g')) := by
  constructor
  · rintro _ _ _ ⟨heq, rfl⟩
    obtain ⟨rfl, rfl⟩ := Prod.mk_inj.mp heq
    exact ⟨records, h, .unacknowledged hother hbooks hgeneration (.inl rfl)⟩
  · rintro t rfl
    exact ⟨records, h, .inl rfl⟩

/-- The result of a call is turned into its event. -/
lemma LeavesBooks.named {p : FileM (α × Governor)}
    (h : LeavesBooks store records dir g operation event p) :
    LeavesBooks store records dir g operation id
      (p >>= fun outcome => pure (event outcome.1, outcome.2)) := by
  constructor
  · intro e g' t ht
    obtain ⟨outcome, s, hs, heq, rfl⟩ := ends_bind.mp ht
    obtain ⟨rfl, rfl⟩ := Prod.mk_inj.mp heq
    exact h.1 _ _ s hs
  · intro t ht
    rcases crashes_bind ht with ht | ⟨outcome, s, hs, rfl⟩
    · exact h.2 t ht
    · exact h.2 s (Crashes.of_ends hs)

end Calls

/-- The last write of a call: `written` is the governor that is written, `fallback` the one that is
left when the write fails. -/
lemma accounted_books {now : Records} {written fallback : Governor}
    {event : Except Status Unit → Event} (hstore : written.store = some store)
    (hfaults : store.faults = {}) (h : store.Settled now dir)
    (haccounting : now .accounting = records .accounting)
    (hgeneration : written.accountingRecordGeneration = g.accountingRecordGeneration)
    (henters : Enters g operation written.accounting)
    (hok : ∀ decision, event (.ok ()) = .commit decision (.ok ()) ↔ operation = .commit decision)
    (herror : ∀ status decision, event (.error status) ≠ .commit decision (.ok ()))
    (hbooks : SameBooks g.accounting fallback.accounting)
    (hrecord : fallback.accountingRecordGeneration = g.accountingRecordGeneration) :
    LeavesBooks store records dir g operation event
      (written.commitAccounting.run >>= fun committed =>
        match committed with
        | .error e => pure (.error e, fallback)
        | .ok durable => pure ((.ok () : Except Status Unit), durable)) := by
  obtain ⟨hrecorded, hfailed, hcrashed⟩ := commitAccounting_settled hstore hfaults h
  have hcommits : ∀ record, written.CommitsAccounting written.accounting (now .accounting) record →
      g.CommitsAccounting written.accounting (records .accounting) record := by
    intro record hcommits
    unfold Governor.CommitsAccounting at hcommits ⊢
    rwa [hgeneration, haccounting] at hcommits
  -- a write that fails or is cut off may have been recorded all the same
  have htried : ∀ records', (records' = now ∨ ∃ record,
      written.CommitsAccounting written.accounting (now .accounting) record ∧
        records' = Function.update now .accounting (some record)) →
      MayEnter g operation (records .accounting) (records' .accounting) := by
    rintro records' (rfl | ⟨record, hcommit, rfl⟩)
    · exact .inl haccounting
    · exact .inr ⟨_, record, henters, hcommits record hcommit, Function.update_self ..⟩
  constructor
  · intro result g' t ht
    obtain ⟨committed, s, hs, ht⟩ := ends_bind.mp ht
    cases committed with
    | error status =>
      obtain ⟨heq, rfl⟩ := ht
      obtain ⟨rfl, rfl⟩ := Prod.mk_inj.mp heq
      obtain ⟨records', hrecords, hsettled⟩ := hfailed status s hs
      exact ⟨records', hsettled,
        .unacknowledged (herror status) hbooks hrecord (htried records' hrecords)⟩
    | ok durable =>
      obtain ⟨heq, rfl⟩ := ht
      obtain ⟨rfl, rfl⟩ := Prod.mk_inj.mp heq
      obtain ⟨record, hcommit, rfl, hsettled⟩ := hrecorded durable s hs
      refine ⟨_, hsettled, ?_⟩
      rw [Function.update_self]
      exact .recorded hok henters (hcommits record hcommit) rfl
  · intro t ht
    rcases crashes_bind ht with ht | ⟨committed, s, hs, ht⟩
    · obtain ⟨records', hrecords, hsettled⟩ := hcrashed t ht
      exact ⟨records', hsettled, htried records' hrecords⟩
    · cases committed with
      | error status =>
        obtain rfl : s = t := ht
        obtain ⟨records', hrecords, hsettled⟩ := hfailed status s hs
        exact ⟨records', hsettled, htried records' hrecords⟩
      | ok durable =>
        obtain rfl : s = t := ht
        obtain ⟨record, hcommit, -, hsettled⟩ := hrecorded durable s hs
        exact ⟨_, hsettled, htried _ (.inr ⟨record, hcommit, rfl⟩)⟩

/-! ## The operations -/

lemma commit_books (hstore : g.store = some store) (hfaults : store.faults = {})
    (h : store.Settled records dir) (decision : FairnessDecision) :
    LeavesBooks store records dir g (.commit decision) (Event.commit decision)
      (g.commit decision) := by
  unfold Governor.commit
  cases hcheck : g.checkDecision decision with
  | error e => exact .quiet h (by simp) .rfl' rfl
  | ok _ =>
    cases happly : g.applyDecision decision with
    | error e => exact .quiet h (by simp) .rfl' rfl
    | ok next =>
      exact accounted_books hstore hfaults h rfl rfl (.applied hcheck happly)
        (fun other => by simp) (by simp) .rfl' rfl

lemma advanceEpoch_books (hstore : g.store = some store) (hfaults : store.faults = {})
    (h : store.Settled records dir) (nextEpoch : FabricEpoch) :
    LeavesBooks store records dir g (.advanceEpoch nextEpoch) (Event.advanceEpoch nextEpoch)
      (g.advanceEpoch nextEpoch) := by
  unfold Governor.advanceEpoch
  cases hcheck : g.checkAdvance nextEpoch with
  | error e => exact .quiet h (by simp) .rfl' rfl
  | ok _ =>
    exact accounted_books hstore hfaults h rfl rfl (.stamped (by simp) ⟨_, _, rfl⟩) (by simp)
      (by simp) ⟨_, _, rfl⟩ rfl

lemma installPolicy_books (hstore : g.store = some store) (hfaults : store.faults = {})
    (h : store.Settled records dir) (policy : FairnessPolicy) :
    LeavesBooks store records dir g (.installPolicy policy) (Event.installPolicy policy)
      (g.installPolicy policy) := by
  unfold Governor.installPolicy
  cases hcheck : g.checkInstall policy with
  | error e => exact .quiet h (by simp) .rfl' rfl
  | ok _ =>
    have hsame := @withPolicy_same g policy
    obtain ⟨hok, herror, hcrash⟩ :=
      @commitPolicy_settled (g.withPolicy policy) records store dir (hsame.store.trans hstore)
        hfaults h
    have hother : ∀ record,
        Function.update records .policy (some record) .accounting = records .accounting :=
      fun record => Function.update_of_ne (by simp) ..
    -- the first write leaves the accounting record alone
    have htried : ∀ records', (records' = records ∨ ∃ record,
        (g.withPolicy policy).CommitsPolicy (g.withPolicy policy).policy (records .policy) record ∧
          records' = Function.update records .policy (some record)) →
        records' .accounting = records .accounting := by
      rintro records' (rfl | ⟨record, -, rfl⟩)
      · rfl
      · exact hother record
    -- and the second write is of the same books under the new stamp
    have hsecond : ∀ durable s, Ends commitDevice (g.withPolicy policy).commitPolicy.run dir
        (.ok durable) s → LeavesBooks store records s g (.installPolicy policy)
          (Event.installPolicy policy) (durable.commitAccounting.run >>= fun accounted =>
            match accounted with
            | .error e => pure (.error e, durable)
            | .ok durable => pure ((.ok () : Except Status Unit), durable)) := by
      intro durable s hs
      obtain ⟨record, -, rfl, hsettled⟩ := hok durable s hs
      exact accounted_books (hsame.store.trans hstore) hfaults hsettled (hother record)
        hsame.accounting (.stamped (by simp) ⟨_, _, rfl⟩) (by simp) (by simp) ⟨_, _, rfl⟩
        hsame.accounting
    refine ⟨fun result g' t ht => ?_, fun t ht => ?_⟩
    · obtain ⟨committed, s, hs, ht⟩ := ends_bind.mp ht
      cases committed with
      | error e =>
        obtain ⟨heq, rfl⟩ := ht
        obtain ⟨rfl, rfl⟩ := Prod.mk_inj.mp heq
        obtain ⟨records', hrecords, hsettled⟩ := herror e s hs
        exact ⟨records', hsettled, .unacknowledged (by simp) ⟨_, _, rfl⟩ hsame.accounting
          (.inl (htried records' hrecords))⟩
      | ok durable => exact (hsecond durable s hs).1 result g' t ht
    · rcases crashes_bind ht with ht | ⟨committed, s, hs, ht⟩
      · obtain ⟨records', hrecords, hsettled⟩ := hcrash t ht
        exact ⟨records', hsettled, .inl (htried records' hrecords)⟩
      · cases committed with
        | error e =>
          obtain rfl : s = t := ht
          obtain ⟨records', hrecords, hsettled⟩ := herror e s hs
          exact ⟨records', hsettled, .inl (htried records' hrecords)⟩
        | ok durable => exact (hsecond durable s hs).2 t ht

lemma ingestEvidence_books (snapshot : EvidenceSnapshot) :
    SameBooks g.accounting (g.ingestEvidence snapshot).2.accounting ∧
      (g.ingestEvidence snapshot).2.accountingRecordGeneration = g.accountingRecordGeneration := by
  rcases g.ingestEvidence_cases snapshot with h | ⟨-, -, h⟩
  · rw [h]
    exact ⟨.rfl', rfl⟩
  · rw [h]
    exact ⟨.rfl', rfl⟩

lemma shutdown_books : SameBooks g.accounting g.shutdown.accounting ∧
    g.shutdown.accountingRecordGeneration = g.accountingRecordGeneration := by
  unfold Governor.shutdown
  split_ifs
  · exact ⟨.rfl', rfl⟩
  · exact ⟨.rfl', rfl⟩

/-- What any operation leaves. -/
lemma operation_books {directory : String} (hattached : Attached directory g)
    (h : Settled { directory := directory } records dir) (operation : Operation) :
    LeavesBooks { directory := directory } records dir g operation id (operation.run g) := by
  cases operation with
  | ingest snapshot =>
    exact .quiet h (by simp) (ingestEvidence_books snapshot).1 (ingestEvidence_books snapshot).2
  | evaluate request => exact .quiet h (by simp) .rfl' rfl
  | clearStaged => exact .quiet h (by simp) .rfl' rfl
  | shutdown => exact .quiet h (by simp) shutdown_books.1 shutdown_books.2
  -- the three operations that write refuse to on a governor that has shut down
  | commit decision =>
    rcases hattached with hstore | ⟨-, hstop⟩
    · exact (commit_books hstore rfl h decision).named
    · refine @LeavesBooks.named _ _ _ _ _ _ (Event.commit decision) _ ?_
      unfold Governor.commit
      cases hcheck : g.checkDecision decision with
      | error e => exact .quiet h (by simp) .rfl' rfl
      | ok _ => exact not_stopped (checkDecision_eq_ok.mp hcheck).not_stopping hstop
  | installPolicy policy =>
    rcases hattached with hstore | ⟨-, hstop⟩
    · exact (installPolicy_books hstore rfl h policy).named
    · refine @LeavesBooks.named _ _ _ _ _ _ (Event.installPolicy policy) _ ?_
      unfold Governor.installPolicy
      cases hcheck : g.checkInstall policy with
      | error e => exact .quiet h (by simp) .rfl' rfl
      | ok _ => exact not_stopped (checkInstall_eq_ok.mp hcheck).not_stopping hstop
  | advanceEpoch nextEpoch =>
    rcases hattached with hstore | ⟨-, hstop⟩
    · exact (advanceEpoch_books hstore rfl h nextEpoch).named
    · refine @LeavesBooks.named _ _ _ _ _ _ (Event.advanceEpoch nextEpoch) _ ?_
      unfold Governor.advanceEpoch
      cases hcheck : g.checkAdvance nextEpoch with
      | error e => exact .quiet h (by simp) .rfl' rfl
      | ok _ => exact not_stopped (checkAdvance_eq_ok hcheck).1 hstop

end FairnessGovernor
