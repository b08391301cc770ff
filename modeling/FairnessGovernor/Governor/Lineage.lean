/-
# One ledger for all governors of a directory

Governors are opened on a directory one after the other or side by side; their writes fail, and
crashes interrupt them.  All the same there is one ledger: the durable accounting is what the
decisions that were acknowledged lead to, in their order, with some of those whose fate nobody was
told of.  The invariant `Shared` says that whoever knows the generation of the accounting record
has books that derive from it, and `Replaces` that nobody else writes it.
-/
import FairnessGovernor.Governor.Ledger
import FairnessGovernor.Governor.Restart
import FairnessGovernor.Persist.Canonical

namespace FairnessGovernor

open Program Crash Runs DurableStore

/-! ## The property -/

/-- The decision of a commit. -/
def Operation.decision : Operation → Option FairnessDecision
  | .commit decision => some decision
  | _ => none

/-- The decision of a commit that was acknowledged. -/
def Event.acknowledged : Event → Option FairnessDecision
  | .commit decision (.ok ()) => some decision
  | _ => none

namespace SiteEvent

/-- The decision whose commit was acknowledged. -/
def acknowledged : SiteEvent → Option FairnessDecision
  | operated _ _ e => e.acknowledged
  | _ => none

/-- The decision that a commit was called with, whatever became of the call. -/
def attempted : SiteEvent → Option FairnessDecision
  | operated _ operation _ | crashed _ operation => operation.decision
  | _ => none

end SiteEvent

/-- The accounting of a record; without a record nothing was accounted for. -/
inductive AccountOf : Option DecodedRecord → FairnessAccounting → Prop
  | none : AccountOf none {}
  | some {record : DecodedRecord} {durable : FairnessAccounting} :
      record.payload = encodeAccounting durable → AccountOf (some record) durable

/-- Who knows the generation of the record has books that derive from it. -/
def DerivesFrom (v : Option DecodedRecord) (durable : FairnessAccounting) (g : Governor) : Prop :=
  g.accountingRecordGeneration ≤ generationOf v ∧
    (g.accountingRecordGeneration = generationOf v → DerivedFrom durable g.accounting)

/-- What holds between the records of a directory, its live governors and the ledger. -/
structure Shared (directory : String) (live : List Governor) (records : Records) (dir : Directory)
    (decisions : List FairnessDecision) (durable : FairnessAccounting) : Prop where
  settled : Settled { directory := directory } records dir
  attached : ∀ g ∈ live, Attached directory g
  ledger : Ledger decisions durable
  accounts : AccountOf (records .accounting) durable
  follows : ∀ g ∈ live, DerivesFrom (records .accounting) durable g

variable {directory : String} {live : List Governor} {records records' : Records}
  {dir dir' : Directory} {decisions : List FairnessDecision} {durable next : FairnessAccounting}
  {g g' : Governor} {v v' : Option DecodedRecord} {record : DecodedRecord}
  {operation : Operation} {e : Event}

/-- Who knew at most the record before does not know the record after. -/
lemma DerivesFrom.replaced {x : Governor} (h : DerivesFrom v durable x)
    (hcommits : g.CommitsAccounting next v record) : DerivesFrom (some record) next x := by
  have hlt : x.accountingRecordGeneration < record.generation := by
    rw [hcommits.generation]
    exact UInt64.lt_of_le_of_lt (hcommits.expected ▸ h.1) hcommits.advances
  exact ⟨UInt64.le_of_lt hlt, fun heq => absurd heq (UInt64.ne_of_lt hlt)⟩

/-- The books may be stamped anew. -/
lemma DerivesFrom.sameBooks (h : DerivesFrom v durable g) (hbooks : SameBooks g.accounting g'.accounting)
    (hgeneration : g'.accountingRecordGeneration = g.accountingRecordGeneration) :
    DerivesFrom v durable g' := by
  refine ⟨hgeneration ▸ h.1, fun heq => ?_⟩
  exact (h.2 (hgeneration ▸ heq)).sameBooks hbooks

/-! ## Operations -/

lemma Event.acknowledged_eq_some {decision : FairnessDecision} :
    e.acknowledged = some decision ↔ e = .commit decision (.ok ()) := by
  cases e with
  | commit other result =>
    cases result with
    | ok _ => simp [Event.acknowledged]
    | error s => simp [Event.acknowledged]
  | ingest | evaluate | installPolicy | advanceEpoch | clearStaged | shutdown =>
    simp [Event.acknowledged]

/-- What is entered by who knows the record continues the ledger. -/
lemma Enters.ledger (h : Enters g operation next) (hledger : Ledger decisions durable)
    (hderived : DerivedFrom durable g.accounting) :
    Ledger (decisions ++ operation.decision.toList) next := by
  cases h with
  | applied hcheck happly => exact hledger.applied hderived hcheck happly
  | stamped hother hbooks =>
    have hnone : operation.decision = none := by
      cases operation with
      | commit decision => exact absurd rfl (hother decision)
      | ingest | evaluate | installPolicy | advanceEpoch | clearStaged | shutdown => rfl
    rw [hnone, Option.toList_none, List.append_nil]
    exact hledger.stamped (hderived.sameBooks hbooks)

/-- A record that takes the place of another is entered by who knows that one. -/
lemma DerivesFrom.derived (h : DerivesFrom v durable g) (hcommits : g.CommitsAccounting next v record) :
    DerivedFrom durable g.accounting := h.2 hcommits.expected.symm

/-- The ledger after a call that nobody was told of: it may have been continued. -/
lemma MayEnter.continued {others : List Governor} (h : MayEnter g operation v v')
    (hg : DerivesFrom v durable g) (hledger : Ledger decisions durable) (haccounts : AccountOf v durable)
    (hfollows : ∀ x ∈ others, DerivesFrom v durable x) :
    ∃ entered next, entered.Sublist operation.decision.toList ∧
      Ledger (decisions ++ entered) next ∧ AccountOf v' next ∧
      (∀ x ∈ others, DerivesFrom v' next x) ∧
      (∀ x, SameBooks g.accounting x.accounting →
        x.accountingRecordGeneration = g.accountingRecordGeneration → DerivesFrom v' next x) := by
  rcases h with rfl | ⟨next, record, henters, hcommits, rfl⟩
  · refine ⟨[], durable, List.nil_sublist _, ?_, haccounts, hfollows, fun x => hg.sameBooks⟩
    rwa [List.append_nil]
  · refine ⟨operation.decision.toList, next, List.Sublist.refl _,
      henters.ledger hledger (hg.derived hcommits), .some hcommits.payload_eq,
      fun x hx => (hfollows x hx).replaced hcommits, fun x hbooks hgeneration => ?_⟩
    exact (hg.replaced hcommits).sameBooks hbooks hgeneration

/-- The ledger after a call that has ended. -/
lemma BooksAfter.continued {others : List Governor} (h : BooksAfter g operation v e g' v')
    (hg : DerivesFrom v durable g) (hledger : Ledger decisions durable) (haccounts : AccountOf v durable)
    (hfollows : ∀ x ∈ others, DerivesFrom v durable x) :
    ∃ entered next, e.acknowledged.toList.Sublist entered ∧
      entered.Sublist operation.decision.toList ∧ Ledger (decisions ++ entered) next ∧
      AccountOf v' next ∧ (∀ x ∈ others, DerivesFrom v' next x) ∧ DerivesFrom v' next g' := by
  cases h with
  | unacknowledged hother hbooks hgeneration hmay =>
    obtain ⟨entered, next, hsub, hledger', haccounts', hothers, hsame⟩ :=
      hmay.continued hg hledger haccounts hfollows
    refine ⟨entered, next, ?_, hsub, hledger', haccounts', hothers, hsame g' hbooks hgeneration⟩
    have hnone : e.acknowledged = none := by
      rw [Option.eq_none_iff_forall_ne_some]
      exact fun decision hsome => hother decision (Event.acknowledged_eq_some.mp hsome)
    rw [hnone]
    exact List.nil_sublist _
  | recorded hacknowledged henters hcommits hgeneration =>
    refine ⟨operation.decision.toList, g'.accounting, ?_, List.Sublist.refl _,
      henters.ledger hledger (hg.derived hcommits), .some hcommits.payload_eq,
      fun x hx => (hfollows x hx).replaced hcommits, ?_⟩
    · cases hack : e.acknowledged with
      | none => exact List.nil_sublist _
      | some decision =>
        have hcommit := (hacknowledged decision).mp (Event.acknowledged_eq_some.mp hack)
        rw [hcommit]
        exact List.Sublist.refl _
    · exact ⟨UInt64.le_of_eq hgeneration, fun _ => .refl _⟩

/-! ## Openings -/

/-- The accounting part of an opening derives the books from the settled record. -/
lemma openAccounting_follows {store : DurableStore} (h : store.Settled records dir)
    (haccounts : AccountOf (records .accounting) durable)
    (hgeneration : g.accountingRecordGeneration = 0) (hfresh : DerivedFrom {} g.accounting)
    (hends : Ends commitDevice (Governor.openAccounting store g).run dir (.ok g') dir') :
    DerivesFrom (records .accounting) durable g' := by
  rcases ends_bind_except.mp hends with ⟨loaded, mid, hload, hends⟩ | ⟨_, -, hbad⟩
  swap
  · cases hbad
  obtain ⟨-, hloads⟩ : store.Settled records mid ∧ Loads .accounting (records .accounting) loaded := by
    rcases ends_bind.mp hload with ⟨again, t, ht, heq, rfl⟩
    obtain rfl := Except.ok.inj heq
    exact (load_settled dir h).1 _ _ ht
  unfold Governor.useAccountingRecord at hends
  by_cases hpresent : loaded.present = true
  · rw [if_pos hpresent] at hends
    rcases ends_bind_except.mp hends with ⟨⟨⟩, t, hok, hends⟩ | ⟨_, -, hbad⟩
    swap
    · cases hbad
    obtain ⟨record, hrecord, rfl⟩ := hloads.ok (not_not.mp (rejectIf_eq_ok.mp hok.1))
    rw [hrecord] at haccounts ⊢
    cases hdecode : decodeAccounting (loadedOf .accounting record).payload with
    | error status =>
      rw [hdecode] at hends
      cases hends.1
    | ok read =>
      rw [hdecode] at hends
      obtain rfl := Except.ok.inj hends.1
      refine ⟨UInt64.le_refl _, fun _ => ?_⟩
      cases haccounts with
      | some hpayload =>
        -- what is read is what was written
        have hread : encodeAccounting read = encodeAccounting durable := by
          have hbytes := reads_readAccounting _ _ _ (decodePayload_eq_ok.mp hdecode).2
          rw [List.append_nil] at hbytes
          exact hbytes.symm.trans hpayload
        rw [encodeAccounting_injective hread]
        exact ⟨rfl, rfl, rfl, List.filter_sublist⟩
  · rw [if_neg hpresent] at hends
    obtain rfl := Except.ok.inj hends.1
    have hnone := hloads.absent (by simpa using hpresent)
    rw [hnone] at haccounts ⊢
    cases haccounts with
    | none => exact ⟨UInt64.le_of_eq hgeneration, fun _ => hfresh⟩

/-- The policy part of an opening leaves the books as they are. -/
lemma openPolicy_derived {store : DurableStore}
    (h : Returns (Governor.openPolicy store g).run (.ok g')) :
    DerivedFrom g.accounting g'.accounting := by
  obtain ⟨record, -, h⟩ := returns_bind_ok.mp h
  obtain ⟨opened, hopened, h⟩ := returns_bind_ok.mp h
  obtain rfl := returns_pure_ok.mp h
  unfold Governor.usePolicyRecord at hopened
  split_ifs at hopened
  · obtain ⟨_, -, hopened⟩ := returns_bind_ok.mp hopened
    cases hdecode : decodePolicy record.payload with
    | error e =>
      rw [hdecode] at hopened
      exact absurd hopened not_returns_fail_ok
    | ok read =>
      rw [hdecode] at hopened
      obtain ⟨_, _, _, _, -, rfl⟩ := Governor.reconcilePolicy_returns hopened
      exact ⟨rfl, rfl, rfl, List.Sublist.refl _⟩
  · obtain ⟨_, _, rfl⟩ := Governor.commitConfigured_returns hopened
    exact ⟨rfl, rfl, rfl, List.Sublist.refl _⟩

/-- An opened governor follows the ledger of its directory. -/
lemma OpeningEnds.follows {config : GovernorConfig} {boot : BootId}
    (hopening : OpeningEnds config boot dir (.ok g) dir')
    (h : Settled { directory := config.storePath } records dir)
    (haccounts : AccountOf (records .accounting) durable) :
    DerivesFrom (records .accounting) durable g := by
  cases hopening with
  | @adopted store recovered mid _ _ hends hadopts =>
    obtain ⟨hmid, hrecovered⟩ := (openStore_attempts dir h).1 _ _ hends
    obtain ⟨hconfigured, hgeneration⟩ := hrecovered.configured
    obtain ⟨recovery, hinitial⟩ := hrecovered.governor
    have hstore : store = { directory := config.storePath } := hrecovered.store
    rw [hstore] at hadopts hconfigured
    dsimp only at hconfigured hgeneration hinitial
    rcases ends_bind_except.mp hadopts with ⟨opened, s, hopened, hadopts⟩ | ⟨_, -, hbad⟩
    swap
    · cases hbad
    obtain ⟨records', hpolicy, hsettled⟩ :=
      (openPolicy_attempts hconfigured rfl hgeneration mid hmid).1 _ _ hopened
    rcases ends_bind_except.mp hadopts with ⟨accounted, t, haccounted, hfinish⟩ | ⟨_, -, hbad⟩
    swap
    · cases hbad
    obtain rfl := Except.ok.inj hfinish.1
    have hfresh : DerivedFrom {} opened.accounting := by
      have hderived := openPolicy_derived hopened.returns
      rw [hinitial] at hderived
      exact ⟨hderived.generation, hderived.interventionGeneration, hderived.lastWindow,
        hderived.subjects⟩
    rw [← hpolicy.accounting] at haccounts ⊢
    have hfollows := openAccounting_follows hsettled haccounts hpolicy.accountingGeneration hfresh
      haccounted
    exact hfollows.sameBooks .rfl' rfl

/-- What an opening leaves of the accounting record. -/
lemma OpeningTried.accounting_eq {config : GovernorConfig}
    (h : OpeningTried config records records') : records' .accounting = records .accounting := by
  rcases h with rfl | ⟨record, -, rfl⟩
  · rfl
  · exact Function.update_of_ne (by simp) ..

/-! ## Steps and runs -/

variable {site site' start : Site} {event : SiteEvent} {trace : List (Site × SiteEvent)}

/-- The ledger, after records that say the same of the accounting. -/
lemma Shared.keep (h : Shared directory live records dir decisions durable)
    (haccounting : records' .accounting = records .accounting)
    (hsettled : Settled { directory := directory } records' dir') :
    Shared directory live records' dir' decisions durable :=
  ⟨hsettled, h.attached, h.ledger, haccounting ▸ h.accounts, haccounting ▸ h.follows⟩

lemma Shared.opened (h : Shared directory live records dir decisions durable)
    (hattached : Attached directory g) (hfollows : DerivesFrom (records .accounting) durable g) :
    Shared directory (g :: live) records dir decisions durable := by
  refine ⟨h.settled, fun x hx => ?_, h.ledger, h.accounts, fun x hx => ?_⟩
  · rcases List.mem_cons.mp hx with rfl | hx
    · exact hattached
    · exact h.attached x hx
  · rcases List.mem_cons.mp hx with rfl | hx
    · exact hfollows
    · exact h.follows x hx

/-- Every step on a directory continues the ledger by the decision that it acknowledges, or by the
one it was called with, or not at all. -/
lemma SiteStep.shared (hstep : SiteStep directory site event site')
    (h : Shared directory site.live records site.dir decisions durable) :
    ∃ records' entered next, event.acknowledged.toList.Sublist entered ∧
      entered.Sublist event.attempted.toList ∧
      Shared directory site'.live records' site'.dir (decisions ++ entered) next := by
  cases hstep with
  | @opened _ _ live config boot result hpath _ hopening =>
    subst hpath
    obtain ⟨hok, records', htried, hsettled⟩ := hopening.opensWith h.settled
    refine ⟨records', [], durable, List.Sublist.refl _, List.Sublist.refl _, ?_⟩
    rw [List.append_nil]
    have hkept := h.keep htried.accounting_eq hsettled
    cases result with
    | error e => exact hkept
    | ok g =>
      have hfollows := hopening.follows h.settled h.accounts
      rw [← htried.accounting_eq] at hfollows
      obtain ⟨-, _, hopens, -⟩ := hok g rfl
      exact hkept.opened (.inl hopens.store) hfollows
  | openingCrashed hpath _ hopening =>
    subst hpath
    obtain ⟨records', htried, hsettled⟩ := hopening.leaves h.settled
    refine ⟨records', [], durable, List.Sublist.refl _, List.Sublist.refl _, ?_⟩
    rw [List.append_nil]
    exact h.keep htried.accounting_eq hsettled
  | @operated _ _ before after g g' operation e hends =>
    have hg : g ∈ before ++ g :: after := by simp
    have hothers : ∀ x ∈ before ++ after, x ∈ before ++ g :: after := by
      intro x hx
      simp only [List.mem_append, List.mem_cons] at hx ⊢
      tauto
    obtain ⟨records', hsettled, hbooks⟩ :=
      (operation_books (h.attached g hg) h.settled operation).1 e g' _ hends
    obtain ⟨_, hmoves, -⟩ := (operation_leaves (h.attached g hg) h.settled operation).1 e g' _ hends
    obtain ⟨entered, next, hack, hcalled, hledger, haccounts, hfollows, hfollows'⟩ :=
      hbooks.continued (h.follows g hg) h.ledger h.accounts fun x hx => h.follows x (hothers x hx)
    refine ⟨records', entered, next, hack, hcalled, hsettled, fun x hx => ?_, hledger, haccounts,
      fun x hx => ?_⟩
    all_goals
      have hx' : x = g' ∨ x ∈ before ++ after := by
        simp only [List.mem_append, List.mem_cons] at hx ⊢
        tauto
      rcases hx' with rfl | hx'
    · exact hmoves.attached directory (h.attached g hg)
    · exact h.attached x (hothers x hx')
    · exact hfollows'
    · exact hfollows x hx'
  | @crashed _ _ before after g operation hcrash =>
    have hg : g ∈ before ++ g :: after := by simp
    have hothers : ∀ x ∈ before ++ after, x ∈ before ++ g :: after := by
      intro x hx
      simp only [List.mem_append, List.mem_cons] at hx ⊢
      tauto
    obtain ⟨records', hsettled, hmay⟩ :=
      (operation_books (h.attached g hg) h.settled operation).2 _ hcrash
    obtain ⟨entered, next, hcalled, hledger, haccounts, hfollows, -⟩ :=
      hmay.continued (h.follows g hg) h.ledger h.accounts fun x hx => h.follows x (hothers x hx)
    exact ⟨records', entered, next, List.nil_sublist _, hcalled, hsettled,
      fun x hx => h.attached x (hothers x hx), hledger, haccounts, hfollows⟩

end FairnessGovernor
