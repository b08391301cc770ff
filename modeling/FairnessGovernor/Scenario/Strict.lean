/-
# Strictness

The format promises that nothing that is written in a scenario is lost.  An accepted line of a
group, a subject, an evidence block or an observation becomes an element of the scenario that
keeps its attributes.  `policy`, `epoch` and `request` lines may come several times, and a policy
line may repeat a key; the last one wins, so nothing is lost exactly when they agree.
-/
import FairnessGovernor.Scenario.ParseSpec

namespace FairnessGovernor

/-! ## What the text declares -/

/-- The evidence blocks: an `evidence` line with the `obs` lines up to the next one. -/
def evidenceBlocks : List Line → List (Line × List Line)
  | [] => []
  | line :: rest =>
    if line.is .evidence then
      (line, linesFor .obs (rest.takeWhile fun next => ! next.is .evidence)) :: evidenceBlocks rest
    else evidenceBlocks rest

/-- Everything that the lines declare is in the scenario. -/
structure LosesNothing (lines : List Line) (scenario : Scenario) : Prop where
  keys_once : ∀ line ∈ lines, (keysOf line.attributes).Nodup
  epochs : ∀ line ∈ linesFor .epoch lines, line.numberAt 1 = some scenario.epoch.value
  policies : ∀ line ∈ linesFor .policy lines,
    scenario.hasPolicy = true ∧ PolicyOf line scenario.policy
  groups : List.Forall₂ GroupOf (linesFor .group lines) scenario.policy.groups
  subjects : List.Forall₂ SubjectOf (linesFor .subject lines) scenario.policy.subjects
  evidence : List.Forall₂ SnapshotOf (evidenceBlocks lines) scenario.evidence
  observed : (evidenceBlocks lines).flatMap Prod.snd = linesFor .obs lines
  requests : ∀ line ∈ linesFor .request lines,
    scenario.hasRequest = true ∧ Keeps requestAttributes line.attributes scenario.request
  -- only a group and a subject have a label to hold it
  labels : ∀ line ∈ lines, line.hasLabel = true → line.is .group = true ∨ line.is .subject = true
  policy_valid : scenario.hasPolicy = true → validatePolicy scenario.policy = .ok ()
  evidence_valid : ∀ snapshot ∈ scenario.evidence, validateEvidence snapshot = .ok ()

/-- What a request line sets an attribute to, when it is the last one. -/
def Line.requests (line : Line) (a : Attribute EvaluationRequest) : Option a.kind.Value :=
  match (valuesOf line.attributes a.key).head? with
  | none => some (a.get {})
  | some value => a.kind.parse value

/-- Policy lines write no key twice and agree with one another, epoch lines agree with one another,
earlier request lines agree with the last one, and only groups and subjects are labelled. -/
structure WritesOnce (lines : List Line) : Prop where
  keys : ∀ line ∈ linesFor .policy lines, (keysOf line.attributes).Nodup
  labels : ∀ line ∈ lines, line.hasLabel = true → line.is .group = true ∨ line.is .subject = true
  epochs : ∀ line ∈ linesFor .epoch lines, ∀ other ∈ linesFor .epoch lines,
    line.numberAt 1 = other.numberAt 1
  identities : ∀ line ∈ linesFor .policy lines, ∀ other ∈ linesFor .policy lines,
    line.numberAt 1 = other.numberAt 1 ∧ line.numberAt 2 = other.numberAt 2
  policies : ∀ line ∈ linesFor .policy lines, ∀ other ∈ linesFor .policy lines,
    ∀ a ∈ policyAttributes.attributes, ∀ value ∈ valuesOf line.attributes a.key,
      ∀ another ∈ valuesOf other.attributes a.key, a.kind.parse value = a.kind.parse another
  requests : ∀ line ∈ linesFor .request lines, ∀ last ∈ (linesFor .request lines).getLast?,
    ∀ a ∈ requestAttributes.attributes, ∀ value ∈ valuesOf line.attributes a.key,
      a.kind.parse value = last.requests a

/-! ## Runs of the parser -/

/-- The states of the parser behind a list of lines. -/
inductive Parsed : List Line → Parsing → Prop
  | start : Parsed [] {}
  | next {lines : List Line} {line : Line} {d : Directive} {state state' : Parsing} :
      Parsed lines state → line.is d = true → Handled state line d state' →
      Parsed (lines ++ [line]) state'

section Runs

variable {lines : List Line} {state : Parsing} {scenario : Scenario} {text : ByteBuffer}

lemma parsed_of_foldlM (h : lines.foldlM (fun state line =>
      (parseLine state line).mapError fun message => ParseError.mk line.number message) {} =
        .ok state) : Parsed lines state := by
  induction lines using List.reverseRecOn generalizing state with
  | nil => exact Except.ok.inj h ▸ .start
  | append_singleton lines line ih =>
    rw [List.foldlM_append] at h
    obtain ⟨before, hbefore, h⟩ := bind_eq_ok.mp h
    rw [List.foldlM_cons] at h
    obtain ⟨after, hafter, h⟩ := bind_eq_ok.mp h
    obtain ⟨d, hd, hhandled⟩ := parseLine_handled (mapError_eq_ok.mp hafter)
    rw [← Except.ok.inj h]
    exact .next (ih hbefore) hd hhandled

/-- What is returned is what was declared, with the epoch of the document and its digest; it was
validated. -/
lemma finishParse_eq_ok {number : ℕ} (h : finishParse state number text = .ok scenario) :
    scenario = { state.scenario.withEpoch with sourceDigest := checksum64 text } ∧
      (scenario.hasPolicy = true → validatePolicy scenario.policy = .ok ()) ∧
      ∀ snapshot ∈ scenario.evidence, validateEvidence snapshot = .ok () := by
  unfold finishParse at h
  split_ifs at h
  dsimp only at h
  split at h
  · cases h
  · next hpolicy =>
    split at h
    · cases h
    · next hevidence =>
      obtain rfl := Except.ok.inj h
      exact ⟨rfl, fun hhas => by rwa [if_pos hhas] at hpolicy, forEach_eq_ok.mp hevidence⟩

lemma parseScenario_eq_ok (h : parseScenario text = .ok scenario) : ∃ state,
    Parsed (linesOf text) state ∧
      scenario = { state.scenario.withEpoch with sourceDigest := checksum64 text } ∧
      (scenario.hasPolicy = true → validatePolicy scenario.policy = .ok ()) ∧
      ∀ snapshot ∈ scenario.evidence, validateEvidence snapshot = .ok () := by
  obtain ⟨state, hstate, hfinish⟩ := bind_eq_ok.mp (mapError_eq_ok.mp h)
  exact ⟨state, parsed_of_foldlM hstate, finishParse_eq_ok hfinish⟩

end Runs

/-! ## Evidence blocks -/

/-- An observation goes to the last block. -/
def attach (line : Line) : List (Line × List Line) → List (Line × List Line)
  | [] => []
  | [block] => [(block.1, block.2 ++ [line])]
  | block :: rest => block :: attach line rest

section Blocks

variable {lines : List Line} {line : Line} {d : Directive}

lemma linesFor_block (hd : line.is d = true) (hne : d ≠ .obs) :
    linesFor .obs ((lines ++ [line]).takeWhile fun next => ! next.is .evidence) =
      linesFor .obs (lines.takeWhile fun next => ! next.is .evidence) := by
  rw [List.takeWhile_append]
  split_ifs with hall
  · rw [(List.takeWhile_prefix _).eq_of_length hall, List.takeWhile_cons]
    split_ifs
    · exact linesFor_other hd hne
    · rw [List.append_nil]
  · rfl

lemma evidenceBlocks_eq_nil :
    evidenceBlocks lines = [] ↔ ∀ line ∈ lines, line.is .evidence = false := by
  induction lines with
  | nil => simp [evidenceBlocks]
  | cons line rest ih =>
    rw [evidenceBlocks, List.forall_mem_cons, ← ih]
    cases line.is .evidence <;> simp

lemma evidenceBlocks_evidence (hd : line.is .evidence = true) :
    evidenceBlocks (lines ++ [line]) = evidenceBlocks lines ++ [(line, [])] := by
  induction lines with
  | nil => simp [evidenceBlocks, hd, linesFor]
  | cons head rest ih =>
    rw [List.cons_append, evidenceBlocks, evidenceBlocks, ih, linesFor_block hd (by decide)]
    split_ifs <;> rfl

lemma evidenceBlocks_other (hd : line.is d = true) (hevidence : d ≠ .evidence) (hobs : d ≠ .obs) :
    evidenceBlocks (lines ++ [line]) = evidenceBlocks lines := by
  induction lines with
  | nil => simp [evidenceBlocks, Line.is_eq_false hd hevidence]
  | cons head rest ih =>
    rw [List.cons_append, evidenceBlocks, evidenceBlocks, ih, linesFor_block hd hobs]

lemma evidenceBlocks_obs (hd : line.is .obs = true) :
    evidenceBlocks (lines ++ [line]) = attach line (evidenceBlocks lines) := by
  have hline : line.is .evidence = false := Line.is_eq_false hd (by decide)
  induction lines with
  | nil => simp [evidenceBlocks, hline, attach]
  | cons head rest ih =>
    rw [List.cons_append, evidenceBlocks, evidenceBlocks, ih]
    split_ifs with hhead
    · cases hrest : evidenceBlocks rest with
      | nil =>
        -- the block is open: nothing behind its line is evidence
        have hall := evidenceBlocks_eq_nil.mp hrest
        rw [List.takeWhile_eq_self_iff.mpr, List.takeWhile_eq_self_iff.mpr, linesFor_self hd]
        · rfl
        · intro next hnext
          rw [hall next hnext]
          rfl
        · intro next hnext
          rcases List.mem_append.mp hnext with hnext | hnext
          · rw [hall next hnext]
            rfl
          · rw [List.mem_singleton.mp hnext, hline]
            rfl
      | cons block blocks =>
        have hsome : ¬ (rest.takeWhile fun next => ! next.is .evidence).length = rest.length := by
          intro hlength
          have heq := (List.takeWhile_prefix _).eq_of_length hlength
          have hnil : evidenceBlocks rest = [] := by
            refine evidenceBlocks_eq_nil.mpr fun next hnext => ?_
            simpa using List.takeWhile_eq_self_iff.mp heq next hnext
          rw [hnil] at hrest
          cases hrest
        rw [List.takeWhile_append, if_neg hsome]
        rfl
    · rfl

lemma attach_ne_nil {blocks : List (Line × List Line)} (h : blocks ≠ []) :
    attach line blocks ≠ [] := by
  cases blocks with
  | nil => exact absurd rfl h
  | cons block rest => cases rest <;> exact List.cons_ne_nil _ _

/-- No observation is lost where a block is open. -/
lemma flatMap_attach {blocks : List (Line × List Line)} (h : blocks ≠ []) :
    (attach line blocks).flatMap Prod.snd = blocks.flatMap Prod.snd ++ [line] := by
  induction blocks with
  | nil => exact absurd rfl h
  | cons block rest ih =>
    cases rest with
    | nil => simp [attach]
    | cons next rest =>
      rw [attach, List.flatMap_cons, ih (List.cons_ne_nil _ _), ← List.append_assoc]
      · rfl
      · exact List.cons_ne_nil _ _

lemma forall₂_attach {blocks : List (Line × List Line)} {snapshots : List EvidenceSnapshot}
    {observation : SubjectObservation} (h : List.Forall₂ SnapshotOf blocks snapshots)
    (hline : ObservationOf line observation) :
    List.Forall₂ SnapshotOf (attach line blocks) (observe observation snapshots) := by
  induction h with
  | nil => exact .nil
  | @cons block snapshot blocks snapshots hblock hrest ih =>
    cases hrest with
    | nil =>
      refine .cons ⟨hblock.declares.congr (evidenceAttributes_get snapshot _), ?_⟩ .nil
      exact List.rel_append hblock.observations (.cons hline .nil)
    | cons hnext hrest => exact .cons hblock ih

end Blocks

/-! ## Rules for runs -/

section Rules

variable {β : Type} {lines : List Line} {state : Parsing} {d : Directive}

/-- What holds of every line that is handled holds of all lines. -/
lemma Parsed.forall_lines {P : Line → Prop} (h : Parsed lines state)
    (hline : ∀ state line state' d, line.is d = true → Handled state line d state' → P line) :
    ∀ line ∈ lines, P line := by
  induction h with
  | start => exact List.forall_mem_nil _
  | next _ hd hhandled ih =>
    exact List.forall_mem_append.mpr ⟨ih, List.forall_mem_singleton.mpr (hline _ _ _ _ hd hhandled)⟩

/-- What holds of every line of a directive that is handled holds of all its lines. -/
lemma Parsed.forall_linesFor {P : Line → Prop} (h : Parsed lines state)
    (hline : ∀ state line state', line.is d = true → Handled state line d state' → P line) :
    ∀ line ∈ linesFor d lines, P line := by
  have hall : ∀ line ∈ lines, line.is d = true → P line := by
    refine h.forall_lines fun state line state' e he hhandled hd => ?_
    obtain rfl := Line.is_unique he hd
    exact hline _ _ _ he hhandled
  exact fun line hmem => hall line (mem_linesFor.mp hmem).1 (mem_linesFor.mp hmem).2

/-- A list to which every line of a directive adds an element, and no other line does. -/
lemma Parsed.collects {R : Line → β → Prop} (elements : Parsing → List β) (h : Parsed lines state)
    (hstart : elements {} = [])
    (hself : ∀ state line state', Handled state line d state' →
      ∃ x, R line x ∧ elements state' = elements state ++ [x])
    (hother : ∀ state line e state', e ≠ d → Handled state line e state' →
      elements state' = elements state) :
    List.Forall₂ R (linesFor d lines) (elements state) := by
  induction h with
  | start =>
    rw [hstart]
    exact .nil
  | @next lines line e state state' _ he hhandled ih =>
    by_cases heq : e = d
    · subst heq
      obtain ⟨x, hx, hstate⟩ := hself _ _ _ hhandled
      rw [linesFor_self he, hstate]
      exact List.rel_append ih (.cons hx .nil)
    · rw [linesFor_other he heq, hother _ _ _ _ heq hhandled]
      exact ih

/-- What a directive establishes about its line stays as long as no other line of it comes. -/
lemma Parsed.last_wins (P : Line → Parsing → Prop) (h : Parsed lines state)
    (hself : ∀ state line state', Handled state line d state' → P line state')
    (hother : ∀ state line e state' last, e ≠ d → Handled state line e state' → P last state →
      P last state') :
    ∀ last ∈ (linesFor d lines).getLast?, P last state := by
  induction h with
  | start => exact fun last hlast => nomatch hlast
  | @next lines line e state state' _ he hhandled ih =>
    intro last hlast
    by_cases heq : e = d
    · subst heq
      rw [linesFor_self he, List.getLast?_concat] at hlast
      obtain rfl := Option.some.inj hlast
      exact hself _ _ _ hhandled
    · rw [linesFor_other he heq] at hlast
      exact hother _ _ _ _ _ heq hhandled (ih last hlast)

end Rules

/-! ## What the parser collects -/

section Collected

variable {lines : List Line} {line : Line} {state state' : Parsing} {d : Directive}

lemma Line.attributes_none (hd : line.is d = true) (hone : d = .version ∨ d = .epoch) :
    line.attributes = [] := by
  rcases hone with rfl | rfl <;> simp [Line.attributes, hd]

lemma Line.attributes_request (hd : line.is .request = true) :
    line.attributes = line.tokens.drop 1 := by
  simp [Line.attributes, hd, Line.is_eq_false hd (e := .version) (by decide),
    Line.is_eq_false hd (e := .epoch) (by decide)]

lemma Line.attributes_element (hd : line.is d = true) (hversion : d ≠ .version)
    (hepoch : d ≠ .epoch) (hrequest : d ≠ .request) : line.attributes = line.tokens.drop 3 := by
  simp [Line.attributes, Line.is_eq_false hd hversion, Line.is_eq_false hd hepoch,
    Line.is_eq_false hd hrequest]

/-- A directive other than `policy` never writes a key twice. -/
lemma Parsed.keys_nodup (h : Parsed lines state) : ∀ line ∈ lines, line.is .policy = false →
    (keysOf line.attributes).Nodup := by
  refine h.forall_lines fun state line state' d hd hhandled hpolicy => ?_
  cases hhandled with
  | version => exact Line.attributes_none hd (.inl rfl) ▸ List.nodup_nil
  | epoch => exact Line.attributes_none hd (.inr rfl) ▸ List.nodup_nil
  | policy => exact absurd (hd.symm.trans hpolicy) (by decide)
  | group _ hnodup | subject _ hnodup | evidence _ hnodup | obs _ _ hnodup =>
    rw [Line.attributes_element hd (by decide) (by decide) (by decide)]
    exact hnodup
  | request _ hnodup => exact Line.attributes_request hd ▸ hnodup

/-- A policy line writes attributes of a policy. -/
lemma Parsed.known (h : Parsed lines state) : ∀ line ∈ linesFor .policy lines,
    ∀ token ∈ line.attributes, ∃ parts ∈ cutAt 61 token,
      ∃ a ∈ policyAttributes.attributes, a.key = parts.1 := by
  refine h.forall_linesFor fun state line state' hd hhandled => ?_
  cases hhandled with
  | policy _ _ hreads =>
    rw [Line.attributes_element hd (by decide) (by decide) (by decide)]
    exact hreads.known

/-- A request line writes attributes of a request. -/
lemma Parsed.requested (h : Parsed lines state) : ∀ line ∈ linesFor .request lines,
    ∀ token ∈ line.attributes, ∃ parts ∈ cutAt 61 token,
      ∃ a ∈ requestAttributes.attributes, a.key = parts.1 := by
  refine h.forall_linesFor fun state line state' hd hhandled => ?_
  cases hhandled with
  | request hreads =>
    rw [Line.attributes_request hd]
    exact hreads.known

lemma Parsed.groups (h : Parsed lines state) :
    List.Forall₂ GroupOf (linesFor .group lines) state.scenario.policy.groups := by
  refine h.collects (fun state => state.scenario.policy.groups) rfl
    (fun state line state' hhandled => ?_) fun state line e state' hne hhandled => ?_
  · cases hhandled with
    | group hgroup => exact ⟨_, hgroup, rfl⟩
  · cases hhandled with
    | policy _ _ hreads =>
      exact congrArg (fun frame => frame.2.2.2.1) (hreads.frame policyAttributes_set)
    | group => exact absurd rfl hne
    | _ => rfl

lemma Parsed.subjects (h : Parsed lines state) :
    List.Forall₂ SubjectOf (linesFor .subject lines) state.scenario.policy.subjects := by
  refine h.collects (fun state => state.scenario.policy.subjects) rfl
    (fun state line state' hhandled => ?_) fun state line e state' hne hhandled => ?_
  · cases hhandled with
    | subject hsubject => exact ⟨_, hsubject, rfl⟩
  · cases hhandled with
    | policy _ _ hreads =>
      exact congrArg (fun frame => frame.2.2.2.2) (hreads.frame policyAttributes_set)
    | subject => exact absurd rfl hne
    | _ => rfl

/-- The snapshots are those of the evidence blocks, with their observations. -/
lemma Parsed.evidence (h : Parsed lines state) :
    List.Forall₂ SnapshotOf (evidenceBlocks lines) state.scenario.evidence := by
  induction h with
  | start => exact .nil
  | @next lines line d state state' _ hd hhandled ih =>
    cases hhandled with
    | evidence hsnapshot =>
      rw [evidenceBlocks_evidence hd]
      exact List.rel_append ih (.cons hsnapshot .nil)
    | obs _ hobservation =>
      rw [evidenceBlocks_obs hd]
      exact forall₂_attach ih hobservation
    | _ =>
      rw [evidenceBlocks_other hd (by decide) (by decide)]
      exact ih

/-- Every observation is in a block; one is open where an observation may come. -/
lemma Parsed.observed (h : Parsed lines state) :
    (evidenceBlocks lines).flatMap Prod.snd = linesFor .obs lines ∧
      (state.inEvidence = true → evidenceBlocks lines ≠ []) := by
  induction h with
  | start => exact ⟨rfl, nofun⟩
  | @next lines line d state state' _ hd hhandled ih =>
    cases hhandled with
    | evidence =>
      rw [evidenceBlocks_evidence hd, linesFor_other hd (by decide), List.flatMap_append, ih.1]
      simp
    | obs hopen =>
      rw [evidenceBlocks_obs hd, linesFor_self hd, flatMap_attach (ih.2 hopen), ih.1]
      exact ⟨rfl, fun _ => attach_ne_nil (ih.2 hopen)⟩
    | policy | request =>
      rw [evidenceBlocks_other hd (by decide) (by decide), linesFor_other hd (by decide)]
      exact ⟨ih.1, nofun⟩
    | _ =>
      rw [evidenceBlocks_other hd (by decide) (by decide), linesFor_other hd (by decide)]
      exact ih

/-- An attribute of a policy is written by policy lines alone. -/
lemma Handled.policy_get (h : Handled state line d state') (hne : d ≠ .policy) :
    ∀ a ∈ policyAttributes.attributes,
      a.get state'.scenario.policy = a.get state.scenario.policy := by
  cases h with
  | policy => exact absurd rfl hne
  | group | subject => exact policyAttributes_get _ _ _ _ _ _
  | _ => exact fun _ _ => rfl

/-- A policy attribute that is written has a value that was written for it. -/
lemma Parsed.settled (h : Parsed lines state) : ∀ line ∈ linesFor .policy lines,
    ∀ a ∈ policyAttributes.attributes, a.key ∈ keysOf line.attributes →
      ∃ other ∈ linesFor .policy lines, ∃ value ∈ valuesOf other.attributes a.key,
        a.kind.parse value = some (a.get state.scenario.policy) := by
  induction h with
  | start => exact fun _ hmem => absurd hmem List.not_mem_nil
  | @next lines line d state state' _ hd hhandled ih =>
    by_cases hpolicy : d = .policy
    · subst hpolicy
      cases hhandled with
      | @policy id generation policy _ _ hreads =>
        rw [← Line.attributes_element hd (by decide) (by decide) (by decide)] at hreads
        rw [linesFor_self hd]
        intro earlier hearlier a ha hkey
        -- the new line settles what it writes and leaves the rest
        by_cases hnew : a.key ∈ keysOf line.attributes
        · obtain ⟨value, hvalue, hparse⟩ := hreads.written ha hnew
          exact ⟨line, List.mem_append_right _ List.mem_cons_self, value, hvalue, hparse⟩
        · rcases List.mem_append.mp hearlier with hearlier | hearlier
          · obtain ⟨other, hother, value, hvalue, hparse⟩ := ih earlier hearlier a ha hkey
            refine ⟨other, List.mem_append_left _ hother, value, hvalue, ?_⟩
            rw [hreads.unwritten ha hnew, hparse]
            exact congrArg some (policyAttributes_get state.scenario.policy _ _ _ _ _ a ha).symm
          · obtain rfl := List.mem_singleton.mp hearlier
            exact absurd hkey hnew
    · rw [linesFor_other hd hpolicy]
      intro earlier hearlier a ha hkey
      rw [hhandled.policy_get hpolicy a ha]
      exact ih earlier hearlier a ha hkey

/-- The epoch is the one of the last epoch line. -/
lemma Parsed.epoch (h : Parsed lines state) : ∀ last ∈ (linesFor .epoch lines).getLast?,
    last.numberAt 1 = some state.scenario.epoch.value := by
  refine h.last_wins (fun last state => last.numberAt 1 = some state.scenario.epoch.value)
    (fun state line state' hhandled => ?_)
    fun state line e state' last hne hhandled hlast => ?_
  · cases hhandled with
    | epoch hvalue => exact hvalue
  · cases hhandled with
    | epoch => exact absurd rfl hne
    | _ => exact hlast

/-- The policy has the identity of the last policy line. -/
lemma Parsed.policy (h : Parsed lines state) : ∀ last ∈ (linesFor .policy lines).getLast?,
    state.scenario.hasPolicy = true ∧
      last.numberAt 1 = some state.scenario.policy.id.value ∧
      last.numberAt 2 = some state.scenario.policy.generation.value := by
  refine h.last_wins
    (fun last state => state.scenario.hasPolicy = true ∧
      last.numberAt 1 = some state.scenario.policy.id.value ∧
      last.numberAt 2 = some state.scenario.policy.generation.value)
    (fun state line state' hhandled => ?_)
    fun state line e state' last hne hhandled hlast => ?_
  · cases hhandled with
    | @policy id generation policy hid hgeneration hreads =>
      have hframe := hreads.frame policyAttributes_set
      have hpolicy : policy.id.value = id := congrArg (fun frame => frame.1.value) hframe
      have hversion : policy.generation.value = generation :=
        congrArg (fun frame => frame.2.1.value) hframe
      exact ⟨rfl, hid.trans (congrArg some hpolicy.symm),
        hgeneration.trans (congrArg some hversion.symm)⟩
  · cases hhandled with
    | policy => exact absurd rfl hne
    | _ => exact hlast

/-- The request is the one of the last request line. -/
lemma Parsed.request (h : Parsed lines state) : ∀ last ∈ (linesFor .request lines).getLast?,
    state.scenario.hasRequest = true ∧
      Reads requestAttributes (last.tokens.drop 1) {} state.scenario.request ∧
      (keysOf (last.tokens.drop 1)).Nodup := by
  refine h.last_wins
    (fun last state => state.scenario.hasRequest = true ∧
      Reads requestAttributes (last.tokens.drop 1) {} state.scenario.request ∧
      (keysOf (last.tokens.drop 1)).Nodup)
    (fun state line state' hhandled => ?_)
    fun state line e state' last hne hhandled hlast => ?_
  · cases hhandled with
    | request hreads hnodup => exact ⟨rfl, hreads, hnodup⟩
  · cases hhandled with
    | request => exact absurd rfl hne
    | _ => exact hlast

/-- No directive writes the epoch of the policy. -/
lemma Parsed.policy_epoch (h : Parsed lines state) : state.scenario.policy.epoch = {} := by
  induction h with
  | start => rfl
  | next _ _ hhandled ih =>
    cases hhandled with
    | policy _ _ hreads =>
      exact (congrArg (fun frame => frame.2.2.1) (hreads.frame policyAttributes_set)).trans ih
    | _ => exact ih

end Collected

/-! ## Nothing is lost -/

section Strictness

variable {lines : List Line} {state : Parsing} {scenario : Scenario} {text : ByteBuffer}

/-- The policy takes the epoch of the document over; nothing else changes. -/
lemma Scenario.withEpoch_eq (h : scenario.policy.epoch = {}) : ∃ epoch,
    scenario.withEpoch = { scenario with policy := { scenario.policy with epoch := epoch } } := by
  unfold Scenario.withEpoch
  by_cases hpolicy : scenario.hasPolicy = true
  · rw [if_pos hpolicy]
    by_cases hvalid : scenario.epoch.valid
    · rw [if_pos hvalid]
      exact ⟨scenario.epoch, rfl⟩
    · -- the document declares no epoch, and neither does the policy
      have hepoch : scenario.epoch = scenario.policy.epoch := by
        rw [h]
        exact congrArg Generation.mk (not_not.mp hvalid)
      rw [if_neg hvalid, ← hepoch]
      exact ⟨scenario.epoch, rfl⟩
  · rw [if_neg hpolicy]
    exact ⟨scenario.policy.epoch, rfl⟩

/-- The last request line says what the request is. -/
lemma Parsed.requests_eq (h : Parsed lines state) {last : Line}
    (hlast : last ∈ (linesFor .request lines).getLast?) {a : Attribute EvaluationRequest}
    (ha : a ∈ requestAttributes.attributes) :
    last.requests a = some (a.get state.scenario.request) := by
  obtain ⟨-, hreads, hnodup⟩ := h.request last hlast
  rw [← Line.attributes_request (mem_linesFor.mp (List.mem_of_getLast? hlast)).2] at hreads hnodup
  unfold Line.requests
  split
  · next hnone =>
    rw [List.head?_eq_none_iff] at hnone
    rw [hreads.unwritten ha]
    intro hkey
    obtain ⟨value, hvalue⟩ := mem_keysOf.mp hkey
    rw [hnone] at hvalue
    exact List.not_mem_nil hvalue
  · next value hvalue => exact (hreads.keeps hnodup).parse ha (List.mem_of_mem_head? hvalue)

lemma exists_last {line : Line} (h : line ∈ lines) : ∃ last ∈ lines.getLast?, last ∈ lines := by
  have hne : lines ≠ [] := List.ne_nil_of_mem h
  exact ⟨lines.getLast hne, List.getLast?_eq_some_getLast hne, List.getLast_mem hne⟩

lemma Line.attributes_policy {line : Line} (hline : line ∈ linesFor .policy lines) :
    line.attributes = line.tokens.drop 3 :=
  Line.attributes_element (mem_linesFor.mp hline).2 (by decide) (by decide) (by decide)

/-- A value that is lost is one that another line writes over. -/
lemma Parsed.writesOnce (h : Parsed lines state) (hloses : LosesNothing lines scenario)
    (hrequest : scenario.request = state.scenario.request) : WritesOnce lines where
  keys := fun line hline => hloses.keys_once line (mem_linesFor.mp hline).1
  labels := hloses.labels
  epochs := fun line hline other hother =>
    (hloses.epochs line hline).trans (hloses.epochs other hother).symm
  identities := by
    intro line hline other hother
    obtain ⟨-, hdeclares⟩ := hloses.policies line hline
    obtain ⟨-, hdeclares'⟩ := hloses.policies other hother
    exact ⟨hdeclares.id.trans hdeclares'.id.symm,
      hdeclares.generation.trans hdeclares'.generation.symm⟩
  policies := by
    intro line hline other hother a ha value hvalue another hanother
    rw [Line.attributes_policy hline] at hvalue
    rw [Line.attributes_policy hother] at hanother
    rw [(hloses.policies line hline).2.attributes.parse ha hvalue,
      (hloses.policies other hother).2.attributes.parse ha hanother]
  requests := by
    intro line hline last hlast a ha value hvalue
    rw [h.requests_eq hlast ha, ← hrequest]
    exact (hloses.requests line hline).2.parse ha hvalue

/-- Where no line writes over another one, every value that is written is kept. -/
lemma Parsed.losesNothing (h : Parsed lines state) (honce : WritesOnce lines) {epoch : FabricEpoch}
    {digest : UInt64}
    (hscenario : scenario = { state.scenario with
      policy := { state.scenario.policy with epoch := epoch }
      sourceDigest := digest })
    (hpolicy : scenario.hasPolicy = true → validatePolicy scenario.policy = .ok ())
    (hevidence : ∀ snapshot ∈ scenario.evidence, validateEvidence snapshot = .ok ()) :
    LosesNothing lines scenario := by
  subst hscenario
  refine ⟨fun line hline => ?_, fun line hline => ?_, fun line hline => ?_, h.groups, h.subjects,
    h.evidence, h.observed.1, fun line hline => ?_, honce.labels, hpolicy, hevidence⟩
  · -- every other directive refuses a repeated key
    cases hpolicy : line.is .policy with
    | false => exact h.keys_nodup line hline hpolicy
    | true => exact honce.keys line (mem_linesFor.mpr ⟨hline, hpolicy⟩)
  · obtain ⟨last, hlast, hmem⟩ := exists_last hline
    rw [honce.epochs line hline last hmem]
    exact h.epoch last hlast
  · obtain ⟨last, hlast, hmem⟩ := exists_last hline
    obtain ⟨hhas, hid, hgeneration⟩ := h.policy last hlast
    obtain ⟨hsameId, hsameGeneration⟩ := honce.identities line hline last hmem
    refine ⟨hhas, hsameId.trans hid, hsameGeneration.trans hgeneration, ?_⟩
    refine Keeps.congr ?_ (policyAttributes_get state.scenario.policy _ _ _ _ _)
    rw [← Line.attributes_policy hline]
    refine keeps_of_parse (h.known line hline) fun a ha value hvalue => ?_
    -- some line has settled the value, and all lines agree with it
    obtain ⟨other, hother, settled, hsettled, hparse⟩ :=
      h.settled line hline a ha (mem_keysOf.mpr ⟨value, hvalue⟩)
    rw [honce.policies line hline other hother a ha value hvalue settled hsettled]
    exact hparse
  · obtain ⟨last, hlast, -⟩ := exists_last hline
    refine ⟨(h.request last hlast).1, ?_⟩
    refine keeps_of_parse (h.requested line hline) fun a ha value hvalue => ?_
    rw [honce.requests line hline last hlast a ha value hvalue]
    exact h.requests_eq hlast ha

/-- The parser loses nothing exactly where no declaration overwrites an earlier one. -/
theorem losesNothing_iff (h : parseScenario text = .ok scenario) :
    LosesNothing (linesOf text) scenario ↔ WritesOnce (linesOf text) := by
  obtain ⟨state, hparsed, hscenario, hpolicy, hevidence⟩ := parseScenario_eq_ok h
  obtain ⟨epoch, hepoch⟩ := Scenario.withEpoch_eq hparsed.policy_epoch
  rw [hepoch] at hscenario
  constructor
  · exact fun hloses => hparsed.writesOnce hloses (by rw [hscenario])
  · exact fun honce => hparsed.losesNothing honce hscenario hpolicy hevidence

end Strictness

/-- A policy, evidence and a request, each declared once. -/
def documentText : ByteBuffer := ascii
  "version 1
epoch 1
policy 1 1 fair_band=0
group 1 1 weight=1 label=all of them
subject 1 1 group=1 weight=1
evidence 5 1 window=9 window_gen=1 epoch=1
obs 1 1 served=100
request policy=1:1 window=9:1 # evidence is left open
"

theorem losesNothing_iff_document : ∃ scenario, parseScenario documentText = .ok scenario ∧
    (LosesNothing (linesOf documentText) scenario ↔ WritesOnce (linesOf documentText)) := by
  have hrun : ((parseScenario documentText).toOption.any fun scenario =>
      scenario.hasPolicy && scenario.hasRequest) = true := by
    decide +kernel
  obtain ⟨scenario, hscenario, -⟩ := exists_ok_of_any hrun
  exact ⟨scenario, hscenario, losesNothing_iff hscenario⟩

/-- A policy line that writes `fair_band` twice. -/
def repeatedKeyText : ByteBuffer := ascii
  "version 1
epoch 1
policy 1 1 fair_band=0 fair_band=1
group 1 1
subject 1 1 group=1
"

/-- The text is accepted, and the first value is lost. -/
theorem not_losesNothing : ¬ ∀ text scenario, parseScenario text = .ok scenario →
    LosesNothing (linesOf text) scenario := by
  intro hstrict
  have hrun : ((parseScenario repeatedKeyText).toOption.any fun scenario =>
      scenario.policy.fairBandUnits = 1) = true := by
    decide +kernel
  obtain ⟨scenario, hscenario, -⟩ := exists_ok_of_any hrun
  have hrepeated : ∃ line ∈ linesOf repeatedKeyText, ¬ (keysOf line.attributes).Nodup := by
    decide +kernel
  obtain ⟨line, hline, hkeys⟩ := hrepeated
  exact hkeys ((hstrict _ _ hscenario).keys_once line hline)

end FairnessGovernor
