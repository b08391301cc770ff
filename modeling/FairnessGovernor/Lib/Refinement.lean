/-
# Operations carried out by programs

A program over one interface runs on another one when each of its operations is carried out by a
program there.  `Implements` is what has to be shown of one operation at a time: it may only end,
and be interrupted, as the operation itself may on the device above.  `Implements.refines` is the
same of a whole program, so that what was proved of it above holds below.
-/
import FairnessGovernor.Lib.Program

namespace Program

variable {Op Op' : Type} {Resp : Op → Type} {Resp' : Op' → Type} {α β σ σ' : Type}

/-- The program with each of its operations carried out by a program. -/
def Prog.interpret (impl : (op : Op) → Prog Op' Resp' (Resp op)) :
    Prog Op Resp α → Prog Op' Resp' α
  | .done a => .done a
  | .perform op next => impl op >>= fun r => (next r).interpret impl

section Interpret

variable (impl : (op : Op) → Prog Op' Resp' (Resp op))

@[simp] lemma interpret_done (a : α) :
    (Prog.done a : Prog Op Resp α).interpret impl = Prog.done a := rfl

end Interpret

namespace Crash

/-- A program may be interrupted before its first operation. -/
lemma Crashes.here {dev : Device Op Resp σ} (p : Prog Op Resp α) (s : σ) : Crashes dev p s s := by
  cases p with
  | done a => rfl
  | perform op next => exact .inl rfl

/-- A handler that does what the device may do runs a program to an end. -/
lemma ends_run {dev : Device Op Resp σ} {handle : (op : Op) → σ → Resp op × σ}
    (h : ∀ op s, dev.completes op s (handle op s).1 (handle op s).2) (p : Prog Op Resp α) (s : σ) :
    Ends dev p s (run handle p s).1 (run handle p s).2 := by
  induction p generalizing s with
  | done a => exact ⟨rfl, rfl⟩
  | perform op next ih => exact ⟨_, _, h op s, ih _ _⟩

/-- The programs carry out the allowed operations of the device above on the one below.  `rel`
relates the states of the two between two operations, and `reboots` says which states above are
left of a state below in which a crash happened. -/
structure Implements (low : Device Op' Resp' σ') (high : Device Op Resp σ)
    (impl : (op : Op) → Prog Op' Resp' (Resp op)) (allowed : Op → Prop) (rel : σ' → σ → Prop)
    (reboots : σ' → σ → Prop) : Prop where
  settled : ∀ s' s t, rel s' s → reboots s' t → t = s
  carries : ∀ op, allowed op → ∀ s, Triple low (rel · s) (impl op)
    (fun r t' => ∃ t, rel t' t ∧ high.completes op s r t)
    fun t' => ∀ t, reboots t' t → t = s ∨ high.breaks op s t ∨ ∃ r, high.completes op s r t

variable {low : Device Op' Resp' σ'} {high : Device Op Resp σ}
  {impl : (op : Op) → Prog Op' Resp' (Resp op)} {allowed : Op → Prop} {rel : σ' → σ → Prop}
  {reboots : σ' → σ → Prop}

/-- A program ends below as it may end above, and an interruption below leaves what one above may
leave. -/
theorem Implements.refines (h : Implements low high impl allowed rel reboots)
    {p : Prog Op Resp α} (hp : Only allowed p) {s' : σ'} {s : σ} (hrel : rel s' s) :
    (∀ a t', Ends low (p.interpret impl) s' a t' → ∃ t, rel t' t ∧ Ends high p s a t) ∧
      ∀ t', Crashes low (p.interpret impl) s' t' → ∀ t, reboots t' t → Crashes high p s t := by
  induction p generalizing s' s with
  | done b =>
    constructor
    · rintro a t' ⟨rfl, rfl⟩
      exact ⟨s, hrel, rfl, rfl⟩
    · rintro t' rfl t hreboots
      exact (h.settled _ _ _ hrel hreboots).symm
  | perform op next ih =>
    obtain ⟨hop, hnext⟩ := hp
    obtain ⟨hends, hcrashes⟩ := h.carries op hop s s' hrel
    constructor
    · intro a t' ht
      obtain ⟨r, mid', hmid, ht⟩ := ends_bind.mp ht
      obtain ⟨mid, hrel', hcompletes⟩ := hends r mid' hmid
      obtain ⟨t, hrel'', hend⟩ := (ih r (hnext r) hrel').1 a t' ht
      exact ⟨t, hrel'', r, mid, hcompletes, hend⟩
    · intro t' ht t hreboots
      rcases crashes_bind ht with ht | ⟨r, mid', hmid, ht⟩
      · -- the operation itself was interrupted
        rcases hcrashes t' ht t hreboots with rfl | hbreaks | ⟨r, hcompletes⟩
        · exact Crashes.here _ _
        · exact .inr (.inl hbreaks)
        · exact .inr (.inr ⟨r, t, hcompletes, Crashes.here _ _⟩)
      · obtain ⟨mid, hrel', hcompletes⟩ := hends r mid' hmid
        exact .inr (.inr ⟨r, mid, hcompletes, (ih r (hnext r) hrel').2 t' ht t hreboots⟩)

/-- A triple above is a triple below. -/
theorem Implements.triple (h : Implements low high impl allowed rel reboots)
    {p : Prog Op Resp α} (hp : Only allowed p) {P : σ → Prop} {Q : α → σ → Prop} {C : σ → Prop}
    (hp' : Triple high P p Q C) :
    Triple low (fun s' => ∃ s, rel s' s ∧ P s) (p.interpret impl)
      (fun a t' => ∃ t, rel t' t ∧ Q a t) fun t' => ∀ t, reboots t' t → C t := by
  rintro s' ⟨s, hrel, hs⟩
  obtain ⟨hends, hcrashes⟩ := h.refines hp hrel
  obtain ⟨hends', hcrashes'⟩ := hp' s hs
  constructor
  · intro a t' ht
    obtain ⟨t, hrel', hend⟩ := hends a t' ht
    exact ⟨t, hrel', hends' a t hend⟩
  · intro t' ht t hreboots
    exact hcrashes' t (hcrashes t' ht t hreboots)

end Crash

end Program
