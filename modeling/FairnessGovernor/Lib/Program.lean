/-
# Programs over an interface, and crashes

A program over an interface of operations ends in a value or performs an operation and goes on
with its response.  The same program is read in three ways: `Returns`, when nothing is known of
the responses; `run`, against a deterministic handler; and `Ends` and `Crashes`, on a device
whose operations may be interrupted.  `Crash.Triple` is the Hoare triple of the last reading:
besides the postcondition it has a crash condition, which every interruption must leave.
-/
import Mathlib.Tactic

namespace Program

/-- A program over the operations `Op`, whose responses are the types `Resp`. -/
inductive Prog (Op : Type) (Resp : Op → Type) (α : Type) : Type
  | done (a : α)
  | perform (op : Op) (next : Resp op → Prog Op Resp α)

variable {Op : Type} {Resp : Op → Type} {α β σ : Type}

namespace Prog

/-- Going on with the value of a program. -/
def bind : Prog Op Resp α → (α → Prog Op Resp β) → Prog Op Resp β
  | done a, f => f a
  | perform op next, f => perform op fun r => (next r).bind f

instance : Monad (Prog Op Resp) where
  pure := done
  bind := bind

/-- The program of a single operation. -/
def call (op : Op) : Prog Op Resp (Resp op) := perform op done

@[simp] lemma done_bind (a : α) (f : α → Prog Op Resp β) :
    ((done a : Prog Op Resp α) >>= f) = f a := rfl

@[simp] lemma pure_bind (a : α) (f : α → Prog Op Resp β) :
    ((pure a : Prog Op Resp α) >>= f) = f a := rfl

@[simp] lemma call_bind (op : Op) (f : Resp op → Prog Op Resp β) :
    (call op >>= f) = perform op f := rfl

lemma bind_pure (p : Prog Op Resp α) : (p >>= pure) = p := by
  induction p with
  | done a => rfl
  | perform op next ih => exact congrArg (perform op) (funext ih)

lemma bind_assoc {γ : Type} (p : Prog Op Resp α) (f : α → Prog Op Resp β)
    (g : β → Prog Op Resp γ) : (p >>= f >>= g) = p >>= fun a => f a >>= g := by
  induction p with
  | done a => rfl
  | perform op next ih => exact congrArg (perform op) (funext ih)

instance : LawfulMonad (Prog Op Resp) :=
  LawfulMonad.mk' _ bind_pure (fun _ _ => rfl) bind_assoc

end Prog

open Prog

/-! ## Arbitrary responses -/

/-- The program may return `b`, whatever the operations respond. -/
def Returns : Prog Op Resp α → α → Prop
  | done a, b => a = b
  | perform _ next, b => ∃ r, Returns (next r) b

@[simp] lemma returns_pure {a b : α} :
    Returns (pure a : Prog Op Resp α) b ↔ a = b := Iff.rfl

@[simp] lemma returns_bind {p : Prog Op Resp α} {f : α → Prog Op Resp β} {b : β} :
    Returns (p >>= f) b ↔ ∃ a, Returns p a ∧ Returns (f a) b := by
  induction p with
  | done a =>
    constructor
    · intro h
      exact ⟨a, rfl, h⟩
    · rintro ⟨_, rfl, h⟩
      exact h
  | perform op next ih =>
    constructor
    · rintro ⟨r, hr⟩
      obtain ⟨a, ha, hf⟩ := (ih r).mp hr
      exact ⟨a, ⟨r, ha⟩, hf⟩
    · rintro ⟨a, ⟨r, ha⟩, hf⟩
      exact ⟨r, (ih r).mpr ⟨a, ha, hf⟩⟩

/-! ## Allowed operations -/

/-- Every operation the program may perform is allowed. -/
def Only (allowed : Op → Prop) : Prog Op Resp α → Prop
  | done _ => True
  | perform op next => allowed op ∧ ∀ r, Only allowed (next r)

section Only

variable {allowed : Op → Prop} {ε : Type}

lemma only_pure (a : α) : Only allowed (pure a : Prog Op Resp α) := trivial

lemma only_call {op : Op} (h : allowed op) : Only allowed (call op : Prog Op Resp (Resp op)) :=
  ⟨h, fun _ => trivial⟩

lemma Only.bind {p : Prog Op Resp α} {f : α → Prog Op Resp β} (hp : Only allowed p)
    (hf : ∀ a, Only allowed (f a)) : Only allowed (p >>= f) := by
  induction p with
  | done a => exact hf a
  | perform op next ih => exact ⟨hp.1, fun r => ih r (hp.2 r)⟩

/-- Only what the first program may return goes into the second. -/
lemma Only.bind_returns {p : Prog Op Resp α} {f : α → Prog Op Resp β} (hp : Only allowed p)
    (hf : ∀ a, Returns p a → Only allowed (f a)) : Only allowed (p >>= f) := by
  induction p with
  | done a => exact hf a rfl
  | perform op next ih => exact ⟨hp.1, fun r => ih r (hp.2 r) fun a ha => hf a ⟨r, ha⟩⟩

/-- A program that may fail. -/
lemma Only.bind_except {p : ExceptT ε (Prog Op Resp) α} {f : α → ExceptT ε (Prog Op Resp) β}
    (hp : Only allowed p.run) (hf : ∀ a, Only allowed (f a).run) :
    Only allowed (p >>= f).run := by
  refine Only.bind hp fun r => ?_
  cases r with
  | ok a => exact hf a
  | error e => exact only_pure _

lemma Only.lift {p : Prog Op Resp α} (hp : Only allowed p) :
    Only allowed (liftM p : ExceptT ε (Prog Op Resp) α).run :=
  Only.bind hp fun _ => only_pure _

end Only

/-! ## A deterministic handler -/

/-- Runs a program against a handler of its operations. -/
def run (handle : (op : Op) → σ → Resp op × σ) : Prog Op Resp α → σ → α × σ
  | done a, s => (a, s)
  | perform op next, s => run handle (next (handle op s).1) (handle op s).2

section Run

variable {handle : (op : Op) → σ → Resp op × σ}

@[simp] lemma run_pure (a : α) (s : σ) :
    run handle (pure a : Prog Op Resp α) s = (a, s) := rfl

@[simp] lemma run_perform (op : Op) (next : Resp op → Prog Op Resp α) (s : σ) :
    run handle (perform op next) s = run handle (next (handle op s).1) (handle op s).2 := rfl

lemma run_bind (p : Prog Op Resp α) (f : α → Prog Op Resp β) (s : σ) :
    run handle (p >>= f) s = run handle (f (run handle p s).1) (run handle p s).2 := by
  induction p generalizing s with
  | done a => rfl
  | perform op next ih => exact ih _ _

/-- A program that may fail goes on where its first part succeeds. -/
lemma run_bind_except {ε : Type} (p : ExceptT ε (Prog Op Resp) α)
    (f : α → ExceptT ε (Prog Op Resp) β) (s : σ) :
    run handle (p >>= f).run s = match run handle p.run s with
      | (.ok a, t) => run handle (f a).run t
      | (.error e, t) => (.error e, t) := by
  refine (run_bind (p.run) _ s).trans ?_
  rcases run handle p.run s with ⟨a | a, t⟩
  · rfl
  · rfl

/-- The first part of a program that may fail succeeds. -/
lemma run_bind_ok {ε : Type} {p : ExceptT ε (Prog Op Resp) α} {f : α → ExceptT ε (Prog Op Resp) β}
    {a : α} {s t : σ} (h : run handle p.run s = (.ok a, t)) :
    run handle (p >>= f).run s = run handle (f a).run t := by
  rw [run_bind_except, h]

/-- The first part of a program that may fail does. -/
lemma run_bind_error {ε : Type} {p : ExceptT ε (Prog Op Resp) α}
    {f : α → ExceptT ε (Prog Op Resp) β} {e : ε} {s t : σ}
    (h : run handle p.run s = (.error e, t)) :
    run handle (p >>= f).run s = (.error e, t) := by
  rw [run_bind_except, h]

/-- A program that succeeds has succeeded in both of its parts. -/
lemma run_bind_eq_ok {ε : Type} {p : ExceptT ε (Prog Op Resp) α}
    {f : α → ExceptT ε (Prog Op Resp) β} {b : β} {s u : σ} :
    run handle (p >>= f).run s = (.ok b, u) ↔
      ∃ a t, run handle p.run s = (.ok a, t) ∧ run handle (f a).run t = (.ok b, u) := by
  constructor
  · intro h
    rw [run_bind_except] at h
    split at h
    · exact ⟨_, _, ‹_›, h⟩
    · cases h
  · rintro ⟨a, t, hp, hf⟩
    rw [run_bind_ok hp, hf]

/-- A program that does not fail, among those that may. -/
lemma run_lift {ε : Type} (p : Prog Op Resp α) (s : σ) :
    run handle (liftM p : ExceptT ε (Prog Op Resp) α).run s =
      (.ok (run handle p s).1, (run handle p s).2) := run_bind p _ s

/-- What every allowed operation keeps, a run of the program keeps. -/
lemma Only.run_keeps {allowed : Op → Prop} {I : σ → Prop} {p : Prog Op Resp α}
    (h : Only allowed p) (hstep : ∀ op, allowed op → ∀ s, I s → I (handle op s).2) {s : σ}
    (hs : I s) : I (run handle p s).2 := by
  induction p generalizing s with
  | done a => exact hs
  | perform op next ih => exact ih _ (h.2 _) (hstep op h.1 s hs)

/-- What a run returns, the program may return. -/
lemma returns_run (p : Prog Op Resp α) (s : σ) : Returns p (run handle p s).1 := by
  induction p generalizing s with
  | done a => rfl
  | perform op next ih => exact ⟨_, ih _ _⟩

end Run

/-! ## Crashes -/

namespace Crash

/-- A device: how an operation that completes responds, and what an operation that is
interrupted may leave behind. -/
structure Device (Op : Type) (Resp : Op → Type) (σ : Type) where
  completes : (op : Op) → σ → Resp op → σ → Prop
  breaks : Op → σ → σ → Prop

variable {dev : Device Op Resp σ}

/-- The program ends with `b` in `t`. -/
def Ends (dev : Device Op Resp σ) : Prog Op Resp α → σ → α → σ → Prop
  | done a, s, b, t => a = b ∧ s = t
  | perform op next, s, b, t => ∃ r s', dev.completes op s r s' ∧ Ends dev (next r) s' b t

/-- A crash interrupts the program, before, in or after one of its operations, and leaves
`t`. -/
def Crashes (dev : Device Op Resp σ) : Prog Op Resp α → σ → σ → Prop
  | done _, s, t => s = t
  | perform op next, s, t => s = t ∨ dev.breaks op s t ∨
      ∃ r s', dev.completes op s r s' ∧ Crashes dev (next r) s' t

/-- From `P` the program ends in `Q`, and every crash leaves `C`. -/
def Triple (dev : Device Op Resp σ) (P : σ → Prop) (p : Prog Op Resp α) (Q : α → σ → Prop)
    (C : σ → Prop) : Prop :=
  ∀ s, P s → (∀ a t, Ends dev p s a t → Q a t) ∧ ∀ t, Crashes dev p s t → C t

section Rules

variable {P P' : σ → Prop} {Q Q' : α → σ → Prop} {C : σ → Prop}

lemma Triple.done {a : α} (hQ : ∀ s, P s → Q a s) (hC : ∀ s, P s → C s) :
    Triple dev P (pure a : Prog Op Resp α) Q C := by
  intro s hs
  constructor
  · rintro _ _ ⟨rfl, rfl⟩
    exact hQ s hs
  · rintro _ rfl
    exact hC s hs

/-- One operation: what it leaves behind when it is interrupted, and what follows each of its
responses. -/
lemma Triple.perform {op : Op} {next : Resp op → Prog Op Resp α} (hC : ∀ s, P s → C s)
    (hbreaks : ∀ s t, P s → dev.breaks op s t → C t)
    (hnext : ∀ r, Triple dev (fun s' => ∃ s, P s ∧ dev.completes op s r s') (next r) Q C) :
    Triple dev P (Prog.perform op next) Q C := by
  intro s hs
  constructor
  · rintro a t ⟨r, s', hcompletes, hends⟩
    exact (hnext r s' ⟨s, hs, hcompletes⟩).1 a t hends
  · rintro t (rfl | hbreak | ⟨r, s', hcompletes, hcrashes⟩)
    · exact hC s hs
    · exact hbreaks s t hs hbreak
    · exact (hnext r s' ⟨s, hs, hcompletes⟩).2 t hcrashes

lemma Triple.conseq {C' : σ → Prop} {p : Prog Op Resp α} (h : Triple dev P p Q C)
    (hP : ∀ s, P' s → P s) (hQ : ∀ a t, Q a t → Q' a t) (hC : ∀ t, C t → C' t) :
    Triple dev P' p Q' C' := by
  intro s hs
  obtain ⟨hends, hcrashes⟩ := h s (hP s hs)
  exact ⟨fun a t hend => hQ a t (hends a t hend), fun t hcrash => hC t (hcrashes t hcrash)⟩

/-- A fact that does not depend on the state. -/
lemma Triple.assume {a : Prop} {p : Prog Op Resp α} (h : a → Triple dev P p Q C) :
    Triple dev (fun s => P s ∧ a) p Q C :=
  fun s hs => h hs.2 s hs.1

lemma ends_bind {p : Prog Op Resp α} {f : α → Prog Op Resp β} {s t : σ} {b : β} :
    Ends dev (p >>= f) s b t ↔ ∃ a s', Ends dev p s a s' ∧ Ends dev (f a) s' b t := by
  induction p generalizing s with
  | done a =>
    constructor
    · intro h
      exact ⟨a, s, ⟨rfl, rfl⟩, h⟩
    · rintro ⟨_, _, ⟨rfl, rfl⟩, h⟩
      exact h
  | perform op next ih =>
    constructor
    · rintro ⟨r, s', hc, h⟩
      obtain ⟨a, s'', ha, hf⟩ := (ih r).mp h
      exact ⟨a, s'', ⟨r, s', hc, ha⟩, hf⟩
    · rintro ⟨a, s'', ⟨r, s', hc, ha⟩, hf⟩
      exact ⟨r, s', hc, (ih r).mpr ⟨a, s'', ha, hf⟩⟩

/-- What a program ends with, it may return. -/
lemma Ends.returns {p : Prog Op Resp α} {s t : σ} {a : α} (h : Ends dev p s a t) :
    Returns p a := by
  induction p generalizing s with
  | done b => exact h.1
  | perform op next ih =>
    obtain ⟨r, s', -, h⟩ := h
    exact ⟨r, ih r h⟩

/-- A program that ended has not crashed after its last operation. -/
lemma Crashes.of_ends {p : Prog Op Resp α} {s t : σ} {a : α} (h : Ends dev p s a t) :
    Crashes dev p s t := by
  induction p generalizing s with
  | done a => exact h.2
  | perform op next ih =>
    obtain ⟨r, s', hc, h⟩ := h
    exact .inr (.inr ⟨r, s', hc, ih r h⟩)

lemma crashes_bind {p : Prog Op Resp α} {f : α → Prog Op Resp β} {s t : σ}
    (h : Crashes dev (p >>= f) s t) :
    Crashes dev p s t ∨ ∃ a s', Ends dev p s a s' ∧ Crashes dev (f a) s' t := by
  induction p generalizing s with
  | done a => exact .inr ⟨a, s, ⟨rfl, rfl⟩, h⟩
  | perform op next ih =>
    rcases h with rfl | hbreak | ⟨r, s', hc, h⟩
    · exact .inl (.inl rfl)
    · exact .inl (.inr (.inl hbreak))
    · rcases ih r h with h | ⟨a, s'', ha, hf⟩
      · exact .inl (.inr (.inr ⟨r, s', hc, h⟩))
      · exact .inr ⟨a, s'', ⟨r, s', hc, ha⟩, hf⟩

/-- Sequencing: the postcondition of the first program is the precondition of the second. -/
lemma Triple.bind {R : β → σ → Prop} {p : Prog Op Resp α} {f : α → Prog Op Resp β}
    (hp : Triple dev P p Q C) (hf : ∀ a, Triple dev (Q a) (f a) R C) :
    Triple dev P (p >>= f) R C := by
  intro s hs
  constructor
  · intro b t h
    obtain ⟨a, s', ha, hb⟩ := ends_bind.mp h
    exact (hf a s' ((hp s hs).1 a s' ha)).1 b t hb
  · intro t h
    rcases crashes_bind h with h | ⟨a, s', ha, hb⟩
    · exact (hp s hs).2 t h
    · exact (hf a s' ((hp s hs).1 a s' ha)).2 t hb

/-- What every allowed operation keeps, completed or interrupted, the program keeps. -/
lemma Only.triple {allowed : Op → Prop} {I : σ → Prop} {p : Prog Op Resp α}
    (h : Only allowed p)
    (hcompletes : ∀ op, allowed op → ∀ s r t, I s → dev.completes op s r t → I t)
    (hbreaks : ∀ op, allowed op → ∀ s t, I s → dev.breaks op s t → I t) :
    Triple dev I p (fun _ => I) I := by
  induction p with
  | done a => exact Triple.done (fun _ hs => hs) fun _ hs => hs
  | perform op next ih =>
    refine Triple.perform (fun _ hs => hs) (hbreaks op h.1) fun r => ?_
    refine (ih r (h.2 r)).conseq ?_ (fun _ _ ht => ht) fun _ ht => ht
    rintro t ⟨s, hs, hstep⟩
    exact hcompletes op h.1 s r t hs hstep

end Rules

/-! ## Programs that may fail -/

/-- `Q` of a value, `E` of an error. -/
def Either {ε : Type} (Q : α → σ → Prop) (E : ε → σ → Prop) : Except ε α → σ → Prop
  | .ok a => Q a
  | .error e => E e

/-- The program succeeds with `Q`, or it fails with `E`; a crash leaves `C`. -/
def Attempts {ε : Type} (dev : Device Op Resp σ) (P : σ → Prop) (p : ExceptT ε (Prog Op Resp) α)
    (Q : α → σ → Prop) (E C : σ → Prop) : Prop :=
  Triple dev P p (Either Q fun _ => E) C

section Attempts

variable {ε : Type} {P P' : σ → Prop} {Q Q' : α → σ → Prop} {E E' C C' : σ → Prop}

/-- A computation that touches nothing. -/
lemma Attempts.pure {x : Except ε α} (hQ : ∀ a, x = .ok a → ∀ s, P s → Q a s)
    (hE : ∀ s, P s → E s) (hC : ∀ s, P s → C s) :
    Attempts dev P (ExceptT.mk (Pure.pure x)) Q E C := by
  refine Triple.done (fun s hs => ?_) hC
  cases x with
  | ok a => exact hQ a rfl s hs
  | error e => exact hE s hs

lemma Attempts.bind {R : β → σ → Prop} {p : ExceptT ε (Prog Op Resp) α}
    {f : α → ExceptT ε (Prog Op Resp) β} (hp : Attempts dev P p Q E C) (hE : ∀ s, E s → C s)
    (hf : ∀ a, Attempts dev (Q a) (f a) R E C) : Attempts dev P (p >>= f) R E C := by
  refine Triple.bind hp fun r => ?_
  cases r with
  | ok a => exact hf a
  | error e => exact Triple.done (fun _ h => h) hE

lemma Attempts.conseq {p : ExceptT ε (Prog Op Resp) α} (h : Attempts dev P p Q E C)
    (hP : ∀ s, P' s → P s) (hQ : ∀ a s, Q a s → Q' a s) (hE : ∀ s, E s → E' s)
    (hC : ∀ s, C s → C' s) : Attempts dev P' p Q' E' C' := by
  refine Triple.conseq h hP (fun r s hr => ?_) hC
  cases r with
  | ok a => exact hQ a s hr
  | error e => exact hE s hr

/-- A program that may fail ends in its second part, or with the error of its first. -/
lemma ends_bind_except {p : ExceptT ε (Prog Op Resp) α} {f : α → ExceptT ε (Prog Op Resp) β}
    {s t : σ} {r : Except ε β} : Ends dev (p >>= f).run s r t ↔
      (∃ a s', Ends dev p.run s (.ok a) s' ∧ Ends dev (f a).run s' r t) ∨
        ∃ e, Ends dev p.run s (.error e) t ∧ r = .error e := by
  constructor
  · intro h
    obtain ⟨x, s', hx, h⟩ := ends_bind.mp h
    cases x with
    | ok a => exact .inl ⟨a, s', hx, h⟩
    | error e =>
      obtain ⟨rfl, rfl⟩ := h
      exact .inr ⟨e, hx, rfl⟩
  · rintro (⟨a, s', ha, hf⟩ | ⟨e, he, rfl⟩)
    · exact ends_bind.mpr ⟨.ok a, s', ha, hf⟩
    · exact ends_bind.mpr ⟨.error e, t, he, rfl, rfl⟩

lemma crashes_bind_except {p : ExceptT ε (Prog Op Resp) α} {f : α → ExceptT ε (Prog Op Resp) β}
    {s t : σ} (h : Crashes dev (p >>= f).run s t) :
    Crashes dev p.run s t ∨ ∃ a s', Ends dev p.run s (.ok a) s' ∧ Crashes dev (f a).run s' t := by
  rcases crashes_bind h with h | ⟨x, s', hx, h⟩
  · exact .inl h
  · cases x with
    | ok a => exact .inr ⟨a, s', hx, h⟩
    | error e =>
      obtain rfl : s' = t := h
      exact .inl (.of_ends hx)

/-- A program that does not fail. -/
lemma Attempts.lift {p : Prog Op Resp α} (h : Triple dev P p Q C) (hC : ∀ a s, Q a s → C s) :
    Attempts dev P (liftM p : ExceptT ε (Prog Op Resp) α) Q E C :=
  Triple.bind h fun a => Triple.done (fun _ hs => hs) fun s hs => hC a s hs

end Attempts

/-! ## Reliable devices -/

/-- The device that never fails: a crash happens between two operations only. -/
def Device.reliable (handle : (op : Op) → σ → Resp op × σ) : Device Op Resp σ where
  completes op s r t := handle op s = (r, t)
  breaks _ _ _ := False

section Reliable

variable {handle : (op : Op) → σ → Resp op × σ}

/-- On a reliable device a program ends where its run ends. -/
lemma ends_reliable {p : Prog Op Resp α} {s t : σ} {a : α} :
    Ends (Device.reliable handle) p s a t ↔ run handle p s = (a, t) := by
  induction p generalizing s with
  | done b => exact Prod.mk_inj.symm
  | perform op next ih =>
    rw [run_perform, ← ih]
    constructor
    · rintro ⟨r, s', hstep, h⟩
      obtain ⟨rfl, rfl⟩ := Prod.mk_inj.mp hstep.symm
      exact h
    · intro h
      exact ⟨_, _, rfl, h⟩

/-- Executing one operation from a known state. -/
lemma Triple.step {op : Op} {next : Resp op → Prog Op Resp α} {s : σ} {Q : α → σ → Prop}
    {C : σ → Prop} (hC : C s)
    (hnext : Triple (Device.reliable handle) (· = (handle op s).2) (next (handle op s).1) Q C) :
    Triple (Device.reliable handle) (· = s) (call op >>= next) Q C := by
  refine Triple.perform (fun _ h => h ▸ hC) (fun _ _ _ h => h.elim) fun r => ?_
  rintro s' ⟨_, rfl, hstep⟩
  obtain ⟨rfl, rfl⟩ := Prod.mk_inj.mp hstep.symm
  exact hnext _ rfl

end Reliable

end Crash

end Program
