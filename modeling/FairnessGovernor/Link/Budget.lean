/-
# The connection budget

The accept loop compares the number of active workers with the budget, but a worker counts itself
only when its thread runs.  So the budget bounds the workers that serve at once where every
thread has counted itself before the loop looks again, and bounds nothing where they are late.
-/
import FairnessGovernor.Link.Threads

namespace FairnessGovernor

open Program Runs

/-! ## The counter -/

/-- How many threads serve. -/
def LinkLife.servingCount (life : LinkLife) : ℕ := life.threads.count .serving

/-- How many threads have not counted themselves yet. -/
def LinkLife.uncountedCount (life : LinkLife) : ℕ := life.threads.count .created

section Count

variable {options : ServingOptions} {life life' : LinkLife} {event : LifeEvent} {thread : ℕ}
  {threads : List Thread} {place place' other : Thread}

/-- What a thread does to the number of threads that are somewhere. -/
lemma count_set_thread (h : threads[thread]? = some place) :
    (threads.set thread place').count other + (if place = other then 1 else 0) =
      threads.count other + if place' = other then 1 else 0 := by
  induction threads generalizing thread with
  | nil => simp at h
  | cons first rest ih =>
    cases thread with
    | zero =>
      obtain rfl : first = place := by simpa using h
      simp only [List.set_cons_zero, List.count_cons, beq_iff_eq]
      omega
    | succ thread =>
      have hrest := @ih thread (by simpa using h)
      simp only [List.set_cons_succ, List.count_cons, beq_iff_eq]
      omega

/-- The counter is the number of threads that serve. -/
lemma LifeStep.active (h : life.active = life.servingCount)
    (hstep : LifeStep options life event life') : life'.active = life'.servingCount := by
  unfold LinkLife.servingCount at h ⊢
  cases hstep with
  | loop hloop =>
    cases hloop with
    | register _ haccept =>
      show life.active = List.count Thread.serving (life.threads ++ [.created])
      rw [List.count_append, h]
      rfl
    | _ => exact h
  | thread hthread =>
    cases hthread with
    | count hplace =>
      have hcount := @count_set_thread _ _ _ .serving .serving hplace
      simp only [reduceCtorEq, if_true, if_false] at hcount
      show life.active + 1 = List.count .serving (life.threads.set _ .serving)
      omega
    | work => exact h
    | uncount hplace =>
      have hcount := @count_set_thread _ _ _ .uncounted .serving hplace
      simp only [reduceCtorEq, if_true, if_false] at hcount
      show life.active - 1 = List.count .serving (life.threads.set _ .uncounted)
      omega
    | done hplace =>
      have hcount := @count_set_thread _ _ _ .done .serving hplace
      simp only [reduceCtorEq, if_false] at hcount
      show life.active = List.count .serving (life.threads.set _ .done)
      omega
  | shutdown hshutdown =>
    cases hshutdown with
    | _ => exact h
  | requestStop => exact h
  | client => exact h

/-- A place that the loop has promised to a connection. -/
def AcceptLoop.reserved : AcceptLoop → ℕ
  | .registering => 1
  | _ => 0

/-- The threads that serve or are about to, and a promised place, are within the budget. -/
def LinkLife.Within (options : ServingOptions) (life : LinkLife) : Prop :=
  life.servingCount + life.uncountedCount + life.loop.reserved ≤ options.maxConnections.toNat

/-- When the loop looks at the counter, every thread has counted itself. -/
def ChecksPromptly (step : LinkLife × LifeEvent) : Prop :=
  step.1.loop = .budgeting → step.2 = .loop → step.1.uncountedCount = 0

lemma LifeStep.within (h : life.Within options) (hactive : life.active = life.servingCount)
    (hprompt : ChecksPromptly (life, event)) (hstep : LifeStep options life event life') :
    life'.Within options := by
  unfold LinkLife.Within at h ⊢
  cases hstep with
  | loop hloop =>
    cases hloop with
    | budget hloop hbudget =>
      -- the counter is what it should be, so there is room for one more
      have hnone : life.uncountedCount = 0 := hprompt hloop rfl
      show life.servingCount + life.uncountedCount + 1 ≤ _
      omega
    | register hloop haccept =>
      rw [hloop] at h
      have hserving : List.count Thread.serving (life.threads ++ [.created]) =
          life.servingCount := by
        rw [List.count_append]
        rfl
      have hcreated : List.count Thread.created (life.threads ++ [.created]) =
          life.uncountedCount + 1 := by
        rw [List.count_append]
        rfl
      show List.count Thread.serving (life.threads ++ [.created]) +
        List.count Thread.created (life.threads ++ [.created]) + 0 ≤ _
      rw [hserving, hcreated]
      exact h
    | stop => exact le_trans (Nat.le_add_right _ _) h
    | serve => exact le_trans (Nat.le_add_right _ _) h
    | «continue» => exact le_trans (Nat.le_add_right _ _) h
    | prune => exact le_trans (Nat.le_add_right _ _) h
    | retire => exact le_trans (Nat.le_add_right _ _) h
    | poll => exact le_trans (Nat.le_add_right _ _) h
    | quiet => exact le_trans (Nat.le_add_right _ _) h
    | accept => exact le_trans (Nat.le_add_right _ _) h
    | turnAway => exact le_trans (Nat.le_add_right _ _) h
    | leave => exact le_trans (Nat.le_add_right _ _) h
    | finish => exact le_trans (Nat.le_add_right _ _) h
  | thread hthread =>
    unfold LinkLife.servingCount LinkLife.uncountedCount at h ⊢
    cases hthread with
    | count hplace =>
      have hserving := @count_set_thread _ _ _ .serving .serving hplace
      have hcreated := @count_set_thread _ _ _ .serving .created hplace
      simp only [reduceCtorEq, if_true, if_false] at hserving hcreated
      dsimp only
      omega
    | work => exact h
    | uncount hplace =>
      have hserving := @count_set_thread _ _ _ .uncounted .serving hplace
      have hcreated := @count_set_thread _ _ _ .uncounted .created hplace
      simp only [reduceCtorEq, if_true, if_false] at hserving hcreated
      dsimp only
      omega
    | done hplace =>
      have hserving := @count_set_thread _ _ _ .done .serving hplace
      have hcreated := @count_set_thread _ _ _ .done .created hplace
      simp only [reduceCtorEq, if_false] at hserving hcreated
      dsimp only
      omega
  | shutdown hshutdown =>
    cases hshutdown with
    | _ => exact h
  | requestStop => exact h
  | client => exact h

end Count

/-! ## Where it holds -/

variable {options : ServingOptions} {g : Governor} {life : LinkLife}
  {trace : List (LinkLife × LifeEvent)}

/-- In a run in which every thread has counted itself whenever the accept loop looks at the
counter, no more connections are served at once than the budget allows; and the counter is the
number of connections that are served, in every run. -/
theorem budget_kept (hrun : Run (LifeStep options) (.start g) trace life) :
    life.active = life.servingCount ∧
      ((∀ step ∈ trace, ChecksPromptly step) →
        life.servingCount ≤ options.maxConnections.toNat) := by
  have hkept : life.active = life.servingCount ∧
      ((∀ step ∈ trace, ChecksPromptly step) → life.Within options) := by
    induction hrun with
    | nil => exact ⟨rfl, fun _ => Nat.zero_le _⟩
    | snoc _ hstep ih =>
      refine ⟨hstep.active ih.1, fun hprompt => ?_⟩
      rw [List.forall_mem_append, List.forall_mem_singleton] at hprompt
      exact hstep.within (ih.2 hprompt.1) ih.1 hprompt.2
  refine ⟨hkept.1, fun hprompt => ?_⟩
  have hwithin := hkept.2 hprompt
  unfold LinkLife.Within at hwithin
  omega

/-- One connection is served. -/
theorem budget_kept_sample : ∃ trace life,
    Run (LifeStep {}) (.start (memoryGovernor pairPolicy)) trace life ∧
      life.servingCount = 1 ∧ life.servingCount ≤ (4 : UInt32).toNat := by
  have hbudget : 0 < (4 : UInt32).toNat := by decide
  obtain ⟨trace, hround, -, hthreads⟩ := @round_run {}
    { LinkLife.start (memoryGovernor pairPolicy) with loop := .top, serving := true } [] rfl rfl
    hbudget
  have hserve : LifeStep {} (.start (memoryGovernor pairPolicy)) .serve
      { LinkLife.start (memoryGovernor pairPolicy) with loop := .top, serving := true } :=
    .loop (.serve rfl)
  have hcount : LifeStep {} (.single (memoryGovernor pairPolicy) .handshake .created 0) (.counted 0)
      (.single (memoryGovernor pairPolicy) .handshake .serving 1) := .thread (.count rfl)
  have hrun := Run.cons hserve (hround.append (.cons hcount .nil))
  refine ⟨_, _, hrun, rfl, (budget_kept hrun).2 fun step hstep => ?_⟩
  -- while the loop looks there are no threads
  intro hloop _
  rcases List.mem_cons.mp hstep with rfl | hstep
  · cases hloop
  · rcases List.mem_append.mp hstep with hstep | hstep
    · rw [LinkLife.uncountedCount, hthreads step hstep]
      rfl
    · obtain rfl := List.mem_singleton.mp hstep
      cases hloop

/-! ## Where it does not -/

/-- The threads that were not counted count themselves. -/
lemma counting_run {k m : ℕ} (h : life.threads = List.replicate k .serving ++
    List.replicate m .created) : ∃ trace life', Run (LifeStep options) life trace life' ∧
      life'.threads = List.replicate (k + m) .serving := by
  induction m generalizing k life with
  | zero => exact ⟨[], life, .nil, by simpa using h⟩
  | succ m ih =>
    have hplace : life.threads[k]? = some .created := by
      rw [h, List.getElem?_append_right (by simp)]
      simp
    have hnext : life.threads.set k .serving = List.replicate (k + 1) .serving ++
        List.replicate m .created := by
      rw [h, List.set_append_right _ _ (by simp), List.length_replicate, Nat.sub_self,
        List.replicate_succ, List.set_cons_zero, List.replicate_succ', List.append_assoc]
      rfl
    obtain ⟨trace, life', hrun, hthreads⟩ := @ih { life with
      threads := life.threads.set k .serving, active := life.active + 1 } (k + 1) hnext
    refine ⟨_, life', .cons (.thread (.count hplace)) hrun, ?_⟩
    rw [hthreads]
    congr 1
    omega

/-- Any number of connections is accepted before a thread counts itself. -/
lemma rounds_run (hbudget : 0 < options.maxConnections.toNat) (n : ℕ) :
    ∃ trace life, Run (LifeStep options) (.start g) trace life ∧ life.loop = .top ∧
      life.stop = false ∧ life.active = 0 ∧ life.threads = List.replicate n .created := by
  induction n with
  | zero => exact ⟨_, _, .cons (.loop (.serve rfl)) .nil, rfl, rfl, rfl, rfl⟩
  | succ n ih =>
    obtain ⟨trace, life, hrun, hloop, hstop, hactive, hthreads⟩ := ih
    obtain ⟨more, hround, -⟩ := round_run life [] hloop hstop (hactive ▸ hbudget)
    refine ⟨_, _, hrun.append hround, rfl, hstop, hactive, ?_⟩
    rw [List.replicate_succ', ← hthreads]
    rfl

/-- The budget is no bound in general: with any options that the server accepts, any number of
connections may be served at once, for the accept loop may be ahead of the threads. -/
theorem budget_exceeded (hoptions : options.check = .ok ()) (g : Governor) (n : ℕ) :
    ∃ trace life, Run (LifeStep options) (.start g) trace life ∧ life.servingCount = n := by
  simp only [ServingOptions.check, rejectIf_bind_eq_ok, rejectIf_eq_ok, not_or] at hoptions
  have hbudget : 0 < options.maxConnections.toNat := by
    rw [Nat.pos_iff_ne_zero]
    intro hzero
    exact hoptions.2.1 (UInt32.toNat_inj.mp hzero)
  obtain ⟨first, life, hfirst, -, -, -, hthreads⟩ := @rounds_run options g hbudget n
  obtain ⟨second, life', hsecond, hthreads'⟩ := @counting_run options life 0 n (by simpa using hthreads)
  refine ⟨_, life', hfirst.append hsecond, ?_⟩
  rw [LinkLife.servingCount, hthreads', List.count_replicate_self, Nat.zero_add]

/-- Five connections are served by a server that should serve four. -/
theorem budget_exceeded_sample : ∃ trace life,
    Run (LifeStep {}) (.start (memoryGovernor pairPolicy)) trace life ∧ life.servingCount = 5 :=
  budget_exceeded rfl (memoryGovernor pairPolicy) 5

end FairnessGovernor
