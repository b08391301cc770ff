/-
# Runs of a labelled transition system

A run is a sequence of steps; its trace lists each step with the state before it.  `invariant`
packages the induction over a run, and `Run.split` takes a run apart at a step of its trace.
-/
import Mathlib.Tactic

namespace Runs

variable {σ ε : Type} {step : σ → ε → σ → Prop}

/-- A run from `s` to `u`, with the state before each step. -/
inductive Run (step : σ → ε → σ → Prop) (s : σ) : List (σ × ε) → σ → Prop
  | nil : Run step s [] s
  | snoc {trace : List (σ × ε)} {t u : σ} {e : ε} :
      Run step s trace t → step t e u → Run step s (trace ++ [(t, e)]) u

/-- What every step keeps, every run keeps. -/
lemma Run.invariant {P : σ → Prop} {s u : σ} {trace : List (σ × ε)} (h : Run step s trace u)
    (hs : P s) (hstep : ∀ t e u, P t → step t e u → P u) : P u := by
  induction h with
  | nil => exact hs
  | snoc _ ht ih => exact hstep _ _ _ ih ht

/-- What every step of the trace keeps, the run keeps. -/
lemma Run.keeps {P : σ → Prop} {s u : σ} {trace : List (σ × ε)} (h : Run step s trace u)
    (hs : P s) (hstep : ∀ t e u, (t, e) ∈ trace → P t → step t e u → P u) : P u := by
  induction h with
  | nil => exact hs
  | @snoc trace t u e _ ht ih =>
    refine hstep t e u (by simp) (ih fun t' e' u' hmem => ?_) ht
    exact hstep t' e' u' (List.mem_append_left _ hmem)

/-- A relation that is kept by every step is kept between the two ends of a run. -/
lemma Run.related {R : σ → σ → Prop} {s u : σ} {trace : List (σ × ε)} (h : Run step s trace u)
    (hrefl : R s s) (hstep : ∀ t e u, R s t → step t e u → R s u) : R s u :=
  h.invariant (P := R s) hrefl hstep

/-- Two runs in a row. -/
lemma Run.append {s t u : σ} {first second : List (σ × ε)} (h₁ : Run step s first t)
    (h₂ : Run step t second u) : Run step s (first ++ second) u := by
  induction h₂ with
  | nil => rwa [List.append_nil]
  | snoc _ hstep ih =>
    rw [← List.append_assoc]
    exact ih.snoc hstep

/-- A run that starts with a step. -/
lemma Run.cons {s t u : σ} {e : ε} {trace : List (σ × ε)} (hstep : step s e t)
    (h : Run step t trace u) : Run step s ((s, e) :: trace) u :=
  (Run.nil.snoc hstep).append h

/-- A run goes through the states of a run of another system where each of its steps does, in as many
steps as it takes there; `echo` says which events stand for one. -/
lemma Run.weakly_simulates {σ' ε' : Type} {step' : σ' → ε' → σ' → Prop} (abs : σ → σ')
    {I : σ → Prop} {echo : σ → ε → List ε' → Prop} {s u : σ} {trace : List (σ × ε)}
    (h : Run step s trace u) (hs : I s)
    (hstep : ∀ t e u, I t → step t e u →
      (∃ trace', echo t e (trace'.map Prod.snd) ∧ Run step' (abs t) trace' (abs u)) ∧ I u) :
    (∃ trace' groups, Run step' (abs s) trace' (abs u) ∧ trace'.map Prod.snd = groups.flatten ∧
      List.Forall₂ (fun entry events => echo entry.1 entry.2 events) trace groups) ∧ I u := by
  induction h with
  | nil => exact ⟨⟨[], [], .nil, rfl, .nil⟩, hs⟩
  | @snoc trace t u e _ ht ih =>
    obtain ⟨⟨trace', groups, hrun, hflat, hgroups⟩, hI⟩ := ih
    obtain ⟨⟨more, hecho, hmore⟩, hI'⟩ := hstep t e u hI ht
    refine ⟨⟨trace' ++ more, groups ++ [more.map Prod.snd], hrun.append hmore, ?_, ?_⟩, hI'⟩
    · rw [List.map_append, hflat, List.flatten_append, List.flatten_singleton]
    · exact List.rel_append hgroups (.cons hecho .nil)

/-- Taking a run apart where its trace is taken apart. -/
lemma Run.of_append {s u : σ} {first second : List (σ × ε)}
    (h : Run step s (first ++ second) u) :
    ∃ t, Run step s first t ∧ Run step t second u := by
  induction second using List.reverseRecOn generalizing u with
  | nil => exact ⟨u, by rwa [List.append_nil] at h, .nil⟩
  | append_singleton second last ih =>
    rw [← List.append_assoc] at h
    generalize htrace : first ++ second ++ [last] = trace at h
    cases h with
    | nil => simp at htrace
    | snoc hrun hstep =>
      obtain ⟨hpre, hlast⟩ := List.append_inj' htrace rfl
      obtain rfl := List.singleton_inj.mp hlast
      rw [← hpre] at hrun
      obtain ⟨t, h₁, h₂⟩ := ih hrun
      exact ⟨t, h₁, h₂.snoc hstep⟩

/-- Taking a run apart at one of its steps. -/
lemma Run.split {s u t : σ} {e : ε} {before after : List (σ × ε)}
    (h : Run step s (before ++ (t, e) :: after) u) :
    ∃ t', Run step s before t ∧ step t e t' ∧ Run step t' after u := by
  rw [List.append_cons] at h
  obtain ⟨t', h₁, h₂⟩ := h.of_append
  generalize htrace : before ++ [(t, e)] = trace at h₁
  cases h₁ with
  | nil => simp at htrace
  | snoc hrun hstep =>
    obtain ⟨hpre, hlast⟩ := List.append_inj' htrace rfl
    obtain ⟨rfl, rfl⟩ := Prod.mk_inj.mp (List.singleton_inj.mp hlast)
    rw [← hpre] at hrun
    exact ⟨t', hrun, hstep, h₂⟩

/-- The last step of a run. -/
lemma Run.last {s u t : σ} {e : ε} {trace : List (σ × ε)} (h : Run step s (trace ++ [(t, e)]) u) :
    Run step s trace t ∧ step t e u := by
  obtain ⟨t', hrun, hstep, hnil⟩ := h.split
  generalize hempty : ([] : List (σ × ε)) = rest at hnil
  cases hnil with
  | nil => exact ⟨hrun, hstep⟩
  | snoc => simp at hempty

/-- A run up to a step of its trace. -/
lemma Run.upTo {s u t : σ} {e : ε} {trace : List (σ × ε)} (h : Run step s trace u)
    (hmem : (t, e) ∈ trace) :
    ∃ before after t', trace = before ++ (t, e) :: after ∧ Run step s before t ∧ step t e t' ∧
      Run step t' after u := by
  obtain ⟨before, after, rfl⟩ := List.append_of_mem hmem
  obtain ⟨t', h₁, hstep, h₂⟩ := h.split
  exact ⟨before, after, t', rfl, h₁, hstep, h₂⟩

end Runs
