/-
# Reading from a stream that arrives in pieces

A reader asks for a fixed number of items.  The stream hands them over in pieces of any size,
and between two pieces there may be polls in which nothing comes.  The reader gives up when it
has been idle for too long, when reading fails, when it is told to stop, or when the stream ends.
How the stream was cut into pieces makes no difference to what is read.
-/
import Mathlib.Tactic

namespace Segments

variable {α : Type}

/-- What a reader meets next: a piece of the stream, which is never empty, a poll in which
nothing came, a failure, or the order to stop.  What follows the last arrival is the end of the
stream. -/
inductive Arrival (α : Type)
  | data (first : α) (more : List α)
  | quiet
  | failed
  | stopping

/-- The items that are still to be read, up to the first failure or order to stop. -/
def content : List (Arrival α) → List α
  | [] => []
  | .data first more :: rest => first :: more ++ content rest
  | .quiet :: rest => content rest
  | .failed :: _ => []
  | .stopping :: _ => []

/-- How a read ends. -/
inductive Ending
  | complete | closed | timeout | failed | stopped
deriving DecidableEq

/-- The result of a read: its ending, the items that were read, and what is left. -/
structure Outcome (α : Type) where
  ending : Ending
  items : List α
  rest : List (Arrival α)

/-- Reads until there are `size` items.  `spent n` says that `n` idle polls in a row are too
many; a piece that holds more than is asked for is left in part. -/
def receive (spent : ℕ → Bool) (size : ℕ) :
    List (Arrival α) → List α → ℕ → Outcome α
  | [], items, _ => if size ≤ items.length then ⟨.complete, items, []⟩ else ⟨.closed, items, []⟩
  | arrival :: rest, items, idle =>
    if size ≤ items.length then ⟨.complete, items, arrival :: rest⟩
    else match arrival with
      | .data first more =>
        match (first :: more).drop (size - items.length) with
        | [] => receive spent size rest (items ++ first :: more) 0
        | next :: later =>
          ⟨.complete, items ++ (first :: more).take (size - items.length),
            .data next later :: rest⟩
      | .quiet =>
        if spent (idle + 1) then ⟨.timeout, items, rest⟩
        else receive spent size rest items (idle + 1)
      | .failed => ⟨.failed, items, rest⟩
      | .stopping => ⟨.stopped, items, .stopping :: rest⟩

/-- Nothing disturbs a reader that has been idle for `idle` polls. -/
def Steady (spent : ℕ → Bool) : List (Arrival α) → ℕ → Prop
  | [], _ => True
  | .data _ _ :: rest, _ => Steady spent rest 0
  | .quiet :: rest, idle => spent (idle + 1) = false ∧ Steady spent rest (idle + 1)
  | .failed :: _, _ => False
  | .stopping :: _, _ => False

variable {spent : ℕ → Bool} {size idle : ℕ} {script rest : List (Arrival α)} {items : List α}

@[simp] lemma content_nil : content ([] : List (Arrival α)) = [] := rfl

@[simp] lemma content_data (first : α) (more : List α) :
    content (.data first more :: rest) = first :: more ++ content rest := rfl

@[simp] lemma content_quiet : content (.quiet :: rest) = content rest := rfl

/-! ## One arrival -/

/-- A reader that has what it asked for reads nothing. -/
lemma receive_enough (h : size ≤ items.length) :
    receive spent size script items idle = ⟨.complete, items, script⟩ := by
  cases script <;> exact if_pos h

lemma receive_nil (h : items.length < size) :
    receive spent size [] items idle = ⟨.closed, items, []⟩ :=
  if_neg (not_le.mpr h)

/-- A piece is used up, or it holds all that is missing. -/
lemma receive_data {first : α} {more : List α} (h : items.length < size) :
    receive spent size (.data first more :: rest) items idle =
      match (first :: more).drop (size - items.length) with
      | [] => receive spent size rest (items ++ first :: more) 0
      | next :: later => ⟨.complete, items ++ (first :: more).take (size - items.length),
          .data next later :: rest⟩ :=
  if_neg (not_le.mpr h)

lemma receive_quiet (h : items.length < size) :
    receive spent size (.quiet :: rest) items idle =
      if spent (idle + 1) then ⟨.timeout, items, rest⟩
      else receive spent size rest items (idle + 1) :=
  if_neg (not_le.mpr h)

lemma receive_failed (h : items.length < size) :
    receive spent size (.failed :: rest) items idle = ⟨.failed, items, rest⟩ :=
  if_neg (not_le.mpr h)

lemma receive_stopping (h : items.length < size) :
    receive spent size (.stopping :: rest) items idle = ⟨.stopped, items, .stopping :: rest⟩ :=
  if_neg (not_le.mpr h)

/-! ## What is read -/

/-- Only a reader that has all it asked for completes, and it has read what comes next. -/
lemma receive_complete {out : List α} (hitems : items.length ≤ size)
    (h : receive spent size script items idle = ⟨.complete, out, rest⟩) :
    out.length = size ∧ out ++ content rest = items ++ content script := by
  induction script generalizing items idle with
  | nil =>
    rcases hitems.lt_or_eq with hmissing | hall
    · rw [receive_nil hmissing] at h
      cases h
    · rw [receive_enough hall.ge] at h
      cases h
      exact ⟨hall, rfl⟩
  | cons arrival script ih =>
    rcases hitems.lt_or_eq with hmissing | hall
    · cases arrival with
      | data first more =>
        rw [receive_data hmissing] at h
        have hsplit := List.take_append_drop (size - items.length) (first :: more)
        cases hdrop : (first :: more).drop (size - items.length) with
        | nil =>
          rw [hdrop] at h
          have hpiece := List.drop_eq_nil_iff.mp hdrop
          obtain ⟨hlength, hcontent⟩ := ih (by rw [List.length_append]; omega) h
          refine ⟨hlength, ?_⟩
          rw [hcontent, content_data, List.append_assoc]
        | cons next later =>
          rw [hdrop] at h hsplit
          cases h
          have hpiece := congrArg List.length hdrop
          simp only [List.length_drop, List.length_cons] at hpiece
          constructor
          · simp only [List.length_append, List.length_take, List.length_cons]
            omega
          · rw [content_data, content_data, ← List.append_assoc items, ← hsplit, ← List.append_assoc,
              ← List.append_assoc, hsplit]
      | quiet =>
        rw [receive_quiet hmissing] at h
        split_ifs at h with htired
        · cases h
        obtain ⟨hlength, hcontent⟩ := ih hitems h
        exact ⟨hlength, by rw [hcontent, content_quiet]⟩
      | failed =>
        rw [receive_failed hmissing] at h
        cases h
      | stopping =>
        rw [receive_stopping hmissing] at h
        cases h
    · rw [receive_enough hall.ge] at h
      cases h
      exact ⟨hall, rfl⟩

/-- An undisturbed reader completes when there are enough items, and what is left is
undisturbed again. -/
lemma receive_steady_complete (hsteady : Steady spent script idle) (hitems : items.length ≤ size)
    (hfresh : items.length < size ∨ idle = 0)
    (henough : size ≤ items.length + (content script).length) :
    ∃ out rest, receive spent size script items idle = ⟨.complete, out, rest⟩ ∧
      Steady spent rest 0 := by
  induction script generalizing items idle with
  | nil =>
    rw [content_nil, List.length_nil] at henough
    exact ⟨items, [], receive_enough henough, trivial⟩
  | cons arrival script ih =>
    by_cases hall : size ≤ items.length
    · obtain rfl : idle = 0 := by omega
      exact ⟨items, _, receive_enough hall, hsteady⟩
    · rw [not_le] at hall
      cases arrival with
      | data first more =>
        rw [receive_data hall]
        cases hdrop : (first :: more).drop (size - items.length) with
        | nil =>
          have hpiece := List.drop_eq_nil_iff.mp hdrop
          refine ih hsteady (by rw [List.length_append]; omega) (.inr rfl) ?_
          rw [content_data, List.length_append] at henough
          rw [List.length_append]
          omega
        | cons next later => exact ⟨_, _, rfl, hsteady⟩
      | quiet =>
        obtain ⟨hpatient, hsteady⟩ := hsteady
        rw [receive_quiet hall, if_neg (by simp [hpatient])]
        exact ih hsteady hitems (.inl hall) henough
      | failed => exact hsteady.elim
      | stopping => exact hsteady.elim

/-- An undisturbed reader that asks for more than there is reaches the end of the stream, with
all that there was. -/
lemma receive_steady_closed (hsteady : Steady spent script idle)
    (hshort : items.length + (content script).length < size) :
    receive spent size script items idle = ⟨.closed, items ++ content script, []⟩ := by
  induction script generalizing items idle with
  | nil =>
    rw [content_nil, List.length_nil] at hshort
    rw [receive_nil hshort, content_nil, List.append_nil]
  | cons arrival script ih =>
    have hmissing : items.length < size := by omega
    cases arrival with
    | data first more =>
      rw [content_data, List.length_append] at hshort
      have hdrop : (first :: more).drop (size - items.length) = [] :=
        List.drop_eq_nil_iff.mpr (by omega)
      rw [receive_data hmissing, hdrop, content_data, ← List.append_assoc]
      exact ih hsteady (by rw [List.length_append]; omega)
    | quiet =>
      obtain ⟨hpatient, hsteady⟩ := hsteady
      rw [receive_quiet hmissing, if_neg (by simp [hpatient])]
      exact ih hsteady hshort
    | failed => exact hsteady.elim
    | stopping => exact hsteady.elim

end Segments
