/-
# What a bounded map holds

A map that is brought within its bound after every insertion holds exactly the last keys that
were ever inserted, each with what all the insertions under it have made of its value.  Which
keys are held does not depend on the values.
-/
import FairnessGovernor.Governor.Sound
import FairnessGovernor.Lib.Retention

namespace FairnessGovernor

open Retention

section Order

variable {α : Type} (order : α → α → Ordering)

/-- A key is stored before another. -/
def Precedes (a b : α) : Prop := order a b = .lt

instance : DecidableRel (Precedes order) := fun a b => inferInstanceAs (Decidable (order a b = .lt))

instance [Std.TransCmp order] [Std.LawfulEqCmp order] :
    IsStrictTotalOrder α (Precedes order) where
  irrefl a h := by
    have hself : order a a = .eq := Std.ReflCmp.compare_self
    rw [Precedes, hself] at h
    cases h
  trans _ _ _ hab hbc := Std.TransCmp.lt_trans hab hbc
  trichotomous a b hab hba := by
    cases h : order a b with
    | lt => exact absurd h hab
    | eq => exact Std.LawfulEqCmp.eq_of_compare h
    | gt => exact absurd (Std.OrientedCmp.gt_iff_lt.mp h) hba

instance : Std.LawfulEqCmp pairOrder where
  eq_of_compare {a b} h := by
    obtain ⟨hfst, hsnd⟩ := compareLex_eq_eq.mp h
    exact Prod.ext (Std.LawfulEqCmp.eq_of_compare hfst) (Std.LawfulEqCmp.eq_of_compare hsnd)

end Order

/-! ## One insertion -/

section Bounded

variable {α β : Type} {order : α → α → Ordering} [Std.TransCmp order] [Std.LawfulEqCmp order]
  {entries : Std.TreeMap α β order} {limit : ℕ} {key : α} {value new : β}

/-- The first key is the one that no other precedes. -/
lemma head?_keys_eq_some : entries.keys.head? = some key ↔
    key ∈ entries ∧ ¬ ∃ first ∈ entries, Precedes order first key := by
  rw [← Std.TreeMap.minKey?_eq_head?_keys, Std.TreeMap.minKey?_eq_some_iff_mem_and_forall]
  refine and_congr_right fun _ => ?_
  constructor
  · rintro h ⟨first, hfirst, hprecedes⟩
    have hle := h first hfirst
    rw [Std.OrientedCmp.gt_iff_lt.mpr hprecedes] at hle
    cases hle
  · intro h first hfirst
    cases hcompare : order key first with
    | lt => rfl
    | eq => rfl
    | gt => exact absurd ⟨first, hfirst, Std.OrientedCmp.gt_iff_lt.mp hcompare⟩ h

omit [Std.LawfulEqCmp order] in
lemma mem_of_getElem? (h : entries[key]? = some value) : key ∈ entries := by
  rw [Std.TreeMap.mem_iff_isSome_getElem?, h]
  rfl

/-- Erasing the first key keeps every key that another precedes. -/
lemma getElem?_eraseFirst_iff : (eraseFirst entries)[key]? = some value ↔
    entries[key]? = some value ∧ ∃ first ∈ entries, Precedes order first key := by
  unfold eraseFirst
  cases hfirst : entries.keys.head? with
  | none =>
    have hempty : ∀ other, other ∉ entries := by
      intro other hmem
      rw [← Std.TreeMap.mem_keys, List.head?_eq_none_iff.mp hfirst] at hmem
      cases hmem
    constructor
    · intro h
      exact absurd (mem_of_getElem? h) (hempty key)
    · rintro ⟨h, -⟩
      exact h
  | some first =>
    obtain ⟨hmem, hleast⟩ := head?_keys_eq_some.mp hfirst
    dsimp only
    rw [Std.TreeMap.getElem?_erase]
    split_ifs with heq
    · obtain rfl := Std.LawfulEqCmp.eq_of_compare heq
      constructor
      · intro h
        cases h
      · rintro ⟨-, hfirst⟩
        exact absurd hfirst hleast
    · -- a key that nothing precedes is the first one
      refine ⟨fun h => ⟨h, ?_⟩, fun h => h.1⟩
      by_contra hnone
      have hkey := head?_keys_eq_some.mpr ⟨mem_of_getElem? h, hnone⟩
      rw [hfirst] at hkey
      obtain rfl := Option.some.inj hkey
      exact heq Std.ReflCmp.compare_self

/-- The keys of a map, as a set. -/
def keySet [DecidableEq α] (entries : Std.TreeMap α β order) : Finset α := entries.keys.toFinset

variable [DecidableEq α]

@[simp] lemma mem_keySet : key ∈ keySet entries ↔ key ∈ entries := by
  rw [keySet, List.mem_toFinset, Std.TreeMap.mem_keys]

lemma getElem?_eq_none_iff : entries[key]? = none ↔ key ∉ keySet entries := by
  rw [mem_keySet, Std.TreeMap.mem_iff_isSome_getElem?, Option.not_isSome_iff_eq_none]

omit [Std.LawfulEqCmp order] in
lemma card_keySet : (keySet entries).card = entries.size := by
  rw [keySet, List.toFinset_card_of_nodup Std.TreeMap.nodup_keys, Std.TreeMap.length_keys]

lemma keySet_insert : keySet (entries.insert key value) = insert key (keySet entries) := by
  ext other
  rw [mem_keySet, Std.TreeMap.mem_insert, Finset.mem_insert, mem_keySet,
    Std.LawfulEqCmp.compare_eq_iff_eq, eq_comm]

/-- A map with at most one entry too many keeps its last keys. -/
lemma getElem?_bounded_iff (h : entries.size ≤ limit + 1) :
    (bounded limit entries)[key]? = some value ↔
      entries[key]? = some value ∧ key ∈ retained (Precedes order) limit (keySet entries) := by
  rw [mem_retained_of_card_le (by rw [card_keySet]; exact h), card_keySet, mem_keySet, bounded]
  simp only [mem_keySet]
  rcases Nat.lt_or_ge limit entries.size with hlt | hle
  · rw [show entries.size - limit = 1 by omega, evict, evict, getElem?_eraseFirst_iff]
    constructor
    · rintro ⟨hvalue, hfirst⟩
      exact ⟨hvalue, mem_of_getElem? hvalue, .inr hfirst⟩
    · rintro ⟨hvalue, -, hsize | hfirst⟩
      · omega
      · exact ⟨hvalue, hfirst⟩
  · rw [show entries.size - limit = 0 by omega, evict]
    exact ⟨fun hvalue => ⟨hvalue, mem_of_getElem? hvalue, .inl hle⟩, fun hvalue => hvalue.1⟩

lemma keySet_bounded (h : entries.size ≤ limit + 1) :
    keySet (bounded limit entries) = retained (Precedes order) limit (keySet entries) := by
  ext other
  rw [mem_keySet, Std.TreeMap.mem_iff_isSome_getElem?, Option.isSome_iff_exists]
  simp only [getElem?_bounded_iff h]
  constructor
  · rintro ⟨value, -, hretained⟩
    exact hretained
  · intro hretained
    have hmem := mem_keySet.mp (retained_subset hretained)
    rw [Std.TreeMap.mem_iff_isSome_getElem?, Option.isSome_iff_exists] at hmem
    obtain ⟨value, hvalue⟩ := hmem
    exact ⟨value, hvalue, hretained⟩

omit [DecidableEq α] [Std.LawfulEqCmp order] in
lemma size_insert_le_succ (h : entries.size ≤ limit) :
    (entries.insert key value).size ≤ limit + 1 :=
  Std.TreeMap.size_insert_le.trans (Nat.add_le_add_right h 1)

/-- A key is still there after its insertion if it was there before, if there was room for it, or
if another key went first. -/
def Retains (limit : ℕ) (entries : Std.TreeMap α β order) (key : α) : Prop :=
  key ∈ entries ∨ entries.size < limit ∨ ∃ first ∈ entries, Precedes order first key

lemma retains_iff (h : entries.size ≤ limit) : Retains limit entries key ↔
    key ∈ retained (Precedes order) limit (insert key (keySet entries)) := by
  have hcard : (insert key (keySet entries)).card ≤ limit + 1 :=
    (Finset.card_insert_le _ _).trans (Nat.add_le_add_right (card_keySet.trans_le h) 1)
  rw [mem_retained_of_card_le hcard]
  -- no key precedes itself
  have hfirst : (∃ first ∈ insert key (keySet entries), Precedes order first key) ↔
      ∃ first ∈ entries, Precedes order first key := by
    constructor
    · rintro ⟨first, hmem, hprecedes⟩
      rcases Finset.mem_insert.mp hmem with rfl | hmem
      · exact absurd hprecedes (irrefl_of (Precedes order) first)
      · exact ⟨first, mem_keySet.mp hmem, hprecedes⟩
    · rintro ⟨first, hmem, hprecedes⟩
      exact ⟨first, Finset.mem_insert_of_mem (mem_keySet.mpr hmem), hprecedes⟩
  rw [hfirst, Retains]
  by_cases hkey : key ∈ entries
  · rw [Finset.insert_eq_of_mem (mem_keySet.mpr hkey), card_keySet, mem_keySet]
    exact ⟨fun _ => ⟨hkey, .inl h⟩, fun _ => .inl hkey⟩
  · rw [Finset.card_insert_of_notMem (mt mem_keySet.mp hkey), card_keySet]
    simp [hkey]

/-- The value inserted last is found under its key. -/
lemma getElem?_bounded_insert_self (h : entries.size ≤ limit) :
    (bounded limit (entries.insert key value))[key]? = some value ↔ Retains limit entries key := by
  rw [getElem?_bounded_iff (size_insert_le_succ h), Std.TreeMap.getElem?_insert_self,
    keySet_insert, retains_iff h]
  exact ⟨fun h => h.2, fun h => ⟨rfl, h⟩⟩

/-! ## Many insertions -/

/-- An entry is combined with what is stored under its key, and the map is brought within its
bound. -/
def record (limit : ℕ) (combine : Option β → β → β) (entries : Std.TreeMap α β order)
    (entry : α × β) : Std.TreeMap α β order :=
  bounded limit (entries.insert entry.1 (combine entries[entry.1]? entry.2))

/-- The map after a list of entries. -/
def recording (order : α → α → Ordering) (limit : ℕ) (combine : Option β → β → β)
    (list : List (α × β)) : Std.TreeMap α β order :=
  list.foldl (record limit combine) {}

variable {combine : Option β → β → β} {list : List (α × β)} {entry : α × β}

omit [Std.TransCmp order] [Std.LawfulEqCmp order] [DecidableEq α] in
lemma recording_snoc : recording order limit combine (list ++ [entry]) =
    record limit combine (recording order limit combine list) entry :=
  List.foldl_concat ..

/-- The map holds the last keys of the list. -/
lemma keySet_recording : keySet (recording order limit combine list) =
    retained (Precedes order) limit (keysOf list) := by
  induction list using List.reverseRecOn with
  | nil => rfl
  | append_singleton list entry ih =>
    have hsize : (recording order limit combine list).size ≤ limit := by
      rw [← card_keySet, ih]
      exact card_retained_le
    rw [recording_snoc, record, keySet_bounded (size_insert_le_succ hsize), keySet_insert, ih,
      retained_insert, keysOf_snoc]

lemma size_recording_le : (recording order limit combine list).size ≤ limit := by
  rw [← card_keySet, keySet_recording]
  exact card_retained_le

omit [Std.TransCmp order] [Std.LawfulEqCmp order] in
/-- A key that is held and was inserted before has been held all along. -/
lemma recorded_of_retained (ih : ∀ key, (recording order limit combine list)[key]? =
      if key ∈ retained (Precedes order) limit (keysOf list) then recorded combine list key
      else none)
    (hkey : key ∈ retained (Precedes order) limit (insert key (keysOf list))) :
    (recording order limit combine list)[key]? = recorded combine list key := by
  rw [ih]
  by_cases hmem : key ∈ keysOf list
  · rw [Finset.insert_eq_of_mem hmem] at hkey
    rw [if_pos hkey]
  · rw [recorded_of_notMem hmem, ite_self]

/-- Under each of them it holds what an unbounded map would hold. -/
theorem getElem?_recording : (recording order limit combine list)[key]? =
    if key ∈ retained (Precedes order) limit (keysOf list) then recorded combine list key
    else none := by
  induction list using List.reverseRecOn generalizing key with
  | nil => simp [recording]
  | append_singleton list entry ih =>
    have hkeys : keySet (recording order limit combine (list ++ [entry])) =
      retained (Precedes order) limit (keysOf (list ++ [entry])) := keySet_recording
    -- the keys that are left are the retained ones, so only the values are in question
    by_cases hkey : key ∈ retained (Precedes order) limit (keysOf (list ++ [entry]))
    · rw [if_pos hkey]
      rw [← hkeys, mem_keySet, Std.TreeMap.mem_iff_isSome_getElem?,
        Option.isSome_iff_exists] at hkey
      obtain ⟨value, hvalue⟩ := hkey
      rw [hvalue]
      rw [recording_snoc, record, getElem?_bounded_iff (size_insert_le_succ size_recording_le),
        keySet_insert, keySet_recording, retained_insert, Std.TreeMap.getElem?_insert] at hvalue
      obtain ⟨hvalue, hretained⟩ := hvalue
      rw [recorded_snoc]
      split_ifs at hvalue with heq
      · obtain rfl := Std.LawfulEqCmp.eq_of_compare heq
        rw [if_pos rfl, ← hvalue, recorded_of_retained (fun _ => ih) hretained]
      · have hne : entry.1 ≠ key := by
          rintro rfl
          exact heq Std.ReflCmp.compare_self
        rw [ih] at hvalue
        split_ifs at hvalue
        rw [if_neg hne, hvalue]
    · rw [if_neg hkey]
      rw [← hkeys, mem_keySet] at hkey
      exact Std.TreeMap.getElem?_eq_none hkey

end Bounded

end FairnessGovernor
