/-
# Sets that keep their last keys

A store of bounded size that makes room by dropping its first key holds the last keys it was ever
given, in whatever order they came: a key is kept as long as fewer than `limit` others come after
it.  `retained` is that set, `retained_insert` says that one more key can be added to what was
kept, and `recorded` is what an unbounded store holds under a key.
-/
import Mathlib.Tactic

namespace Retention

variable {α : Type} {r : α → α → Prop} [DecidableRel r]

/-! ## The last keys of a set -/

/-- The keys of a set that come after a key. -/
def above (r : α → α → Prop) [DecidableRel r] (keys : Finset α) (key : α) : Finset α :=
  keys.filter fun other => r key other

/-- The last `limit` keys of a set. -/
def retained (r : α → α → Prop) [DecidableRel r] (limit : ℕ) (keys : Finset α) : Finset α :=
  keys.filter fun key => (above r keys key).card < limit

/-- Nothing after a key of the part is missing from it. -/
structure UpClosed (r : α → α → Prop) (part keys : Finset α) : Prop where
  subset : part ⊆ keys
  up : ∀ a ∈ part, ∀ b ∈ keys, r a b → b ∈ part

variable {limit : ℕ} {keys part other : Finset α} {a b key : α}

@[simp] lemma mem_above : b ∈ above r keys a ↔ b ∈ keys ∧ r a b := Finset.mem_filter

@[simp] lemma mem_retained :
    key ∈ retained r limit keys ↔ key ∈ keys ∧ (above r keys key).card < limit :=
  Finset.mem_filter

lemma retained_subset : retained r limit keys ⊆ keys := Finset.filter_subset _ _

variable [IsStrictTotalOrder α r]

/-- The later of two keys has fewer keys after it. -/
lemma card_above_lt (h : r a b) (hb : b ∈ keys) : (above r keys b).card < (above r keys a).card := by
  apply Finset.card_lt_card
  refine ⟨fun c hc => ?_, fun hsubset => ?_⟩
  · obtain ⟨hc, hbc⟩ := mem_above.mp hc
    exact mem_above.mpr ⟨hc, trans_of r h hbc⟩
  · have hself := hsubset (mem_above.mpr ⟨hb, h⟩)
    exact irrefl_of r b (mem_above.mp hself).2

/-- A key does not come after itself. -/
lemma card_above_lt_card (ha : a ∈ keys) : (above r keys a).card < keys.card := by
  apply Finset.card_lt_card
  refine ⟨Finset.filter_subset _ _, fun hsubset => ?_⟩
  exact irrefl_of r a (mem_above.mp (hsubset ha)).2

/-- A key is found by the number of keys after it. -/
lemma card_above_injOn : Set.InjOn (fun key => (above r keys key).card) keys := by
  intro a ha b hb h
  dsimp only at h
  rcases trichotomous_of r a b with hab | hab | hab
  · exact absurd h (card_above_lt hab hb).ne'
  · exact hab
  · exact absurd h (card_above_lt hab ha).ne

/-- So those numbers are the first ones. -/
lemma image_card_above :
    keys.image (fun key => (above r keys key).card) = Finset.range keys.card := by
  apply Finset.eq_of_subset_of_card_le
  · intro n hn
    obtain ⟨a, ha, rfl⟩ := Finset.mem_image.mp hn
    exact Finset.mem_range.mpr (card_above_lt_card ha)
  · rw [Finset.card_image_of_injOn card_above_injOn, Finset.card_range]

/-- The set holds as many keys as it may. -/
lemma card_retained : (retained r limit keys).card = min limit keys.card := by
  have hinj : Set.InjOn (fun key => (above r keys key).card) (retained r limit keys) :=
    card_above_injOn.mono retained_subset
  have himage : (retained r limit keys).image (fun key => (above r keys key).card) =
      Finset.range (min limit keys.card) := by
    ext n
    rw [Finset.mem_range, lt_min_iff, and_comm, ← Finset.mem_range (m := n) (n := keys.card),
      ← image_card_above (r := r), Finset.mem_image, Finset.mem_image]
    constructor
    · rintro ⟨a, ha, rfl⟩
      obtain ⟨ha, hcard⟩ := mem_retained.mp ha
      exact ⟨⟨a, ha, rfl⟩, hcard⟩
    · rintro ⟨⟨a, ha, rfl⟩, hcard⟩
      exact ⟨a, mem_retained.mpr ⟨ha, hcard⟩, rfl⟩
  rw [← Finset.card_image_of_injOn hinj, himage, Finset.card_range]

lemma card_retained_le : (retained r limit keys).card ≤ limit := by
  rw [card_retained]
  exact min_le_left _ _

/-- A set that is small enough is kept whole. -/
lemma retained_of_card_le (h : keys.card ≤ limit) : retained r limit keys = keys := by
  apply Finset.eq_of_subset_of_card_le retained_subset
  rw [card_retained, min_eq_right h]

lemma upClosed_retained : UpClosed r (retained r limit keys) keys where
  subset := retained_subset
  up _ ha _ hb hab := mem_retained.mpr ⟨hb, (card_above_lt hab hb).trans (mem_retained.mp ha).2⟩

/-! ## One more key -/

omit [DecidableRel r] in
/-- Of two parts that are closed upwards one contains the other. -/
lemma UpClosed.eq_of_card_eq (hpart : UpClosed r part keys) (hother : UpClosed r other keys)
    (h : part.card = other.card) : part = other := by
  by_cases hsubset : part ⊆ other
  · exact Finset.eq_of_subset_of_card_le hsubset h.ge
  · obtain ⟨a, ha, hmissing⟩ := Finset.not_subset.mp hsubset
    symm
    refine Finset.eq_of_subset_of_card_le (fun b hb => ?_) h.le
    rcases trichotomous_of r a b with hab | rfl | hab
    · exact hpart.up a ha b (hother.subset hb) hab
    · exact ha
    · exact absurd (hother.up b hb a (hpart.subset ha) hab) hmissing

/-- A set with one key too many loses its first one. -/
lemma mem_retained_of_card_le (h : keys.card ≤ limit + 1) :
    key ∈ retained r limit keys ↔ key ∈ keys ∧ (keys.card ≤ limit ∨ ∃ a ∈ keys, r a key) := by
  rw [mem_retained]
  refine and_congr_right fun hkey => ⟨fun hcard => ?_, ?_⟩
  · by_contra hnot
    push Not at hnot
    obtain ⟨hlimit, hfirst⟩ := hnot
    -- every other key comes after the first one
    classical
    have habove : keys ⊆ insert key (above r keys key) := by
      intro a ha
      rcases trichotomous_of r key a with hlt | rfl | hlt
      · exact Finset.mem_insert_of_mem (mem_above.mpr ⟨ha, hlt⟩)
      · exact Finset.mem_insert_self _ _
      · exact absurd hlt (hfirst a ha)
    have hle := Finset.card_le_card habove
    have hinsert := Finset.card_insert_le key (above r keys key)
    omega
  · rintro (hlimit | ⟨a, ha, hlt⟩)
    · exact (card_above_lt_card hkey).trans_le hlimit
    · have hfirst := card_above_lt_card (r := r) ha
      have hsecond := card_above_lt hlt hkey
      omega

/-- Where a key is missing, the set is full. -/
lemma card_retained_of_missing (hb : b ∈ keys) (hmissing : b ∉ retained r limit keys) :
    (retained r limit keys).card = limit := by
  rw [card_retained, min_eq_left]
  by_contra hsmall
  rw [retained_of_card_le (by omega)] at hmissing
  exact hmissing hb

variable [DecidableEq α]

/-- A key that comes before a missing one comes before all that are kept. -/
lemma subset_above (hb : b ∈ keys) (hmissing : b ∉ retained r limit keys) (h : r a b) :
    retained r limit keys ⊆ above r (insert a (retained r limit keys)) a := by
  intro c hc
  refine mem_above.mpr ⟨Finset.mem_insert_of_mem hc, ?_⟩
  rcases trichotomous_of r b c with hbc | rfl | hcb
  · exact trans_of r h hbc
  · exact h
  · exact absurd (upClosed_retained.up c hc b hb hcb) hmissing

/-- The last keys of a set with one more key are closed upwards in the larger set. -/
lemma upClosed_retained_insert :
    UpClosed r (retained r limit (insert key (retained r limit keys))) (insert key keys) where
  subset := retained_subset.trans (Finset.insert_subset_insert _ retained_subset)
  up a ha b hb hab := by
    by_cases hkept : b ∈ insert key (retained r limit keys)
    · exact upClosed_retained.up a ha b hkept hab
    · obtain ⟨hne, hmissing⟩ := not_or.mp (Finset.mem_insert.not.mp hkept)
      have hkeys : b ∈ keys := (Finset.mem_insert.mp hb).resolve_left hne
      obtain ⟨ha, hcard⟩ := mem_retained.mp ha
      rcases Finset.mem_insert.mp ha with hnew | ha
      · -- the new key comes before a missing one: it is not kept
        rw [hnew] at hab hcard
        have hle := Finset.card_le_card (subset_above hkeys hmissing hab)
        rw [card_retained_of_missing hkeys hmissing] at hle
        exact absurd hcard hle.not_gt
      · exact absurd (upClosed_retained.up a ha b hkeys hab) hmissing

/-- Adding a key to the last keys of a set gives the last keys of the larger set. -/
lemma retained_insert :
    retained r limit (insert key (retained r limit keys)) = retained r limit (insert key keys) := by
  refine upClosed_retained_insert.eq_of_card_eq upClosed_retained ?_
  rw [card_retained, card_retained]
  rcases le_total keys.card limit with hle | hle
  · rw [retained_of_card_le hle]
  · have hkept : limit ≤ (insert key (retained r limit keys)).card := by
      refine le_trans ?_ (Finset.card_le_card (Finset.subset_insert _ _))
      rw [card_retained, min_eq_left hle]
    have hkeys : limit ≤ (insert key keys).card :=
      hle.trans (Finset.card_le_card (Finset.subset_insert _ _))
    rw [min_eq_left hkept, min_eq_left hkeys]

/-! ## What is recorded under a key -/

section Recorded

variable {β : Type} (combine : Option β → β → β)

/-- What a list of entries records under a key: each entry is combined with what was recorded
before it. -/
def recorded (entries : List (α × β)) (key : α) : Option β :=
  entries.foldl (fun found entry => if entry.1 = key then some (combine found entry.2) else found)
    none

/-- The keys of the entries. -/
def keysOf (entries : List (α × β)) : Finset α := (entries.map Prod.fst).toFinset

variable {combine} {entries entries' : List (α × β)} {entry : α × β} {value : β}

@[simp] lemma recorded_nil : recorded combine [] key = none := rfl

@[simp] lemma keysOf_nil : keysOf ([] : List (α × β)) = ∅ := rfl

lemma recorded_snoc : recorded combine (entries ++ [entry]) key =
    if entry.1 = key then some (combine (recorded combine entries key) entry.2)
    else recorded combine entries key := by
  rw [recorded, List.foldl_append]
  rfl

lemma keysOf_snoc : keysOf (entries ++ [entry]) = insert entry.1 (keysOf entries) := by
  ext a
  simp [keysOf]

lemma keysOf_cons : keysOf (entry :: entries) = insert entry.1 (keysOf entries) :=
  List.toFinset_cons

lemma mem_keysOf : key ∈ keysOf entries ↔ ∃ value, (key, value) ∈ entries := by
  simp [keysOf]

lemma recorded_of_notMem (h : key ∉ keysOf entries) : recorded combine entries key = none := by
  induction entries using List.reverseRecOn with
  | nil => rfl
  | append_singleton entries entry ih =>
    rw [keysOf_snoc, Finset.mem_insert, not_or] at h
    rw [recorded_snoc, if_neg (Ne.symm h.1), ih h.2]

/-- Only the entries under the key matter. -/
lemma recorded_filter :
    recorded combine (entries.filter fun entry => entry.1 = key) key =
      recorded combine entries key := by
  induction entries using List.reverseRecOn with
  | nil => rfl
  | append_singleton entries entry ih =>
    rw [List.filter_append, recorded_snoc]
    by_cases h : entry.1 = key
    · rw [List.filter_cons_of_pos (by simpa using h), List.filter_nil, recorded_snoc, ih]
    · rw [List.filter_cons_of_neg (by simpa using h), List.filter_nil, List.append_nil, ih,
        if_neg h]

/-- What is recorded under a key was given under it, if `combine` chooses between the two. -/
lemma mem_of_recorded (hnone : ∀ new, combine none new = new)
    (hsome : ∀ old new, combine (some old) new = old ∨ combine (some old) new = new)
    (h : recorded combine entries key = some value) : (key, value) ∈ entries := by
  induction entries using List.reverseRecOn generalizing value with
  | nil => cases h
  | append_singleton entries entry ih =>
    rw [recorded_snoc] at h
    split_ifs at h with hkey
    · obtain rfl := hkey
      obtain rfl := Option.some.inj h
      cases hfound : recorded combine entries entry.1 with
      | none =>
        rw [hnone]
        simp
      | some old =>
        rcases hsome old entry.2 with hold | hnew
        · rw [hold]
          exact List.mem_append_left _ (ih hfound)
        · rw [hnew]
          simp
    · exact List.mem_append_left _ (ih h)

end Recorded

end Retention
