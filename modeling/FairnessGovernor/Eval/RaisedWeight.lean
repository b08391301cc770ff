/-
# Raising a weight

Without floors a raised weight never lowers what its owner is given.  With floors it may: whoever
holds the most above its floor is the first to fund the floors of others, so a child whose share
grows past another's can be asked for more than it has gained.  What decides is what a child has a
claim to before the floors of others are funded, and what it donates for them.

The competitors are a family here, so that the two calls have the same positions.
-/
import FairnessGovernor.Eval.Overcommit
import FairnessGovernor.Eval.Reference

namespace FairnessGovernor

open Apportion Sorting LargestRemainder

/-! ## Claims and donations -/

section Family

variable {n : ℕ} (child : Fin n → AllocationInput) (whole : ℕ)

/-- The truncated share of a member of the family. -/
def shareOf (i : Fin n) : ℕ := quota (fun j => (child j).weight) whole i

/-- What all floors of the family ask for. -/
def floorsOf : ℕ := ∑ i, (child i).floor

/-- What a member holds above its floor. -/
def slackOf (i : Fin n) : ℕ := shareOf child whole i - (child i).floor

/-- The truncated shares cover the floors, so donations fund those that are not reached. -/
def Funded : Prop := floorsOf child ≤ ∑ i, shareOf child whole i

instance : Decidable (Funded child whole) :=
  inferInstanceAs (Decidable (floorsOf child ≤ ∑ i, shareOf child whole i))

/-- The place in the order of donors: the largest slack first, then the weaker obligation, then
the smaller key. -/
def donorPlace (i : Fin n) : ℕᵒᵈ ×ₗ ℕ ×ₗ ℕ :=
  toLex (OrderDual.toDual (slackOf child whole i),
    toLex ((child i).obligationRank.toNat, (child i).key.toNat))

/-- The place in the order of obligations: the strongest first, then the larger floor, then the
smaller key. -/
def obligationPlace (i : Fin n) : ℕᵒᵈ ×ₗ ℕᵒᵈ ×ₗ ℕ :=
  toLex (OrderDual.toDual (child i).obligationRank.toNat,
    toLex (OrderDual.toDual (child i).floor, (child i).key.toNat))

/-- What a member gives for the floors of others: as much of its slack as the donors before it
leave to be funded. -/
def donationOf (i : Fin n) : ℕ :=
  if Funded child whole then
    min (slackOf child whole i) (∑ j, ((child j).floor - shareOf child whole j) -
      ∑ j with donorPlace child whole j < donorPlace child whole i, slackOf child whole j)
  else 0

/-- What a member has a claim to before the floors of others are funded. -/
def claimOf (i : Fin n) : ℕ :=
  if Funded child whole then
    max (child i).floor (shareOf child whole i) +
      unit (fun j => (child j).weight) (fun j => (child j).key.toNat) whole i
  else (child i).floor + split (fun j => (child j).weight) (fun j => (child j).key.toNat)
    (whole - floorsOf child) i

/-- What is left of its floor for a member when floors are met in obligation order. -/
def metOf (i : Fin n) : ℕ :=
  min (child i).floor
    (whole - ∑ j with obligationPlace child j < obligationPlace child i, (child j).floor)

/-- What a member is given. -/
def givenOf (i : Fin n) : ℕ :=
  if floorsOf child ≤ whole then claimOf child whole i - donationOf child whole i
  else metOf child whole i

lemma donationOf_le_claimOf (i : Fin n) : donationOf child whole i ≤ claimOf child whole i := by
  unfold donationOf claimOf slackOf
  split_ifs <;> omega

end Family

section Closed

variable {children : List AllocationInput} {whole : ℕ}

lemma donationAt_eq_donationOf (hkeys : (children.map (·.key)).Nodup)
    (hfits : floorSum children ≤ shareSum children whole) (i : Fin children.length) :
    donationAt children whole i = donationOf (childAt children) whole i := by
  have hinjective : Function.Injective (donorKey children (shareAt children whole)) := by
    intro a b h
    exact childKey_injective hkeys (congrArg (fun k => (ofLex (ofLex k).2).2) h)
  have hcompares := donorBefore_compares children (shareAt children whole)
  have hfunded : Funded (childAt children) whole := hfits
  unfold donationAt donorOrder donationOf
  rw [takes_stdSort hcompares hinjective
    (fun j hj => by simpa [room, Nat.sub_eq_zero_iff_le] using hj), if_pos hfunded]
  simp only [hcompares _ i, decide_eq_true_iff]
  rfl

/-- The closed form of a call, by its family. -/
lemma allotted_eq_givenOf (hkeys : (children.map (·.key)).Nodup)
    (hpos : 0 < ∑ i, weightAt children i) :
    allotted children whole = givenOf (childAt children) whole := by
  funext i
  have hshares : shareSum children whole ≤ whole := sum_share_le whole rfl hpos
  unfold givenOf
  by_cases hfits : floorSum children ≤ shareSum children whole
  · -- donations fund the floors
    have hclaim : claimOf (childAt children) whole i = max (floorAt children i)
        (shareAt children whole i) + unit (weightAt children) (keyAt children) whole i :=
      if_pos hfits
    have hdonation := @donationAt_le children whole i
    rw [donationAt_eq_donationOf hkeys hfits] at hdonation
    unfold room at hdonation
    rw [if_pos (show floorsOf (childAt children) ≤ whole from hfits.trans hshares), hclaim,
      allotted, if_pos hfits, donationAt_eq_donationOf hkeys hfits, residueAt_eq_unit hkeys]
    omega
  · rcases Nat.lt_or_ge whole (floorSum children) with hexceeds | hle
    · have hinjective : Function.Injective (obligationKey children) := by
        intro a b h
        exact childKey_injective hkeys (congrArg (fun k => (ofLex (ofLex k).2).2) h)
      have hcompares := obligationBefore_compares children
      have htakes := @takes_stdSort _ _ _ _ _ hcompares hinjective (fun _ => true)
        (floorAt children) (fun _ h => by cases h) whole i
      rw [List.filter_true] at htakes
      rw [if_neg (show ¬ floorsOf (childAt children) ≤ whole from not_le.mpr hexceeds),
        allotted_of_exceeds hpos hexceeds, obligationOrder, htakes]
      simp only [hcompares _ i, decide_eq_true_iff]
      rfl
    · -- the floors take what the rounding left over
      have hclaim : claimOf (childAt children) whole i = floorAt children i +
          split (weightAt children) (keyAt children) (whole - floorSum children) i := if_neg hfits
      have hdonation : donationOf (childAt children) whole i = 0 := if_neg hfits
      rw [if_pos (show floorsOf (childAt children) ≤ whole from hle), hclaim, hdonation, allotted,
        if_neg hfits, metAt_of_fits hle, weighedAt, residueAt_eq_unit hkeys, Nat.sub_zero]
      rfl

/-- What a family is given. -/
lemma allocateWhole_ofFn {n : ℕ} {child : Fin n → AllocationInput} {r : AllocationResult}
    (hkeys : ((List.ofFn child).map (·.key)).Nodup) (hwhole : whole ≤ kUInt64Max)
    (h : allocateWhole (List.ofFn child) whole = .ok r) :
    r.allocations = List.ofFn (givenOf child whole) := by
  refine forall_family (P := fun n child children => (children.map (·.key)).Nodup →
    allocateWhole children whole = .ok r → r.allocations = List.ofFn (givenOf child whole))
    (fun children hkeys h => ?_) child hkeys h
  obtain ⟨hpos, hallocations, -, -⟩ := allocateWhole_allotted hwhole h
  rw [hallocations, allotted_eq_givenOf hkeys hpos]

end Closed

/-! ## The raised weight -/

/-- The family with the weight of one member raised. -/
def raise {n : ℕ} (child : Fin n → AllocationInput) (i : Fin n) (raised : ℕ) :
    Fin n → AllocationInput :=
  Function.update child i { child i with weight := raised }

/-- The list of competitors with the weight of one of them raised. -/
def withWeight (children : List AllocationInput) (i : Fin children.length) (raised : ℕ) :
    List AllocationInput :=
  children.set i { childAt children i with weight := raised }

lemma withWeight_eq (children : List AllocationInput) (i : Fin children.length) (raised : ℕ) :
    withWeight children i raised = List.ofFn (raise (childAt children) i raised) := by
  unfold withWeight raise
  refine List.ext_getElem (by simp) fun k h₁ h₂ => ?_
  have hk : k < children.length := by simpa using h₁
  rw [List.getElem_ofFn, List.getElem_set]
  by_cases hik : (i : ℕ) = k
  · subst hik
    rw [if_pos rfl, Function.update_self]
  · have hne : (⟨k, hk⟩ : Fin children.length) ≠ i := fun h => hik (congrArg Fin.val h).symm
    rw [if_neg hik, Function.update_of_ne hne]
    rfl

lemma map_key_withWeight (children : List AllocationInput) (i : Fin children.length)
    (raised : ℕ) : (withWeight children i raised).map (·.key) = children.map (·.key) := by
  have hi : (i : ℕ) < (children.map (·.key)).length := by simp
  have hkey : (children.map (·.key))[(i : ℕ)] = (childAt children i).key := by simp
  rw [withWeight, List.map_set, ← hkey, List.set_getElem_self]

section Raise

variable {n : ℕ} {child : Fin n → AllocationInput} {i : Fin n} {raised whole : ℕ}

@[simp] lemma raise_floor (j : Fin n) : (raise child i raised j).floor = (child j).floor := by
  unfold raise
  rw [Function.update_apply]
  split_ifs with h
  · rw [h]
  · rfl

@[simp] lemma raise_key (j : Fin n) : (raise child i raised j).key = (child j).key := by
  unfold raise
  rw [Function.update_apply]
  split_ifs with h
  · rw [h]
  · rfl

@[simp] lemma raise_rank (j : Fin n) :
    (raise child i raised j).obligationRank = (child j).obligationRank := by
  unfold raise
  rw [Function.update_apply]
  split_ifs with h
  · rw [h]
  · rfl

@[simp] lemma raise_weight_self : (raise child i raised i).weight = raised := by
  unfold raise
  rw [Function.update_self]

lemma raise_weight_of_ne {j : Fin n} (hj : j ≠ i) :
    (raise child i raised j).weight = (child j).weight := by
  unfold raise
  rw [Function.update_of_ne hj]

@[simp] lemma floorsOf_raise : floorsOf (raise child i raised) = floorsOf child :=
  Finset.sum_congr rfl fun j _ => raise_floor j

/-- Where floors are met in obligation order, weights are not looked at. -/
lemma metOf_raise : metOf (raise child i raised) whole = metOf child whole := by
  funext j
  unfold metOf obligationPlace
  simp

/-! ## When the part is kept -/

/-- A raised weight does not lower the part of its owner: weights do not matter where the floors
exceed the whole; else what its owner donates for the floors of others grows by no more than what
it has a claim to. -/
def RaiseKeeps (child : Fin n → AllocationInput) (i : Fin n) (raised whole : ℕ) : Prop :=
  whole < floorsOf child ∨
    claimOf child whole i + donationOf (raise child i raised) whole i ≤
      claimOf (raise child i raised) whole i + donationOf child whole i

lemma givenOf_le_iff : givenOf child whole i ≤ givenOf (raise child i raised) whole i ↔
    RaiseKeeps child i raised whole := by
  have hle := donationOf_le_claimOf child whole i
  have hle' := donationOf_le_claimOf (raise child i raised) whole i
  unfold givenOf RaiseKeeps
  rw [floorsOf_raise, metOf_raise]
  split_ifs with hfits
  · constructor
    · intro h
      exact .inr (by omega)
    · rintro (hexceeds | h) <;> omega
  · exact ⟨fun _ => .inl (by omega), fun _ => le_rfl⟩

section Monotone

variable (hraised : (child i).weight ≤ raised)
  (hkeys : Function.Injective fun j => (child j).key.toNat) (hpos : 0 < ∑ j, (child j).weight)

include hraised hkeys hpos

/-- The method itself is monotone, whatever it splits. -/
lemma split_le_raise (units : ℕ) :
    split (fun j => (child j).weight) (fun j => (child j).key.toNat) units i ≤
      split (fun j => (raise child i raised j).weight)
        (fun j => (raise child i raised j).key.toNat) units i := by
  have hsame : (fun j => (raise child i raised j).key.toNat) = fun j => (child j).key.toNat := by
    funext j
    rw [raise_key]
  rw [hsame]
  exact split_le_of_raised (by rw [raise_weight_self]; exact hraised)
    (fun j hj => raise_weight_of_ne hj) hpos hkeys

/-- Where no floor exceeds its share before and after, the part is kept. -/
theorem raiseKeeps_of_floors_le (hfloors : ∀ j, (child j).floor ≤ shareOf child whole j)
    (hfloors' : ∀ j, (child j).floor ≤ shareOf (raise child i raised) whole j) :
    RaiseKeeps child i raised whole := by
  have hfunded : Funded child whole := Finset.sum_le_sum fun j _ => hfloors j
  have hfunded' : Funded (raise child i raised) whole := by
    unfold Funded
    rw [floorsOf_raise]
    exact Finset.sum_le_sum fun j _ => hfloors' j
  have hnothing' : ∑ j, ((raise child i raised j).floor -
      shareOf (raise child i raised) whole j) = 0 := by
    refine Finset.sum_eq_zero fun j _ => ?_
    rw [raise_floor]
    have := hfloors' j
    omega
  have hsplit := split_le_raise hraised hkeys hpos whole
  have hle := hfloors i
  have hle' := hfloors' i
  refine .inr ?_
  unfold claimOf donationOf
  rw [if_pos hfunded, if_pos hfunded', if_pos hfunded, if_pos hfunded', hnothing', raise_floor]
  unfold split at hsplit
  unfold shareOf at *
  omega

/-- Where the shares cover the floors neither before nor after, the part is kept. -/
theorem raiseKeeps_of_not_funded (hfunded : ¬ Funded child whole)
    (hfunded' : ¬ Funded (raise child i raised) whole) : RaiseKeeps child i raised whole := by
  have hsplit := split_le_raise hraised hkeys hpos (whole - floorsOf child)
  refine .inr ?_
  unfold claimOf donationOf
  rw [if_neg hfunded, if_neg hfunded', if_neg hfunded, if_neg hfunded', raise_floor,
    floorsOf_raise]
  omega

/-- Who holds its floor by its share, and donates no more than before, keeps its part. -/
theorem raiseKeeps_of_donation_le (hfunded : Funded child whole)
    (hfunded' : Funded (raise child i raised) whole)
    (hfloor : (child i).floor ≤ shareOf child whole i)
    (hdonation : donationOf (raise child i raised) whole i ≤ donationOf child whole i) :
    RaiseKeeps child i raised whole := by
  have hsplit := split_le_raise hraised hkeys hpos whole
  refine .inr ?_
  unfold claimOf
  rw [if_pos hfunded, if_pos hfunded', raise_floor]
  unfold split at hsplit
  unfold shareOf at *
  omega

end Monotone

end Raise

/-! ## The modifier -/

/-- The scale that a modifier puts on a weight. -/
def scaleOf (m : Int32) : ℕ :=
  if (kBasisPointScale : ℤ) + m.toInt ≤ 0 then 1 else ((kBasisPointScale : ℤ) + m.toInt).toNat

lemma scaleOf_bounds (m : Int32) : 1 ≤ scaleOf m ∧ scaleOf m < 2 ^ 32 := by
  have hm := m.toInt_lt
  unfold scaleOf kBasisPointScale
  split_ifs <;> omega

lemma scaleOf_mono {m m' : Int32} (h : m.toInt ≤ m'.toInt) : scaleOf m ≤ scaleOf m' := by
  unfold scaleOf
  split_ifs <;> omega

/-- The product of weight and scale fits its word, so it is never cut off. -/
lemma effectiveShareWeight_eq (weight : UInt32) (m : Int32) :
    effectiveShareWeight weight m = max 1 (weight.toNat * scaleOf m) := by
  obtain ⟨-, hle⟩ := scaleOf_bounds m
  have hweight := weight.toNat_lt
  have hprod := @mulWide_toNat weight.toNat (scaleOf m) (by omega) (by omega)
  have hfits : weight.toNat * scaleOf m < 2 ^ 64 := by
    calc weight.toNat * scaleOf m < 2 ^ 32 * 2 ^ 32 := Nat.mul_lt_mul'' hweight hle
      _ = 2 ^ 64 := by norm_num
  have hhi : (mulWide weight.toNat (scaleOf m)).hi = 0 := by
    have h := hprod.1
    unfold U128.toNat at h
    omega
  have hlo : (mulWide weight.toNat (scaleOf m)).lo = weight.toNat * scaleOf m := by
    have h := hprod.1
    unfold U128.toNat at h
    omega
  unfold scaleOf at *
  unfold effectiveShareWeight
  simp only [U128.fitsU64, hhi, hlo]
  generalize weight.toNat * (if (kBasisPointScale : ℤ) + m.toInt ≤ 0 then 1
    else ((kBasisPointScale : ℤ) + m.toInt).toNat) = product
  rcases Nat.eq_zero_or_pos product with rfl | hproduct
  · rfl
  · rw [if_neg (by simp; omega), Nat.max_eq_right hproduct]

/-- A higher modifier is a raised weight. -/
lemma effectiveShareWeight_mono (weight : UInt32) {m m' : Int32} (h : m.toInt ≤ m'.toInt) :
    effectiveShareWeight weight m ≤ effectiveShareWeight weight m' := by
  rw [effectiveShareWeight_eq, effectiveShareWeight_eq]
  exact max_le_max le_rfl (Nat.mul_le_mul_left _ (scaleOf_mono h))

/-! ## The allocator -/

/-- Raising a weight keeps the part of its owner exactly where the donation does not outgrow the
claim, so always where no floor exceeds its share; and a higher modifier is a raised weight. -/
theorem raisedWeight_iff {children : List AllocationInput} {i : Fin children.length}
    {raised whole : ℕ} {r r' : AllocationResult} (hwhole : whole ≤ kUInt64Max)
    (hkeys : (children.map (·.key)).Nodup) (hraised : (childAt children i).weight ≤ raised)
    (h : allocateWhole children whole = .ok r)
    (h' : allocateWhole (withWeight children i raised) whole = .ok r') :
    (r.allocations.getD i 0 ≤ r'.allocations.getD i 0 ↔
      RaiseKeeps (childAt children) i raised whole) ∧
    ((∀ j, (childAt children j).floor ≤ shareOf (childAt children) whole j ∧
        (childAt children j).floor ≤ shareOf (raise (childAt children) i raised) whole j) →
      r.allocations.getD i 0 ≤ r'.allocations.getD i 0) ∧
    ∀ (weight : UInt32) (m m' : Int32), m.toInt ≤ m'.toInt →
      effectiveShareWeight weight m ≤ effectiveShareWeight weight m' := by
  obtain ⟨hpos, hgiven, -, -⟩ := allocateWhole_allotted hwhole h
  rw [allotted_eq_givenOf hkeys hpos] at hgiven
  rw [withWeight_eq] at h'
  have hkeys' : ((List.ofFn (raise (childAt children) i raised)).map (·.key)).Nodup := by
    rwa [← withWeight_eq, map_key_withWeight]
  have hiff : r.allocations.getD i 0 ≤ r'.allocations.getD i 0 ↔
      RaiseKeeps (childAt children) i raised whole := by
    rw [hgiven, allocateWhole_ofFn hkeys' hwhole h', ← givenOf_le_iff]
    simp [List.getD_eq_getElem?_getD]
  refine ⟨hiff, fun hfloors => hiff.mpr ?_, fun weight m m' => effectiveShareWeight_mono weight⟩
  exact raiseKeeps_of_floors_le hraised (keyAt_injective hkeys) hpos (fun j => (hfloors j).1)
    fun j => (hfloors j).2

/-- Three subjects share a whole; the last one has a floor above its share. -/
def fundedTriple (modifierBps : Int32) : List AllocationInput :=
  [{ key := 1, weight := effectiveShareWeight 4 modifierBps },
    { key := 2, weight := effectiveShareWeight 5 0 },
    { key := 3, weight := effectiveShareWeight 1 0, floor := 20 }]

theorem raisedWeight_iff_funded : ∃ r r',
    allocateWhole (fundedTriple 0) 100 = .ok r ∧
    allocateWhole (withWeight (fundedTriple 0) ⟨1, by decide⟩ (effectiveShareWeight 5 1000)) 100 =
      .ok r' ∧
    ((r.allocations.getD 1 0 ≤ r'.allocations.getD 1 0 ↔
      RaiseKeeps (childAt (fundedTriple 0)) ⟨1, by decide⟩ (effectiveShareWeight 5 1000) 100) ∧
    ((∀ j, (childAt (fundedTriple 0) j).floor ≤ shareOf (childAt (fundedTriple 0)) 100 j ∧
        (childAt (fundedTriple 0) j).floor ≤ shareOf (raise (childAt (fundedTriple 0))
          ⟨1, by decide⟩ (effectiveShareWeight 5 1000)) 100 j) →
      r.allocations.getD 1 0 ≤ r'.allocations.getD 1 0) ∧
    ∀ (weight : UInt32) (m m' : Int32), m.toInt ≤ m'.toInt →
      effectiveShareWeight weight m ≤ effectiveShareWeight weight m') := by
  obtain ⟨r, hr, -⟩ := @allocateWhole_ok (fundedTriple 0) 100
    ⟨by decide, by decide, by decide, by decide, by decide, by decide⟩
  obtain ⟨r', hr', -⟩ := @allocateWhole_ok
    (withWeight (fundedTriple 0) ⟨1, by decide⟩ (effectiveShareWeight 5 1000)) 100
    ⟨by decide, by decide, by decide, by decide, by decide, by decide⟩
  exact ⟨r, r', hr, hr', raisedWeight_iff (by decide) (by decide) (by decide) hr hr'⟩

/-- The first subject becomes the first donor when its modifier is raised, and gets less. -/
theorem not_raisedWeight : ∃ r r', allocateWhole (fundedTriple 0) 100 = .ok r ∧
    withWeight (fundedTriple 0) ⟨0, by decide⟩ (effectiveShareWeight 4 5000) =
      fundedTriple 5000 ∧
    effectiveShareWeight 4 0 < effectiveShareWeight 4 5000 ∧
    allocateWhole (fundedTriple 5000) 100 = .ok r' ∧
    r'.allocations.getD 0 0 < r.allocations.getD 0 0 := by
  have hbefore : (allocateWhole (fundedTriple 0) 100).toOption.any
      (fun r => decide (r.allocations = [40, 40, 20])) = true := by decide +kernel
  have hafter : (allocateWhole (fundedTriple 5000) 100).toOption.any
      (fun r => decide (r.allocations.getD 0 0 < 40)) = true := by decide +kernel
  obtain ⟨r, hr, hgiven⟩ := exists_ok_of_any hbefore
  obtain ⟨r', hr', hless⟩ := exists_ok_of_any hafter
  refine ⟨r, r', hr, by decide +kernel, by decide +kernel, hr', ?_⟩
  rw [of_decide_eq_true hgiven]
  exact of_decide_eq_true hless

end FairnessGovernor
