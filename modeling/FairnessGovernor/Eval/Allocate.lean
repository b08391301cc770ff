/-
# Exact allocation of a whole

`allocateWhole` distributes a whole among competing children.  Every child first gets its
truncated weighted share; then the guarantee floors are met, either by taking units from
children above their floor (*reallocation*, when their slack covers the shortfall) or, when
the floors cannot all be met, in descending obligation rank (*overcommit*); and the rounding
residue is handed out one unit at a time in descending remainder order.

The source keeps arrays indexed by child; here they are functions on the child's index.
-/
import FairnessGovernor.Core.U128
import FairnessGovernor.Lib.Apportion

namespace FairnessGovernor

open Apportion

/-! ## The weight of a competitor -/

/-- `effective_share_weight`: the share weight after a value modifier, in basis points. -/
def effectiveShareWeight (weight : UInt32) (modifierBps : Int32) : ℕ :=
  let factor : ℤ := kBasisPointScale + modifierBps.toInt
  let scale := if factor ≤ 0 then 1 else factor.toNat
  let product := mulWide weight.toNat scale
  if ¬ product.fitsU64 ∨ product.lo = 0 then 1 else product.lo

/-- The bound on an effective weight that a validated policy guarantees. -/
def kMaxEffectiveWeight : ℕ := kMaxShareWeight * (kBasisPointScale + kMaxPriorityModifierBps)

lemma effectiveShareWeight_bounds {weight : UInt32} {modifierBps : Int32}
    (hweight : weight.toNat ≤ kMaxShareWeight)
    (hmod : modifierBps.toInt.natAbs ≤ kMaxPriorityModifierBps) :
    1 ≤ effectiveShareWeight weight modifierBps ∧
      effectiveShareWeight weight modifierBps ≤ kMaxEffectiveWeight := by
  obtain ⟨scale, hscale⟩ : ∃ scale, scale =
      if (kBasisPointScale : ℤ) + modifierBps.toInt ≤ 0 then 1
      else ((kBasisPointScale : ℤ) + modifierBps.toInt).toNat := ⟨_, rfl⟩
  have hle : scale ≤ kBasisPointScale + kMaxPriorityModifierBps := by
    unfold kBasisPointScale kMaxPriorityModifierBps at *
    split_ifs at hscale <;> omega
  have hmul : weight.toNat * scale ≤ kMaxEffectiveWeight := Nat.mul_le_mul hweight hle
  have hprod := @mulWide_toNat weight.toNat scale
    (lt_of_lt_of_le weight.toNat_lt (by norm_num))
    (by unfold kBasisPointScale kMaxPriorityModifierBps at hle; omega)
  simp only [effectiveShareWeight, ← hscale]
  split_ifs with h
  · exact ⟨le_rfl, by decide⟩
  · rw [not_or, not_not] at h
    have hhi : (mulWide weight.toNat scale).hi = 0 := by simpa [U128.fitsU64] using h.1
    have hlo := hprod.1
    rw [U128.toNat, hhi, Nat.zero_mul, Nat.zero_add] at hlo
    exact ⟨Nat.pos_of_ne_zero h.2, by rw [hlo]; exact hmul⟩

/-! ## The allocator -/

/-- One competitor for a share of a whole. -/
structure AllocationInput where
  key : UInt64 := 0
  weight : ℕ := 1
  floor : ℕ := 0
  obligationRank : UInt32 := 0
deriving DecidableEq, Inhabited

/-- What each competitor was given, in input order. -/
structure AllocationResult where
  allocations : List ℕ := []
  floorBinding : List Bool := []
  overcommit : Bool := false
  overcommitShortfall : ℕ := 0
deriving DecidableEq, Inhabited

/-- The loop that sums the weights. -/
def weightTotal : List ℕ → ℕ → Eval ℕ
  | [], weightSum => .ok weightSum
  | weight :: rest, weightSum =>
    if weight = 0 then fail .outOfRange "share weight must be >= 1"
    else do
      let weightSum ← orFail .arithmeticOverflow "share weight sum overflows"
        (checkedAdd weightSum weight)
      weightTotal rest weightSum

/-- A loop that gives every weight its truncated share of `whole` and totals the shares. -/
def shareTotal (shareDetail totalDetail : String) (whole weightSum : ℕ) :
    List ℕ → ℕ → Eval ℕ
  | [], assigned => .ok assigned
  | weight :: rest, assigned =>
    let computed := mulDiv whole weight weightSum
    if ¬ computed.ok then fail .arithmeticOverflow shareDetail
    else do
      let assigned ← orFail .arithmeticOverflow totalDetail (checkedAdd assigned computed.value)
      shareTotal shareDetail totalDetail whole weightSum rest assigned

/-- The loop that totals the shortfall below the floors and the slack above them, over pairs
of a floor and a share. -/
def floorTotals : List (ℕ × ℕ) → ℕ → ℕ → Eval (ℕ × ℕ)
  | [], need, slack => .ok (need, slack)
  | (floor, share) :: rest, need, slack =>
    if floor > share then do
      let need ← orFail .arithmeticOverflow "floor shortfall overflows"
        (checkedAdd need (floor - share))
      floorTotals rest need slack
    else do
      let slack ← orFail .arithmeticOverflow "floor slack overflows"
        (checkedAdd slack (share - floor))
      floorTotals rest need slack

section Allocate

variable (children : List AllocationInput)

/-- The competitor at an index. -/
abbrev childAt (i : Fin children.length) : AllocationInput := children.get i

/-- The declared floor of the competitor at an index. -/
def floorAt (i : Fin children.length) : ℕ := (childAt children i).floor

/-- What a competitor holds above its floor. -/
def room (share : Fin children.length → ℕ) (i : Fin children.length) : ℕ :=
  share i - floorAt children i

/-- Donors give in descending slack, then ascending obligation, then ascending key. -/
def donorBefore (share : Fin children.length → ℕ) (a b : Fin children.length) : Bool :=
  if room children share a ≠ room children share b then
    room children share a > room children share b
  else if (childAt children a).obligationRank ≠ (childAt children b).obligationRank then
    (childAt children a).obligationRank < (childAt children b).obligationRank
  else (childAt children a).key < (childAt children b).key

/-- Floors that cannot all be met are met in descending obligation, then floor. -/
def obligationBefore (a b : Fin children.length) : Bool :=
  if (childAt children a).obligationRank ≠ (childAt children b).obligationRank then
    (childAt children a).obligationRank > (childAt children b).obligationRank
  else if floorAt children a ≠ floorAt children b then
    floorAt children a > floorAt children b
  else (childAt children a).key < (childAt children b).key

/-- The rounding residue goes to the largest remainder first. -/
def residueBefore (residue : Fin children.length → ℕ) (a b : Fin children.length) : Bool :=
  if residue a ≠ residue b then residue a > residue b
  else (childAt children a).key < (childAt children b).key

/-- The children above their floor, in the order in which they give. -/
def donorOrder (share : Fin children.length → ℕ) : List (Fin children.length) :=
  stdSort (donorBefore children share)
    ((List.finRange children.length).filter fun i => share i > floorAt children i)

/-- The children in the order in which their floors are met. -/
def obligationOrder : List (Fin children.length) :=
  stdSort (obligationBefore children) (List.finRange children.length)

/-- The children in the order in which they receive the rounding residue. -/
def residueOrder (residue : Fin children.length → ℕ) : List (Fin children.length) :=
  stdSort (residueBefore children residue) (List.finRange children.length)

/-- What one of the three branches decides, before the residue is handed out. -/
structure BranchResult where
  allocation : Fin children.length → ℕ
  floorBinding : Fin children.length → Bool := fun _ => false
  overcommit : Bool := false
  overcommitShortfall : ℕ := 0

/-- The slack covers the shortfall: units move from donors to the children below their floor. -/
def reallocate (share : Fin children.length → ℕ) (need : ℕ) : Eval (BranchResult children) :=
  let order := donorOrder children share
  if left (room children share) order need ≠ 0 then
    fail .internal "floor reallocation did not close"
  else .ok
    { allocation := fun i =>
        if floorAt children i > share i then floorAt children i
        else share i - takes (room children share) order need i
      floorBinding := fun i => floorAt children i > share i }

/-- The floors cannot all be met: they are met in obligation order, and what remains is
shared by weight. -/
def overcommitted (share : Fin children.length → ℕ) (whole weightSum : ℕ) :
    Eval (BranchResult children) := do
  let order := obligationOrder children
  let available := left (floorAt children) order whole
  let extraAssigned ← shareTotal "overcommit share overflowed" "overcommit total overflows"
    available weightSum (children.map (·.weight)) 0
  let extra := fun i => mulDiv available (childAt children i).weight weightSum
  let extraLeft ← usub available extraAssigned
  if extraLeft ≥ children.length + 1 then
    fail .internal "overcommit rounding residue exceeded the bound"
  else do
    let extraOrder := residueOrder children fun i => (extra i).remainder
    let allocation ← collect fun i => do
      let shared ← uadd (takes (floorAt children) order whole i) (extra i).value
      uadd shared (handOut extraOrder extraLeft i)
    let shortfall ← orFail .arithmeticOverflow "overcommit shortfall overflows"
      (checkedTotal (List.ofFn fun i => floorAt children i - allocation i) 0)
    .ok
      { allocation := allocation
        floorBinding := fun i =>
          ¬ floorAt children i > allocation i ∧ floorAt children i > share i
        overcommit := true
        overcommitShortfall := shortfall }

/-- The three branches: no floor binds, reallocation, overcommit. -/
def branch (share : Fin children.length → ℕ) (need slack whole weightSum : ℕ) :
    Eval (BranchResult children) :=
  if need = 0 then .ok { allocation := share }
  else if need ≤ slack then reallocate children share need
  else overcommitted children share whole weightSum

/-- The rounding residue, handed out unless overcommit already used it. -/
def withResidue (result : BranchResult children) (residue : Fin children.length → ℕ)
    (leftover : ℕ) : Eval (Fin children.length → ℕ) :=
  if ¬ result.overcommit ∧ leftover > 0 then
    if leftover ≥ children.length + 1 then
      fail .internal "rounding residue exceeded the competitor count"
    else
      collect fun i => uadd (result.allocation i) (handOut (residueOrder children residue) leftover i)
  else .ok result.allocation

/-- `allocate_whole`. -/
def allocateWhole (whole : ℕ) : Eval AllocationResult :=
  if children = [] then
    fail .invalidArgument "allocation requires at least one competitor"
  else if children.length > kMaxSubjects + kMaxGroups then
    fail .limitExceeded "allocation competitor count exceeds the bound"
  else do
    let weightSum ← weightTotal (children.map (·.weight)) 0
    let assigned ← shareTotal "weighted share overflowed" "assigned total overflows" whole
      weightSum (children.map (·.weight)) 0
    let share := fun i => (mulDiv whole (childAt children i).weight weightSum).value
    let residue := fun i => (mulDiv whole (childAt children i).weight weightSum).remainder
    if assigned > whole then fail .internal "weighted shares exceeded the whole"
    else do
      let totals ← floorTotals (List.ofFn fun i => (floorAt children i, share i)) 0 0
      let result ← branch children share totals.1 totals.2 whole weightSum
      let allocation ← withResidue children result residue (whole - assigned)
      let total ← orFail .arithmeticOverflow "allocation total overflows"
        (checkedTotal (List.ofFn allocation) 0)
      if total ≠ whole then fail .internal "allocation did not close over the whole"
      else
        .ok
          { allocations := List.ofFn allocation
            floorBinding := List.ofFn result.floorBinding
            overcommit := result.overcommit
            overcommitShortfall := result.overcommitShortfall }

end Allocate

/-- Two equal competitors share an odd whole: the smaller key gets the odd unit. -/
example : allocateWhole [{ key := 1 }, { key := 2 }] 5 =
    .ok { allocations := [3, 2], floorBinding := [false, false] } := by decide +kernel

end FairnessGovernor
