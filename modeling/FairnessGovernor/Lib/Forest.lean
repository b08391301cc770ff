/-
# Top-down walks over a forest

A forest is a parent map of bounded depth with, for every node, the list of its children.  A
top-down walk visits a node and then walks its children in order; on a forest it visits every
node exactly once, a parent always before its children (`pairwise_preorder`).  Hence what a
visit establishes about a node holds at the end of the walk, if visiting another node, no
child of which it is, does not disturb it (`foldlM_establishes`).

The last section is the conservation law such walks are used for: when every node passes on
exactly what it holds, to its children and to the leaves it owns, the leaves hold together
what the roots hold.
-/
import Mathlib.Algebra.BigOperators.Group.Finset.Basic
import Mathlib.Data.Fintype.BigOperators
import Mathlib.Logic.Relation
import Mathlib.Tactic

namespace Forest

/-- The nodes `ι` form a forest: `children` lists the nodes below each node, every node sits
one level below its parent, and no node is deeper than `maxDepth`. -/
structure IsForest {ι : Type} (parent : ι → Option ι) (children : ι → List ι) (depth : ι → ℕ)
    (maxDepth : ℕ) : Prop where
  mem_children : ∀ {p c}, c ∈ children p ↔ parent c = some p
  nodup_children : ∀ p, (children p).Nodup
  depth_child : ∀ {p c}, parent c = some p → depth c = depth p + 1
  depth_pos : ∀ c, 0 < depth c
  depth_le : ∀ c, depth c ≤ maxDepth

section Walk

variable {ι : Type} {parent : ι → Option ι} {children : ι → List ι} {depth : ι → ℕ} {maxDepth : ℕ}

/-- `c` is `a` or below it. -/
def Descends (parent : ι → Option ι) (c a : ι) : Prop :=
  Relation.ReflTransGen (fun c p => parent c = some p) c a

lemma Descends.of_parent {c p a : ι} (hp : parent c = some p) (h : Descends parent p a) :
    Descends parent c a := Relation.ReflTransGen.head hp h

/-- Going down means going deeper. -/
lemma IsForest.descends_depth (hf : IsForest parent children depth maxDepth) {c a : ι}
    (h : Descends parent c a) : c = a ∨ depth a < depth c := by
  induction h using Relation.ReflTransGen.head_induction_on with
  | refl => exact .inl rfl
  | head hstep _ ih =>
    have := hf.depth_child hstep
    rcases ih with rfl | hlt
    · exact .inr (by omega)
    · exact .inr (by omega)

/-- Two nodes of one depth have no common descendant unless they are equal. -/
lemma IsForest.descends_unique (hf : IsForest parent children depth maxDepth) {c a b : ι}
    (ha : Descends parent c a) (hb : Descends parent c b) (hdepth : depth a = depth b) : a = b := by
  have hright : Relator.RightUnique (fun c p => parent c = some p) := fun x y z hy hz =>
    Option.some.inj (hy.symm.trans hz)
  rcases Relation.ReflTransGen.total_of_right_unique hright ha hb with h | h
  · rcases hf.descends_depth h with h | h
    · exact h
    · omega
  · rcases hf.descends_depth h with h | h
    · exact h.symm
    · omega

/-- No node is above itself. -/
lemma IsForest.acyclic (hf : IsForest parent children depth maxDepth) (i : ι) :
    ¬ Relation.TransGen (fun c p => parent c = some p) i i := by
  intro h
  obtain ⟨p, hp, hup⟩ := Relation.TransGen.head'_iff.mp h
  have hstep := hf.depth_child hp
  rcases hf.descends_depth hup with rfl | hlt
  · omega
  · omega

/-- A chain of parents is no longer than its first node is deep. -/
lemma IsForest.chain_le (hf : IsForest parent children depth maxDepth) {c : ι} {chain : List ι}
    (h : (c :: chain).IsChain fun c p => parent c = some p) :
    (c :: chain).length ≤ depth c := by
  induction chain generalizing c with
  | nil => exact hf.depth_pos c
  | cons p rest ih =>
    rw [List.isChain_cons_cons] at h
    have hrest := ih h.2
    rw [hf.depth_child h.1, List.length_cons]
    omega

/-- A node has a chain of parents to a root that is as long as the node is deep. -/
lemma IsForest.exists_chain (hf : IsForest parent children depth maxDepth)
    (hroot : ∀ i, parent i = none → depth i = 1) (i : ι) :
    ∃ chain, (i :: chain).IsChain (fun c p => parent c = some p) ∧
      parent ((i :: chain).getLast (List.cons_ne_nil _ _)) = none ∧
      (i :: chain).length = depth i := by
  obtain ⟨n, hn⟩ : ∃ n, n = depth i := ⟨_, rfl⟩
  induction n generalizing i with
  | zero =>
    have hpos := hf.depth_pos i
    omega
  | succ n ih =>
    cases hp : parent i with
    | none => exact ⟨[], List.isChain_singleton _, hp, (hroot i hp).symm⟩
    | some p =>
      have hdepth := hf.depth_child hp
      obtain ⟨chain, hchain, hlast, hlength⟩ := ih p (by omega)
      refine ⟨p :: chain, List.isChain_cons_cons.mpr ⟨hp, hchain⟩, ?_, ?_⟩
      · rwa [List.getLast_cons (List.cons_ne_nil _ _)]
      · rw [List.length_cons, hlength, hdepth]

/-! ## Preorder -/

/-- The nodes from `i` down, parents before their children. -/
def preorder (children : ι → List ι) : ℕ → ι → List ι
  | 0, _ => []
  | fuel + 1, i => i :: (children i).flatMap (preorder children fuel)

/-- With enough fuel the preorder lists exactly the descendants. -/
lemma IsForest.mem_preorder (hf : IsForest parent children depth maxDepth) {fuel : ℕ} {i c : ι}
    (hfuel : maxDepth < depth i + fuel) :
    c ∈ preorder children fuel i ↔ Descends parent c i := by
  induction fuel generalizing i with
  | zero => have := hf.depth_le i; omega
  | succ fuel ih =>
    have hchild : ∀ d ∈ children i, maxDepth < depth d + fuel := fun d hd => by
      have := hf.depth_child (hf.mem_children.mp hd)
      omega
    rw [preorder, List.mem_cons, List.mem_flatMap]
    constructor
    · rintro (rfl | ⟨d, hd, hc⟩)
      · exact Relation.ReflTransGen.refl
      · exact Relation.ReflTransGen.tail ((ih (hchild d hd)).mp hc) (hf.mem_children.mp hd)
    · intro h
      rcases Relation.ReflTransGen.cases_tail h with rfl | ⟨d, hcd, hdi⟩
      · exact .inl rfl
      · have hd := hf.mem_children.mpr hdi
        exact .inr ⟨d, hd, (ih (hchild d hd)).mpr hcd⟩

/-- The relation between an earlier and a later node of a walk. -/
def Before (parent : ι → Option ι) (a b : ι) : Prop := a ≠ b ∧ parent a ≠ some b

/-- Nodes below different nodes of one depth may be visited in either order. -/
lemma IsForest.before_of_ne (hf : IsForest parent children depth maxDepth) {x y a b : ι}
    (hdepth : depth x = depth y) (hne : x ≠ y) (ha : Descends parent a x)
    (hb : Descends parent b y) : Before parent a b := by
  refine ⟨?_, fun hp => ?_⟩
  · rintro rfl
    exact hne (hf.descends_unique ha hb hdepth)
  · exact hne (hf.descends_unique ha (Descends.of_parent hp hb) hdepth)

lemma IsForest.pairwise_flatMap (hf : IsForest parent children depth maxDepth) {fuel d : ℕ}
    {nodes : List ι} (hnodup : nodes.Nodup) (hdepth : ∀ i ∈ nodes, depth i = d)
    (hfuel : maxDepth < d + fuel)
    (hsub : ∀ i ∈ nodes, (preorder children fuel i).Pairwise (Before parent)) :
    (nodes.flatMap (preorder children fuel)).Pairwise (Before parent) := by
  rw [List.pairwise_flatMap]
  refine ⟨hsub, hnodup.imp_of_mem fun {x y} hx hy hne a ha b hb => ?_⟩
  have hfx : maxDepth < depth x + fuel := by rw [hdepth x hx]; exact hfuel
  have hfy : maxDepth < depth y + fuel := by rw [hdepth y hy]; exact hfuel
  exact hf.before_of_ne ((hdepth x hx).trans (hdepth y hy).symm) hne
    ((hf.mem_preorder hfx).mp ha) ((hf.mem_preorder hfy).mp hb)

/-- A preorder visits no node twice, and no child before its parent. -/
lemma IsForest.pairwise_preorder (hf : IsForest parent children depth maxDepth) {fuel : ℕ} {i : ι}
    (hfuel : maxDepth < depth i + fuel) :
    (preorder children fuel i).Pairwise (Before parent) := by
  induction fuel generalizing i with
  | zero => exact List.Pairwise.nil
  | succ fuel ih =>
    have hdepth : ∀ d ∈ children i, depth d = depth i + 1 := fun d hd =>
      hf.depth_child (hf.mem_children.mp hd)
    rw [preorder, List.pairwise_cons]
    refine ⟨fun b hb => ?_, hf.pairwise_flatMap (hf.nodup_children i) hdepth (by omega)
      fun d hd => ih (by rw [hdepth d hd]; omega)⟩
    -- everything after `i` is strictly deeper than `i`
    obtain ⟨d, hd, hb⟩ := List.mem_flatMap.mp hb
    have hbd := (hf.mem_preorder (by rw [hdepth d hd]; omega)).mp hb
    have hlt : depth i < depth b := by
      have := hdepth d hd
      rcases hf.descends_depth hbd with rfl | h <;> omega
    refine ⟨fun h => ?_, fun hp => ?_⟩
    · rw [h] at hlt
      omega
    · have := hf.depth_child hp
      omega

/-- The whole forest, tree by tree. -/
def forestOrder (children : ι → List ι) (maxDepth : ℕ) (roots : List ι) : List ι :=
  roots.flatMap (preorder children maxDepth)

/-- What holds of the roots, and of every child of a node of which it holds, holds of all. -/
theorem IsForest.induction (hf : IsForest parent children depth maxDepth) {P : ι → Prop}
    (hroot : ∀ i, parent i = none → P i) (hchild : ∀ p c, parent c = some p → P p → P c) (i : ι) :
    P i := by
  obtain ⟨n, hn⟩ : ∃ n, n = depth i := ⟨_, rfl⟩
  induction n using Nat.strong_induction_on generalizing i with
  | _ n ih =>
    cases hp : parent i with
    | none => exact hroot i hp
    | some p =>
      have hdepth := hf.depth_child hp
      exact hchild p i hp (ih (depth p) (by omega) p rfl)

/-- Every node is below a root. -/
lemma IsForest.exists_root (hf : IsForest parent children depth maxDepth) (i : ι) :
    ∃ r, parent r = none ∧ Descends parent i r := by
  refine hf.induction (P := fun i => ∃ r, parent r = none ∧ Descends parent i r)
    (fun i hi => ⟨i, hi, Relation.ReflTransGen.refl⟩) ?_ i
  rintro p c hp ⟨r, hr, hpr⟩
  exact ⟨r, hr, Descends.of_parent hp hpr⟩

section Roots

variable {roots : List ι} (hroots : ∀ i, i ∈ roots ↔ parent i = none)
  (hrootDepth : ∀ i ∈ roots, depth i = 1)

include hroots hrootDepth

lemma IsForest.mem_forestOrder (hf : IsForest parent children depth maxDepth) (i : ι) :
    i ∈ forestOrder children maxDepth roots := by
  obtain ⟨r, hr, hir⟩ := hf.exists_root i
  have hmem := (hroots r).mpr hr
  exact List.mem_flatMap.mpr ⟨r, hmem,
    (hf.mem_preorder (by rw [hrootDepth r hmem]; omega)).mpr hir⟩

omit hroots in
lemma IsForest.pairwise_forestOrder (hf : IsForest parent children depth maxDepth)
    (hnodup : roots.Nodup) :
    (forestOrder children maxDepth roots).Pairwise (Before parent) :=
  hf.pairwise_flatMap hnodup hrootDepth (by omega) fun r hr =>
    hf.pairwise_preorder (by rw [hrootDepth r hr]; omega)

end Roots

/-! ## Walking -/

variable {σ ε : Type}

/-- Visit a node, then walk its children in order; `exhausted` when the fuel runs out. -/
def walk (visit : ι → σ → Except ε σ) (children : ι → List ι) (exhausted : ε) :
    ℕ → ι → σ → Except ε σ
  | 0, _, _ => .error exhausted
  | fuel + 1, i, s => do
    let s ← visit i s
    (children i).foldlM (fun s c => walk visit children exhausted fuel c s) s

lemma foldlM_congr {f g : σ → ι → Except ε σ} {nodes : List ι} {s : σ}
    (h : ∀ i ∈ nodes, ∀ s, f s i = g s i) : nodes.foldlM f s = nodes.foldlM g s := by
  induction nodes generalizing s with
  | nil => rfl
  | cons i rest ih =>
    rw [List.foldlM_cons, List.foldlM_cons, h i (by simp) s]
    exact bind_congr fun s' => ih fun j hj => h j (by simp [hj])

lemma foldlM_flatMap {f : σ → ι → Except ε σ} {g : ι → List ι} {nodes : List ι} {s : σ} :
    (nodes.flatMap g).foldlM f s = nodes.foldlM (fun s i => (g i).foldlM f s) s := by
  induction nodes generalizing s with
  | nil => rfl
  | cons i rest ih =>
    rw [List.flatMap_cons, List.foldlM_append, List.foldlM_cons]
    exact bind_congr fun s' => ih

/-- With enough fuel a walk is the visits of the preorder. -/
lemma IsForest.walk_eq (hf : IsForest parent children depth maxDepth)
    {visit : ι → σ → Except ε σ} {exhausted : ε} {fuel : ℕ} {i : ι} {s : σ}
    (hfuel : maxDepth < depth i + fuel) :
    walk visit children exhausted fuel i s =
      (preorder children fuel i).foldlM (fun s i => visit i s) s := by
  induction fuel generalizing i s with
  | zero => have := hf.depth_le i; omega
  | succ fuel ih =>
    rw [walk, preorder, List.foldlM_cons]
    refine bind_congr fun s' => ?_
    rw [foldlM_flatMap]
    refine foldlM_congr fun c hc s => ih ?_
    have := hf.depth_child (hf.mem_children.mp hc)
    omega

/-- A pass over visits that succeed one after another while an invariant lasts. -/
theorem foldlM_ok (visit : ι → σ → Except ε σ) (I : List ι → σ → Prop) {nodes : List ι} {s : σ}
    (hinit : I nodes s)
    (hstep : ∀ i rest s, I (i :: rest) s → ∃ s', visit i s = .ok s' ∧ I rest s') :
    ∃ s', nodes.foldlM (fun s i => visit i s) s = .ok s' ∧ I [] s' := by
  induction nodes generalizing s with
  | nil => exact ⟨s, rfl, hinit⟩
  | cons i rest ih =>
    obtain ⟨s', hs', hI⟩ := hstep i rest s hinit
    rw [List.foldlM_cons, hs']
    exact ih hI

/-- What every visit preserves, the walk preserves. -/
lemma foldlM_preserves {visit : ι → σ → Except ε σ} {P : σ → Prop} {nodes : List ι} {s s' : σ}
    (hstep : ∀ j ∈ nodes, ∀ t t', visit j t = .ok t' → P t → P t')
    (h : nodes.foldlM (fun s i => visit i s) s = .ok s') (hP : P s) : P s' := by
  induction nodes generalizing s with
  | nil =>
    obtain rfl := Except.ok.inj h
    exact hP
  | cons j rest ih =>
    rw [List.foldlM_cons] at h
    cases hj : visit j s with
    | error e => rw [hj] at h; cases h
    | ok t =>
      rw [hj] at h
      exact ih (fun k hk => hstep k (by simp [hk])) h (hstep j (by simp) s t hj hP)

/-- What every visit establishes about its node still holds at the end, when later visits do
not disturb it. -/
theorem foldlM_establishes {visit : ι → σ → Except ε σ} {Q : ι → σ → Prop} {nodes : List ι}
    {s s' : σ} (horder : nodes.Pairwise (Before parent))
    (hvisit : ∀ i s s', visit i s = .ok s' → Q i s')
    (hframe : ∀ i j s s', Before parent i j → visit j s = .ok s' → Q i s → Q i s')
    (h : nodes.foldlM (fun s i => visit i s) s = .ok s') : ∀ i ∈ nodes, Q i s' := by
  induction nodes generalizing s with
  | nil => simp
  | cons i rest ih =>
    rw [List.pairwise_cons] at horder
    rw [List.foldlM_cons] at h
    cases hi : visit i s with
    | error e => rw [hi] at h; cases h
    | ok t =>
      rw [hi] at h
      rintro k (_ | ⟨_, hk⟩)
      · exact foldlM_preserves (P := Q i)
          (fun j hj t t' => hframe i j t t' (horder.1 j hj)) h (hvisit i s t hi)
      · exact ih horder.2 h k hk

end Walk

/-! ## Conservation -/

section Conservation

variable {ι κ : Type} [Fintype ι] [DecidableEq ι] [Fintype κ] {parent : ι → Option ι}
  {owner : κ → ι} {held : ι → ℕ} {leaf : κ → ℕ}

/-- Every node passes on what it holds: its children and its leaves hold it together. -/
def PassesOn (parent : ι → Option ι) (owner : κ → ι) (held : ι → ℕ) (leaf : κ → ℕ) : Prop :=
  ∀ i, (∑ c with parent c = some i, held c) + (∑ s with owner s = i, leaf s) = held i

omit [Fintype ι] in
lemma sum_children [Fintype ι] (held : ι → ℕ) :
    ∑ i, ∑ c with parent c = some i, held c = ∑ c with (parent c).isSome, held c := by
  have hpairs : ∀ i c, i ∈ Finset.univ ∧ c ∈ Finset.univ.filter (fun c => parent c = some i) ↔
      i ∈ Finset.univ.filter (fun i => parent c = some i) ∧
        c ∈ Finset.univ.filter (fun c => (parent c).isSome) := by
    intro i c
    simp only [Finset.mem_univ, Finset.mem_filter, true_and]
    exact ⟨fun h => ⟨h, by rw [h]; rfl⟩, fun h => h.1⟩
  rw [Finset.sum_comm' hpairs]
  refine Finset.sum_congr rfl fun c hc => ?_
  obtain ⟨p, hp⟩ := Option.isSome_iff_exists.mp (Finset.mem_filter.mp hc).2
  have hset : Finset.univ.filter (fun i => parent c = some i) = {p} := by
    ext i
    simp [hp, eq_comm]
  rw [hset, Finset.sum_singleton]

/-- The leaves of a forest that passes everything on hold what its roots hold. -/
theorem sum_leaves_eq_sum_roots (h : PassesOn parent owner held leaf) :
    ∑ s, leaf s = ∑ i with parent i = none, held i := by
  have hsum : ∑ i, held i =
      (∑ c with (parent c).isSome, held c) + ∑ s, leaf s := by
    rw [← sum_children, ← Finset.sum_fiberwise Finset.univ owner leaf, ← Finset.sum_add_distrib]
    exact Finset.sum_congr rfl fun i _ => (h i).symm
  have hsplit := Finset.sum_filter_add_sum_filter_not Finset.univ
    (fun i => (parent i).isSome) held
  have hnone : Finset.univ.filter (fun i => ¬ (parent i).isSome) =
      Finset.univ.filter fun i => parent i = none := by
    ext i
    simp
  rw [hnone] at hsplit
  omega

/-- In a forest that passes everything on, the leaves tell what every node holds. -/
theorem held_eq_of_leaves {children : ι → List ι} {depth : ι → ℕ} {maxDepth : ℕ}
    (hf : IsForest parent children depth maxDepth) {held' : ι → ℕ}
    (h : PassesOn parent owner held leaf) (h' : PassesOn parent owner held' leaf) :
    held = held' := by
  funext i
  obtain ⟨n, hn⟩ : ∃ n, n = maxDepth - depth i := ⟨_, rfl⟩
  induction n using Nat.strong_induction_on generalizing i with
  | _ n ih =>
    rw [← h i, ← h' i]
    congr 1
    refine Finset.sum_congr rfl fun c hc => ?_
    -- a child is one level closer to the deepest
    have hdepth := hf.depth_child (Finset.mem_filter.mp hc).2
    have hle := hf.depth_le c
    exact ih (maxDepth - depth c) (by omega) c rfl

end Conservation

end Forest
