import AsulaHttp.Text

/-!
# `std::set`: libstdc++'s `_Rb_tree` with unique keys

`hooks_[verb]` is a `std::set` under `HookFunctor::operator<`, which is not a strict weak ordering, so
which duplicates `emplace` finds depends on the search it makes. This module follows libstdc++:

* `insertPred lt k t` : the node `__j` of `_M_get_insert_unique_pos`, the in-order predecessor of the
  leaf the search for `k` ends at (the last node at which it went right);
* `ins`, `balanceL`, `balanceR`, `blacken` : `_Rb_tree_insert_and_rebalance`, the CLRS fix-up (recolour
  under a red uncle, otherwise one or two rotations);
* `emplace lt k t` : the new tree and whether `k` was inserted; `k` is refused exactly when
  `!(__j < k)`, whatever the rest of the tree holds;
* `toList_ins` : insertion puts `k` between `insertPred` and the first node the search went left at;
* `mem_of_emplace_false` : a refused key has a node `j` with `!(k < j)` and `!(j < k)`;
* `pairwise_emplace` : every order implied by `lt` that holds along the in-order list still holds after
  `emplace`, whatever the tree's shape.
-/

namespace AsulaHttp

/-- Node colour of `_Rb_tree`. -/
inductive Color where
  | red
  | black
  deriving DecidableEq, Repr

/-- A subtree of `_Rb_tree`: colour, left subtree, key, right subtree. -/
inductive RbTree (α : Type) where
  | nil
  | node (c : Color) (l : RbTree α) (x : α) (r : RbTree α)

namespace RbTree

variable {α : Type} (lt : α → α → Bool)

/-- In-order traversal: the iteration order of `std::set`. -/
def toList : RbTree α → List α
  | nil => []
  | node _ l x r => toList l ++ x :: toList r

/-- The node `__j` of `_M_get_insert_unique_pos`: the last node at which the search for `k` went right. -/
def insertPred (k : α) : RbTree α → Option α
  | nil => none
  | node _ l x r => if lt k x then insertPred k l else (insertPred k r).or (some x)

/-- The fix-up at a grandparent whose left child got a red child under it. -/
def balanceL : Color → RbTree α → α → RbTree α → RbTree α
  | .black, node .red (node .red a x b) y c, z, node .red d w e =>
    node .red (node .black (node .red a x b) y c) z (node .black d w e)
  | .black, node .red a x (node .red b y c), z, node .red d w e =>
    node .red (node .black a x (node .red b y c)) z (node .black d w e)
  | .black, node .red (node .red a x b) y c, z, d => node .black (node .red a x b) y (node .red c z d)
  | .black, node .red a x (node .red b y c), z, d => node .black (node .red a x b) y (node .red c z d)
  | c, l, x, r => node c l x r

/-- The fix-up at a grandparent whose right child got a red child under it. -/
def balanceR : Color → RbTree α → α → RbTree α → RbTree α
  | .black, node .red a x b, y, node .red (node .red c z d) w e =>
    node .red (node .black a x b) y (node .black (node .red c z d) w e)
  | .black, node .red a x b, y, node .red c z (node .red d w e) =>
    node .red (node .black a x b) y (node .black c z (node .red d w e))
  | .black, a, x, node .red (node .red b y c) z d => node .black (node .red a x b) y (node .red c z d)
  | .black, a, x, node .red b y (node .red c z d) => node .black (node .red a x b) y (node .red c z d)
  | c, l, x, r => node c l x r

/-- Insertion of a red leaf along the search path of `k`, fixed up on the way back. -/
def ins (k : α) : RbTree α → RbTree α
  | nil => node .red nil k nil
  | node c l x r => if lt k x then balanceL c (ins k l) x r else balanceR c l x (ins k r)

/-- The root is made black. -/
def blacken : RbTree α → RbTree α
  | nil => nil
  | node _ l x r => node .black l x r

/-- `std::set::emplace` (`_M_emplace_unique`): the tree after the call and the returned flag. -/
def emplace (k : α) (t : RbTree α) : RbTree α × Bool :=
  match insertPred lt k t with
  | some j => if lt j k then (blacken (ins lt k t), true) else (t, false)
  | none => (blacken (ins lt k t), true)

/-! ## In-order lists -/

@[simp] theorem toList_nil : toList (nil : RbTree α) = [] := rfl

@[simp] theorem toList_node (c : Color) (l : RbTree α) (x : α) (r : RbTree α) :
    toList (node c l x r) = toList l ++ x :: toList r := rfl

@[simp] theorem toList_balanceL (c : Color) (l : RbTree α) (x : α) (r : RbTree α) :
    toList (balanceL c l x r) = toList l ++ x :: toList r := by
  unfold balanceL; split <;> simp

@[simp] theorem toList_balanceR (c : Color) (l : RbTree α) (x : α) (r : RbTree α) :
    toList (balanceR c l x r) = toList l ++ x :: toList r := by
  unfold balanceR; split <;> simp

@[simp] theorem toList_blacken (t : RbTree α) : toList (blacken t) = toList t := by
  cases t <;> rfl

/-- Insertion puts `k` right after `insertPred` and right before the last node the search went left at. -/
theorem toList_ins (k : α) (t : RbTree α) :
    ∃ L R, toList t = L ++ R ∧ toList (ins lt k t) = L ++ k :: R ∧ L.getLast? = insertPred lt k t ∧
      ∀ s ∈ R.head?, lt k s = true := by
  induction t with
  | nil => exact ⟨[], [], rfl, rfl, rfl, by simp⟩
  | node c l x r ihl ihr =>
    by_cases hkx : lt k x
    · obtain ⟨L, R, hl, hil, hp, hs⟩ := ihl
      refine ⟨L, R ++ x :: toList r, by simp [hl], by simp [ins, hkx, hil], by simp [insertPred, hkx, hp], ?_⟩
      cases R <;> simp_all
    · obtain ⟨L, R, hr, hir, hp, hs⟩ := ihr
      refine ⟨toList l ++ x :: L, R, by simp [hr], by simp [ins, hkx, hir], ?_, hs⟩
      simp only [insertPred, hkx, Bool.false_eq_true, if_false, ← hp]
      cases L using List.reverseRecOn with
      | nil => simp
      | append_singleton L a _ => simp [List.getLast?_cons, List.getLast?_concat]

theorem insertPred_spec {k j : α} {t : RbTree α} (h : insertPred lt k t = some j) :
    j ∈ toList t ∧ lt k j = false := by
  induction t with
  | nil => simp [insertPred] at h
  | node c l x r ihl ihr =>
    unfold insertPred at h
    split at h <;> rename_i hkx
    · exact ⟨by simp [(ihl h).1], (ihl h).2⟩
    · cases hr : insertPred lt k r with
      | none => simp_all
      | some j' =>
        simp only [hr, Option.or, Option.some.injEq] at h
        subst h
        exact ⟨by simp [(ihr hr).1], (ihr hr).2⟩

/-- A refused key leaves the tree as it was and has a node that is neither above nor below it. -/
theorem mem_of_emplace_false {k : α} {t : RbTree α} (h : (emplace lt k t).2 = false) :
    (emplace lt k t).1 = t ∧ ∃ j ∈ toList t, lt k j = false ∧ lt j k = false := by
  unfold emplace at h ⊢
  cases hj : insertPred lt k t with
  | none => simp [hj] at h
  | some j =>
    cases hjk : lt j k
    · simp only [hj, hjk, Bool.false_eq_true, if_false]
      exact ⟨trivial, j, (insertPred_spec lt hj).1, (insertPred_spec lt hj).2, hjk⟩
    · simp [hj, hjk] at h

theorem toList_emplace_true {k : α} {t : RbTree α} (h : (emplace lt k t).2 = true) :
    (emplace lt k t).1 = blacken (ins lt k t) ∧ ∀ j, insertPred lt k t = some j → lt j k = true := by
  unfold emplace at h ⊢
  split at h <;> rename_i j hj
  · split at h <;> simp_all
  · simp_all

/-- Any transitive order implied by `lt` that holds pairwise along the set survives `emplace`. -/
theorem pairwise_emplace {r : α → α → Prop} (hr : ∀ a b, lt a b = true → r a b) (htr : Transitive r)
    {k : α} {t : RbTree α} (h : (toList t).Pairwise r) : (toList (emplace lt k t).1).Pairwise r := by
  cases he : (emplace lt k t).2
  · rw [(mem_of_emplace_false lt he).1]; exact h
  · obtain ⟨hins, hpred⟩ := toList_emplace_true lt he
    obtain ⟨L, R, ht, hi, hp, hs⟩ := toList_ins lt k t
    have : IsTrans α r := ⟨fun _ _ _ => @htr _ _ _⟩
    rw [ht, ← List.chain'_iff_pairwise, List.chain'_append] at h
    rw [hins, toList_blacken, hi, ← List.chain'_iff_pairwise, List.chain'_append, List.chain'_cons']
    refine ⟨h.1, ⟨fun y hy => hr _ _ (hs y hy), h.2.1⟩, fun x hx y hy => ?_⟩
    obtain rfl : y = k := by simpa using hy.symm
    exact hr _ _ (hpred x (hp ▸ hx))

end RbTree

end AsulaHttp
