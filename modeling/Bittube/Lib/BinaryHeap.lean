import Mathlib.Logic.Equiv.Basic
import Mathlib.Order.Defs.LinearOrder

/-!
# Binary heaps kept by swaps

An array `f : ℕ → α` holds a binary heap of `n` nodes below a root when every node `j` from `1`
to `n` is not before its parent `j / 2` under a total preorder `le`. Node `0` is the root, with
the single child `1`; a node `j ≥ 1` has the children `2j` and `2j + 1`.

`siftUp` and `siftDown` move one value along a path of the tree by swapping it with a
neighbour, with a bound of rounds. What each needs of the order around the moving node is
`UpOrder` (every edge but the one above the node, and the node's parent not after its children)
and `DownOrder` (every edge but those below the node, and the node's parent not after its
children); one swap keeps it one node further, and stopping gives the heap order. A sift up
that reaches the root leaves every other node not before any bound that held of every node but
the moving one; one that stops below it leaves the root alone, and a sift down from a node never
touches the nodes above it.
-/

namespace BinaryHeap

variable {α : Type*} (le : α → α → Prop)

/-- Every node from `1` to `n` is not before its parent. -/
def Ordered (f : ℕ → α) (n : ℕ) : Prop := ∀ j, 1 ≤ j → j ≤ n → le (f (j / 2)) (f j)

/-- What a sift up from node `i` needs: every edge but the one from `i` to its parent is in
order, and `i`'s parent is not after `i`'s children. -/
structure UpOrder (f : ℕ → α) (n i : ℕ) : Prop where
  except : ∀ j, 1 ≤ j → j ≤ n → j ≠ i → le (f (j / 2)) (f j)
  grand : 0 < i → ∀ j, 1 ≤ j → j ≤ n → j / 2 = i → le (f (i / 2)) (f j)

/-- What a sift down from node `i` needs: every edge but those from `i` to its children is in
order, and `i`'s parent is not after `i`'s children. -/
structure DownOrder (f : ℕ → α) (n i : ℕ) : Prop where
  except : ∀ j, 1 ≤ j → j ≤ n → j / 2 ≠ i → le (f (j / 2)) (f j)
  grand : 0 < i → ∀ j, 1 ≤ j → j ≤ n → j / 2 = i → le (f (i / 2)) (f j)

section Sift

variable [DecidableRel le]

/-- Sift up from node `i` with `fuel` rounds: swap with the parent while strictly before it;
whether the value reached the root. -/
def siftUp : ℕ → (ℕ → α) → ℕ → Bool × (ℕ → α)
  | 0, f, i => (i == 0, f)
  | fuel + 1, f, i =>
    if 0 < i then
      if le (f (i / 2)) (f i) then (false, f) else siftUp fuel (f ∘ Equiv.swap i (i / 2)) (i / 2)
    else (true, f)

/-- The child of `i` a sift down compares with: the second when it is strictly before the
first. -/
def pickChild (f : ℕ → α) (n i : ℕ) : ℕ :=
  if 2 * i < n ∧ ¬le (f (2 * i)) (f (2 * i + 1)) then 2 * i + 1 else 2 * i

/-- Sift down from node `i` of a heap of `n` nodes with `fuel` rounds: swap with the child
nearer the root while that child is strictly before. -/
def siftDown (n : ℕ) : ℕ → (ℕ → α) → ℕ → (ℕ → α)
  | 0, f, _ => f
  | fuel + 1, f, i =>
    if 2 * i ≤ n then
      if le (f i) (f (pickChild le f n i)) then f
      else siftDown n fuel (f ∘ Equiv.swap (pickChild le f n i) i) (pickChild le f n i)
    else f

end Sift

variable {le}

section Swap

variable {f : ℕ → α} {a b j : ℕ}

theorem comp_swap_left : (f ∘ Equiv.swap a b) a = f b := by
  rw [Function.comp_apply, Equiv.swap_apply_left]

theorem comp_swap_right : (f ∘ Equiv.swap a b) b = f a := by
  rw [Function.comp_apply, Equiv.swap_apply_right]

theorem comp_swap_of_ne (hja : j ≠ a) (hjb : j ≠ b) : (f ∘ Equiv.swap a b) j = f j := by
  rw [Function.comp_apply, Equiv.swap_apply_of_ne_of_ne hja hjb]

/-- A bound that holds of every node but `a` holds of every node but `c` once they swap. -/
theorem bound_swap {n c : ℕ} {x : α} (hb : ∀ j ≤ n, j ≠ a → le x (f j)) (hc : c ≤ n) :
    ∀ j ≤ n, j ≠ c → le x ((f ∘ Equiv.swap a c) j) := by
  intro j hj hjc
  by_cases hja : j = a
  · subst hja
    rw [comp_swap_left]
    exact hb c hc (Ne.symm hjc)
  · rw [comp_swap_of_ne hja hjc]
    exact hb j hj hja

end Swap

variable {f g : ℕ → α} {n i : ℕ}

/-- Stopping a sift up at the root, or below a parent it is not before, gives the heap order. -/
theorem UpOrder.ordered (o : UpOrder le f n i) (hstop : 0 < i → le (f (i / 2)) (f i)) :
    Ordered le f n := by
  intro j hj hjn
  by_cases hji : j = i
  · subst hji
    exact hstop hj
  · exact o.except j hj hjn hji

/-- Stopping a sift down where no child is before the node gives the heap order. -/
theorem DownOrder.ordered (o : DownOrder le f n i)
    (hstop : ∀ j, 1 ≤ j → j ≤ n → j / 2 = i → le (f i) (f j)) : Ordered le f n := by
  intro j hj hjn
  by_cases hji : j / 2 = i
  · rw [hji]
    exact hstop j hj hjn hji
  · exact o.except j hj hjn hji

/-- The order does not look past the nodes below the root and the root's edge: another root that
is not after node `1` keeps it. -/
theorem Ordered.of_root (h : Ordered le f n) (hg : ∀ j, 1 ≤ j → g j = f j)
    (hroot : 1 ≤ n → le (g 0) (g 1)) : Ordered le g n := by
  intro j hj hjn
  rcases Nat.lt_or_ge j 2 with hlt | hge
  · obtain rfl : j = 1 := by omega
    exact hroot hjn
  · rw [hg j hj, hg (j / 2) (by omega)]
    exact h j hj hjn

/-- The order reads only the nodes `0` to `n`. -/
theorem Ordered.congr (h : Ordered le f n) (hfg : ∀ j ≤ n, g j = f j) : Ordered le g n := by
  intro j hj hjn
  rw [hfg j hjn, hfg (j / 2) (by omega)]
  exact h j hj hjn

section Total

variable [Std.Total le]

theorem le_of_not_le {x y : α} (h : ¬le x y) : le y x := (total_of le x y).resolve_left h

theorem le_refl' (x : α) : le x x := (total_of le x x).elim id id

/-- One round of a sift down: `i`, strictly after its least child `c`, swaps with it. -/
theorem DownOrder.swap (o : DownOrder le f n i) (hi : 0 < i) {c : ℕ} (hc : c / 2 = i)
    (hcn : c ≤ n) (hleast : ∀ j, j ≤ n → j / 2 = i → le (f c) (f j)) (hlt : ¬le (f i) (f c)) :
    DownOrder le (f ∘ Equiv.swap c i) n c := by
  have hic : i < c := by omega
  have hdown : le (f c) (f i) := le_of_not_le hlt
  constructor
  · intro j hj hjn hjc
    by_cases hjeq : j = c
    · -- the edge from `i` to `c`, now the other way round
      subst hjeq
      rw [hc, comp_swap_right, comp_swap_left]
      exact hdown
    · by_cases hji : j = i
      · -- the edge above `i`: its value is now `c`'s, not before `i`'s parent
        subst hji
        rw [comp_swap_of_ne (by omega) (by omega), comp_swap_right]
        exact o.grand hi c (by omega) hcn hc
      · rw [comp_swap_of_ne hjeq hji]
        by_cases hjs : j / 2 = i
        · -- a sibling of `c`: its parent now holds `c`'s value
          rw [hjs, comp_swap_right]
          exact hleast j hjn hjs
        · rw [comp_swap_of_ne hjc hjs]
          exact o.except j hj hjn hjs
  · intro _ j hj hjn hjc
    rw [hc, comp_swap_right, comp_swap_of_ne (by omega) (by omega)]
    rw [← hjc]
    exact o.except j hj hjn (by omega)

end Total

section Order

variable [IsTrans α le] [Std.Total le]

/-- One round of a sift up: `i`, strictly before its parent, swaps with it. -/
theorem UpOrder.swap (o : UpOrder le f n i) (hi : 0 < i) (hlt : ¬le (f (i / 2)) (f i)) :
    UpOrder le (f ∘ Equiv.swap i (i / 2)) n (i / 2) := by
  have hpi : i / 2 < i := Nat.div_lt_self hi Nat.one_lt_two
  have hup : le (f i) (f (i / 2)) := le_of_not_le hlt
  constructor
  · intro j hj hjn hjp
    by_cases hji : j = i
    · -- the edge from `i` to its parent, now the other way round
      subst hji
      rw [comp_swap_left, comp_swap_right]
      exact hup
    · rw [comp_swap_of_ne hji hjp]
      by_cases hjc : j / 2 = i
      · -- a child of `i`: its new parent is `i`'s old parent
        rw [hjc, comp_swap_left]
        exact o.grand hi j hj hjn hjc
      · by_cases hjs : j / 2 = i / 2
        · -- a sibling of `i`: its parent now holds `i`'s value, before the old parent's
          rw [hjs, comp_swap_right]
          exact trans_of le hup (hjs ▸ o.except j hj hjn hji)
        · rw [comp_swap_of_ne hjc hjs]
          exact o.except j hj hjn hji
  · intro hp j hj hjn hjc
    have hpp : i / 2 / 2 < i / 2 := Nat.div_lt_self hp Nat.one_lt_two
    have hedge : le (f (i / 2 / 2)) (f (i / 2)) := o.except (i / 2) hp (by omega) (by omega)
    rw [comp_swap_of_ne (by omega) (by omega)]
    by_cases hji : j = i
    · subst hji
      rw [comp_swap_left]
      exact hedge
    · rw [comp_swap_of_ne hji (by omega)]
      exact trans_of le hedge (hjc ▸ o.except j hj hjn hji)

/-- The root is not after any node. -/
theorem Ordered.root_le (h : Ordered le f n) : ∀ j, j ≤ n → le (f 0) (f j)
  | 0, _ => le_refl' _
  | j + 1, hj => trans_of le (h.root_le ((j + 1) / 2) (by omega)) (h (j + 1) (by omega) hj)
termination_by j => j
decreasing_by omega

/-- Node `1`, the top of the nodes below the root, is not after any of them. -/
theorem Ordered.one_le (h : Ordered le f n) : ∀ j, 1 ≤ j → j ≤ n → le (f 1) (f j)
  | 0, h1, _ => absurd h1 (by omega)
  | 1, _, _ => le_refl' _
  | j + 2, _, hj => trans_of le (h.one_le ((j + 2) / 2) (by omega) (by omega)) (h (j + 2) (by omega) hj)
termination_by j => j
decreasing_by omega

end Order

/-! ### Sifts -/

section Sift

variable [DecidableRel le]

/-- A sift up that stops below the root has not touched it. -/
theorem siftUp_root :
    ∀ (fuel : ℕ) (f : ℕ → α) (i : ℕ), (siftUp le fuel f i).1 = false → (siftUp le fuel f i).2 0 = f 0
  | 0, _, _, _ => rfl
  | fuel + 1, f, i, h => by
    rw [siftUp] at h ⊢
    split_ifs at h ⊢ with hi hlt
    · rfl
    · -- the swap is below the root unless the next node is the root, where the sift ends
      have hne : i / 2 ≠ 0 := by
        intro h0
        rw [h0] at h
        cases fuel <;> simp [siftUp] at h
      rw [siftUp_root fuel _ _ h, comp_swap_of_ne (by omega) (Ne.symm hne)]

/-- A sift up that reaches the root leaves every node below it not before a bound that held of
every node but the moving one. -/
theorem siftUp_bound {x : α} :
    ∀ (fuel : ℕ) (f : ℕ → α) (i : ℕ), i ≤ n → (∀ j ≤ n, j ≠ i → le x (f j)) →
      (siftUp le fuel f i).1 = true → ∀ j, 1 ≤ j → j ≤ n → le x ((siftUp le fuel f i).2 j)
  | 0, f, i, _, hb, h, j, hj, hjn => by
    have hi : i = 0 := by simpa [siftUp] using h
    exact hb j hjn (by omega)
  | fuel + 1, f, i, hin, hb, h, j, hj, hjn => by
    rw [siftUp] at h ⊢
    split_ifs at h ⊢ with hi hlt
    · exact siftUp_bound fuel _ _ (by omega) (bound_swap hb (by omega)) h j hj hjn
    · exact hb j hjn (by omega)

variable (le) in
theorem pickChild_div (f : ℕ → α) (n i : ℕ) : pickChild le f n i / 2 = i := by
  unfold pickChild
  split_ifs <;> omega

variable (le) in
theorem pickChild_le (f : ℕ → α) {n i : ℕ} (h2 : 2 * i ≤ n) : pickChild le f n i ≤ n := by
  unfold pickChild
  split_ifs with h
  · exact h.1
  · exact h2

variable (le) in
theorem two_mul_le_pickChild (f : ℕ → α) (n i : ℕ) : 2 * i ≤ pickChild le f n i := by
  unfold pickChild
  split_ifs <;> omega

/-- A sift down from node `i ≥ 1` leaves the root alone. -/
theorem siftDown_zero :
    ∀ (fuel : ℕ) (f : ℕ → α) (i : ℕ), 0 < i → siftDown le n fuel f i 0 = f 0
  | 0, _, _, _ => rfl
  | fuel + 1, f, i, hi => by
    have hci := two_mul_le_pickChild le f n i
    rw [siftDown]
    split_ifs with h2 hlt
    · rfl
    · rw [siftDown_zero fuel _ _ (by omega)]
      exact comp_swap_of_ne (by omega) (by omega)
    · rfl

variable [Std.Total le]

/-- The child a sift down compares with comes first among the children. -/
theorem le_of_pickChild {j : ℕ} (hjn : j ≤ n) (hj : j / 2 = i) :
    le (f (pickChild le f n i)) (f j) := by
  have hj' : j = 2 * i ∨ j = 2 * i + 1 := by omega
  unfold pickChild
  split_ifs with hc
  · rcases hj' with rfl | rfl
    · exact le_of_not_le hc.2
    · exact le_refl' _
  · rcases hj' with rfl | rfl
    · exact le_refl' _
    · have hlt : 2 * i < n := by omega
      exact not_not.1 fun h => hc ⟨hlt, h⟩

variable [IsTrans α le]

theorem siftUp_ordered :
    ∀ (fuel : ℕ) (f : ℕ → α) (i : ℕ), i ≤ fuel → UpOrder le f n i →
      Ordered le (siftUp le fuel f i).2 n
  | 0, f, i, hfuel, o => o.ordered fun hi => absurd hi (by omega)
  | fuel + 1, f, i, hfuel, o => by
    rw [siftUp]
    split_ifs with hi hlt
    · exact o.ordered fun _ => hlt
    · exact siftUp_ordered fuel _ _ (by omega) (o.swap hi hlt)
    · exact o.ordered fun h => absurd h hi

theorem siftDown_ordered :
    ∀ (fuel : ℕ) (f : ℕ → α) (i : ℕ), 0 < i → n < i + fuel → DownOrder le f n i →
      Ordered le (siftDown le n fuel f i) n
  | 0, f, i, _, hfuel, o => o.ordered fun j hj hjn hji => absurd hjn (by omega)
  | fuel + 1, f, i, hi, hfuel, o => by
    rw [siftDown]
    split_ifs with h2 hlt
    · -- no child is before the node
      exact o.ordered fun j _ hjn hj => trans_of le hlt (le_of_pickChild hjn hj)
    · -- the node moves down to its least child
      have hc := pickChild_div le f n i
      have hcn := pickChild_le le f h2
      have hci := two_mul_le_pickChild le f n i
      exact siftDown_ordered fuel _ _ (by omega) (by omega)
        (o.swap hi hc hcn (fun j hjn hj => le_of_pickChild hjn hj) hlt)
    · exact o.ordered fun j hj hjn hji => absurd hjn (by omega)

end Sift

end BinaryHeap
