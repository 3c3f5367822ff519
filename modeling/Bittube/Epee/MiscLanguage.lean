import Mathlib

/-!
# `epee::misc_utils::median` (`misc_language.h`)

The median of a vector of `uint64_t`: zero for an empty vector, the middle element of the
sorted vector for an odd size, and the mean of the two middle elements for an even size, their
sum taken in `uint64_t`.
-/

namespace Bittube.Epee.MiscUtils

/-- `median(v)` on a vector of `uint64_t`. -/
def median (v : List ℕ) : ℕ :=
  match v with
  | [] => 0
  | [a] => a
  | _ =>
    let n := v.length / 2
    let sorted := v.mergeSort (· ≤ ·)
    if v.length % 2 = 1 then sorted.getD n 0
    else (sorted.getD (n - 1) 0 + sorted.getD n 0) % 2 ^ 64 / 2

/-- The median of a constant vector is the constant, when two of it add up without wrapping. -/
theorem median_replicate {n c : ℕ} (hn : 0 < n) (hc : c < 2 ^ 63) :
    median (List.replicate n c) = c := by
  have hsorted : (List.replicate n c).mergeSort (· ≤ ·) = List.replicate n c :=
    List.mergeSort_eq_self _ (List.pairwise_replicate.2 (Or.inr le_rfl))
  match n, hn with
  | 1, _ => rfl
  | k + 2, _ =>
    -- two or more elements: the general branch reads the sorted vector in the middle
    unfold median
    simp only [List.replicate_succ, List.length_cons, List.length_replicate] at hsorted ⊢
    rw [hsorted, ← List.replicate_succ, ← List.replicate_succ]
    simp only [List.getD_eq_getElem?_getD, List.getElem?_replicate]
    split_ifs <;> simp <;> omega

/-- A list that splits around `x`, with nothing after `x` before it and nothing before it after
it, sorts to its two parts sorted around `x`. -/
theorem mergeSort_eq_of_perm {α : Type*} [LinearOrder α] {l A B : List α} {x : α}
    (hl : l.Perm (A ++ x :: B)) (hA : ∀ a ∈ A, a ≤ x) (hB : ∀ b ∈ B, x ≤ b) :
    l.mergeSort (· ≤ ·) = A.mergeSort (· ≤ ·) ++ x :: B.mergeSort (· ≤ ·) := by
  have hsorted : (A.mergeSort (· ≤ ·) ++ x :: B.mergeSort (· ≤ ·)).Pairwise (· ≤ ·) := by
    rw [List.pairwise_append, List.pairwise_cons]
    refine ⟨List.pairwise_mergeSort' _ A, ⟨fun b hb => hB b (List.mem_mergeSort.1 hb),
      List.pairwise_mergeSort' _ B⟩, fun a ha b hb => ?_⟩
    have hax := hA a (List.mem_mergeSort.1 ha)
    rcases List.mem_cons.1 hb with rfl | hb
    · exact hax
    · exact le_trans hax (hB b (List.mem_mergeSort.1 hb))
  have hperm : (l.mergeSort (· ≤ ·)).Perm (A.mergeSort (· ≤ ·) ++ x :: B.mergeSort (· ≤ ·)) :=
    (List.mergeSort_perm l _).trans (hl.trans
      ((List.mergeSort_perm A _).symm.append ((List.mergeSort_perm B _).symm.cons x)))
  exact hperm.eq_of_sortedLE List.sortedLE_mergeSort hsorted.sortedLE

/-- The median of an odd number of values reads the middle of the sorted vector. -/
theorem median_of_odd {v : List ℕ} (h : v.length % 2 = 1) :
    median v = (v.mergeSort (· ≤ ·)).getD (v.length / 2) 0 := by
  match v, h with
  | [a], _ => simp [median]
  | a :: b :: rest, h =>
    unfold median
    exact if_pos h

/-- The median of a non-empty even number of values is the mean of the two middle ones. -/
theorem median_of_even {v : List ℕ} (h : v.length % 2 = 0) (hv : v ≠ []) :
    median v = ((v.mergeSort (· ≤ ·)).getD (v.length / 2 - 1) 0 +
      (v.mergeSort (· ≤ ·)).getD (v.length / 2) 0) % 2 ^ 64 / 2 := by
  match v, h, hv with
  | a :: b :: rest, h, _ =>
    unfold median
    exact if_neg (by omega)

/-- Values that split into equally many not after and not before `x` have median `x`. -/
theorem median_of_perm_odd {v A B : List ℕ} {x : ℕ} (hv : v.Perm (A ++ x :: B))
    (hAB : A.length = B.length) (hA : ∀ a ∈ A, a ≤ x) (hB : ∀ b ∈ B, x ≤ b) : median v = x := by
  have hlen : v.length = 2 * A.length + 1 := by
    rw [hv.length_eq, List.length_append, List.length_cons]
    omega
  rw [median_of_odd (by omega), mergeSort_eq_of_perm hv hA hB, hlen,
    show (2 * A.length + 1) / 2 = (A.mergeSort (· ≤ ·)).length by rw [List.length_mergeSort]; omega,
    List.getD_eq_getElem?_getD, List.getElem?_append_right (Nat.le_refl _), Nat.sub_self]
  rfl

/-- Values that split into equally many not after `t` and not before `x`, with `t ≤ x`, have
the mean of `t` and `x` as median. -/
theorem median_of_perm_even {v A B : List ℕ} {t x : ℕ} (hv : v.Perm (A ++ t :: x :: B))
    (hAB : A.length = B.length) (hA : ∀ a ∈ A, a ≤ t) (htx : t ≤ x) (hB : ∀ b ∈ B, x ≤ b) :
    median v = (t + x) % 2 ^ 64 / 2 := by
  have hlen : v.length = 2 * A.length + 2 := by
    rw [hv.length_eq, List.length_append, List.length_cons, List.length_cons]
    omega
  -- `x` splits the tail, so the sorted vector is the sorted `A`, then `t` and `x`, then the rest
  have hxB : (x :: B).mergeSort (· ≤ ·) = x :: B.mergeSort (· ≤ ·) := by
    have h := mergeSort_eq_of_perm (l := x :: B) (A := []) (List.Perm.refl _)
      (fun _ h => absurd h List.not_mem_nil) hB
    rwa [List.mergeSort_nil, List.nil_append] at h
  have hsorted := mergeSort_eq_of_perm hv hA fun b hb => by
    rcases List.mem_cons.1 hb with rfl | hb
    · exact htx
    · exact le_trans htx (hB b hb)
  rw [hxB] at hsorted
  have hA' : (A.mergeSort (· ≤ ·)).length = A.length := List.length_mergeSort _
  rw [median_of_even (by omega) (fun h => by simp [h] at hlen), hsorted, hlen,
    show (2 * A.length + 2) / 2 - 1 = (A.mergeSort (· ≤ ·)).length by omega,
    show (2 * A.length + 2) / 2 = (A.mergeSort (· ≤ ·)).length + 1 by omega,
    List.getD_eq_getElem?_getD, List.getD_eq_getElem?_getD,
    List.getElem?_append_right (Nat.le_refl _), List.getElem?_append_right (Nat.le_add_right _ 1),
    Nat.sub_self, Nat.add_sub_cancel_left]
  rfl

end Bittube.Epee.MiscUtils
