import Mathlib.Data.List.Nodup

/-!
# Grouping a list by keys in a given order

`order.flatMap fun k => l.filter fun x => key x == k` lists the elements of `l` whose key is `k`,
for each key `k` of `order` in turn. When `order` has no repeated key and holds the key of every
element, this is the stable sort of `l` by the position of the key in `order`: a permutation of
`l`, sorted by that position, that keeps the order of `l` among the elements of one key. Sorting
twice is sorting once.
-/

namespace KeyGroups

variable {α κ : Type*} [BEq κ] [LawfulBEq κ] (key : α → κ)

theorem mem_groups {order : List κ} {l : List α} {a : α} :
    a ∈ order.flatMap (fun k => l.filter fun x => key x == k) ↔ a ∈ l ∧ key a ∈ order := by
  simp only [List.mem_flatMap, List.mem_filter, beq_iff_eq]
  constructor
  · rintro ⟨k, hk, ha, rfl⟩
    exact ⟨ha, hk⟩
  · rintro ⟨ha, hk⟩
    exact ⟨key a, hk, ha, rfl⟩

variable {order : List κ}

/-- The elements of one key come out of the groups in the order of `l`. -/
theorem filter_groups (hnodup : order.Nodup) (l : List α) (k : κ) :
    (order.flatMap fun j => l.filter fun x => key x == j).filter (fun x => key x == k) =
      if k ∈ order then l.filter (fun x => key x == k) else [] := by
  induction order with
  | nil => simp
  | cons j js ih =>
    obtain ⟨hj, hjs⟩ := List.nodup_cons.1 hnodup
    rw [List.flatMap_cons, List.filter_append, ih hjs, List.filter_filter]
    by_cases hkj : k = j
    · -- the group of `j` is the filter of `k`, and `k` is not among the later keys
      subst hkj
      simp [hj]
    · -- the group of `j` holds no element of key `k`
      have hnone : (fun x => (key x == k && key x == j)) = fun _ => false := by
        funext x
        by_cases hx : key x = k
        · simp [hx, hkj]
        · simp [hx]
      simp [hnone, hkj]

/-- The groups are a permutation of `l` when `order` holds every key of `l`. -/
theorem groups_perm (hnodup : order.Nodup) {l : List α} (hcover : ∀ a ∈ l, key a ∈ order) :
    (order.flatMap fun k => l.filter fun x => key x == k).Perm l := by
  induction order generalizing l with
  | nil =>
    obtain rfl : l = [] := List.eq_nil_iff_forall_not_mem.2 fun a ha => by simpa using hcover a ha
    simp
  | cons j js ih =>
    obtain ⟨hj, hjs⟩ := List.nodup_cons.1 hnodup
    -- the later groups are the groups of the elements whose key is not `j`
    have hrest : (js.flatMap fun k => l.filter fun x => key x == k) =
        js.flatMap fun k => (l.filter fun x => !(key x == j)).filter fun x => key x == k := by
      refine List.flatMap_congr fun k hk => ?_
      rw [List.filter_filter]
      congr 1
      funext x
      by_cases hx : key x = k
      · have hkj : k ≠ j := fun h => hj (h ▸ hk)
        simp [hx, hkj]
      · simp [hx]
    have hcover' : ∀ a ∈ l.filter (fun x => !(key x == j)), key a ∈ js := by
      intro a ha
      obtain ⟨hal, hne⟩ := List.mem_filter.1 ha
      rcases List.mem_cons.1 (hcover a hal) with heq | hmem
      · simp [heq] at hne
      · exact hmem
    rw [List.flatMap_cons, hrest]
    exact ((ih hjs hcover').append_left _).trans (List.filter_append_perm _ l)

/-- The groups are sorted by the position of the key in `order`. -/
theorem pairwise_groups (hnodup : order.Nodup) (l : List α) :
    (order.flatMap fun k => l.filter fun x => key x == k).Pairwise
      fun a b => order.idxOf (key a) ≤ order.idxOf (key b) := by
  induction order with
  | nil => simp
  | cons j js ih =>
    obtain ⟨hj, hjs⟩ := List.nodup_cons.1 hnodup
    rw [List.flatMap_cons, List.pairwise_append]
    refine ⟨?_, ?_, ?_⟩
    · -- one group: all its keys are `j`
      refine List.pairwise_of_forall_mem_list fun a ha b hb => ?_
      have hka : key a = j := beq_iff_eq.1 (List.mem_filter.1 ha).2
      have hkb : key b = j := beq_iff_eq.1 (List.mem_filter.1 hb).2
      exact Nat.le_of_eq (by rw [hka, hkb])
    · -- the later groups, whose keys are not `j`: their positions shift by one
      refine (ih hjs).imp_of_mem fun {a b} ha hb hab => ?_
      have hka := ((mem_groups key).1 ha).2
      have hkb := ((mem_groups key).1 hb).2
      rw [List.idxOf_cons_ne _ fun h => hj (by rw [h]; exact hka),
        List.idxOf_cons_ne _ fun h => hj (by rw [h]; exact hkb)]
      exact Nat.succ_le_succ hab
    · -- the group of `j` comes first
      intro a ha b _
      rw [beq_iff_eq.1 (List.mem_filter.1 ha).2, List.idxOf_cons_self]
      exact Nat.zero_le _

/-- Grouping the groups again changes nothing. -/
theorem groups_groups (hnodup : order.Nodup) (l : List α) :
    (order.flatMap fun k =>
        (order.flatMap fun j => l.filter fun x => key x == j).filter fun x => key x == k) =
      order.flatMap fun k => l.filter fun x => key x == k :=
  List.flatMap_congr fun k hk => by rw [filter_groups key hnodup, if_pos hk]

end KeyGroups
