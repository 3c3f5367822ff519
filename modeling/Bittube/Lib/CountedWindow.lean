import Mathlib

/-!
# Bounded windows with wrapping counters

A stream of values seen through a window of its last `w` items, kept as a FIFO list next to a
counter per value. The counters are machine words, so they wrap at a modulus `m`
(`m = 2 ^ 32` for an `unsigned int` array).

`lastN w l` is the window a stream `l` leaves. Pushing one item and popping the front while the
window is full gives the window of the longer stream, and items dropped from the front of a long
stream do not change its window. `CountsMod m c l` says the counters `c` count the items of `l`
modulo `m`. The empty window with zero counters satisfies it, and incrementing the counter of an
item pushed at the back or decrementing the counter of the item popped at the front keeps it.
Below the modulus the counters are exact, and summing the counters of distinct values counts the
items equal to one of them.
-/

namespace CountedWindow

variable {α : Type*}

/-! ## The window of a stream -/

/-- The last `w` items of `l`. -/
def lastN (w : ℕ) (l : List α) : List α := l.drop (l.length - w)

@[simp]
theorem length_lastN (w : ℕ) (l : List α) : (lastN w l).length = min w l.length := by
  simp only [lastN, List.length_drop]
  omega

theorem lastN_of_length_le {w : ℕ} {l : List α} (h : l.length ≤ w) : lastN w l = l := by
  simp [lastN, Nat.sub_eq_zero_of_le h]

@[simp]
theorem lastN_nil (w : ℕ) : lastN w ([] : List α) = [] := by
  simp [lastN]

theorem lastN_map {β : Type*} (w : ℕ) (f : α → β) (l : List α) :
    lastN w (l.map f) = (lastN w l).map f := by
  simp [lastN, List.map_drop]

/-- Dropping items before the last `w` leaves the window as it was. -/
theorem lastN_drop {w n : ℕ} {l : List α} (h : w + n ≤ l.length) :
    lastN w (l.drop n) = lastN w l := by
  simp only [lastN, List.length_drop, List.drop_drop]
  congr 1
  omega

/-- Pushing `a` and dropping what no longer fits gives the window of the longer stream. -/
theorem lastN_append_singleton {w : ℕ} (hw : 0 < w) (l : List α) (a : α) :
    (lastN w l).drop ((lastN w l).length + 1 - w) ++ [a] = lastN w (l ++ [a]) := by
  simp only [lastN, List.drop_drop, List.length_drop, List.length_append, List.length_singleton]
  rw [List.drop_append_of_le_length (by omega)]
  congr 2
  omega

/-! ## Counters modulo `m` -/

variable [DecidableEq α]

/-- `c[a]++` on a counter that wraps at `m`. -/
def incrAt (m : ℕ) (c : α → ℕ) (a : α) : α → ℕ := Function.update c a ((c a + 1) % m)

/-- `c[a]--` on a counter that wraps at `m`. -/
def decrAt (m : ℕ) (c : α → ℕ) (a : α) : α → ℕ := Function.update c a ((c a + m - 1) % m)

/-- The counters `c` count the items of `l` modulo `m`. -/
def CountsMod (m : ℕ) (c : α → ℕ) (l : List α) : Prop := ∀ a, c a = l.count a % m

variable {m : ℕ} {c : α → ℕ} {l : List α}

theorem CountsMod.incrAt (h : CountsMod m c l) (a : α) :
    CountsMod m (CountedWindow.incrAt m c a) (l ++ [a]) := by
  intro b
  by_cases hb : b = a
  · subst hb
    simp [CountedWindow.incrAt, h b, Nat.add_mod]
  · simp [CountedWindow.incrAt, hb, h b, Ne.symm hb]

/-- Taking one from `(n + 1) % m` the way an unsigned decrement does gives `n % m`. -/
theorem succ_mod_add_pred_mod (hm : 0 < m) (n : ℕ) : ((n + 1) % m + m - 1) % m = n % m := by
  have hsplit : (n + 1) % m + m - 1 = (n + 1) % m + (m - 1) := by omega
  rw [hsplit, Nat.add_mod, Nat.mod_mod, ← Nat.add_mod, show n + 1 + (m - 1) = n + m by omega,
    Nat.add_mod_right]

theorem CountsMod.decrAt (hm : 0 < m) {a : α} (h : CountsMod m c (a :: l)) :
    CountsMod m (CountedWindow.decrAt m c a) l := by
  intro b
  by_cases hb : b = a
  · subst hb
    have hc := h b
    simp only [List.count_cons_self] at hc
    simp only [CountedWindow.decrAt, Function.update_self, hc, succ_mod_add_pred_mod hm]
  · have hc := h b
    simp only [List.count_cons_of_ne (Ne.symm hb)] at hc
    simp [CountedWindow.decrAt, hb, hc]

/-- Two counter arrays that count the same window modulo `m` are equal. -/
theorem CountsMod.eq {c' : α → ℕ} (h : CountsMod m c l) (h' : CountsMod m c' l) : c = c' :=
  funext fun a => (h a).trans (h' a).symm

/-- Below the modulus the counters are exact. -/
theorem CountsMod.apply_eq_count (h : CountsMod m c l) (hl : l.length < m) (a : α) :
    c a = l.count a := by
  rw [h a, Nat.mod_eq_of_lt (Nat.lt_of_le_of_lt List.count_le_length hl)]

/-! ## Counting several values at once -/

theorem countP_mem_cons {a : α} {vs : List α} (ha : a ∉ vs) (l : List α) :
    l.countP (· ∈ a :: vs) = l.count a + l.countP (· ∈ vs) := by
  induction l with
  | nil => rfl
  | cons x l ih =>
    rw [List.countP_cons, List.countP_cons, List.count_cons, ih]
    by_cases hx : x = a
    · subst hx
      simp [ha]
      omega
    · by_cases hv : x ∈ vs <;> simp [hx, hv, Nat.add_assoc]

/-- Summing the counts of distinct values counts the items that are one of them. -/
theorem sum_map_count_eq_countP {vs : List α} (hvs : vs.Nodup) (l : List α) :
    (vs.map l.count).sum = l.countP (· ∈ vs) := by
  induction vs with
  | nil => simp
  | cons a vs ih =>
    rw [List.nodup_cons] at hvs
    rw [List.map_cons, List.sum_cons, ih hvs.2, countP_mem_cons hvs.1]

end CountedWindow
