import Bittube.Epee.RollingMedian
import Bittube.Epee.MiscLanguage
import Bittube.Lib.BinaryHeap
import Bittube.Lib.CountedWindow

/-!
# `rolling_median_t` computes the median of its window

Seen through `heap`, the nodes of each side hold values: `s.view S j` is the value at node `j` of
side `S`, and both sides share the root. Every exchange of the sift loops permutes these values,
so the loops are the sifts of `BinaryHeap` on the view of their side, and the order reasoning is
the library's.

The bookkeeping is `Layout`: `pos` and `heap` are inverse between the `N` slots and the positions
`-(N / 2)` to `(N - 1) / 2`, the counts follow the number of values held, a slot not yet written
since `clear` keeps the position `clear` gave it, and every position in use holds the slot of a
value of the window. With the values of the window in their slots (`recentSlots`) and both heaps
ordered, `Inv` holds after `clear` and after every `insert`, and from it `median` is the median
of the window.
-/

namespace Bittube.Epee.MiscUtils

open BinaryHeap CountedWindow

variable {α : Type}

section Order

variable [LinearOrder α]

/-- The order of a side's heap: on the min side no parent is above its children, on the max side
none is below them. -/
def Side.le : Side → α → α → Prop
  | .min, a, b => a ≤ b
  | .max, a, b => b ≤ a

instance Side.decLe : (S : Side) → DecidableRel (Side.le (α := α) S)
  | .min => fun a b => inferInstanceAs (Decidable (a ≤ b))
  | .max => fun a b => inferInstanceAs (Decidable (b ≤ a))

instance Side.isTrans : (S : Side) → IsTrans α S.le
  | .min => ⟨fun _ _ _ => le_trans⟩
  | .max => ⟨fun _ _ _ hab hbc => le_trans hbc hab⟩

instance Side.total : (S : Side) → Std.Total (Side.le (α := α) S)
  | .min => ⟨fun a b => le_total a b⟩
  | .max => ⟨fun a b => le_total b a⟩

end Order

theorem Side.emb_injective (S : Side) : Function.Injective S.emb := by
  cases S <;> intro a b h <;> simpa [Side.emb] using h

@[simp] theorem Side.emb_zero (S : Side) : S.emb 0 = 0 := by
  cases S <;> rfl

/-- The other heap. -/
def Side.other : Side → Side
  | .min => .max
  | .max => .min

theorem Side.other_ne (S : Side) : S.other ≠ S := by
  cases S <;> simp [Side.other]

theorem Side.le_other [LinearOrder α] (S : Side) (a b : α) : S.other.le a b ↔ S.le b a := by
  cases S <;> rfl

/-- A fact about both sides from one about a side and one about the other. -/
theorem Side.forall_of_other {P : Side → Prop} (S : Side) (h : P S) (h' : P S.other) : ∀ S', P S' := by
  intro S'
  cases S <;> cases S' <;> assumption

/-- No node below the root of one side is a position of the other side. -/
theorem Side.emb_ne_emb {S S' : Side} (h : S' ≠ S) {j k : ℕ} (hj : 1 ≤ j) : S'.emb j ≠ S.emb k := by
  cases S <;> cases S' <;> simp_all [Side.emb] <;> omega

namespace RollingMedian

/-- The value at node `j` of side `S`. -/
def view (s : RollingMedian α) (S : Side) (j : ℕ) : α := s.data (s.heap (S.emb j))

theorem view_zero (s : RollingMedian α) (S S' : Side) : s.view S 0 = s.view S' 0 := by
  simp [view]

section Order

variable [LinearOrder α]

theorem out_eq (s : RollingMedian α) (S : Side) (a b : ℕ) :
    s.out S a b = decide (¬S.le (s.view S b) (s.view S a)) := by
  cases S <;> simp [out, mmless, view, Side.le]

end Order

/-! ### Exchanges -/

@[simp] theorem data_mmexchange (s : RollingMedian α) (i j : ℤ) : (s.mmexchange i j).data = s.data :=
  rfl

@[simp] theorem N_mmexchange (s : RollingMedian α) (i j : ℤ) : (s.mmexchange i j).N = s.N := rfl

@[simp] theorem idx_mmexchange (s : RollingMedian α) (i j : ℤ) : (s.mmexchange i j).idx = s.idx :=
  rfl

@[simp] theorem sz_mmexchange (s : RollingMedian α) (i j : ℤ) : (s.mmexchange i j).sz = s.sz := rfl

@[simp] theorem minCt_mmexchange (s : RollingMedian α) (i j : ℤ) :
    (s.mmexchange i j).minCt = s.minCt := rfl

@[simp] theorem maxCt_mmexchange (s : RollingMedian α) (i j : ℤ) :
    (s.mmexchange i j).maxCt = s.maxCt := rfl

/-- `mmexchange` permutes `heap` by the transposition of its two positions. -/
theorem heap_mmexchange (s : RollingMedian α) (i j : ℤ) :
    (s.mmexchange i j).heap = s.heap ∘ Equiv.swap i j := by
  funext p
  simp only [mmexchange, Function.comp_apply, Function.update_apply, Equiv.swap_apply_def]
  by_cases hpj : p = j
  · subst hpj
    by_cases hpi : p = i <;> simp [hpi]
  · by_cases hpi : p = i
    · subst hpi
      simp [hpj]
    · simp [hpi, hpj]

theorem pos_mmexchange (s : RollingMedian α) (i j : ℤ) (k : ℕ) :
    (s.mmexchange i j).pos k =
      if k = s.heap i then j else if k = s.heap j then i else s.pos k := by
  simp only [mmexchange, Function.update_apply]
  by_cases hki : k = s.heap i
  · simp [hki]
  · by_cases hij : i = j
    · subst hij
      simp [hki]
    · simp [hki, hij]

/-- An exchange of two nodes of one side permutes that side's values. -/
theorem view_mmexchange (s : RollingMedian α) (S : Side) (a b : ℕ) :
    (s.mmexchange (S.emb a) (S.emb b)).view S = s.view S ∘ Equiv.swap a b := by
  funext j
  simp only [view, heap_mmexchange, data_mmexchange, Function.comp_apply,
    (Side.emb_injective S).swap_apply]


/-- `s'` comes from `s` by exchanges of positions that satisfy `P`. -/
inductive Swaps (P : ℤ → Prop) : RollingMedian α → RollingMedian α → Prop
  | refl (s : RollingMedian α) : Swaps P s s
  | exch {s s' : RollingMedian α} {i j : ℤ} : P i → P j → Swaps P (s.mmexchange i j) s' →
      Swaps P s s'

section Swaps

variable {P : ℤ → Prop} {s s' s'' : RollingMedian α}

theorem Swaps.trans (h₁ : Swaps P s s') (h₂ : Swaps P s' s'') : Swaps P s s'' := by
  induction h₁ with
  | refl => exact h₂
  | exch hi hj _ ih => exact .exch hi hj (ih h₂)

/-- Exchanges move slots between positions and change nothing else. -/
theorem Swaps.frame (h : Swaps P s s') :
    s'.data = s.data ∧ s'.N = s.N ∧ s'.idx = s.idx ∧ s'.sz = s.sz ∧ s'.minCt = s.minCt ∧
      s'.maxCt = s.maxCt := by
  induction h with
  | refl => exact ⟨rfl, rfl, rfl, rfl, rfl, rfl⟩
  | exch _ _ _ ih => simpa using ih

theorem Swaps.heap_of_not (h : Swaps P s s') {p : ℤ} (hp : ¬P p) : s'.heap p = s.heap p := by
  induction h with
  | refl => rfl
  | exch hi hj _ ih =>
    rw [ih, heap_mmexchange, Function.comp_apply,
      Equiv.swap_apply_of_ne_of_ne (by rintro rfl; exact hp hi) (by rintro rfl; exact hp hj)]

end Swaps

/-- The positions of the nodes `0` to `n` of side `S`. -/
def OnSide (S : Side) (n : ℕ) (p : ℤ) : Prop := ∃ j ≤ n, p = S.emb j

theorem onSide_emb {S : Side} {n j : ℕ} (hj : j ≤ n) : OnSide S n (S.emb j) := ⟨j, hj, rfl⟩

section Sift

variable [LinearOrder α]

/-- `cmpExch` swaps a node with its parent exactly when the node is strictly before it. -/
theorem cmpExch_fst (s : RollingMedian α) (S : Side) (c p : ℕ) :
    (s.cmpExch S c p).1 = s.out S c p := by
  cases S
  · by_cases h : s.mmless (Side.emb .min c) (Side.emb .min p) <;> simp [cmpExch, mmCmpExch, out, h]
  · by_cases h : s.mmless (Side.emb .max p) (Side.emb .max c) <;> simp [cmpExch, mmCmpExch, out, h]

theorem view_cmpExch (s : RollingMedian α) (S : Side) (c p : ℕ) :
    (s.cmpExch S c p).2.view S = if s.out S c p then s.view S ∘ Equiv.swap c p else s.view S := by
  cases S
  · by_cases h : s.mmless (Side.emb .min c) (Side.emb .min p) <;>
      simp [cmpExch, mmCmpExch, out, h, view_mmexchange]
  · by_cases h : s.mmless (Side.emb .max p) (Side.emb .max c) <;>
      simp [cmpExch, mmCmpExch, out, h, view_mmexchange, Equiv.swap_comm]

/-- A node not strictly before its parent stays. -/
theorem cmpExch_of_le {s : RollingMedian α} {S : Side} {c p : ℕ}
    (h : S.le (s.view S p) (s.view S c)) : s.cmpExch S c p = (false, s) := by
  cases S <;> simp_all [cmpExch, mmCmpExch, mmless, view, Side.le]

/-- A node strictly before its parent swaps with it. -/
theorem cmpExch_of_not_le {s : RollingMedian α} {S : Side} {c p : ℕ}
    (h : ¬S.le (s.view S p) (s.view S c)) :
    (s.cmpExch S c p).1 = true ∧ (s.cmpExch S c p).2.view S = s.view S ∘ Equiv.swap c p := by
  have hout : s.out S c p = true := by rw [out_eq]; simpa using h
  rw [cmpExch_fst, view_cmpExch, hout, if_pos rfl]
  exact ⟨rfl, rfl⟩

theorem swaps_cmpExch {P : ℤ → Prop} (s : RollingMedian α) (S : Side) {c p : ℕ}
    (hc : P (S.emb c)) (hp : P (S.emb p)) : Swaps P s (s.cmpExch S c p).2 := by
  cases S
  · by_cases h : s.mmless (Side.emb .min c) (Side.emb .min p)
    · simpa [cmpExch, mmCmpExch, h] using Swaps.exch hc hp (.refl _)
    · simpa [cmpExch, mmCmpExch, h] using Swaps.refl (P := P) s
  · by_cases h : s.mmless (Side.emb .max p) (Side.emb .max c)
    · simpa [cmpExch, mmCmpExch, h] using Swaps.exch hp hc (.refl _)
    · simpa [cmpExch, mmCmpExch, h] using Swaps.refl (P := P) s

theorem cnt_cmpExch (s : RollingMedian α) (S S' : Side) (c p : ℕ) :
    (s.cmpExch S c p).2.cnt S' = s.cnt S' := by
  have h := (swaps_cmpExch (P := fun _ => True) s S (c := c) (p := p) trivial trivial).frame
  cases S' <;> simp [cnt, h.2.2.2.2.1, h.2.2.2.2.2]

/-! ### The sift loops are the library's sifts on the view of their side -/

theorem sortUpLoop_view (S : Side) : ∀ (fuel : ℕ) (s : RollingMedian α) (i : ℕ),
    (sortUpLoop S fuel s i).1 = (siftUp S.le fuel (s.view S) i).1 ∧
      (sortUpLoop S fuel s i).2.view S = (siftUp S.le fuel (s.view S) i).2
  | 0, s, i => ⟨rfl, rfl⟩
  | fuel + 1, s, i => by
    rw [sortUpLoop, siftUp]
    by_cases hi : 0 < i
    · rw [if_pos hi, if_pos hi]
      have hfst := cmpExch_fst s S i (i / 2)
      have hview := view_cmpExch s S i (i / 2)
      rw [out_eq] at hfst hview
      rcases hce : s.cmpExch S i (i / 2) with ⟨b, s'⟩
      rw [hce] at hfst hview
      by_cases hle : S.le (s.view S (i / 2)) (s.view S i)
      · simp only [hle, not_true_eq_false, decide_false] at hfst hview ⊢
        subst hfst
        exact ⟨rfl, hview⟩
      · simp only [hle, not_false_eq_true, decide_true, if_true] at hfst hview ⊢
        subst hfst
        rw [← hview]
        exact sortUpLoop_view S fuel s' (i / 2)
    · rw [if_neg hi, if_neg hi]
      exact ⟨rfl, rfl⟩

/-- The child the loop of `minSortDown` and `maxSortDown` picks is the library's. -/
theorem pickChild_eq (s : RollingMedian α) (S : Side) (i : ℕ) :
    (if 2 * i < s.cnt S ∧ s.out S (2 * i + 1) (2 * i) = true then 2 * i + 1 else 2 * i) =
      pickChild S.le (s.view S) (s.cnt S) i := by
  simp only [pickChild, out_eq, decide_eq_true_eq]

theorem sortDownLoop_view (S : Side) : ∀ (fuel : ℕ) (s : RollingMedian α) (i : ℕ),
    (sortDownLoop S fuel s i).view S = siftDown S.le (s.cnt S) fuel (s.view S) i
  | 0, s, i => rfl
  | fuel + 1, s, i => by
    rw [sortDownLoop, siftDown]
    by_cases h2 : 2 * i ≤ s.cnt S
    · rw [if_pos h2, if_pos h2]
      dsimp only
      rw [pickChild_eq]
      have hc := pickChild_div S.le (s.view S) (s.cnt S) i
      have hfst := cmpExch_fst s S (pickChild S.le (s.view S) (s.cnt S) i)
        (pickChild S.le (s.view S) (s.cnt S) i / 2)
      have hview := view_cmpExch s S (pickChild S.le (s.view S) (s.cnt S) i)
        (pickChild S.le (s.view S) (s.cnt S) i / 2)
      have hcnt := cnt_cmpExch s S S (pickChild S.le (s.view S) (s.cnt S) i)
        (pickChild S.le (s.view S) (s.cnt S) i / 2)
      rw [out_eq, hc] at hfst hview
      rw [hc] at hcnt
      rw [hc]
      rcases hce : s.cmpExch S (pickChild S.le (s.view S) (s.cnt S) i) i with ⟨b, s'⟩
      rw [hce] at hfst hview hcnt
      by_cases hle : S.le (s.view S i) (s.view S (pickChild S.le (s.view S) (s.cnt S) i))
      · simp only [hle, not_true_eq_false, decide_false] at hfst hview ⊢
        subst hfst
        exact hview
      · simp only [hle, not_false_eq_true, decide_true, if_true] at hfst hview ⊢
        subst hfst
        rw [← hview, ← hcnt]
        exact sortDownLoop_view S fuel s' _
    · rw [if_neg h2, if_neg h2]

theorem sortUpLoop_swaps (S : Side) : ∀ (fuel : ℕ) (s : RollingMedian α) (i : ℕ), i ≤ s.cnt S →
    Swaps (OnSide S (s.cnt S)) s (sortUpLoop S fuel s i).2
  | 0, s, _, _ => .refl s
  | fuel + 1, s, i, hi => by
    rw [sortUpLoop]
    split_ifs with hpos
    · have hsw := swaps_cmpExch (P := OnSide S (s.cnt S)) s S (onSide_emb hi)
        (onSide_emb (Nat.le_trans (Nat.div_le_self i 2) hi))
      have hcnt := cnt_cmpExch s S S i (i / 2)
      rcases hce : s.cmpExch S i (i / 2) with ⟨b, s'⟩
      rw [hce] at hsw hcnt
      cases b
      · exact hsw
      · have hcnt' : s'.cnt S = s.cnt S := hcnt
        have hrest := sortUpLoop_swaps S fuel s' (i / 2) (by omega)
        rw [hcnt'] at hrest
        exact hsw.trans hrest
    · exact .refl s

theorem sortDownLoop_swaps (S : Side) : ∀ (fuel : ℕ) (s : RollingMedian α) (i : ℕ),
    Swaps (OnSide S (s.cnt S)) s (sortDownLoop S fuel s i)
  | 0, s, _ => .refl s
  | fuel + 1, s, i => by
    rw [sortDownLoop]
    by_cases h2 : 2 * i ≤ s.cnt S
    · rw [if_pos h2]
      dsimp only
      rw [pickChild_eq, pickChild_div]
      have hcn := pickChild_le S.le (s.view S) h2
      have hsw := swaps_cmpExch (P := OnSide S (s.cnt S)) s S (onSide_emb hcn)
        (onSide_emb (j := i) (by omega))
      have hcnt := cnt_cmpExch s S S (pickChild S.le (s.view S) (s.cnt S) i) i
      rcases hce : s.cmpExch S (pickChild S.le (s.view S) (s.cnt S) i) i with ⟨b, s'⟩
      rw [hce] at hsw hcnt
      cases b
      · exact hsw
      · have hcnt' : s'.cnt S = s.cnt S := hcnt
        have hrest := sortDownLoop_swaps S fuel s' (pickChild S.le (s.view S) (s.cnt S) i)
        rw [hcnt'] at hrest
        exact hsw.trans hrest
    · rw [if_neg h2]
      exact .refl s

end Sift

/-! ### The layout of the store -/

theorem fillPos_even (m : ℕ) : fillPos (2 * m) = m := by
  rw [fillPos, if_neg (by omega)]
  push_cast
  omega

theorem fillPos_odd (m : ℕ) : fillPos (2 * m + 1) = -(m + 1) := by
  rw [fillPos, if_pos (by omega)]
  push_cast
  omega

/-- The positions `clear` lays out, `-(N / 2)` to `(N - 1) / 2`, one for each slot. -/
def InRange (N : ℕ) (p : ℤ) : Prop := -((N / 2 : ℕ) : ℤ) ≤ p ∧ p ≤ ((N - 1) / 2 : ℕ)

theorem inRange_fillPos {N k : ℕ} (hk : k < N) : InRange N (fillPos k) := by
  obtain ⟨m, rfl | rfl⟩ := Nat.even_or_odd' k
  · rw [fillPos_even]
    constructor <;> omega
  · rw [fillPos_odd]
    constructor <;> omega

theorem fillHeap_fillPos (k : ℕ) : fillHeap (fillPos k) = k := by
  obtain ⟨m, rfl | rfl⟩ := Nat.even_or_odd' k
  · rw [fillPos_even, fillHeap]
    split_ifs <;> omega
  · rw [fillPos_odd, fillHeap, if_neg (by omega), if_pos (by omega)]
    omega

theorem fillPos_fillHeap (p : ℤ) : fillPos (fillHeap p) = p := by
  rw [fillHeap]
  split_ifs with hpos hneg
  · obtain ⟨m, rfl⟩ : ∃ m : ℕ, p = m := ⟨p.toNat, by omega⟩
    rw [show (2 * (m : ℤ)).toNat = 2 * m by omega, fillPos_even]
  · obtain ⟨m, rfl⟩ : ∃ m : ℕ, p = -(m + 1) := ⟨(-p - 1).toNat, by omega⟩
    rw [show (-2 * (-((m : ℤ) + 1)) - 1).toNat = 2 * m + 1 by omega, fillPos_odd]
  · rw [show (0 : ℕ) = 2 * 0 from rfl, fillPos_even]
    omega

theorem fillHeap_lt {N : ℕ} {p : ℤ} (hN : 0 < N) (hp : InRange N p) : fillHeap p < N := by
  obtain ⟨hlo, hhi⟩ := hp
  rw [fillHeap]
  split_ifs <;> omega

/-- The positions in use: `-maxCt` to `minCt` once a value is held. -/
def Active (s : RollingMedian α) (p : ℤ) : Prop := 0 < s.sz ∧ -(s.maxCt : ℤ) ≤ p ∧ p ≤ s.minCt

/-- The slots of the values of the window, oldest first. -/
def recentSlots (s : RollingMedian α) : List ℕ :=
  (List.range s.sz).map fun t => (s.idx + (s.N - s.sz) + t) % s.N

/-- The bookkeeping of `rolling_median_t`: `heap` and `pos` are inverse between the slots and the
positions `clear` lays out, the counts are those of `sz` values, the slots not written since
`clear` keep their positions, and the positions in use hold the slots of the window. -/
structure Layout (s : RollingMedian α) : Prop where
  N_pos : 0 < s.N
  sz_le : s.sz ≤ s.N
  idx_lt : s.idx < s.N
  idx_eq : s.sz < s.N → s.idx = s.sz
  maxCt_eq : s.maxCt = s.sz / 2
  minCt_eq : s.minCt = (s.sz - 1) / 2
  heap_pos : ∀ k < s.N, s.heap (s.pos k) = k
  pos_mem : ∀ k < s.N, InRange s.N (s.pos k)
  heap_lt : ∀ p, InRange s.N p → s.heap p < s.N
  pos_heap : ∀ p, InRange s.N p → s.pos (s.heap p) = p
  fill : ∀ k, s.sz ≤ k → k < s.N → s.pos k = fillPos k
  active : ∀ p, Active s p → s.heap p ∈ recentSlots s

section Layout

variable {s : RollingMedian α}

theorem Layout.inRange (hl : Layout s) {p : ℤ} (hp : Active s p) : InRange s.N p := by
  obtain ⟨-, hlo, hhi⟩ := hp
  have := hl.sz_le
  have := hl.maxCt_eq
  have := hl.minCt_eq
  constructor <;> omega

theorem Layout.heap_inj (hl : Layout s) {p q : ℤ} (hp : InRange s.N p) (hq : InRange s.N q)
    (h : s.heap p = s.heap q) : p = q := by
  rw [← hl.pos_heap p hp, ← hl.pos_heap q hq, h]

/-- Before the window is full, its slots are the first `sz`. -/
theorem Layout.recentSlots_of_lt (hl : Layout s) (h : s.sz < s.N) :
    recentSlots s = List.range s.sz := by
  rw [recentSlots, hl.idx_eq h]
  conv_rhs => rw [← List.map_id (List.range s.sz)]
  refine List.map_congr_left fun t ht => ?_
  have ht' := List.mem_range.1 ht
  rw [show s.sz + (s.N - s.sz) + t = t + s.N by omega, Nat.add_mod_right, Nat.mod_eq_of_lt (by omega)]
  rfl

/-- Once the window is full, every slot holds one of its values. -/
theorem mem_recentSlots_of_eq (hidx : s.idx < s.N) (h : s.sz = s.N) {k : ℕ} (hk : k < s.N) :
    k ∈ recentSlots s := by
  refine List.mem_map.2 ⟨(k + s.N - s.idx) % s.N, List.mem_range.2 (h ▸ Nat.mod_lt _ (by omega)), ?_⟩
  rw [h, Nat.sub_self, Nat.add_zero, Nat.add_mod_mod, show s.idx + (k + s.N - s.idx) = k + s.N by omega,
    Nat.add_mod_right, Nat.mod_eq_of_lt hk]

theorem inRange_swap {N : ℕ} {i j p : ℤ} (hi : InRange N i) (hj : InRange N j) (hp : InRange N p) :
    InRange N (Equiv.swap i j p) := by
  rw [Equiv.swap_apply_def]
  split_ifs
  · exact hj
  · exact hi
  · exact hp

theorem active_swap {i j p : ℤ} (hi : Active s i) (hj : Active s j) (hp : Active s p) :
    Active s (Equiv.swap i j p) := by
  rw [Equiv.swap_apply_def]
  split_ifs
  · exact hj
  · exact hi
  · exact hp

/-- An exchange of two positions in use keeps the layout. -/
theorem Layout.mmexchange (hl : Layout s) {i j : ℤ} (hi : Active s i) (hj : Active s j) :
    Layout (s.mmexchange i j) := by
  have hri := hl.inRange hi
  have hrj := hl.inRange hj
  have hki := hl.active i hi
  have hkj := hl.active j hj
  refine ⟨hl.N_pos, hl.sz_le, hl.idx_lt, hl.idx_eq, hl.maxCt_eq, hl.minCt_eq, ?_, ?_, ?_, ?_, ?_, ?_⟩
  · -- `pos` and `heap` stay inverse: the two slots trade positions
    intro k hk
    simp only [N_mmexchange, heap_mmexchange, Function.comp_apply, pos_mmexchange] at hk ⊢
    split_ifs with h1 h2
    · rw [Equiv.swap_apply_right, h1]
    · rw [Equiv.swap_apply_left, h2]
    · have hpos := hl.heap_pos k hk
      rw [Equiv.swap_apply_of_ne_of_ne (fun h => h1 (by rw [← hpos, h]))
        (fun h => h2 (by rw [← hpos, h]))]
      exact hpos
  · intro k hk
    simp only [N_mmexchange, pos_mmexchange] at hk ⊢
    split_ifs
    · exact hrj
    · exact hri
    · exact hl.pos_mem k hk
  · intro p hp
    simp only [N_mmexchange, heap_mmexchange, Function.comp_apply] at hp ⊢
    exact hl.heap_lt _ (inRange_swap hri hrj hp)
  · intro p hp
    simp only [N_mmexchange, heap_mmexchange, Function.comp_apply, pos_mmexchange] at hp ⊢
    rw [Equiv.swap_apply_def]
    by_cases hpi : p = i
    · subst hpi
      by_cases hpj : p = j
      · subst hpj
        simp
      · have hne : s.heap j ≠ s.heap p := fun h => hpj (hl.heap_inj hrj hri h).symm
        simp [hne]
    · by_cases hpj : p = j
      · subst hpj
        simp [hpi]
      · have hne1 : s.heap p ≠ s.heap i := fun h => hpi (hl.heap_inj hp hri h)
        have hne2 : s.heap p ≠ s.heap j := fun h => hpj (hl.heap_inj hp hrj h)
        simp [hpi, hpj, hne1, hne2, hl.pos_heap p hp]
  · -- the slots exchanged hold values of the window, so none is still unwritten
    intro k hk hkN
    simp only [N_mmexchange, sz_mmexchange, pos_mmexchange] at hk hkN ⊢
    have hlt : s.sz < s.N := by omega
    rw [hl.recentSlots_of_lt hlt] at hki hkj
    rw [if_neg (by have := List.mem_range.1 hki; omega), if_neg (by have := List.mem_range.1 hkj; omega)]
    exact hl.fill k hk hkN
  · intro p hp
    simp only [heap_mmexchange, Function.comp_apply]
    exact hl.active _ (active_swap hi hj hp)

/-- Exchanges of positions in use keep the layout. -/
theorem Layout.swaps {P : ℤ → Prop} {s' : RollingMedian α} (hl : Layout s) (h : Swaps P s s')
    (hP : ∀ p, P p → Active s p) : Layout s' := by
  induction h with
  | refl => exact hl
  | exch hi hj _ ih => exact ih (hl.mmexchange (hP _ hi) (hP _ hj)) hP

end Layout

/-! ### `clear`, and the write of `insert` -/

theorem Layout.clear (s : RollingMedian α) (hN : 0 < s.N) : Layout s.clear := by
  refine ⟨hN, Nat.zero_le _, hN, fun _ => rfl, by simp [RollingMedian.clear],
    by simp [RollingMedian.clear], ?_, ?_, ?_, ?_, ?_, ?_⟩
  · intro k hk
    have hr : -((s.N / 2 : ℕ) : ℤ) ≤ fillPos k ∧ fillPos k ≤ ((s.N - 1) / 2 : ℕ) :=
      inRange_fillPos hk
    simp only [RollingMedian.clear] at hk ⊢
    rw [if_pos hk, if_pos hr, fillHeap_fillPos]
  · intro k hk
    simp only [RollingMedian.clear] at hk ⊢
    rw [if_pos hk]
    exact inRange_fillPos hk
  · intro p hp
    have hr : -((s.N / 2 : ℕ) : ℤ) ≤ p ∧ p ≤ ((s.N - 1) / 2 : ℕ) := hp
    simp only [RollingMedian.clear] at hp ⊢
    rw [if_pos hr]
    exact fillHeap_lt hN hp
  · intro p hp
    have hr : -((s.N / 2 : ℕ) : ℤ) ≤ p ∧ p ≤ ((s.N - 1) / 2 : ℕ) := hp
    simp only [RollingMedian.clear] at hp ⊢
    rw [if_pos hr, if_pos (fillHeap_lt hN hp), fillPos_fillHeap]
  · intro k _ hk
    simp only [RollingMedian.clear] at hk ⊢
    rw [if_pos hk]
  · intro p hp
    exact absurd hp.1 (Nat.lt_irrefl 0)

/-- The store of `insert(v)` before the heaps are repaired: `v` over the oldest slot, the queue
advanced, and the count of the side that grows while the window fills. -/
def placed (s : RollingMedian α) (v : α) : RollingMedian α :=
  { s with
    data := Function.update s.data s.idx v
    idx := (s.idx + 1) % s.N
    sz := min (s.sz + 1) s.N
    minCt := if 0 < s.pos s.idx ∧ s.minCt < (s.N - 1) / 2 then s.minCt + 1 else s.minCt
    maxCt := if s.pos s.idx < 0 ∧ s.maxCt < s.N / 2 then s.maxCt + 1 else s.maxCt }

section Placed

variable {s : RollingMedian α} (v : α)

@[simp] theorem heap_placed : (s.placed v).heap = s.heap := rfl

@[simp] theorem pos_placed : (s.placed v).pos = s.pos := rfl

@[simp] theorem N_placed : (s.placed v).N = s.N := rfl

@[simp] theorem data_placed : (s.placed v).data = Function.update s.data s.idx v := rfl

@[simp] theorem idx_placed : (s.placed v).idx = (s.idx + 1) % s.N := rfl

@[simp] theorem sz_placed : (s.placed v).sz = min (s.sz + 1) s.N := rfl

theorem minCt_placed : (s.placed v).minCt =
    if 0 < s.pos s.idx ∧ s.minCt < (s.N - 1) / 2 then s.minCt + 1 else s.minCt := rfl

theorem maxCt_placed : (s.placed v).maxCt =
    if s.pos s.idx < 0 ∧ s.maxCt < s.N / 2 then s.maxCt + 1 else s.maxCt := rfl

/-- While the window fills, the slot written is the next one, at the next position of the fill
pattern, and the side of that position grows. -/
theorem Layout.counts_placed (hl : Layout s) (hfill : s.sz < s.N) :
    (s.placed v).maxCt = (s.sz + 1) / 2 ∧ (s.placed v).minCt = s.sz / 2 := by
  have hp : s.pos s.idx = fillPos s.sz := by
    rw [hl.idx_eq hfill]
    exact hl.fill _ (Nat.le_refl _) hfill
  have hmax := hl.maxCt_eq
  have hmin := hl.minCt_eq
  rw [maxCt_placed, minCt_placed, hp]
  obtain ⟨m, hm | hm⟩ := Nat.even_or_odd' s.sz
  · rw [hm, fillPos_even]
    rw [hm] at hmax hmin hfill
    split_ifs <;> omega
  · rw [hm, fillPos_odd]
    rw [hm] at hmax hmin hfill
    split_ifs <;> omega

theorem Layout.recentSlots_placed_of_lt (hl : Layout s) (hfill : s.sz < s.N) :
    recentSlots (s.placed v) = List.range (s.sz + 1) := by
  rw [recentSlots, sz_placed, idx_placed, N_placed, Nat.min_eq_left (by omega : s.sz + 1 ≤ s.N),
    hl.idx_eq hfill]
  conv_rhs => rw [← List.map_id (List.range (s.sz + 1))]
  refine List.map_congr_left fun t ht => ?_
  have ht' := List.mem_range.1 ht
  rcases Nat.lt_or_ge (s.sz + 1) s.N with hlt | hge
  · rw [Nat.mod_eq_of_lt hlt, show s.sz + 1 + (s.N - (s.sz + 1)) + t = t + s.N by omega,
      Nat.add_mod_right, Nat.mod_eq_of_lt (by omega)]
    rfl
  · rw [show s.sz + 1 = s.N by omega, Nat.mod_self, Nat.sub_self, Nat.zero_add,
      Nat.mod_eq_of_lt (by omega)]
    rfl

theorem Layout.placed (hl : Layout s) : Layout (s.placed v) := by
  have hN : (s.placed v).N = s.N := rfl
  rcases Nat.lt_or_ge s.sz s.N with hfill | hfull
  · -- the window fills: the slot written joins it at the next position of the fill pattern
    obtain ⟨hmax, hmin⟩ := hl.counts_placed v hfill
    have hsz : (s.placed v).sz = s.sz + 1 := Nat.min_eq_left (by omega)
    have hidx := hl.idx_eq hfill
    have hslots := hl.recentSlots_placed_of_lt v hfill
    refine ⟨hl.N_pos, by omega, Nat.mod_lt _ hl.N_pos, ?_, by omega, by omega, hl.heap_pos,
      hl.pos_mem, hl.heap_lt, hl.pos_heap, fun k hk hkN => hl.fill k (by omega) hkN, ?_⟩
    · intro hlt
      rw [idx_placed, hidx, hsz]
      exact Nat.mod_eq_of_lt (by omega)
    · intro p hp
      obtain ⟨-, hlo, hhi⟩ := hp
      rw [hslots, List.mem_range, heap_placed]
      have hp : s.pos s.idx = fillPos s.sz := by
        rw [hidx]
        exact hl.fill _ (Nat.le_refl _) hfill
      -- either `p` was in use, or it is the position of the new slot
      have hnew : p = fillPos s.sz ∨ Active s p := by
        have := hl.maxCt_eq
        have := hl.minCt_eq
        obtain ⟨m, hm | hm⟩ := Nat.even_or_odd' s.sz
        · rw [hm, fillPos_even]
          rw [hm] at hmax hmin
          by_cases h : p = m
          · exact Or.inl h
          · exact Or.inr ⟨by omega, by omega, by omega⟩
        · rw [hm, fillPos_odd]
          rw [hm] at hmax hmin
          by_cases h : p = -(m + 1)
          · exact Or.inl h
          · exact Or.inr ⟨by omega, by omega, by omega⟩
      rcases hnew with rfl | hact
      · rw [← hp, hl.heap_pos _ hl.idx_lt, hidx]
        exact Nat.lt_succ_self _
      · have hmem := hl.active p hact
        rw [hl.recentSlots_of_lt hfill, List.mem_range] at hmem
        omega
  · -- the window is full: the counts stay, and every slot is in it
    have hsz : s.sz = s.N := Nat.le_antisymm hl.sz_le hfull
    have hsz' : (s.placed v).sz = s.N := by rw [sz_placed, hsz, Nat.min_eq_right (Nat.le_succ _)]
    have hmax : (s.placed v).maxCt = s.maxCt := by
      rw [maxCt_placed, if_neg (by rw [hl.maxCt_eq, hsz]; omega)]
    have hmin : (s.placed v).minCt = s.minCt := by
      rw [minCt_placed, if_neg (by rw [hl.minCt_eq, hsz]; omega)]
    refine ⟨hl.N_pos, by omega, Nat.mod_lt _ hl.N_pos, fun h => absurd h (by omega), ?_, ?_,
      hl.heap_pos, hl.pos_mem, hl.heap_lt, hl.pos_heap, fun k hk hkN => absurd hkN (by omega), ?_⟩
    · rw [hmax, hl.maxCt_eq, hsz, hsz']
    · rw [hmin, hl.minCt_eq, hsz, hsz']
    · intro p hp
      have hact : Active s p := by
        obtain ⟨-, hlo, hhi⟩ := hp
        rw [hmax] at hlo
        rw [hmin] at hhi
        exact ⟨by have := hl.N_pos; omega, hlo, hhi⟩
      exact mem_recentSlots_of_eq (Nat.mod_lt _ hl.N_pos) hsz' (hl.heap_lt p (hl.inRange hact))

/-- Past the oldest slot of a full window, the slots before the one written come first. -/
theorem add_one_add_mod_ne {N i t : ℕ} (hi : i < N) (ht : t + 1 < N) : (i + 1 + t) % N ≠ i := by
  rcases Nat.lt_or_ge (i + 1 + t) N with h | h
  · rw [Nat.mod_eq_of_lt h]
    omega
  · rw [Nat.mod_eq_sub_mod h, Nat.mod_eq_of_lt (by omega)]
    omega

/-- The write of `insert` appends the new value to the window, dropping its oldest value when
it is full. -/
theorem Layout.content_placed (hl : Layout s) :
    (recentSlots (s.placed v)).map (s.placed v).data =
      ((recentSlots s).map s.data).drop (s.sz + 1 - s.N) ++ [v] := by
  rcases Nat.lt_or_ge s.sz s.N with hfill | hfull
  · -- the new slot is the next one
    rw [hl.recentSlots_placed_of_lt v hfill, hl.recentSlots_of_lt hfill, Nat.sub_eq_zero_of_le hfill,
      List.drop_zero, List.range_succ, List.map_append, List.map_singleton, data_placed,
      hl.idx_eq hfill, Function.update_self]
    congr 1
    refine List.map_congr_left fun t ht => Function.update_of_ne ?_ _ _
    have := List.mem_range.1 ht
    omega
  · -- the window is full: the slot written is the oldest, and it comes last
    have hsz : s.sz = s.N := Nat.le_antisymm hl.sz_le hfull
    have hslots : recentSlots (s.placed v) = (List.range s.N).map fun t => (s.idx + 1 + t) % s.N := by
      rw [recentSlots, sz_placed, idx_placed, N_placed, hsz, Nat.min_eq_right (Nat.le_succ _),
        Nat.sub_self, Nat.add_zero]
      exact List.map_congr_left fun t _ => Nat.mod_add_mod _ _ _
    have hold : recentSlots s = (List.range s.N).map fun t => (s.idx + t) % s.N := by
      rw [recentSlots, hsz, Nat.sub_self, Nat.add_zero]
    obtain ⟨n, hn⟩ : ∃ n, s.N = n + 1 := ⟨s.N - 1, by have := hl.N_pos; omega⟩
    have hidx : s.idx < n + 1 := hn ▸ hl.idx_lt
    rw [hslots, hold, data_placed, List.map_map, List.map_map, hsz, Nat.add_sub_cancel_left, hn]
    conv_lhs => rw [List.range_succ, List.map_append, List.map_singleton]
    conv_rhs => rw [List.range_succ_eq_map, List.map_cons, List.drop_one, List.tail_cons, List.map_map]
    congr 1
    · refine List.map_congr_left fun t ht => ?_
      have ht' := List.mem_range.1 ht
      simp only [Function.comp_apply, Nat.succ_eq_add_one]
      rw [Function.update_of_ne (add_one_add_mod_ne hidx (by omega)),
        show s.idx + 1 + t = s.idx + (t + 1) by omega]
    · simp only [Function.comp_apply]
      rw [show s.idx + 1 + n = s.idx + (n + 1) by omega, Nat.add_mod_right, Nat.mod_eq_of_lt hidx,
        Function.update_self]

end Placed

/-! ### What the sifts of one side leave of the other -/

theorem Swaps.view_other {S S' : Side} {n j : ℕ} {s s' : RollingMedian α}
    (h : Swaps (OnSide S n) s s') (hS : S' ≠ S) (hj : 1 ≤ j) : s'.view S' j = s.view S' j := by
  have hnot : ¬OnSide S n (S'.emb j) := fun ⟨k, _, hk⟩ => Side.emb_ne_emb hS hj hk
  simp only [view, h.frame.1, h.heap_of_not hnot]

theorem Swaps.cnt {P : ℤ → Prop} {s s' : RollingMedian α} (h : Swaps P s s') (S : Side) :
    s'.cnt S = s.cnt S := by
  cases S <;> simp [RollingMedian.cnt, h.frame.2.2.2.2.1, h.frame.2.2.2.2.2]

theorem Swaps.N {P : ℤ → Prop} {s s' : RollingMedian α} (h : Swaps P s s') : s'.N = s.N :=
  h.frame.2.1

theorem Swaps.recentSlots {P : ℤ → Prop} {s s' : RollingMedian α} (h : Swaps P s s') :
    recentSlots s' = recentSlots s := by
  obtain ⟨-, hN, hidx, hsz, -⟩ := h.frame
  rw [RollingMedian.recentSlots, RollingMedian.recentSlots, hN, hidx, hsz]

/-- The nodes of a side are positions in use. -/
theorem active_of_onSide {s : RollingMedian α} (hsz : 0 < s.sz) {S : Side} {p : ℤ}
    (hp : OnSide S (s.cnt S) p) : Active s p := by
  obtain ⟨j, hj, rfl⟩ := hp
  cases S <;> simp only [RollingMedian.cnt, Side.emb] at hj ⊢ <;> exact ⟨hsz, by omega, by omega⟩

theorem Swaps.mono {P Q : ℤ → Prop} {s s' : RollingMedian α} (h : Swaps P s s')
    (hPQ : ∀ p, P p → Q p) : Swaps Q s s' := by
  induction h with
  | refl => exact .refl _
  | exch hi hj _ ih => exact .exch (hPQ _ hi) (hPQ _ hj) ih

theorem Swaps.active {s s' : RollingMedian α} {S : Side} (hsz : 0 < s.sz)
    (h : Swaps (OnSide S (s.cnt S)) s s') : Swaps (Active s) s s' :=
  h.mono fun _ hp => active_of_onSide hsz hp

/-! ### The values after the write of `insert` -/

section PlacedViews

variable {s : RollingMedian α} (v : α)

theorem Layout.cnt_lt (hl : Layout s) (S : Side) : s.cnt S < s.N := by
  have := hl.maxCt_eq
  have := hl.minCt_eq
  have := hl.sz_le
  have := hl.N_pos
  cases S <;> simp only [RollingMedian.cnt] <;> omega

theorem Layout.inRange_of_le_cnt (hl : Layout s) {S : Side} {j : ℕ} (hj : j ≤ s.cnt S) :
    InRange s.N (S.emb j) := by
  have := hl.maxCt_eq
  have := hl.minCt_eq
  have := hl.sz_le
  cases S <;> simp only [RollingMedian.cnt, Side.emb] at hj ⊢ <;> constructor <;> omega

/-- The write of `insert` changes the value of the node that holds the slot written, and no
other. -/
theorem Layout.view_placed (hl : Layout s) (S : Side) {j : ℕ} (hj : InRange s.N (S.emb j)) :
    (s.placed v).view S j = if S.emb j = s.pos s.idx then v else s.view S j := by
  simp only [view, heap_placed, data_placed, Function.update_apply]
  by_cases h : S.emb j = s.pos s.idx
  · rw [if_pos (by rw [h, hl.heap_pos _ hl.idx_lt]), if_pos h]
  · rw [if_neg (fun h' => h (by rw [← hl.pos_heap _ hj, h'])), if_neg h]

/-- The nodes of side `S` after the write, when the slot written is node `q` of `S`. -/
theorem Layout.view_placed_at (hl : Layout s) {S : Side} {q j : ℕ} (hqp : S.emb q = s.pos s.idx)
    (hj : j ≤ (s.placed v).cnt S) :
    (s.placed v).view S j = if j = q then v else s.view S j := by
  rw [hl.view_placed v S ((hl.placed v).inRange_of_le_cnt hj), ← hqp]
  exact if_congr (Side.emb_injective S).eq_iff rfl rfl

/-- The nodes of the other side are as they were, when the slot written is below the root of
`S`. -/
theorem Layout.view_placed_other (hl : Layout s) {S : Side} {q j : ℕ} (hq1 : 1 ≤ q)
    (hqp : S.emb q = s.pos s.idx) (hj : j ≤ (s.placed v).cnt S.other) :
    (s.placed v).view S.other j = s.view S.other j := by
  rw [hl.view_placed v S.other ((hl.placed v).inRange_of_le_cnt hj), ← hqp,
    if_neg (Side.emb_ne_emb (Side.other_ne S).symm hq1).symm]

/-- Where the slot `insert` writes sits: while the window fills, it is the root for the first
value and otherwise the next leaf of the side that grows; once the window is full, it is a
position in use and no side grows. -/
theorem Layout.pos_idx_cases (hl : Layout s) :
    (s.sz < s.N ∧ (s.pos s.idx = 0 ∧ s.sz = 0 ∨
      0 < s.pos s.idx ∧ s.pos s.idx = s.minCt + 1 ∧ s.minCt < (s.N - 1) / 2 ∧
        s.maxCt = s.minCt + 1 ∨
      s.pos s.idx < 0 ∧ s.pos s.idx = -(s.maxCt + 1) ∧ s.maxCt < s.N / 2)) ∨
    (s.sz = s.N ∧ -(s.maxCt : ℤ) ≤ s.pos s.idx ∧ s.pos s.idx ≤ s.minCt ∧
      s.minCt = (s.N - 1) / 2 ∧ s.maxCt = s.N / 2) := by
  have hmax := hl.maxCt_eq
  have hmin := hl.minCt_eq
  rcases Nat.lt_or_ge s.sz s.N with hfill | hfull
  · have hp : s.pos s.idx = fillPos s.sz := by
      rw [hl.idx_eq hfill]
      exact hl.fill _ (Nat.le_refl _) hfill
    refine Or.inl ⟨hfill, ?_⟩
    rw [hp]
    obtain ⟨m, hm | hm⟩ := Nat.even_or_odd' s.sz
    · rw [hm, fillPos_even]
      rw [hm] at hmax hmin hfill
      rcases Nat.eq_zero_or_pos m with rfl | hm0
      · exact Or.inl ⟨rfl, rfl⟩
      · exact Or.inr (Or.inl ⟨by omega, by omega, by omega, by omega⟩)
    · rw [hm, fillPos_odd]
      rw [hm] at hmax hmin hfill
      exact Or.inr (Or.inr ⟨by omega, by omega, by omega⟩)
  · have hsz : s.sz = s.N := Nat.le_antisymm hl.sz_le hfull
    obtain ⟨hlo, hhi⟩ := hl.pos_mem _ hl.idx_lt
    rw [hsz] at hmax hmin
    exact Or.inr ⟨hsz, by omega, by omega, hmin, hmax⟩

end PlacedViews

/-! ### The window's values around the root -/

/-- The positions in use: the max side's nodes from its top down, the root, and the min side's
nodes from its top down. -/
def activePositions (s : RollingMedian α) : List ℤ :=
  (List.range s.maxCt).map (fun j => Side.max.emb (j + 1)) ++
    0 :: (List.range s.minCt).map fun j => Side.min.emb (j + 1)

/-- The values of side `S` below the root, its top first. -/
def sideValues (s : RollingMedian α) (S : Side) : List α :=
  (List.range (s.cnt S)).map fun j => s.view S (j + 1)

theorem nodup_activePositions (s : RollingMedian α) : (activePositions s).Nodup := by
  have hinj : ∀ S : Side, Function.Injective fun j : ℕ => S.emb (j + 1) :=
    fun S _ _ h => Nat.succ_injective (Side.emb_injective S h)
  rw [activePositions, List.nodup_append, List.nodup_cons]
  refine ⟨List.nodup_range.map (hinj .max), ⟨?_, List.nodup_range.map (hinj .min)⟩, ?_⟩
  · simp [Side.emb]
    omega
  · -- the max side's positions are negative, the others are not
    intro a ha b hb
    obtain ⟨j, -, rfl⟩ := List.mem_map.1 ha
    rcases List.mem_cons.1 hb with rfl | hb
    · simp [Side.emb]
      omega
    · obtain ⟨k, -, rfl⟩ := List.mem_map.1 hb
      simp [Side.emb]
      omega

theorem active_of_mem_activePositions {s : RollingMedian α} (hsz : 0 < s.sz) {p : ℤ}
    (hp : p ∈ activePositions s) : Active s p := by
  rw [activePositions, List.mem_append, List.mem_cons] at hp
  rcases hp with hp | rfl | hp
  · obtain ⟨j, hj, rfl⟩ := List.mem_map.1 hp
    have := List.mem_range.1 hj
    exact ⟨hsz, by simp only [Side.emb]; omega, by simp only [Side.emb]; omega⟩
  · exact ⟨hsz, by omega, by omega⟩
  · obtain ⟨j, hj, rfl⟩ := List.mem_map.1 hp
    have := List.mem_range.1 hj
    exact ⟨hsz, by simp only [Side.emb]; omega, by simp only [Side.emb]; omega⟩

/-- The slots at the positions in use are the window's slots. -/
theorem Layout.perm_activePositions {s : RollingMedian α} (hl : Layout s) (hsz : 0 < s.sz) :
    ((activePositions s).map s.heap).Perm (recentSlots s) := by
  have hact := fun p (hp : p ∈ activePositions s) => active_of_mem_activePositions hsz hp
  have hnodup : ((activePositions s).map s.heap).Nodup :=
    (nodup_activePositions s).map_on fun p hp q hq h =>
      hl.heap_inj (hl.inRange (hact p hp)) (hl.inRange (hact q hq)) h
  have hsub : (activePositions s).map s.heap ⊆ recentSlots s := by
    intro k hk
    obtain ⟨p, hp, rfl⟩ := List.mem_map.1 hk
    exact hl.active p (hact p hp)
  refine (List.subperm_of_subset hnodup hsub).perm_of_length_le ?_
  have := hl.maxCt_eq
  have := hl.minCt_eq
  simp only [recentSlots, activePositions, List.length_map, List.length_append, List.length_cons,
    List.length_range]
  omega

variable [LinearOrder α]

/-! ### The top of one side taking the root -/

/-- `mmCmpExch(0, -1)` then `maxSortDown(-1)` for `O = max`, `mmCmpExch(1, 0)` then
`minSortDown(1)` for `O = min`: the top of side `O` takes the root when it belongs above it, and
the old root sifts down side `O`. -/
def takeRoot (O : Side) (s : RollingMedian α) : RollingMedian α :=
  match s.cmpExch O 1 0 with
  | (true, s) => sortDownLoop O s.N s 1
  | (false, s) => s

section TakeRoot

variable {s : RollingMedian α} {O : Side}

theorem swaps_takeRoot (h1 : 1 ≤ s.cnt O) : Swaps (OnSide O (s.cnt O)) s (s.takeRoot O) := by
  have hsw := swaps_cmpExch (P := OnSide O (s.cnt O)) s O (c := 1) (p := 0) (onSide_emb h1)
    (onSide_emb (Nat.zero_le _))
  have hcnt := cnt_cmpExch s O O 1 0
  rw [takeRoot]
  rcases hce : s.cmpExch O 1 0 with ⟨b, t⟩
  rw [hce] at hsw hcnt
  cases b
  · exact hsw
  · have hcnt' : t.cnt O = s.cnt O := hcnt
    have hrest := sortDownLoop_swaps O t.N t 1
    rw [hcnt'] at hrest
    exact hsw.trans hrest

theorem takeRoot_of_le (h : O.le (s.view O 0) (s.view O 1)) : s.takeRoot O = s := by
  rw [takeRoot, cmpExch_of_le h]

/-- Which of the root and the top of side `O` the root holds afterwards, and that side `O` is a
heap again when its edges below its top were in order. -/
theorem takeRoot_spec (hN : s.cnt O < s.N)
    (hedges : ∀ j, 2 ≤ j → j ≤ s.cnt O → O.le (s.view O (j / 2)) (s.view O j)) :
    (s.takeRoot O).view O 0 = (if O.le (s.view O 0) (s.view O 1) then s.view O 0 else s.view O 1) ∧
      Ordered O.le ((s.takeRoot O).view O) (s.cnt O) := by
  by_cases hle : O.le (s.view O 0) (s.view O 1)
  · -- the root stays: the edge below it is in order
    rw [takeRoot, cmpExch_of_le hle, if_pos hle]
    refine ⟨rfl, fun j hj hjn => ?_⟩
    rcases Nat.lt_or_ge j 2 with hlt | hge
    · obtain rfl : j = 1 := by omega
      exact hle
    · exact hedges j hge hjn
  · -- the top takes the root, and the old root sifts down from node 1
    obtain ⟨hfst, hview⟩ := cmpExch_of_not_le hle
    have hcnt := cnt_cmpExch s O O 1 0
    have hsw := swaps_cmpExch (P := fun _ => True) s O (c := 1) (p := 0) trivial trivial
    rw [takeRoot, if_neg hle]
    rcases hce : s.cmpExch O 1 0 with ⟨b, t⟩
    rw [hce] at hfst hview hcnt hsw
    dsimp only at hfst hview hcnt hsw
    subst hfst
    have hdown := sortDownLoop_view O t.N t 1
    dsimp only
    rw [hdown, hcnt, hview, hsw.N]
    refine ⟨by rw [siftDown_zero _ _ _ Nat.one_pos, comp_swap_right], ?_⟩
    refine siftDown_ordered _ _ _ Nat.one_pos (by omega) ⟨?_, ?_⟩
    · intro j hj hjn hj1
      rcases Nat.lt_or_ge j 2 with hlt | hge
      · obtain rfl : j = 1 := by omega
        rw [show (1 : ℕ) / 2 = 0 from rfl, comp_swap_right, comp_swap_left]
        exact le_of_not_le hle
      · rw [comp_swap_of_ne (by omega) (by omega), comp_swap_of_ne (by omega) (by omega)]
        exact hedges j hge hjn
    · intro _ j hj hjn hj1
      rw [show (1 : ℕ) / 2 = 0 from rfl, comp_swap_right, comp_swap_of_ne (by omega) (by omega)]
      have := hedges j (by omega) hjn
      rwa [hj1] at this

end TakeRoot

/-! ### The end of an insert into one side -/

/-- The end of an insert into side `S`, `minInsertUp` or `maxInsertUp` with the guard of the
latter: sift the new value up, and when it reached the root, let the other side's top take it
if it belongs there. -/
def insertUp (S : Side) (s : RollingMedian α) (q : ℕ) : RollingMedian α :=
  match sortUpLoop S s.N s q with
  | (true, s) => if s.cnt S.other ≠ 0 then s.takeRoot S.other else s
  | (false, s) => s

theorem maxInsertUp_eq (s : RollingMedian α) (p : ℤ) :
    s.maxInsertUp p = s.insertUp .max (-p).toNat := rfl

/-- The min side's end of an insert compares the root with the max side's top without the
guard the max side has; the guard holds whenever the max heap is not empty. -/
theorem minInsertUp_eq (s : RollingMedian α) {p : ℤ} (hp : p.toNat ≤ s.minCt) (h : s.maxCt ≠ 0) :
    s.minInsertUp p = s.insertUp .min p.toNat := by
  have hcnt := (sortUpLoop_swaps .min s.N s p.toNat hp).cnt .max
  rw [minInsertUp, insertUp, minSortUp]
  rcases hup : sortUpLoop .min s.N s p.toNat with ⟨b, t⟩
  rw [hup] at hcnt
  cases b
  · rfl
  · dsimp only at hcnt ⊢
    have ht : t.cnt Side.min.other ≠ 0 := by
      rw [show Side.min.other = .max from rfl, hcnt]
      exact h
    rw [if_pos ht]
    rfl

/-- What the end of an insert into side `S` leaves: both sides are heaps, when the new value sits
at node `q` of side `S` as a sift up needs, the other side is a heap, and every other node of
side `S` is not before the other side's top. -/
theorem ordered_insertUp {s : RollingMedian α} {S : Side} {q : ℕ} (hN : s.cnt S < s.N)
    (hN' : s.cnt S.other < s.N) (hq : q ≤ s.cnt S) (hup : UpOrder S.le (s.view S) (s.cnt S) q)
    (hbound : 1 ≤ s.cnt S.other → ∀ j ≤ s.cnt S, j ≠ q → S.le (s.view S.other 1) (s.view S j))
    (hother : Ordered S.other.le (s.view S.other) (s.cnt S.other)) :
    Ordered S.le ((s.insertUp S q).view S) (s.cnt S) ∧
      Ordered S.other.le ((s.insertUp S q).view S.other) (s.cnt S.other) := by
  have hsw := sortUpLoop_swaps S s.N s q hq
  obtain ⟨hfst, hview⟩ := sortUpLoop_view S s.N s q
  have hord := siftUp_ordered s.N (s.view S) q (by omega) hup
  rw [insertUp]
  rcases hr : sortUpLoop S s.N s q with ⟨b, t⟩
  rw [hr] at hsw hfst hview
  dsimp only at hsw hfst hview
  rw [← hview] at hord
  -- the other side below its top is as it was
  have hkeep : ∀ j, 1 ≤ j → t.view S.other j = s.view S.other j :=
    fun j hj => hsw.view_other (Side.other_ne S) hj
  have hcnt := hsw.cnt
  cases b
  · -- the new value stopped below the root, which is as it was
    have hroot : t.view S 0 = s.view S 0 := by
      rw [hview]
      exact siftUp_root _ _ _ hfst.symm
    refine ⟨hord, hother.of_root hkeep fun h1 => ?_⟩
    rw [view_zero t S.other S, hroot, view_zero s S S.other, hkeep 1 (Nat.le_refl _)]
    exact hother 1 (Nat.le_refl _) h1
  · dsimp only
    by_cases hc : t.cnt S.other ≠ 0
    · -- the new value reached the root; the other side's top takes it if it belongs there
      rw [if_pos hc]
      have h1 : 1 ≤ s.cnt S.other := by rw [← hcnt]; omega
      have hb := siftUp_bound s.N (s.view S) q hq (hbound h1) hfst.symm
      rw [← hview] at hb
      obtain ⟨hroot, hordO⟩ := takeRoot_spec (s := t) (O := S.other) (by rw [hcnt, hsw.N]; exact hN')
        (fun j hj hjn => by
          rw [hkeep j (by omega), hkeep (j / 2) (by omega)]
          exact hother j (by omega) (by rwa [← hcnt]))
      have hsw' := swaps_takeRoot (s := t) (O := S.other) (by omega)
      have hkeepS : ∀ j, 1 ≤ j → (t.takeRoot S.other).view S j = t.view S j :=
        fun j hj => hsw'.view_other (Side.other_ne S).symm hj
      rw [hcnt] at hordO
      refine ⟨hord.of_root hkeepS fun hS1 => ?_, hordO⟩
      rw [hkeepS 1 (Nat.le_refl _), view_zero _ S S.other, hroot]
      split_ifs
      · rw [view_zero t S.other S]
        exact hord 1 (Nat.le_refl _) hS1
      · rw [hkeep 1 (Nat.le_refl _)]
        exact hb 1 (Nat.le_refl _) hS1
    · -- the other side is empty
      rw [if_neg hc]
      have h0 := hcnt S.other
      refine ⟨hord, fun j hj hjn => absurd hjn (by omega)⟩

theorem swaps_insertUp {s : RollingMedian α} {S : Side} {q : ℕ} (hsz : 0 < s.sz) (hq : q ≤ s.cnt S) :
    Swaps (Active s) s (s.insertUp S q) := by
  have hsw := sortUpLoop_swaps S s.N s q hq
  rw [insertUp]
  rcases hr : sortUpLoop S s.N s q with ⟨b, t⟩
  rw [hr] at hsw
  dsimp only at hsw ⊢
  have hcnt := hsw.cnt S.other
  have hact := hsw.active hsz
  cases b
  · exact hact
  · dsimp only
    split_ifs with hc
    · exact hact.trans ((swaps_takeRoot (by omega)).mono fun p hp =>
        active_of_onSide (s := s) hsz (hcnt ▸ hp))
    · exact hact

/-! ### An insert at the root -/

/-- `if (maxSortUp(-1)) maxSortDown(-1)` and `if (minSortUp(1)) minSortDown(1)` of an insert at
the root. -/
def sortUpDown (S : Side) (s : RollingMedian α) : RollingMedian α :=
  match sortUpLoop S s.N s 1 with
  | (true, s) => sortDownLoop S s.N s 1
  | (false, s) => s

theorem medianInsertUp_eq (s : RollingMedian α) :
    s.medianInsertUp =
      let t := if s.maxCt ≠ 0 then s.sortUpDown .max else s
      if t.minCt ≠ 0 then t.sortUpDown .min else t := rfl

/-- From node `1`, a sift up is one comparison with the root. -/
theorem sortUpLoop_one (S : Side) (fuel : ℕ) (s : RollingMedian α) :
    sortUpLoop S (fuel + 1) s 1 = s.cmpExch S 1 0 := by
  rw [sortUpLoop, if_pos Nat.one_pos]
  show (match s.cmpExch S 1 0 with
    | (true, s) => sortUpLoop S fuel s 0
    | (false, s) => (false, s)) = _
  rcases s.cmpExch S 1 0 with ⟨b, t⟩
  cases b
  · rfl
  · cases fuel <;> rfl

/-- Sifting node `1` up and then down is the top of its side taking the root. -/
theorem sortUpDown_eq (S : Side) (s : RollingMedian α) (hN : 0 < s.N) :
    s.sortUpDown S = s.takeRoot S := by
  obtain ⟨fuel, hfuel⟩ : ∃ fuel, s.N = fuel + 1 := ⟨s.N - 1, by omega⟩
  rw [sortUpDown, hfuel, sortUpLoop_one, takeRoot]

/-- An insert at the root leaves both sides heaps: the max side's top takes the root if it
belongs there, then the min side's. It needs the edges below the two tops in order, and the max
side's top not above the min side's. -/
theorem ordered_takeRoot_both {s : RollingMedian α} (hmaxN : s.maxCt < s.N)
    (hminN : s.minCt < s.N)
    (hmin : ∀ j, 2 ≤ j → j ≤ s.minCt → Side.min.le (s.view .min (j / 2)) (s.view .min j))
    (hmax : ∀ j, 2 ≤ j → j ≤ s.maxCt → Side.max.le (s.view .max (j / 2)) (s.view .max j))
    (hcross : 1 ≤ s.maxCt → 1 ≤ s.minCt → s.view .max 1 ≤ s.view .min 1) :
    let t := if s.maxCt ≠ 0 then s.takeRoot .max else s
    let u := if t.minCt ≠ 0 then t.takeRoot .min else t
    Ordered Side.min.le (u.view .min) s.minCt ∧ Ordered Side.max.le (u.view .max) s.maxCt := by
  intro t u
  -- the max side's step: it is a heap after it, and its top is not above the min side's
  have hsw₁ : Swaps (OnSide .max s.maxCt) s t := by
    by_cases hM : s.maxCt ≠ 0
    · simp only [t, if_pos hM]
      exact swaps_takeRoot (O := .max) (by simp only [RollingMedian.cnt]; omega)
    · simp only [t, if_neg hM]
      exact .refl s
  have hminCt : t.minCt = s.minCt := hsw₁.frame.2.2.2.2.1
  have hN : t.N = s.N := hsw₁.N
  have hmin_t : ∀ j, 1 ≤ j → t.view .min j = s.view .min j :=
    fun j hj => hsw₁.view_other (by decide) hj
  have hB3 : Ordered Side.max.le (t.view .max) s.maxCt := by
    by_cases hM : s.maxCt ≠ 0
    · simp only [t, if_pos hM]
      exact (takeRoot_spec (O := .max) hmaxN hmax).2
    · exact fun j hj hjn => absurd hjn (by omega)
  have hB4 : 1 ≤ s.maxCt → 1 ≤ s.minCt → t.view .max 1 ≤ s.view .min 1 := by
    intro h1 h2
    have hM : s.maxCt ≠ 0 := by omega
    by_cases hle : Side.max.le (s.view .max 0) (s.view .max 1)
    · simp only [t, if_pos hM, takeRoot_of_le hle]
      exact hcross h1 h2
    · -- the max side's top took the root, and its new top is not above it
      have hroot := (takeRoot_spec (O := .max) hmaxN hmax).1
      rw [if_neg hle] at hroot
      have hedge : t.view .max 1 ≤ t.view .max 0 := hB3 1 (Nat.le_refl _) h1
      simp only [t, if_pos hM] at hedge
      simp only [t, if_pos hM]
      rw [hroot] at hedge
      exact le_trans hedge (hcross h1 h2)
  -- the min side's step
  have hsw₂ : Swaps (OnSide .min s.minCt) t u := by
    by_cases hm : t.minCt ≠ 0
    · simp only [u, if_pos hm]
      have := swaps_takeRoot (s := t) (O := .min) (by simp only [RollingMedian.cnt]; omega)
      rwa [show t.cnt .min = s.minCt from hminCt] at this
    · simp only [u, if_neg hm]
      exact .refl t
  have hmax_u : ∀ j, 1 ≤ j → u.view .max j = t.view .max j :=
    fun j hj => hsw₂.view_other (by decide) hj
  by_cases hm : t.minCt ≠ 0
  · have hspec := takeRoot_spec (s := t) (O := .min)
      (by simp only [RollingMedian.cnt]; omega)
      (fun j hj hjn => by
        rw [hmin_t j (by omega), hmin_t (j / 2) (by omega)]
        exact hmin j hj (by simp only [RollingMedian.cnt] at hjn; omega))
    obtain ⟨hroot, hordMin⟩ := hspec
    refine ⟨?_, hB3.of_root hmax_u fun h1 => ?_⟩
    · simp only [u, if_pos hm]
      simpa only [RollingMedian.cnt, hminCt] using hordMin
    · -- the root is the old one, or the min side's top, which the max side's top is not above
      rw [hmax_u 1 (Nat.le_refl _), view_zero u .max .min]
      simp only [u, if_pos hm]
      rw [hroot]
      split_ifs
      · rw [view_zero t .min .max]
        exact hB3 1 (Nat.le_refl _) h1
      · rw [hmin_t 1 (Nat.le_refl _)]
        exact hB4 h1 (by omega)
  · have hu : u = t := by simp only [u, if_neg hm]
    rw [hu]
    exact ⟨fun j hj hjn => absurd hjn (by omega), hB3⟩

theorem N_takeRoot (s : RollingMedian α) (O : Side) : (s.takeRoot O).N = s.N := by
  have hsw := swaps_cmpExch (P := fun _ => True) s O (c := 1) (p := 0) trivial trivial
  rw [takeRoot]
  rcases hce : s.cmpExch O 1 0 with ⟨b, t⟩
  rw [hce] at hsw
  cases b
  · exact hsw.N
  · exact (sortDownLoop_swaps O t.N t 1).N.trans hsw.N

/-- With storage, an insert at the root lets the max side's top take the root, then the min
side's. -/
theorem medianInsertUp_eq_takeRoot (s : RollingMedian α) (hN : 0 < s.N) :
    s.medianInsertUp =
      let t := if s.maxCt ≠ 0 then s.takeRoot .max else s
      if t.minCt ≠ 0 then t.takeRoot .min else t := by
  have htN : (if s.maxCt ≠ 0 then s.takeRoot .max else s).N = s.N := by
    split_ifs
    · exact N_takeRoot s .max
    · rfl
  rw [medianInsertUp_eq]
  dsimp only
  rw [sortUpDown_eq .max s hN, sortUpDown_eq .min _ (htN ▸ hN)]

theorem swaps_medianInsertUp {s : RollingMedian α} (hsz : 0 < s.sz) (hN : 0 < s.N) :
    Swaps (Active s) s s.medianInsertUp := by
  rw [medianInsertUp_eq_takeRoot s hN]
  dsimp only
  have hsw₁ : Swaps (Active s) s (if s.maxCt ≠ 0 then s.takeRoot .max else s) := by
    split_ifs with hM
    · exact (swaps_takeRoot (O := .max) (by simp only [RollingMedian.cnt]; omega)).active hsz
    · exact .refl s
  generalize (if s.maxCt ≠ 0 then s.takeRoot .max else s) = t at hsw₁ ⊢
  refine hsw₁.trans ?_
  split_ifs with hm
  · have hcnt := hsw₁.cnt .min
    exact (swaps_takeRoot (s := t) (O := .min) (by simp only [RollingMedian.cnt]; omega)).mono
      fun p hp => active_of_onSide hsz (hcnt ▸ hp)
  · exact .refl t

/-! ### Each end of `insert` leaves two heaps -/

section Ends

variable {s : RollingMedian α} {v : α} {S : Side} {q : ℕ}

/-- `insert` is the write followed by the end the branch picks. -/
theorem insert_eq (s : RollingMedian α) (v : α) :
    s.insert v =
      if 0 < s.pos s.idx then
        if s.minCt < (s.N - 1) / 2 then (s.placed v).minInsertUp (s.pos s.idx)
        else if s.data s.idx < v then (s.placed v).minSortDown (s.pos s.idx)
        else (s.placed v).minInsertUp (s.pos s.idx)
      else if s.pos s.idx < 0 then
        if s.maxCt < s.N / 2 then (s.placed v).maxInsertUp (s.pos s.idx)
        else if v < s.data s.idx then (s.placed v).maxSortDown (s.pos s.idx)
        else (s.placed v).maxInsertUp (s.pos s.idx)
      else (s.placed v).medianInsertUp := by
  rw [RollingMedian.insert]
  dsimp only
  split_ifs with h1 h2 h3 h4 h5 h6 <;> congr 1 <;> simp [placed, *] <;> omega

/-- An insert into side `S` that ends with `minInsertUp` or `maxInsertUp`: the slot written sits
at node `q ≥ 1` of side `S`, and it is a new leaf while the window fills, or its new value is not
after the one it replaces. -/
theorem ordered_insertUp_placed (hl : Layout s) (hq1 : 1 ≤ q) (hqp : S.emb q = s.pos s.idx)
    (hcase : (s.placed v).cnt S = q ∧ s.cnt S + 1 = q ∨
      (s.placed v).cnt S = s.cnt S ∧ q ≤ s.cnt S ∧ S.le v (s.data s.idx))
    (hcntO : (s.placed v).cnt S.other = s.cnt S.other)
    (hordS : Ordered S.le (s.view S) (s.cnt S))
    (hordO : Ordered S.other.le (s.view S.other) (s.cnt S.other)) :
    ∀ S', Ordered S'.le (((s.placed v).insertUp S q).view S') ((s.placed v).cnt S') := by
  have hl₁ := hl.placed v
  have hold : s.view S q = s.data s.idx := by
    simp only [view, hqp, hl.heap_pos _ hl.idx_lt]
  have hv : ∀ j ≤ (s.placed v).cnt S, (s.placed v).view S j = if j = q then v else s.view S j :=
    fun j hj => hl.view_placed_at v hqp hj
  have hvO : ∀ j ≤ (s.placed v).cnt S.other, (s.placed v).view S.other j = s.view S.other j :=
    fun j hj => hl.view_placed_other v hq1 hqp hj
  have hqle : q ≤ (s.placed v).cnt S := by
    rcases hcase with ⟨h, -⟩ | ⟨h, hq, -⟩ <;> omega
  have hup : UpOrder S.le ((s.placed v).view S) ((s.placed v).cnt S) q := by
    rcases hcase with ⟨hc1, hc2⟩ | ⟨hc1, hq, hle⟩
    · -- a new leaf: every edge above it is an old one
      constructor
      · intro j hj hjn hjq
        rw [hv j hjn, hv (j / 2) (by omega), if_neg hjq, if_neg (by omega)]
        exact hordS j hj (by omega)
      · intro _ j _ hjn hjq
        exact absurd hjn (by omega)
    · -- a value not after the old one: its children are still not before it
      constructor
      · intro j hj hjn hjq
        rw [hv j hjn, hv (j / 2) (by omega), if_neg hjq]
        by_cases hc : j / 2 = q
        · rw [if_pos hc]
          have hqj := hordS j hj (by omega)
          rw [hc, hold] at hqj
          exact trans_of S.le hle hqj
        · rw [if_neg hc]
          exact hordS j hj (by omega)
      · intro _ j hj hjn hjq
        rw [hv j hjn, hv (q / 2) (by omega), if_neg (by omega), if_neg (by omega)]
        exact trans_of S.le (hordS q hq1 hq) (hjq ▸ hordS j hj (by omega))
  -- the other side's top is not after the root, which is not after any node of `S`
  have hbound : 1 ≤ (s.placed v).cnt S.other → ∀ j ≤ (s.placed v).cnt S, j ≠ q →
      S.le ((s.placed v).view S.other 1) ((s.placed v).view S j) := by
    intro h1 j hj hjq
    have hjS : j ≤ s.cnt S := by rcases hcase with ⟨h, h'⟩ | ⟨h, -⟩ <;> omega
    rw [hvO 1 h1, hv j hj, if_neg hjq]
    have htop : S.le (s.view S.other 1) (s.view S 0) := by
      rw [view_zero s S S.other, ← Side.le_other]
      exact hordO 1 (Nat.le_refl _) (by omega)
    exact trans_of S.le htop (hordS.root_le j hjS)
  have hother : Ordered S.other.le ((s.placed v).view S.other) ((s.placed v).cnt S.other) := by
    rw [hcntO]
    exact hordO.congr fun j hj => hvO j (by omega)
  obtain ⟨hS, hO⟩ := ordered_insertUp (hl₁.cnt_lt S) (hl₁.cnt_lt S.other) hqle hup hbound hother
  exact Side.forall_of_other S hS hO

/-- An insert into side `S` that ends with `minSortDown` or `maxSortDown`: the window is full
and the new value at node `q ≥ 1` is after the one it replaces. -/
theorem ordered_sortDown_placed (hl : Layout s) (hq1 : 1 ≤ q) (hqp : S.emb q = s.pos s.idx)
    (hc1 : (s.placed v).cnt S = s.cnt S) (hq : q ≤ s.cnt S) (hlt : ¬S.le v (s.data s.idx))
    (hcntO : (s.placed v).cnt S.other = s.cnt S.other)
    (hordS : Ordered S.le (s.view S) (s.cnt S))
    (hordO : Ordered S.other.le (s.view S.other) (s.cnt S.other)) :
    ∀ S', Ordered S'.le ((sortDownLoop S (s.placed v).N (s.placed v) q).view S')
      ((s.placed v).cnt S') := by
  have hl₁ := hl.placed v
  have hold : s.view S q = s.data s.idx := by
    simp only [view, hqp, hl.heap_pos _ hl.idx_lt]
  have hv : ∀ j ≤ (s.placed v).cnt S, (s.placed v).view S j = if j = q then v else s.view S j :=
    fun j hj => hl.view_placed_at v hqp hj
  have hvO : ∀ j ≤ (s.placed v).cnt S.other, (s.placed v).view S.other j = s.view S.other j :=
    fun j hj => hl.view_placed_other v hq1 hqp hj
  have hup : S.le (s.data s.idx) v := le_of_not_le hlt
  have hsw := sortDownLoop_swaps S (s.placed v).N (s.placed v) q
  have hdown := sortDownLoop_view S (s.placed v).N (s.placed v) q
  have hN := hl₁.cnt_lt S
  refine Side.forall_of_other S ?_ ?_
  · rw [hdown]
    refine siftDown_ordered _ _ _ hq1 (by omega) ⟨?_, ?_⟩
    · intro j hj hjn hjq
      rw [hv j hjn, hv (j / 2) (by omega), if_neg hjq]
      by_cases hj' : j = q
      · subst hj'
        rw [if_pos rfl]
        have hjj := hordS j hj hq
        rw [hold] at hjj
        exact trans_of S.le hjj hup
      · rw [if_neg hj']
        exact hordS j hj (by omega)
    · intro _ j hj hjn hjq
      rw [hv j hjn, hv (q / 2) (by omega), if_neg (by omega), if_neg (by omega)]
      exact trans_of S.le (hordS q hq1 hq) (hjq ▸ hordS j hj (by omega))
  · -- the sift down stays below the root, so the other side keeps its values
    have hroot : (sortDownLoop S (s.placed v).N (s.placed v) q).view S.other 0 =
        (s.placed v).view S.other 0 := by
      rw [view_zero _ S.other S, hdown, siftDown_zero _ _ _ hq1, view_zero _ S S.other]
    rw [hcntO]
    refine hordO.congr fun j hj => ?_
    rcases Nat.eq_zero_or_pos j with rfl | hj1
    · rw [hroot, hvO 0 (Nat.zero_le _)]
    · rw [hsw.view_other (Side.other_ne S) hj1, hvO j (by omega)]

/-- An insert at the root: the two tops take it in turn. -/
theorem ordered_medianInsertUp_placed (hl : Layout s) (hp : s.pos s.idx = 0)
    (hord : ∀ S, Ordered S.le (s.view S) (s.cnt S)) :
    ∀ S, Ordered S.le ((s.placed v).medianInsertUp.view S) ((s.placed v).cnt S) := by
  have hl₁ := hl.placed v
  have hcnt : ∀ S, (s.placed v).cnt S = s.cnt S := by
    intro S
    cases S
    · simp only [RollingMedian.cnt, minCt_placed, hp, lt_irrefl, false_and, if_false]
    · simp only [RollingMedian.cnt, maxCt_placed, hp, lt_irrefl, false_and, if_false]
  -- below the roots nothing changed
  have hv : ∀ S j, 1 ≤ j → j ≤ (s.placed v).cnt S → (s.placed v).view S j = s.view S j := by
    intro S j hj hjn
    rw [hl.view_placed_at v (q := 0) (by rw [Side.emb_zero, hp]) hjn, if_neg (by omega)]
  have hedges : ∀ S j, 2 ≤ j → j ≤ (s.placed v).cnt S →
      S.le ((s.placed v).view S (j / 2)) ((s.placed v).view S j) := by
    intro S j hj hjn
    rw [hv S j (by omega) hjn, hv S (j / 2) (by omega) (by omega)]
    exact hord S j (by omega) (by rw [← hcnt S]; exact hjn)
  have hcross : 1 ≤ (s.placed v).maxCt → 1 ≤ (s.placed v).minCt →
      (s.placed v).view .max 1 ≤ (s.placed v).view .min 1 := by
    intro h1 h2
    rw [hv .max 1 (Nat.le_refl _) h1, hv .min 1 (Nat.le_refl _) h2]
    have hmax : s.view .max 1 ≤ s.view .max 0 :=
      hord .max 1 (Nat.le_refl _) (by rw [← hcnt .max]; exact h1)
    have hmin : s.view .min 0 ≤ s.view .min 1 :=
      hord .min 1 (Nat.le_refl _) (by rw [← hcnt .min]; exact h2)
    rw [view_zero s .max .min] at hmax
    exact le_trans hmax hmin
  rw [medianInsertUp_eq_takeRoot _ hl₁.N_pos]
  obtain ⟨hmin, hmax⟩ := ordered_takeRoot_both (hl₁.cnt_lt .max) (hl₁.cnt_lt .min)
    (hedges .min) (hedges .max) hcross
  intro S
  cases S
  · exact hmin
  · exact hmax

/-- What `insert` does to a layout with two heaps: it writes the slot, then exchanges positions
in use until both sides are heaps again. -/
theorem insert_spec (hl : Layout s) (hord : ∀ S, Ordered S.le (s.view S) (s.cnt S)) (v : α) :
    Swaps (Active (s.placed v)) (s.placed v) (s.insert v) ∧
      ∀ S, Ordered S.le ((s.insert v).view S) ((s.placed v).cnt S) := by
  have hsz : 0 < (s.placed v).sz := by
    have := hl.N_pos
    rw [sz_placed]
    omega
  have hmin := minCt_placed (s := s) v
  have hmax := maxCt_placed (s := s) v
  have hroot : s.pos s.idx = 0 →
      Swaps (Active (s.placed v)) (s.placed v) (s.placed v).medianInsertUp ∧
        ∀ S, Ordered S.le ((s.placed v).medianInsertUp.view S) ((s.placed v).cnt S) :=
    fun hp => ⟨swaps_medianInsertUp hsz (hl.placed v).N_pos, ordered_medianInsertUp_placed hl hp hord⟩
  rw [insert_eq]
  rcases hl.pos_idx_cases with ⟨hfill, ⟨hp, -⟩ | ⟨hp, hpq, hlt, hMm⟩ | ⟨hp, hpq, hlt⟩⟩ |
    ⟨hfull, hlo, hhi, hminN, hmaxN⟩
  · -- the first value is the root
    rw [if_neg (by omega), if_neg (by omega)]
    exact hroot hp
  · -- a new leaf of the min side
    have hmin' : (s.placed v).minCt = s.minCt + 1 := by rw [hmin, if_pos (And.intro hp hlt)]
    have hmax' : (s.placed v).maxCt = s.maxCt := by rw [hmax, if_neg (by omega)]
    have hq : Side.min.emb (s.pos s.idx).toNat = s.pos s.idx := by simp [Side.emb]; omega
    rw [if_pos hp, if_pos hlt, minInsertUp_eq _ (by omega) (by omega)]
    exact ⟨swaps_insertUp hsz (by simp only [RollingMedian.cnt]; omega),
      ordered_insertUp_placed hl (by omega) hq (Or.inl ⟨by simp only [RollingMedian.cnt]; omega,
        by simp only [RollingMedian.cnt]; omega⟩) hmax' (hord .min) (hord .max)⟩
  · -- a new leaf of the max side
    have hmin' : (s.placed v).minCt = s.minCt := by rw [hmin, if_neg (by omega)]
    have hmax' : (s.placed v).maxCt = s.maxCt + 1 := by rw [hmax, if_pos (And.intro hp hlt)]
    have hq : Side.max.emb (-s.pos s.idx).toNat = s.pos s.idx := by simp [Side.emb]; omega
    rw [if_neg (by omega), if_pos hp, if_pos hlt, maxInsertUp_eq]
    exact ⟨swaps_insertUp hsz (by simp only [RollingMedian.cnt]; omega),
      ordered_insertUp_placed hl (by omega) hq (Or.inl ⟨by simp only [RollingMedian.cnt]; omega,
        by simp only [RollingMedian.cnt]; omega⟩) hmin' (hord .max) (hord .min)⟩
  · -- the window is full: the counts stay, and the value replaces the oldest one
    have hmin' : (s.placed v).minCt = s.minCt := by rw [hmin, if_neg (by omega)]
    have hmax' : (s.placed v).maxCt = s.maxCt := by rw [hmax, if_neg (by omega)]
    rcases lt_trichotomy 0 (s.pos s.idx) with hp | hp | hp
    · have hq : Side.min.emb (s.pos s.idx).toNat = s.pos s.idx := by simp [Side.emb]; omega
      have hqn : (s.pos s.idx).toNat ≤ s.cnt .min := by simp only [RollingMedian.cnt]; omega
      rw [if_pos hp, if_neg (by omega)]
      split_ifs with hov
      · -- after the value it replaces: it sifts down
        exact ⟨(sortDownLoop_swaps .min _ _ _).active hsz,
          ordered_sortDown_placed hl (by omega) hq hmin' hqn (not_le.2 hov) hmax' (hord .min) (hord .max)⟩
      · rw [minInsertUp_eq _ (by omega) (by omega)]
        exact ⟨swaps_insertUp hsz (by simp only [RollingMedian.cnt]; omega),
          ordered_insertUp_placed hl (by omega) hq (Or.inr ⟨hmin', hqn, not_lt.1 hov⟩) hmax'
            (hord .min) (hord .max)⟩
    · rw [if_neg (by omega), if_neg (by omega)]
      exact hroot hp.symm
    · have hq : Side.max.emb (-s.pos s.idx).toNat = s.pos s.idx := by simp [Side.emb]; omega
      have hqn : (-s.pos s.idx).toNat ≤ s.cnt .max := by simp only [RollingMedian.cnt]; omega
      rw [if_neg (by omega), if_pos hp, if_neg (by omega)]
      split_ifs with hov
      · -- before the value it replaces: it sifts down
        exact ⟨(sortDownLoop_swaps .max _ _ _).active hsz,
          ordered_sortDown_placed hl (by omega) hq hmax' hqn (not_le.2 hov) hmin' (hord .max) (hord .min)⟩
      · rw [maxInsertUp_eq]
        exact ⟨swaps_insertUp hsz (by simp only [RollingMedian.cnt]; omega),
          ordered_insertUp_placed hl (by omega) hq (Or.inr ⟨hmax', hqn, not_lt.1 hov⟩) hmin'
            (hord .max) (hord .min)⟩

end Ends

/-! ### The invariant of a run -/

/-- What `rolling_median_t` keeps between calls, for the values `recent` of its window, oldest
first: the layout, the window's slots holding `recent`, and both sides heaps. -/
structure Inv (s : RollingMedian α) (recent : List α) : Prop where
  layout : Layout s
  content : (recentSlots s).map s.data = recent
  ordered : ∀ S, Ordered S.le (s.view S) (s.cnt S)

section Inv

variable {s : RollingMedian α} {recent : List α}

theorem Inv.length (hi : Inv s recent) : recent.length = s.sz := by
  rw [← hi.content, List.length_map, recentSlots, List.length_map, List.length_range]

theorem Inv.clear (s : RollingMedian α) (hN : 0 < s.N) : Inv s.clear [] where
  layout := Layout.clear s hN
  content := rfl
  ordered S j _ hj := by
    cases S <;> simp [RollingMedian.cnt, RollingMedian.clear] at hj <;> omega

theorem Inv.insert (hi : Inv s recent) (v : α) :
    Inv (s.insert v) (recent.drop (recent.length + 1 - s.N) ++ [v]) := by
  obtain ⟨hsw, hord⟩ := insert_spec hi.layout hi.ordered v
  refine ⟨(hi.layout.placed v).swaps hsw fun _ h => h, ?_, fun S => ?_⟩
  · rw [hsw.recentSlots, hsw.frame.1, hi.layout.content_placed v, hi.content, hi.length]
  · rw [hsw.cnt S]
    exact hord S

theorem Inv.N_insert (hi : Inv s recent) (v : α) : (s.insert v).N = s.N :=
  (insert_spec hi.layout hi.ordered v).1.N

end Inv

/-! ### The median of the window -/

section Inv

variable {s : RollingMedian α} {recent : List α}

/-- The window holds the max side's values, the root and the min side's values. -/
theorem Inv.perm (hi : Inv s recent) (hsz : 0 < s.sz) :
    recent.Perm (sideValues s .max ++ s.view .min 0 :: sideValues s .min) := by
  have h := (hi.layout.perm_activePositions hsz).map s.data
  rw [hi.content, List.map_map] at h
  have hvals : (activePositions s).map (s.data ∘ s.heap) =
      sideValues s .max ++ s.view .min 0 :: sideValues s .min := by
    simp only [activePositions, sideValues, view, List.map_append, List.map_cons, List.map_map,
      Side.emb_zero]
    rfl
  rw [hvals] at h
  exact h.symm

theorem Inv.le_root_of_mem (hi : Inv s recent) {a : α} (ha : a ∈ sideValues s .max) :
    a ≤ s.view .min 0 := by
  obtain ⟨j, hj, rfl⟩ := List.mem_map.1 ha
  have := List.mem_range.1 hj
  rw [view_zero s .min .max]
  exact (hi.ordered .max).root_le (j + 1) (by omega)

theorem Inv.root_le_of_mem (hi : Inv s recent) {b : α} (hb : b ∈ sideValues s .min) :
    s.view .min 0 ≤ b := by
  obtain ⟨j, hj, rfl⟩ := List.mem_map.1 hb
  have := List.mem_range.1 hj
  exact (hi.ordered .min).root_le (j + 1) (by omega)

/-- `median()` is the median of the window. -/
theorem Inv.median_eq {s : RollingMedian ℕ} {recent : List ℕ} (hi : Inv s recent) (hne : recent ≠ []) :
    s.median = MiscUtils.median recent := by
  have hsz : 0 < s.sz := by
    rw [← hi.length]
    exact List.length_pos_iff.2 hne
  have hperm := hi.perm hsz
  have hmax := hi.layout.maxCt_eq
  have hmin := hi.layout.minCt_eq
  rw [RollingMedian.median]
  split_ifs with hlt
  · -- an even count: the max side holds one more, and its top is the other middle value
    obtain ⟨n, hn⟩ : ∃ n, s.maxCt = n + 1 := ⟨s.maxCt - 1, by omega⟩
    have hsplit : sideValues s .max =
        s.view .max 1 :: (List.range n).map fun j => s.view .max (j + 2) := by
      rw [sideValues, RollingMedian.cnt, hn, List.range_succ_eq_map, List.map_cons, List.map_map]
      rfl
    rw [hsplit] at hperm
    have htop : ∀ a ∈ (List.range n).map (fun j => s.view .max (j + 2)), a ≤ s.view .max 1 := by
      intro a ha
      obtain ⟨j, hj, rfl⟩ := List.mem_map.1 ha
      have := List.mem_range.1 hj
      exact (hi.ordered .max).one_le (j + 2) (by omega) (by simp only [RollingMedian.cnt]; omega)
    have hroot : s.view .max 1 ≤ s.view .min 0 :=
      hi.le_root_of_mem (by rw [hsplit]; exact List.mem_cons_self)
    rw [median_of_perm_even (hperm.trans List.perm_middle.symm)
      (by simp only [sideValues, RollingMedian.cnt, List.length_map, List.length_range]; omega)
      htop hroot fun b hb => hi.root_le_of_mem hb, Nat.add_comm]
    rfl
  · -- an odd count: the root is the middle value
    rw [median_of_perm_odd hperm
      (by simp only [sideValues, RollingMedian.cnt, List.length_map, List.length_range]; omega)
      (fun a ha => hi.le_root_of_mem ha) fun b hb => hi.root_le_of_mem hb]
    rfl

end Inv

/-! ### Runs of calls -/

/-- A call on a `rolling_median_t`. -/
inductive Call (α : Type) where
  | insert (v : α)
  | clear

/-- The store after a call. -/
def Call.apply (s : RollingMedian α) : Call α → RollingMedian α
  | .insert v => s.insert v
  | .clear => s.clear

/-- The values inserted since the last `clear`, after a call. -/
def Call.record (vs : List α) : Call α → List α
  | .insert v => vs ++ [v]
  | .clear => []

/-- One call keeps the invariant for the last `N` values since the last `clear`. -/
theorem Inv.apply {s : RollingMedian α} {vs : List α} (hi : Inv s (lastN s.N vs)) (c : Call α) :
    Inv (Call.apply s c) (lastN s.N (Call.record vs c)) ∧ (Call.apply s c).N = s.N := by
  cases c with
  | insert v =>
    have h := hi.insert v
    rw [lastN_append_singleton hi.layout.N_pos] at h
    exact ⟨h, hi.N_insert v⟩
  | clear =>
    rw [Call.apply, Call.record, lastN_nil]
    exact ⟨Inv.clear s hi.layout.N_pos, rfl⟩

/-- A run of calls keeps it. -/
theorem Inv.run {N : ℕ} (calls : List (Call α)) :
    ∀ (s : RollingMedian α) (vs : List α), s.N = N → Inv s (lastN N vs) →
      (calls.foldl Call.apply s).N = N ∧
        Inv (calls.foldl Call.apply s) (lastN N (calls.foldl Call.record vs)) := by
  induction calls with
  | nil => exact fun s vs hN hi => ⟨hN, hi⟩
  | cons c calls ih =>
    intro s vs hN hi
    subst hN
    obtain ⟨hi', hN'⟩ := hi.apply c
    exact ih (Call.apply s c) (Call.record vs c) hN' (hN' ▸ hi')

/-- Values inserted one by one join the window of the last `N` values. -/
theorem Inv.foldl_insert (ws : List α) :
    ∀ {s : RollingMedian α} {vs : List α}, Inv s (lastN s.N vs) →
      Inv (ws.foldl RollingMedian.insert s) (lastN s.N (vs ++ ws)) ∧
        (ws.foldl RollingMedian.insert s).N = s.N := by
  induction ws with
  | nil =>
    intro s vs hi
    exact ⟨by rwa [List.append_nil], rfl⟩
  | cons w ws ih =>
    intro s vs hi
    -- the first insert is one call of a run
    obtain ⟨hi', hN'⟩ := hi.apply (.insert w)
    obtain ⟨h, hN⟩ := @ih (s.insert w) (vs ++ [w]) (hN' ▸ hi')
    rw [List.foldl_cons, List.append_cons]
    exact ⟨hN' ▸ h, hN.trans hN'⟩

end RollingMedian

end Bittube.Epee.MiscUtils
