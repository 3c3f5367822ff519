import Mathlib.Data.Nat.Digits.Lemmas

/-!
# Fixed-width radix expansions

A number below `b ^ k` has exactly one expansion as `k` digits of base `b`. Codecs that write
numbers into fixed-size slots (big-endian byte words, blocks of base-58 characters) are this
bijection read in one direction or the other: the writer takes the `k` lowest digits, the
reader folds digits back with `Nat.ofDigits`.

`digitsLE b k n` lists the `k` lowest digits of `n`, least significant first. The two facts a
codec proof needs are that folding them back gives `n % b ^ k`, and that any `k` digits below
`b` are the expansion of their own value. The big-endian forms are the reversed lists.

Read the other way, a little-endian expansion is a sequence of `k`-digit words, and the numbers whose lowest digit is `t` recur every `b`
numbers: `nextWithDigit b t q` is the first of them from `q` on.
-/

namespace FixedRadix

/-- The `k` lowest base-`b` digits of `n`, least significant first. -/
def digitsLE (b : ℕ) : ℕ → ℕ → List ℕ
  | 0, _ => []
  | k + 1, n => n % b :: digitsLE b k (n / b)

@[simp] theorem digitsLE_zero (b n : ℕ) : digitsLE b 0 n = [] := rfl

@[simp] theorem digitsLE_succ (b k n : ℕ) :
    digitsLE b (k + 1) n = n % b :: digitsLE b k (n / b) := rfl

@[simp] theorem length_digitsLE (b k n : ℕ) : (digitsLE b k n).length = k := by
  induction k generalizing n with
  | zero => rfl
  | succ k ih => simp [ih]

theorem lt_of_mem_digitsLE {b k n d : ℕ} (hb : 0 < b) (hd : d ∈ digitsLE b k n) : d < b := by
  induction k generalizing n with
  | zero => simp at hd
  | succ k ih =>
      rcases List.mem_cons.mp hd with rfl | hd
      · exact Nat.mod_lt _ hb
      · exact ih hd

/-- Folding the `k` lowest digits back gives the value modulo `b ^ k`. -/
theorem ofDigits_digitsLE (b k n : ℕ) : Nat.ofDigits b (digitsLE b k n) = n % b ^ k := by
  induction k generalizing n with
  | zero => simp [Nat.mod_one]
  | succ k ih =>
      rw [digitsLE_succ, Nat.ofDigits_cons, ih, pow_succ', Nat.mod_mul]

theorem ofDigits_digitsLE_of_lt {b k n : ℕ} (hn : n < b ^ k) :
    Nat.ofDigits b (digitsLE b k n) = n := by
  rw [ofDigits_digitsLE, Nat.mod_eq_of_lt hn]

/-- Digits below the base are the expansion of their own value: the fixed-width expansion is
injective on such lists. -/
theorem digitsLE_ofDigits {b : ℕ} (ds : List ℕ) (hds : ∀ d ∈ ds, d < b) :
    digitsLE b ds.length (Nat.ofDigits b ds) = ds := by
  induction ds with
  | nil => rfl
  | cons d ds ih =>
      have hd : d < b := hds d (by simp)
      have hb : 0 < b := Nat.lt_of_le_of_lt (Nat.zero_le d) hd
      have hmod : (d + b * Nat.ofDigits b ds) % b = d := by
        rw [Nat.add_mul_mod_self_left, Nat.mod_eq_of_lt hd]
      have hdiv : (d + b * Nat.ofDigits b ds) / b = Nat.ofDigits b ds := by
        rw [Nat.add_mul_div_left _ _ hb, Nat.div_eq_of_lt hd, Nat.zero_add]
      rw [List.length_cons, digitsLE_succ, Nat.ofDigits_cons, hmod, hdiv,
        ih (fun x hx => hds x (by simp [hx]))]

/-- The expansion of zero is all zero digits. -/
theorem digitsLE_zero_right (b k : ℕ) : digitsLE b k 0 = List.replicate k 0 := by
  induction k with
  | zero => rfl
  | succ k ih => simp [ih, List.replicate_succ]

/-- Value of a big-endian digit list (most significant first). -/
def ofDigitsBE (b : ℕ) (ds : List ℕ) : ℕ := Nat.ofDigits b ds.reverse

theorem ofDigitsBE_lt {b : ℕ} (hb : 1 < b) {ds : List ℕ} (hds : ∀ d ∈ ds, d < b) :
    ofDigitsBE b ds < b ^ ds.length := by
  rw [ofDigitsBE, ← List.length_reverse]
  exact Nat.ofDigits_lt_base_pow_length hb (fun d hd => hds d (List.mem_reverse.mp hd))

theorem digitsLE_ofDigitsBE {b : ℕ} (ds : List ℕ) (hds : ∀ d ∈ ds, d < b) :
    (digitsLE b ds.length (ofDigitsBE b ds)).reverse = ds := by
  have h := digitsLE_ofDigits ds.reverse (fun d hd => hds d (List.mem_reverse.mp hd))
  rw [List.length_reverse] at h
  rw [ofDigitsBE, h, List.reverse_reverse]

theorem ofDigitsBE_digitsLE_of_lt {b k n : ℕ} (hn : n < b ^ k) :
    ofDigitsBE b (digitsLE b k n).reverse = n := by
  rw [ofDigitsBE, List.reverse_reverse, ofDigits_digitsLE_of_lt hn]

/-- A little-endian expansion read as `k`-digit words: the digits from `n` on are the word at `n`
plus `b ^ k` times the digits from `n + k` on. -/
theorem ofDigits_drop_eq_word_add {b n k : ℕ} {ds : List ℕ} (h : n + k ≤ ds.length) :
    Nat.ofDigits b (ds.drop n) =
      Nat.ofDigits b ((ds.drop n).take k) + b ^ k * Nat.ofDigits b (ds.drop (n + k)) := by
  have hlen : ((ds.drop n).take k).length = k := by
    rw [List.length_take, List.length_drop]
    omega
  conv_lhs => rw [← List.take_append_drop k (ds.drop n)]
  rw [Nat.ofDigits_append, hlen, List.drop_drop]

/-! ## The next number with a given lowest digit -/

/-- The least number from `q` on whose lowest base-`n` digit is `t`: `t` in the block of `n`
that holds `q`, or in the next block when `q` is already past it. -/
def nextWithDigit (n t q : ℕ) : ℕ := (q / n + if t < q % n then 1 else 0) * n + t

theorem nextWithDigit_mod {n t : ℕ} (q : ℕ) (ht : t < n) : nextWithDigit n t q % n = t := by
  rw [nextWithDigit, Nat.add_comm, Nat.add_mul_mod_self_right, Nat.mod_eq_of_lt ht]

theorem le_nextWithDigit {n t : ℕ} (q : ℕ) (hn : 0 < n) : q ≤ nextWithDigit n t q := by
  have hq := Nat.div_add_mod' q n
  have hmod := Nat.mod_lt q hn
  unfold nextWithDigit
  split_ifs with hlt
  · rw [Nat.add_mul, Nat.one_mul]
    omega
  · rw [Nat.add_zero]
    omega

/-- When `q` has another lowest digit, the next number with digit `t` is past it. -/
theorem lt_nextWithDigit {n t q : ℕ} (hn : 0 < n) (ht : t < n) (hne : q % n ≠ t) :
    q < nextWithDigit n t q := by
  have hle := le_nextWithDigit (t := t) q hn
  have hmod := nextWithDigit_mod q ht
  rcases Nat.lt_or_eq_of_le hle with hlt | heq
  · exact hlt
  · rw [← heq] at hmod
    exact absurd hmod hne

/-- No number from `q` up to `nextWithDigit n t q` has the lowest digit `t`. -/
theorem mod_ne_of_lt_nextWithDigit {n t q q' : ℕ} (hq : q ≤ q') (hlt : q' < nextWithDigit n t q) :
    q' % n ≠ t := by
  intro hmod
  have hq' := Nat.div_add_mod' q' n
  have hqq := Nat.div_add_mod' q n
  rw [hmod] at hq'
  unfold nextWithDigit at hlt
  split_ifs at hlt with hbefore
  · -- `t` is behind `q` in its block: `q'` is in the same block or an earlier one
    have hbound : q' / n * n < (q / n + 1) * n := by
      rw [Nat.add_mul, Nat.one_mul] at hlt ⊢
      omega
    have hle : q' / n * n ≤ q / n * n :=
      Nat.mul_le_mul_right n (Nat.le_of_lt_succ (Nat.lt_of_mul_lt_mul_right hbound))
    omega
  · -- `t` is ahead of `q` in its block: `q'` is in an earlier block
    rw [Nat.add_zero] at hlt
    have hblock : q' / n < q / n := Nat.lt_of_mul_lt_mul_right (by omega : q' / n * n < q / n * n)
    have hle : (q' / n + 1) * n ≤ q / n * n := Nat.mul_le_mul_right n hblock
    have hn : 0 < n := Nat.pos_of_ne_zero fun hn => by simp [hn] at hblock
    have ht : t < n := hmod ▸ Nat.mod_lt q' hn
    rw [Nat.add_mul, Nat.one_mul] at hle
    omega

/-- With at least two digits, consecutive numbers have different lowest digits. -/
theorem mod_ne_succ_mod {n : ℕ} (hn : 2 ≤ n) (q : ℕ) : q % n ≠ (q + 1) % n := by
  have hlt := Nat.mod_lt q (by omega : 0 < n)
  rw [← Nat.mod_add_mod]
  rcases Nat.lt_or_ge (q % n + 1) n with hfit | hlast
  · rw [Nat.mod_eq_of_lt hfit]
    omega
  · -- the last digit wraps to 0
    have hwrap : q % n + 1 = n := by omega
    rw [hwrap, Nat.mod_self]
    omega

/-- The next number after `q` has the next lowest digit, so it is `nextWithDigit` of that digit
when the base has at least two digits. -/
theorem nextWithDigit_succ {n q : ℕ} (hn : 2 ≤ n) : nextWithDigit n ((q + 1) % n) q = q + 1 := by
  have hpast := lt_nextWithDigit (by omega) (Nat.mod_lt (q + 1) (by omega)) (mod_ne_succ_mod hn q)
  have hnotlt : ¬q + 1 < nextWithDigit n ((q + 1) % n) q := fun hlt =>
    mod_ne_of_lt_nextWithDigit (Nat.le_succ q) hlt rfl
  omega

end FixedRadix
