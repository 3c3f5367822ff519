import Mathlib

/-!
# Chained base-`n` digits

A number below `n ^ 3` written as three base-`n` digits, each but the first offset by the digit
before it: `d1 = y % n`, `d2 = (y / n + d1) % n`, `d3 = (y / n / n + d2) % n`. `decode` undoes the
offsets, `(n - d1 + d2) % n` being the second plain digit and `(n - d2 + d3) % n` the third. The
two are inverse, on numbers below `n * n * n` and on triples of digits below `n`.

A number below `2 * M` keeps its residue modulo `n` when reduced modulo `M` exactly when it is
below `M`, unless `n` divides `M`. A decoder that computes modulo `M` and checks the first digit
therefore refuses every value that wrapped.
-/

namespace ChainedDigits

variable {n : ℕ}

/-- The three chained digits of `y`. -/
def encode (n y : ℕ) : ℕ × ℕ × ℕ :=
  (y % n, (y / n + y % n) % n, (y / n / n + (y / n + y % n) % n) % n)

/-- The number three chained digits stand for. -/
def decode (n d1 d2 d3 : ℕ) : ℕ :=
  d1 + n * ((n - d1 + d2) % n) + n * n * ((n - d2 + d3) % n)

/-- Taking off an offset `d` below `n` modulo `n`. -/
theorem sub_add_mod {d : ℕ} (x : ℕ) (hd : d < n) : (n - d + (x + d) % n) % n = x % n := by
  rw [Nat.add_mod_mod, show n - d + (x + d) = x + n by omega, Nat.add_mod_right]

/-- Putting back an offset `d` below `n` modulo `n`. -/
theorem mod_add_sub {d : ℕ} (x : ℕ) (hd : d < n) : ((n - d + x) % n + d) % n = x % n := by
  rw [Nat.mod_add_mod, show n - d + x + d = x + n by omega, Nat.add_mod_right]

/-- A digit followed by a number below `m`, in base `n`, is below `n * m`. -/
theorem add_mul_lt {d x m : ℕ} (hd : d < n) (hx : x < m) : d + n * x < n * m :=
  calc d + n * x < n + n * x := Nat.add_lt_add_right hd _
    _ = n * (x + 1) := by rw [Nat.mul_succ, Nat.add_comm]
    _ ≤ n * m := Nat.mul_le_mul_left _ hx

/-- `decode` in Horner form. -/
theorem decode_eq (d1 d2 d3 : ℕ) :
    decode n d1 d2 d3 = d1 + n * ((n - d1 + d2) % n + n * ((n - d2 + d3) % n)) := by
  rw [decode, Nat.mul_add, Nat.mul_assoc, Nat.add_assoc]

theorem decode_lt {d1 d2 d3 : ℕ} (h1 : d1 < n) (hn : 0 < n) : decode n d1 d2 d3 < n * n * n := by
  rw [decode_eq, Nat.mul_assoc]
  exact add_mul_lt h1 (add_mul_lt (Nat.mod_lt _ hn) (Nat.mod_lt _ hn))

/-- The chained digits of a number below `n * n * n` give it back. -/
theorem decode_encode {y : ℕ} (hn : 0 < n) (hy : y < n * n * n) :
    decode n (encode n y).1 (encode n y).2.1 (encode n y).2.2 = y := by
  have hq : y / n / n < n := by
    rw [Nat.div_div_eq_div_mul, Nat.div_lt_iff_lt_mul (Nat.mul_pos hn hn), ← Nat.mul_assoc]
    exact hy
  simp only [encode, decode_eq]
  rw [sub_add_mod _ (Nat.mod_lt _ hn), sub_add_mod _ (Nat.mod_lt _ hn), Nat.mod_eq_of_lt hq,
    Nat.mod_add_div, Nat.mod_add_div]

theorem decode_mod {d1 d2 d3 : ℕ} (h1 : d1 < n) : decode n d1 d2 d3 % n = d1 := by
  rw [decode_eq, Nat.add_mul_mod_self_left, Nat.mod_eq_of_lt h1]

theorem decode_div {d1 d2 d3 : ℕ} (h1 : d1 < n) :
    decode n d1 d2 d3 / n = (n - d1 + d2) % n + n * ((n - d2 + d3) % n) := by
  have hn : 0 < n := Nat.lt_of_le_of_lt (Nat.zero_le _) h1
  rw [decode_eq, Nat.add_mul_div_left _ _ hn, Nat.div_eq_of_lt h1, Nat.zero_add]

/-- Three digits below `n` are the chained digits of what they decode to. -/
theorem encode_decode {d1 d2 d3 : ℕ} (h1 : d1 < n) (h2 : d2 < n) (h3 : d3 < n) :
    encode n (decode n d1 d2 d3) = (d1, d2, d3) := by
  have hn : 0 < n := Nat.lt_of_le_of_lt (Nat.zero_le _) h1
  have ha : (n - d1 + d2) % n < n := Nat.mod_lt _ hn
  have hdiv2 : decode n d1 d2 d3 / n / n = (n - d2 + d3) % n := by
    rw [decode_div h1, Nat.add_mul_div_left _ _ hn, Nat.div_eq_of_lt ha, Nat.zero_add]
  have hsecond : (decode n d1 d2 d3 / n + d1) % n = d2 := by
    rw [decode_div h1, Nat.add_comm _ (n * _), Nat.add_assoc, Nat.mul_add_mod, mod_add_sub _ h1,
      Nat.mod_eq_of_lt h2]
  simp only [encode, decode_mod h1, hsecond, hdiv2, mod_add_sub _ h2, Nat.mod_eq_of_lt h3]

/-- Reducing modulo `M` a number below `2 * M` keeps its residue modulo `n` exactly when it is
below `M`, when `n` does not divide `M`. -/
theorem mod_mod_eq_iff_lt {M V : ℕ} (hM : ¬ n ∣ M) (hV : V < 2 * M) :
    V % M % n = V % n ↔ V < M := by
  constructor
  · intro h
    by_contra hge
    have hwrap : V % M = V - M := by
      rw [Nat.mod_eq_sub_mod (Nat.le_of_not_lt hge), Nat.mod_eq_of_lt (by omega)]
    have hdvd : (V - (V - M)) % n = 0 := Nat.sub_mod_eq_zero_of_mod_eq (by rw [← hwrap, h])
    rw [show V - (V - M) = M by omega] at hdvd
    exact hM (Nat.dvd_of_mod_eq_zero hdvd)
  · intro h
    rw [Nat.mod_eq_of_lt h]

end ChainedDigits
