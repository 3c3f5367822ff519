import Mathlib.Tactic.Ring
import Mathlib.Tactic.Linarith

/-!
# The 128-bit helpers of `int-util.h`

`mul128` multiplies two 64-bit words through four 32-bit partial products and returns the low
word, with the high word through a pointer; `div128_32` divides a 128-bit dividend by a 32-bit
divisor by long division on 32-bit digits, carrying the remainder through `div_with_reminder`.
Every 64-bit operation of the source is kept with its wrap-around (`% 2 ^ 64`), so the model is
the code's arithmetic and not the mathematical product; the theorems of this module say that
the two agree on every 64-bit input.

The carries of `mul128` are exactly the overflows of the two 64-bit additions, which is why the
comparisons `adbc < ad` and `product_lo < bd` detect them.
-/

namespace Bittube.Epee.IntUtil

/-- `hi_dword`: `val >> 32`. -/
def hiDword (val : ℕ) : ℕ := val >>> 32

/-- `lo_dword`: `val & 0xFFFFFFFF`. -/
def loDword (val : ℕ) : ℕ := val &&& 0xFFFFFFFF

theorem hiDword_eq (val : ℕ) : hiDword val = val / 2 ^ 32 := Nat.shiftRight_eq_div_pow val 32

theorem loDword_eq (val : ℕ) : loDword val = val % 2 ^ 32 :=
  Nat.and_two_pow_sub_one_eq_mod val 32

/-- `mul128(multiplier, multiplicand, &product_hi)`, returning `(product_lo, product_hi)`. -/
def mul128 (multiplier multiplicand : ℕ) : ℕ × ℕ :=
  let a := hiDword multiplier
  let b := loDword multiplier
  let c := hiDword multiplicand
  let d := loDword multiplicand
  let ac := a * c % 2 ^ 64
  let ad := a * d % 2 ^ 64
  let bc := b * c % 2 ^ 64
  let bd := b * d % 2 ^ 64
  let adbc := (ad + bc) % 2 ^ 64
  let adbcCarry := if adbc < ad then 1 else 0
  let productLo := (bd + (adbc <<< 32) % 2 ^ 64) % 2 ^ 64
  let productLoCarry := if productLo < bd then 1 else 0
  let productHi := (ac + adbc >>> 32 + (adbcCarry <<< 32) % 2 ^ 64 + productLoCarry) % 2 ^ 64
  (productLo, productHi)

/-- A 64-bit addition wraps exactly when the sum is below the first summand: the carry test of
`mul128` and of the overflow checks built on it. -/
theorem add_wrap_lt_iff {x y : ℕ} (hx : x < 2 ^ 64) (hy : y < 2 ^ 64) :
    (x + y) % 2 ^ 64 < x ↔ 2 ^ 64 ≤ x + y := by
  constructor
  · intro h
    by_contra hlt
    rw [Nat.mod_eq_of_lt (by omega)] at h
    omega
  · intro h
    have hsub : (x + y) % 2 ^ 64 = x + y - 2 ^ 64 := by
      rw [Nat.mod_eq_sub_mod h, Nat.mod_eq_of_lt (by omega)]
    omega

/-- The four partial products of `mul128`, as the schoolbook identity it implements. -/
theorem mul_eq_dwords (x y : ℕ) :
    x * y = (x / 2 ^ 32 * (y / 2 ^ 32)) * 2 ^ 64 +
      (x / 2 ^ 32 * (y % 2 ^ 32) + x % 2 ^ 32 * (y / 2 ^ 32)) * 2 ^ 32 +
      x % 2 ^ 32 * (y % 2 ^ 32) := by
  conv_lhs => rw [← Nat.div_add_mod x (2 ^ 32), ← Nat.div_add_mod y (2 ^ 32)]
  ring

/-- `mul128` is exact on 64-bit words: `product_hi * 2^64 + product_lo` is the product. -/
theorem mul128_spec {x y : ℕ} (hx : x < 2 ^ 64) (hy : y < 2 ^ 64) :
    (mul128 x y).2 * 2 ^ 64 + (mul128 x y).1 = x * y ∧
      (mul128 x y).1 < 2 ^ 64 ∧ (mul128 x y).2 < 2 ^ 64 := by
  have ha : x / 2 ^ 32 < 2 ^ 32 := by omega
  have hc : y / 2 ^ 32 < 2 ^ 32 := by omega
  have hb : x % 2 ^ 32 < 2 ^ 32 := Nat.mod_lt _ (by norm_num)
  have hd : y % 2 ^ 32 < 2 ^ 32 := Nat.mod_lt _ (by norm_num)
  -- each partial product of two dwords fits a word, so its `% 2 ^ 64` is the identity
  have hbound : ∀ u v : ℕ, u < 2 ^ 32 → v < 2 ^ 32 → u * v < 2 ^ 64 := fun u v hu hv =>
    calc u * v < 2 ^ 32 * 2 ^ 32 := Nat.mul_lt_mul'' hu hv
      _ = 2 ^ 64 := by norm_num
  have hac := hbound _ _ ha hc
  have had := hbound _ _ ha hd
  have hbc := hbound _ _ hb hc
  have hbd := hbound _ _ hb hd
  have hprod := mul_eq_dwords x y
  have hxy : x * y < 2 ^ 128 :=
    calc x * y < 2 ^ 64 * 2 ^ 64 := Nat.mul_lt_mul'' hx hy
      _ = 2 ^ 128 := by norm_num
  simp only [mul128, hiDword_eq, loDword_eq, Nat.shiftLeft_eq, Nat.shiftRight_eq_div_pow]
  generalize x / 2 ^ 32 * (y / 2 ^ 32) = ac at hac hprod ⊢
  generalize x / 2 ^ 32 * (y % 2 ^ 32) = ad at had hprod ⊢
  generalize x % 2 ^ 32 * (y / 2 ^ 32) = bc at hbc hprod ⊢
  generalize x % 2 ^ 32 * (y % 2 ^ 32) = bd at hbd hprod ⊢
  generalize x * y = p at hprod hxy ⊢
  rw [Nat.mod_eq_of_lt hac, Nat.mod_eq_of_lt had, Nat.mod_eq_of_lt hbc, Nat.mod_eq_of_lt hbd]
  have hcarry := add_wrap_lt_iff had hbc
  have hloCarry := add_wrap_lt_iff hbd
    (Nat.mod_lt ((ad + bc) % 2 ^ 64 * 2 ^ 32) (by norm_num : 0 < 2 ^ 64))
  split_ifs <;> omega

/-- `div_with_reminder(dividend, divisor, &remainder)`, returning `(quotient, remainder)`:
the incoming remainder becomes the high dword of the dividend. -/
def divWithReminder (dividend divisor remainder : ℕ) : ℕ × ℕ :=
  let dividend := dividend ||| (remainder <<< 32) % 2 ^ 64
  (dividend / divisor, dividend % divisor)

/-- `div128_32(dividend_hi, dividend_lo, divisor, &quotient_hi, &quotient_lo)`, returning
`(remainder, quotient_hi, quotient_lo)`. -/
def div128_32 (dividendHi dividendLo divisor : ℕ) : ℕ × ℕ × ℕ :=
  let d3 := hiDword dividendHi
  let d2 := loDword dividendHi
  let d1 := hiDword dividendLo
  let d0 := loDword dividendLo
  let q3 := divWithReminder d3 divisor 0
  let q2 := divWithReminder d2 divisor q3.2
  let q1 := divWithReminder d1 divisor q2.2
  let q0 := divWithReminder d0 divisor q1.2
  let quotientHi := (q3.1 <<< 32) % 2 ^ 64 ||| q2.1
  let quotientLo := (q1.1 <<< 32) % 2 ^ 64 ||| q0.1
  (q0.2, quotientHi, quotientLo)

/-- One long-division digit: with a dword below `2 ^ 32` and a remainder below the divisor,
the `|=` of `div_with_reminder` is an addition and the quotient digit is again a dword. -/
theorem divWithReminder_spec {dw divisor r : ℕ} (hdw : dw < 2 ^ 32) (hpos : 0 < divisor)
    (hr : r < divisor) (hdiv : divisor < 2 ^ 32) :
    (divWithReminder dw divisor r).1 * divisor + (divWithReminder dw divisor r).2 =
        r * 2 ^ 32 + dw ∧
      (divWithReminder dw divisor r).2 < divisor ∧ (divWithReminder dw divisor r).1 < 2 ^ 32 := by
  have hshift : (r <<< 32) % 2 ^ 64 = r <<< 32 := by
    rw [Nat.shiftLeft_eq]
    apply Nat.mod_eq_of_lt
    calc r * 2 ^ 32 < 2 ^ 32 * 2 ^ 32 := Nat.mul_lt_mul_of_pos_right (by omega) (by positivity)
      _ = 2 ^ 64 := by norm_num
  have hor : dw ||| (r <<< 32) % 2 ^ 64 = r * 2 ^ 32 + dw := by
    rw [hshift, Nat.or_comm, ← Nat.shiftLeft_add_eq_or_of_lt hdw, Nat.shiftLeft_eq]
  simp only [divWithReminder, hor]
  refine ⟨?_, Nat.mod_lt _ hpos, ?_⟩
  · rw [Nat.mul_comm]
    exact Nat.div_add_mod _ _
  · rw [Nat.div_lt_iff_lt_mul hpos]
    calc r * 2 ^ 32 + dw < r * 2 ^ 32 + 2 ^ 32 := by omega
      _ = (r + 1) * 2 ^ 32 := by ring
      _ ≤ divisor * 2 ^ 32 := Nat.mul_le_mul_right _ hr
      _ = 2 ^ 32 * divisor := Nat.mul_comm _ _

/-- Joining two quotient dwords: `(hi << 32) | lo` is `hi * 2^32 + lo`. -/
theorem join_dwords {hi lo : ℕ} (hhi : hi < 2 ^ 32) (hlo : lo < 2 ^ 32) :
    (hi <<< 32) % 2 ^ 64 ||| lo = hi * 2 ^ 32 + lo := by
  have hlt : hi <<< 32 < 2 ^ 64 := by
    rw [Nat.shiftLeft_eq]
    calc hi * 2 ^ 32 < 2 ^ 32 * 2 ^ 32 := Nat.mul_lt_mul_of_pos_right hhi (by positivity)
      _ = 2 ^ 64 := by norm_num
  rw [Nat.mod_eq_of_lt hlt, ← Nat.shiftLeft_add_eq_or_of_lt hlo, Nat.shiftLeft_eq]

/-- `div128_32` is exact: quotient times divisor plus remainder is the 128-bit dividend, and
the remainder is below the divisor. -/
theorem div128_32_spec {hi lo divisor : ℕ} (hhi : hi < 2 ^ 64) (hlo : lo < 2 ^ 64)
    (hpos : 0 < divisor) (hdiv : divisor < 2 ^ 32) :
    ((div128_32 hi lo divisor).2.1 * 2 ^ 64 + (div128_32 hi lo divisor).2.2) * divisor +
        (div128_32 hi lo divisor).1 = hi * 2 ^ 64 + lo ∧
      (div128_32 hi lo divisor).1 < divisor := by
  have h3 : hi / 2 ^ 32 < 2 ^ 32 := by omega
  have h2 : hi % 2 ^ 32 < 2 ^ 32 := Nat.mod_lt _ (by norm_num)
  have h1 : lo / 2 ^ 32 < 2 ^ 32 := by omega
  have h0 : lo % 2 ^ 32 < 2 ^ 32 := Nat.mod_lt _ (by norm_num)
  obtain ⟨e3, r3, q3⟩ := divWithReminder_spec h3 hpos hpos hdiv
  obtain ⟨e2, r2, q2⟩ := divWithReminder_spec h2 hpos r3 hdiv
  obtain ⟨e1, r1, q1⟩ := divWithReminder_spec h1 hpos r2 hdiv
  obtain ⟨e0, r0, q0⟩ := divWithReminder_spec h0 hpos r1 hdiv
  simp only [div128_32, hiDword_eq, loDword_eq, join_dwords q3 q2, join_dwords q1 q0]
  refine ⟨?_, r0⟩
  -- long division on four dwords: each step's equation, scaled by its place value
  have hhi' := Nat.div_add_mod hi (2 ^ 32)
  have hlo' := Nat.div_add_mod lo (2 ^ 32)
  nlinarith [e3, e2, e1, e0, hhi', hlo']

/-- The two quotient words of `div128_32` are words. -/
theorem div128_32_lt {hi lo divisor : ℕ} (hhi : hi < 2 ^ 64) (hlo : lo < 2 ^ 64)
    (hpos : 0 < divisor) (hdiv : divisor < 2 ^ 32) :
    (div128_32 hi lo divisor).2.1 < 2 ^ 64 ∧ (div128_32 hi lo divisor).2.2 < 2 ^ 64 := by
  have h3 : hi / 2 ^ 32 < 2 ^ 32 := by omega
  have h2 : hi % 2 ^ 32 < 2 ^ 32 := Nat.mod_lt _ (by norm_num)
  have h1 : lo / 2 ^ 32 < 2 ^ 32 := by omega
  have h0 : lo % 2 ^ 32 < 2 ^ 32 := Nat.mod_lt _ (by norm_num)
  obtain ⟨-, r3, q3⟩ := divWithReminder_spec h3 hpos hpos hdiv
  obtain ⟨-, r2, q2⟩ := divWithReminder_spec h2 hpos r3 hdiv
  obtain ⟨-, r1, q1⟩ := divWithReminder_spec h1 hpos r2 hdiv
  obtain ⟨-, -, q0⟩ := divWithReminder_spec h0 hpos r1 hdiv
  simp only [div128_32, hiDword_eq, loDword_eq, join_dwords q3 q2, join_dwords q1 q0]
  omega

/-- The quotient of `div128_32`, read as one 128-bit number, is the quotient of the dividend. -/
theorem div128_32_quotient {hi lo divisor : ℕ} (hhi : hi < 2 ^ 64) (hlo : lo < 2 ^ 64)
    (hpos : 0 < divisor) (hdiv : divisor < 2 ^ 32) :
    (div128_32 hi lo divisor).2.1 * 2 ^ 64 + (div128_32 hi lo divisor).2.2 =
      (hi * 2 ^ 64 + lo) / divisor := by
  obtain ⟨heq, hrem⟩ := div128_32_spec hhi hlo hpos hdiv
  rw [← heq, Nat.mul_comm _ divisor, Nat.mul_add_div hpos, Nat.div_eq_of_lt hrem, Nat.add_zero]

/-- `div128_64(dividend_hi, dividend_lo, divisor, &quotient_hi, &quotient_lo, NULL, NULL)`, a
division of `boost::multiprecision::uint128_t` values, returning `(quotient_hi, quotient_lo)`:
the quotient's two words. -/
def div128_64 (dividendHi dividendLo divisor : ℕ) : ℕ × ℕ :=
  let q := (dividendHi * 2 ^ 64 + dividendLo) / divisor
  (q / 2 ^ 64 % 2 ^ 64, q % 2 ^ 64)

/-- Below `2 ^ 128`, the two words of `div128_64` are the quotient. -/
theorem div128_64_quotient {hi lo divisor : ℕ} (hq : (hi * 2 ^ 64 + lo) / divisor < 2 ^ 128) :
    (div128_64 hi lo divisor).1 * 2 ^ 64 + (div128_64 hi lo divisor).2 =
      (hi * 2 ^ 64 + lo) / divisor := by
  simp only [div128_64]
  rw [Nat.mod_eq_of_lt (by omega)]
  exact Nat.div_add_mod' _ _

end Bittube.Epee.IntUtil
