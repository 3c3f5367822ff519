import Bittube.Crypto.Types
import Bittube.Epee.IntUtil
import Bittube.Lib.FixedRadix

/-!
# The proof-of-work check (`difficulty.cpp`)

`check_hash(hash, difficulty)` accepts a block's proof-of-work hash when the hash, read as a
256-bit little-endian number, times the difficulty still fits in 256 bits. It multiplies each of
the hash's four 64-bit words by the difficulty (`mul`, which is `mul128` of `int-util.h` on
x86-64 and a portable schoolbook product on 32-bit halves elsewhere), rejects at once when the
top word's product has a high word, and adds the words of the partial products column by column,
the carries through `cadd` and `cadc`. A word of the hash is `swap64le` of the eight bytes at
its offset: their little-endian value on every host.

Every 64-bit operation keeps its wrap-around (`% 2 ^ 64`), as in `IntUtil`. The portable `mul`
is the exact 128-bit product, and the two carry tests are the carry of the column sum, so on
both builds `check_hash` accepts exactly when the product of the hash and the difficulty is
below `2 ^ 256`.
-/

namespace Bittube.CryptonoteBasic

open Bittube.Crypto Bittube.Epee.IntUtil

/-! ## The two multiplications -/

/-- The portable `mul(a, b, low, high)`, returning `(low, high)`: four products of 32-bit
halves, their halves added with 32-bit carries. -/
def mulPortable (a b : ℕ) : ℕ × ℕ :=
  let aLow := a &&& 0xFFFFFFFF
  let aHigh := a >>> 32
  let bLow := b &&& 0xFFFFFFFF
  let bHigh := b >>> 32
  let res := aLow * bLow % 2 ^ 64
  let lowRes1 := res &&& 0xFFFFFFFF
  let carry := res >>> 32
  let res := (aHigh * bLow + carry) % 2 ^ 64
  let highResHigh1 := res >>> 32
  let highResLow1 := res &&& 0xFFFFFFFF
  let res := aLow * bHigh % 2 ^ 64
  let lowRes2 := res &&& 0xFFFFFFFF
  let carry := res >>> 32
  let res := (aHigh * bHigh + carry) % 2 ^ 64
  let highResHigh2 := res >>> 32
  let highResLow2 := res &&& 0xFFFFFFFF
  -- addition
  let r := (highResLow1 + lowRes2) % 2 ^ 64
  let carry := r >>> 32
  let low := (r <<< 32) % 2 ^ 64 ||| lowRes1
  let r := (highResHigh1 + highResLow2 + carry) % 2 ^ 64
  let d3 := r &&& 0xFFFFFFFF
  let carry := r >>> 32
  let r := (highResHigh2 + carry) % 2 ^ 64
  let high := d3 ||| (r <<< 32) % 2 ^ 64
  (low, high)

/-- `mul(a, b, low, high)`, returning `(low, high)`: `low = mul128(a, b, &high)` on x86-64, the
portable product elsewhere. -/
def mul (x86_64 : Bool) (a b : ℕ) : ℕ × ℕ :=
  if x86_64 then mul128 a b else mulPortable a b

theorem and_low_mask (x : ℕ) : x &&& 0xFFFFFFFF = x % 2 ^ 32 := loDword_eq x

/-- A word shifted into the high half of a 64-bit word keeps its low 32 bits there, and
`|` with a low half is an addition. -/
theorem shiftLeft_or_low {hi lo : ℕ} (hlo : lo < 2 ^ 32) :
    (hi <<< 32) % 2 ^ 64 ||| lo = hi % 2 ^ 32 * 2 ^ 32 + lo := by
  have hshift : (hi <<< 32) % 2 ^ 64 = (hi % 2 ^ 32) <<< 32 := by
    rw [Nat.shiftLeft_eq, Nat.shiftLeft_eq, show (2 : ℕ) ^ 64 = 2 ^ 32 * 2 ^ 32 by norm_num,
      Nat.mul_mod_mul_right]
  rw [hshift, ← Nat.shiftLeft_add_eq_or_of_lt hlo, Nat.shiftLeft_eq]

/-- The portable `mul` is exact on 64-bit words: `high * 2^64 + low` is the product. -/
theorem mulPortable_spec {x y : ℕ} (hx : x < 2 ^ 64) (hy : y < 2 ^ 64) :
    (mulPortable x y).2 * 2 ^ 64 + (mulPortable x y).1 = x * y ∧
      (mulPortable x y).1 < 2 ^ 64 ∧ (mulPortable x y).2 < 2 ^ 64 := by
  have ha : x / 2 ^ 32 < 2 ^ 32 := by omega
  have hc : y / 2 ^ 32 < 2 ^ 32 := by omega
  have hb : x % 2 ^ 32 < 2 ^ 32 := Nat.mod_lt _ (by norm_num)
  have hd : y % 2 ^ 32 < 2 ^ 32 := Nat.mod_lt _ (by norm_num)
  -- a product of two halves leaves room for a carry of 32 bits below `2 ^ 64`
  have hbound : ∀ u v : ℕ, u < 2 ^ 32 → v < 2 ^ 32 → u * v ≤ (2 ^ 32 - 1) * (2 ^ 32 - 1) :=
    fun u v hu hv => Nat.mul_le_mul (by omega) (by omega)
  have hac := hbound _ _ ha hc
  have had := hbound _ _ ha hd
  have hbc := hbound _ _ hb hc
  have hbd := hbound _ _ hb hd
  have hprod := mul_eq_dwords x y
  simp only [mulPortable, and_low_mask, Nat.shiftRight_eq_div_pow]
  rw [shiftLeft_or_low (Nat.mod_lt _ (by norm_num)), Nat.or_comm,
    shiftLeft_or_low (Nat.mod_lt _ (by norm_num))]
  generalize x / 2 ^ 32 * (y / 2 ^ 32) = ac at hac hprod ⊢
  generalize x / 2 ^ 32 * (y % 2 ^ 32) = ad at had hprod ⊢
  generalize x % 2 ^ 32 * (y / 2 ^ 32) = bc at hbc hprod ⊢
  generalize x % 2 ^ 32 * (y % 2 ^ 32) = bd at hbd hprod ⊢
  generalize x * y = p at hprod ⊢
  omega

/-- `mul` is exact on both builds. -/
theorem mul_spec (x86_64 : Bool) {x y : ℕ} (hx : x < 2 ^ 64) (hy : y < 2 ^ 64) :
    (mul x86_64 x y).2 * 2 ^ 64 + (mul x86_64 x y).1 = x * y ∧
      (mul x86_64 x y).1 < 2 ^ 64 ∧ (mul x86_64 x y).2 < 2 ^ 64 := by
  cases x86_64
  · exact mulPortable_spec hx hy
  · exact mul128_spec hx hy

/-- The two words of a 128-bit product are unique, so both builds return the same pair. -/
theorem mulPortable_eq_mul128 {x y : ℕ} (hx : x < 2 ^ 64) (hy : y < 2 ^ 64) :
    mulPortable x y = mul128 x y := by
  obtain ⟨hp, hpl, -⟩ := mulPortable_spec hx hy
  obtain ⟨hm, hml, -⟩ := mul128_spec hx hy
  generalize x * y = p at hp hm
  have hlo : (mulPortable x y).1 = (mul128 x y).1 := by omega
  have hhi : (mulPortable x y).2 = (mul128 x y).2 := by omega
  exact Prod.ext hlo hhi

theorem int_util_helpers_exact (a b hi lo d : ℕ) (ha : a < 2 ^ 64) (hb : b < 2 ^ 64)
    (hhi : hi < 2 ^ 64) (hlo : lo < 2 ^ 64) (hd : 0 < d) (hd32 : d < 2 ^ 32) :
    (mul128 a b).2 * 2 ^ 64 + (mul128 a b).1 = a * b ∧ mulPortable a b = mul128 a b ∧
      ((div128_32 hi lo d).2.1 * 2 ^ 64 + (div128_32 hi lo d).2.2) * d + (div128_32 hi lo d).1 =
        hi * 2 ^ 64 + lo ∧
      (div128_32 hi lo d).1 < d :=
  ⟨(mul128_spec ha hb).1, mulPortable_eq_mul128 ha hb, div128_32_spec hhi hlo hd hd32⟩

/-- The all-ones words, where a lost carry would show. -/
theorem int_util_helpers_exact_all_ones :
    (2 ^ 64 - 1 < 2 ^ 64 ∧ 2 ^ 64 - 1 < 2 ^ 64 ∧ 2 ^ 64 - 1 < 2 ^ 64 ∧ 2 ^ 64 - 1 < 2 ^ 64 ∧
        0 < 2 ^ 32 - 1 ∧ 2 ^ 32 - 1 < 2 ^ 32) ∧
      (mul128 (2 ^ 64 - 1) (2 ^ 64 - 1)).2 * 2 ^ 64 + (mul128 (2 ^ 64 - 1) (2 ^ 64 - 1)).1 =
          (2 ^ 64 - 1) * (2 ^ 64 - 1) ∧
        mulPortable (2 ^ 64 - 1) (2 ^ 64 - 1) = mul128 (2 ^ 64 - 1) (2 ^ 64 - 1) ∧
        ((div128_32 (2 ^ 64 - 1) (2 ^ 64 - 1) (2 ^ 32 - 1)).2.1 * 2 ^ 64 +
              (div128_32 (2 ^ 64 - 1) (2 ^ 64 - 1) (2 ^ 32 - 1)).2.2) * (2 ^ 32 - 1) +
            (div128_32 (2 ^ 64 - 1) (2 ^ 64 - 1) (2 ^ 32 - 1)).1 =
          (2 ^ 64 - 1) * 2 ^ 64 + (2 ^ 64 - 1) ∧
        (div128_32 (2 ^ 64 - 1) (2 ^ 64 - 1) (2 ^ 32 - 1)).1 < 2 ^ 32 - 1 :=
  ⟨by norm_num, int_util_helpers_exact _ _ _ _ _ (by norm_num) (by norm_num) (by norm_num)
    (by norm_num) (by norm_num) (by norm_num)⟩

/-! ## The carries -/

/-- `cadd(a, b)`: the 64-bit sum `a + b` wrapped. -/
def cadd (a b : ℕ) : Bool := decide ((a + b) % 2 ^ 64 < a)

/-- `cadc(a, b, c)`: the 64-bit sum `a + b + c` wrapped, either in `a + b` or in adding the
carry to `2 ^ 64 - 1` (`(uint64_t) -1`). -/
def cadc (a b : ℕ) (c : Bool) : Bool :=
  decide ((a + b) % 2 ^ 64 < a) || (c && (a + b) % 2 ^ 64 == 2 ^ 64 - 1)

/-- `cadd` is the carry out of the column sum of two words. -/
theorem cadd_toNat {a b : ℕ} (ha : a < 2 ^ 64) (hb : b < 2 ^ 64) :
    (cadd a b).toNat = (a + b) / 2 ^ 64 := by
  have hwrap := add_wrap_lt_iff ha hb
  by_cases h : 2 ^ 64 ≤ a + b
  · simp only [cadd, hwrap.2 h, decide_true, Bool.toNat_true]
    omega
  · simp only [cadd, mt hwrap.1 h, decide_false, Bool.toNat_false]
    omega

/-- `cadc` is the carry out of the column sum of two words and an incoming carry: without a
wrap in `a + b`, the sum reaches `2 ^ 64` only when it is `2 ^ 64 - 1` and the carry is set. -/
theorem cadc_toNat {a b : ℕ} (c : Bool) (ha : a < 2 ^ 64) (hb : b < 2 ^ 64) :
    (cadc a b c).toNat = (a + b + c.toNat) / 2 ^ 64 := by
  have hwrap := add_wrap_lt_iff ha hb
  by_cases h : 2 ^ 64 ≤ a + b
  · simp only [cadc, hwrap.2 h, decide_true, Bool.true_or, Bool.toNat_true]
    cases c <;> simp only [Bool.toNat_false, Bool.toNat_true] <;> omega
  · have hsum : (a + b) % 2 ^ 64 = a + b := Nat.mod_eq_of_lt (by omega)
    have hnowrap : ¬a + b < a := by omega
    simp only [cadc, hsum, hnowrap, decide_false, Bool.false_or]
    cases c with
    | false =>
      simp only [Bool.false_and, Bool.toNat_false]
      omega
    | true =>
      -- the incoming carry wraps the sum only from `2 ^ 64 - 1`
      by_cases hmax : a + b = 2 ^ 64 - 1
      · simp only [hmax, Bool.true_and, beq_self_eq_true, Bool.toNat_true]
        omega
      · simp only [Bool.true_and, beq_eq_false_iff_ne.2 hmax, Bool.toNat_false, Bool.toNat_true]
        omega

/-! ## The words of a hash -/

/-- The 256-bit little-endian number a hash encodes. -/
def hashValue (hash : Hash) : ℕ := Nat.ofDigits 256 (hash.data.map UInt8.toNat)

/-- `swap64le(((const uint64_t *) &hash)[k])`: the little-endian value of the eight bytes at
offset `8 k`. -/
def hashWord (hash : Hash) (k : ℕ) : ℕ :=
  Nat.ofDigits 256 (((hash.data.map UInt8.toNat).drop (8 * k)).take 8)

theorem hashWord_lt (hash : Hash) (k : ℕ) : hashWord hash k < 2 ^ 64 := by
  have hdigits : ∀ d ∈ ((hash.data.map UInt8.toNat).drop (8 * k)).take 8, d < 256 := by
    intro d hd
    obtain ⟨byte, -, rfl⟩ := List.mem_map.1 (List.mem_of_mem_drop (List.mem_of_mem_take hd))
    exact UInt8.toNat_lt byte
  calc hashWord hash k < 256 ^ (((hash.data.map UInt8.toNat).drop (8 * k)).take 8).length :=
        Nat.ofDigits_lt_base_pow_length (by norm_num) hdigits
    _ ≤ 256 ^ 8 := Nat.pow_le_pow_right (by norm_num) (List.length_take_le _ _)
    _ = 2 ^ 64 := by norm_num

/-- A hash is its four words, the first the least significant. -/
theorem hashValue_eq_words (hash : Hash) :
    hashValue hash = hashWord hash 0 + 2 ^ 64 * hashWord hash 1 + 2 ^ 128 * hashWord hash 2 +
      2 ^ 192 * hashWord hash 3 := by
  have hlen : (hash.data.map UInt8.toNat).length = 32 := by simp [hash.size_eq]
  simp only [hashValue, hashWord]
  generalize hash.data.map UInt8.toNat = ds at hlen ⊢
  -- the words one after another, each eight digits of base `256 = 2 ^ 8`
  have hsplit : ∀ n, n + 8 ≤ ds.length → Nat.ofDigits 256 (ds.drop n) =
      Nat.ofDigits 256 ((ds.drop n).take 8) + 2 ^ 64 * Nat.ofDigits 256 (ds.drop (n + 8)) := by
    intro n hn
    rw [FixedRadix.ofDigits_drop_eq_word_add hn]
    norm_num
  have e0 := hsplit 0 (by omega)
  have e1 := hsplit 8 (by omega)
  have e2 := hsplit 16 (by omega)
  have e3 := hsplit 24 (by omega)
  have hend : ds.drop 32 = [] := List.drop_eq_nil_of_le (by omega)
  simp only [List.drop_zero, Nat.zero_add, Nat.reduceAdd, hend, Nat.ofDigits_nil] at e0 e1 e2 e3
  simp only [Nat.mul_zero, List.drop_zero, Nat.reduceMul]
  omega

/-! ## `check_hash` -/

/-- `check_hash(hash, difficulty)` on the x86-64 build or the portable one. -/
def checkHash (x86_64 : Bool) (hash : Hash) (difficulty : ℕ) : Bool :=
  -- first check the highest word, this will most likely fail for a random hash
  let (top, high) := mul x86_64 (hashWord hash 3) difficulty
  if high ≠ 0 then false
  else
    let (_, cur) := mul x86_64 (hashWord hash 0) difficulty
    let (low, high) := mul x86_64 (hashWord hash 1) difficulty
    let carry := cadd cur low
    let cur := high
    let (low, high) := mul x86_64 (hashWord hash 2) difficulty
    let carry := cadc cur low carry
    let carry := cadc high top carry
    !carry

/-- The product of a hash and a difficulty, column by column: the partial product of word `k`
sits `64 k` bits up. -/
theorem hashValue_mul (hash : Hash) (difficulty : ℕ) :
    hashValue hash * difficulty = hashWord hash 0 * difficulty +
      2 ^ 64 * (hashWord hash 1 * difficulty) + 2 ^ 128 * (hashWord hash 2 * difficulty) +
      2 ^ 192 * (hashWord hash 3 * difficulty) := by
  rw [hashValue_eq_words]
  ring

/-- `check_hash` accepts exactly the hashes whose product with the difficulty fits 256 bits, on
both builds. -/
theorem check_hash_iff (x86_64 : Bool) (hash : Hash) {difficulty : ℕ}
    (hd : difficulty < 2 ^ 64) :
    checkHash x86_64 hash difficulty = true ↔ hashValue hash * difficulty < 2 ^ 256 := by
  obtain ⟨e0, l0, h0⟩ := mul_spec x86_64 (hashWord_lt hash 0) hd
  obtain ⟨e1, l1, h1⟩ := mul_spec x86_64 (hashWord_lt hash 1) hd
  obtain ⟨e2, l2, h2⟩ := mul_spec x86_64 (hashWord_lt hash 2) hd
  obtain ⟨e3, l3, -⟩ := mul_spec x86_64 (hashWord_lt hash 3) hd
  rw [hashValue_mul]
  simp only [checkHash]
  generalize mul x86_64 (hashWord hash 0) difficulty = m0 at e0 l0 h0 ⊢
  generalize mul x86_64 (hashWord hash 1) difficulty = m1 at e1 l1 h1 ⊢
  generalize mul x86_64 (hashWord hash 2) difficulty = m2 at e2 l2 h2 ⊢
  generalize mul x86_64 (hashWord hash 3) difficulty = m3 at e3 l3 ⊢
  obtain ⟨low0, cur⟩ := m0
  obtain ⟨low1, high1⟩ := m1
  obtain ⟨low2, high2⟩ := m2
  obtain ⟨top, high3⟩ := m3
  dsimp only at e0 l0 h0 e1 l1 h1 e2 l2 h2 e3 l3 ⊢
  split_ifs with hhigh
  · -- rejected at once: the top word's product alone reaches `2 ^ 256`
    simp only [false_iff, not_lt]
    omega
  · -- accepted unless the last column carries
    have c1 := cadd_toNat h0 l1
    have c2 := cadc_toNat (cadd cur low1) h1 l2
    have c3 := cadc_toNat (cadc high1 low2 (cadd cur low1)) h2 l3
    generalize cadc high2 top (cadc high1 low2 (cadd cur low1)) = carry at c3 ⊢
    generalize (cadc high1 low2 (cadd cur low1)).toNat = n2 at c2 c3
    generalize (cadd cur low1).toNat = n1 at c1 c2
    cases carry
    · simp only [Bool.not_false, true_iff, Bool.toNat_false] at c3 ⊢
      omega
    · simp only [Bool.not_true, Bool.false_eq_true, false_iff, not_lt, Bool.toNat_true] at c3 ⊢
      omega

theorem check_hash_iff_difficulty_thousand : (1000 : ℕ) < 2 ^ 64 ∧
    (checkHash false nullHash 1000 = true ↔ hashValue nullHash * 1000 < 2 ^ 256) :=
  ⟨by norm_num, check_hash_iff false nullHash (by norm_num)⟩

end Bittube.CryptonoteBasic
