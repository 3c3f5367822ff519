import Mathlib.Data.Nat.Digits.Defs

/-!
# Decimal numerals in ASCII

Strings of the bytes `'0'` to `'9'`, most significant digit first. `value` reads such a string
through `Nat.ofDigits`, and `numeral` writes a number without leading zeros (`"0"` for zero)
through `Nat.digits`, as `std::to_string` writes an unsigned integer.

The value of a concatenation is made up of the values of its parts, zeros appended being a shift
and zeros prepended no change; a numeral reads back as its number, and a string of `k` digits
stands for a number below `10 ^ k`.
-/

namespace AsciiDecimal

/-- The byte of the decimal digit `d`. -/
def digitByte (d : ℕ) : UInt8 := UInt8.ofNat (48 + d)

/-- The byte is a decimal digit. -/
def isDigit (c : UInt8) : Bool := 48 ≤ c && c ≤ 57

/-- The value of a string of digits. -/
def value (s : List UInt8) : ℕ := Nat.ofDigits 10 (s.reverse.map fun c => c.toNat - 48)

/-- The numeral of `n`: its digits without leading zeros, and `"0"` for zero. -/
def numeral (n : ℕ) : List UInt8 :=
  if n = 0 then [digitByte 0] else (Nat.digits 10 n).reverse.map digitByte

theorem isDigit_iff (c : UInt8) : isDigit c = true ↔ 48 ≤ c.toNat ∧ c.toNat ≤ 57 := by
  simp [isDigit, UInt8.le_iff_toNat_le]

@[simp] theorem value_nil : value [] = 0 := rfl

/-- The value of a concatenation: the first part shifted by the length of the second. -/
theorem value_append (s t : List UInt8) :
    value (s ++ t) = value s * 10 ^ t.length + value t := by
  simp only [value, List.reverse_append, List.map_append, Nat.ofDigits_append, List.length_map,
    List.length_reverse]
  ring

@[simp] theorem value_zeros (k : ℕ) : value (List.replicate k 48) = 0 := by
  induction k with
  | zero => rfl
  | succ k ih =>
    rw [List.replicate_succ', value_append, ih]
    rfl

/-- Zeros appended shift the value. -/
theorem value_append_zeros (s : List UInt8) (k : ℕ) :
    value (s ++ List.replicate k 48) = value s * 10 ^ k := by
  rw [value_append, value_zeros, List.length_replicate, Nat.add_zero]

/-- Leading zeros do not change the value. -/
theorem value_zeros_append (k : ℕ) (s : List UInt8) :
    value (List.replicate k 48 ++ s) = value s := by
  rw [value_append, value_zeros, Nat.zero_mul, Nat.zero_add]

theorem all_isDigit_zeros (k : ℕ) : (List.replicate k 48).all isDigit = true := by
  simp [isDigit]

/-- Of two ways to write a string as a prefix followed by a run of one byte, the longer prefix is
the shorter one followed by part of the run. -/
theorem eq_append_replicate {X Y : List UInt8} {m n : ℕ} {c : UInt8}
    (h : X ++ List.replicate m c = Y ++ List.replicate n c) (hlen : Y.length ≤ X.length) :
    X = Y ++ List.replicate (X.length - Y.length) c := by
  have htake : X.take Y.length = Y := by
    have := congrArg (List.take Y.length) h
    rwa [List.take_append_of_le_length hlen, List.take_left] at this
  have hrest : X.drop Y.length ++ List.replicate m c = List.replicate n c := by
    have := congrArg (List.drop Y.length) h
    rwa [List.drop_append_of_le_length hlen, List.drop_left] at this
  have hrun : X.drop Y.length = List.replicate (X.length - Y.length) c := by
    rw [List.eq_replicate_iff]
    refine ⟨List.length_drop, fun b hb => ?_⟩
    have hmem : b ∈ List.replicate n c := hrest ▸ List.mem_append_left _ hb
    exact List.eq_of_mem_replicate hmem
  calc X = X.take Y.length ++ X.drop Y.length := (List.take_append_drop _ _).symm
    _ = Y ++ List.replicate (X.length - Y.length) c := by rw [htake, hrun]

/-- A fraction padded with zeros to `n` digits reads the same, whatever zeros it ended in. -/
theorem value_append_zeros_mul_pow {s : List UInt8} {k n : ℕ} (h : s.length + k ≤ n) :
    value (s ++ List.replicate k 48) * 10 ^ (n - (s.length + k)) =
      value s * 10 ^ (n - s.length) := by
  rw [value_append_zeros, Nat.mul_assoc, ← Nat.pow_add]
  congr 2
  omega

/-- Digits `D` followed by a fraction `F` padded to `n` digits. -/
theorem value_append_mul_pow (D : List UInt8) {F : List UInt8} {n : ℕ} (h : F.length ≤ n) :
    value (D ++ F) * 10 ^ (n - F.length) = value D * 10 ^ n + value F * 10 ^ (n - F.length) := by
  rw [value_append, Nat.add_mul, Nat.mul_assoc, ← Nat.pow_add, Nat.add_sub_cancel' h]

/-- A string of `k` digits stands for a number below `10 ^ k`. -/
theorem value_lt {s : List UInt8} (h : s.all isDigit = true) : value s < 10 ^ s.length := by
  have hlen : (s.reverse.map fun c => c.toNat - 48).length = s.length := by simp
  rw [value, ← hlen]
  apply Nat.ofDigits_lt_base_pow_length (by norm_num)
  intro d hd
  obtain ⟨c, hc, rfl⟩ := List.mem_map.mp hd
  have hdigit := (isDigit_iff c).mp (List.all_eq_true.mp h c (List.mem_reverse.mp hc))
  omega

theorem toNat_digitByte {d : ℕ} (hd : d < 10) : (digitByte d).toNat = 48 + d := by
  rw [digitByte, UInt8.toNat_ofNat_of_lt' (by simp [UInt8.size]; omega)]

theorem isDigit_digitByte {d : ℕ} (hd : d < 10) : isDigit (digitByte d) = true := by
  rw [isDigit_iff, toNat_digitByte hd]
  omega

theorem all_isDigit_numeral (n : ℕ) : (numeral n).all isDigit = true := by
  unfold numeral
  split_ifs
  · rfl
  · simp only [List.all_map, List.all_eq_true, List.mem_reverse, Function.comp_apply]
    exact fun d hd => isDigit_digitByte (Nat.digits_lt_base (by norm_num) hd)

/-- A numeral reads back as its number. -/
theorem value_numeral (n : ℕ) : value (numeral n) = n := by
  unfold numeral
  split_ifs with hn
  · rw [hn]
    rfl
  · have hdigits : ((Nat.digits 10 n).map fun d => (digitByte d).toNat - 48) = Nat.digits 10 n := by
      conv_rhs => rw [← List.map_id (Nat.digits 10 n)]
      refine List.map_congr_left fun d hd => ?_
      rw [toNat_digitByte (Nat.digits_lt_base (by norm_num) hd), id, Nat.add_sub_cancel_left]
    simp only [value, List.map_reverse, List.reverse_reverse, List.map_map, Function.comp_def]
    rw [hdigits, Nat.ofDigits_digits]

end AsciiDecimal
