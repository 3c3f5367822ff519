import Bittube.Lib.AsciiDecimal
import Mathlib.Data.List.Induction

/-!
# Amounts as text (`parse_amount`, `print_money`)

`print_money` writes an amount in atomic units as a decimal number with `default_decimal_point`
digits after the point, padding with zeros in front. `parse_amount` trims the string and looks
for its first point. While the fraction has more than `default_decimal_point` digits and ends in
`'0'`, it drops that zero. A fraction still too long is refused. Then the point is erased, the
fraction is padded with zeros to `default_decimal_point` digits, and the digits go through
`get_xtype_from_string`. That checks that every character is a digit and hands the string to
`boost::lexical_cast<uint64_t>`, which refuses a value that does not fit in 64 bits.

`default_decimal_point` is a global that only `set_default_decimal_point` changes, and that
accepts 8, 5 and 2: a `DecimalPoint` carries the value with that fact. `parse_amount` accepts
exactly the text `AmountText` describes and reads its value, so every amount `print_money`
writes is read back.
-/

namespace Bittube.CryptonoteBasic

open AsciiDecimal

/-- The values `set_default_decimal_point` accepts, which are those `default_decimal_point`
takes. -/
structure DecimalPoint where
  val : ℕ
  valid : val = 8 ∨ val = 5 ∨ val = 2

/-- `set_default_decimal_point(decimal_point)`: `none` where it throws. -/
def setDefaultDecimalPoint (decimalPoint : ℕ) : Option DecimalPoint :=
  if h : decimalPoint = 8 ∨ decimalPoint = 5 ∨ decimalPoint = 2 then some ⟨decimalPoint, h⟩
  else none

theorem DecimalPoint.pos (dp : DecimalPoint) : 0 < dp.val := by
  rcases dp.valid with h | h | h <;> omega

/-- `print_money(amount, decimal_point)`: `std::to_string(amount)`, with zeros in front up to
`decimal_point + 1` digits, and a point before the last `decimal_point` digits;
`(unsigned int)-1` stands for `default_decimal_point`. -/
def printMoney (defaultDecimalPoint : ℕ) (amount : UInt64) (decimalPoint : UInt32) :
    List UInt8 :=
  let decimalPoint := if decimalPoint = -1 then defaultDecimalPoint else decimalPoint.toNat
  let s := numeral amount.toNat
  let s :=
    if s.length < decimalPoint + 1 then List.replicate (decimalPoint + 1 - s.length) 48 ++ s
    else s
  if decimalPoint > 0 then
    s.take (s.length - decimalPoint) ++ 46 :: s.drop (s.length - decimalPoint)
  else s

/-- `std::isspace` in the classic locale, which `boost::algorithm::trim` tests: space, `\t`,
`\n`, `\v`, `\f` and `\r`. -/
def isSpace (c : UInt8) : Bool := c == 32 || (9 ≤ c && c ≤ 13)

/-- `boost::algorithm::trim`: the spaces at both ends dropped. -/
def trim (s : List UInt8) : List UInt8 :=
  ((s.dropWhile isSpace).reverse.dropWhile isSpace).reverse

/-- `boost::lexical_cast<uint64_t>` of a string of digits: its value, unless it does not fit in
64 bits or the string is empty. -/
def lexicalCastUint64 (s : List UInt8) : Option UInt64 :=
  if s ≠ [] ∧ value s < 2 ^ 64 then some (UInt64.ofNat (value s)) else none

/-- `string_tools::get_xtype_from_string<uint64_t>(val, str_id)`: every character a digit (the
table of `misc_utils::parse::isdigit` marks `'0'` to `'9'`), then `lexical_cast`. -/
def getXtypeFromString (strId : List UInt8) : Option UInt64 :=
  if strId.all isDigit then lexicalCastUint64 strId else none

/-- The loop of `parse_amount` that erases the last character while the fraction has more than
`default_decimal_point` digits and ends in `'0'`, counting `fraction_size` down. -/
def dropFractionZeros (defaultDecimalPoint : ℕ) : List UInt8 → ℕ → List UInt8 × ℕ
  | strAmount, 0 => (strAmount, 0)
  | strAmount, fractionSize + 1 =>
    if defaultDecimalPoint < fractionSize + 1 ∧ strAmount.getLast? = some 48 then
      dropFractionZeros defaultDecimalPoint strAmount.dropLast fractionSize
    else (strAmount, fractionSize + 1)

/-- The branch of `parse_amount` on the first point of the trimmed string: the zeros dropped, a
fraction still too long refused, and the point erased; the string left and `fraction_size`. -/
def removePoint (defaultDecimalPoint : ℕ) (strAmount : List UInt8) :
    Option (List UInt8 × ℕ) :=
  match strAmount.idxOf? 46 with
  | some pointIndex =>
    let dropped :=
      dropFractionZeros defaultDecimalPoint strAmount (strAmount.length - pointIndex - 1)
    if defaultDecimalPoint < dropped.2 then none
    else some (dropped.1.eraseIdx pointIndex, dropped.2)
  | none => some (strAmount, 0)

/-- The end of `parse_amount`: an empty string is refused, and the digits, padded with zeros to
`default_decimal_point` fraction digits, are converted. -/
def padAndConvert (defaultDecimalPoint : ℕ) (strAmount : List UInt8) (fractionSize : ℕ) :
    Option UInt64 :=
  if strAmount = [] then none
  else if fractionSize < defaultDecimalPoint then
    getXtypeFromString (strAmount ++ List.replicate (defaultDecimalPoint - fractionSize) 48)
  else getXtypeFromString strAmount

/-- `parse_amount(amount, str_amount)` with `default_decimal_point` at `defaultDecimalPoint`. -/
def parseAmount (defaultDecimalPoint : ℕ) (strAmount : List UInt8) : Option UInt64 :=
  (removePoint defaultDecimalPoint (trim strAmount)).bind fun r =>
    padAndConvert defaultDecimalPoint r.1 r.2

/-- `t` is the text of an amount of value `v` with `dp` decimals: digits `D` (at least one), or
digits `D`, a point and digits `F`, not both empty, where `F` is at most `dp` digits `F'`
followed by zeros. The value is `D` followed by `F'` padded to `dp` digits. -/
def AmountText (dp : ℕ) (t : List UInt8) (v : ℕ) : Prop :=
  ∃ (D F' : List UInt8) (z : ℕ), D.all isDigit ∧ F'.all isDigit ∧ F'.length ≤ dp ∧
    (t = D ∧ D ≠ [] ∧ F' = [] ∨
      t = D ++ 46 :: (F' ++ List.replicate z 48) ∧ (D ≠ [] ∨ F' ++ List.replicate z 48 ≠ [])) ∧
    v = value D * 10 ^ dp + value F' * 10 ^ (dp - F'.length)

/-! ## The steps of `parse_amount` -/

theorem isDigit_point : isDigit 46 = false := rfl

theorem point_not_mem {D : List UInt8} (hD : D.all isDigit = true) : 46 ∉ D := fun h =>
  absurd (List.all_eq_true.mp hD 46 h) (by rw [isDigit_point]; exact Bool.false_ne_true)

/-- `get_xtype_from_string` reads exactly the nonempty strings of digits whose value fits. -/
theorem getXtypeFromString_eq_some_iff {s : List UInt8} {a : UInt64} :
    getXtypeFromString s = some a ↔ s ≠ [] ∧ s.all isDigit = true ∧ value s = a.toNat := by
  unfold getXtypeFromString lexicalCastUint64
  by_cases hd : s.all isDigit = true
  · rw [if_pos hd]
    by_cases hs : s ≠ [] ∧ value s < 2 ^ 64
    · rw [if_pos hs, Option.some.injEq, ← UInt64.toNat_inj, UInt64.toNat_ofNat_of_lt' hs.2]
      exact ⟨fun h => ⟨hs.1, hd, h⟩, fun h => h.2.2⟩
    · -- too long for 64 bits: no amount has that value
      rw [if_neg hs]
      simp only [reduceCtorEq, false_iff, not_and]
      intro hne _ hv
      exact hs ⟨hne, hv ▸ a.toNat_lt_size⟩
  · simp [hd]

theorem padAndConvert_eq_some_iff {dp fractionSize : ℕ} {s : List UInt8} {a : UInt64}
    (hf : fractionSize ≤ dp) :
    padAndConvert dp s fractionSize = some a ↔
      s ≠ [] ∧ s.all isDigit = true ∧ value s * 10 ^ (dp - fractionSize) = a.toNat := by
  unfold padAndConvert
  split_ifs with hs hlt
  · simp [hs]
  · rw [getXtypeFromString_eq_some_iff, value_append_zeros, List.all_append, all_isDigit_zeros,
      Bool.and_true]
    simp [hs]
  · rw [getXtypeFromString_eq_some_iff, show dp - fractionSize = 0 by omega, Nat.pow_zero,
      Nat.mul_one]

/-- A string with a point splits at its first point. -/
theorem exists_first_point {t : List UInt8} (h : 46 ∈ t) :
    ∃ D R, t = D ++ 46 :: R ∧ 46 ∉ D := by
  induction t with
  | nil => exact absurd h List.not_mem_nil
  | cons c t ih =>
    by_cases hc : c = 46
    · exact ⟨[], t, by rw [hc]; rfl, List.not_mem_nil⟩
    · obtain ⟨D, R, rfl, hD⟩ := ih (by simpa [Ne.symm hc] using h)
      exact ⟨c :: D, R, rfl, by simp [Ne.symm hc, hD]⟩

theorem idxOf?_point {D : List UInt8} (R : List UInt8) (hD : 46 ∉ D) :
    (D ++ 46 :: R).idxOf? 46 = some D.length := by
  have hnone : D.idxOf? 46 = none := List.idxOf?_eq_none_iff.mpr hD
  simp only [List.idxOf?, List.findIdx?_append] at hnone ⊢
  simp [hnone, List.findIdx?_cons]

theorem point_split_unique {D R D' R' : List UInt8} (hD : 46 ∉ D) (hD' : 46 ∉ D')
    (h : D ++ 46 :: R = D' ++ 46 :: R') : D = D' ∧ R = R' := by
  have hlen : D.length = D'.length := by
    have hidx := idxOf?_point R hD
    rw [h, idxOf?_point R' hD', Option.some.injEq] at hidx
    exact hidx.symm
  obtain ⟨hDD, hRR⟩ := List.append_inj h hlen
  exact ⟨hDD, List.cons.inj hRR |>.2⟩

/-- What the zero-dropping loop leaves of the fraction `R` after `P`: `R` is what is left followed
by the zeros dropped; zeros are dropped only down to `dp` digits; and the loop stops at `dp`
digits or at a last digit other than `'0'`. -/
theorem dropFractionZeros_spec (dp : ℕ) (P R : List UInt8) :
    ∃ R' m, dropFractionZeros dp (P ++ R) R.length = (P ++ R', R'.length) ∧
      R = R' ++ List.replicate m 48 ∧ (m = 0 ∨ dp ≤ R'.length) ∧
      (R'.length ≤ dp ∨ R'.getLast? ≠ some 48) := by
  induction R using List.reverseRec with
  | nil => exact ⟨[], 0, rfl, rfl, Or.inl rfl, Or.inl (Nat.zero_le _)⟩
  | append_singleton R c ih =>
    obtain ⟨R', m, hloop, hR, hdrop, hstop⟩ := ih
    have hlast : (P ++ (R ++ [c])).getLast? = some c := by simp
    rw [List.length_append, List.length_singleton, dropFractionZeros, hlast]
    by_cases hzero : dp < R.length + 1 ∧ some c = some 48
    · -- a zero beyond `dp` digits: erased, and the loop goes on with `R`
      rw [if_pos hzero, ← List.append_assoc, List.dropLast_concat, hloop]
      have hc : c = 48 := Option.some.inj hzero.2
      refine ⟨R', m + 1, rfl, by rw [hR, hc, List.append_assoc, List.replicate_succ'], ?_, hstop⟩
      rcases hdrop with rfl | h
      · -- nothing dropped before: what is left is `R`, which has at least `dp` digits
        rw [List.replicate_zero, List.append_nil] at hR
        exact Or.inr (hR ▸ Nat.le_of_lt_succ hzero.1)
      · exact Or.inr h
    · rw [if_neg hzero]
      refine ⟨R ++ [c], 0, by rw [List.length_append, List.length_singleton], by simp,
        Or.inl rfl, ?_⟩
      -- the loop stops here
      rw [List.length_append, List.length_singleton]
      simp only [List.getLast?_concat]
      by_cases hlen : dp < R.length + 1
      · exact Or.inr fun h => hzero ⟨hlen, h⟩
      · exact Or.inl (Nat.le_of_not_lt hlen)

/-- `removePoint` on a string whose first point is after `D`: the fraction `R` is what the loop
leaves followed by zeros, and the result is refused exactly when that is still too long. -/
theorem removePoint_point (dp : ℕ) {D : List UInt8} (R : List UInt8) (hD : 46 ∉ D) :
    ∃ R' m, R = R' ++ List.replicate m 48 ∧ (m = 0 ∨ dp ≤ R'.length) ∧
      (R'.length ≤ dp ∨ R'.getLast? ≠ some 48) ∧
      removePoint dp (D ++ 46 :: R) =
        if dp < R'.length then none else some (D ++ R', R'.length) := by
  obtain ⟨R', m, hloop, hR, hdrop, hstop⟩ := dropFractionZeros_spec dp (D ++ [46]) R
  refine ⟨R', m, hR, hdrop, hstop, ?_⟩
  have hsize : (D ++ 46 :: R).length - D.length - 1 = R.length := by simp
  have hsplit : D ++ [46] ++ R = D ++ 46 :: R := by simp
  have herase : (D ++ [46] ++ R').eraseIdx D.length = D ++ R' := by
    rw [List.append_assoc, List.eraseIdx_append_of_length_le (Nat.le_refl _)]
    simp
  unfold removePoint
  rw [idxOf?_point R hD]
  dsimp only
  rw [hsize, ← hsplit, hloop, herase]

theorem removePoint_of_not_mem {dp : ℕ} {t : List UInt8} (ht : 46 ∉ t) :
    removePoint dp t = some (t, 0) := by
  unfold removePoint
  rw [List.idxOf?_eq_none_iff.mpr ht]

/-! ## What `parse_amount` accepts -/

/-- Two ways of writing one fraction as at most `dp` digits followed by zeros read the same, and
both are digits. -/
theorem fraction_eq_of_append_zeros {R F : List UInt8} {m z dp : ℕ}
    (h : R ++ List.replicate m 48 = F ++ List.replicate z 48) (hF : F.all isDigit = true)
    (hRlen : R.length ≤ dp) (hFlen : F.length ≤ dp) :
    R.all isDigit = true ∧ value R * 10 ^ (dp - R.length) = value F * 10 ^ (dp - F.length) := by
  rcases le_total F.length R.length with hle | hle
  · -- `R` is `F` followed by zeros
    have hR := eq_append_replicate h hle
    have hk : F.length + (R.length - F.length) ≤ dp := by omega
    refine ⟨by rw [hR, List.all_append, hF, all_isDigit_zeros, Bool.and_self], ?_⟩
    rw [← value_append_zeros_mul_pow hk, ← hR, show F.length + (R.length - F.length) = R.length by
      omega]
  · -- `F` is `R` followed by zeros
    have hF' := eq_append_replicate h.symm hle
    have hk : R.length + (F.length - R.length) ≤ dp := by omega
    refine ⟨by rw [hF', List.all_append, Bool.and_eq_true] at hF; exact hF.1, ?_⟩
    rw [← value_append_zeros_mul_pow hk, ← hF', show R.length + (F.length - R.length) = F.length by
      omega]

/-- `parse_amount` accepts exactly the amount texts, and reads their value. -/
theorem parseAmount_eq_some_iff (dp : DecimalPoint) (s : List UInt8) (a : UInt64) :
    parseAmount dp.val s = some a ↔ AmountText dp.val (trim s) a.toNat := by
  unfold parseAmount
  generalize trim s = t
  by_cases hpoint : 46 ∈ t
  · obtain ⟨D, R, rfl, hD⟩ := exists_first_point hpoint
    obtain ⟨R', m, hR, hdrop, hstop, hremove⟩ := removePoint_point dp.val R hD
    rw [hremove]
    split_ifs with hlong
    · -- the fraction left is too long: it cannot be digits of at most `dp` followed by zeros
      simp only [Option.bind_none, reduceCtorEq, false_iff]
      rintro ⟨D', F', z, hD', -, hF'len, htext, -⟩
      rcases htext with ⟨heq, -, -⟩ | ⟨heq, -⟩
      · exact point_not_mem hD' (heq ▸ List.mem_append_right D List.mem_cons_self)
      · obtain ⟨-, hRF⟩ := point_split_unique hD (point_not_mem hD') heq
        have hR'eq := eq_append_replicate (hR ▸ hRF) (by omega)
        have hlast : R'.getLast? = some 48 := by
          rw [hR'eq, List.getLast?_append, List.getLast?_replicate, if_neg (by omega)]
          rfl
        rcases hstop with h | h
        · omega
        · exact h hlast
    · have hle : R'.length ≤ dp.val := Nat.le_of_not_lt hlong
      rw [Option.bind_some, padAndConvert_eq_some_iff hle, List.all_append, Bool.and_eq_true,
        value_append_mul_pow D hle]
      constructor
      · rintro ⟨hne, ⟨hDd, hR'd⟩, hvalue⟩
        refine ⟨D, R', m, hDd, hR'd, hle, Or.inr ⟨by rw [hR], ?_⟩, hvalue.symm⟩
        by_cases hDnil : D = []
        · refine Or.inr fun hnil => hne ?_
          rw [hDnil, (List.append_eq_nil_iff.mp hnil).1]
          rfl
        · exact Or.inl hDnil
      · rintro ⟨D', F', z, hD', hF', hF'len, htext, hvalue⟩
        rcases htext with ⟨heq, -, -⟩ | ⟨heq, hne⟩
        · exact absurd (heq ▸ List.mem_append_right D List.mem_cons_self) (point_not_mem hD')
        obtain ⟨rfl, hRF⟩ := point_split_unique hD (point_not_mem hD') heq
        obtain ⟨hR'd, hfrac⟩ := fraction_eq_of_append_zeros (hR ▸ hRF) hF' hle hF'len
        refine ⟨?_, ⟨hD', hR'd⟩, by rw [hfrac, hvalue]⟩
        -- the digits left are not empty: with no zeros dropped (`dp > 0`), `R'` is the fraction
        rintro hnil
        obtain ⟨rfl, rfl⟩ := List.append_eq_nil_iff.mp hnil
        have hm : m = 0 := hdrop.resolve_right (by have := dp.pos; simp only [List.length_nil]; omega)
        rw [hm, List.replicate_zero, List.append_nil] at hR
        rw [← hRF, hR] at hne
        simp at hne
  · rw [removePoint_of_not_mem hpoint, Option.bind_some,
      padAndConvert_eq_some_iff (Nat.zero_le _), Nat.sub_zero]
    constructor
    · rintro ⟨hne, hdigits, hvalue⟩
      exact ⟨t, [], 0, hdigits, rfl, Nat.zero_le _, Or.inl ⟨rfl, hne, rfl⟩, by simp [← hvalue]⟩
    · rintro ⟨D, F', z, hD, -, -, htext, hvalue⟩
      rcases htext with ⟨rfl, hne, rfl⟩ | ⟨rfl, -⟩
      · exact ⟨hne, hD, by simp [hvalue]⟩
      · exact absurd (List.mem_append_right D List.mem_cons_self) hpoint

/-! ## Printed amounts are read back -/

theorem isSpace_of_isDigit {c : UInt8} (h : isDigit c = true) : isSpace c = false := by
  have hc := (isDigit_iff c).mp h
  simp only [isSpace, Bool.or_eq_false_iff, beq_eq_false_iff_ne, Bool.and_eq_false_iff,
    decide_eq_false_iff_not, UInt8.le_iff_toNat_le, ne_eq, UInt8.ext_iff]
  simp only [UInt8.reduceToNat]
  omega

theorem dropWhile_isSpace {s : List UInt8} (h : ∀ c ∈ s, isSpace c = false) :
    s.dropWhile isSpace = s := by
  cases s with
  | nil => rfl
  | cons c s => rw [List.dropWhile_cons_of_neg (by simp [h c List.mem_cons_self])]

/-- A string without spaces is its own trim. -/
theorem trim_of_forall {s : List UInt8} (h : ∀ c ∈ s, isSpace c = false) : trim s = s := by
  unfold trim
  rw [dropWhile_isSpace h, dropWhile_isSpace (fun c hc => h c (List.mem_reverse.mp hc)),
    List.reverse_reverse]

/-- What `print_money` writes at `default_decimal_point`: the digits `P` of the amount, padded
with zeros to more than `dp` digits, with a point before the last `dp`. -/
theorem printMoney_default (dp : DecimalPoint) (a : UInt64) :
    ∃ P : List UInt8, P.all isDigit = true ∧ value P = a.toNat ∧ dp.val + 1 ≤ P.length ∧
      printMoney dp.val a (-1) =
        P.take (P.length - dp.val) ++ 46 :: P.drop (P.length - dp.val) := by
  unfold printMoney
  dsimp only
  rw [if_pos rfl, if_pos dp.pos]
  refine ⟨_, ?_, ?_, ?_, rfl⟩
  · split_ifs
    · rw [List.all_append, all_isDigit_zeros, all_isDigit_numeral, Bool.and_self]
    · exact all_isDigit_numeral _
  · split_ifs
    · rw [value_zeros_append, value_numeral]
    · exact value_numeral _
  · split_ifs with hshort
    · rw [List.length_append, List.length_replicate]
      omega
    · omega

/-- Every amount `print_money` writes is read back by `parse_amount`. -/
theorem parseAmount_printMoney (dp : DecimalPoint) (a : UInt64) :
    parseAmount dp.val (printMoney dp.val a (-1)) = some a := by
  obtain ⟨P, hdigits, hvalue, hlen, hprint⟩ := printMoney_default dp a
  rw [parseAmount_eq_some_iff, hprint]
  have hsplit := List.take_append_drop (P.length - dp.val) P
  have htake : (P.take (P.length - dp.val)).all isDigit = true := by
    rw [← hsplit, List.all_append, Bool.and_eq_true] at hdigits
    exact hdigits.1
  have hdrop : (P.drop (P.length - dp.val)).all isDigit = true := by
    rw [← hsplit, List.all_append, Bool.and_eq_true] at hdigits
    exact hdigits.2
  have hdroplen : (P.drop (P.length - dp.val)).length = dp.val := by
    rw [List.length_drop]
    omega
  -- digits and one point: nothing to trim
  have hnospace : ∀ c ∈ P.take (P.length - dp.val) ++ 46 :: P.drop (P.length - dp.val),
      isSpace c = false := by
    intro c hc
    rcases List.mem_append.mp hc with hc | hc
    · exact isSpace_of_isDigit (List.all_eq_true.mp htake c hc)
    · rcases List.mem_cons.mp hc with rfl | hc
      · rfl
      · exact isSpace_of_isDigit (List.all_eq_true.mp hdrop c hc)
  rw [trim_of_forall hnospace]
  refine ⟨P.take (P.length - dp.val), P.drop (P.length - dp.val), 0, htake, hdrop,
    hdroplen.le, Or.inr ⟨by rw [List.replicate_zero, List.append_nil], Or.inl ?_⟩, ?_⟩
  · -- at least one digit before the point
    intro hnil
    have := congrArg List.length hnil
    rw [List.length_take, List.length_nil] at this
    omega
  · calc a.toNat = value P := hvalue.symm
      _ = value (P.take (P.length - dp.val) ++ P.drop (P.length - dp.val)) := by rw [hsplit]
      _ = _ := by rw [value_append, hdroplen, Nat.sub_self, Nat.pow_zero, Nat.mul_one]

/-- Amounts as text: at every `default_decimal_point` that `set_default_decimal_point` allows,
every amount `print_money` writes is read back by `parse_amount`, and `parse_amount` accepts
exactly the amount texts, with their value. -/
theorem parse_amount_print_money_roundtrip (dp : DecimalPoint) :
    (∀ a : UInt64, parseAmount dp.val (printMoney dp.val a (-1)) = some a) ∧
      ∀ (s : List UInt8) (a : UInt64),
        parseAmount dp.val s = some a ↔ AmountText dp.val (trim s) a.toNat :=
  ⟨parseAmount_printMoney dp, parseAmount_eq_some_iff dp⟩

end Bittube.CryptonoteBasic
