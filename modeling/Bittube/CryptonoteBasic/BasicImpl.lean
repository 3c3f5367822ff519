import Bittube.Epee.IntUtil
import Bittube.CryptonoteConfig

/-!
# The block reward (`cryptonote_basic/cryptonote_basic_impl.cpp`)

`get_block_reward` derives the base reward of a block from the coins emitted so far, clamps it
from below by the tail subsidy, and scales it down when the block is heavier than the median
(`get_penalized_amount`, through the 128-bit helpers of `int-util.h`). The fee is added to the
penalized base reward in `uint64_t`, itself penalized before `BLOCK_MAJOR_VERSION_4`.

Every `uint64_t` and `size_t` operation that can wrap keeps its `% 2 ^ 64`. The source also
computes a second quotient, through `div128_64`, that only its two `assert`s read. The reward
is a 64-bit word, so a caller may compare it with a sum of output amounts taken in `uint64_t`.
For medians below `2 ^ 32` it is the base reward and the fee, scaled by `w * (2m - w) / m ^ 2`
above the median; above, the `uint32_t` cast of the median breaks the scaling. At a weight equal
to the median the asserted quotient is the base reward itself, and `assert(reward_lo <
base_reward)` fails.
-/

namespace Bittube.CryptonoteBasic

open Bittube.Epee.IntUtil

/-- `get_min_block_weight(version)`: the full reward zone. -/
def getMinBlockWeight (version : UInt8) : ℕ :=
  if version < blockMajorVersion2 then cryptonoteBlockGrantedFullRewardZoneV1
  else if version < blockMajorVersionFuture then cryptonoteBlockGrantedFullRewardZoneV2
  else cryptonoteBlockGrantedFullRewardZoneV5

/-- `get_penalized_amount(amount, median_weight, current_block_weight)`:
`amount * (2m - w) * w / m / m` through a 128-bit product and two 128-by-32-bit divisions,
where `w` exceeds the median `m`. -/
def getPenalizedAmount (amount medianWeight currentBlockWeight : ℕ) : ℕ :=
  if amount = 0 then amount
  else if currentBlockWeight ≤ medianWeight then amount
  else
    let multiplicand := (2 * medianWeight + 2 ^ 64 - currentBlockWeight) % 2 ^ 64
    let multiplicand := multiplicand * currentBlockWeight % 2 ^ 64
    let product := mul128 amount multiplicand
    -- `static_cast<uint32_t>(median_weight)`
    let q := div128_32 product.2 product.1 (medianWeight % 2 ^ 32)
    let q := div128_32 q.2.1 q.2.2 (medianWeight % 2 ^ 32)
    q.2.2

/-- The median `get_block_reward` works with: raised to the full reward zone ("make it
soft"). -/
def softMedianWeight (medianWeight : ℕ) (version : UInt8) : ℕ :=
  let fullRewardZone := getMinBlockWeight version
  if medianWeight < fullRewardZone then fullRewardZone else medianWeight

/-- The base reward of `get_block_reward`: the coins left, shifted right by the emission speed
factor of the version's target, with the tail emission of `BLOCK_MAJOR_VERSION_1` and the final
subsidy as floors, and 1 from `HF_VERSION_EOL`. -/
def getBaseReward (alreadyGeneratedCoins : ℕ) (version : UInt8) : ℕ :=
  let target := if version < blockMajorVersion2 then difficultyTargetV1 else difficultyTargetV2
  let targetMinutes := target / 60
  let emissionSpeedFactor := emissionSpeedFactorPerMinute - (targetMinutes - 1)
  let baseReward :=
    ((moneySupply + 2 ^ 64 - alreadyGeneratedCoins) % 2 ^ 64) >>> emissionSpeedFactor
  let badTailEmissionReward := 1000000000000
  let baseReward :=
    if alreadyGeneratedCoins ≤ 1636000000000000 ∧ version = blockMajorVersion1 ∧
        ((alreadyGeneratedCoins + badTailEmissionReward) % 2 ^ 64 ≥ moneySupply ∨
          baseReward < badTailEmissionReward) then badTailEmissionReward
    else baseReward
  let baseReward :=
    if baseReward < finalSubsidyPerMinute * targetMinutes then finalSubsidyPerMinute * targetMinutes
    else baseReward
  if version ≥ hfVersionEol then 1 else baseReward

/-- `get_block_reward(median_weight, current_block_weight, already_generated_coins, fee, reward,
version)`: the reward, or `none` where the block is too big and the source returns `false`. -/
def getBlockReward (medianWeight currentBlockWeight alreadyGeneratedCoins fee : ℕ)
    (version : UInt8) : Option ℕ :=
  let medianWeight := softMedianWeight medianWeight version
  if currentBlockWeight > 2 * medianWeight % 2 ^ 64 then none
  else
    let baseReward := getBaseReward alreadyGeneratedCoins version
    let reward := getPenalizedAmount baseReward medianWeight currentBlockWeight
    some ((reward + if version < blockMajorVersion4 then
      getPenalizedAmount fee medianWeight currentBlockWeight else fee) % 2 ^ 64)

/-- The quotient `get_block_reward` computes for its two `assert`s, whatever the weight: the
base reward times `(2m - w) * w`, divided by the median twice through `div128_64`, as
`(reward_hi, reward_lo)`. -/
def getBlockRewardQuotient (baseReward medianWeight currentBlockWeight : ℕ) : ℕ × ℕ :=
  let multiplicand := (2 * medianWeight % 2 ^ 64 + 2 ^ 64 - currentBlockWeight) % 2 ^ 64
  let multiplicand := multiplicand * currentBlockWeight % 2 ^ 64
  let product := mul128 baseReward multiplicand
  let reward := div128_64 product.2 product.1 medianWeight
  div128_64 reward.1 reward.2 medianWeight

/-- The two `assert`s of `get_block_reward` past its size check: `reward_hi == 0` and
`reward_lo < base_reward`. -/
def getBlockRewardAssertsHold (medianWeight currentBlockWeight alreadyGeneratedCoins : ℕ)
    (version : UInt8) : Bool :=
  let medianWeight := softMedianWeight medianWeight version
  let baseReward := getBaseReward alreadyGeneratedCoins version
  let reward := getBlockRewardQuotient baseReward medianWeight currentBlockWeight
  reward.1 == 0 && decide (reward.2 < baseReward)

/-- The penalty factor `w * (2m - w) / m ^ 2` is at most one. -/
theorem mul_two_mul_sub_le (m w : ℕ) : w * (2 * m - w) ≤ m * m := by
  rcases le_or_gt w (2 * m) with hw | hw
  · zify [hw]
    nlinarith [sq_nonneg ((w : ℤ) - m)]
  · rw [Nat.sub_eq_zero_of_le hw.le, Nat.mul_zero]
    exact Nat.zero_le _

/-- Above the median, the penalty factor is below one. -/
theorem mul_two_mul_sub_lt {m w : ℕ} (hm : 0 < m) (hmw : m < w) : w * (2 * m - w) < m * m := by
  rcases le_or_gt w (2 * m) with hw | hw
  · zify [hw]
    nlinarith [mul_pos (show (0 : ℤ) < w - m by omega) (show (0 : ℤ) < w - m by omega)]
  · rw [Nat.sub_eq_zero_of_le hw.le, Nat.mul_zero]
    exact Nat.mul_pos hm hm

/-- The penalty as a formula over the naturals: an amount is paid in full up to the median `m`
and scaled by `w * (2m - w) / m ^ 2` above it. -/
def penaltyFormula (m w x : ℕ) : ℕ := if w ≤ m then x else x * (w * (2 * m - w)) / (m * m)

theorem penalty_le (x m w : ℕ) : x * (w * (2 * m - w)) / (m * m) ≤ x :=
  Nat.div_le_of_le_mul (by
    rw [Nat.mul_comm (m * m)]
    exact Nat.mul_le_mul_left x (mul_two_mul_sub_le m w))

theorem penalty_lt {x m w : ℕ} (hx : 0 < x) (hm : 0 < m) (hmw : m < w) :
    x * (w * (2 * m - w)) / (m * m) < x := by
  rw [Nat.div_lt_iff_lt_mul (Nat.mul_pos hm hm)]
  exact Nat.mul_lt_mul_of_pos_left (mul_two_mul_sub_lt hm hmw) hx

/-- `get_penalized_amount` with a median below `2 ^ 32` and a weight at most twice it: the
amount, or, above the median, the amount times `w * (2m - w) / m ^ 2` rounded down. The
multiplicand stays below `m ^ 2`, so it does not wrap, and the two divisions by `m` are one by
`m ^ 2`. -/
theorem getPenalizedAmount_eq {amount m w : ℕ} (hamount : amount < 2 ^ 64) (hm : 0 < m)
    (hm32 : m < 2 ^ 32) (hw : w ≤ 2 * m) :
    getPenalizedAmount amount m w = penaltyFormula m w amount := by
  unfold getPenalizedAmount penaltyFormula
  by_cases h0 : amount = 0
  · simp [h0]
  by_cases hwm : w ≤ m
  · simp [h0, hwm]
  rw [if_neg h0, if_neg hwm, if_neg hwm]
  dsimp only
  have hsq : m * m < 2 ^ 64 :=
    calc m * m < 2 ^ 32 * 2 ^ 32 := Nat.mul_lt_mul'' hm32 hm32
      _ = 2 ^ 64 := by norm_num
  have hk := mul_two_mul_sub_le m w
  -- the multiplicand of the source is the penalty factor's numerator
  have hmul : (2 * m + 2 ^ 64 - w) % 2 ^ 64 * w % 2 ^ 64 = w * (2 * m - w) := by
    have hsub : (2 * m - w) % 2 ^ 64 = 2 * m - w := Nat.mod_eq_of_lt (by omega)
    rw [show 2 * m + 2 ^ 64 - w = 2 * m - w + 2 ^ 64 by omega, Nat.add_mod_right, hsub,
      Nat.mul_comm (2 * m - w) w, Nat.mod_eq_of_lt (by omega)]
  rw [hmul, Nat.mod_eq_of_lt hm32]
  obtain ⟨hprod, hlo, hhi⟩ := mul128_spec hamount (show w * (2 * m - w) < 2 ^ 64 by omega)
  obtain ⟨hhi₁, hlo₁⟩ := div128_32_lt hhi hlo hm hm32
  have hq₁ := div128_32_quotient hhi hlo hm hm32
  have hq₂ := div128_32_quotient hhi₁ hlo₁ hm hm32
  rw [hq₁, hprod, Nat.div_div_eq_div_mul] at hq₂
  -- the quotient is at most the amount, so its high word is zero
  have hle := penalty_le amount m w
  omega

theorem softMedianWeight_eq_max (medianWeight : ℕ) (version : UInt8) :
    softMedianWeight medianWeight version = max medianWeight (getMinBlockWeight version) := by
  simp only [softMedianWeight]
  split_ifs <;> omega

theorem getMinBlockWeight_pos_lt (version : UInt8) :
    0 < getMinBlockWeight version ∧ getMinBlockWeight version < 2 ^ 32 := by
  unfold getMinBlockWeight
  split_ifs <;> decide

theorem getBaseReward_lt (alreadyGeneratedCoins : ℕ) (version : UInt8) :
    getBaseReward alreadyGeneratedCoins version < 2 ^ 64 := by
  have hshift : ∀ k, ((moneySupply + 2 ^ 64 - alreadyGeneratedCoins) % 2 ^ 64) >>> k < 2 ^ 64 :=
    fun k => by
      rw [Nat.shiftRight_eq_div_pow]
      exact lt_of_le_of_lt (Nat.div_le_self _ _) (Nat.mod_lt _ (Nat.two_pow_pos 64))
  dsimp only [getBaseReward]
  split_ifs <;> first | decide | exact hshift _

/-! ## The reward -/

/-- **The block reward is the penalized base reward plus the fee.** For a median below
`2 ^ 32` and a 64-bit fee, with `m` the median raised to the full reward zone:
`get_block_reward` refuses exactly the blocks heavier than `2m`; otherwise it pays the base
reward and the fee (itself penalized before `BLOCK_MAJOR_VERSION_4`), each scaled by
`w * (2m - w) / m ^ 2` above the median, summed in `uint64_t`; the scaling never raises an
amount, and lowers every positive one above the median. -/
theorem get_block_reward_penalized (medianWeight currentBlockWeight alreadyGeneratedCoins fee : ℕ)
    (version : UInt8) (hmedian : medianWeight < 2 ^ 32) (hfee : fee < 2 ^ 64) :
    (getBlockReward medianWeight currentBlockWeight alreadyGeneratedCoins fee version = none ↔
        2 * max medianWeight (getMinBlockWeight version) < currentBlockWeight) ∧
      (∀ reward, getBlockReward medianWeight currentBlockWeight alreadyGeneratedCoins fee
          version = some reward →
        reward = (penaltyFormula (max medianWeight (getMinBlockWeight version)) currentBlockWeight
            (getBaseReward alreadyGeneratedCoins version) +
          if version < blockMajorVersion4 then
            penaltyFormula (max medianWeight (getMinBlockWeight version)) currentBlockWeight fee
          else fee) % 2 ^ 64) ∧
      (∀ x, penaltyFormula (max medianWeight (getMinBlockWeight version)) currentBlockWeight x ≤
        x) ∧
      (max medianWeight (getMinBlockWeight version) < currentBlockWeight → ∀ x, 0 < x →
        penaltyFormula (max medianWeight (getMinBlockWeight version)) currentBlockWeight x < x) := by
  set m := max medianWeight (getMinBlockWeight version)
  obtain ⟨hzpos, hzlt⟩ := getMinBlockWeight_pos_lt version
  have hsoft : softMedianWeight medianWeight version = m := softMedianWeight_eq_max _ _
  have hmpos : 0 < m := lt_of_lt_of_le hzpos (le_max_right _ _)
  have hm32 : m < 2 ^ 32 := max_lt hmedian hzlt
  have h2m : 2 * m % 2 ^ 64 = 2 * m := Nat.mod_eq_of_lt (by omega)
  -- on an admitted weight the source's penalty is the formula
  have hpen : ∀ x < 2 ^ 64, currentBlockWeight ≤ 2 * m →
      getPenalizedAmount x m currentBlockWeight = penaltyFormula m currentBlockWeight x :=
    fun x hx hw => getPenalizedAmount_eq hx hmpos hm32 hw
  refine ⟨?_, fun reward h => ?_, fun x => ?_, fun hmw x hx => ?_⟩
  · simp only [getBlockReward, hsoft, h2m]
    split_ifs with hw <;> simp [hw]
  · simp only [getBlockReward, hsoft, h2m, Option.ite_none_left_eq_some,
      Option.some.injEq] at h
    obtain ⟨hw, rfl⟩ := h
    rw [hpen _ (getBaseReward_lt _ _) (not_lt.1 hw), hpen _ hfee (not_lt.1 hw)]
  · unfold penaltyFormula
    split_ifs
    · exact le_rfl
    · exact penalty_le _ _ _
  · unfold penaltyFormula
    rw [if_neg (by omega)]
    exact penalty_lt hx hmpos hmw

/-- A block of version 4 half again as heavy as the full reward zone, with a fee. -/
theorem get_block_reward_penalized_heavy_block :
    (0 : ℕ) < 2 ^ 32 ∧ (1000 : ℕ) < 2 ^ 64 ∧
      (getBlockReward 0 1500000 0 1000 4 = none ↔
          2 * max 0 (getMinBlockWeight 4) < 1500000) ∧
        (∀ reward, getBlockReward 0 1500000 0 1000 4 = some reward →
          reward = (penaltyFormula (max 0 (getMinBlockWeight 4)) 1500000 (getBaseReward 0 4) +
            if (4 : UInt8) < blockMajorVersion4 then
              penaltyFormula (max 0 (getMinBlockWeight 4)) 1500000 1000
            else 1000) % 2 ^ 64) ∧
        (∀ x, penaltyFormula (max 0 (getMinBlockWeight 4)) 1500000 x ≤ x) ∧
        (max 0 (getMinBlockWeight 4) < 1500000 → ∀ x, 0 < x →
          penaltyFormula (max 0 (getMinBlockWeight 4)) 1500000 x < x) :=
  ⟨by norm_num, by norm_num,
    get_block_reward_penalized 0 1500000 0 1000 4 (by norm_num) (by norm_num)⟩

/-- A median of `2 ^ 32 + 1` is cast to 1 as the divisor of `get_penalized_amount`, and the
multiplicand wraps: a block just above the median is paid many times its base reward. -/
theorem get_block_reward_median_above_32_bits :
    ∃ reward, getBlockReward (2 ^ 32 + 1) (2 ^ 32 + 2) 0 0 4 = some reward ∧
      getBaseReward 0 4 < reward := by
  refine ⟨_, rfl, ?_⟩
  decide

/-- At a weight equal to the median the quotient of the `assert`s is the base reward itself,
so `reward_lo < base_reward` fails. -/
theorem getBlockRewardQuotient_at_median {baseReward m : ℕ} (hbase : baseReward < 2 ^ 64)
    (hm : 0 < m) (hm32 : m < 2 ^ 32) :
    getBlockRewardQuotient baseReward m m = (0, baseReward) := by
  have hsq : m * m < 2 ^ 64 :=
    calc m * m < 2 ^ 32 * 2 ^ 32 := Nat.mul_lt_mul'' hm32 hm32
      _ = 2 ^ 64 := by norm_num
  have hmul : (2 * m % 2 ^ 64 + 2 ^ 64 - m) % 2 ^ 64 * m % 2 ^ 64 = m * m := by
    rw [Nat.mod_eq_of_lt (show 2 * m < 2 ^ 64 by omega),
      show 2 * m + 2 ^ 64 - m = m + 2 ^ 64 by omega, Nat.add_mod_right,
      Nat.mod_eq_of_lt (show m < 2 ^ 64 by omega), Nat.mod_eq_of_lt hsq]
  obtain ⟨hprod, -, -⟩ := mul128_spec hbase hsq
  -- the first division leaves `base * m`, below `2 ^ 128`
  have hq₁ : (mul128 baseReward (m * m)).2 * 2 ^ 64 + (mul128 baseReward (m * m)).1 =
      baseReward * m * m := by rw [hprod, Nat.mul_assoc]
  have hfirst : (baseReward * m * m) / m = baseReward * m := Nat.mul_div_cancel _ hm
  have hbm : baseReward * m < 2 ^ 128 :=
    calc baseReward * m < 2 ^ 64 * 2 ^ 32 := Nat.mul_lt_mul'' hbase hm32
      _ ≤ 2 ^ 128 := by norm_num
  simp only [getBlockRewardQuotient, hmul]
  set p := mul128 baseReward (m * m)
  set q := div128_64 p.2 p.1 m
  have hw₁ : q.1 * 2 ^ 64 + q.2 = baseReward * m := by
    rw [div128_64_quotient (by rw [hq₁, hfirst]; exact hbm), hq₁, hfirst]
  -- the second division leaves the base reward, a single word
  have hw₂ : (div128_64 q.1 q.2 m).1 * 2 ^ 64 + (div128_64 q.1 q.2 m).2 = baseReward := by
    rw [div128_64_quotient (by rw [hw₁, Nat.mul_div_cancel _ hm]; omega), hw₁,
      Nat.mul_div_cancel _ hm]
  ext <;> simp only <;> omega

/-- **The `assert`s of `get_block_reward` fail at the median.** For every median below `2 ^ 32`
the block whose weight is the median raised to the full reward zone is admitted, and the
quotient the `assert`s read is the base reward itself, so `reward_lo < base_reward` is false. -/
theorem get_block_reward_assert_fails_at_median (medianWeight alreadyGeneratedCoins fee : ℕ)
    (version : UInt8) (hmedian : medianWeight < 2 ^ 32) :
    getBlockReward medianWeight (max medianWeight (getMinBlockWeight version))
        alreadyGeneratedCoins fee version ≠ none ∧
      getBlockRewardAssertsHold medianWeight (max medianWeight (getMinBlockWeight version))
        alreadyGeneratedCoins version = false := by
  set m := max medianWeight (getMinBlockWeight version)
  obtain ⟨hzpos, hzlt⟩ := getMinBlockWeight_pos_lt version
  have hsoft : softMedianWeight medianWeight version = m := softMedianWeight_eq_max _ _
  have hmpos : 0 < m := lt_of_lt_of_le hzpos (le_max_right _ _)
  have hm32 : m < 2 ^ 32 := max_lt hmedian hzlt
  have hquot := getBlockRewardQuotient_at_median (getBaseReward_lt alreadyGeneratedCoins version)
    hmpos hm32
  refine ⟨?_, ?_⟩
  · simp only [getBlockReward, hsoft, Nat.mod_eq_of_lt (show 2 * m < 2 ^ 64 by omega)]
    rw [if_neg (by omega)]
    exact Option.some_ne_none _
  · simp [getBlockRewardAssertsHold, hsoft, hquot]

/-- A block of version 4 whose weight is the full reward zone, the soft median of an empty
chain. -/
theorem get_block_reward_assert_fails_at_zone :
    (0 : ℕ) < 2 ^ 32 ∧ getBlockReward 0 (max 0 (getMinBlockWeight 4)) 0 0 4 ≠ none ∧
      getBlockRewardAssertsHold 0 (max 0 (getMinBlockWeight 4)) 0 4 = false :=
  ⟨by norm_num, get_block_reward_assert_fails_at_median 0 0 0 4 (by norm_num)⟩

end Bittube.CryptonoteBasic
