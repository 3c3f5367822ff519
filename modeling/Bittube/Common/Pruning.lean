import Bittube.CryptonoteConfig
import Bittube.Lib.FixedRadix

/-!
# Pruning stripes (`common/pruning.cpp`)

A pruned node keeps the prunable data of one stripe of the chain. The heights are cut into runs
of `CRYPTONOTE_PRUNING_STRIPE_SIZE` blocks, the runs are numbered cyclically from 1 to
`2 ^ log_stripes`, and a node whose seed carries stripe `s` keeps the runs numbered `s` and every
block of the last `CRYPTONOTE_PRUNING_TIP_BLOCKS` (`has_unpruned_block`). A seed packs
`log_stripes` in bits 7 to 9 and `stripe - 1` in bits 0 to 6; the seed 0 keeps every block.

The stripe of a run is one more than the lowest base-`2 ^ log_stripes` digit of the run's
index, so `get_next_unpruned_block_height` is `FixedRadix.nextWithDigit` on run indexes, clamped
at the tip. `get_next_pruned_block_height` finds the end of the current run as the next unpruned
block of the next stripe, and so inherits that clamp.

Heights are `uint64_t`: `block_height + CRYPTONOTE_PRUNING_TIP_BLOCKS` wraps where nothing bounds
the height before the sum. In `get_next_unpruned_block_height` the two checks at the top keep
every sum far below `2 ^ 64`. For every seed `make_pruning_seed` admits, the next unpruned height
is then the first height on whose block the node keeps. The next pruned height is the first
pruned height on, or the chain height when there is none, except when the current run ends
within the tip blocks: there the clamp makes it a block the node keeps.
-/

namespace Bittube.Common.Pruning

/-! ## Seeds -/

/-- `PRUNING_SEED_LOG_STRIPES_SHIFT`. -/
def pruningSeedLogStripesShift : ℕ := 7

/-- `PRUNING_SEED_LOG_STRIPES_MASK`. -/
def pruningSeedLogStripesMask : ℕ := 0x7

/-- `PRUNING_SEED_STRIPE_SHIFT`. -/
def pruningSeedStripeShift : ℕ := 0

/-- `PRUNING_SEED_STRIPE_MASK`. -/
def pruningSeedStripeMask : ℕ := 0x7f

/-- `get_pruning_log_stripes(pruning_seed)`. -/
def getPruningLogStripes (pruningSeed : ℕ) : ℕ :=
  (pruningSeed >>> pruningSeedLogStripesShift) &&& pruningSeedLogStripesMask

/-- `get_pruning_stripe(pruning_seed)`: 0 for the seed 0. -/
def getPruningStripe (pruningSeed : ℕ) : ℕ :=
  if pruningSeed = 0 then 0
  else 1 + ((pruningSeed >>> pruningSeedStripeShift) &&& pruningSeedStripeMask)

/-- `make_pruning_seed(stripe, log_stripes)`, which throws when a check fails. -/
def makePruningSeed (stripe logStripes : ℕ) : Except String ℕ :=
  if ¬logStripes ≤ pruningSeedLogStripesMask then .error "log_stripes out of range"
  else if ¬(stripe > 0 ∧ stripe ≤ 1 <<< logStripes) then .error "stripe out of range"
  else .ok ((logStripes <<< pruningSeedLogStripesShift) ||| ((stripe - 1) <<< pruningSeedStripeShift))

/-! ## Heights -/

/-- `get_pruning_stripe(block_height, blockchain_height, log_stripes)`: 0 for a block of the tip,
else the stripe of the block's run, as a `uint32_t`. -/
def getPruningStripeAt (blockHeight blockchainHeight logStripes : ℕ) : ℕ :=
  if (blockHeight + cryptonotePruningTipBlocks) % 2 ^ 64 ≥ blockchainHeight then 0
  else (((blockHeight / cryptonotePruningStripeSize) &&& ((1 <<< logStripes) - 1)) + 1) % 2 ^ 32

/-- `has_unpruned_block(block_height, blockchain_height, pruning_seed)`. -/
def hasUnprunedBlock (blockHeight blockchainHeight pruningSeed : ℕ) : Bool :=
  let stripe := getPruningStripe pruningSeed
  if stripe = 0 then true
  else
    let logStripes := getPruningLogStripes pruningSeed
    let blockStripe := getPruningStripeAt blockHeight blockchainHeight logStripes
    blockStripe == 0 || blockStripe == stripe

/-- `get_next_unpruned_block_height(block_height, blockchain_height, pruning_seed)`. Its checks
(`CHECK_AND_ASSERT_MES`) return `block_height`; a seed without `log_stripes` is read with
`CRYPTONOTE_PRUNING_LOG_STRIPES`. -/
def getNextUnprunedBlockHeight (blockHeight blockchainHeight pruningSeed : ℕ) : ℕ :=
  -- "block_height too large"
  if ¬blockHeight ≤ cryptonoteMaxBlockNumber + 1 then blockHeight
  -- "blockchain_height too large"
  else if ¬blockchainHeight ≤ cryptonoteMaxBlockNumber + 1 then blockHeight
  else
    let stripe := getPruningStripe pruningSeed
    if stripe = 0 then blockHeight
    else if blockHeight + cryptonotePruningTipBlocks ≥ blockchainHeight then blockHeight
    else
      let seedLogStripes := getPruningLogStripes pruningSeed
      let logStripes := if seedLogStripes ≠ 0 then seedLogStripes else cryptonotePruningLogStripes
      let mask := (1 <<< logStripes) - 1
      let blockPruningStripe := ((blockHeight / cryptonotePruningStripeSize) &&& mask) + 1
      if blockPruningStripe = stripe then blockHeight
      else
        let cycles := (blockHeight / cryptonotePruningStripeSize) >>> logStripes
        let cycleStart := cycles + if stripe > blockPruningStripe then 0 else 1
        let h := cycleStart * (cryptonotePruningStripeSize <<< logStripes) +
          (stripe - 1) * cryptonotePruningStripeSize
        if h + cryptonotePruningTipBlocks > blockchainHeight then
          if blockchainHeight < cryptonotePruningTipBlocks then 0
          else blockchainHeight - cryptonotePruningTipBlocks
        -- "h < block_height, unexpected"
        else if ¬h ≥ blockHeight then blockHeight
        else h

/-- `get_next_pruned_block_height(block_height, blockchain_height, pruning_seed)`: within a run
of the seed's stripe, the next unpruned block of the next stripe. It throws what
`make_pruning_seed` throws. -/
def getNextPrunedBlockHeight (blockHeight blockchainHeight pruningSeed : ℕ) : Except String ℕ :=
  let stripe := getPruningStripe pruningSeed
  if stripe = 0 then .ok blockchainHeight
  else if (blockHeight + cryptonotePruningTipBlocks) % 2 ^ 64 ≥ blockchainHeight then
    .ok blockchainHeight
  else
    let seedLogStripes := getPruningLogStripes pruningSeed
    let logStripes := if seedLogStripes ≠ 0 then seedLogStripes else cryptonotePruningLogStripes
    let mask := (1 <<< logStripes) - 1
    let blockPruningSeed := ((blockHeight / cryptonotePruningStripeSize) &&& mask) + 1
    if blockPruningSeed ≠ stripe then .ok blockHeight
    else
      let nextStripe := 1 + (blockPruningSeed &&& mask)
      (makePruningSeed nextStripe logStripes).bind fun seed =>
        .ok (getNextUnprunedBlockHeight blockHeight blockchainHeight seed)

/-! ## What a seed holds -/

/-- A seed `make_pruning_seed` builds holds `log_stripes` above `stripe - 1`. -/
theorem makePruningSeed_ok {stripe logStripes seed : ℕ}
    (hmake : makePruningSeed stripe logStripes = .ok seed) :
    logStripes ≤ 7 ∧ 0 < stripe ∧ stripe ≤ 2 ^ logStripes ∧
      seed = logStripes * 128 + (stripe - 1) := by
  unfold makePruningSeed at hmake
  split_ifs at hmake with hlog hstripe
  simp only [Nat.one_shiftLeft] at hstripe
  simp only [Except.ok.injEq] at hmake
  have hfit : stripe - 1 < 2 ^ 7 :=
    calc stripe - 1 < 2 ^ logStripes := by omega
      _ ≤ 2 ^ 7 := Nat.pow_le_pow_right (by norm_num) hlog
  refine ⟨hlog, hstripe.1, hstripe.2, ?_⟩
  rw [← hmake, pruningSeedLogStripesShift, pruningSeedStripeShift, Nat.shiftLeft_zero,
    ← Nat.shiftLeft_add_eq_or_of_lt hfit, Nat.shiftLeft_eq]

section Seed

variable {stripe logStripes seed : ℕ}

theorem getPruningLogStripes_of_makePruningSeed
    (hmake : makePruningSeed stripe logStripes = .ok seed) :
    getPruningLogStripes seed = logStripes := by
  obtain ⟨hlog, hpos, hstripe, rfl⟩ := makePruningSeed_ok hmake
  have hfit : stripe - 1 < 128 :=
    calc stripe - 1 < 2 ^ logStripes := by omega
      _ ≤ 2 ^ 7 := Nat.pow_le_pow_right (by norm_num) hlog
  have hmask : ∀ x : ℕ, x &&& 0x7 = x % 2 ^ 3 := fun x => Nat.and_two_pow_sub_one_eq_mod x 3
  rw [getPruningLogStripes, pruningSeedLogStripesShift, pruningSeedLogStripesMask, hmask,
    Nat.shiftRight_eq_div_pow]
  omega

/-- Only the seed 0 carries `log_stripes = 0`: it admits only stripe 1. -/
theorem logStripes_pos_of_makePruningSeed (hmake : makePruningSeed stripe logStripes = .ok seed)
    (hseed : seed ≠ 0) : 0 < logStripes := by
  obtain ⟨-, hpos, hstripe, rfl⟩ := makePruningSeed_ok hmake
  rcases Nat.eq_zero_or_pos logStripes with hzero | hlog
  · subst hzero
    simp only [pow_zero] at hstripe
    omega
  · exact hlog

theorem getPruningStripe_of_makePruningSeed (hmake : makePruningSeed stripe logStripes = .ok seed)
    (hseed : seed ≠ 0) : getPruningStripe seed = stripe := by
  obtain ⟨hlog, hpos, hstripe, rfl⟩ := makePruningSeed_ok hmake
  have hfit : stripe - 1 < 128 :=
    calc stripe - 1 < 2 ^ logStripes := by omega
      _ ≤ 2 ^ 7 := Nat.pow_le_pow_right (by norm_num) hlog
  have hmask : ∀ x : ℕ, x &&& 0x7f = x % 2 ^ 7 := fun x => Nat.and_two_pow_sub_one_eq_mod x 7
  rw [getPruningStripe, if_neg hseed, pruningSeedStripeShift, pruningSeedStripeMask,
    Nat.shiftRight_zero, hmask]
  omega

/-- A stripe and `log_stripes` that pass the checks make the seed with these two fields. -/
theorem makePruningSeed_eq (hlog : logStripes ≤ 7) (hpos : 0 < stripe)
    (hstripe : stripe ≤ 2 ^ logStripes) :
    makePruningSeed stripe logStripes = .ok (logStripes * 128 + (stripe - 1)) := by
  have hfit : stripe - 1 < 2 ^ 7 :=
    calc stripe - 1 < 2 ^ logStripes := by omega
      _ ≤ 2 ^ 7 := Nat.pow_le_pow_right (by norm_num) hlog
  have hchecks : ¬¬logStripes ≤ pruningSeedLogStripesMask ∧
      ¬¬(stripe > 0 ∧ stripe ≤ 1 <<< logStripes) := by
    simp only [pruningSeedLogStripesMask, Nat.one_shiftLeft, not_not]
    exact ⟨hlog, hpos, hstripe⟩
  rw [makePruningSeed, if_neg hchecks.1, if_neg hchecks.2, pruningSeedLogStripesShift,
    pruningSeedStripeShift, Nat.shiftLeft_zero, ← Nat.shiftLeft_add_eq_or_of_lt hfit,
    Nat.shiftLeft_eq]

end Seed

/-! ## Which blocks a node keeps -/

/-- The checks of `get_next_unpruned_block_height` keep a height far from wrapping. -/
theorem add_tip_lt_of_le_max {h : ℕ} (hh : h ≤ cryptonoteMaxBlockNumber + 1) :
    h + cryptonotePruningTipBlocks < 2 ^ 64 := by
  unfold cryptonoteMaxBlockNumber at hh
  unfold cryptonotePruningTipBlocks
  omega

/-- Off the tip, the stripe of a height is one more than the lowest base-`2 ^ log_stripes` digit
of its run. -/
theorem getPruningStripeAt_eq {h H l : ℕ} (hwrap : h + cryptonotePruningTipBlocks < 2 ^ 64)
    (hl : l ≤ 7) :
    getPruningStripeAt h H l = if H ≤ h + cryptonotePruningTipBlocks then 0
      else h / cryptonotePruningStripeSize % 2 ^ l + 1 := by
  have hdigit : h / cryptonotePruningStripeSize % 2 ^ l + 1 < 2 ^ 32 := by
    have hmod := Nat.mod_lt (h / cryptonotePruningStripeSize) (Nat.two_pow_pos l)
    have hpow : 2 ^ l ≤ 2 ^ 7 := Nat.pow_le_pow_right (by norm_num) hl
    omega
  rw [getPruningStripeAt, Nat.mod_eq_of_lt hwrap, Nat.one_shiftLeft,
    Nat.and_two_pow_sub_one_eq_mod, Nat.mod_eq_of_lt hdigit]

/-- A node whose seed has no stripe keeps every block. -/
theorem hasUnprunedBlock_of_stripe_zero {h H seed : ℕ} (hs : getPruningStripe seed = 0) :
    hasUnprunedBlock h H seed = true := by
  simp [hasUnprunedBlock, hs]

/-- A node keeps a block of the tip, and a block of a run of its stripe. -/
theorem hasUnprunedBlock_iff {stripe logStripes seed h H : ℕ}
    (hmake : makePruningSeed stripe logStripes = .ok seed) (hseed : seed ≠ 0)
    (hwrap : h + cryptonotePruningTipBlocks < 2 ^ 64) :
    hasUnprunedBlock h H seed = true ↔
      H ≤ h + cryptonotePruningTipBlocks ∨
        h / cryptonotePruningStripeSize % 2 ^ logStripes = stripe - 1 := by
  obtain ⟨hlog, hpos, -, -⟩ := makePruningSeed_ok hmake
  simp only [hasUnprunedBlock, getPruningStripe_of_makePruningSeed hmake hseed,
    getPruningLogStripes_of_makePruningSeed hmake, getPruningStripeAt_eq hwrap hlog]
  split_ifs with hzero htip
  · omega
  · simp [htip]
  · simp only [false_or, beq_iff_eq, Bool.or_eq_true, htip]
    omega

/-! ## The next block a node keeps -/

/-- The start of the stripe's next run, as `get_next_unpruned_block_height` computes it from the
cycle of the current run, is `nextWithDigit` on run indexes. -/
theorem cycleStart_eq {q n stripe : ℕ} (hne : q % n ≠ stripe - 1) (hpos : 0 < stripe) :
    (q / n + if stripe > q % n + 1 then 0 else 1) * (cryptonotePruningStripeSize * n) +
        (stripe - 1) * cryptonotePruningStripeSize =
      FixedRadix.nextWithDigit n (stripe - 1) q * cryptonotePruningStripeSize := by
  have hite : (if stripe > q % n + 1 then 0 else 1) = if stripe - 1 < q % n then 1 else 0 := by
    split_ifs <;> omega
  rw [hite, FixedRadix.nextWithDigit]
  ring

/-- A height is below the start of the next run. -/
theorem lt_next_run (h : ℕ) :
    h < (h / cryptonotePruningStripeSize + 1) * cryptonotePruningStripeSize := by
  rw [Nat.mul_comm]
  exact Nat.lt_mul_div_succ h (by unfold cryptonotePruningStripeSize; norm_num)

/-- `r` is the first height from `h` on whose block a node with the seed keeps. -/
structure IsNextUnpruned (h H seed r : ℕ) : Prop where
  le : h ≤ r
  unpruned : hasUnprunedBlock r H seed = true
  least : ∀ h', h ≤ h' → h' < r → hasUnprunedBlock h' H seed = false

/-- `r` is the first height from `h` on whose block a node with the seed prunes, or the chain
height when the node keeps every block from `h` up to the top. -/
structure IsNextPruned (h H seed r : ℕ) : Prop where
  le : h ≤ r
  le_height : r ≤ H
  unpruned : ∀ h', h ≤ h' → h' < r → hasUnprunedBlock h' H seed = true
  pruned : r < H → hasUnprunedBlock r H seed = false

theorem IsNextPruned.top {h H seed : ℕ} (hle : h ≤ H)
    (hall : ∀ h', h ≤ h' → h' < H → hasUnprunedBlock h' H seed = true) :
    IsNextPruned h H seed H :=
  ⟨hle, le_rfl, hall, fun hlt => absurd hlt (lt_irrefl H)⟩

theorem IsNextUnpruned.refl {h H seed : ℕ} (hkept : hasUnprunedBlock h H seed = true) :
    IsNextUnpruned h H seed h :=
  ⟨le_rfl, hkept, fun _ hle hlt => absurd hle (Nat.not_le.2 hlt)⟩

section Next

variable {stripe logStripes seed h H : ℕ}

/-- Out of the stripe, the stripe's next run starts past the height. -/
theorem lt_nextWithDigit_run (hpos : 0 < stripe) (hstripe : stripe ≤ 2 ^ logStripes)
    (hd : h / cryptonotePruningStripeSize % 2 ^ logStripes ≠ stripe - 1) :
    h < FixedRadix.nextWithDigit (2 ^ logStripes) (stripe - 1)
      (h / cryptonotePruningStripeSize) * cryptonotePruningStripeSize := by
  have hnext := FixedRadix.lt_nextWithDigit (Nat.two_pow_pos logStripes)
    (by omega : stripe - 1 < 2 ^ logStripes) hd
  exact Nat.lt_of_lt_of_le (lt_next_run h) (Nat.mul_le_mul_right _ hnext)

/-- Off the tip, the blocks from `h` up to the start of the stripe's next run are pruned. -/
theorem hasUnprunedBlock_before_next (hmake : makePruningSeed stripe logStripes = .ok seed)
    (hseed : seed ≠ 0) {h' : ℕ} (hwrap : h' + cryptonotePruningTipBlocks < 2 ^ 64)
    (hle : h ≤ h') (hlt : h' < FixedRadix.nextWithDigit (2 ^ logStripes) (stripe - 1)
      (h / cryptonotePruningStripeSize) * cryptonotePruningStripeSize)
    (hoff : h' + cryptonotePruningTipBlocks < H) :
    hasUnprunedBlock h' H seed = false := by
  have hsize : 0 < cryptonotePruningStripeSize := by unfold cryptonotePruningStripeSize; norm_num
  have hrun := (Nat.div_lt_iff_lt_mul hsize).2 hlt
  have hne := FixedRadix.mod_ne_of_lt_nextWithDigit (Nat.div_le_div_right hle) hrun
  rw [← Bool.not_eq_true, hasUnprunedBlock_iff hmake hseed hwrap]
  omega

/-- The start of the stripe's next run is kept. -/
theorem hasUnprunedBlock_next (hmake : makePruningSeed stripe logStripes = .ok seed)
    (hseed : seed ≠ 0) (hwrap : FixedRadix.nextWithDigit (2 ^ logStripes) (stripe - 1)
      (h / cryptonotePruningStripeSize) * cryptonotePruningStripeSize +
      cryptonotePruningTipBlocks < 2 ^ 64) :
    hasUnprunedBlock (FixedRadix.nextWithDigit (2 ^ logStripes) (stripe - 1)
      (h / cryptonotePruningStripeSize) * cryptonotePruningStripeSize) H seed = true := by
  obtain ⟨-, hpos, hstripe, -⟩ := makePruningSeed_ok hmake
  have hsize : 0 < cryptonotePruningStripeSize := by unfold cryptonotePruningStripeSize; norm_num
  rw [hasUnprunedBlock_iff hmake hseed hwrap, Nat.mul_div_cancel _ hsize]
  exact .inr (FixedRadix.nextWithDigit_mod _ (by omega))

/-- Off the tip, `get_next_unpruned_block_height` for a seed with a stripe: the height itself in
a run of the stripe, else the start of the stripe's next run, clamped to `H - TIP`. -/
theorem getNextUnprunedBlockHeight_eq (hmake : makePruningSeed stripe logStripes = .ok seed)
    (hseed : seed ≠ 0) (hh : h ≤ cryptonoteMaxBlockNumber + 1)
    (hH : H ≤ cryptonoteMaxBlockNumber + 1) (hoff : h + cryptonotePruningTipBlocks < H) :
    getNextUnprunedBlockHeight h H seed =
      if h / cryptonotePruningStripeSize % 2 ^ logStripes = stripe - 1 then h
      else if H < FixedRadix.nextWithDigit (2 ^ logStripes) (stripe - 1)
          (h / cryptonotePruningStripeSize) * cryptonotePruningStripeSize +
          cryptonotePruningTipBlocks then H - cryptonotePruningTipBlocks
      else FixedRadix.nextWithDigit (2 ^ logStripes) (stripe - 1)
        (h / cryptonotePruningStripeSize) * cryptonotePruningStripeSize := by
  obtain ⟨hlog, hpos, hstripe, -⟩ := makePruningSeed_ok hmake
  have hlogNe : logStripes ≠ 0 := (logStripes_pos_of_makePruningSeed hmake hseed).ne'
  have hstripeNe : stripe ≠ 0 := by omega
  have hoff' : ¬H ≤ h + cryptonotePruningTipBlocks := by omega
  simp only [getNextUnprunedBlockHeight, hh, hH, not_true_eq_false, if_false,
    getPruningStripe_of_makePruningSeed hmake hseed, getPruningLogStripes_of_makePruningSeed hmake,
    hstripeNe, ge_iff_le, hoff', ne_eq, hlogNe, not_false_eq_true, if_true, Nat.one_mul,
    Nat.and_two_pow_sub_one_eq_mod, Nat.shiftRight_eq_div_pow, Nat.shiftLeft_eq]
  by_cases hd : h / cryptonotePruningStripeSize % 2 ^ logStripes = stripe - 1
  · have hrun : h / cryptonotePruningStripeSize % 2 ^ logStripes + 1 = stripe := by omega
    rw [if_pos hrun, if_pos hd]
  · have hrun : ¬h / cryptonotePruningStripeSize % 2 ^ logStripes + 1 = stripe := by omega
    rw [if_neg hrun, if_neg hd, cycleStart_eq hd hpos]
    -- the stripe's next run starts past `h`, and off the tip the chain is longer than `TIP`
    have hpast := lt_nextWithDigit_run hpos hstripe hd
    have hlong : ¬H < cryptonotePruningTipBlocks := by omega
    rw [if_neg hlong, if_neg (not_not.2 hpast.le)]

/-- `get_next_unpruned_block_height` returns the first height from `h` on whose block the node
keeps, never past the start of the tip. -/
theorem get_next_unpruned_block_height_least (hh : h ≤ cryptonoteMaxBlockNumber + 1)
    (hH : H ≤ cryptonoteMaxBlockNumber + 1)
    (hseed : seed = 0 ∨ ∃ stripe logStripes, makePruningSeed stripe logStripes = .ok seed) :
    IsNextUnpruned h H seed (getNextUnprunedBlockHeight h H seed) ∧
      (cryptonotePruningTipBlocks ≤ H →
        getNextUnprunedBlockHeight h H seed ≤ max h (H - cryptonotePruningTipBlocks)) := by
  by_cases hzero : seed = 0
  · -- the seed 0 keeps everything: the height itself
    subst hzero
    have hs : getPruningStripe 0 = 0 := if_pos rfl
    have hr : getNextUnprunedBlockHeight h H 0 = h := by
      simp [getNextUnprunedBlockHeight, hh, hH, hs]
    rw [hr]
    exact ⟨IsNextUnpruned.refl (hasUnprunedBlock_of_stripe_zero hs), fun _ => le_max_left _ _⟩
  obtain ⟨stripe, logStripes, hmake⟩ := hseed.resolve_left hzero
  obtain ⟨-, hpos, hstripe, -⟩ := makePruningSeed_ok hmake
  have hwrap := add_tip_lt_of_le_max hh
  by_cases hoff : h + cryptonotePruningTipBlocks < H
  swap
  · -- a block of the tip: the height itself
    have hs : getPruningStripe seed ≠ 0 := by
      rw [getPruningStripe_of_makePruningSeed hmake hzero]
      omega
    have hr : getNextUnprunedBlockHeight h H seed = h := by
      simp [getNextUnprunedBlockHeight, hh, hH, hs, Nat.not_lt.1 hoff]
    rw [hr]
    exact ⟨IsNextUnpruned.refl ((hasUnprunedBlock_iff hmake hzero hwrap).2 (.inl (by omega))),
      fun _ => le_max_left _ _⟩
  rw [getNextUnprunedBlockHeight_eq hmake hzero hh hH hoff]
  split_ifs with hd hclamp
  · -- a block of a run of the stripe: the height itself
    exact ⟨IsNextUnpruned.refl ((hasUnprunedBlock_iff hmake hzero hwrap).2 (.inr hd)),
      fun _ => le_max_left _ _⟩
  · -- the next run starts in the tip: the first block of the tip
    have htipWrap := add_tip_lt_of_le_max (by omega : H - cryptonotePruningTipBlocks ≤
      cryptonoteMaxBlockNumber + 1)
    refine ⟨⟨by omega, (hasUnprunedBlock_iff hmake hzero htipWrap).2 (.inl (by omega)),
      fun h' hle hlt => hasUnprunedBlock_before_next hmake hzero
        (add_tip_lt_of_le_max (by omega)) hle (by omega) (by omega)⟩, fun _ => le_max_right _ _⟩
  · -- the start of the stripe's next run
    have hpast := lt_nextWithDigit_run hpos hstripe hd
    refine ⟨⟨hpast.le, hasUnprunedBlock_next hmake hzero (add_tip_lt_of_le_max (by omega)),
      fun h' hle hlt => hasUnprunedBlock_before_next hmake hzero
        (add_tip_lt_of_le_max (by omega)) hle hlt (by omega)⟩, fun _ => by omega⟩

theorem get_next_unpruned_block_height_least_second_stripe :
    IsNextUnpruned 0 10000000 385 (getNextUnprunedBlockHeight 0 10000000 385) ∧
      (cryptonotePruningTipBlocks ≤ 10000000 →
        getNextUnprunedBlockHeight 0 10000000 385 ≤ max 0 (10000000 - cryptonotePruningTipBlocks)) :=
  get_next_unpruned_block_height_least (by decide) (by decide) (.inr ⟨2, 3, by decide⟩)

/-! ## The end of the current run -/

/-- Off the tip, the blocks of the run of a kept height are kept. -/
theorem hasUnprunedBlock_same_run (hmake : makePruningSeed stripe logStripes = .ok seed)
    (hseed : seed ≠ 0) (hd : h / cryptonotePruningStripeSize % 2 ^ logStripes = stripe - 1)
    {h' : ℕ} (hwrap : h' + cryptonotePruningTipBlocks < 2 ^ 64) (hle : h ≤ h')
    (hlt : h' < (h / cryptonotePruningStripeSize + 1) * cryptonotePruningStripeSize) :
    hasUnprunedBlock h' H seed = true := by
  have hsize : 0 < cryptonotePruningStripeSize := by unfold cryptonotePruningStripeSize; norm_num
  have hrun : h' / cryptonotePruningStripeSize = h / cryptonotePruningStripeSize :=
    le_antisymm (Nat.lt_succ_iff.1 ((Nat.div_lt_iff_lt_mul hsize).2 hlt))
      (Nat.div_le_div_right hle)
  rw [hasUnprunedBlock_iff hmake hseed hwrap, hrun]
  exact .inr hd

/-- In a run of the stripe, `get_next_pruned_block_height` asks for the next unpruned block of
the next stripe, which starts the next run, clamped to `H - TIP`. -/
theorem getNextPrunedBlockHeight_in_run (hmake : makePruningSeed stripe logStripes = .ok seed)
    (hseed : seed ≠ 0) (hh : h ≤ cryptonoteMaxBlockNumber + 1)
    (hH : H ≤ cryptonoteMaxBlockNumber + 1) (hoff : h + cryptonotePruningTipBlocks < H)
    (hd : h / cryptonotePruningStripeSize % 2 ^ logStripes = stripe - 1) :
    getNextPrunedBlockHeight h H seed =
      .ok (if H < (h / cryptonotePruningStripeSize + 1) * cryptonotePruningStripeSize +
          cryptonotePruningTipBlocks then H - cryptonotePruningTipBlocks
        else (h / cryptonotePruningStripeSize + 1) * cryptonotePruningStripeSize) := by
  obtain ⟨hlog, hpos, hstripe, -⟩ := makePruningSeed_ok hmake
  have hlogpos := logStripes_pos_of_makePruningSeed hmake hseed
  have hstripeNe : stripe ≠ 0 := by omega
  have hoff' : ¬H ≤ h + cryptonotePruningTipBlocks := by omega
  have hrun : h / cryptonotePruningStripeSize % 2 ^ logStripes + 1 = stripe := by omega
  -- the next stripe, cyclically, is the stripe of the next run
  have htwo : 2 ≤ 2 ^ logStripes := Nat.le_self_pow hlogpos.ne' 2
  have hnext : stripe % 2 ^ logStripes = (h / cryptonotePruningStripeSize + 1) % 2 ^ logStripes := by
    rw [← hrun, Nat.mod_add_mod]
  have hmake' := makePruningSeed_eq hlog (by omega : 0 < 1 + stripe % 2 ^ logStripes)
    (by have := Nat.mod_lt stripe (Nat.two_pow_pos logStripes); omega)
  have hseed' : logStripes * 128 + (1 + stripe % 2 ^ logStripes - 1) ≠ 0 := by omega
  simp only [getNextPrunedBlockHeight, getPruningStripe_of_makePruningSeed hmake hseed,
    getPruningLogStripes_of_makePruningSeed hmake, hstripeNe,
    Nat.mod_eq_of_lt (add_tip_lt_of_le_max hh), ge_iff_le, hoff', ne_eq, hlogpos.ne',
    not_false_eq_true, if_true, if_false, Nat.one_shiftLeft, Nat.and_two_pow_sub_one_eq_mod, hrun,
    not_true_eq_false, hmake', Except.bind]
  rw [getNextUnprunedBlockHeight_eq hmake' hseed' hh hH hoff, Nat.add_sub_cancel_left, hnext,
    if_neg (FixedRadix.mod_ne_succ_mod htwo _), FixedRadix.nextWithDigit_succ htwo]

/-- When the run of a kept height reaches into the tip, every block from it to the top is
kept. -/
theorem hasUnprunedBlock_to_top (hmake : makePruningSeed stripe logStripes = .ok seed)
    (hseed : seed ≠ 0) (hH : H ≤ cryptonoteMaxBlockNumber + 1)
    (hd : h / cryptonotePruningStripeSize % 2 ^ logStripes = stripe - 1)
    (hend : H ≤ (h / cryptonotePruningStripeSize + 1) * cryptonotePruningStripeSize +
      cryptonotePruningTipBlocks) {h' : ℕ} (hle : h ≤ h') (hlt : h' < H) :
    hasUnprunedBlock h' H seed = true := by
  have hwrap := add_tip_lt_of_le_max (by omega : h' ≤ cryptonoteMaxBlockNumber + 1)
  rcases Nat.lt_or_ge h' ((h / cryptonotePruningStripeSize + 1) * cryptonotePruningStripeSize)
    with hrun | hpast
  · exact hasUnprunedBlock_same_run hmake hseed hd hwrap hle hrun
  · exact (hasUnprunedBlock_iff hmake hseed hwrap).2 (.inl (by omega))

/-- When the run of `h` reaches into the tip, `get_next_pruned_block_height` returns the first
block of the tip. -/
theorem getNextPrunedBlockHeight_of_end_in_tip
    (hmake : makePruningSeed stripe logStripes = .ok seed) (hseed : seed ≠ 0)
    (hh : h ≤ cryptonoteMaxBlockNumber + 1) (hH : H ≤ cryptonoteMaxBlockNumber + 1)
    (hoff : h + cryptonotePruningTipBlocks < H)
    (hd : h / cryptonotePruningStripeSize % 2 ^ logStripes = stripe - 1)
    (hend : H ≤ (h / cryptonotePruningStripeSize + 1) * cryptonotePruningStripeSize +
      cryptonotePruningTipBlocks) :
    getNextPrunedBlockHeight h H seed = .ok (H - cryptonotePruningTipBlocks) := by
  rw [getNextPrunedBlockHeight_in_run hmake hseed hh hH hoff hd]
  split_ifs with hclamp
  · rfl
  · -- the run ends exactly where the tip starts
    exact congrArg Except.ok (by omega)

/-- `get_next_pruned_block_height` returns the first pruned height from `h` on, or the chain
height when every block up to the top is kept; except when the run of `h` reaches into the tip,
where it returns the first block of the tip, which is kept. -/
theorem getNextPrunedBlockHeight_cases (hlt : h < H) (hH : H ≤ cryptonoteMaxBlockNumber + 1)
    (hseed : seed = 0 ∨ ∃ stripe logStripes, makePruningSeed stripe logStripes = .ok seed) :
    ∃ r, getNextPrunedBlockHeight h H seed = .ok r ∧
      (IsNextPruned h H seed r ∨
        (r = H - cryptonotePruningTipBlocks ∧
          H ≤ (h / cryptonotePruningStripeSize + 1) * cryptonotePruningStripeSize +
            cryptonotePruningTipBlocks ∧
          ∀ h', h ≤ h' → h' < H → hasUnprunedBlock h' H seed = true)) := by
  have hh : h ≤ cryptonoteMaxBlockNumber + 1 := by omega
  have hwrap := add_tip_lt_of_le_max hh
  by_cases hzero : seed = 0
  · -- the seed 0 keeps everything: the chain height
    subst hzero
    have hs : getPruningStripe 0 = 0 := if_pos rfl
    exact ⟨H, by simp [getNextPrunedBlockHeight, hs],
      .inl (IsNextPruned.top hlt.le fun _ _ _ => hasUnprunedBlock_of_stripe_zero hs)⟩
  obtain ⟨stripe, logStripes, hmake⟩ := hseed.resolve_left hzero
  obtain ⟨-, hpos, -, -⟩ := makePruningSeed_ok hmake
  have hlogpos := logStripes_pos_of_makePruningSeed hmake hzero
  have hs : getPruningStripe seed ≠ 0 := by
    rw [getPruningStripe_of_makePruningSeed hmake hzero]
    omega
  by_cases hoff : h + cryptonotePruningTipBlocks < H
  swap
  · -- from a block of the tip, every block to the top is kept: the chain height
    refine ⟨H, by rw [getNextPrunedBlockHeight, Nat.mod_eq_of_lt hwrap]; simp [hs, Nat.not_lt.1 hoff],
      .inl (IsNextPruned.top hlt.le fun h' hle hlt' => ?_)⟩
    exact (hasUnprunedBlock_iff hmake hzero (add_tip_lt_of_le_max (by omega))).2 (.inl (by omega))
  by_cases hd : h / cryptonotePruningStripeSize % 2 ^ logStripes = stripe - 1
  swap
  · -- a pruned block: the height itself
    have hpruned : hasUnprunedBlock h H seed = false := by
      rw [← Bool.not_eq_true, hasUnprunedBlock_iff hmake hzero hwrap]
      omega
    have hout : ¬h / cryptonotePruningStripeSize % 2 ^ logStripes + 1 = stripe := by omega
    refine ⟨h, ?_, .inl ⟨le_rfl, hlt.le, fun _ hle hlt' => absurd hle (Nat.not_le.2 hlt'),
      fun _ => hpruned⟩⟩
    rw [getNextPrunedBlockHeight, Nat.mod_eq_of_lt hwrap]
    simp [hpos.ne', Nat.not_le.2 hoff,
      getPruningStripe_of_makePruningSeed hmake hzero, getPruningLogStripes_of_makePruningSeed hmake,
      hlogpos.ne', Nat.one_shiftLeft, Nat.and_two_pow_sub_one_eq_mod, hout]
  by_cases hend : H ≤ (h / cryptonotePruningStripeSize + 1) * cryptonotePruningStripeSize +
      cryptonotePruningTipBlocks
  · -- the run reaches into the tip: the first block of the tip, though every block is kept
    exact ⟨H - cryptonotePruningTipBlocks,
      getNextPrunedBlockHeight_of_end_in_tip hmake hzero hh hH hoff hd hend,
      .inr ⟨rfl, hend, fun h' hle hlt' => hasUnprunedBlock_to_top hmake hzero hH hd hend hle hlt'⟩⟩
  · -- the next run starts off the tip, in the next stripe: its first block is pruned
    have hsize : 0 < cryptonotePruningStripeSize := by unfold cryptonotePruningStripeSize; norm_num
    have htwo : 2 ≤ 2 ^ logStripes := Nat.le_self_pow hlogpos.ne' 2
    have hnextWrap := add_tip_lt_of_le_max (by omega : (h / cryptonotePruningStripeSize + 1) *
      cryptonotePruningStripeSize ≤ cryptonoteMaxBlockNumber + 1)
    refine ⟨(h / cryptonotePruningStripeSize + 1) * cryptonotePruningStripeSize, ?_,
      .inl ⟨(lt_next_run h).le, by omega, fun h' hle hlt' => ?_, fun _ => ?_⟩⟩
    · rw [getNextPrunedBlockHeight_in_run hmake hzero hh hH hoff hd, if_neg (by omega)]
    · exact hasUnprunedBlock_same_run hmake hzero hd (add_tip_lt_of_le_max (by omega)) hle hlt'
    · have hne := FixedRadix.mod_ne_succ_mod htwo (h / cryptonotePruningStripeSize)
      rw [← Bool.not_eq_true, hasUnprunedBlock_iff hmake hzero hnextWrap,
        Nat.mul_div_cancel _ hsize]
      omega

/-- Near the top `get_next_pruned_block_height` returns a kept block: when the run of a kept
height `h` reaches into the tip, the result is `H - TIP`, the first block of the tip, and every
block from `h` to the top is kept. -/
theorem get_next_pruned_block_height_tip_clamp (hH : H ≤ cryptonoteMaxBlockNumber + 1)
    (hmake : makePruningSeed stripe logStripes = .ok seed) (hseed : seed ≠ 0)
    (hoff : h + cryptonotePruningTipBlocks < H) (hkept : hasUnprunedBlock h H seed = true)
    (hend : H ≤ (h / cryptonotePruningStripeSize + 1) * cryptonotePruningStripeSize +
      cryptonotePruningTipBlocks) :
    getNextPrunedBlockHeight h H seed = .ok (H - cryptonotePruningTipBlocks) ∧
      H - cryptonotePruningTipBlocks < H ∧
      hasUnprunedBlock (H - cryptonotePruningTipBlocks) H seed = true ∧
      ∀ h', h ≤ h' → h' < H → hasUnprunedBlock h' H seed = true := by
  have hh : h ≤ cryptonoteMaxBlockNumber + 1 := by omega
  have htip : 0 < cryptonotePruningTipBlocks := by unfold cryptonotePruningTipBlocks; norm_num
  -- off the tip, a kept height is in a run of the stripe
  have hd : h / cryptonotePruningStripeSize % 2 ^ logStripes = stripe - 1 :=
    ((hasUnprunedBlock_iff hmake hseed (add_tip_lt_of_le_max hh)).1 hkept).resolve_left (by omega)
  have hall := fun h' (hle : h ≤ h') (hlt : h' < H) =>
    hasUnprunedBlock_to_top hmake hseed hH hd hend hle hlt
  exact ⟨getNextPrunedBlockHeight_of_end_in_tip hmake hseed hh hH hoff hd hend, by omega,
    hall _ (by omega) (by omega), hall⟩

theorem get_next_pruned_block_height_tip_clamp_at_6000 :
    getNextPrunedBlockHeight 0 6000 384 = .ok (6000 - cryptonotePruningTipBlocks) ∧
      6000 - cryptonotePruningTipBlocks < 6000 ∧
      hasUnprunedBlock (6000 - cryptonotePruningTipBlocks) 6000 384 = true ∧
      ∀ h', 0 ≤ h' → h' < 6000 → hasUnprunedBlock h' 6000 384 = true :=
  get_next_pruned_block_height_tip_clamp (by decide) (by decide : makePruningSeed 1 3 = .ok 384)
    (by decide) (by decide) (by decide) (by decide)

end Next

end Bittube.Common.Pruning
