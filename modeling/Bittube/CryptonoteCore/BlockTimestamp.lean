import Bittube.CryptonoteConfig
import Bittube.Epee.MiscLanguage

/-!
# The timestamp rule of a new block (`Blockchain::check_block_timestamp`)

A block may be at most `CRYPTONOTE_BLOCK_FUTURE_TIME_LIMIT` seconds ahead of the adjusted time,
and not earlier than the median of the timestamps of a window of recent blocks. The main chain
reads that window from the database in `check_block_timestamp(b, median_ts)`; an alternative
chain gathers its own blocks' timestamps and tops them up from the main chain with
`complete_timestamps_vector`; both then call `check_block_timestamp(timestamps, b, median_ts)`.

The main chain's index of the first block of the window is written
`h - get_current_hard_fork_version() < BLOCK_MAJOR_VERSION_FUTURE ? WINDOW : WINDOW_V2`: the
conditional takes the whole comparison as its test, so the index is 60 itself (or 11), not
`h - 60`. The alternative chain's window, by contrast, has the full size.
-/

namespace Bittube.CryptonoteCore

open Bittube.Epee.MiscUtils

/-- What `check_block_timestamp` reads of the blockchain: the timestamps of the stored blocks
(`m_db->get_block_timestamp(i)` for `i < m_db->height()`, a `uint64_t` height),
`get_current_hard_fork_version()` and `get_adjusted_time()`. -/
structure TimestampChainState where
  blockTimestamps : List ℕ
  currentHardForkVersion : UInt8
  adjustedTime : ℕ
  height_lt : blockTimestamps.length < 2 ^ 64

namespace TimestampChainState

/-- `m_db->height()`. -/
def height (chain : TimestampChainState) : ℕ := chain.blockTimestamps.length

/-- The window of the median: `BLOCKCHAIN_TIMESTAMP_CHECK_WINDOW` before
`BLOCK_MAJOR_VERSION_FUTURE`, `BLOCKCHAIN_TIMESTAMP_CHECK_WINDOW_V2` from it. -/
def timestampCheckWindow (chain : TimestampChainState) : ℕ :=
  if chain.currentHardForkVersion < blockMajorVersionFuture then blockchainTimestampCheckWindow
  else blockchainTimestampCheckWindowV2

end TimestampChainState

/-- `check_block_timestamp(timestamps, b, median_ts)`: refuse a block earlier than the median
of `timestamps`; the median is written to `median_ts` either way. -/
def checkBlockTimestampMedian (timestamps : List ℕ) (timestamp : ℕ) : Bool × ℕ :=
  let medianTs := median timestamps
  (!decide (timestamp < medianTs), medianTs)

/-- `check_block_timestamp(b, median_ts)` on the main chain, for a block with timestamp
`timestamp`: whether it is accepted, and `median_ts` after the call. -/
def checkBlockTimestamp (chain : TimestampChainState) (timestamp medianTs : ℕ) : Bool × ℕ :=
  let futureTimeLimit :=
    if chain.currentHardForkVersion < blockMajorVersionFuture then cryptonoteBlockFutureTimeLimit
    else cryptonoteBlockFutureTimeLimitV2
  if timestamp > (chain.adjustedTime + futureTimeLimit) % 2 ^ 64 then (false, medianTs)
  else if chain.height < chain.timestampCheckWindow then (true, medianTs)
  else
    -- `size_t offset = h - get_current_hard_fork_version() < BLOCK_MAJOR_VERSION_FUTURE ?
    -- BLOCKCHAIN_TIMESTAMP_CHECK_WINDOW : BLOCKCHAIN_TIMESTAMP_CHECK_WINDOW_V2`, with the
    -- difference taken in `uint64_t`
    let offset :=
      if (chain.height + 2 ^ 64 - chain.currentHardForkVersion.toNat) % 2 ^ 64 <
          blockMajorVersionFuture.toNat then blockchainTimestampCheckWindow
      else blockchainTimestampCheckWindowV2
    -- the loop `for (; offset < h; ++offset)` reads the timestamps of heights `offset .. h - 1`
    checkBlockTimestampMedian (chain.blockTimestamps.drop offset) timestamp

/-- `complete_timestamps_vector(start_top_height, timestamps)`: top `timestamps` up to the
window with the main chain's timestamps from height `start_top_height` down, one height above
`stop_offset` at the lowest; `none` where the source's check of `start_top_height` fails. -/
def completeTimestampsVector (chain : TimestampChainState) (startTopHeight : ℕ)
    (timestamps : List ℕ) : Option (List ℕ) :=
  if timestamps.length ≥ chain.timestampCheckWindow then some timestamps
  else
    let needElements := chain.timestampCheckWindow - timestamps.length
    if startTopHeight < chain.height then
      let stopOffset := if startTopHeight > needElements then startTopHeight - needElements else 0
      -- `while (start_top_height != stop_offset)` pushes heights `start_top_height` down to
      -- `stop_offset + 1`
      some (timestamps ++ (List.range (startTopHeight - stopOffset)).map fun i =>
        chain.blockTimestamps.getD (startTopHeight - i) 0)
    else none

/-! ## The window of the main chain -/

/-- The index of the first block of the window: 60 from the height `v` of the version up to
below `255 + v` (when `v` is below `BLOCK_MAJOR_VERSION_FUTURE`), and 11 elsewhere, where the
`uint64_t` difference is 255 or more, wrapped or not. -/
theorem checkBlockTimestamp_offset {chain : TimestampChainState}
    (hv : chain.currentHardForkVersion < blockMajorVersionFuture) :
    (if (chain.height + 2 ^ 64 - chain.currentHardForkVersion.toNat) % 2 ^ 64 <
        blockMajorVersionFuture.toNat then blockchainTimestampCheckWindow
      else blockchainTimestampCheckWindowV2) =
      if chain.currentHardForkVersion.toNat ≤ chain.height ∧
          chain.height < 255 + chain.currentHardForkVersion.toNat then 60 else 11 := by
  have hvle : chain.currentHardForkVersion.toNat < 255 := hv
  have hheight : chain.height < 2 ^ 64 := chain.height_lt
  have hfuture : blockMajorVersionFuture.toNat = 255 := rfl
  rw [hfuture]
  unfold blockchainTimestampCheckWindow blockchainTimestampCheckWindowV2
  by_cases hvh : chain.currentHardForkVersion.toNat ≤ chain.height
  · -- the difference does not wrap
    have hsub : (chain.height + 2 ^ 64 - chain.currentHardForkVersion.toNat) % 2 ^ 64 =
        chain.height - chain.currentHardForkVersion.toNat := by
      rw [Nat.sub_add_comm hvh, Nat.add_mod_right,
        Nat.mod_eq_of_lt (lt_of_le_of_lt (Nat.sub_le _ _) hheight)]
    rw [hsub]
    split_ifs <;> omega
  · -- the difference wraps to nearly `2 ^ 64`
    have hwrap : (chain.height + 2 ^ 64 - chain.currentHardForkVersion.toNat) % 2 ^ 64 =
        chain.height + 2 ^ 64 - chain.currentHardForkVersion.toNat :=
      Nat.mod_eq_of_lt (by omega)
    rw [hwrap]
    split_ifs <;> omega

/-- **The main chain's timestamp window.** For every chain of at least 60 blocks at a version
`v` below `BLOCK_MAJOR_VERSION_FUTURE` and every block not in the future,
`check_block_timestamp` accepts the block iff it is not earlier than the median of the
timestamps of the heights from 60 (from height `v` to below `255 + v`) or from 11 (elsewhere)
up to the top: the last 60 blocks only at height 120. -/
theorem check_block_timestamp_window (chain : TimestampChainState) (timestamp medianTs : ℕ)
    (hv : chain.currentHardForkVersion < blockMajorVersionFuture)
    (hh : blockchainTimestampCheckWindow ≤ chain.height)
    (hfuture : timestamp ≤ (chain.adjustedTime + cryptonoteBlockFutureTimeLimit) % 2 ^ 64) :
    (checkBlockTimestamp chain timestamp medianTs).1 = decide (median (chain.blockTimestamps.drop
      (if chain.currentHardForkVersion.toNat ≤ chain.height ∧
        chain.height < 255 + chain.currentHardForkVersion.toNat then 60 else 11)) ≤
        timestamp) := by
  have hwindow : chain.timestampCheckWindow = blockchainTimestampCheckWindow := if_pos hv
  unfold checkBlockTimestamp
  rw [if_pos hv, if_neg (not_lt.2 hfuture), if_neg (by rw [hwindow]; omega)]
  dsimp only
  rw [checkBlockTimestamp_offset hv]
  set m := median (chain.blockTimestamps.drop
    (if chain.currentHardForkVersion.toNat ≤ chain.height ∧
      chain.height < 255 + chain.currentHardForkVersion.toNat then 60 else 11))
  by_cases hlt : timestamp < m
  · simp [checkBlockTimestampMedian, m, hlt, not_le.2 hlt]
  · simp [checkBlockTimestampMedian, m, hlt, not_lt.1 hlt]

/-- A chain of 60 blocks at version 4 reads no timestamp at all: the median of nothing is 0, and
a block stamped 0 passes although the last 60 blocks are all stamped 1000. -/
theorem check_block_timestamp_window_at_60 :
    let chain : TimestampChainState := ⟨List.replicate 60 1000, 4, 1000, by simp⟩
    (4 : UInt8) < blockMajorVersionFuture ∧ blockchainTimestampCheckWindow ≤ chain.height ∧
      0 ≤ (chain.adjustedTime + cryptonoteBlockFutureTimeLimit) % 2 ^ 64 ∧
      (checkBlockTimestamp chain 0 0).1 = decide (median (chain.blockTimestamps.drop
        (if chain.currentHardForkVersion.toNat ≤ chain.height ∧
          chain.height < 255 + chain.currentHardForkVersion.toNat then 60 else 11)) ≤ 0) :=
  ⟨by decide, by decide, Nat.zero_le _,
    check_block_timestamp_window ⟨List.replicate 60 1000, 4, 1000, by simp⟩ 0 0 (by decide)
      (by decide) (Nat.zero_le _)⟩

/-- On that chain the main path accepts a block stamped 0, which the median of the last 60
blocks, 1000, refuses. -/
theorem check_block_timestamp_below_last_60_median :
    let chain : TimestampChainState := ⟨List.replicate 60 1000, 4, 1000, by simp⟩
    (checkBlockTimestamp chain 0 0).1 = true ∧
      median (chain.blockTimestamps.drop (chain.height - 60)) = 1000 ∧
      (checkBlockTimestampMedian (chain.blockTimestamps.drop (chain.height - 60)) 0).1 = false := by
  intro chain
  have hlast : median (chain.blockTimestamps.drop (chain.height - 60)) = 1000 :=
    median_replicate (by decide) (by omega)
  refine ⟨by decide, hlast, ?_⟩
  simp [checkBlockTimestampMedian, hlast]

/-! ## The window of an alternative chain -/

/-- Topped up from a main chain high enough, an alternative chain's timestamps fill the window
exactly. -/
theorem length_completeTimestampsVector {chain : TimestampChainState} {startTopHeight : ℕ}
    {timestamps result : List ℕ} (hshort : timestamps.length < chain.timestampCheckWindow)
    (hhigh : chain.timestampCheckWindow - timestamps.length ≤ startTopHeight)
    (h : completeTimestampsVector chain startTopHeight timestamps = some result) :
    result.length = chain.timestampCheckWindow := by
  unfold completeTimestampsVector at h
  rw [if_neg (not_le.2 hshort)] at h
  dsimp only at h
  split_ifs at h with htop hgt
  · rw [Option.some.injEq] at h
    subst h
    simp only [List.length_append, List.length_map, List.length_range]
    omega
  · rw [Option.some.injEq] at h
    subst h
    simp only [List.length_append, List.length_map, List.length_range]
    omega

end Bittube.CryptonoteCore
