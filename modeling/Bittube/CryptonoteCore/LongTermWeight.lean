import Bittube.CryptonoteBasic.HardForkSync
import Bittube.CryptonoteBasic.BasicImpl
import Bittube.Crypto.Types
import Bittube.Epee.RollingMedianCorrect

/-!
# The long-term block weight median (`Blockchain::get_long_term_block_weight_median`)

From `HF_VERSION_LONG_TERM_BLOCK_WEIGHT` on, the long-term weight of a block is its weight capped
at 1.4 times the median of the long-term weights of the last `m_long_term_block_weights_window`
blocks below it (raised to the full reward zone), and the weight limit of the next block is
bounded by a multiple of that median. `get_long_term_block_weight_median` keeps the window in a
`rolling_median_t` under the hash of its top block: it answers the cache when it holds the window
asked for, inserts one block when the window moved up by one, and reads the whole window from
the database otherwise. After every block `update_next_cumulative_weight_limit` inserts the top
block's long-term weight into the cache itself, recomputed with the hard-fork version of that
moment.

While the cache holds what it claims (`CacheValid`), the call for the window below any height,
the call both callers make, answers the median of the long-term weights the database stores for
that window, on each of the three paths, and leaves the cache valid. The insert of
`update_next_cumulative_weight_limit` keeps the cache valid when the weight it recomputes for the
top block is the one the database stores. So the cache stays sound over every run of added and
popped blocks with ids never used before, as long as no block heavier than the cap joins while
the long-term weights are off. At the block where the fork activates, the weight stored with the
old version and the weight recomputed with the new one differ, and the next call answers a
median the database does not give.
-/

namespace Bittube.CryptonoteCore

open Bittube.Crypto Bittube.HardFork Bittube.CryptonoteBasic Bittube.Epee.MiscUtils CountedWindow

/-- What the weight limit reads of a stored block: its hash, its weight and its long-term weight
as `add_block` stored them, and the versions `HardFork::add` reads. -/
structure WeightBlock where
  hash : Hash
  weight : ℕ
  longTermWeight : ℕ
  versions : BlockVersions

instance : Inhabited WeightBlock := ⟨⟨nullHash, 0, 0, ⟨0, 0⟩⟩⟩

/-- The members of `Blockchain` behind the weight limit, over the blocks of the database, the
hard-fork state and the versions it records for each height. -/
structure Blockchain where
  blocks : List WeightBlock
  hardFork : HardFork
  hardForkVersions : ℕ → UInt8
  longTermBlockWeightsWindow : ℕ
  longTermBlockWeightsCacheTipHash : Hash
  longTermBlockWeightsCacheRollingMedian : RollingMedian ℕ
  longTermEffectiveMedianBlockWeight : ℕ
  currentBlockCumulWeightMedian : ℕ
  currentBlockCumulWeightLimit : ℕ

namespace Blockchain

/-- The constructor over an empty database, with the hard-fork state `HardFork::init` builds on
it. `window` is `CRYPTONOTE_LONG_TERM_BLOCK_WEIGHT_WINDOW_SIZE`, or the test option `init` puts in
its place together with a fresh `rolling_median_t` of that size. -/
def create (hf : HardFork) (window : ℕ) : Blockchain where
  blocks := []
  hardFork := hf.init BlockchainDb.empty
  hardForkVersions := BlockchainDb.empty.hardForkVersions
  longTermBlockWeightsWindow := window
  longTermBlockWeightsCacheTipHash := nullHash
  longTermBlockWeightsCacheRollingMedian := RollingMedian.create window
  longTermEffectiveMedianBlockWeight := 0
  currentBlockCumulWeightMedian := 0
  currentBlockCumulWeightLimit := 0

/-- `m_db->height()`. -/
def height (bc : Blockchain) : ℕ := bc.blocks.length

/-- The database as `HardFork` reads it. -/
def hardForkDb (bc : Blockchain) : BlockchainDb :=
  ⟨bc.blocks.map (·.versions), bc.hardForkVersions⟩

/-- `get_current_hard_fork_version()`. -/
def getCurrentHardForkVersion (bc : Blockchain) : UInt8 := bc.hardFork.getCurrentVersion

/-- The cache with a new tip hash and rolling median, the rest as it was. -/
def withCache (bc : Blockchain) (tipHash : Hash) (rm : RollingMedian ℕ) : Blockchain :=
  { bc with
    longTermBlockWeightsCacheTipHash := tipHash
    longTermBlockWeightsCacheRollingMedian := rm }

/-! ## The database -/

/-- The read of one field of the block at `height`, which throws `BLOCK_DNE` with the text
`Attempt to get <what> from height <height> failed -- <record> not in db` above the top. -/
def readBlock {α : Type} (bc : Blockchain) (what record : String) (field : WeightBlock → α)
    (height : ℕ) : Except String α :=
  match bc.blocks[height]? with
  | some b => .ok (field b)
  | none =>
    .error ("Attempt to get " ++ what ++ " from height " ++ toString height ++ " failed -- " ++
      record ++ " not in db")

/-- `get_block_hash_from_height(height)`. -/
def getBlockHashFromHeight (bc : Blockchain) (height : ℕ) : Except String Hash :=
  bc.readBlock "hash" "hash" (·.hash) height

/-- `get_block_weight(height)`. -/
def getBlockWeight (bc : Blockchain) (height : ℕ) : Except String ℕ :=
  bc.readBlock "block size" "block size" (·.weight) height

/-- `get_block_long_term_weight(height)`. -/
def getBlockLongTermWeight (bc : Blockchain) (height : ℕ) : Except String ℕ :=
  bc.readBlock "block long term weight" "block info" (·.longTermWeight) height

/-- `get_block_info_64bit_fields(start_height, count, offset)`: the field of the blocks from
`start_height` on, as many as `count` and the database hold; it throws when `start_height` is not
below the top. -/
def getBlockInfo64bitFields (bc : Blockchain) (field : WeightBlock → ℕ) (startHeight count : ℕ) :
    Except String (List ℕ) :=
  if startHeight ≥ bc.height then .error ("Height " ++ toString startHeight ++ " not in blockchain")
  else .ok (((bc.blocks.drop startHeight).take count).map field)

/-- `get_block_weights(start_height, count)`. -/
def getBlockWeights (bc : Blockchain) (startHeight count : ℕ) : Except String (List ℕ) :=
  bc.getBlockInfo64bitFields (·.weight) startHeight count

/-- `get_long_term_block_weights(start_height, count)`. -/
def getLongTermBlockWeights (bc : Blockchain) (startHeight count : ℕ) : Except String (List ℕ) :=
  bc.getBlockInfo64bitFields (·.longTermWeight) startHeight count

/-- `get_last_n_blocks_weights(weights, count)`: the weights of the last `count` blocks, none on
an empty chain. -/
def getLastNBlocksWeights (bc : Blockchain) (count : ℕ) : Except String (List ℕ) :=
  if bc.height = 0 then .ok []
  else bc.getBlockWeights (bc.height - min bc.height count) count

/-! ## The median and its cache -/

/-- `get_long_term_block_weight_median(start_height, count)`: the median, and the state with the
cache the call leaves. Heights do not wrap here: both callers pass heights below the top. -/
def getLongTermBlockWeightMedian (bc : Blockchain) (startHeight count : ℕ) :
    Except String (ℕ × Blockchain) :=
  let rm := bc.longTermBlockWeightsCacheRollingMedian
  let tipHeight := startHeight + count - 1
  if count = 0 then .error "count == 0"
  else do
    let tipHash ← if tipHeight < bc.height ∧ count = rm.size then
        bc.getBlockHashFromHeight tipHeight
      else pure nullHash
    if (tipHeight < bc.height ∧ count = rm.size) ∧ tipHash = bc.longTermBlockWeightsCacheTipHash
    then pure (rm.median, bc)
    else do
      -- the window moved one block up: insert the new top block
      let incremental ← if 0 < tipHeight ∧ count = rm.size ∧ tipHeight < bc.height then do
          let oldTipHash ← bc.getBlockHashFromHeight (tipHeight - 1)
          pure (decide (oldTipHash = bc.longTermBlockWeightsCacheTipHash))
        else pure false
      if incremental then do
        let w ← bc.getBlockLongTermWeight tipHeight
        let rm := rm.insert w
        pure (rm.median, bc.withCache tipHash rm)
      else do
        let weights ← bc.getLongTermBlockWeights startHeight count
        let rm := weights.foldl RollingMedian.insert rm.clear
        pure (rm.median, bc.withCache tipHash rm)

/-- `short_term_constraint`: the effective median and two fifths of it, in `uint64_t`. -/
def shortTermConstraint (effectiveMedian : ℕ) : ℕ :=
  (effectiveMedian + effectiveMedian * 2 % 2 ^ 64 / 5) % 2 ^ 64

/-- The long-term weight of a block of weight `blockWeight` under the median of the window below
it: the weight, capped by the short-term constraint of the median raised to the full reward
zone. Both callers compute it. -/
def longTermBlockWeightOf (blockWeight longTermMedian : ℕ) : ℕ :=
  min blockWeight
    (shortTermConstraint (max cryptonoteBlockGrantedFullRewardZoneV5 longTermMedian))

/-- `get_next_long_term_block_weight(block_weight)`: the long-term weight of a block added on
top, and the state with the cache the median left. -/
def getNextLongTermBlockWeight (bc : Blockchain) (blockWeight : ℕ) :
    Except String (ℕ × Blockchain) :=
  let dbHeight := bc.height
  let nblocks := min bc.longTermBlockWeightsWindow dbHeight
  if bc.getCurrentHardForkVersion < hfVersionLongTermBlockWeight then pure (blockWeight, bc)
  else do
    let r ← bc.getLongTermBlockWeightMedian (dbHeight - nblocks) nblocks
    pure (longTermBlockWeightOf blockWeight r.1, r.2)

/-! ## The weight limit of the next block -/

/-- The median of the window below the top block in `update_next_cumulative_weight_limit`: the
full reward zone for the genesis block, else the call for the `nblocks` blocks below the top. -/
def longTermMedianBelowTop (bc : Blockchain) (dbHeight : ℕ) : Except String (ℕ × Blockchain) :=
  if dbHeight = 1 then pure (cryptonoteBlockGrantedFullRewardZoneV5, bc)
  else
    let nblocks := min bc.longTermBlockWeightsWindow dbHeight
    let nblocks := if nblocks = dbHeight then nblocks - 1 else nblocks
    bc.getLongTermBlockWeightMedian (dbHeight - nblocks - 1) nblocks

/-- The insert of `update_next_cumulative_weight_limit`: past the genesis block, the top block's
recomputed long-term weight joins the cache under the top block's hash, and the median is the
cache's. -/
def insertTopLongTermWeight (bc : Blockchain) (dbHeight longTermBlockWeight : ℕ) :
    Except String (ℕ × Blockchain) :=
  if dbHeight = 1 then pure (longTermBlockWeight, bc)
  else do
    let tipHash ← bc.getBlockHashFromHeight (dbHeight - 1)
    let rm := bc.longTermBlockWeightsCacheRollingMedian.insert longTermBlockWeight
    pure (rm.median, bc.withCache tipHash rm)

/-- The branch of `update_next_cumulative_weight_limit` from `HF_VERSION_LONG_TERM_BLOCK_WEIGHT`
on. The read of the top block's weight throws on an empty chain (where the source's
`db_height - 1` wraps). -/
def updateLongTermWeightLimit (bc : Blockchain) : Except String Blockchain := do
  let dbHeight := bc.height
  let blockWeight ← bc.getBlockWeight (dbHeight - 1)
  let r ← bc.longTermMedianBelowTop dbHeight
  let longTermBlockWeight := longTermBlockWeightOf blockWeight r.1
  let r ← r.2.insertTopLongTermWeight dbHeight longTermBlockWeight
  let longTermEffectiveMedianBlockWeight := max cryptonoteBlockGrantedFullRewardZoneV5 r.1
  let weights ← r.2.getLastNBlocksWeights cryptonoteRewardBlocksWindow
  let effectiveMedianBlockWeight :=
    min (max cryptonoteBlockGrantedFullRewardZoneV5 (median weights))
      (cryptonoteShortTermBlockWeightSurgeFactor * longTermEffectiveMedianBlockWeight % 2 ^ 64)
  pure { r.2 with
    longTermEffectiveMedianBlockWeight := longTermEffectiveMedianBlockWeight
    currentBlockCumulWeightMedian := effectiveMedianBlockWeight }

/-- `update_next_cumulative_weight_limit()`: the median and limit of the next block's weight. The
new limit also goes to the database's `add_max_block_size`, which nothing here reads. -/
def updateNextCumulativeWeightLimit (bc : Blockchain) : Except String Blockchain := do
  let hfVersion := bc.getCurrentHardForkVersion
  let fullRewardZone := getMinBlockWeight hfVersion
  let bc ← if hfVersion < hfVersionLongTermBlockWeight then do
      let weights ← bc.getLastNBlocksWeights cryptonoteRewardBlocksWindow
      pure { bc with currentBlockCumulWeightMedian := median weights }
    else bc.updateLongTermWeightLimit
  let cumulWeightMedian :=
    if bc.currentBlockCumulWeightMedian ≤ fullRewardZone then fullRewardZone
    else bc.currentBlockCumulWeightMedian
  pure { bc with
    currentBlockCumulWeightMedian := cumulWeightMedian
    currentBlockCumulWeightLimit := cumulWeightMedian * 2 % 2 ^ 64 }

/-! ## Adding and popping blocks -/

/-- The block with its long-term weight on top of the database, and `HardFork::add` run for it,
as `BlockchainDB::add_block` does (ignoring what `add` returns). -/
def pushBlock (bc : Blockchain) (id : Hash) (versions : BlockVersions)
    (blockWeight longTermBlockWeight : ℕ) : Blockchain :=
  let prevHeight := bc.height
  let stored : WeightBlock := ⟨id, blockWeight, longTermBlockWeight, versions⟩
  let bc := { bc with blocks := bc.blocks ++ [stored] }
  match bc.hardFork.addBlock bc.hardForkDb versions prevHeight with
  | some (hf, db) => { bc with hardFork := hf, hardForkVersions := db.hardForkVersions }
  | none => bc

/-- What `add_new_block` and `handle_block_to_main_chain` do for the weights with a block that
passed verification: the version check of `add_new_block`, the long-term weight from the state
before the block, the block stored, then the weight limit of the next block. -/
def addBlock (bc : Blockchain) (id : Hash) (versions : BlockVersions) (blockWeight : ℕ) :
    Except String Blockchain :=
  if bc.hardFork.check versions = false then .error "has old version"
  else do
    let r ← bc.getNextLongTermBlockWeight blockWeight
    (r.2.pushBlock id versions blockWeight r.1).updateNextCumulativeWeightLimit

/-- `pop_block_from_blockchain()` for the weights: drop the top block, let the hard-fork state
follow, and recompute the weight limit. The database keeps the genesis block, so
`on_block_popped(1)` returns. -/
def popBlockFromBlockchain (bc : Blockchain) : Except String Blockchain :=
  if ¬bc.height > 1 then .error "Cannot pop the genesis block"
  else
    let bc := { bc with blocks := bc.blocks.dropLast }
    let hf := (bc.hardFork.onBlockPopped bc.hardForkDb 1).getD bc.hardFork
    { bc with hardFork := hf }.updateNextCumulativeWeightLimit

end Blockchain

/-- Version 7 from the start and version 8 from height 2, both with threshold 0. -/
def forkAtTwo : HardFork :=
  { windowSize := 10, defaultThresholdPercent := 0, originalVersion := 7,
    heights := [⟨7, 0, 0, 0, 0⟩, ⟨8, 0, 2, 1, 0⟩], versions := [],
    lastVersions := fun _ => 0, currentForkIndex := 0 }

theorem long_term_median_cached_at_fork :
    let bc : Except String Blockchain :=
      ((Blockchain.create forkAtTwo cryptonoteLongTermBlockWeightWindowSize).addBlock
        (Blob.ofList 32 [1]) ⟨7, 7⟩ 100) >>= fun bc =>
      bc.addBlock (Blob.ofList 32 [2]) ⟨7, 7⟩ 1500000
    bc.map Blockchain.getCurrentHardForkVersion = .ok 8 ∧
      (bc >>= fun bc => bc.getLongTermBlockWeightMedian 0 2).map Prod.fst = .ok 700050 ∧
      (bc >>= fun bc => bc.getLongTermBlockWeights 0 2) = .ok [100, 1500000] ∧
      median [100, 1500000] = 750050 := by
  dsimp only
  refine ⟨by decide, by decide, by decide, ?_⟩
  have hsorted : [100, 1500000].mergeSort (· ≤ ·) = [100, 1500000] :=
    List.mergeSort_eq_self _ (by decide)
  rw [median_of_even rfl (List.cons_ne_nil _ _), hsorted]
  rfl

namespace Blockchain

/-! ## What the cache holds -/

/-- The long-term weights of the last `m_long_term_block_weights_window` blocks below height
`e`: the window both callers ask for. -/
def longTermWindow (bc : Blockchain) (e : ℕ) : List ℕ :=
  lastN bc.longTermBlockWeightsWindow ((bc.blocks.take e).map (·.longTermWeight))

/-- Block ids are distinct and none is `null_hash`: the collision-free hashes the cache relies
on. -/
def HashesFresh (bc : Blockchain) : Prop :=
  (bc.blocks.map (·.hash)).Nodup ∧ ∀ b ∈ bc.blocks, b.hash ≠ nullHash

/-- What the cache holds: a rolling median over the window, whose values, when its tip hash is
the hash of a block, are the long-term weights of the window up to and including that block. -/
structure CacheValid (bc : Blockchain) : Prop where
  window_pos : 0 < bc.longTermBlockWeightsWindow
  N_eq : bc.longTermBlockWeightsCacheRollingMedian.N = bc.longTermBlockWeightsWindow
  holds : ∃ recent, RollingMedian.Inv bc.longTermBlockWeightsCacheRollingMedian recent ∧
    ∀ t b, bc.blocks[t]? = some b → b.hash = bc.longTermBlockWeightsCacheTipHash →
      recent = bc.longTermWindow (t + 1)

variable {bc : Blockchain}

@[simp] theorem blocks_withCache (tip : Hash) (rm : RollingMedian ℕ) :
    (bc.withCache tip rm).blocks = bc.blocks := rfl

@[simp] theorem height_withCache (tip : Hash) (rm : RollingMedian ℕ) :
    (bc.withCache tip rm).height = bc.height := rfl

@[simp] theorem window_withCache (tip : Hash) (rm : RollingMedian ℕ) :
    (bc.withCache tip rm).longTermBlockWeightsWindow = bc.longTermBlockWeightsWindow := rfl

@[simp] theorem hardFork_withCache (tip : Hash) (rm : RollingMedian ℕ) :
    (bc.withCache tip rm).hardFork = bc.hardFork := rfl

@[simp] theorem tipHash_withCache (tip : Hash) (rm : RollingMedian ℕ) :
    (bc.withCache tip rm).longTermBlockWeightsCacheTipHash = tip := rfl

@[simp] theorem rollingMedian_withCache (tip : Hash) (rm : RollingMedian ℕ) :
    (bc.withCache tip rm).longTermBlockWeightsCacheRollingMedian = rm := rfl

@[simp] theorem longTermWindow_withCache (tip : Hash) (rm : RollingMedian ℕ) (e : ℕ) :
    (bc.withCache tip rm).longTermWindow e = bc.longTermWindow e := rfl

theorem withCache_self :
    bc.withCache bc.longTermBlockWeightsCacheTipHash bc.longTermBlockWeightsCacheRollingMedian =
      bc := rfl

theorem readBlock_of_getElem? {α : Type} {what record : String} {field : WeightBlock → α}
    {h : ℕ} {b : WeightBlock} (hb : bc.blocks[h]? = some b) :
    bc.readBlock what record field h = .ok (field b) := by
  rw [readBlock, hb]

theorem exists_getElem?_of_lt {h : ℕ} (hh : h < bc.height) : ∃ b, bc.blocks[h]? = some b :=
  ⟨_, List.getElem?_eq_getElem hh⟩

/-- Fresh ids name one height each. -/
theorem HashesFresh.index_eq (hfresh : bc.HashesFresh) {t t' : ℕ} {b b' : WeightBlock}
    (hb : bc.blocks[t]? = some b) (hb' : bc.blocks[t']? = some b') (h : b.hash = b'.hash) :
    t = t' := by
  have ht : t < bc.blocks.length := (List.getElem?_eq_some_iff.1 hb).1
  have ht' : t' < bc.blocks.length := (List.getElem?_eq_some_iff.1 hb').1
  have hmap : (bc.blocks.map (·.hash))[t]? = (bc.blocks.map (·.hash))[t']? := by
    rw [List.getElem?_map, List.getElem?_map, hb, hb', Option.map_some, Option.map_some, h]
  rw [List.getElem?_eq_getElem (by simpa using ht), List.getElem?_eq_getElem (by simpa using ht'),
    Option.some_inj] at hmap
  exact (hfresh.1.getElem_inj_iff).1 hmap

theorem length_longTermWindow {e : ℕ} (he : e ≤ bc.height) :
    (bc.longTermWindow e).length = min bc.longTermBlockWeightsWindow e := by
  have he' : e ≤ bc.blocks.length := he
  rw [longTermWindow, length_lastN, List.length_map, List.length_take, min_eq_left he']

/-- The database's read of the window below `e` is the window. -/
theorem getLongTermBlockWeights_window {e : ℕ} (hw : 0 < bc.longTermBlockWeightsWindow)
    (he : 0 < e) (hle : e ≤ bc.height) :
    bc.getLongTermBlockWeights (e - min bc.longTermBlockWeightsWindow e)
        (min bc.longTermBlockWeightsWindow e) = .ok (bc.longTermWindow e) := by
  have hm : 0 < min bc.longTermBlockWeightsWindow e := Nat.lt_min.2 ⟨hw, he⟩
  have hle' : e ≤ bc.blocks.length := hle
  rw [getLongTermBlockWeights, getBlockInfo64bitFields, if_neg (by rw [height]; omega)]
  congr 1
  rw [longTermWindow, lastN, List.length_map, List.length_take, min_eq_left hle', ← List.map_drop,
    List.drop_take, show e - bc.longTermBlockWeightsWindow = e - min bc.longTermBlockWeightsWindow e
      by omega, show e - (e - min bc.longTermBlockWeightsWindow e) =
        min bc.longTermBlockWeightsWindow e by omega]

/-- The window below `e + 1` is the window below `e` slid up by the block at `e`. -/
theorem longTermWindow_succ {e : ℕ} {b : WeightBlock} (hb : bc.blocks[e]? = some b)
    (hw : 0 < bc.longTermBlockWeightsWindow) :
    (bc.longTermWindow e).drop
        ((bc.longTermWindow e).length + 1 - bc.longTermBlockWeightsWindow) ++
        [b.longTermWeight] = bc.longTermWindow (e + 1) := by
  rw [longTermWindow, longTermWindow, lastN_append_singleton hw, List.take_add_one, hb,
    List.map_append]
  rfl

/-! ## The three paths of the median -/

section Paths

variable {startHeight count : ℕ} {b b' : WeightBlock}

theorem ok_bind {α β : Type} (a : α) (f : α → Except String β) : (Except.ok a >>= f) = f a := rfl

/-- The cache holds the window asked for: its median, and nothing changes. -/
theorem getLongTermBlockWeightMedian_hit (hcount : count ≠ 0)
    (hsize : count = bc.longTermBlockWeightsCacheRollingMedian.size)
    (hb : bc.blocks[startHeight + count - 1]? = some b)
    (hhit : b.hash = bc.longTermBlockWeightsCacheTipHash) :
    bc.getLongTermBlockWeightMedian startHeight count =
      .ok (bc.longTermBlockWeightsCacheRollingMedian.median, bc) := by
  have htip : startHeight + count - 1 < bc.height := (List.getElem?_eq_some_iff.1 hb).1
  simp only [getLongTermBlockWeightMedian, hcount, if_false, getBlockHashFromHeight,
    readBlock_of_getElem? hb]
  rw [if_pos ⟨htip, hsize⟩, ok_bind, if_pos ⟨⟨htip, hsize⟩, hhit⟩]
  rfl

/-- The window moved up by one block: the block joins the cache under its hash. -/
theorem getLongTermBlockWeightMedian_slide (hcount : count ≠ 0)
    (hsize : count = bc.longTermBlockWeightsCacheRollingMedian.size)
    (hb : bc.blocks[startHeight + count - 1]? = some b)
    (hmiss : b.hash ≠ bc.longTermBlockWeightsCacheTipHash) (hpos : 0 < startHeight + count - 1)
    (hb' : bc.blocks[startHeight + count - 1 - 1]? = some b')
    (hslide : b'.hash = bc.longTermBlockWeightsCacheTipHash) :
    bc.getLongTermBlockWeightMedian startHeight count =
      .ok ((bc.longTermBlockWeightsCacheRollingMedian.insert b.longTermWeight).median,
        bc.withCache b.hash (bc.longTermBlockWeightsCacheRollingMedian.insert b.longTermWeight)) := by
  have htip : startHeight + count - 1 < bc.height := (List.getElem?_eq_some_iff.1 hb).1
  simp only [getLongTermBlockWeightMedian, hcount, if_false, getBlockHashFromHeight,
    getBlockLongTermWeight, readBlock_of_getElem? hb, readBlock_of_getElem? hb']
  rw [if_pos ⟨htip, hsize⟩, ok_bind, if_neg (fun h => hmiss h.2), if_pos ⟨hpos, hsize, htip⟩,
    ok_bind, pure_bind, if_pos (decide_eq_true hslide), ok_bind]
  rfl

/-- Otherwise the window is read from the database and the cache rebuilt from it, under the tip
hash when the call looked the cache up and `null_hash` when it did not. -/
theorem getLongTermBlockWeightMedian_rebuild (hcount : count ≠ 0)
    (htip : startHeight + count - 1 < bc.height) {tipHash : Hash} {weights : List ℕ}
    (hweights : bc.getLongTermBlockWeights startHeight count = .ok weights)
    (hlookup : count = bc.longTermBlockWeightsCacheRollingMedian.size ∧
        bc.blocks[startHeight + count - 1]?.map (·.hash) = some tipHash ∧
        tipHash ≠ bc.longTermBlockWeightsCacheTipHash ∧
        (0 < startHeight + count - 1 → bc.blocks[startHeight + count - 1 - 1]?.map (·.hash) ≠
          some bc.longTermBlockWeightsCacheTipHash) ∨
      count ≠ bc.longTermBlockWeightsCacheRollingMedian.size ∧ tipHash = nullHash) :
    bc.getLongTermBlockWeightMedian startHeight count =
      .ok ((weights.foldl RollingMedian.insert bc.longTermBlockWeightsCacheRollingMedian.clear).median,
        bc.withCache tipHash
          (weights.foldl RollingMedian.insert bc.longTermBlockWeightsCacheRollingMedian.clear)) := by
  simp only [getLongTermBlockWeightMedian, hcount, if_false]
  rcases hlookup with ⟨hsize, hhash, hmiss, hold⟩ | ⟨hsize, rfl⟩
  · obtain ⟨b, hb, rfl⟩ := Option.map_eq_some_iff.1 hhash
    rw [if_pos ⟨htip, hsize⟩, getBlockHashFromHeight, readBlock_of_getElem? hb, ok_bind,
      if_neg (fun h => hmiss h.2)]
    -- the block below the tip is not the cache's tip either
    split_ifs with hpos
    · obtain ⟨b', hb'⟩ := exists_getElem?_of_lt
        (show startHeight + count - 1 - 1 < bc.height by omega)
      have hne : b'.hash ≠ bc.longTermBlockWeightsCacheTipHash := fun h =>
        hold hpos.1 (by rw [hb', Option.map_some, h])
      rw [getBlockHashFromHeight, readBlock_of_getElem? hb', ok_bind, pure_bind,
        decide_eq_false hne, if_neg Bool.false_ne_true, hweights, ok_bind]
      rfl
    · rw [pure_bind, if_neg Bool.false_ne_true, hweights, ok_bind]
      rfl
  · rw [if_neg (fun h => hsize h.2), pure_bind, if_neg (fun h => hsize h.1.2),
      if_neg (fun h => hsize h.2.1), pure_bind, if_neg Bool.false_ne_true, hweights, ok_bind]
    rfl

/-! ## The cache each path leaves -/

variable {e : ℕ}

/-- The tip hashes a call can leave in the cache: its own, `null_hash`, or the hash of a block. -/
def TipFrom (bc : Blockchain) (tipHash : Hash) : Prop :=
  tipHash = bc.longTermBlockWeightsCacheTipHash ∨ tipHash = nullHash ∨
    ∃ b ∈ bc.blocks, tipHash = b.hash

theorem longTermWindow_ne_nil (hw : 0 < bc.longTermBlockWeightsWindow) (he : 0 < e)
    (hle : e ≤ bc.height) : bc.longTermWindow e ≠ [] := by
  rw [← List.length_pos_iff, length_longTermWindow hle]
  exact Nat.lt_min.2 ⟨hw, he⟩

/-- A rolling median over the window below `e` is a valid cache under `null_hash`, or under the
hash of the block at `e - 1`. -/
theorem cacheValid_withCache (hfresh : bc.HashesFresh) (hw : 0 < bc.longTermBlockWeightsWindow)
    (he : 0 < e) {rm : RollingMedian ℕ} (hinv : rm.Inv (bc.longTermWindow e))
    (hN : rm.N = bc.longTermBlockWeightsWindow) {tipHash : Hash}
    (htip : tipHash = nullHash ∨ ∃ b, bc.blocks[e - 1]? = some b ∧ tipHash = b.hash) :
    (bc.withCache tipHash rm).CacheValid := by
  refine ⟨hw, hN, ⟨_, hinv, fun t c hc hhash => ?_⟩⟩
  rcases htip with rfl | ⟨b, hb, rfl⟩
  · exact absurd hhash (hfresh.2 c (List.mem_of_getElem? hc))
  · -- the only block under the tip hash is the block at `e - 1`
    obtain rfl := hfresh.index_eq hc hb hhash
    rw [longTermWindow_withCache, Nat.sub_add_cancel he]

/-- Inserting the long-term weight of the block at `e` slides the window below `e` up by one. -/
theorem inv_insert_window {rm : RollingMedian ℕ} (hinv : rm.Inv (bc.longTermWindow e))
    (hN : rm.N = bc.longTermBlockWeightsWindow) (hw : 0 < bc.longTermBlockWeightsWindow)
    (hb : bc.blocks[e]? = some b) :
    (rm.insert b.longTermWeight).Inv (bc.longTermWindow (e + 1)) ∧
      (rm.insert b.longTermWeight).N = bc.longTermBlockWeightsWindow := by
  have h := hinv.insert b.longTermWeight
  rw [hN, longTermWindow_succ hb hw] at h
  exact ⟨h, (hinv.N_insert _).trans hN⟩

/-- A valid cache found under the hash of the block at `e - 1` holds the window below `e`. -/
theorem CacheValid.inv_of_hit (hv : bc.CacheValid) (he : 0 < e)
    (hb : bc.blocks[e - 1]? = some b) (hhit : b.hash = bc.longTermBlockWeightsCacheTipHash) :
    bc.longTermBlockWeightsCacheRollingMedian.Inv (bc.longTermWindow e) := by
  obtain ⟨recent, hinv, hrecent⟩ := hv.holds
  rwa [hrecent (e - 1) b hb hhit, Nat.sub_add_cancel he] at hinv

/-- The cache slid up by the block at `e - 1` holds the window below `e`, under that block's
hash. -/
theorem CacheValid.slide (hv : bc.CacheValid) (hfresh : bc.HashesFresh) (he : 1 < e)
    (hb : bc.blocks[e - 1]? = some b) (hb' : bc.blocks[e - 1 - 1]? = some b')
    (hslide : b'.hash = bc.longTermBlockWeightsCacheTipHash) :
    (bc.longTermBlockWeightsCacheRollingMedian.insert b.longTermWeight).Inv
        (bc.longTermWindow e) ∧
      (bc.withCache b.hash
        (bc.longTermBlockWeightsCacheRollingMedian.insert b.longTermWeight)).CacheValid := by
  -- the cache held the window below `e - 1`
  have hinv := hv.inv_of_hit (by omega) hb' hslide
  obtain ⟨hinv', hN⟩ := inv_insert_window hinv hv.N_eq hv.window_pos hb
  rw [Nat.sub_add_cancel (by omega)] at hinv'
  exact ⟨hinv', cacheValid_withCache hfresh hv.window_pos (by omega) hinv' hN (.inr ⟨b, hb, rfl⟩)⟩

/-- The cache rebuilt from the window below `e` holds it, under `null_hash` or the hash of the
block at `e - 1`. -/
theorem CacheValid.rebuild (hv : bc.CacheValid) (hfresh : bc.HashesFresh) (he : 0 < e)
    (hle : e ≤ bc.height) {tipHash : Hash}
    (htip : tipHash = nullHash ∨ ∃ b, bc.blocks[e - 1]? = some b ∧ tipHash = b.hash) :
    ((bc.longTermWindow e).foldl RollingMedian.insert
          bc.longTermBlockWeightsCacheRollingMedian.clear).Inv (bc.longTermWindow e) ∧
      (bc.withCache tipHash ((bc.longTermWindow e).foldl RollingMedian.insert
          bc.longTermBlockWeightsCacheRollingMedian.clear)).CacheValid := by
  obtain ⟨recent, hinv, -⟩ := hv.holds
  have hclear : RollingMedian.Inv bc.longTermBlockWeightsCacheRollingMedian.clear
      (lastN bc.longTermBlockWeightsCacheRollingMedian.clear.N []) := by
    rw [lastN_nil]
    exact RollingMedian.Inv.clear _ hinv.layout.N_pos
  obtain ⟨hinv', hN⟩ := RollingMedian.Inv.foldl_insert (bc.longTermWindow e) hclear
  -- the window has at most as many weights as the rolling median keeps
  have hlast : lastN bc.longTermBlockWeightsCacheRollingMedian.clear.N ([] ++ bc.longTermWindow e) =
      bc.longTermWindow e := by
    rw [List.nil_append]
    apply lastN_of_length_le
    rw [length_longTermWindow hle]
    exact (min_le_left _ _).trans_eq hv.N_eq.symm
  rw [hlast] at hinv'
  exact ⟨hinv', cacheValid_withCache hfresh hv.window_pos he hinv' (hN.trans hv.N_eq) htip⟩

/-- **The median matches the database on every path.** While the cache is valid and block ids
are fresh, the call for the window below any height `e` answers the median of the long-term
weights the database stores for that window, and leaves a valid cache holding that window; only
the cache changes. -/
theorem getLongTermBlockWeightMedian_spec (hv : bc.CacheValid) (hfresh : bc.HashesFresh)
    (he : 0 < e) (hle : e ≤ bc.height) :
    ∃ tipHash rm, bc.getLongTermBlockWeightMedian (e - min bc.longTermBlockWeightsWindow e)
          (min bc.longTermBlockWeightsWindow e) =
        .ok (median (bc.longTermWindow e), bc.withCache tipHash rm) ∧
      rm.Inv (bc.longTermWindow e) ∧ (bc.withCache tipHash rm).CacheValid ∧ bc.TipFrom tipHash := by
  have hm : 0 < min bc.longTermBlockWeightsWindow e := Nat.lt_min.2 ⟨hv.window_pos, he⟩
  have htip : e - min bc.longTermBlockWeightsWindow e + min bc.longTermBlockWeightsWindow e - 1 =
      e - 1 := by omega
  have hne := longTermWindow_ne_nil hv.window_pos he hle
  obtain ⟨b, hb⟩ := exists_getElem?_of_lt (show e - 1 < bc.height by omega)
  have hb_tip := htip ▸ hb
  have hmem : b ∈ bc.blocks := List.mem_of_getElem? hb
  have hweights := getLongTermBlockWeights_window hv.window_pos he hle
  by_cases hsize : min bc.longTermBlockWeightsWindow e = bc.longTermBlockWeightsCacheRollingMedian.size
  · by_cases hhit : b.hash = bc.longTermBlockWeightsCacheTipHash
    · -- the cache holds the window
      have hinv := hv.inv_of_hit he hb hhit
      refine ⟨_, _, ?_, hinv, by rwa [withCache_self], .inl rfl⟩
      rw [getLongTermBlockWeightMedian_hit hm.ne' hsize hb_tip hhit, hinv.median_eq hne,
        withCache_self]
    by_cases hslide : ∃ b', 1 < e ∧ bc.blocks[e - 1 - 1]? = some b' ∧
        b'.hash = bc.longTermBlockWeightsCacheTipHash
    · -- the cache holds the window one block lower
      obtain ⟨b', he1, hb', hslide⟩ := hslide
      obtain ⟨hinv, hvalid⟩ := hv.slide hfresh he1 hb hb' hslide
      refine ⟨_, _, ?_, hinv, hvalid, .inr (.inr ⟨b, hmem, rfl⟩)⟩
      rw [getLongTermBlockWeightMedian_slide hm.ne' hsize hb_tip hhit (by omega) (htip ▸ hb') hslide,
        hinv.median_eq hne]
    · -- the cache is rebuilt under the tip's hash
      obtain ⟨hinv, hvalid⟩ := hv.rebuild hfresh he hle (.inr ⟨b, hb, rfl⟩)
      refine ⟨_, _, ?_, hinv, hvalid, .inr (.inr ⟨b, hmem, rfl⟩)⟩
      rw [getLongTermBlockWeightMedian_rebuild hm.ne' (by omega) hweights
        (.inl ⟨hsize, by rw [hb_tip, Option.map_some], hhit, fun hpos hmap => ?_⟩),
        hinv.median_eq hne]
      obtain ⟨b', hb', hhash⟩ := Option.map_eq_some_iff.1 hmap
      exact hslide ⟨b', by omega, htip ▸ hb', hhash⟩
  · -- the cache is not looked up, and is rebuilt under `null_hash`
    obtain ⟨hinv, hvalid⟩ := hv.rebuild hfresh he hle (.inl rfl)
    refine ⟨_, _, ?_, hinv, hvalid, .inr (.inl rfl)⟩
    rw [getLongTermBlockWeightMedian_rebuild hm.ne' (by omega) hweights (.inr ⟨hsize, rfl⟩),
      hinv.median_eq hne]

end Paths

/-! ## The callers -/

section Callers

variable {bc' : Blockchain} {e : ℕ}

/-- `bc'` has the cache and window of `bc`. -/
structure SameCache (bc bc' : Blockchain) : Prop where
  window_eq : bc'.longTermBlockWeightsWindow = bc.longTermBlockWeightsWindow
  tipHash_eq : bc'.longTermBlockWeightsCacheTipHash = bc.longTermBlockWeightsCacheTipHash
  rollingMedian_eq :
    bc'.longTermBlockWeightsCacheRollingMedian = bc.longTermBlockWeightsCacheRollingMedian

/-- `bc'` has the database and window of `bc`: what the long-term weights are read from. -/
structure SameWindow (bc bc' : Blockchain) : Prop where
  blocks_eq : bc'.blocks = bc.blocks
  window_eq : bc'.longTermBlockWeightsWindow = bc.longTermBlockWeightsWindow

theorem SameWindow.longTermWindow_eq (h : SameWindow bc bc') (e : ℕ) :
    bc'.longTermWindow e = bc.longTermWindow e := by
  rw [longTermWindow, longTermWindow, h.blocks_eq, h.window_eq]

/-- The cache stays valid when the database keeps a prefix of its blocks and adds blocks none of
which carries the cache's tip hash: what adding and popping a block do. -/
theorem CacheValid.of_blocks (hv : bc.CacheValid) (hsame : SameCache bc bc')
    {l old new : List WeightBlock} (hbc : bc.blocks = l ++ old) (hbc' : bc'.blocks = l ++ new)
    (hnew : ∀ c ∈ new, c.hash ≠ bc.longTermBlockWeightsCacheTipHash) : bc'.CacheValid := by
  obtain ⟨recent, hinv, hrecent⟩ := hv.holds
  refine ⟨hsame.window_eq ▸ hv.window_pos, by rw [hsame.rollingMedian_eq, hsame.window_eq, hv.N_eq],
    ⟨recent, hsame.rollingMedian_eq ▸ hinv, fun t c hc hhash => ?_⟩⟩
  rw [hsame.tipHash_eq] at hhash
  rw [hbc'] at hc
  by_cases ht : t < l.length
  · -- a block both databases keep, under the same window
    rw [List.getElem?_append_left ht] at hc
    have hwin : bc'.longTermWindow (t + 1) = bc.longTermWindow (t + 1) := by
      rw [longTermWindow, longTermWindow, hbc, hbc', List.take_append_of_le_length ht,
        List.take_append_of_le_length ht, hsame.window_eq]
    rw [hwin]
    exact hrecent t c (by rw [hbc, List.getElem?_append_left ht]; exact hc) hhash
  · rw [List.getElem?_append_right (by omega)] at hc
    exact absurd hhash (hnew c (List.mem_of_getElem? hc))

theorem CacheValid.of_same (hv : bc.CacheValid) (hsame : SameCache bc bc')
    (hblocks : bc'.blocks = bc.blocks) : bc'.CacheValid :=
  hv.of_blocks hsame (List.append_nil _).symm (hblocks.trans (List.append_nil _).symm)
    (fun _ h => absurd h List.not_mem_nil)

/-- `get_next_long_term_block_weight` caps the weight by the median of the window below the top
from the fork on, and leaves a valid cache. -/
theorem getNextLongTermBlockWeight_spec (hv : bc.CacheValid) (hfresh : bc.HashesFresh)
    (hok : bc.getCurrentHardForkVersion < hfVersionLongTermBlockWeight ∨ 0 < bc.height)
    (blockWeight : ℕ) :
    ∃ tipHash rm, bc.getNextLongTermBlockWeight blockWeight =
        .ok (if bc.getCurrentHardForkVersion < hfVersionLongTermBlockWeight then blockWeight
          else longTermBlockWeightOf blockWeight (median (bc.longTermWindow bc.height)),
          bc.withCache tipHash rm) ∧
      (bc.withCache tipHash rm).CacheValid ∧ bc.TipFrom tipHash := by
  unfold getNextLongTermBlockWeight
  dsimp only
  split_ifs with hv8
  · exact ⟨_, _, by rw [withCache_self]; rfl, by rwa [withCache_self], .inl rfl⟩
  · obtain ⟨tipHash, rm, hcall, -, hvalid, htip⟩ :=
      getLongTermBlockWeightMedian_spec hv hfresh (hok.resolve_left hv8) le_rfl
    exact ⟨tipHash, rm, by rw [hcall]; rfl, hvalid, htip⟩

/-- From the fork on the long-term weight of a block on an empty chain is not defined: the
median is asked for no blocks. -/
theorem getNextLongTermBlockWeight_empty (hv8 : ¬bc.getCurrentHardForkVersion < hfVersionLongTermBlockWeight)
    (h0 : bc.height = 0) (blockWeight : ℕ) :
    bc.getNextLongTermBlockWeight blockWeight = .error "count == 0" := by
  simp only [getNextLongTermBlockWeight, if_neg hv8, h0, Nat.min_zero, getLongTermBlockWeightMedian,
    if_true]
  rfl

/-- The call of `update_next_cumulative_weight_limit` below the top is the call for the window
below `db_height - 1`. -/
theorem longTermMedianBelowTop_eq {dbHeight : ℕ} (h1 : dbHeight ≠ 1) (hpos : 0 < dbHeight) :
    bc.longTermMedianBelowTop dbHeight = bc.getLongTermBlockWeightMedian
      (dbHeight - 1 - min bc.longTermBlockWeightsWindow (dbHeight - 1))
      (min bc.longTermBlockWeightsWindow (dbHeight - 1)) := by
  rw [longTermMedianBelowTop, if_neg h1]
  dsimp only
  split_ifs with h
  · congr 1 <;> omega
  · congr 1 <;> omega

theorem getLastNBlocksWeights_ok {count : ℕ} (hcount : 0 < count) :
    ∃ weights, bc.getLastNBlocksWeights count = .ok weights := by
  unfold getLastNBlocksWeights getBlockWeights getBlockInfo64bitFields
  split_ifs with h0 h
  · exact ⟨_, rfl⟩
  · exact absurd h (by omega)
  · exact ⟨_, rfl⟩

/-- The block with its long-term weight on top, the cache as it was. -/
@[simp] theorem blocks_pushBlock (id : Hash) (versions : BlockVersions)
    (blockWeight longTermBlockWeight : ℕ) :
    (bc.pushBlock id versions blockWeight longTermBlockWeight).blocks =
      bc.blocks ++ [⟨id, blockWeight, longTermBlockWeight, versions⟩] := by
  unfold pushBlock
  dsimp only
  split <;> rfl

theorem sameCache_pushBlock (id : Hash) (versions : BlockVersions)
    (blockWeight longTermBlockWeight : ℕ) :
    SameCache bc (bc.pushBlock id versions blockWeight longTermBlockWeight) := by
  unfold pushBlock
  dsimp only
  split <;> exact ⟨rfl, rfl, rfl⟩

/-- The branch from the fork on: the long-term weight recomputed for the top block joins the
cache of the window below the top, under the top block's hash. -/
theorem updateLongTermWeightLimit_spec (hv : bc.CacheValid) (hfresh : bc.HashesFresh)
    (hpos : 0 < bc.height)
    (htop : ∀ b, bc.blocks[bc.height - 1]? = some b → 1 < bc.height →
      b.longTermWeight = longTermBlockWeightOf b.weight (median (bc.longTermWindow (bc.height - 1)))) :
    ∃ bc', bc.updateLongTermWeightLimit = .ok bc' ∧ SameWindow bc bc' ∧ bc'.CacheValid ∧
      bc.TipFrom bc'.longTermBlockWeightsCacheTipHash := by
  obtain ⟨top, htop'⟩ := exists_getElem?_of_lt (show bc.height - 1 < bc.height by omega)
  unfold updateLongTermWeightLimit
  dsimp only
  rw [getBlockWeight, readBlock_of_getElem? htop', ok_bind]
  by_cases h1 : bc.height = 1
  · -- the genesis block: the median is the full reward zone and the cache is not touched
    obtain ⟨weights, hweights⟩ : ∃ weights,
        bc.getLastNBlocksWeights cryptonoteRewardBlocksWindow = .ok weights :=
      getLastNBlocksWeights_ok (by decide)
    rw [longTermMedianBelowTop, if_pos h1, pure_bind, insertTopLongTermWeight, if_pos h1,
      pure_bind, hweights, ok_bind]
    exact ⟨_, rfl, ⟨rfl, rfl⟩, hv.of_same ⟨rfl, rfl, rfl⟩ rfl, .inl rfl⟩
  · obtain ⟨tipHash, rm, hcall, hinv, hvalid, htip⟩ :=
      getLongTermBlockWeightMedian_spec hv hfresh (e := bc.height - 1) (by omega) (by omega)
    rw [longTermMedianBelowTop_eq h1 hpos, hcall, ok_bind, insertTopLongTermWeight, if_neg h1,
      getBlockHashFromHeight, readBlock_of_getElem?
        (show (bc.withCache tipHash rm).blocks[bc.height - 1]? = some top from htop'), ok_bind]
    dsimp only
    -- the weight recomputed for the top block is the stored one, so the cache slides up by it
    rw [← htop top htop' (by omega), pure_bind]
    dsimp only
    rw [rollingMedian_withCache]
    obtain ⟨hinv', hN⟩ := inv_insert_window hinv hvalid.N_eq hv.window_pos htop'
    rw [Nat.sub_add_cancel hpos] at hinv'
    have hvalid' := cacheValid_withCache hfresh hv.window_pos hpos hinv' hN
      (.inr ⟨top, htop', rfl⟩)
    obtain ⟨weights, hweights⟩ : ∃ weights,
        ((bc.withCache tipHash rm).withCache top.hash (rm.insert top.longTermWeight)).getLastNBlocksWeights
          cryptonoteRewardBlocksWindow = .ok weights :=
      getLastNBlocksWeights_ok (by decide)
    rw [hweights, ok_bind]
    exact ⟨_, rfl, ⟨rfl, rfl⟩, hvalid'.of_same ⟨rfl, rfl, rfl⟩ rfl,
      .inr (.inr ⟨top, List.mem_of_getElem? htop', rfl⟩)⟩

/-- **The insert of `update_next_cumulative_weight_limit` keeps the cache valid** when the
long-term weight it recomputes for the top block, with the hard-fork version of the moment, is
the one the database stores. -/
theorem updateNextCumulativeWeightLimit_cacheValid (hv : bc.CacheValid)
    (hfresh : bc.HashesFresh) (hpos : 0 < bc.height)
    (htop : ∀ b, bc.blocks[bc.height - 1]? = some b → 1 < bc.height →
      ¬bc.getCurrentHardForkVersion < hfVersionLongTermBlockWeight →
      b.longTermWeight = longTermBlockWeightOf b.weight (median (bc.longTermWindow (bc.height - 1)))) :
    ∃ bc', bc.updateNextCumulativeWeightLimit = .ok bc' ∧ SameWindow bc bc' ∧ bc'.CacheValid ∧
      bc.TipFrom bc'.longTermBlockWeightsCacheTipHash := by
  unfold updateNextCumulativeWeightLimit
  dsimp only
  split_ifs with hv8
  · -- before the fork the cache is not touched
    obtain ⟨weights, hweights⟩ : ∃ weights,
        bc.getLastNBlocksWeights cryptonoteRewardBlocksWindow = .ok weights :=
      getLastNBlocksWeights_ok (by decide)
    rw [hweights, ok_bind, pure_bind]
    exact ⟨_, rfl, ⟨rfl, rfl⟩, hv.of_same ⟨rfl, rfl, rfl⟩ rfl, .inl rfl⟩
  · obtain ⟨bc', hupd, hsame, hvalid, htip⟩ := updateLongTermWeightLimit_spec hv hfresh hpos
      fun b hb h1 => htop b hb h1 hv8
    rw [hupd, ok_bind]
    exact ⟨_, rfl, ⟨hsame.blocks_eq, hsame.window_eq⟩, hvalid.of_same ⟨rfl, rfl, rfl⟩ rfl, htip⟩

end Callers

/-! ## Runs -/

section Runs

variable {hf : HardFork} {window : ℕ} {used : List Hash} {bc' : Blockchain}

/-- The states a run of added and popped blocks reaches from the constructor, with the ids it
used: every block gets an id never used before and other than `null_hash`, and no block heavier
than the cap of the window below it joins while the long-term weights are off. -/
inductive Reachable (hf : HardFork) (window : ℕ) : List Hash → Blockchain → Prop
  | create : Reachable hf window [] (create hf window)
  | addBlock {used : List Hash} {bc bc' : Blockchain} {id : Hash} {versions : BlockVersions}
      {blockWeight : ℕ} : Reachable hf window used bc → id ∉ used → id ≠ nullHash →
      (bc.getCurrentHardForkVersion < hfVersionLongTermBlockWeight → 0 < bc.height →
        blockWeight ≤ shortTermConstraint
          (max cryptonoteBlockGrantedFullRewardZoneV5 (median (bc.longTermWindow bc.height)))) →
      bc.addBlock id versions blockWeight = .ok bc' → Reachable hf window (id :: used) bc'
  | popBlock {used : List Hash} {bc bc' : Blockchain} : Reachable hf window used bc →
      bc.popBlockFromBlockchain = .ok bc' → Reachable hf window used bc'

/-- What holds along every run: the cache is valid, block ids are fresh and come from the run,
and every long-term weight above the genesis block is the block's weight capped by the median of
the window below it, the weight `update_next_cumulative_weight_limit` recomputes. -/
structure WeightInv (used : List Hash) (bc : Blockchain) : Prop where
  cacheValid : bc.CacheValid
  hashesFresh : bc.HashesFresh
  hash_mem : ∀ b ∈ bc.blocks, b.hash ∈ used
  tipHash_mem : bc.longTermBlockWeightsCacheTipHash = nullHash ∨
    bc.longTermBlockWeightsCacheTipHash ∈ used
  capped : ∀ t b, bc.blocks[t]? = some b → 0 < t →
    b.longTermWeight = longTermBlockWeightOf b.weight (median (bc.longTermWindow t))

theorem WeightInv.create (hw : 0 < window) : WeightInv [] (Blockchain.create hf window) where
  cacheValid := ⟨hw, rfl, ⟨[], RollingMedian.Inv.clear _ hw, fun _ _ hb => by
    simp [Blockchain.create] at hb⟩⟩
  hashesFresh := ⟨List.nodup_nil, fun _ hb => by simp [Blockchain.create] at hb⟩
  hash_mem _ hb := by simp [Blockchain.create] at hb
  tipHash_mem := .inl rfl
  capped _ _ hb := by simp [Blockchain.create] at hb

/-- A call that only changed the cache, leaving a valid one under a tip hash it may leave. -/
theorem WeightInv.of_sameWindow (hinv : WeightInv used bc) (hsame : SameWindow bc bc')
    (hvalid : bc'.CacheValid) (htip : bc.TipFrom bc'.longTermBlockWeightsCacheTipHash) :
    WeightInv used bc' where
  cacheValid := hvalid
  hashesFresh := by rw [HashesFresh, hsame.blocks_eq]; exact hinv.hashesFresh
  hash_mem b hb := hinv.hash_mem b (hsame.blocks_eq ▸ hb)
  tipHash_mem := by
    rcases htip with h | h | ⟨b, hb, h⟩
    · exact h ▸ hinv.tipHash_mem
    · exact .inl h
    · exact .inr (h ▸ hinv.hash_mem b hb)
  capped t b hb ht := by
    rw [hsame.longTermWindow_eq]
    exact hinv.capped t b (hsame.blocks_eq ▸ hb) ht

/-- A prefix of the database, the cache as it was: what popping a block does. -/
theorem WeightInv.of_isPrefix (hinv : WeightInv used bc) (hsame : SameCache bc bc')
    (hwindow : bc'.longTermBlockWeightsWindow = bc.longTermBlockWeightsWindow)
    (hpre : bc'.blocks <+: bc.blocks) : WeightInv used bc' := by
  obtain ⟨old, hold⟩ := hpre
  -- a window below a kept block is the same in both databases
  have hwin : ∀ t, t ≤ bc'.blocks.length → bc'.longTermWindow t = bc.longTermWindow t := by
    intro t ht
    rw [longTermWindow, longTermWindow, ← hold, List.take_append_of_le_length ht, hwindow]
  refine ⟨hinv.cacheValid.of_blocks hsame hold.symm (List.append_nil _).symm
      (fun _ h => absurd h List.not_mem_nil), ⟨?_, ?_⟩, ?_, hsame.tipHash_eq ▸ hinv.tipHash_mem, ?_⟩
  · exact hinv.hashesFresh.1.sublist (by rw [← hold]; exact (List.prefix_append _ _).sublist.map _)
  · exact fun b hb => hinv.hashesFresh.2 b (hold ▸ List.mem_append_left _ hb)
  · exact fun b hb => hinv.hash_mem b (hold ▸ List.mem_append_left _ hb)
  · intro t b hb ht
    have hlt : t < bc'.blocks.length := (List.getElem?_eq_some_iff.1 hb).1
    rw [hwin t hlt.le]
    exact hinv.capped t b (by rw [← hold, List.getElem?_append_left hlt, hb]) ht

theorem longTermWindow_pushBlock {id : Hash} {versions : BlockVersions}
    {blockWeight longTermBlockWeight e : ℕ} (hle : e ≤ bc.height) :
    (bc.pushBlock id versions blockWeight longTermBlockWeight).longTermWindow e =
      bc.longTermWindow e := by
  rw [longTermWindow, longTermWindow, blocks_pushBlock, List.take_append_of_le_length hle,
    (sameCache_pushBlock id versions blockWeight longTermBlockWeight).window_eq]

/-- A block with a new id on top, its long-term weight capped by the median of the window below
it. -/
theorem WeightInv.pushBlock (hinv : WeightInv used bc) {id : Hash} (hid : id ∉ used)
    (hnull : id ≠ nullHash) {versions : BlockVersions} {blockWeight longTermBlockWeight : ℕ}
    (hcap : 0 < bc.height → longTermBlockWeight =
      longTermBlockWeightOf blockWeight (median (bc.longTermWindow bc.height))) :
    WeightInv (id :: used) (bc.pushBlock id versions blockWeight longTermBlockWeight) := by
  have hsame : SameCache bc (bc.pushBlock id versions blockWeight longTermBlockWeight) :=
    sameCache_pushBlock id versions blockWeight longTermBlockWeight
  -- the new id is neither the cache's tip hash nor the id of a block below
  have htip : id ≠ bc.longTermBlockWeightsCacheTipHash := by
    rintro rfl
    rcases hinv.tipHash_mem with h | h
    · exact hnull h
    · exact hid h
  have hnew : id ∉ bc.blocks.map (·.hash) := by
    rw [List.mem_map]
    rintro ⟨b, hb, rfl⟩
    exact hid (hinv.hash_mem b hb)
  refine ⟨hinv.cacheValid.of_blocks hsame (List.append_nil _).symm (blocks_pushBlock ..)
      (fun c hc => by rw [List.mem_singleton.1 hc]; exact htip), ⟨?_, ?_⟩, ?_, ?_, ?_⟩
  · rw [blocks_pushBlock, List.map_append]
    exact List.nodup_append.2 ⟨hinv.hashesFresh.1, List.nodup_singleton _,
      fun a ha b hb hab => hnew (by rw [List.mem_singleton.1 hb] at hab; subst hab; exact ha)⟩
  · intro b hb
    rw [blocks_pushBlock, List.mem_append, List.mem_singleton] at hb
    rcases hb with hb | rfl
    · exact hinv.hashesFresh.2 b hb
    · exact hnull
  · intro b hb
    rw [blocks_pushBlock, List.mem_append, List.mem_singleton] at hb
    rcases hb with hb | rfl
    · exact List.mem_cons_of_mem _ (hinv.hash_mem b hb)
    · exact List.mem_cons_self
  · rw [hsame.tipHash_eq]
    rcases hinv.tipHash_mem with h | h
    · exact .inl h
    · exact .inr (List.mem_cons_of_mem _ h)
  · intro t b hb ht
    rw [blocks_pushBlock] at hb
    by_cases hlt : t < bc.blocks.length
    · -- a block below: its window is unchanged
      rw [List.getElem?_append_left hlt] at hb
      rw [longTermWindow_pushBlock hlt.le]
      exact hinv.capped t b hb ht
    · -- the new block, at the old height
      rw [List.getElem?_append_right (by omega), List.getElem?_singleton] at hb
      have hto : t = bc.blocks.length := by
        by_contra hne
        rw [if_neg (by omega)] at hb
        exact absurd hb (by simp)
      rw [if_pos (by omega), Option.some_inj] at hb
      subst hb hto
      rw [longTermWindow_pushBlock (e := bc.blocks.length) le_rfl]
      exact hcap ht

/-- `update_next_cumulative_weight_limit` over a non-empty database. -/
theorem WeightInv.updateNext (hinv : WeightInv used bc) (hpos : 0 < bc.height)
    (hupd : bc.updateNextCumulativeWeightLimit = .ok bc') : WeightInv used bc' := by
  -- the top block's stored weight is the one recomputed, whatever the version
  obtain ⟨bc'', h, hsame, hvalid, htip⟩ := updateNextCumulativeWeightLimit_cacheValid
    hinv.cacheValid hinv.hashesFresh hpos fun b hb h1 _ => hinv.capped _ b hb (by omega)
  rw [h, Except.ok.injEq] at hupd
  subst hupd
  exact hinv.of_sameWindow hsame hvalid htip

/-- Adding a block with a new id, no heavier than the cap while the long-term weights are off. -/
theorem WeightInv.addBlock (hinv : WeightInv used bc) {id : Hash} (hid : id ∉ used)
    (hnull : id ≠ nullHash) {versions : BlockVersions} {blockWeight : ℕ}
    (hcap : bc.getCurrentHardForkVersion < hfVersionLongTermBlockWeight → 0 < bc.height →
      blockWeight ≤ shortTermConstraint
        (max cryptonoteBlockGrantedFullRewardZoneV5 (median (bc.longTermWindow bc.height))))
    (hadd : bc.addBlock id versions blockWeight = .ok bc') : WeightInv (id :: used) bc' := by
  unfold Blockchain.addBlock at hadd
  split_ifs at hadd
  by_cases hok : bc.getCurrentHardForkVersion < hfVersionLongTermBlockWeight ∨ 0 < bc.height
  · obtain ⟨tipHash, rm, hnext, hvalid, htip⟩ :=
      getNextLongTermBlockWeight_spec hinv.cacheValid hinv.hashesFresh hok blockWeight
    rw [hnext, ok_bind] at hadd
    -- the weight the block is stored with is its capped weight, before the fork too
    have hcapped : 0 < bc.height →
        (if bc.getCurrentHardForkVersion < hfVersionLongTermBlockWeight then blockWeight
          else longTermBlockWeightOf blockWeight (median (bc.longTermWindow bc.height))) =
        longTermBlockWeightOf blockWeight (median (bc.longTermWindow bc.height)) := by
      intro hpos
      split_ifs with hv8
      · exact (min_eq_left (hcap hv8 hpos)).symm
      · rfl
    have hcache : WeightInv used (bc.withCache tipHash rm) := hinv.of_sameWindow ⟨rfl, rfl⟩ hvalid htip
    have hpush : WeightInv (id :: used) ((bc.withCache tipHash rm).pushBlock id versions blockWeight _) :=
      hcache.pushBlock hid hnull hcapped
    refine hpush.updateNext ?_ hadd
    rw [height, blocks_pushBlock, List.length_append, List.length_singleton]
    omega
  · -- from the fork on the first block of an empty chain has no long-term weight
    obtain ⟨hv8, h0⟩ := not_or.1 hok
    rw [getNextLongTermBlockWeight_empty hv8 (by omega)] at hadd
    cases hadd

/-- Popping a block above the genesis block. -/
theorem WeightInv.popBlockFromBlockchain (hinv : WeightInv used bc)
    (hpop : bc.popBlockFromBlockchain = .ok bc') : WeightInv used bc' := by
  unfold Blockchain.popBlockFromBlockchain at hpop
  split_ifs at hpop with h1
  refine WeightInv.updateNext ?_ ?_ hpop
  · exact hinv.of_isPrefix ⟨rfl, rfl, rfl⟩ rfl (List.dropLast_prefix _)
  · have h1' : 1 < bc.blocks.length := h1
    simp only [height, List.length_dropLast]
    omega

/-- The invariant holds in every state of every run. -/
theorem Reachable.weightInv (hw : 0 < window) (hr : Reachable hf window used bc) :
    WeightInv used bc := by
  induction hr with
  | create => exact WeightInv.create hw
  | addBlock _ hid hnull hcap hadd ih => exact ih.addBlock hid hnull hcap hadd
  | popBlock _ hpop ih => exact ih.popBlockFromBlockchain hpop

/-- **Along every run the median is the database's.** In every state a run of added and popped
blocks reaches, under the conditions of `Reachable`, the call for the window below any height
answers the median of the long-term weights the database returns for that window. -/
theorem long_term_median_matches_database (hw : 0 < window) (hcap : window < 2 ^ 27)
    (hr : Reachable hf window used bc) {e : ℕ} (he : 0 < e) (hle : e ≤ bc.height) :
    RollingMedian.allocBytes window = window * RollingMedian.slotBytes ∧
      ∃ weights, bc.getLongTermBlockWeights (e - min bc.longTermBlockWeightsWindow e)
          (min bc.longTermBlockWeightsWindow e) = .ok weights ∧
        (bc.getLongTermBlockWeightMedian (e - min bc.longTermBlockWeightsWindow e)
          (min bc.longTermBlockWeightsWindow e)).map Prod.fst = .ok (median weights) := by
  have hinv := hr.weightInv hw
  obtain ⟨tipHash, rm, hcall, -⟩ :=
    getLongTermBlockWeightMedian_spec hinv.cacheValid hinv.hashesFresh he hle
  refine ⟨RollingMedian.allocBytes_of_lt hcap, _,
    getLongTermBlockWeights_window hinv.cacheValid.window_pos he hle, ?_⟩
  rw [hcall]
  rfl

/-- Three blocks of weights 100, 200 and 300 under a window of two, the third at the version
that turns the long-term weights on: the call for the window below height 3 answers the median
of the weights 200 and 300 of the last two blocks. -/
theorem long_term_median_matches_database_three_blocks :
    ∃ used bc, Reachable forkAtTwo 2 used bc ∧ bc.height = 3 ∧
      RollingMedian.allocBytes 2 = 2 * RollingMedian.slotBytes ∧
      ∃ weights, bc.getLongTermBlockWeights (3 - min bc.longTermBlockWeightsWindow 3)
          (min bc.longTermBlockWeightsWindow 3) = .ok weights ∧
        (bc.getLongTermBlockWeightMedian (3 - min bc.longTermBlockWeightsWindow 3)
          (min bc.longTermBlockWeightsWindow 3)).map Prod.fst = .ok (median weights) := by
  -- the states after each block, and the cap the second block has to respect
  have hrun : ((((Blockchain.create forkAtTwo 2).addBlock (Blob.ofList 32 [1]) ⟨7, 7⟩ 100 >>=
      fun bc => bc.addBlock (Blob.ofList 32 [2]) ⟨7, 7⟩ 200) >>=
      fun bc => bc.addBlock (Blob.ofList 32 [3]) ⟨8, 8⟩ 300).map Blockchain.height) = .ok 3 := by
    decide
  have hcap₂ : ((Blockchain.create forkAtTwo 2).addBlock (Blob.ofList 32 [1]) ⟨7, 7⟩ 100).map
      (fun bc => decide (200 ≤ shortTermConstraint (max cryptonoteBlockGrantedFullRewardZoneV5
        (median (bc.longTermWindow bc.height))))) = .ok true := by
    decide
  have hver₃ : (((Blockchain.create forkAtTwo 2).addBlock (Blob.ofList 32 [1]) ⟨7, 7⟩ 100 >>=
      fun bc => bc.addBlock (Blob.ofList 32 [2]) ⟨7, 7⟩ 200).map
        Blockchain.getCurrentHardForkVersion) = .ok hfVersionLongTermBlockWeight := by
    decide
  cases h₁ : (Blockchain.create forkAtTwo 2).addBlock (Blob.ofList 32 [1]) ⟨7, 7⟩ 100 with
  | error msg => rw [h₁] at hrun; cases hrun
  | ok bc₁ =>
  rw [h₁, ok_bind] at hrun hver₃
  rw [h₁] at hcap₂
  cases h₂ : bc₁.addBlock (Blob.ofList 32 [2]) ⟨7, 7⟩ 200 with
  | error msg => rw [h₂] at hrun; cases hrun
  | ok bc₂ =>
  rw [h₂, ok_bind] at hrun
  rw [h₂] at hver₃
  cases h₃ : bc₂.addBlock (Blob.ofList 32 [3]) ⟨8, 8⟩ 300 with
  | error msg => rw [h₃] at hrun; cases hrun
  | ok bc₃ =>
  rw [h₃] at hrun
  have hheight : bc₃.height = 3 := Except.ok.inj hrun
  have hle₂ : 200 ≤ shortTermConstraint (max cryptonoteBlockGrantedFullRewardZoneV5
      (median (bc₁.longTermWindow bc₁.height))) := of_decide_eq_true (Except.ok.inj hcap₂)
  have hv₂ : bc₂.getCurrentHardForkVersion = hfVersionLongTermBlockWeight := Except.ok.inj hver₃
  have hr : Reachable forkAtTwo 2 _ bc₃ :=
    .addBlock (.addBlock (.addBlock .create List.not_mem_nil (by decide)
        (fun _ h => absurd h (Nat.lt_irrefl 0)) h₁)
      (by decide) (by decide) (fun _ _ => hle₂) h₂)
      (by decide) (by decide) (fun h => absurd (hv₂ ▸ h) (Nat.lt_irrefl _)) h₃
  exact ⟨_, bc₃, hr, hheight,
    long_term_median_matches_database (by decide) (by decide) hr (by decide) hheight.ge⟩

end Runs



end Blockchain

end Bittube.CryptonoteCore
